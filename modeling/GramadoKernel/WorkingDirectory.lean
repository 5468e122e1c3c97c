import GramadoKernel.Creation
import GramadoKernel.Library.Runs
import GramadoKernel.Volume
import Mathlib.Data.List.GetD

namespace GramadoKernel

-- path.h and fs.h
def separator : UInt8 := 47
def workingdirectoryStringMax : Nat := 32

theorem separator_visible : separator ≠ 0 := by decide

-- The strings of the processes with the memory behind each, and the two globals: CWD and
-- current_target_dir.name.
structure Directories where
  kernel : Kernel
  cwdString : Nat → CString
  initialized : Bool
  path : Nat → UInt8
  target : Nat → UInt8

def Directories.setString (s : Directories) (pid : Nat) (string : CString) : Directories :=
  {s with cwdString := Function.update s.cwdString pid string}

-- strcat
def CString.concat (s t : CString) : CString where
  char := fun i => if i < s.strlen then s.char i else if i ≤ s.strlen+t.strlen then t.char (i-s.strlen) else s.char i
  strlen := s.strlen+t.strlen
  inside := by
    intro i small
    by_cases first : i < s.strlen
    · rw [if_pos first]
      exact s.inside i first
    · rw [if_neg first,if_pos (by omega)]
      exact t.inside _ (by omega)
  ended := by
    rw [if_neg (by omega),if_pos (Nat.le_refl _),Nat.add_sub_cancel_left]
    exact t.ended

def separatorString : CString where
  char := fun i => if i = 0 then separator else 0
  strlen := 1
  inside := by
    intro i small
    obtain rfl : i = 0 := Nat.lt_one_iff.mp small
    exact separator_visible
  ended := rfl

-- A NUL is stored in the memory of a string.
def CString.terminate (s : CString) (place : Nat) : CString where
  char := Function.update s.char place 0
  strlen := min place s.strlen
  inside := by
    intro i small
    rw [Function.update_of_ne (by omega)]
    exact s.inside i (by omega)
  ended := by
    by_cases before : place ≤ s.strlen
    · rw [Nat.min_eq_left before,Function.update_self]
    · rw [Nat.min_eq_right (by omega),Function.update_of_ne (by omega)]
      exact s.ended

-- The 32 bytes that fs_initialize_process_cwd copies, the last of them cleared.
def CString.initialized (old string : CString) : CString where
  char := fun i => if i < workingdirectoryStringMax-1 then string.char i else if i = workingdirectoryStringMax-1 then 0 else old.char i
  strlen := min string.strlen (workingdirectoryStringMax-1)
  inside := by
    intro i small
    rw [if_pos (by omega)]
    exact string.inside i (by omega)
  ended := by
    by_cases short : string.strlen < workingdirectoryStringMax-1
    · rw [Nat.min_eq_left (by omega),if_pos short]
      exact string.ended
    · rw [Nat.min_eq_right (by omega),if_neg (Nat.lt_irrefl _),if_pos rfl]

-- The process, or a panic with the given texts.
def checkedProcess (k : Kernel) (pid : Int) (missing invalid : String) : Except Halt Process := do
  let process ← pointer (k.processList pid.toNat) (.panic missing)
  require (process.used = true ∧ process.magic = 1234) (.panic invalid)
  .ok process

def fsInitializeProcessCwd (pid : Int) (string : Option CString) (s : Directories) : Except Halt (Int × Directories) :=
  if pid < 0 ∨ (processCountMax : Int) ≤ pid then .ok (1,s)
  else do
    let string ← pointer string (.panic "fs_initialize_process_cwd: string\n")
    require (string.char 0 ≠ 0) (.panic "fs_initialize_process_cwd: *string\n")
    let _ ← checkedProcess s.kernel pid "fs_initialize_process_cwd: p\n" "fs_initialize_process_cwd: validation\n"
    .ok (0,s.setString pid.toNat ((s.cwdString pid.toNat).initialized string))

-- The loops that copy the string to CWD.path.
def copiedPath (string old : Nat → UInt8) (i : Nat) : UInt8 := if i < 32 then string i else old i

-- The name in current_target_dir: 11 bytes and a NUL.
def targetName (name old : Nat → UInt8) (i : Nat) : UInt8 := if i < 11 then name i else if i = 11 then 0 else old i

def CString.appended (string name : CString) : CString := (string.concat name).concat separatorString

def Directories.updated (s : Directories) (pid : Nat) (name : CString) : Directories :=
  let string := (s.cwdString pid).appended name
  {s.setString pid string with
    path := Function.update (copiedPath string.char s.path) 31 0
    target := targetName name.char s.target}

def fsUpdateWorkingDiretoryString (string : Option CString) (s : Directories) : Except Halt Directories :=
  if s.initialized = false then .ok s
  else
    match string with
    | none => .ok s
    | some name =>
        if name.char 0 = 0 then .ok s
        else do
          require (¬ (s.kernel.currentPid < 0 ∨ (processCountMax : Int) ≤ s.kernel.currentPid))
            (.panic "fsUpdateWorkingDiretoryString: current_process\n")
          let _ ← checkedProcess s.kernel s.kernel.currentPid "fsUpdateWorkingDiretoryString: p\n"
            "fsUpdateWorkingDiretoryString: p validation\n"
          .ok (s.updated s.kernel.currentPid.toNat name)

-- while (...){ s--; } over the places of a string. There is no result where it leaves the
-- string at its start.
def scanBack (goesOn : Nat → Bool) : Nat → Option Nat
  | 0 => if goesOn 0 = true then none else some 0
  | s+1 => if goesOn (s+1) = true then scanBack goesOn s else some (s+1)

-- The two scans of fs_pathname_backup.
def skipSeparators (char : Nat → UInt8) (s : Nat) : Option Nat := scanBack (fun i => char i = separator) s
def skipName (char : Nat → UInt8) (s : Nat) : Option Nat := scanBack (fun i => char i ≠ separator) s

-- while (n--)
def backupLoop : Nat → CString → Nat → Option CString
  | 0,string,_ => some string
  | n+1,string,s => do
      let s ← skipSeparators string.char s
      let s ← skipName string.char s
      backupLoop n (string.terminate (s+1)) (s+1)

def Directories.backedUp (s : Directories) (pid : Nat) (string : CString) : Directories :=
  {s.setString pid string with
    path := copiedPath string.char s.path
    target := fun i => if i < 11 then 0 else s.target i}

-- `none` where the scans read before the string.
def fsPathnameBackup (pid n : Int) (s : Directories) : Except Halt (Option Directories) :=
  if s.initialized = false then .ok (some s)
  else if pid < 0 ∨ (processCountMax : Int) ≤ pid then .ok (some s)
  else if n ≤ 0 then .ok (some s)
  else do
    let _ ← checkedProcess s.kernel pid "fsUpdateWorkingDiretoryString: p\n" "fsUpdateWorkingDiretoryString: validation\n"
    let string := s.cwdString pid.toNat
    let last := if string.char 0 ≠ 0 then string.strlen-1 else string.strlen
    .ok ((backupLoop n.toNat string last).map (s.backedUp pid.toNat))

def singleBackups (pid : Int) : Nat → Directories → Except Halt (Option Directories)
  | 0,s => .ok (some s)
  | n+1,s => do
      match ← fsPathnameBackup pid 1 s with
      | none => .ok none
      | some t => singleBackups pid n t

-- A path in its 32 bytes that starts and ends with the separator.
structure CString.Directory (string : CString) : Prop where
  short : string.strlen ≤ 31
  some : 1 ≤ string.strlen
  first : string.char 0 = separator
  last : string.char (string.strlen-1) = separator

-- A string with a name in it, so not a root.
def CString.Named (string : CString) : Prop := ∃ i < string.strlen, string.char i ≠ separator

-- A name as the cd command gives it.
structure DirectoryName where
  string : CString
  some : 1 ≤ string.strlen
  plain : ∀ i < string.strlen, string.char i ≠ separator

section Scans

theorem scanBack_some {goesOn : Nat → Bool} {s k : Nat} :
    scanBack goesOn s = some k ↔ k ≤ s ∧ goesOn k = false ∧ ∀ i, k < i → i ≤ s → goesOn i = true := by
  induction s with
  | zero =>
      unfold scanBack
      cases here : goesOn 0 with
      | true =>
          constructor
          · intro found
            cases found
          · rintro ⟨low,stops,_⟩
            obtain rfl : k = 0 := by omega
            rw [here] at stops
            cases stops
      | false =>
          constructor
          · intro found
            cases found
            exact ⟨Nat.le_refl 0,here,fun i above below => by omega⟩
          · rintro ⟨low,_⟩
            obtain rfl : k = 0 := by omega
            rfl
  | succ s ih =>
      unfold scanBack
      cases here : goesOn (s+1) with
      | true =>
          rw [if_pos rfl,ih]
          constructor
          · rintro ⟨low,stops,all⟩
            refine ⟨by omega,stops,fun i above below => ?_⟩
            by_cases top : i = s+1
            · rw [top]
              exact here
            · exact all i above (by omega)
          · rintro ⟨low,stops,all⟩
            have other : k ≠ s+1 := by
              rintro rfl
              rw [here] at stops
              cases stops
            exact ⟨by omega,stops,fun i above below => all i above (by omega)⟩
      | false =>
          rw [if_neg Bool.false_ne_true]
          constructor
          · intro found
            cases found
            exact ⟨Nat.le_refl _,here,fun i above below => by omega⟩
          · rintro ⟨low,stops,all⟩
            by_cases top : k = s+1
            · rw [top]
            · have on := all (s+1) (by omega) (Nat.le_refl _)
              rw [here] at on
              cases on

theorem scanBack_none {goesOn : Nat → Bool} {s : Nat} : scanBack goesOn s = none ↔ ∀ i ≤ s, goesOn i = true := by
  induction s with
  | zero =>
      unfold scanBack
      simp
  | succ s ih =>
      unfold scanBack
      cases here : goesOn (s+1) with
      | true =>
          rw [if_pos rfl,ih]
          constructor
          · intro all i below
            by_cases top : i = s+1
            · rw [top]
              exact here
            · exact all i (by omega)
          · intro all i below
            exact all i (by omega)
      | false =>
          rw [if_neg Bool.false_ne_true]
          constructor
          · intro found
            cases found
          · intro all
            have on := all (s+1) (Nat.le_refl _)
            rw [here] at on
            cases on

theorem skipSeparators_some {char : Nat → UInt8} {s k : Nat} :
    skipSeparators char s = some k ↔ k ≤ s ∧ char k ≠ separator ∧ ∀ i, k < i → i ≤ s → char i = separator := by
  simp [skipSeparators,scanBack_some]

theorem skipName_some {char : Nat → UInt8} {s k : Nat} :
    skipName char s = some k ↔ k ≤ s ∧ char k = separator ∧ ∀ i, k < i → i ≤ s → char i ≠ separator := by
  simp [skipName,scanBack_some]

theorem skipSeparators_none {char : Nat → UInt8} {s : Nat} : skipSeparators char s = none ↔ ∀ i ≤ s, char i = separator := by
  simp [skipSeparators,scanBack_none]

theorem skipName_none {char : Nat → UInt8} {s : Nat} : skipName char s = none ↔ ∀ i ≤ s, char i ≠ separator := by
  simp [skipName,scanBack_none]

end Scans

-- The string up to a separator in it.
structure CString.UpTo (string shorter : CString) (k : Nat) : Prop where
  below : k < string.strlen
  ends : string.char k = separator
  length : shorter.strlen = k+1
  same : ∀ i < k+1, shorter.char i = string.char i

theorem CString.terminate_upTo {string : CString} {k : Nat} (below : k < string.strlen) (ends : string.char k = separator) :
    string.UpTo (string.terminate (k+1)) k :=
  ⟨below,ends,Nat.min_eq_left below,fun i small => Function.update_of_ne (by omega) _ _⟩

theorem CString.UpTo.directory {string shorter : CString} {k : Nat} (directory : string.Directory) (upTo : string.UpTo shorter k) : shorter.Directory := by
  have short := directory.short
  have below := upTo.below
  refine ⟨?_,?_,?_,?_⟩
  · rw [upTo.length]
    omega
  · rw [upTo.length]
    omega
  · rw [upTo.same 0 (by omega)]
    exact directory.first
  · rw [upTo.length,Nat.add_sub_cancel,upTo.same k (Nat.lt_succ_self k)]
    exact upTo.ends

-- Going on behind the end of the string does nothing.
theorem backupLoop_idle (n : Nat) {string : CString} (directory : string.Directory) :
    ∃ later, backupLoop n string string.strlen = some later ∧ string.UpTo later (string.strlen-1) := by
  have some := directory.some
  induction n generalizing string with
  | zero =>
      refine ⟨string,rfl,by omega,directory.last,by omega,fun _ _ => rfl⟩
  | succ n ih =>
      have here : skipSeparators string.char string.strlen = Option.some string.strlen := by
        refine skipSeparators_some.mpr ⟨Nat.le_refl _,?_,fun i above below => by omega⟩
        rw [string.ended]
        exact separator_visible.symm
      have back : skipName string.char string.strlen = Option.some (string.strlen-1) := by
        refine skipName_some.mpr ⟨by omega,directory.last,fun i above below => ?_⟩
        obtain rfl : i = string.strlen := by omega
        rw [string.ended]
        exact separator_visible.symm
      have upTo := CString.terminate_upTo (show string.strlen-1 < string.strlen by omega) directory.last
      have length : (string.terminate (string.strlen-1+1)).strlen = string.strlen-1+1 := upTo.length
      obtain ⟨later,rest,final⟩ := ih (upTo.directory directory) (by omega)
      refine ⟨later,?_,by omega,directory.last,?_,fun i small => ?_⟩
      · rw [length] at rest
        simp only [backupLoop,here,back,Option.bind_eq_bind,Option.bind_some]
        exact rest
      · rw [final.length,length]
        rfl
      · rw [final.same i (by omega),upTo.same i small]

-- One round takes the last name off, or leaves the string at its start.
theorem backupLoop_named {string : CString} (directory : string.Directory) (named : string.Named) :
    ∃ k later, string.UpTo later k ∧ k+1 < string.strlen ∧ ∀ n, backupLoop (n+1) string (string.strlen-1) = backupLoop n later (k+1) := by
  have some := directory.some
  cases first : skipSeparators string.char (string.strlen-1) with
  | none =>
      obtain ⟨i,small,name⟩ := named
      exact absurd (skipSeparators_none.mp first i (by omega)) name
  | some j =>
      obtain ⟨low,name,_⟩ := skipSeparators_some.mp first
      cases second : skipName string.char j with
      | none => exact absurd directory.first (skipName_none.mp second 0 (Nat.zero_le j))
      | some k =>
          obtain ⟨lower,ends,_⟩ := skipName_some.mp second
          have apart : k ≠ j := fun same => name (same ▸ ends)
          refine ⟨k,string.terminate (k+1),CString.terminate_upTo (by omega) ends,by omega,fun n => ?_⟩
          simp only [backupLoop,first,second,Option.bind_eq_bind,Option.bind_some]

theorem backupLoop_root {string : CString} (directory : string.Directory) (root : ¬ string.Named) (n : Nat) :
    backupLoop (n+1) string (string.strlen-1) = none := by
  have some := directory.some
  have all : skipSeparators string.char (string.strlen-1) = none := by
    refine skipSeparators_none.mpr fun i below => ?_
    by_contra name
    exact root ⟨i,by omega,name⟩
  simp only [backupLoop,all,Option.bind_eq_bind,Option.bind_none]

-- The process at a slot of processList, which is the current one.
structure Directories.Owned (s : Directories) (pid : Nat) : Prop where
  small : pid < processCountMax
  current : s.kernel.currentPid = pid
  process : ∃ process, s.kernel.processList pid = some process ∧ process.used = true ∧ process.magic = 1234

theorem checkedProcess_owned {s : Directories} {pid : Nat} (owned : s.Owned pid) (missing invalid : String) :
    ∃ process, checkedProcess s.kernel pid missing invalid = .ok process := by
  obtain ⟨process,here,valid⟩ := owned.process
  have slot : s.kernel.processList (pid : Int).toNat = some process := here
  exact ⟨process,bind_ok.mpr ⟨process,pointer_ok.mpr slot,bind_ok.mpr ⟨(),require_ok.mpr valid,rfl⟩⟩⟩

theorem backup_eq {s : Directories} {pid : Nat} {n : Int} (owned : s.Owned pid) (directory : (s.cwdString pid).Directory)
    (initialized : s.initialized = true) (positive : 0 < n) :
    fsPathnameBackup pid n s = .ok ((backupLoop n.toNat (s.cwdString pid) ((s.cwdString pid).strlen-1)).map (s.backedUp pid)) := by
  have small := owned.small
  have range : ¬ ((pid : Int) < 0 ∨ (processCountMax : Int) ≤ pid) := by omega
  have full : (s.cwdString pid).char 0 ≠ 0 := (s.cwdString pid).inside 0 directory.some
  have counts : ¬ n ≤ 0 := by omega
  obtain ⟨process,checked⟩ := checkedProcess_owned owned "fsUpdateWorkingDiretoryString: p\n" "fsUpdateWorkingDiretoryString: validation\n"
  unfold fsPathnameBackup
  rw [if_neg (by rw [initialized]; decide),if_neg range,if_neg counts,checked]
  simp only [Int.toNat_natCast,if_pos full]
  rfl

theorem update_eq {s : Directories} {pid : Nat} (owned : s.Owned pid) (initialized : s.initialized = true) (name : DirectoryName) :
    fsUpdateWorkingDiretoryString (some name.string) s = .ok (s.updated pid name.string) := by
  have small := owned.small
  have current := owned.current
  have range : ¬ (s.kernel.currentPid < 0 ∨ (processCountMax : Int) ≤ s.kernel.currentPid) := by omega
  have full : ¬ name.string.char 0 = 0 := name.string.inside 0 name.some
  obtain ⟨process,checked⟩ := checkedProcess_owned owned "fsUpdateWorkingDiretoryString: p\n" "fsUpdateWorkingDiretoryString: p validation\n"
  unfold fsUpdateWorkingDiretoryString
  rw [if_neg (by rw [initialized]; decide)]
  simp only [if_neg full]
  refine bind_ok.mpr ⟨(),require_ok.mpr range,?_⟩
  rw [current,checked]
  rfl

theorem updated_string (s : Directories) (pid : Nat) (name : CString) : (s.updated pid name).cwdString pid = (s.cwdString pid).appended name :=
  Function.update_self _ _ _

theorem backedUp_string (s : Directories) (pid : Nat) (string : CString) : (s.backedUp pid string).cwdString pid = string :=
  Function.update_self _ _ _

section Appended

variable (string name : CString)

theorem appended_strlen : (string.appended name).strlen = string.strlen+name.strlen+1 := rfl

theorem appended_old {i : Nat} (old : i < string.strlen) : (string.appended name).char i = string.char i := by
  simp [CString.appended,CString.concat,old,show i < string.strlen+name.strlen by omega]

theorem appended_name {i : Nat} (small : i < name.strlen) : (string.appended name).char (string.strlen+i) = name.char i := by
  simp [CString.appended,CString.concat,small,Nat.le_of_lt small]

theorem appended_last : (string.appended name).char (string.strlen+name.strlen) = separator := by
  simp [CString.appended,CString.concat,separatorString]

end Appended

theorem appended_directory {string : CString} (directory : string.Directory) (name : CString) :
    (string.appended name).Directory ↔ string.strlen+name.strlen+1 ≤ 31 := by
  have some := directory.some
  constructor
  · intro after
    exact after.short
  · intro short
    refine ⟨short,?_,?_,?_⟩
    · rw [appended_strlen]
      omega
    · rw [appended_old _ _ (by omega)]
      exact directory.first
    · rw [appended_strlen,Nat.add_sub_cancel]
      exact appended_last _ _

-- A backup takes the name off again that was appended.
theorem appended_backup {string : CString} (directory : string.Directory) (name : DirectoryName) :
    ∃ later, backupLoop 1 (string.appended name.string) ((string.appended name.string).strlen-1) = some later ∧
      (string.appended name.string).UpTo later (string.strlen-1) := by
  have some := directory.some
  have length := name.some
  have characters : ∀ i, string.strlen ≤ i → i < string.strlen+name.string.strlen → (string.appended name.string).char i ≠ separator := by
    intro i low high
    have place := appended_name string name.string (show i-string.strlen < name.string.strlen by omega)
    rw [show string.strlen+(i-string.strlen) = i by omega] at place
    rw [place]
    exact name.plain _ (by omega)
  have first : skipSeparators (string.appended name.string).char (string.strlen+name.string.strlen) =
      Option.some (string.strlen+name.string.strlen-1) := by
    refine skipSeparators_some.mpr ⟨by omega,characters _ (by omega) (by omega),fun i above below => ?_⟩
    obtain rfl : i = string.strlen+name.string.strlen := by omega
    exact appended_last _ _
  have ends : (string.appended name.string).char (string.strlen-1) = separator := by
    rw [appended_old _ _ (by omega)]
    exact directory.last
  have second : skipName (string.appended name.string).char (string.strlen+name.string.strlen-1) = Option.some (string.strlen-1) :=
    skipName_some.mpr ⟨by omega,ends,fun i above below => characters i (by omega) (by omega)⟩
  refine ⟨(string.appended name.string).terminate (string.strlen-1+1),?_,CString.terminate_upTo (by rw [appended_strlen]; omega) ends⟩
  rw [appended_strlen,Nat.add_sub_cancel]
  simp only [backupLoop,first,second,Option.bind_eq_bind,Option.bind_some]

inductive DirectoryCall where
  | update (name : DirectoryName)
  | backup (n : Int)

def DirectoryCall.on (pid : Nat) (s : Directories) : DirectoryCall → Except Halt (Option Directories)
  | .update name => do
      let t ← fsUpdateWorkingDiretoryString (some name.string) s
      .ok (some t)
  | .backup n => fsPathnameBackup pid n s

def SameString (a b : CString) : Prop := a.strlen = b.strlen ∧ ∀ i < a.strlen, a.char i = b.char i

-- What a call has to do. The string stays a directory in its 32 bytes; a backup undoes an
-- update; n of them are n times one; a root stays; and no scan leaves the string.
def UpdateLaws (pid : Nat) (s : Directories) (name : DirectoryName) : Prop :=
  ∃ t, fsUpdateWorkingDiretoryString (some name.string) s = .ok t ∧ (t.cwdString pid).Directory ∧
    ∃ u, fsPathnameBackup pid 1 t = .ok (some u) ∧ SameString (u.cwdString pid) (s.cwdString pid)

def BackupLaws (pid : Nat) (s : Directories) (n : Int) : Prop :=
  ∃ t, fsPathnameBackup pid n s = .ok (some t) ∧ (t.cwdString pid).Directory ∧ singleBackups pid n.toNat s = .ok (some t) ∧
    (¬ (s.cwdString pid).Named → SameString (t.cwdString pid) (s.cwdString pid))

def DirectoryCall.Laws (pid : Nat) (s : Directories) : DirectoryCall → Prop
  | .update name => UpdateLaws pid s name
  | .backup n => BackupLaws pid s n

-- When it does.
def UpdateFits (pid : Nat) (s : Directories) (name : DirectoryName) : Prop :=
  s.initialized = true → (s.cwdString pid).strlen+name.string.strlen+1 ≤ 31

def BackupSingle (pid : Nat) (s : Directories) (n : Int) : Prop := s.initialized = true → n ≤ 0 ∨ n = 1 ∧ (s.cwdString pid).Named

def DirectoryCall.Meets (pid : Nat) (s : Directories) : DirectoryCall → Prop
  | .update name => UpdateFits pid s name
  | .backup n => BackupSingle pid s n

theorem sameString_refl (a : CString) : SameString a a := ⟨rfl,fun _ _ => rfl⟩

theorem update_uninitialized {s : Directories} (idle : s.initialized = false) (string : Option CString) :
    fsUpdateWorkingDiretoryString string s = .ok s := if_pos idle

theorem backup_uninitialized {s : Directories} (idle : s.initialized = false) (pid n : Int) : fsPathnameBackup pid n s = .ok (some s) :=
  if_pos idle

theorem singleBackups_uninitialized {s : Directories} (idle : s.initialized = false) (pid : Int) (n : Nat) :
    singleBackups pid n s = .ok (some s) := by
  induction n with
  | zero => rfl
  | succ n ih =>
      unfold singleBackups
      rw [backup_uninitialized idle]
      exact ih

theorem update_laws {s : Directories} {pid : Nat} (owned : s.Owned pid) (directory : (s.cwdString pid).Directory) (name : DirectoryName) :
    UpdateLaws pid s name ↔ UpdateFits pid s name := by
  have some := directory.some
  unfold UpdateLaws UpdateFits
  cases initialized : s.initialized with
  | false =>
      rw [update_uninitialized initialized]
      constructor
      · intro _ never
        cases never
      · intro _
        exact ⟨s,rfl,directory,s,backup_uninitialized initialized _ _,sameString_refl _⟩
  | true =>
      rw [update_eq owned initialized name]
      constructor
      · rintro ⟨t,done,after,_⟩ _
        cases done
        rw [updated_string,appended_directory directory] at after
        exact after
      · intro short
        have after : ((s.updated pid name.string).cwdString pid).Directory := by
          rw [updated_string,appended_directory directory]
          exact short rfl
        have still : (s.updated pid name.string).Owned pid := ⟨owned.small,owned.current,owned.process⟩
        obtain ⟨later,back,upTo⟩ := appended_backup directory name
        refine ⟨_,rfl,after,(s.updated pid name.string).backedUp pid later,?_,?_⟩
        · rw [backup_eq still after initialized (by decide),updated_string]
          exact congrArg Except.ok (congrArg (Option.map _) back)
        · rw [backedUp_string]
          have length := upTo.length
          refine ⟨by omega,fun i small => ?_⟩
          rw [upTo.same i (by omega)]
          exact appended_old _ _ (by omega)

-- What one backup under a name leaves.
structure Shortened (pid : Nat) (s t : Directories) : Prop where
  owned : t.Owned pid
  initialized : t.initialized = true
  directory : (t.cwdString pid).Directory
  shorter : (t.cwdString pid).strlen < (s.cwdString pid).strlen

-- Any number of backups at once takes one name off.
theorem backup_named {s : Directories} {pid : Nat} (owned : s.Owned pid) (directory : (s.cwdString pid).Directory)
    (initialized : s.initialized = true) (named : (s.cwdString pid).Named) : ∃ t, fsPathnameBackup pid 1 s = .ok (some t) ∧ Shortened pid s t ∧
      ∀ n : Int, 0 < n → ∃ u, fsPathnameBackup pid n s = .ok (some u) ∧ (u.cwdString pid).strlen = (t.cwdString pid).strlen := by
  obtain ⟨k,later,upTo,below,rounds⟩ := backupLoop_named directory named
  have length := upTo.length
  have after := upTo.directory directory
  have many : ∀ n : Int, 0 < n → ∃ final, fsPathnameBackup pid n s = .ok (some (s.backedUp pid final)) ∧ final.strlen = k+1 := by
    intro n positive
    obtain ⟨m,rfl⟩ : ∃ m : Nat, n = (m+1 : Nat) := ⟨n.toNat-1,by omega⟩
    obtain ⟨final,idle,rest⟩ := backupLoop_idle m after
    have same := rest.length
    refine ⟨final,?_,by omega⟩
    rw [backup_eq owned directory initialized positive,Int.toNat_natCast,rounds,← length,idle]
    rfl
  have one : fsPathnameBackup pid 1 s = .ok (some (s.backedUp pid later)) := by
    rw [backup_eq owned directory initialized (by decide)]
    exact congrArg Except.ok (congrArg (Option.map _) (rounds 0))
  refine ⟨_,one,⟨⟨owned.small,owned.current,owned.process⟩,initialized,?_,?_⟩,fun n positive => ?_⟩
  · rw [backedUp_string]
    exact after
  · rw [backedUp_string]
    omega
  · obtain ⟨final,done,same⟩ := many n positive
    refine ⟨_,done,?_⟩
    rw [backedUp_string,backedUp_string,same,length]

theorem backup_root {s : Directories} {pid : Nat} {n : Int} (owned : s.Owned pid) (directory : (s.cwdString pid).Directory)
    (initialized : s.initialized = true) (root : ¬ (s.cwdString pid).Named) (positive : 0 < n) : fsPathnameBackup pid n s = .ok none := by
  obtain ⟨m,rfl⟩ : ∃ m : Nat, n = (m+1 : Nat) := ⟨n.toNat-1,by omega⟩
  rw [backup_eq owned directory initialized positive,Int.toNat_natCast,backupLoop_root directory root]
  rfl

-- Backups one after the other get shorter and shorter.
theorem singleBackups_shorter {s t : Directories} {pid n : Nat} (owned : s.Owned pid) (directory : (s.cwdString pid).Directory)
    (initialized : s.initialized = true) (done : singleBackups pid (n+1) s = .ok (some t)) :
    (t.cwdString pid).strlen < (s.cwdString pid).strlen := by
  induction n generalizing s with
  | zero =>
      by_cases named : (s.cwdString pid).Named
      · obtain ⟨u,one,shortened,_⟩ := backup_named owned directory initialized named
        rw [singleBackups,one] at done
        cases done
        exact shortened.shorter
      · rw [singleBackups,backup_root owned directory initialized named (by decide)] at done
        cases done
  | succ n ih =>
      by_cases named : (s.cwdString pid).Named
      · obtain ⟨u,one,shortened,_⟩ := backup_named owned directory initialized named
        rw [singleBackups,one] at done
        have later := ih shortened.owned shortened.directory shortened.initialized done
        have first := shortened.shorter
        omega
      · rw [singleBackups,backup_root owned directory initialized named (by decide)] at done
        cases done

theorem backup_laws {s : Directories} {pid : Nat} (owned : s.Owned pid) (directory : (s.cwdString pid).Directory) (n : Int) :
    BackupLaws pid s n ↔ BackupSingle pid s n := by
  unfold BackupLaws BackupSingle
  cases initialized : s.initialized with
  | false =>
      constructor
      · intro _ never
        cases never
      · intro _
        exact ⟨s,backup_uninitialized initialized _ _,directory,singleBackups_uninitialized initialized _ _,fun _ => sameString_refl _⟩
  | true =>
      by_cases counts : n ≤ 0
      · have small : pid < processCountMax := owned.small
        have nothing : fsPathnameBackup pid n s = .ok (some s) := by
          unfold fsPathnameBackup
          rw [if_neg (by rw [initialized]; decide),if_neg (by omega),if_pos counts]
        have none : n.toNat = 0 := by omega
        rw [nothing,none]
        exact ⟨fun _ _ => .inl counts,fun _ => ⟨s,rfl,directory,rfl,fun _ => sameString_refl _⟩⟩
      · have positive : 0 < n := by omega
        by_cases named : (s.cwdString pid).Named
        · obtain ⟨t,one,shortened,many⟩ := backup_named owned directory initialized named
          constructor
          · rintro ⟨u,done,_,singles,_⟩ _
            refine .inr ⟨?_,named⟩
            by_contra several
            -- the single backups after the first go on
            obtain ⟨m,count⟩ : ∃ m, n.toNat = m+1+1 := ⟨n.toNat-2,by omega⟩
            rw [count,singleBackups,one] at singles
            have shorter := singleBackups_shorter shortened.owned shortened.directory shortened.initialized singles
            obtain ⟨u',again,same⟩ := many n positive
            cases done.symm.trans again
            omega
          · intro single
            obtain ⟨rfl,_⟩ := (single rfl).resolve_left counts
            have singles : singleBackups pid (1 : Int).toNat s = .ok (some t) := by
              show singleBackups pid (0+1) s = _
              rw [singleBackups,one]
              rfl
            exact ⟨t,one,shortened.directory,singles,fun root => absurd named root⟩
        · rw [backup_root owned directory initialized named positive]
          constructor
          · rintro ⟨t,never,_⟩
            cases never
          · intro single
            exact absurd ((single rfl).resolve_left counts).2 named

theorem call_laws {s : Directories} {pid : Nat} (owned : s.Owned pid) (directory : (s.cwdString pid).Directory) (call : DirectoryCall) :
    call.Laws pid s ↔ call.Meets pid s := by
  cases call with
  | update name => exact update_laws owned directory name
  | backup n => exact backup_laws owned directory n

structure InDirectory (pid : Nat) (s : Directories) : Prop where
  owned : s.Owned pid
  directory : (s.cwdString pid).Directory

theorem backup_kernel {s t : Directories} {pid n : Int} (done : fsPathnameBackup pid n s = .ok (some t)) : t.kernel = s.kernel := by
  unfold fsPathnameBackup at done
  split at done
  · cases done
    rfl
  split at done
  · cases done
    rfl
  split at done
  · cases done
    rfl
  · simp only [bind_ok,Except.ok.injEq,Option.map_eq_some_iff] at done
    obtain ⟨_,_,_,_,rfl⟩ := done
    rfl

theorem update_kernel {s t : Directories} {string : Option CString} (done : fsUpdateWorkingDiretoryString string s = .ok t) :
    t.kernel = s.kernel := by
  unfold fsUpdateWorkingDiretoryString at done
  split at done
  · cases done
    rfl
  split at done
  · cases done
    rfl
  split at done
  · cases done
    rfl
  · simp only [bind_ok,Except.ok.injEq] at done
    obtain ⟨_,_,_,_,rfl⟩ := done
    rfl

theorem InDirectory.turn {s t : Directories} {pid : Nat} {call : DirectoryCall} (inside : InDirectory pid s) (meets : call.Meets pid s)
    (done : call.on pid s = .ok (some t)) : InDirectory pid t := by
  have laws := (call_laws inside.owned inside.directory call).mpr meets
  have owned := inside.owned
  cases call with
  | update name =>
      simp only [DirectoryCall.on,bind_ok,Except.ok.injEq,Option.some.injEq] at done
      obtain ⟨t,done,rfl⟩ := done
      obtain ⟨u,again,directory,_⟩ := laws
      cases done.symm.trans again
      have kernel := update_kernel done
      exact ⟨⟨owned.small,by rw [kernel]; exact owned.current,by rw [kernel]; exact owned.process⟩,directory⟩
  | backup n =>
      obtain ⟨u,again,directory,_⟩ := laws
      cases done.symm.trans again
      have kernel := backup_kernel done
      exact ⟨⟨owned.small,by rw [kernel]; exact owned.current,by rw [kernel]; exact owned.process⟩,directory⟩

theorem initialized_directory {old path : CString} (first : path.char 0 = separator) (last : path.char (path.strlen-1) = separator) :
    (old.initialized path).Directory ↔ path.strlen ≤ 31 ∨ path.char 30 = separator := by
  have some : 1 ≤ path.strlen := by
    by_contra empty
    have none : path.strlen = 0 := by omega
    have ended := path.ended
    rw [none,first] at ended
    cases ended
  have length : (old.initialized path).strlen = min path.strlen 31 := rfl
  have copied : ∀ i < 31, (old.initialized path).char i = path.char i := fun i small => if_pos small
  constructor
  · intro directory
    by_cases short : path.strlen ≤ 31
    · exact .inl short
    · right
      have ends := directory.last
      rw [length,Nat.min_eq_right (by omega),copied _ (by omega)] at ends
      exact ends
  · intro fits
    refine ⟨?_,?_,?_,?_⟩
    · rw [length]
      exact Nat.min_le_right _ _
    · rw [length]
      omega
    · rw [copied 0 (by decide)]
      exact first
    · by_cases short : path.strlen ≤ 31
      · rw [length,Nat.min_eq_left short,copied _ (by omega)]
        exact last
      · rw [length,Nat.min_eq_right (by omega),copied _ (by omega)]
        exact fits.resolve_left short

theorem initialize_owned {s start : Directories} {pid : Nat} {path : CString} (current : s.kernel.currentPid = pid)
    (set : fsInitializeProcessCwd pid (some path) s = .ok (0,start)) :
    start.Owned pid ∧ start.cwdString pid = (s.cwdString pid).initialized path := by
  unfold fsInitializeProcessCwd at set
  split at set
  · cases set
  · rename_i range
    simp only [bind_ok,pointer_ok,require_ok,checkedProcess,Except.ok.injEq,Prod.mk.injEq,true_and,Int.toNat_natCast,Option.some.injEq] at set
    obtain ⟨_,rfl,_,_,_,⟨process,here,_,valid,rfl⟩,rfl⟩ := set
    exact ⟨⟨by omega,current,process,here,valid⟩,Function.update_self _ _ _⟩

-- A working directory keeps its laws exactly as long as its names fit and only one of
-- them is taken off at a time.
theorem working_directory_laws {s start : Directories} {pid : Nat} {path : CString} (current : s.kernel.currentPid = pid)
    (first : path.char 0 = separator) (last : path.char (path.strlen-1) = separator)
    (set : fsInitializeProcessCwd pid (some path) s = .ok (0,start)) :
    ((start.cwdString pid).Directory ↔ path.strlen ≤ 31 ∨ path.char 30 = separator) ∧
    ((start.cwdString pid).Directory → ∀ calls t,
      Runs.Path (fun s (call : DirectoryCall) t => call.Meets pid s ∧ call.on pid s = .ok (some t)) start calls t →
        (t.cwdString pid).Directory ∧ ∀ call : DirectoryCall, call.Laws pid t ↔ call.Meets pid t) := by
  obtain ⟨owned,string⟩ := initialize_owned current set
  constructor
  · rw [string]
    exact initialized_directory first last
  · intro directory calls t run
    have inside : InDirectory pid t := run.invariant (InDirectory pid) (fun _ _ _ inside both => inside.turn both.1 both.2) ⟨owned,directory⟩
    exact ⟨inside.directory,fun call => call_laws inside.owned inside.directory call⟩

-- The bytes of a string and its NUL.
def terminated (bytes : List UInt8) (visible : 0 ∉ bytes) : CString where
  char := fun i => bytes.getD i 0
  strlen := bytes.length
  inside := by
    intro i small
    rw [List.getD_eq_getElem _ _ small]
    intro zero
    exact visible (zero ▸ List.getElem_mem small)
  ended := List.getD_eq_default _ _ (Nat.le_refl _)

def rootPath : CString := terminated [47] (by decide)

-- "/a/b/"
def nestedPath : CString := terminated [47,97,47,98,47] (by decide)

def longName : DirectoryName where
  string := terminated (List.replicate 30 97) (by decide)
  some := by decide
  plain := by decide

def bootDirectories : Directories where
  kernel := bootKernel
  cwdString := fun _ => rootPath
  initialized := true
  path := fun _ => 0
  target := fun _ => 0

def inDirectory (path : CString) : Directories := bootDirectories.setString 1 (rootPath.initialized path)

theorem working_directory_laws_nested : ((inDirectory nestedPath).cwdString 1).Directory ∧
    ∀ calls t, Runs.Path (fun s (call : DirectoryCall) t => call.Meets 1 s ∧ call.on 1 s = .ok (some t)) (inDirectory nestedPath) calls t →
      (t.cwdString 1).Directory ∧ ∀ call : DirectoryCall, call.Laws 1 t ↔ call.Meets 1 t := by
  have set : fsInitializeProcessCwd (1 : Nat) (some nestedPath) bootDirectories = .ok (0,inDirectory nestedPath) := rfl
  have laws := working_directory_laws rfl rfl rfl set
  have directory := laws.1.mpr (.inl (by decide))
  exact ⟨directory,laws.2 directory⟩

-- At the root the first scan goes below the string, two names are not taken off at once,
-- and a name is appended that does not fit.
theorem backups_deviate :
    fsPathnameBackup 1 1 (inDirectory rootPath) = .ok none ∧
    (∃ once twice, fsPathnameBackup 1 2 (inDirectory nestedPath) = .ok (some once) ∧
      singleBackups 1 2 (inDirectory nestedPath) = .ok (some twice) ∧
      (once.cwdString 1).strlen = 3 ∧ (twice.cwdString 1).strlen = 1) ∧
    (∃ t, fsUpdateWorkingDiretoryString (some longName.string) (inDirectory rootPath) = .ok t ∧ (t.cwdString 1).strlen = 32) :=
  ⟨rfl,⟨_,_,rfl,rfl,rfl,rfl⟩,_,rfl,rfl⟩

end GramadoKernel
