import GramadoKernel.Library.References
import GramadoKernel.Library.Runs
import GramadoKernel.AddressSpaces

namespace GramadoKernel

-- The processes of the list, and the descriptors of all of them that refer to a file.
def owners (p : Processes) : Finset Nat := {pid ∈ Finset.range processCountMax | (p.kernel.processList pid).isSome}

def tableReferences (objects : Nat → Option Nat) (f : Nat) : Nat := References.row (Finset.range numberOfFiles) objects f

def descriptors (p : Processes) (f : Nat) : Nat := References.count (owners p) (Finset.range numberOfFiles) p.objects f

-- The counter of every file is the number of its descriptors.
def FilesCounted (p : Processes) : Prop := ∀ f, (p.file f).Valid → p.fdCounter f = descriptors p f

theorem currentProcess_owner {p : Processes} {pid : Nat} (current : currentProcess p.kernel = some pid) : pid ∈ owners p := by
  unfold currentProcess at current
  split at current
  · rename_i limits
    split at current
    · cases current
    · rename_i process listed
      split at current
      · cases current
        refine Finset.mem_filter.mpr ⟨Finset.mem_range.mpr (by omega),?_⟩
        rw [listed]
        rfl
      · cases current
  · cases current

theorem validProcess_owner {p : Processes} {pid : Nat} (few : pid < processCountMax) (valid : validProcess p pid) : pid ∈ owners p := by
  obtain ⟨process,listed,_⟩ := valid
  refine Finset.mem_filter.mpr ⟨Finset.mem_range.mpr few,?_⟩
  rw [listed]
  rfl

-- Tables that are the same where they are counted.
theorem descriptors_same {p q : Processes} (lists : q.kernel.processList = p.kernel.processList)
    (tables : ∀ pid, ∀ fd < numberOfFiles, q.objects pid fd = p.objects pid fd) (f : Nat) : descriptors q f = descriptors p f := by
  unfold descriptors References.count References.row owners
  rw [lists]
  refine Finset.sum_congr rfl fun pid _ => Finset.sum_congr rfl fun fd inside => ?_
  rw [tables pid fd (Finset.mem_range.mp inside)]

-- One descriptor is assigned.
theorem descriptors_entry {p q : Processes} {pid fd : Nat} {file : Option Nat} (owner : pid ∈ owners p) (place : fd < numberOfFiles)
    (lists : q.kernel.processList = p.kernel.processList)
    (tables : q.objects = Function.update p.objects pid (Function.update (p.objects pid) fd file)) (f : Nat) :
    descriptors q f+References.refers (p.objects pid fd) f = descriptors p f+References.refers file f := by
  unfold descriptors owners
  rw [lists,tables]
  exact References.count_entry owner (Finset.mem_range.mpr place) p.objects file f

-- A whole table is assigned.
theorem descriptors_table {p q : Processes} {pid : Nat} {objects : Nat → Option Nat} (owner : pid ∈ owners p)
    (lists : q.kernel.processList = p.kernel.processList) (tables : q.objects = Function.update p.objects pid objects) (f : Nat) :
    descriptors q f+tableReferences (p.objects pid) f = descriptors p f+tableReferences objects f := by
  unfold descriptors owners tableReferences
  rw [lists,tables]
  exact References.count_update owner (Finset.range numberOfFiles) p.objects objects f

-- The loop that counts the files of the father again.
theorem countedAgain_apply (objects : Nat → Option Nat) (counter : Nat → Int) (f : Nat) :
    countedAgain objects counter f = counter f+tableReferences objects f := by
  unfold countedAgain tableReferences References.row
  induction numberOfFiles with
  | zero => simp
  | succ n ih =>
      rw [List.range_succ,List.foldl_append,Finset.sum_range_succ]
      simp only [List.foldl_cons,List.foldl_nil]
      cases entry : objects n with
      | none => simp [References.refers,ih]
      | some g =>
          by_cases same : f = g
          · subst same
            simp [References.refers,ih]
            omega
          · simp [References.refers,same,Ne.symm same,ih]

-- The kinds of files whose descriptor __close_imp clears.
def ObjectType.closable : ObjectType → Bool
  | .socket => true
  | .pipe => true
  | .tty => true
  | .file => true
  | _ => false

-- The current process has the file behind a descriptor.
def Opens (p : Processes) (fd : Int) (pid f : Nat) : Prop := InTable fd ∧ currentProcess p.kernel = some pid ∧ p.objects pid fd.toNat = some f

def Clears (p : Processes) (fd : Int) (pid f : Nat) : Prop := Opens p fd pid f ∧ (p.file f).Valid ∧ (p.file f).object.closable = true

-- The file is a socket with this structure.
def SocketOf (p : Processes) (f s : Nat) : Prop := (p.file f).object = .socket ∧ (p.file f).socket = some s

-- What a close that clears the descriptor leaves.
structure Closed (p : Processes) (fd : Int) (pid f : Nat) (q : Processes) : Prop where
  clears : Clears p fd pid f
  lists : q.kernel.processList = p.kernel.processList
  tables : q.objects = Function.update p.objects pid (Function.update (p.objects pid) fd.toNat none)
  counters : q.fdCounter = p.fdCounter
  valid : ∀ g, (q.file g).Valid ↔ (p.file g).Valid
  kinds : ∀ g s, SocketOf q g s ↔ SocketOf p g s
  sockets : ∀ s, (q.socket s).Valid ↔ (p.socket s).Valid ∧ ¬ SocketOf p f s

section Close

variable {p : Processes} {fd : Int} {pid f : Nat}

theorem closed_plain (clears : Clears p fd pid f) (plain : (p.file f).object ≠ .socket) :
    Closed p fd pid f (p.setObjects pid (Function.update (p.objects pid) fd.toNat none)) :=
  ⟨clears,rfl,rfl,rfl,fun _ => .rfl,fun _ _ => .rfl,fun _ => ⟨fun valid => ⟨valid,fun socket => plain socket.1⟩,And.left⟩⟩

-- The regular file gets the size that is saved.
theorem closed_file (clears : Clears p fd pid f) (kind : (p.file f).object = .file) :
    Closed p fd pid f (Processes.setObjects {p with toIo := p.toIo.put f {p.file f with lbfsize := max (p.file f).lbfsize 512}} pid
      (Function.update (p.objects pid) fd.toNat none)) := by
  have other : ∀ s, ¬ SocketOf p f s := fun s socket => by cases kind.symm.trans socket.1
  refine ⟨clears,rfl,rfl,rfl,fun g => ?_,fun g s => ?_,fun s => ⟨fun valid => ⟨valid,other s⟩,And.left⟩⟩
  · by_cases same : g = f
    · subst same
      simp [Processes.setObjects,Io.put,File.Valid]
    · simp [Processes.setObjects,Io.put,same]
  · by_cases same : g = f
    · subst same
      simp [Processes.setObjects,Io.put,SocketOf]
    · simp [Processes.setObjects,Io.put,SocketOf,same]

theorem closed_socket (clears : Clears p fd pid f) {s : Nat} (socket : SocketOf p f s) :
    Closed p fd pid f (Processes.setObjects {p with toNet := p.toNet.onSocket s fun socket => {socket with used := false,magic := 0}} pid
      (Function.update (p.objects pid) fd.toNat none)) := by
  refine ⟨clears,rfl,rfl,rfl,fun _ => .rfl,fun _ _ => .rfl,fun other => ?_⟩
  by_cases same : other = s
  · subst same
    simp [Processes.setObjects,Net.onSocket,Socket.Valid,socket]
  · have apart : ¬ SocketOf p f other := fun again => same (Option.some.inj (again.2.symm.trans socket.2))
    simp [Processes.setObjects,Net.onSocket,same,apart]

end Close

theorem closeImp_unopened {fd value : Int} {p q : Processes} (unopened : ∀ pid f, Opens p fd pid f → ¬ (p.file f).Valid)
    (closed : closeImp fd p = .ok (value,q)) : q = p := by
  unfold closeImp at closed
  split at closed
  · cases closed
    rfl
  rename_i inside
  split at closed
  · cases closed
    rfl
  rename_i pid current
  split at closed
  · cases closed
    rfl
  rename_i f opened
  have table : InTable fd := by
    unfold InTable
    omega
  simp only [if_pos (unopened pid f ⟨table,current,opened⟩)] at closed
  cases closed
  rfl

theorem closeImp_valid {fd value : Int} {p q : Processes} {pid f : Nat} (opens : Opens p fd pid f) (valid : (p.file f).Valid)
    (closed : closeImp fd p = .ok (value,q)) : (q = p ∧ (p.file f).object.closable = false) ∨ Closed p fd pid f q := by
  have inside : ¬ (fd < 0 ∨ openMax ≤ fd) := by
    have table := opens.1
    unfold InTable at table
    omega
  have clears : (p.file f).object.closable = true → Clears p fd pid f := fun closable => ⟨opens,valid,closable⟩
  simp only [closeImp,if_neg inside,opens.2.1,opens.2.2,if_neg (not_not.mpr valid)] at closed
  split at closed
  · rename_i kind
    obtain ⟨s,behind,closed⟩ := bind_ok.mp closed
    cases closed
    exact .inr (closed_socket (clears (congrArg ObjectType.closable kind)) ⟨kind,pointer_ok.mp behind⟩)
  · rename_i kind
    cases closed
    exact .inr (closed_plain (clears (congrArg ObjectType.closable kind)) (by rw [kind]; decide))
  · rename_i kind
    cases closed
    exact .inl ⟨rfl,congrArg ObjectType.closable kind⟩
  · rename_i kind
    cases closed
    exact .inr (closed_plain (clears (congrArg ObjectType.closable kind)) (by rw [kind]; decide))
  · rename_i kind
    cases closed
    exact .inr (closed_file (clears (congrArg ObjectType.closable kind)) kind)
  · rename_i socket pipe console tty file
    cases closed
    refine .inl ⟨rfl,?_⟩
    cases kind : (p.file f).object with
    | socket => exact absurd kind socket
    | pipe => exact absurd kind pipe
    | tty => exact absurd kind tty
    | file => exact absurd kind file
    | _ => rfl

theorem closeImp_cases {fd value : Int} {p q : Processes} (closed : closeImp fd p = .ok (value,q)) :
    (q = p ∧ ∀ pid f, ¬ Clears p fd pid f) ∨ ∃ pid f, Closed p fd pid f q := by
  by_cases opened : ∃ pid f, Opens p fd pid f ∧ (p.file f).Valid
  · obtain ⟨pid,f,opens,valid⟩ := opened
    rcases closeImp_valid opens valid closed with ⟨same,kept⟩ | after
    · refine .inl ⟨same,fun other g clears => ?_⟩
      obtain rfl := Option.some.inj (opens.2.1.symm.trans clears.1.2.1)
      obtain rfl := Option.some.inj (opens.2.2.symm.trans clears.1.2.2)
      exact absurd (kept.symm.trans clears.2.2) (by decide)
    · exact .inr ⟨pid,f,after⟩
  · have unopened : ∀ pid f, Opens p fd pid f → ¬ (p.file f).Valid := fun pid f opens valid => opened ⟨pid,f,opens,valid⟩
    exact .inl ⟨closeImp_unopened unopened closed,fun pid f clears => unopened pid f clears.1 clears.2.1⟩

-- A call that changes no descriptor, no counter and no file.
theorem counted_same {p q : Processes} (lists : q.kernel.processList = p.kernel.processList)
    (tables : ∀ pid, ∀ fd < numberOfFiles, q.objects pid fd = p.objects pid fd) (counters : q.fdCounter = p.fdCounter)
    (valid : ∀ f, (q.file f).Valid ↔ (p.file f).Valid) (counted : FilesCounted p) : FilesCounted q := by
  intro f checked
  rw [counters,descriptors_same lists tables]
  exact counted f ((valid f).mp checked)

-- A descriptor that is cleared while the counter stays.
theorem counted_cleared {p q : Processes} {pid fd f : Nat} (counted : FilesCounted p) (owner : pid ∈ owners p) (place : fd < numberOfFiles)
    (opened : p.objects pid fd = some f) (lists : q.kernel.processList = p.kernel.processList)
    (tables : q.objects = Function.update p.objects pid (Function.update (p.objects pid) fd none)) (counters : q.fdCounter = p.fdCounter)
    (valid : ∀ g, (q.file g).Valid ↔ (p.file g).Valid) : FilesCounted q ↔ ¬ (p.file f).Valid := by
  have entries := descriptors_entry owner place lists tables
  rw [opened] at entries
  constructor
  · intro after checked
    have before := counted f checked
    have now := after f ((valid f).mpr checked)
    have entry := entries f
    rw [counters] at now
    simp only [References.refers,if_true,reduceCtorEq,if_false] at entry
    omega
  · intro invalid g checked
    have other : f ≠ g := fun same => invalid (same ▸ (valid g).mp checked)
    have entry := entries g
    simp only [References.refers,Option.some.injEq,other,reduceCtorEq,if_false] at entry
    rw [counters,counted g ((valid g).mp checked)]
    omega

-- A free descriptor gets a file while the counter stays.
theorem counted_opened {p q : Processes} {pid fd f : Nat} (counted : FilesCounted p) (owner : pid ∈ owners p) (place : fd < numberOfFiles)
    (empty : p.objects pid fd = none) (lists : q.kernel.processList = p.kernel.processList)
    (tables : q.objects = Function.update p.objects pid (Function.update (p.objects pid) fd (some f))) (counters : q.fdCounter = p.fdCounter)
    (valid : (q.file f).Valid) (others : ∀ g, g ≠ f → q.file g = p.file g) : FilesCounted q ↔ p.fdCounter f = descriptors p f+1 := by
  have entries := descriptors_entry owner place lists tables
  rw [empty] at entries
  constructor
  · intro after
    have now := after f valid
    have entry := entries f
    rw [counters] at now
    simp only [References.refers,if_true,reduceCtorEq,if_false] at entry
    omega
  · intro right g checked
    have entry := entries g
    rw [counters]
    by_cases same : g = f
    · subst same
      simp only [References.refers,if_true,reduceCtorEq,if_false] at entry
      omega
    · rw [others g same] at checked
      have before := counted g checked
      simp only [References.refers,Option.some.injEq,Ne.symm same,reduceCtorEq,if_false] at entry
      omega

theorem closed_counted {p q : Processes} {fd : Int} {pid f : Nat} (counted : FilesCounted p) (closed : Closed p fd pid f q) : ¬ FilesCounted q := by
  have opens := closed.clears.1
  rw [counted_cleared counted (currentProcess_owner opens.2.1) (inTable_below opens.1) opens.2.2 closed.lists closed.tables closed.counters closed.valid]
  exact not_not.mpr closed.clears.2.1

theorem closeImp_counted_iff {p q : Processes} {fd value : Int} (counted : FilesCounted p) (closed : closeImp fd p = .ok (value,q)) :
    FilesCounted q ↔ ∀ pid f, ¬ Clears p fd pid f := by
  rcases closeImp_cases closed with ⟨rfl,never⟩ | ⟨pid,f,after⟩
  · exact iff_of_true counted never
  · exact iff_of_false (closed_counted counted after) fun never => never pid f after.clears

def Processes.withIo (p : Processes) (io : Io) : Processes := {p with toIo := io}

theorem inherits_valid (new old : File) : (new.inherits old).Valid := ⟨rfl,rfl⟩

-- A duplicate that leaves the files, and the descriptors that are counted.
theorem counted_unmoved {p : Processes} {d : Duplication} (counted : FilesCounted p) (kernel : d.io.kernel = p.kernel)
    (files : d.io.file = p.file) (tables : ∀ pid, ∀ fd < numberOfFiles, d.io.objects pid fd = p.objects pid fd) : FilesCounted (p.withIo d.io) := by
  refine counted_same (congrArg Kernel.processList kernel) tables rfl (fun f => ?_) counted
  change (d.io.file f).Valid ↔ _
  rw [files]

-- The new structure has the counter that the memory had.
theorem sysDup_counted_iff {p : Processes} {oldfd : Int} {memory : Option Nat} {d : Duplication} (counted : FilesCounted p)
    (called : sysDup p.toIo oldfd memory = .ok d) : FilesCounted (p.withIo d.io) ↔
      ∀ pid slot old new, Duplicated p.toIo oldfd memory pid slot old new → p.fdCounter new = descriptors p new+1 := by
  cases sysDup_way called with
  | failed negative outside =>
      exact iff_of_true (counted_unmoved counted rfl rfl fun _ _ _ => rfl) fun pid _ _ _ made => absurd made.table (outside pid made.current)
  | full table current none =>
      refine iff_of_true (counted_unmoved counted rfl rfl fun other fd below => cleared_same fun _ member => ?_) fun other _ _ _ made => ?_
      · exact absurd (List.mem_singleton.mp member) (Nat.ne_of_lt below)
      · obtain rfl := Option.some.inj (current.symm.trans made.current)
        cases none.symm.trans made.free
  | cleared current free missing =>
      refine iff_of_true (counted_unmoved counted rfl rfl fun other fd _ => cleared_same fun _ member => ?_) fun other _ _ _ made => ?_
      · rw [List.mem_singleton.mp member]
        exact (freeDescriptor_some free).2.2
      · obtain rfl := Option.some.inj (current.symm.trans made.current)
        rcases missing with closed | none
        · cases closed.symm.trans made.source
        · cases none.symm.trans made.memory
  | @made pid slot old new duplicated =>
      obtain ⟨_,below,empty⟩ := freeDescriptor_some duplicated.free
      let after := (p.toIo.put new ((p.file new).inherits (p.file old))).setObject pid slot (some new)
      have valid : (after.file new).Valid := by
        rw [show after.file new = _ from Io.put_same p.toIo new ((p.file new).inherits (p.file old))]
        exact inherits_valid _ _
      have counts : FilesCounted (p.withIo after) ↔ _ := counted_opened (q := p.withIo after) counted (currentProcess_owner duplicated.current) below
        empty rfl rfl rfl valid fun g other => Io.put_other p.toIo _ other
      rw [counts]
      constructor
      · intro right _ _ _ _ again
        obtain rfl := Option.some.inj (duplicated.memory.symm.trans again.memory)
        exact right
      · intro right
        exact right pid slot old new duplicated

-- An open descriptor is cleared when the other one is closed, and a file that was not
-- valid becomes one.
def OntoRight (p : Processes) (oldfd newfd : Int) : Prop :=
  InTable oldfd → InTable newfd → ∀ pid new, currentProcess p.kernel = some pid → p.objects pid newfd.toNat = some new →
    (p.objects pid oldfd.toNat = none → ¬ (p.file new).Valid) ∧ (p.objects pid oldfd.toNat ≠ none → p.fdCounter new = descriptors p new)

theorem duplicateOnto_counted_iff {p : Processes} {oldfd newfd : Int} {d : Duplication} (counted : FilesCounted p)
    (called : duplicateOnto p.toIo oldfd newfd = .ok d) : FilesCounted (p.withIo d.io) ↔ OntoRight p oldfd newfd := by
  have clears : ∀ {pid}, p.objects pid newfd.toNat = none → FilesCounted (p.withIo (Duplication.cleared p.toIo pid [newfd.toNat]).io) := by
    intro pid empty
    refine counted_unmoved counted rfl rfl fun other fd _ => cleared_same fun _ member => ?_
    rw [List.mem_singleton.mp member]
    exact empty
  have closedRight : ∀ {pid}, currentProcess p.kernel = some pid → p.objects pid newfd.toNat = none → OntoRight p oldfd newfd := by
    intro pid current empty _ _ other f found opened
    obtain rfl := Option.some.inj (current.symm.trans found)
    cases empty.symm.trans opened
  cases duplicateOnto_way called with
  | failed negative outside =>
      exact iff_of_true (counted_unmoved counted rfl rfl fun _ _ _ => rfl) fun old new pid _ current _ => absurd new (outside pid current old)
  | closed new current source target => exact iff_of_true (clears target) (closedRight current target)
  | @unopened pid old new current source =>
      cases target : p.objects pid newfd.toNat with
      | none => exact iff_of_true (clears target) (closedRight current target)
      | some g =>
          rw [counted_cleared (q := p.withIo (Duplication.cleared p.toIo pid [newfd.toNat]).io) counted (currentProcess_owner current)
            (inTable_below new) target rfl rfl rfl fun _ => .rfl]
          constructor
          · intro invalid _ _ other f found opened
            obtain rfl := Option.some.inj (current.symm.trans found)
            obtain rfl := Option.some.inj (target.symm.trans opened)
            exact ⟨fun _ => invalid,fun present => absurd source present⟩
          · intro right
            exact (right old new pid g current target).1 source
  | @written pid f g old new current source target =>
      have file : ∀ h, (p.toIo.put g ((p.file g).inherits (p.file f))).file h = if h = g then (p.file g).inherits (p.file f) else p.file h :=
        fun h => Function.update_apply _ _ _ _
      have same : ∀ h, descriptors (p.withIo (p.toIo.put g ((p.file g).inherits (p.file f)))) h = descriptors p h :=
        descriptors_same rfl fun _ _ _ => rfl
      constructor
      · intro whole _ _ other h found opened
        obtain rfl := Option.some.inj (current.symm.trans found)
        obtain rfl := Option.some.inj (target.symm.trans opened)
        have valid : ((p.toIo.put g ((p.file g).inherits (p.file f))).file g).Valid := by
          rw [file,if_pos rfl]
          exact inherits_valid _ _
        exact ⟨fun none => absurd (none.symm.trans source) (by simp),fun _ => (whole g valid).trans (congrArg Nat.cast (same g))⟩
      · intro right h valid
        rw [same]
        by_cases own : h = g
        · subst own
          exact (right old new pid h current target).2 (by rw [source]; exact Option.some_ne_none _)
        · change ((p.toIo.put g ((p.file g).inherits (p.file f))).file h).Valid at valid
          rw [file,if_neg own] at valid
          exact counted h valid

-- A father that is no terminal: its own first descriptors and the table of the child are
-- replaced by the standard streams.
def CloneRight (p : Processes) (father child : Nat) : Prop :=
  validProcess p father → validProcess p child → (p.info father).isTerminal = false ∧
    ∀ f, (p.file f).Valid → tableReferences (p.objects father) f+tableReferences (p.objects child) f =
      tableReferences (inheritedObjects p (p.objects father)) f

theorem inherit_counted_iff {p : Processes} {father child : Nat} (counted : FilesCounted p) (owner : child ∈ owners p) :
    FilesCounted (p.inherit father child) ↔ ∀ f, (p.file f).Valid → tableReferences (p.objects father) f+tableReferences (p.objects child) f =
      tableReferences (inheritedObjects p (p.objects father)) f := by
  have tables := descriptors_table (q := p.inherit father child) owner rfl rfl
  have counters : ∀ f, (p.inherit father child).fdCounter f = p.fdCounter f+tableReferences (p.objects father) f :=
    countedAgain_apply (p.objects father) p.fdCounter
  constructor
  · intro whole f valid
    have before := counted f valid
    have now := whole f valid
    have moved := tables f
    rw [counters] at now
    omega
  · intro right f valid
    have before := counted f valid
    have same := right f valid
    have moved := tables f
    rw [counters]
    omega

-- A new file is counted once.
theorem newFile_ok {object : ObjectType} {buffer : Option (Int → UInt8)} {p q : Processes} {f : Nat} (made : newFile object buffer p = .ok (f,q)) :
    p.fdCounter f = 0 ∧ q.kernel = p.kernel ∧ q.objects = p.objects ∧ q.fdCounter = Function.update p.fdCounter f 1 ∧ (q.file f).Valid ∧
      ∀ g, g ≠ f → q.file g = p.file g := by
  simp only [newFile,bind_ok,pointer_ok,Except.ok.injEq,Prod.mk.injEq] at made
  obtain ⟨slot,found,base,_,inode,_,rfl,rfl⟩ := made
  have free := List.find?_some found
  simp only [decide_eq_true_eq] at free
  refine ⟨free.2,rfl,rfl,rfl,?_,fun g other => Function.update_of_ne other _ _⟩
  simp [File.Valid,File.created]

-- Two connectors take two descriptors that were free.
theorem connect_descriptors {p q : Processes} {pid connector1 connector2 : Nat} (owner : pid ∈ owners p)
    (connected : p.connect pid connector1 connector2 = .ok q) : q.kernel = p.kernel ∧ q.fdCounter = p.fdCounter ∧ q.file = p.file ∧
      ∀ f, descriptors q f = descriptors p f+References.refers (some connector1) f+References.refers (some connector2) f := by
  simp only [Processes.connect,bind_ok,pointer_ok,Except.ok.injEq] at connected
  obtain ⟨spot1,first,spot2,second,rfl⟩ := connected
  have below1 := List.mem_range'_1.mp (List.mem_of_find?_eq_some first)
  have below2 := List.mem_range'_1.mp (List.mem_of_find?_eq_some second)
  have empty1 : p.objects pid spot1 = none := by simpa using List.find?_some first
  have empty2 : Function.update (p.objects pid) spot1 (some connector1) spot2 = none := by simpa using List.find?_some second
  refine ⟨rfl,rfl,rfl,fun f => ?_⟩
  let table := Function.update (p.objects pid) spot1 (some connector1)
  have one := descriptors_entry (q := p.setObjects pid table) owner (show spot1 < numberOfFiles by unfold numberOfFiles; omega) rfl rfl f
  have tables : (p.setObjects pid (Function.update table spot2 (some connector2))).objects =
      Function.update (p.setObjects pid table).objects pid (Function.update ((p.setObjects pid table).objects pid) spot2 (some connector2)) := by
    simp [Processes.setObjects]
  have two := descriptors_entry (p := p.setObjects pid table) (q := p.setObjects pid (Function.update table spot2 (some connector2))) owner
    (show spot2 < numberOfFiles by unfold numberOfFiles; omega) rfl tables f
  have empty : (p.setObjects pid table).objects pid spot2 = none := by
    simp only [Processes.setObjects,Function.update_self]
    exact empty2
  rw [empty1] at one
  rw [empty] at two
  simp only [References.refers,reduceCtorEq,if_false] at one two ⊢
  change descriptors (p.setObjects pid (Function.update table spot2 (some connector2))) f = _
  omega

-- The connectors of a terminal are counted once and have two descriptors each.
theorem connectors_uncounted {buffers : Option (Int → UInt8) × Option (Int → UInt8)} {p a b c d : Processes} {father child connector1 connector2 : Nat}
    (first : newFile .file buffers.1 p = .ok (connector1,a)) (fathers : father ∈ owners p) (childs : child ∈ owners p)
    (second : newFile .file buffers.2 a = .ok (connector2,b)) (third : b.connect father connector1 connector2 = .ok c)
    (fourth : c.connect child connector1 connector2 = .ok d) : ¬ FilesCounted d := by
  obtain ⟨_,kernelA,_,countersA,validA,_⟩ := newFile_ok first
  obtain ⟨zero,kernelB,_,countersB,_,filesB⟩ := newFile_ok second
  have apart : connector1 ≠ connector2 := by
    rintro rfl
    rw [countersA,Function.update_self] at zero
    exact absurd zero (by decide)
  have ownersB : owners b = owners p := by
    unfold owners
    rw [kernelB,kernelA]
  obtain ⟨kernelC,countersC,filesC,descriptorsC⟩ := connect_descriptors (by rw [ownersB]; exact fathers) third
  have ownersC : owners c = owners p := by
    rw [← ownersB]
    unfold owners
    rw [kernelC]
  obtain ⟨_,countersD,filesD,descriptorsD⟩ := connect_descriptors (by rw [ownersC]; exact childs) fourth
  intro whole
  have valid : (d.file connector1).Valid := by
    rw [filesD,filesC,filesB connector1 apart]
    exact validA
  have counter : d.fdCounter connector1 = 1 := by
    rw [countersD,countersC,countersB,Function.update_of_ne apart,countersA,Function.update_self]
  have now := whole connector1 valid
  rw [counter,descriptorsD,descriptorsC] at now
  simp only [References.refers,if_true] at now
  omega

theorem copyProcessStruct_counted_iff {p q : Processes} {father child : Nat} {buffers : Option (Int → UInt8) × Option (Int → UInt8)} {status : Int}
    (counted : FilesCounted p) (fewFather : father < processCountMax) (fewChild : child < processCountMax)
    (copied : copyProcessStruct father child buffers p = .ok (status,q)) : FilesCounted q ↔ CloneRight p father child := by
  unfold copyProcessStruct at copied
  split at copied
  · rename_i invalid
    cases copied
    exact iff_of_true counted fun valid => absurd valid invalid
  rename_i fathers
  split at copied
  · rename_i invalid
    cases copied
    exact iff_of_true counted fun _ valid => absurd valid invalid
  rename_i childs
  have fathers := not_not.mp fathers
  have childs := not_not.mp childs
  have ownerFather := validProcess_owner fewFather fathers
  have ownerChild := validProcess_owner fewChild childs
  simp only at copied
  split at copied
  · rename_i terminal
    simp only [bind_ok] at copied
    obtain ⟨⟨connector1,a⟩,first,⟨connector2,b⟩,second,c,third,d,fourth,copied⟩ := copied
    cases copied
    have uncounted : ¬ FilesCounted d := connectors_uncounted first ownerFather ownerChild second third fourth
    refine iff_of_false uncounted fun right => ?_
    exact absurd ((right fathers childs).1.symm.trans terminal) (by decide)
  · rename_i plain
    cases copied
    refine (inherit_counted_iff ?_ ?_).trans ⟨fun right _ _ => ⟨Bool.eq_false_of_not_eq_true plain,right⟩,fun right => (right fathers childs).2⟩
    · exact counted
    · exact ownerChild

-- Both structures of an open file are in use.
def Usable (p : Processes) (f : Nat) : Prop := (p.file f).Valid ∧ ∀ s, SocketOf p f s → (p.socket s).Valid

-- The same file, or another file of the same socket.
def SameObject (p : Processes) (f g : Nat) : Prop := g = f ∨ ∃ s, SocketOf p f s ∧ SocketOf p g s

-- Another descriptor than `fd` of the process `pid` has the file `g`.
def OtherDescriptor (p : Processes) (fd : Int) (pid g : Nat) : Prop :=
  ∃ other ∈ owners p, ∃ ofd < numberOfFiles, (other,ofd) ≠ (pid,fd.toNat) ∧ p.objects other ofd = some g

-- A close leaves the other descriptors of the same file or socket usable.
def LeavesOthers (p : Processes) (fd : Int) (q : Processes) : Prop :=
  ∀ pid f, Opens p fd pid f → ∀ g, OtherDescriptor p fd pid g → SameObject p f g → Usable p g → Usable q g

-- No other descriptor has the socket that is closed and can use it.
def AloneOnSocket (p : Processes) (fd : Int) : Prop :=
  ∀ pid f s, Clears p fd pid f → SocketOf p f s → ∀ g, OtherDescriptor p fd pid g → SocketOf p g s → ¬ Usable p g

theorem closeImp_leaves_iff {p q : Processes} {fd value : Int} (closed : closeImp fd p = .ok (value,q)) :
    LeavesOthers p fd q ↔ AloneOnSocket p fd := by
  rcases closeImp_cases closed with ⟨rfl,never⟩ | ⟨pid,f,after⟩
  · exact iff_of_true (fun _ _ _ _ _ _ usable => usable) fun pid f _ clears => absurd clears (never pid f)
  have opens := after.clears.1
  have only : ∀ other h, Opens p fd other h → other = pid ∧ h = f := by
    intro other h again
    obtain rfl := Option.some.inj (opens.2.1.symm.trans again.2.1)
    exact ⟨rfl,Option.some.inj (again.2.2.symm.trans opens.2.2)⟩
  constructor
  · intro leaves other h s clears socket g elsewhere same usable
    obtain ⟨rfl,rfl⟩ := only other h clears.1
    have still := leaves other h opens g elsewhere (.inr ⟨s,socket,same⟩) usable
    exact ((after.sockets s).mp (still.2 s ((after.kinds g s).mpr same))).2 socket
  · intro alone other h again g elsewhere _ usable
    obtain ⟨rfl,rfl⟩ := only other h again
    refine ⟨(after.valid g).mpr usable.1,fun s socket => ?_⟩
    have socket := (after.kinds g s).mp socket
    exact (after.sockets s).mpr ⟨usable.2 s socket,fun own => alone other h s after.clears own g elsewhere socket usable⟩

-- What happens to the open files of the processes. Everything else that the kernel does
-- leaves files, descriptors and counters alone, or makes a process with an empty table.
inductive FileCall where
  | other
  | born (pid : Nat) (process : Process)
  | clone (father child : Nat) (buffers : Option (Int → UInt8) × Option (Int → UInt8))
  | dup (oldfd : Int) (memory : Option Nat)
  | dup2 (oldfd newfd : Int)
  | dup3 (oldfd newfd flags : Int)
  | close (fd : Int)

def Processes.born (p : Processes) (pid : Nat) (process : Process) : Processes :=
  {p.setObjects pid fun _ => none with kernel := p.kernel.setProcess pid process}

def FileStep (p : Processes) : FileCall → Processes → Prop
  | .other,q => q.kernel.processList = p.kernel.processList ∧ q.objects = p.objects ∧ q.file = p.file ∧ q.socket = p.socket ∧
      q.fdCounter = p.fdCounter
  | .born pid process,q => p.kernel.processList pid = none ∧ q = p.born pid process
  | .clone father child buffers,q => father < processCountMax ∧ child < processCountMax ∧
      ∃ status, copyProcessStruct father child buffers p = .ok (status,q)
  | .dup oldfd memory,q => ∃ d, sysDup p.toIo oldfd memory = .ok d ∧ q = p.withIo d.io
  | .dup2 oldfd newfd,q => ∃ d, sysDup2 p.toIo oldfd newfd = .ok d ∧ q = p.withIo d.io
  | .dup3 oldfd newfd flags,q => ∃ d, sysDup3 p.toIo oldfd newfd flags = .ok d ∧ q = p.withIo d.io
  | .close fd,q => ∃ value, closeImp fd p = .ok (value,q)

-- When a call keeps the counters right.
def CountsRight (p : Processes) : FileCall → Prop
  | .other => True
  | .born _ _ => True
  | .clone father child _ => CloneRight p father child
  | .dup oldfd memory => ∀ pid slot old new, Duplicated p.toIo oldfd memory pid slot old new → p.fdCounter new = descriptors p new+1
  | .dup2 oldfd newfd => OntoRight p oldfd newfd
  | .dup3 oldfd newfd _ => OntoRight p oldfd newfd
  | .close fd => ∀ pid f, ¬ Clears p fd pid f

theorem born_counted {p : Processes} {pid : Nat} {process : Process} (counted : FilesCounted p) (fresh : p.kernel.processList pid = none) :
    FilesCounted (p.born pid process) := by
  have outside : pid ∉ owners p := fun member => by
    have listed := (Finset.mem_filter.mp member).2
    rw [fresh] at listed
    cases listed
  have lists : ∀ other, ((p.born pid process).kernel.processList other).isSome ↔ other = pid ∨ (p.kernel.processList other).isSome := by
    intro other
    rw [show (p.born pid process).kernel = p.kernel.setProcess pid process from rfl,setProcess_processList]
    by_cases own : other = pid
    · simp [own]
    · simp [own]
  have same : ∀ f, descriptors (p.born pid process) f = descriptors p f := by
    intro f
    by_cases few : pid < processCountMax
    · have grown : owners (p.born pid process) = insert pid (owners p) := by
        ext other
        simp only [owners,Finset.mem_filter,Finset.mem_insert,Finset.mem_range,lists]
        constructor
        · rintro ⟨below,rfl | listed⟩
          · exact .inl rfl
          · exact .inr ⟨below,listed⟩
        · rintro (rfl | ⟨below,listed⟩)
          · exact ⟨few,.inl rfl⟩
          · exact ⟨below,.inr listed⟩
      unfold descriptors
      rw [grown]
      exact References.count_insert outside _ p.objects f
    · have kept : owners (p.born pid process) = owners p := by
        ext other
        simp only [owners,Finset.mem_filter,Finset.mem_range,lists]
        constructor
        · rintro ⟨below,rfl | listed⟩
          · exact absurd below few
          · exact ⟨below,listed⟩
        · rintro ⟨below,listed⟩
          exact ⟨below,.inr listed⟩
      unfold descriptors
      rw [kept]
      exact References.count_outside outside _ p.objects _ f
  intro f valid
  rw [same]
  exact counted f valid

theorem fileStep_counted_iff {p q : Processes} {call : FileCall} (counted : FilesCounted p) (step : FileStep p call q) :
    FilesCounted q ↔ CountsRight p call := by
  cases call with
  | other =>
      obtain ⟨lists,tables,files,_,counters⟩ := step
      exact iff_of_true (counted_same lists (fun _ _ _ => by rw [tables]) counters (fun f => by rw [files]) counted) trivial
  | born pid process =>
      obtain ⟨fresh,rfl⟩ := step
      exact iff_of_true (born_counted counted fresh) trivial
  | clone father child buffers =>
      obtain ⟨fewFather,fewChild,_,copied⟩ := step
      exact copyProcessStruct_counted_iff counted fewFather fewChild copied
  | dup oldfd memory =>
      obtain ⟨d,called,rfl⟩ := step
      exact sysDup_counted_iff counted called
  | dup2 oldfd newfd =>
      obtain ⟨d,called,rfl⟩ := step
      exact duplicateOnto_counted_iff counted called
  | dup3 oldfd newfd flags =>
      obtain ⟨d,called,rfl⟩ := step
      exact duplicateOnto_counted_iff counted called
  | close fd =>
      obtain ⟨_,closed⟩ := step
      exact closeImp_counted_iff counted closed

-- A call with the states around it.
structure FileEvent where
  before : Processes
  call : FileCall
  after : Processes

def FileTurn (p : Processes) (e : FileEvent) (q : Processes) : Prop := e.before = p ∧ e.after = q ∧ FileStep p e.call q

-- The files are counted right in every state of a run.
def CountedThroughout (start : Processes) (events : List FileEvent) : Prop := FilesCounted start ∧ ∀ e ∈ events, FilesCounted e.after

theorem countedThroughout_iff {s t : Processes} {events : List FileEvent} (run : Runs.Path FileTurn s events t) (counted : FilesCounted s) :
    ((∀ e ∈ events, FilesCounted e.after) → FilesCounted t) ∧
      ((∀ e ∈ events, FilesCounted e.after) ↔ ∀ e ∈ events, CountsRight e.before e.call) := by
  induction run with
  | nil => exact ⟨fun _ => counted,by simp⟩
  | @step events m e t _ last ih =>
      obtain ⟨reached,conditions⟩ := ih
      obtain ⟨rfl,rfl,step⟩ := last
      rw [List.forall_mem_append,List.forall_mem_append,List.forall_mem_singleton,List.forall_mem_singleton]
      refine ⟨And.right,fun both => ⟨conditions.mp both.1,?_⟩,fun both => ⟨conditions.mpr both.1,?_⟩⟩
      · exact (fileStep_counted_iff (reached both.1) step).mp both.2
      · exact (fileStep_counted_iff (reached (conditions.mpr both.1)) step).mpr both.2

theorem fileTurn_leaves_iff {s t : Processes} {e : FileEvent} (turn : FileTurn s e t) {fd : Int} (call : e.call = .close fd) :
    LeavesOthers e.before fd e.after ↔ AloneOnSocket e.before fd := by
  obtain ⟨rfl,rfl,step⟩ := turn
  rw [call] at step
  obtain ⟨_,closed⟩ := step
  exact closeImp_leaves_iff closed

-- Along a run the counters are right throughout exactly when they are right at its start
-- and every call keeps them so, and the closes leave the other descriptors usable
-- exactly when none of them closes a socket that another descriptor can use.
theorem shared_files_iff {s t : Processes} {events : List FileEvent} (run : Runs.Path FileTurn s events t) :
    (CountedThroughout s events ↔ FilesCounted s ∧ ∀ e ∈ events, CountsRight e.before e.call) ∧
    ((∀ e ∈ events, ∀ fd, e.call = .close fd → LeavesOthers e.before fd e.after) ↔
      ∀ e ∈ events, ∀ fd, e.call = .close fd → AloneOnSocket e.before fd) := by
  constructor
  · exact and_congr_right fun counted => (countedThroughout_iff run counted).2
  · have each := run.each (fun e => ∀ fd, e.call = .close fd → (LeavesOthers e.before fd e.after ↔ AloneOnSocket e.before fd))
      fun _ _ _ turn _ call => fileTurn_leaves_iff turn call
    exact ⟨fun leaves e member fd call => (each e member fd call).mp (leaves e member fd call),
      fun alone e member fd call => (each e member fd call).mpr (alone e member fd call)⟩

-- The init process alone, with its three streams counted once, and a socket as its
-- fourth file where `sockets` says so.
def initAlone (sockets : Bool) : Processes :=
  {(bootSystem 0).toProcesses with
    kernel := {twoProcesses with processList := fun pid => if pid = 1 then some initProcess else none}
    file := fun i => if i = 3 then socketFile 3 0 fun _ => 0 else (bootSystem 0).file i
    objects := fun pid fd => if pid = 1 ∧ (fd < 3 ∨ sockets = true ∧ fd = 3) then some fd else none
    fdCounter := fun id => if id < 3 ∨ sockets = true ∧ id = 3 then 1 else 0}

theorem initAlone_owners (sockets : Bool) : owners (initAlone sockets) = {1} := by
  ext pid
  simp only [owners,Finset.mem_filter,Finset.mem_range,Finset.mem_singleton]
  by_cases own : pid = 1
  · simp [initAlone,own,processCountMax]
  · simp [initAlone,own]

theorem initAlone_counted (sockets : Bool) : FilesCounted (initAlone sockets) := by
  intro f _
  unfold descriptors References.count References.row
  rw [initAlone_owners,Finset.sum_singleton]
  by_cases few : f < 4
  · have cases : f = 0 ∨ f = 1 ∨ f = 2 ∨ f = 3 := by omega
    rcases cases with rfl | rfl | rfl | rfl
    all_goals cases sockets
    all_goals decide
  · rw [Finset.sum_eq_zero]
    · have high : ¬ (f < 3 ∨ sockets = true ∧ f = 3) := by omega
      simp [initAlone,high]
    · intro fd _
      simp only [References.refers,initAlone,true_and]
      split
      · rename_i inside
        have apart : fd ≠ f := by omega
        simp [apart]
      · simp

def cloneOf (p : Processes) (child : Nat) : Processes :=
  match copyProcessStruct 1 child (none,none) p with
  | .ok (_,q) => q
  | .error _ => p

def secondProcess (sockets : Bool) : Processes := (initAlone sockets).born 2 ⟨true,1234,2,0xC000⟩

theorem secondProcess_cloned (sockets : Bool) :
    copyProcessStruct 1 2 (none,none) (secondProcess sockets) = .ok (0,cloneOf (secondProcess sockets) 2) := rfl

-- A new process and a clone into it.
def cloneEvents (sockets : Bool) : List FileEvent :=
  [⟨initAlone sockets,.born 2 ⟨true,1234,2,0xC000⟩,secondProcess sockets⟩,
    ⟨secondProcess sockets,.clone 1 2 (none,none),cloneOf (secondProcess sockets) 2⟩]

theorem cloneEvents_run (sockets : Bool) : Runs.Path FileTurn (initAlone sockets) (cloneEvents sockets) (cloneOf (secondProcess sockets) 2) :=
  .step (.step .nil ⟨rfl,rfl,rfl,rfl⟩) ⟨rfl,rfl,by decide,by decide,0,secondProcess_cloned sockets⟩

theorem shared_files_cloned : CountedThroughout (initAlone false) (cloneEvents false) := by
  refine (shared_files_iff (cloneEvents_run false)).1.mpr ⟨initAlone_counted false,?_⟩
  intro e member
  rcases List.mem_pair.mp member with rfl | rfl
  · trivial
  · intro _ _
    have fathers : inheritedObjects (secondProcess false) ((secondProcess false).objects 1) = (secondProcess false).objects 1 := by
      funext fd
      unfold inheritedObjects
      split_ifs with zero one two
      · rw [zero]; rfl
      · rw [one]; rfl
      · rw [two]; rfl
      · rfl
    have childs : (secondProcess false).objects 2 = fun _ => none := rfl
    refine ⟨rfl,fun f _ => ?_⟩
    rw [fathers,childs]
    unfold tableReferences
    rw [References.row_empty,Nat.add_zero]

def closeOf (p : Processes) (fd : Int) : Processes :=
  match closeImp fd p with
  | .ok (_,q) => q
  | .error _ => p

-- After boot the streams are counted once and open in two processes. And once a process
-- with a socket has been cloned, its close of the socket lets the counter at 2 and takes
-- the socket from the clone.
theorem boot_streams_uncounted : ¬ FilesCounted (bootSystem 0).toProcesses ∧
    Runs.Path FileTurn (initAlone true)
      (cloneEvents true ++ [⟨cloneOf (secondProcess true) 2,.close 3,closeOf (cloneOf (secondProcess true) 2) 3⟩])
      (closeOf (cloneOf (secondProcess true) 2) 3) ∧
    (closeOf (cloneOf (secondProcess true) 2) 3).fdCounter 3 = 2 ∧ descriptors (closeOf (cloneOf (secondProcess true) 2) 3) 3 = 1 ∧
    ¬ LeavesOthers (cloneOf (secondProcess true) 2) 3 (closeOf (cloneOf (secondProcess true) 2) 3) := by
  refine ⟨fun counted => ?_,.step (cloneEvents_run true) ⟨rfl,rfl,0,rfl⟩,by decide +kernel,by decide +kernel,fun leaves => ?_⟩
  · have streams := counted 0 (by decide)
    have two : descriptors (bootSystem 0).toProcesses 0 = 2 := by decide +kernel
    rw [two] at streams
    exact absurd streams (by decide)
  · have opens : Opens (cloneOf (secondProcess true) 2) 3 1 3 := ⟨by unfold InTable; decide,rfl,rfl⟩
    have clone : OtherDescriptor (cloneOf (secondProcess true) 2) 3 1 3 :=
      ⟨2,Finset.mem_filter.mpr ⟨Finset.mem_range.mpr (by decide),rfl⟩,3,by decide,by decide,rfl⟩
    have usable : Usable (cloneOf (secondProcess true) 2) 3 := ⟨⟨rfl,rfl⟩,fun s socket => by
      obtain rfl : 0 = s := Option.some.inj socket.2
      exact ⟨rfl,rfl⟩⟩
    have still := (leaves 1 3 opens 3 clone (.inl rfl) usable).2 0 ⟨rfl,rfl⟩
    exact absurd still.1 (by decide)

end GramadoKernel
