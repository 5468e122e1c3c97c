import GramadoKernel.State
import Mathlib.Algebra.Group.Nat.Defs
import Mathlib.Data.List.Basic
import Mathlib.Tactic.Tauto

namespace GramadoKernel

-- storage.h, fatlib.h
def sectorSize : Nat := 512
def fat16RootEntries : Nat := 512
def fatCacheSectors : Nat := 246
def rootdirSectors : Nat := 32
def volume1FatLba : Nat := 67
def volume1RootdirLba : Nat := 559
def volume1DataareaLba : Nat := 591

-- x64gpa.h
def volume1FatAddress : UInt64 := 0x00030000
def volume1RootdirAddress : UInt64 := 0x00070000

abbrev Sector := Fin 512 → UInt8

-- The bytes at a pointer to a terminated string.
structure CString where
  char : Nat → UInt8
  strlen : Nat
  inside : ∀ i < strlen, char i ≠ 0
  ended : char strlen = 0

-- The fields of struct filesystem_d that the FAT16 routines read from `root`.
structure RootFilesystem where
  used : Bool
  magic : Nat
  spc : Int
  dirEntries : Nat

-- The boot disk and what the kernel keeps of it in memory: the words of the FAT
-- cache and the bytes of the directory at an address. The caches, the
-- directories and the buffers of a caller are separate pieces of memory here.
structure Volume where
  numberOfSectors : Nat
  fatbits : Nat
  disk : Nat → Sector
  fat : Nat → UInt16
  fatCacheLoaded : Bool
  fatCacheSaved : Bool
  directory : UInt64 → Nat → UInt8
  root : Option RootFilesystem
  clustersToSave : Int → UInt16

def littleEndian16 (low high : UInt8) : UInt16 := low.toUInt16+high.toUInt16*256

-- Entry `i` of an array of words at the given bytes.
def word (bytes : Nat → UInt8) (i : Nat) : UInt16 := littleEndian16 (bytes (2*i)) (bytes (2*i+1))

def dword (bytes : Nat → UInt8) (offset : Nat) : UInt32 :=
  (littleEndian16 (bytes offset) (bytes (offset+1))).toUInt32+
    (littleEndian16 (bytes (offset+2)) (bytes (offset+3))).toUInt32*65536

def ataReadSector (v : Volume) (lba : Nat) : Except Halt Sector := do
  require (v.numberOfSectors ≠ 0) (.panic "ataReadSector: gNumberOfSectorsInBootDisk\n")
  require (lba < v.numberOfSectors) (.panic "ataReadSector: lba limits\n")
  .ok (v.disk lba)

def ataWriteSector (v : Volume) (data : Sector) (lba : Nat) : Except Halt Volume := do
  require (v.numberOfSectors ≠ 0) (.panic "ataWriteSector: gNumberOfSectorsInBootDisk\n")
  require (lba < v.numberOfSectors) (.panic "ataWriteSector: lba limits\n")
  .ok {v with disk := Function.update v.disk lba data}

-- `none` where no sector is read into the buffer.
def readLba (v : Volume) (lba : Nat) : Except Halt (Option Sector) :=
  if v.fatbits = 32 then .ok none
  else if v.fatbits = 16 then do
    let sector ← ataReadSector v lba
    .ok (some sector)
  else if v.fatbits = 12 then .ok none
  else .error (.panic "read_lba: default\n")

-- A sector put at a byte offset of a piece of memory.
def place (memory : Nat → UInt8) (offset : Nat) (sector : Sector) : Nat → UInt8 := fun i =>
  if inside : offset ≤ i ∧ i < offset+512 then sector ⟨i-offset,by omega⟩ else memory i

-- What a reader of the disk finds at byte `i` from a sector on.
def diskBytes (v : Volume) (lba : Nat) (i : Nat) : UInt8 := v.disk (lba+i/512) ⟨i % 512,Nat.mod_lt _ (by decide)⟩

-- __load_sequential_sectors
def loadSequentialSectors (v : Volume) (memory : Nat → UInt8) (lba : Nat) : Nat → Except Halt (Nat → UInt8)
  | 0 => .ok memory
  | n+1 => do
      let memory ← loadSequentialSectors v memory lba n
      let sector ← ataReadSector v (lba+n)
      .ok (place memory (n*sectorSize) sector)

def fsLoadFat (v : Volume) : Except Halt Volume :=
  if v.fatCacheLoaded = true then .ok v
  else do
    let bytes ← loadSequentialSectors v (fun _ => 0) volume1FatLba fatCacheSectors
    .ok {v with
      fat := fun c => if c < fatCacheSectors*sectorSize/2 then word bytes c else v.fat c
      fatCacheLoaded := true}

def fsLoadRootdir (v : Volume) : Except Halt Volume := do
  let bytes ← loadSequentialSectors v (v.directory volume1RootdirAddress) volume1RootdirLba rootdirSectors
  .ok {v with directory := Function.update v.directory volume1RootdirAddress bytes}

-- __do_save_sequence, over the sectors of a piece of memory.
def doSaveSequence (v : Volume) (memory : Nat → UInt8) (lba : Nat) : Nat → Except Halt Volume
  | 0 => .ok v
  | n+1 => do
      let v ← doSaveSequence v memory lba n
      ataWriteSector v (fun j => memory (n*sectorSize+j)) (lba+n)

def fsSaveRootdir (v : Volume) : Except Halt Volume :=
  doSaveSequence v (v.directory volume1RootdirAddress) volume1RootdirLba rootdirSectors

def kstrncmp (s1 s2 : Nat → UInt8) : Nat → Nat
  | 0 => if s1 0 ≠ 0 ∨ s2 0 ≠ 0 then 2 else 0
  | n+1 => if s1 0 ≠ s2 0 then 1 else kstrncmp (fun i => s1 (i+1)) (fun i => s2 (i+1)) n

-- The test of one entry in the loops over a directory: `size` characters of the
-- entry are copied and compared.
def entryMatches (dir : Nat → UInt8) (name : CString) (size : Nat) (i : Nat) : Bool :=
  word dir (16*i) ≠ 0 && kstrncmp name.char (fun j => if j < size then dir (32*i+j) else 0) size = 0

def searchEntry (dir : Nat → UInt8) (name : CString) (size entries : Nat) : Option Nat :=
  (List.range entries).find? (entryMatches dir name size)

-- Only the root directory is read again from the disk.
def reloadDirectory (v : Volume) (dirAddress : UInt64) : Except Halt Volume :=
  if dirAddress = volume1RootdirAddress then fsLoadRootdir v else .ok v

def fsGetFileSize (v : Volume) (name : Option CString) (dirAddress : UInt64) : Except Halt (Nat × Volume) := do
  match name with
  | none => .ok (0,v)
  | some name =>
      if name.strlen = 0 then .ok (0,v)
      else if dirAddress = 0 then .ok (0,v)
      else
        let v ← reloadDirectory v dirAddress
        let root ← pointer v.root (.panic "fsGetFileSize: [FAIL] No root file system!\n")
        require (0 < root.spc) (.panic "fsGetFileSize: [FAIL] spc\n")
        require (0 < root.dirEntries) (.panic "fsGetFileSize: [FAIL] max root entries\n")
        let size := if 11 < name.strlen then 11 else name.strlen
        match searchEntry (v.directory dirAddress) name size root.dirEntries with
        | none => .ok (0,v)
        | some i => .ok ((dword (v.directory dirAddress) (32*i+28)).toNat,v)

theorem littleEndian16_toNat (low high : UInt8) : (littleEndian16 low high).toNat = low.toNat+256*high.toNat := by
  have first := low.toNat_lt
  have second := high.toNat_lt
  simp only [littleEndian16,UInt16.toNat_add,UInt16.toNat_mul,UInt8.toNat_toUInt16,UInt16.reduceToNat]
  omega

theorem littleEndian16_split (c : UInt16) : littleEndian16 c.toUInt8 (c >>> 8).toUInt8 = c := by
  apply UInt16.toNat_inj.mp
  have bound := c.toNat_lt
  rw [littleEndian16_toNat]
  simp only [UInt16.toNat_toUInt8,UInt16.toNat_shiftRight,UInt16.reduceToNat,Nat.reduceMod,Nat.shiftRight_eq_div_pow]
  omega

theorem ataReadSector_ok {v : Volume} {lba : Nat} {sector : Sector} :
    ataReadSector v lba = .ok sector ↔ lba < v.numberOfSectors ∧ sector = v.disk lba := by
  simp only [ataReadSector,bind_ok,require_ok,Except.ok.injEq]
  constructor
  · rintro ⟨_,_,_,inside,same⟩
    exact ⟨inside,same.symm⟩
  · rintro ⟨inside,rfl⟩
    exact ⟨(),by omega,(),inside,rfl⟩

theorem ataWriteSector_ok {v w : Volume} {data : Sector} {lba : Nat} :
    ataWriteSector v data lba = .ok w ↔
      lba < v.numberOfSectors ∧ w = {v with disk := Function.update v.disk lba data} := by
  simp only [ataWriteSector,bind_ok,require_ok,Except.ok.injEq]
  constructor
  · rintro ⟨_,_,_,inside,same⟩
    exact ⟨inside,same.symm⟩
  · rintro ⟨inside,rfl⟩
    exact ⟨(),by omega,(),inside,rfl⟩

theorem place_next (v : Volume) (memory : Nat → UInt8) (lba n : Nat) :
    place (fun i => if i < n*512 then diskBytes v lba i else memory i) (n*512) (v.disk (lba+n)) =
      fun i => if i < (n+1)*512 then diskBytes v lba i else memory i := by
  funext i
  unfold place
  rw [Nat.succ_mul]
  by_cases inside : n*512 ≤ i ∧ i < n*512+512
  · have quotient : i/512 = n := by omega
    have rest : i-n*512 = i % 512 := by omega
    rw [dif_pos inside,if_pos inside.2]
    simp [diskBytes,quotient,rest]
  · rw [dif_neg inside]
    by_cases earlier : i < n*512
    · simp only [earlier,Nat.lt_add_right 512 earlier,↓reduceIte]
    · have later : ¬ i < n*512+512 := fun below => inside ⟨Nat.le_of_not_lt earlier,below⟩
      simp only [earlier,later,↓reduceIte]

theorem loadSequentialSectors_ok {v : Volume} {memory bytes : Nat → UInt8} {lba n : Nat} :
    loadSequentialSectors v memory lba n = .ok bytes ↔
      (n = 0 ∨ lba+n ≤ v.numberOfSectors) ∧ bytes = fun i => if i < n*512 then diskBytes v lba i else memory i := by
  induction n generalizing bytes with
  | zero => simp [loadSequentialSectors,eq_comm]
  | succ n ih =>
      simp only [loadSequentialSectors,bind_ok,ih,ataReadSector_ok,Except.ok.injEq,sectorSize]
      constructor
      · rintro ⟨_,⟨_,rfl⟩,_,⟨inside,rfl⟩,rfl⟩
        exact ⟨.inr (by omega),place_next v memory lba n⟩
      · rintro ⟨inside,rfl⟩
        exact ⟨_,⟨by omega,rfl⟩,_,⟨by omega,rfl⟩,place_next v memory lba n⟩

-- The FAT cache as the next reader of it finds it.
def cachedFat (v : Volume) (c : Nat) : UInt16 :=
  if v.fatCacheLoaded = true then v.fat c
  else if c < 62976 then word (diskBytes v volume1FatLba) c else v.fat c

-- The root directory as fs_load_rootdir brings it in.
def rootdir (v : Volume) (i : Nat) : UInt8 :=
  if i < 16384 then diskBytes v volume1RootdirLba i else v.directory volume1RootdirAddress i

theorem fsLoadFat_ok {v w : Volume} :
    fsLoadFat v = .ok w ↔
      (v.fatCacheLoaded = true ∨ 313 ≤ v.numberOfSectors) ∧ w = {v with fat := cachedFat v,fatCacheLoaded := true} := by
  unfold fsLoadFat
  by_cases loaded : v.fatCacheLoaded = true
  · have same : cachedFat v = v.fat := by
      funext c
      simp [cachedFat,loaded]
    simp only [loaded,↓reduceIte,Except.ok.injEq,true_or,true_and,same]
    rw [← loaded]
    exact eq_comm
  · simp only [loaded,Bool.false_eq_true,↓reduceIte,bind_ok,loadSequentialSectors_ok,Except.ok.injEq,false_or]
    have same : cachedFat v = fun c => if c < fatCacheSectors*sectorSize/2 then
        word (fun i => if i < fatCacheSectors*512 then diskBytes v volume1FatLba i else 0) c else v.fat c := by
      funext c
      have bound : fatCacheSectors*sectorSize/2 = 62976 := rfl
      rw [cachedFat,if_neg loaded,bound]
      by_cases low : c < 62976
      · rw [if_pos low,if_pos low,word,word,if_pos (by unfold fatCacheSectors; omega),if_pos (by unfold fatCacheSectors; omega)]
      · rw [if_neg low,if_neg low]
    rw [same]
    constructor
    · rintro ⟨_,⟨enough,rfl⟩,rfl⟩
      exact ⟨by simpa [fatCacheSectors,volume1FatLba] using enough,rfl⟩
    · rintro ⟨enough,rfl⟩
      exact ⟨_,⟨by simpa [fatCacheSectors,volume1FatLba] using enough,rfl⟩,rfl⟩

theorem fsLoadRootdir_ok {v w : Volume} :
    fsLoadRootdir v = .ok w ↔
      591 ≤ v.numberOfSectors ∧ w = {v with directory := Function.update v.directory volume1RootdirAddress (rootdir v)} := by
  simp only [fsLoadRootdir,bind_ok,loadSequentialSectors_ok,Except.ok.injEq,rootdirSectors,volume1RootdirLba]
  constructor
  · rintro ⟨_,⟨enough,rfl⟩,rfl⟩
    exact ⟨by omega,rfl⟩
  · rintro ⟨enough,rfl⟩
    exact ⟨_,⟨by omega,rfl⟩,rfl⟩

-- The disk after consecutive sectors of memory have been written from `lba` on.
def written (disk : Nat → Sector) (memory : Nat → UInt8) (lba n : Nat) : Nat → Sector := fun k =>
  if lba ≤ k ∧ k < lba+n then fun j => memory ((k-lba)*512+j) else disk k

theorem written_next (disk : Nat → Sector) (memory : Nat → UInt8) (lba n : Nat) :
    Function.update (written disk memory lba n) (lba+n) (fun j => memory (n*512+j)) = written disk memory lba (n+1) := by
  funext k
  by_cases last : k = lba+n
  · subst last
    rw [Function.update_self,written,if_pos (by omega),Nat.add_sub_cancel_left]
  · rw [Function.update_of_ne last]
    unfold written
    by_cases earlier : lba ≤ k ∧ k < lba+n
    · rw [if_pos earlier,if_pos (by omega)]
    · rw [if_neg earlier,if_neg (by omega)]

theorem doSaveSequence_ok {v w : Volume} {memory : Nat → UInt8} {lba n : Nat} :
    doSaveSequence v memory lba n = .ok w ↔
      (n = 0 ∨ lba+n ≤ v.numberOfSectors) ∧ w = {v with disk := written v.disk memory lba n} := by
  induction n generalizing w with
  | zero =>
      have same : written v.disk memory lba 0 = v.disk := by
        funext k
        exact if_neg (by omega)
      simp only [doSaveSequence,same,Except.ok.injEq,true_or,true_and]
      exact eq_comm
  | succ n ih =>
      simp only [doSaveSequence,bind_ok,ih,ataWriteSector_ok,sectorSize]
      constructor
      · rintro ⟨_,⟨_,rfl⟩,inside,rfl⟩
        exact ⟨.inr (by simp only at inside; omega),by rw [written_next]⟩
      · rintro ⟨inside,rfl⟩
        exact ⟨_,⟨by omega,rfl⟩,by simp only; omega,by rw [written_next]⟩

theorem kstrncmp_zero {s1 s2 : Nat → UInt8} {n : Nat} :
    kstrncmp s1 s2 n = 0 ↔ (∀ i < n, s1 i = s2 i) ∧ s1 n = 0 ∧ s2 n = 0 := by
  induction n generalizing s1 s2 with
  | zero =>
      by_cases ended : s1 0 = 0 ∧ s2 0 = 0
      · simp [kstrncmp,ended]
      · have other : s1 0 ≠ 0 ∨ s2 0 ≠ 0 := by tauto
        simp [kstrncmp,other,ended]
  | succ n ih =>
      by_cases first : s1 0 = s2 0
      · simp only [kstrncmp,first,ne_eq,not_true_eq_false,↓reduceIte,ih]
        constructor
        · rintro ⟨rest,ends⟩
          refine ⟨?_,ends⟩
          intro i before
          cases i with
          | zero => exact first
          | succ i => exact rest i (by omega)
        · rintro ⟨all,ends⟩
          exact ⟨fun i before => all (i+1) (by omega),ends⟩
      · simp only [kstrncmp,first,ne_eq,not_false_eq_true,↓reduceIte]
        constructor
        · intro impossible
          cases impossible
        · intro both
          exact absurd (both.1 0 (by omega)) first

theorem reloadDirectory_root {v w : Volume} {dirAddress : UInt64} (reloaded : reloadDirectory v dirAddress = .ok w) :
    w.root = v.root := by
  unfold reloadDirectory at reloaded
  split at reloaded
  · obtain ⟨_,rfl⟩ := fsLoadRootdir_ok.mp reloaded
    rfl
  · cases reloaded
    rfl

theorem searchEntry_some {dir : Nat → UInt8} {name : CString} {size entries i : Nat} :
    searchEntry dir name size entries = some i ↔
      i < entries ∧ entryMatches dir name size i = true ∧ ∀ j < i, entryMatches dir name size j = false := by
  simp only [searchEntry,List.find?_range_eq_some,List.mem_range,Bool.not_eq_eq_eq_not,Bool.not_true]
  tauto

end GramadoKernel
