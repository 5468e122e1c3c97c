import GramadoKernel.Library.Runs
import GramadoKernel.PathNames

namespace GramadoKernel

-- What a load changes in a volume are its caches.
structure SameDisk (v w : Volume) : Prop where
  size : w.numberOfSectors = v.numberOfSectors
  bits : w.fatbits = v.fatbits
  disk : w.disk = v.disk
  root : w.root = v.root
  fat : cachedFat w = cachedFat v
  entries : rootdir w = rootdir v

theorem SameDisk.refl (v : Volume) : SameDisk v v := ⟨rfl,rfl,rfl,rfl,rfl,rfl⟩

theorem SameDisk.trans (first : SameDisk u v) (second : SameDisk v w) : SameDisk u w :=
  ⟨second.size.trans first.size,second.bits.trans first.bits,second.disk.trans first.disk,second.root.trans first.root,second.fat.trans first.fat,
    second.entries.trans first.entries⟩

theorem SameDisk.reads (same : SameDisk v w) {buffer : UInt64} {cluster : UInt16} {k : Nat} :
    Reads (cachedVolume w) buffer cluster k ↔ Reads (cachedVolume v) buffer cluster k := by
  have fat : (cachedVolume w).fat = (cachedVolume v).fat := same.fat
  have bits : (cachedVolume w).fatbits = (cachedVolume v).fatbits := same.bits
  have size : (cachedVolume w).numberOfSectors = (cachedVolume v).numberOfSectors := same.size
  simp only [Reads,Readable,fat,bits,size]

-- A chain that the loop of fsLoadFile reads to its end.
structure ReadsChain (v : Volume) (buffer : UInt64) (cluster : UInt16) (n : Nat) : Prop where
  some : 0 < n
  reads : ∀ k < n, Reads (cachedVolume v) buffer cluster k
  mark : LastMark (chain (cachedFat v) cluster n)
  short : n/2 ≤ imagesizeLimitInKb

theorem SameDisk.chainWrites (same : SameDisk v w) (buffer : UInt64) (cluster : UInt16) (n : Nat) :
    chainWrites w buffer cluster n = GramadoKernel.chainWrites v buffer cluster n := by
  simp only [GramadoKernel.chainWrites,same.disk,same.fat]

-- No chain that is loaded has more clusters.
def loadTurns : Nat := 2*imagesizeLimitInKb+1

theorem ReadsChain.turns {v : Volume} {buffer : UInt64} {cluster : UInt16} {n : Nat} (chained : ReadsChain v buffer cluster n) : n ≤ loadTurns := by
  have short := chained.short
  unfold loadTurns
  omega

theorem ReadsChain.run {v : Volume} (sixteen : v.fatbits = 16) {buffer : UInt64} {cluster : UInt16} {n turns : Nat} (chained : ReadsChain v buffer cluster n)
    (enough : n ≤ turns) :
    Loops.run (fsLoadFileTurn (cachedVolume v)) turns ⟨buffer,cluster,0,[]⟩ = .inr ⟨.ok 0,chainWrites v buffer cluster n⟩ := by
  rw [chain_loop_returns chained.some chained.reads chained.mark chained.short enough,chain_sectors sixteen]

-- The caches that a load fills before its loop.
theorem fsGetFileSize_volume {v w : Volume} {name : CString} {address : UInt64} {size : Nat} (found : fsGetFileSize v (some name) address = .ok (size,w)) :
    w = v ∨ reloadDirectory v address = .ok w := by
  unfold fsGetFileSize at found
  simp only at found
  split at found
  · cases found
    exact .inl rfl
  · split at found
    · cases found
      exact .inl rfl
    · simp only [bind_ok,require_ok,pointer_ok] at found
      obtain ⟨u,reloaded,_,_,_,_,_,_,found⟩ := found
      refine .inr ?_
      split at found
      · cases found
        exact reloaded
      · cases found
        exact reloaded

-- The same disk, with the same directories in the buffers.
structure SameVolume (v w : Volume) : Prop extends SameDisk v w where
  others : ∀ a, a ≠ volume1RootdirAddress → w.directory a = v.directory a

theorem SameVolume.refl (v : Volume) : SameVolume v v := ⟨.refl v,fun _ _ => rfl⟩

theorem SameVolume.trans (first : SameVolume u v) (second : SameVolume v w) : SameVolume u w :=
  ⟨first.toSameDisk.trans second.toSameDisk,fun a other => (second.others a other).trans (first.others a other)⟩

theorem reloadDirectory_same {v w : Volume} {address : UInt64} (reloaded : reloadDirectory v address = .ok w) : SameVolume v w := by
  unfold reloadDirectory at reloaded
  split at reloaded
  · obtain ⟨_,rfl⟩ := fsLoadRootdir_ok.mp reloaded
    refine ⟨⟨rfl,rfl,rfl,rfl,rfl,?_⟩,fun a other => Function.update_of_ne other _ _⟩
    funext i
    simp only [rootdir,Function.update_self]
    split
    · rfl
    · rfl
  · cases reloaded
    exact .refl v

theorem fsLoadFat_same {v w : Volume} (loaded : fsLoadFat v = .ok w) : SameVolume v w := by
  obtain ⟨_,rfl⟩ := fsLoadFat_ok.mp loaded
  exact ⟨⟨rfl,rfl,rfl,rfl,loaded_cachedFat rfl,rfl⟩,fun _ _ => rfl⟩

theorem fsLoadFileOpening_same {v w : Volume} {q : LoadRequest} {first : Option UInt16} (opened : fsLoadFileOpening v q = .ok (first,w)) :
    SameVolume v w := by
  simp only [fsLoadFileOpening,bind_ok] at opened
  obtain ⟨_,_,opened⟩ := opened
  split at opened
  · cases opened
    exact .refl v
  · split at opened
    · cases opened
      exact .refl v
    · simp only [bind_ok] at opened
      obtain ⟨⟨size,u⟩,sized,opened⟩ := opened
      have sought : SameVolume v u := by
        rcases fsGetFileSize_volume sized with rfl | reloaded
        · exact .refl _
        · exact reloadDirectory_same reloaded
      simp only at opened
      split at opened
      · cases opened
        exact sought
      · split at opened
        · cases opened
          exact sought
        · split at opened
          · cases opened
            exact sought
          · simp only [bind_ok] at opened
            obtain ⟨x,loaded,opened⟩ := opened
            cases opened
            exact sought.trans (fsLoadFat_same loaded)

theorem openedVolume_same (v : Volume) (q : LoadRequest) : SameVolume v (openedVolume v q) := by
  unfold openedVolume
  split
  · exact .refl v
  · rename_i opened
    exact fsLoadFileOpening_same opened

theorem received_same (v : Volume) {address : UInt64} (other : address ≠ volume1RootdirAddress) (stored : List SectorWrite) :
    SameDisk v (v.received address stored) := by
  refine ⟨rfl,rfl,rfl,rfl,rfl,?_⟩
  funext i
  simp only [rootdir,Volume.received,Function.update_of_ne other.symm]
  rfl

-- The buffers of __initialize_fs_buffers: four pages each, behind the root directory.
structure DirectoryBuffers (buffers : Nat → UInt64) : Prop where
  behind : ∀ l < fsNBuffers, volume1RootdirAddress.toNat+16384 ≤ (buffers l).toNat
  apart : ∀ l < fsNBuffers, ∀ m < fsNBuffers, l ≠ m → (buffers l).toNat+16384 ≤ (buffers m).toNat ∨ (buffers m).toNat+16384 ≤ (buffers l).toNat

theorem DirectoryBuffers.given (given : DirectoryBuffers buffers) (inside : l < fsNBuffers) : buffers l ≠ 0 := by
  intro zero
  have behind := given.behind l inside
  simp [zero] at behind

theorem DirectoryBuffers.other (given : DirectoryBuffers buffers) (inside : l < fsNBuffers) : buffers l ≠ volume1RootdirAddress := by
  intro same
  have behind := given.behind l inside
  rw [same] at behind
  omega

theorem DirectoryBuffers.differ (given : DirectoryBuffers buffers) (first : l < fsNBuffers) (second : m < fsNBuffers) (different : l ≠ m) :
    buffers l ≠ buffers m := by
  intro same
  have apart := given.apart l first m second different
  rw [same] at apart
  omega

def PathRequest.room (q : PathRequest) : Nat := (q.bufferSize &&& 0xFFFFFFFF).toNat % 4294967296

-- The checks of fs_load_path and fsLoadFile on the address and on the size of the buffer.
structure PathRequest.Accepted (q : PathRequest) : Prop where
  address : q.address ≠ 0
  some : q.room ≠ 0
  limit : q.room ≤ 512*4096

-- The volume in a walk: only the buffers of the levels before have been filled.
structure Walking (v w : Volume) (buffers : Nat → UInt64) (l : Nat) : Prop extends SameDisk v w where
  later : ∀ m, l ≤ m → m < fsNBuffers → w.directory (buffers m) = v.directory (buffers m)

section Walk

variable {v w : Volume} {buffers : Nat → UInt64} {char : Nat → UInt8} {q : PathRequest} {turns : Nat}

theorem Walking.opened (walking : Walking v w buffers l) (r : LoadRequest) (given : DirectoryBuffers buffers) : Walking v (openedVolume w r) buffers l := by
  have same := openedVolume_same w r
  refine ⟨walking.toSameDisk.trans same.toSameDisk,?_⟩
  intro m late inside
  rw [same.others _ (given.other inside),walking.later m late inside]

theorem Walking.received (walking : Walking v w buffers l) (given : DirectoryBuffers buffers) (inside : l < fsNBuffers) (stored : List SectorWrite) :
    Walking v (w.received (buffers l) stored) buffers (l+1) := by
  refine ⟨walking.toSameDisk.trans (received_same w (given.other inside) stored),?_⟩
  intro m late within
  simp only [Volume.received]
  rw [Function.update_of_ne (given.differ within inside (by omega)),walking.later m (by omega) within]

-- A request for a path of folders and a file.
structure PathRequest.Asks (q : PathRequest) (n : PathName) : Prop where
  path : ∃ path, q.path = some path ∧ Spells path.char 0 n.text ∧ path.strlen = n.text.length

theorem PathRequest.Accepted.size (accepted : q.Accepted) : q.bufferSize ≠ 0 := by
  intro none
  apply accepted.some
  simp [PathRequest.room,none]

end Walk

-- An entry of a directory of `bound` bytes that a load takes.
def Offers (dir : Nat → UInt8) (bound : Nat) (name : CString) (room : Nat) (cluster : UInt16) : Prop :=
  ∃ i, 32*i+32 ≤ bound ∧ SameName (entryName dir i) name.char ∧ (∀ j < i, ¬ SameName (entryName dir j) name.char) ∧
    word dir (16*i+13) = cluster ∧ (cluster ≠ 0 ∧ cluster ≤ 0xFFF0) ∧ (dword dir (32*i+28)).toNat < room

-- Whatever stands behind the directory, the first entry of the name is its own.
theorem Offers.found {dir dir' : Nat → UInt8} {bound room : Nat} {name : CString} {cluster : UInt16} (offers : Offers dir bound name room cluster)
    (small : bound ≤ 16384) (full : name.strlen = 11) (same : ∀ i < bound, dir' i = dir i) : firstCluster dir' name room = some cluster := by
  obtain ⟨i,inside,named,first,starts,accepted,fits⟩ := offers
  have entry : ∀ j ≤ i, SameName (entryName dir' j) name.char ↔ SameName (entryName dir j) name.char := by
    intro j before
    constructor
    · intro other m below
      rw [← other m below,entryName,entryName,same _ (by omega)]
    · intro other m below
      rw [← other m below,entryName,entryName,same _ (by omega)]
  have found : searchEntry dir' name name.strlen fat16RootEntries = some i := by
    rw [full]
    refine searchEntry_some.mpr ⟨by simp only [fat16RootEntries]; omega,(entryMatches_full full i).mpr ((entry i (Nat.le_refl i)).mpr named),?_⟩
    intro j before
    rw [← Bool.not_eq_true,entryMatches_full full,entry j (Nat.le_of_lt before)]
    exact first j before
  have start : word dir' (16*i+13) = cluster := by
    rw [← starts]
    simp only [word,same (2*(16*i+13)) (by omega),same (2*(16*i+13)+1) (by omega)]
  have size : dword dir' (32*i+28) = dword dir (32*i+28) := by
    simp only [dword,same (32*i+28) (by omega),same (32*i+28+1) (by omega),same (32*i+28+2) (by omega),same (32*i+28+3) (by omega)]
  rw [firstCluster_file found start accepted,size,if_neg (Nat.not_le.mpr fits)]

end GramadoKernel
