import GramadoKernel.Library.Ranges
import GramadoKernel.Library.Runs
import GramadoKernel.State
import Mathlib.Tactic.Cases

namespace GramadoKernel

-- x64mm.h, mmglobal.h
def pageCountMax : Nat := 512
def pageSize : Nat := 4096

-- struct page_d. `next` is the slot of the page object that it points to.
structure Page where
  id : Int := 0
  used : Bool := false
  magic : Nat := 0
  absoluteFrameNumber : UInt32 := 0
  locked : Bool := false
  free : Bool := false
  refCount : Int := 0
  next : Option Nat := none
  deriving DecidableEq

-- The fields of struct process_d that allocPages reads and writes.
structure Owner where
  magic : Nat
  allocatedMemory : UInt64

-- pageAllocList, whose entries are `none` for NULL, g_pagedpool_va and the
-- current process.
structure PagePool where
  slot : Nat → Option Page
  base : UInt64
  process : Option Owner

-- The answers of the routines outside the pool during one call: whether kmalloc
-- has room for the object of a slot, and virtual_to_physical.
structure Supply where
  kmalloc : Nat → Bool
  virtualToPhysical : UInt64 → UInt64

def PagePool.store (pool : PagePool) (i : Nat) (p : Page) : PagePool :=
  {pool with slot := Function.update pool.slot i (some p)}

def pageAddress (base : UInt64) (id : Int) : UInt64 := base+UInt64.ofInt (id*pageSize)

def absoluteFrame (pa : UInt64) : UInt32 :=
  let aligned := if pa % 4096 ≠ 0 then pa-pa % 4096 else pa
  (aligned/4096).toUInt32

-- __pageObject, with the slot of the new object.
def pageObject (supply : Supply) (pool : PagePool) : Option (Nat × Page × PagePool) :=
  match (List.range pageCountMax).find? fun i => (pool.slot i).isNone with
  | none => none
  | some i =>
      if supply.kmalloc i = true then
        let new : Page := {id := i,used := true,magic := 1234}
        some (i,new,pool.store i new)
      else none

def newPage (supply : Supply) (pool : PagePool) : Except Halt (UInt64 × PagePool) := do
  require (pool.base ≠ 0) (.panic "newPage: base\n")
  let (i,new,pool) ← pointer (pageObject supply pool) (.panic "newPage: New\n")
  require (new.used = true) (.panic "newPage: New used\n")
  require (new.magic = 1234) (.panic "newPage: New magic\n")
  require (0 ≤ new.id) (.panic "newPage: id underflow\n")
  require (new.id < pageCountMax) (.panic "newPage: id overflow\n")
  let va := pageAddress pool.base new.id
  require (va ≠ 0) (.panic "newPage: va==0\n")
  let pa := supply.virtualToPhysical va
  require (pa ≠ 0) (.panic "newPage: pa==0\n")
  .ok (va,pool.store i {new with locked := false,refCount := 1,absoluteFrameNumber := absoluteFrame pa})

-- The loop of __firstSlotForAList, whose index is always Base+Count: an occupied
-- slot starts it again right behind itself.
def slotsFrom (pool : PagePool) (size : Nat) : Nat → Nat → Nat → Option Nat
  | 0,_,_ => none
  | remaining+1,base,count =>
      if (pool.slot (base+count)).isSome then slotsFrom pool size remaining (base+count+1) 0
      else if size ≤ count+1 then some base
      else slotsFrom pool size remaining base (count+1)

def firstSlotForAList (pool : PagePool) (size : Nat) : Option Nat := slotsFrom pool size pageCountMax 0 0

def PagePool.link (pool : PagePool) (conductor : Option Nat) (i : Nat) : PagePool :=
  match conductor with
  | none => pool
  | some j => {pool with slot := Function.update pool.slot j ((pool.slot j).map fun p => {p with next := some i})}

-- process->allocated_memory += bytes. With no process the source reads its magic
-- all the same, when the flag is FALSE already.
def PagePool.charge (pool : PagePool) (bytes : Nat) : PagePool :=
  {pool with process := pool.process.map fun process =>
    if process.magic = 1234 then {process with allocatedMemory := process.allocatedMemory+UInt64.ofNat bytes} else process}

def copiedPage (supply : Supply) (base : UInt64) (i : Nat) : Page :=
  let pa := supply.virtualToPhysical (pageAddress base i)
  {id := i,used := true,magic := 1234,free := false,locked := false,refCount := 1
   absoluteFrameNumber := absoluteFrame pa}

-- The copying loop of allocPages over the slots that are left.
def copyPages (supply : Supply) (first size : Nat) : List Nat → Option Nat → Nat → PagePool → Except Halt (UInt64 × PagePool)
  | [],_,_,_ => .error (.panic "allocPages: fail\n")
  | i :: rest,conductor,count,pool =>
      match pool.slot i with
      | some _ => copyPages supply first size rest conductor count pool
      | none => do
          require (supply.kmalloc i = true) (.panic "allocPages: fail 2\n")
          let pool := (pool.store i (copiedPage supply pool.base i)).link conductor i
          if size ≤ count+1 then do
            let ret ← pointer (pool.slot first) (.nullPointer "Ret->id")
            .ok (pageAddress pool.base ret.id,pool.charge (size*pageSize))
          else copyPages supply first size rest (some i) (count+1) pool

-- allocPages. pageConductor is not initialised: `conductor` is the page object
-- that it happens to point to, or none when it points to no object of the list.
def allocPages (supply : Supply) (conductor : Option Nat) (size : Int) (pool : PagePool) : Except Halt (UInt64 × PagePool) := do
  require (0 < size) (.panic "allocPages: size 0\n")
  if size = 1 then do
    let (va,pool) ← newPage supply pool
    .ok (va,if va ≠ 0 then pool.charge pageSize else pool)
  else do
    require (size < pageCountMax) (.panic "allocPages: size limits\n")
    let first ← pointer (firstSlotForAList pool size.toNat) (.panic "allocPages: No more free slots\n")
    copyPages supply first size.toNat (List.range' first (size.toNat+1)) conductor 0 pool

def Page.unlinked (p : Page) : Page := {p with next := none}

-- The slots from `first` on were free and hold their pages, and no other slot
-- has changed beyond the link of its page.
structure Filled (first count : Nat) (pool pool' : PagePool) : Prop where
  base : pool'.base = pool.base
  free : ∀ i, first ≤ i → i < first+count → pool.slot i = none
  taken : ∀ i, first ≤ i → i < first+count → ∃ p, pool'.slot i = some p ∧ p.id = i
  kept : ∀ i, i < first ∨ first+count ≤ i → (pool'.slot i).map Page.unlinked = (pool.slot i).map Page.unlinked

theorem slot_of_unlinked {a b : Option Page} (same : b.map Page.unlinked = a.map Page.unlinked) (present : a = some p) :
    ∃ q, b = some q ∧ q.id = p.id := by
  subst present
  cases b with
  | none => cases same
  | some q =>
      have equal : q.unlinked = p.unlinked := Option.some.inj same
      have ids : q.unlinked.id = p.unlinked.id := congrArg Page.id equal
      exact ⟨q,rfl,ids⟩

theorem none_of_unlinked {a b : Option Page} (same : b.map Page.unlinked = a.map Page.unlinked) : b = none ↔ a = none := by
  cases a <;> cases b <;> simp_all

theorem Filled.trans (earlier : Filled first count pool middle) (later : Filled (first+count) more middle pool') :
    Filled first (count+more) pool pool' := by
  refine ⟨later.base.trans earlier.base,?_,?_,?_⟩
  · intro i above below
    by_cases old : i < first+count
    · exact earlier.free i above old
    · have free := later.free i (by omega) (by omega)
      exact (none_of_unlinked (earlier.kept i (by omega))).mp free
  · intro i above below
    by_cases old : i < first+count
    · obtain ⟨p,stored,named⟩ := earlier.taken i above old
      obtain ⟨q,kept,same⟩ := slot_of_unlinked (later.kept i (.inl old)) stored
      exact ⟨q,kept,same.trans named⟩
    · exact later.taken i (by omega) (by omega)
  · intro i outside
    exact (later.kept i (by omega)).trans (earlier.kept i (by omega))

theorem link_slot (pool : PagePool) (conductor : Option Nat) (i j : Nat) :
    ((pool.link conductor i).slot j).map Page.unlinked = (pool.slot j).map Page.unlinked := by
  cases conductor with
  | none => rfl
  | some target =>
      by_cases same : j = target
      · subst same
        cases found : pool.slot j <;> simp [PagePool.link,Page.unlinked,found]
      · simp [PagePool.link,same]

theorem link_base (pool : PagePool) (conductor : Option Nat) (i : Nat) : (pool.link conductor i).base = pool.base := by
  cases conductor <;> rfl

theorem store_filled {i : Nat} {p : Page} (empty : pool.slot i = none) (named : p.id = i) (base : pool'.base = pool.base)
    (same : ∀ j, (pool'.slot j).map Page.unlinked = ((pool.store i p).slot j).map Page.unlinked) : Filled i 1 pool pool' := by
  refine ⟨base,?_,?_,?_⟩
  · intro j above below
    obtain rfl : j = i := by omega
    exact empty
  · intro j above below
    obtain rfl : j = i := by omega
    obtain ⟨q,stored,id⟩ := slot_of_unlinked (same j) (Function.update_self ..)
    exact ⟨q,stored,id.trans named⟩
  · intro j outside
    have other : j ≠ i := by omega
    rw [same j]
    exact congrArg (Option.map Page.unlinked) (Function.update_of_ne other _ _)

theorem slotsFrom_free (found : slotsFrom pool size remaining base count = some first)
    (counted : ∀ i, base ≤ i → i < base+count → pool.slot i = none) (short : count < size) :
    first+size ≤ base+count+remaining ∧ ∀ i, first ≤ i → i < first+size → pool.slot i = none := by
  induction remaining generalizing base count with
  | zero => cases found
  | succ remaining ih =>
      unfold slotsFrom at found
      split at found
      · obtain ⟨inside,free⟩ := ih found (by omega) (by omega)
        exact ⟨by omega,free⟩
      · rename_i empty
        have grown : ∀ i, base ≤ i → i < base+(count+1) → pool.slot i = none := by
          intro i above below
          by_cases last : i = base+count
          · subst last
            simpa using empty
          · exact counted i above (by omega)
        split at found
        · cases found
          exact ⟨by omega,fun i above below => grown i above (by omega)⟩
        · obtain ⟨inside,free⟩ := ih found grown (by omega)
          exact ⟨by omega,free⟩

-- The copying loop over a run of free slots stores a page in each of them and
-- returns at the last, so it never looks at the slot behind the run.
theorem copyPages_filled {conductor : Option Nat}
    (called : copyPages supply first size (List.range' i (left+1)) conductor count pool = .ok (va,pool'))
    (free : ∀ j, i ≤ j → j < i+left → pool.slot j = none) (rest : count+left = size) (more : 0 < left) :
    Filled i left pool pool' ∧ ∃ ret, pool'.slot first = some ret ∧ va = pageAddress pool'.base ret.id := by
  induction left generalizing i conductor count pool with
  | zero => cases more
  | succ left ih =>
      have empty := free i (by omega) (by omega)
      rw [List.range'_succ] at called
      unfold copyPages at called
      simp only [empty,bind_ok,require_ok] at called
      obtain ⟨_,_,called⟩ := called
      have one : Filled i 1 pool ((pool.store i (copiedPage supply pool.base i)).link conductor i) :=
        store_filled empty rfl (link_base ..) (link_slot _ conductor i)
      split at called
      · obtain rfl : left = 0 := by omega
        simp only [bind_ok,pointer_ok] at called
        obtain ⟨ret,found,called⟩ := called
        cases called
        exact ⟨⟨one.base,one.free,one.taken,one.kept⟩,ret,found,rfl⟩
      · rename_i unfinished
        have still : ∀ j, i+1 ≤ j → j < i+1+left →
            ((pool.store i (copiedPage supply pool.base i)).link conductor i).slot j = none := by
          intro j above below
          exact (none_of_unlinked (one.kept j (by omega))).mpr (free j (by omega) (by omega))
        obtain ⟨later,result⟩ := ih called still (by omega) (by omega)
        rw [Nat.add_comm left 1]
        exact ⟨one.trans later,result⟩

theorem newPage_filled (called : newPage supply pool = .ok (va,pool')) :
    ∃ i < pageCountMax, Filled i 1 pool pool' ∧ va = pageAddress pool.base i := by
  unfold newPage at called
  simp only [bind_ok,require_ok,pointer_ok] at called
  obtain ⟨_,_,⟨i,new,stored⟩,object,called⟩ := called
  unfold pageObject at object
  split at object
  · cases object
  rename_i found
  split at object
  · cases object
    obtain ⟨_,_,_,_,_,_,_,_,_,_,_,_,called⟩ := called
    cases called
    have empty : pool.slot i = none := by simpa using List.find?_some found
    have bound : i < pageCountMax := List.mem_range.mp (List.mem_of_find?_eq_some found)
    let page : Page :=
      {id := i,used := true,magic := 1234,refCount := 1
       absoluteFrameNumber := absoluteFrame (supply.virtualToPhysical (pageAddress pool.base i))}
    refine ⟨i,bound,store_filled (p := page) empty rfl rfl ?_,rfl⟩
    intro j
    simp only [PagePool.store,Function.update_idem]
    rfl
  · cases object

theorem charge_filled (bytes : Nat) (filled : Filled first count pool pool') : Filled first count pool (pool'.charge bytes) :=
  ⟨filled.base,filled.free,filled.taken,filled.kept⟩

theorem allocPages_filled {conductor : Option Nat} (called : allocPages supply conductor size pool = .ok (va,pool')) :
    ∃ first, first+size.toNat ≤ pageCountMax ∧ 0 < size.toNat ∧ Filled first size.toNat pool pool' ∧
      va = pageAddress pool.base first := by
  unfold allocPages at called
  simp only [bind_ok,require_ok] at called
  obtain ⟨_,positive,called⟩ := called
  split at called
  · rename_i single
    subst single
    simp only [bind_ok] at called
    obtain ⟨⟨address,middle⟩,new,called⟩ := called
    cases called
    obtain ⟨i,bound,filled,start⟩ := newPage_filled new
    refine ⟨i,bound,by decide,?_,start⟩
    dsimp only
    split
    · exact charge_filled _ filled
    · exact filled
  · simp only [bind_ok,require_ok,pointer_ok] at called
    obtain ⟨_,_,first,found,called⟩ := called
    obtain ⟨inside,free⟩ := slotsFrom_free found (by omega) (by omega)
    obtain ⟨filled,ret,stored,address⟩ := copyPages_filled called free (by omega) (by omega)
    obtain ⟨p,first',id⟩ := filled.taken first (by omega) (by omega)
    rw [stored] at first'
    cases first'
    refine ⟨first,by omega,by omega,filled,?_⟩
    rw [address,id,filled.base]

structure Grant where
  va : UInt64
  pages : Nat
  deriving DecidableEq

def Grant.range (base : UInt64) (grant : Grant) : Ranges.Range :=
  ⟨(grant.va-base).toNat,(grant.va-base).toNat+grant.pages*pageSize⟩

structure Covers (pool : PagePool) (grant : Grant) (pool' : PagePool) (first : Nat) : Prop where
  address : grant.va = pageAddress pool.base first
  nonempty : 0 < grant.pages
  inside : first+grant.pages ≤ pageCountMax
  filled : Filled first grant.pages pool pool'

theorem Covers.range_first (covers : Covers pool grant pool' first) : (grant.va-pool.base).toNat = first*pageSize := by
  have inside := covers.inside
  have small : ((first : Int)*pageSize % 2^64).toNat = first*pageSize := by
    unfold pageCountMax at inside
    unfold pageSize
    omega
  have short : first*pageSize < 2^64 := by
    unfold pageCountMax at inside
    unfold pageSize
    omega
  rw [covers.address]
  unfold pageAddress
  rw [UInt64.add_comm,UInt64.add_sub_cancel]
  unfold UInt64.ofInt
  rw [small]
  exact UInt64.toNat_ofNat_of_lt short

-- Every grant so far lies in the pool apart from the others, over occupied slots.
structure PoolDiscipline (base : UInt64) (grants : List Grant) (pool : PagePool) : Prop where
  unmoved : pool.base = base
  ranges : Ranges.Laid 0 (grants.map (Grant.range base)) (pageCountMax*pageSize)
  occupied : ∀ r ∈ grants.map (Grant.range base), r.first < r.past ∧
    ∀ i, r.first ≤ i → i < r.past → pool.slot (i/pageSize) ≠ none
  ids : ∀ i p, pool.slot i = some p → p.id = i

theorem Covers.range_proper (covers : Covers pool grant pool' first) :
    (grant.range pool.base).first < (grant.range pool.base).past := by
  have bytes := Nat.mul_pos covers.nonempty (show 0 < pageSize by decide)
  change (grant.va-pool.base).toNat < (grant.va-pool.base).toNat+grant.pages*pageSize
  omega

theorem Covers.range_inside (covers : Covers pool grant pool' first) :
    (grant.range pool.base).past ≤ pageCountMax*pageSize := by
  change (grant.va-pool.base).toNat+grant.pages*pageSize ≤ pageCountMax*pageSize
  rw [covers.range_first,← Nat.add_mul]
  exact Nat.mul_le_mul_right _ covers.inside

-- The slot of a byte of the grant is one of the slots that were taken for it.
theorem Covers.range_slot (covers : Covers pool grant pool' first) (above : (grant.range pool.base).first ≤ i)
    (below : i < (grant.range pool.base).past) : first ≤ i/pageSize ∧ i/pageSize < first+grant.pages := by
  have page : 0 < pageSize := by decide
  change (grant.va-pool.base).toNat ≤ i at above
  change i < (grant.va-pool.base).toNat+grant.pages*pageSize at below
  rw [covers.range_first] at above below
  rw [← Nat.add_mul] at below
  exact ⟨(Nat.le_div_iff_mul_le page).mpr above,(Nat.div_lt_iff_lt_mul page).mpr below⟩

theorem Filled.occupied (filled : Filled first count pool pool') (taken : pool.slot i ≠ none) : pool'.slot i ≠ none := by
  by_cases fresh : first ≤ i ∧ i < first+count
  · exact absurd (filled.free i fresh.1 fresh.2) taken
  · intro gone
    exact taken ((none_of_unlinked (filled.kept i (by omega))).mp gone)

theorem Filled.ids (filled : Filled first count pool pool') (ids : ∀ i p, pool.slot i = some p → p.id = i) :
    ∀ i p, pool'.slot i = some p → p.id = i := by
  intro i p stored
  by_cases fresh : first ≤ i ∧ i < first+count
  · obtain ⟨q,new,id⟩ := filled.taken i fresh.1 fresh.2
    rw [stored] at new
    cases new
    exact id
  · obtain ⟨q,old,same⟩ := slot_of_unlinked (filled.kept i (by omega)).symm stored
    exact same.symm.trans (ids i q old)

theorem Covers.discipline (covers : Covers pool grant pool' first) (before : PoolDiscipline base grants pool) :
    PoolDiscipline base (grants ++ [grant]) pool' := by
  obtain ⟨rfl,ranges,occupied,ids⟩ := before
  have proper := covers.range_proper
  refine ⟨covers.filled.base,?_,?_,covers.filled.ids ids⟩
  · rw [List.map_append]
    refine ranges.snoc (Nat.le_refl _) ⟨Nat.zero_le _,Nat.le_of_lt proper,covers.range_inside⟩ ?_
    intro old member
    obtain ⟨nonempty,taken⟩ := occupied old member
    refine Ranges.apart_of_split (fun i => pool.slot (i/pageSize) ≠ none) nonempty proper taken ?_
    intro i above below present
    have slot := covers.range_slot above below
    exact present (covers.filled.free _ slot.1 slot.2)
  · intro r member
    rw [List.map_append] at member
    rcases List.mem_append.mp member with old | new
    · obtain ⟨nonempty,taken⟩ := occupied r old
      exact ⟨nonempty,fun i above below => covers.filled.occupied (taken i above below)⟩
    · cases List.mem_singleton.mp new
      refine ⟨proper,?_⟩
      intro i above below
      have slot := covers.range_slot above below
      obtain ⟨p,stored,_⟩ := covers.filled.taken _ slot.1 slot.2
      simp [stored]

end GramadoKernel
