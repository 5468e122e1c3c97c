import Mathlib.Data.List.Basic

namespace Moving

-- Cells at addresses, with the addresses that have been read and written.
structure Storage (α : Type) where
  cell : Nat → α
  loads : List Nat
  stores : List Nat

def Storage.load (m : Storage α) (a : Nat) : α × Storage α := (m.cell a,{m with loads := a :: m.loads})

def Storage.store (m : Storage α) (a : Nat) (value : α) : Storage α :=
  {m with cell := fun x => if x = a then value else m.cell x,stores := a :: m.stores}

-- One assignment *dst = *src of a word. All of it is read before it is written.
def Storage.copy (size dst src : Nat) (m : Storage α) : Storage α where
  cell := fun a => if dst ≤ a ∧ a < dst+size then m.cell (src+(a-dst)) else m.cell a
  loads := (List.range size).map (src+·) ++ m.loads
  stores := (List.range size).map (dst+·) ++ m.stores

-- while (n--) *dst++ = *src++
def Storage.copies (size : Nat) : Nat → Nat → Nat → Storage α → Storage α
  | 0,_,_,m => m
  | n+1,dst,src,m => Storage.copies size n (dst+size) (src+size) (m.copy size dst src)

-- Lines of n words each, a pitch apart.
def Storage.copyLines (size n pitch : Nat) : Nat → Nat → Nat → Storage α → Storage α
  | 0,_,_,m => m
  | count+1,dst,src,m => Storage.copyLines size n pitch count (dst+pitch) (src+pitch) (m.copies size n dst src)

-- The cells at some addresses hold what stood `d` behind them, and the others are unchanged.
structure Moved (m t : Storage α) (Region : Nat → Prop) (d : Nat) : Prop where
  moved : ∀ a, Region a → t.cell a = m.cell (a+d)
  kept : ∀ a, ¬ Region a → t.cell a = m.cell a

-- The addresses that have been written, and those `d` behind them that have been read.
structure Touched (m t : Storage α) (Region : Nat → Prop) (d : Nat) : Prop where
  loads : ∀ a, a ∈ t.loads ↔ a ∈ m.loads ∨ ∃ x, Region x ∧ a = x+d
  stores : ∀ a, a ∈ t.stores ↔ a ∈ m.stores ∨ Region a

def Span (first length : Nat) (a : Nat) : Prop := first ≤ a ∧ a < first+length

-- Lines of one length, a pitch apart.
def Lines (first length pitch count : Nat) (a : Nat) : Prop := ∃ i < count, Span (first+i*pitch) length a

section Regions

variable {m t u : Storage α} {One Two : Nat → Prop} {d : Nat}

theorem Moved.refl (m : Storage α) (d : Nat) : Moved m m (fun _ => False) d := ⟨fun _ none => none.elim,fun _ _ => rfl⟩

theorem Touched.refl (m : Storage α) (d : Nat) : Touched m m (fun _ => False) d := ⟨fun _ => by simp,fun _ => by simp⟩

theorem Moved.congr (moved : Moved m t One d) (same : ∀ a, One a ↔ Two a) : Moved m t Two d :=
  ⟨fun a inside => moved.moved a ((same a).mpr inside),fun a outside => moved.kept a fun inside => outside ((same a).mp inside)⟩

theorem Touched.congr (reached : Touched m t One d) (same : ∀ a, One a ↔ Two a) : Touched m t Two d := by
  obtain rfl : One = Two := funext fun a => propext (same a)
  exact reached

-- A later move must not read what an earlier one has written.
theorem Moved.append (first : Moved m t One d) (second : Moved t u Two d) (ahead : ∀ a, Two a → ¬ One (a+d)) :
    Moved m u (fun a => One a ∨ Two a) d := by
  constructor
  · intro a inside
    by_cases later : Two a
    · rw [second.moved a later]
      exact first.kept _ (ahead a later)
    · rw [second.kept a later]
      exact first.moved a (inside.resolve_right later)
  · intro a outside
    rw [second.kept a fun later => outside (.inr later)]
    exact first.kept a fun earlier => outside (.inl earlier)

theorem Touched.append (first : Touched m t One d) (second : Touched t u Two d) : Touched m u (fun a => One a ∨ Two a) d := by
  constructor
  · intro a
    simp only [second.loads,first.loads,or_and_right,exists_or,or_assoc]
  · intro a
    simp only [second.stores,first.stores,or_assoc]

theorem copy_moved (size dst d : Nat) (m : Storage α) : Moved m (m.copy size dst (dst+d)) (Span dst size) d := by
  constructor
  · rintro a ⟨low,high⟩
    simp only [Storage.copy,if_pos (And.intro low high)]
    congr 1
    omega
  · intro a outside
    exact if_neg outside

theorem copy_reached (size dst d : Nat) (m : Storage α) : Touched m (m.copy size dst (dst+d)) (Span dst size) d := by
  constructor
  · intro a
    simp only [Storage.copy,List.mem_append,List.mem_map,List.mem_range,Span]
    constructor
    · rintro (⟨k,small,rfl⟩ | old)
      · exact .inr ⟨dst+k,⟨by omega,by omega⟩,by omega⟩
      · exact .inl old
    · rintro (old | ⟨x,⟨low,high⟩,rfl⟩)
      · exact .inr old
      · exact .inl ⟨x-dst,by omega,by omega⟩
  · intro a
    simp only [Storage.copy,List.mem_append,List.mem_map,List.mem_range,Span]
    constructor
    · rintro (⟨k,small,rfl⟩ | old)
      · exact .inr ⟨by omega,by omega⟩
      · exact .inl old
    · rintro (old | ⟨low,high⟩)
      · exact .inr old
      · exact .inl ⟨a-dst,by omega,by omega⟩

theorem span_zero (size dst a : Nat) : ¬ Span dst (0*size) a := by
  simp only [Span,Nat.zero_mul]
  omega

theorem span_succ (size n dst a : Nat) : Span dst size a ∨ Span (dst+size) (n*size) a ↔ Span dst ((n+1)*size) a := by
  simp only [Span,Nat.add_mul,Nat.one_mul]
  omega

theorem copies_moved (size n dst d : Nat) (m : Storage α) : Moved m (m.copies size n dst (dst+d)) (Span dst (n*size)) d := by
  induction n generalizing dst m with
  | zero =>
      apply (Moved.refl m d).congr
      intro a
      exact (iff_of_false (span_zero size dst a) id).symm
  | succ n ih =>
      have later := ih (dst+size) (m.copy size dst (dst+d))
      rw [Nat.add_right_comm] at later
      apply ((copy_moved size dst d m).append later _).congr (span_succ size n dst)
      intro a inside earlier
      have low := inside.1
      have high := earlier.2
      omega

theorem copies_reached (size n dst d : Nat) (m : Storage α) : Touched m (m.copies size n dst (dst+d)) (Span dst (n*size)) d := by
  induction n generalizing dst m with
  | zero =>
      apply (Touched.refl m d).congr
      intro a
      exact (iff_of_false (span_zero size dst a) id).symm
  | succ n ih =>
      have later := ih (dst+size) (m.copy size dst (dst+d))
      rw [Nat.add_right_comm] at later
      exact ((copy_reached size dst d m).append later).congr (span_succ size n dst)

theorem lines_zero (first length pitch a : Nat) : ¬ Lines first length pitch 0 a := by
  rintro ⟨i,none,_⟩
  cases none

theorem lines_succ (first length pitch count a : Nat) :
    Span first length a ∨ Lines (first+pitch) length pitch count a ↔ Lines first length pitch (count+1) a := by
  constructor
  · rintro (here | ⟨i,small,inside⟩)
    · exact ⟨0,Nat.succ_pos count,by simpa using here⟩
    · refine ⟨i+1,by omega,?_⟩
      rw [Nat.add_mul,Nat.one_mul,Nat.add_comm (i*pitch),← Nat.add_assoc]
      exact inside
  · rintro ⟨i,small,inside⟩
    cases i with
    | zero => exact .inl (by simpa using inside)
    | succ i =>
        rw [Nat.add_mul,Nat.one_mul,Nat.add_comm (i*pitch),← Nat.add_assoc] at inside
        exact .inr ⟨i,by omega,inside⟩

-- Lines that follow each other without a gap.
theorem lines_full (first pitch count a : Nat) : Lines first pitch pitch count a ↔ Span first (count*pitch) a := by
  induction count generalizing first with
  | zero =>
      exact iff_of_false (lines_zero _ _ _ _) (span_zero _ _ _)
  | succ count ih => rw [← lines_succ,ih,span_succ]

-- A line and the lines behind it.
theorem moved_line {length pitch count : Nat} (line : Moved m t (Span first length) d)
    (rest : Moved t u (Lines (first+pitch) length pitch count) d) (short : length ≤ pitch+d) : Moved m u (Lines first length pitch (count+1)) d := by
  apply (line.append rest _).congr (lines_succ first length pitch count)
  rintro a ⟨i,_,low,_⟩ earlier
  have high := earlier.2
  omega

theorem reached_line {length pitch count : Nat} (line : Touched m t (Span first length) d)
    (rest : Touched t u (Lines (first+pitch) length pitch count) d) : Touched m u (Lines first length pitch (count+1)) d :=
  (line.append rest).congr (lines_succ first length pitch count)

theorem copyLines_moved (size n pitch count dst d : Nat) (short : n*size ≤ pitch+d) (m : Storage α) :
    Moved m (m.copyLines size n pitch count dst (dst+d)) (Lines dst (n*size) pitch count) d := by
  induction count generalizing dst m with
  | zero =>
      apply (Moved.refl m d).congr
      intro a
      exact (iff_of_false (lines_zero dst (n*size) pitch a) id).symm
  | succ count ih =>
      have later := ih (dst+pitch) (m.copies size n dst (dst+d))
      rw [Nat.add_right_comm] at later
      exact moved_line (copies_moved size n dst d m) later short

theorem copyLines_reached (size n pitch count dst d : Nat) (m : Storage α) :
    Touched m (m.copyLines size n pitch count dst (dst+d)) (Lines dst (n*size) pitch count) d := by
  induction count generalizing dst m with
  | zero =>
      apply (Touched.refl m d).congr
      intro a
      exact (iff_of_false (lines_zero dst (n*size) pitch a) id).symm
  | succ count ih =>
      have later := ih (dst+pitch) (m.copies size n dst (dst+d))
      rw [Nat.add_right_comm] at later
      exact reached_line (copies_reached size n dst d m) later

theorem Moved.unique (one : Moved m t One d) (two : Moved m u One d) : t.cell = u.cell := by
  funext a
  by_cases inside : One a
  · rw [one.moved a inside,two.moved a inside]
  · rw [one.kept a inside,two.kept a inside]

end Regions

end Moving
