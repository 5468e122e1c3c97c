import Mathlib.Data.List.Basic
import Mathlib.Data.List.TakeDrop

namespace Bytes

-- Reads of a string at given places, as a program does that trusts what it has
-- been told of the length. A read past the end is a fault.
section Reads

variable (fault : ε)

def read (bytes : List α) (i : Nat) : Except ε α :=
  match bytes[i]? with
  | some b => .ok b
  | none => .error fault

-- The run of a terminated string, without its terminator.
def readTo [DecidableEq α] (stop : α) : List α → Except ε (List α)
  | [] => .error fault
  | b :: rest =>
      if b = stop then .ok []
      else do
        let text ← readTo stop rest
        .ok (b :: text)

-- The same with at most `most` reads.
def readUpTo [DecidableEq α] (stop : α) : Nat → List α → Except ε (List α)
  | 0,_ => .ok []
  | _+1,[] => .error fault
  | most+1,b :: rest =>
      if b = stop then .ok []
      else do
        let text ← readUpTo stop most rest
        .ok (b :: text)

end Reads

-- A computation that comes back.
def Returns (x : Except ε α) : Prop := ∃ a, x = .ok a

@[simp] theorem returns_ok (a : α) : Returns (.ok a : Except ε α) := ⟨a,rfl⟩

@[simp] theorem returns_error (e : ε) : ¬ Returns (.error e : Except ε α) := by
  rintro ⟨a,same⟩
  cases same

theorem returns_bind {x : Except ε α} {f : α → Except ε β} : Returns (x >>= f) ↔ ∃ a, x = .ok a ∧ Returns (f a) := by
  cases x with
  | ok a =>
      constructor
      · intro returned
        exact ⟨a,rfl,returned⟩
      · rintro ⟨b,same,returned⟩
        cases same
        exact returned
  | error e =>
      constructor
      · rintro ⟨b,same⟩
        cases same
      · rintro ⟨b,same,_⟩
        cases same

theorem returns_bind_const {x : Except ε α} {P : Prop} {f : α → Except ε β} (rest : ∀ a, x = .ok a → (Returns (f a) ↔ P)) :
    Returns (x >>= f) ↔ Returns x ∧ P := by
  rw [returns_bind]
  constructor
  · rintro ⟨a,found,returned⟩
    exact ⟨⟨a,found⟩,(rest a found).mp returned⟩
  · rintro ⟨⟨a,found⟩,holds⟩
    exact ⟨a,found,(rest a found).mpr holds⟩

theorem readTo_eq [DecidableEq α] {fault : ε} {stop : α} {bytes text : List α} :
    readTo fault stop bytes = .ok text ↔ stop ∉ text ∧ ∃ rest, bytes = text ++ stop :: rest := by
  induction bytes generalizing text with
  | nil => simp [readTo]
  | cons b rest ih =>
      unfold readTo
      split
      · rename_i same
        subst same
        constructor
        · intro read
          cases read
          exact ⟨by simp,rest,rfl⟩
        · rintro ⟨fresh,tail,split⟩
          cases text with
          | nil => rfl
          | cons c text =>
              obtain ⟨rfl,_⟩ := List.cons.inj split
              simp at fresh
      · rename_i other
        constructor
        · intro read
          cases inner : readTo fault stop rest with
          | error e =>
              rw [inner] at read
              cases read
          | ok text' =>
              rw [inner] at read
              cases read
              obtain ⟨fresh,tail,rfl⟩ := ih.mp inner
              exact ⟨by simp [Ne.symm other,fresh],tail,rfl⟩
        · rintro ⟨fresh,tail,split⟩
          cases text with
          | nil => exact absurd (List.cons.inj split).1 other
          | cons c text =>
              obtain ⟨rfl,rfl⟩ := List.cons.inj split
              have inner := ih.mpr ⟨fun old => fresh (List.mem_cons_of_mem _ old),tail,rfl⟩
              rw [inner]
              rfl

theorem readTo_returns [DecidableEq α] {fault : ε} {stop : α} {bytes : List α} : Returns (readTo fault stop bytes) ↔ stop ∈ bytes := by
  constructor
  · rintro ⟨text,read⟩
    obtain ⟨_,rest,rfl⟩ := readTo_eq.mp read
    simp
  · intro member
    induction bytes with
    | nil => cases member
    | cons b rest ih =>
        unfold readTo
        split
        · exact ⟨_,rfl⟩
        · rename_i other
          obtain ⟨text,read⟩ := ih ((List.mem_cons.mp member).resolve_left (Ne.symm other))
          exact ⟨b :: text,by rw [read]; rfl⟩

theorem readUpTo_returns [DecidableEq α] {fault : ε} {stop : α} {most : Nat} {bytes : List α} :
    Returns (readUpTo fault stop most bytes) ↔ most ≤ bytes.length ∨ stop ∈ bytes := by
  induction bytes generalizing most with
  | nil =>
      cases most with
      | zero => simp [readUpTo]
      | succ most => simp [readUpTo]
  | cons b rest ih =>
      cases most with
      | zero => simp [readUpTo]
      | succ most =>
          unfold readUpTo
          split
          · rename_i same
            simp [same]
          · rename_i other
            rw [returns_bind_const (P := True) (fun text _ => by simp),ih]
            simp [Ne.symm other]

end Bytes
