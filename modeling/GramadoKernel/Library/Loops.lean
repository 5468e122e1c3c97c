import Mathlib.Data.Nat.Find

namespace Loops

-- The body of a loop goes on with a next state or leaves with a result. A run of
-- `n` turns is either still inside the loop or has left it.
def run (turn : σ → σ ⊕ ρ) : Nat → σ → σ ⊕ ρ
  | 0,s => .inl s
  | n+1,s =>
      match turn s with
      | .inl next => run turn n next
      | .inr result => .inr result

-- for (i = 0; i < n; i++), where the body is given the counter.
def times (body : Nat → σ → σ) : Nat → σ → σ
  | 0,s => s
  | n+1,s => body n (times body n s)

def Ends (turn : σ → σ ⊕ ρ) (s : σ) : Prop := ∃ n result, run turn n s = .inr result

theorem run_inl {turn : σ → σ ⊕ ρ} (goes : turn s = .inl next) (n : Nat) : run turn (n+1) s = run turn n next := by
  simp [run,goes]

theorem run_inr {turn : σ → σ ⊕ ρ} (leaves : turn s = .inr result) (n : Nat) : run turn (n+1) s = .inr result := by
  simp [run,leaves]

theorem times_trail {body : Nat → σ → σ} (trail : Nat → σ) (n : Nat) (goes : ∀ k < n, body k (trail k) = trail (k+1)) :
    times body n (trail 0) = trail n := by
  induction n with
  | zero => rfl
  | succ n ih =>
      rw [times,ih fun k small => goes k (Nat.lt_succ_of_lt small)]
      exact goes n (Nat.lt_succ_self n)

theorem first_failure {Goes : Nat → Prop} (some : ∃ k, ¬ Goes k) : ∃ k, ¬ Goes k ∧ ∀ j < k, Goes j := by
  classical
  exact ⟨Nat.find some,Nat.find_spec some,fun j before => not_not.mp (Nat.find_min some before)⟩

-- A loop whose invariant comes with a decreasing measure ends, with what the
-- invariant says where it leaves.
theorem run_ends {turn : σ → σ ⊕ ρ} (Holds : σ → Prop) {Ending : ρ → Prop} (measure : σ → Nat)
    (goes : ∀ s next, Holds s → turn s = .inl next → Holds next ∧ measure next < measure s)
    (leaves : ∀ s result, Holds s → turn s = .inr result → Ending result) (start : Holds s) :
    ∃ n result, run turn n s = .inr result ∧ Ending result := by
  induction bound : measure s using Nat.strong_induction_on generalizing s with
  | _ m ih =>
      cases taken : turn s with
      | inl next =>
          obtain ⟨held,less⟩ := goes s next start taken
          obtain ⟨n,result,left,ending⟩ := ih (measure next) (bound ▸ less) held rfl
          exact ⟨n+1,result,(run_inl taken n).trans left,ending⟩
      | inr result => exact ⟨1,result,run_inr taken 0,leaves s result start taken⟩

section Trail

variable {turn : σ → σ ⊕ ρ} (trail : Nat → σ)

theorem run_trail {k : Nat} (goes : ∀ j < k, turn (trail j) = .inl (trail (j+1))) (n : Nat) :
    run turn (n+k) (trail 0) = run turn n (trail k) := by
  induction k generalizing n with
  | zero => rfl
  | succ k ih =>
      have earlier := ih (fun j before => goes j (by omega)) (n+1)
      rw [show n+(k+1) = n+1+k by omega,earlier]
      exact run_inl (goes k (by omega)) n

theorem run_trail_done {k n : Nat} (goes : ∀ j < k, turn (trail j) = .inl (trail (j+1)))
    (leaves : turn (trail k) = .inr result) (enough : k < n) : run turn n (trail 0) = .inr result := by
  have split : n = n-k-1+1+k := by omega
  rw [split,run_trail trail goes]
  exact run_inr leaves _

theorem run_trail_short {k n : Nat} (goes : ∀ j < k, turn (trail j) = .inl (trail (j+1))) (within : n ≤ k) :
    run turn n (trail 0) = .inl (trail n) := by
  have known := run_trail trail (k := n) (fun j before => goes j (by omega)) 0
  rw [Nat.zero_add] at known
  exact known

-- A loop whose turn `k` goes on exactly when `Goes k` holds ends when some turn does not.
theorem ends_trail_iff (Goes : Nat → Prop) (goes : ∀ k, Goes k → turn (trail k) = .inl (trail (k+1)))
    (leaves : ∀ k, ¬ Goes k → ∃ result, turn (trail k) = .inr result) :
    Ends turn (trail 0) ↔ ∃ k, ¬ Goes k := by
  constructor
  · intro ended
    obtain ⟨n,result,done⟩ := ended
    by_contra forever
    have always : ∀ k, Goes k := by simpa using forever
    rw [run_trail_short trail (k := n) (fun j _ => goes j (always j)) (Nat.le_refl n)] at done
    cases done
  · intro some
    obtain ⟨k,stops,before⟩ := first_failure some
    obtain ⟨result,left⟩ := leaves k stops
    exact ⟨k+1,result,run_trail_done trail (fun j earlier => goes j (before j earlier)) left (by omega)⟩

end Trail

-- Two bodies that agree wherever the run can come agree on the run.
theorem run_congr {turn other : σ → σ ⊕ ρ} (Holds : σ → Prop) (same : ∀ s, Holds s → turn s = other s)
    (kept : ∀ s next, Holds s → turn s = .inl next → Holds next) (n : Nat) (start : Holds s) :
    run turn n s = run other n s := by
  induction n generalizing s with
  | zero => rfl
  | succ n ih =>
      cases taken : turn s with
      | inl next =>
          rw [run_inl taken,run_inl ((same s start).symm.trans taken)]
          exact ih (kept s next start taken)
      | inr result => rw [run_inr taken,run_inr ((same s start).symm.trans taken)]

-- A function that runs out of fuel or has one result, which it has from some fuel on.
def Settles (f : Nat → Option α) (a : α) : Prop := (∃ enough, ∀ fuel, enough ≤ fuel → f fuel = some a) ∧ ∀ fuel b, f fuel = some b → b = a

theorem Settles.pure (a : α) : Settles (fun _ => some a) a := ⟨⟨0,fun _ _ => rfl⟩,fun _ _ same => (Option.some.inj same).symm⟩

-- A loop that does not run without fuel and takes its first turn.
theorem Settles.turn {f g : Nat → Option α} (out : f 0 = none) (taken : ∀ fuel, f (fuel+1) = g fuel) (later : Settles g a) : Settles f a := by
  obtain ⟨⟨enough,ends⟩,one⟩ := later
  constructor
  · refine ⟨enough+1,fun fuel high => ?_⟩
    cases fuel with
    | zero => omega
    | succ fuel =>
        rw [taken]
        exact ends fuel (Nat.le_of_succ_le_succ high)
  · intro fuel b result
    cases fuel with
    | zero =>
        rw [out] at result
        cases result
    | succ fuel =>
        rw [taken] at result
        exact one fuel b result

theorem Settles.bind {f : Nat → Option α} {g : Nat → α → Option β} (first : Settles f a) (second : Settles (fun fuel => g fuel a) b) :
    Settles (fun fuel => f fuel >>= g fuel) b := by
  obtain ⟨⟨n,ends⟩,one⟩ := first
  obtain ⟨⟨m,goes⟩,two⟩ := second
  constructor
  · refine ⟨max n m,fun fuel high => ?_⟩
    simp only [ends fuel (Nat.le_trans (Nat.le_max_left n m) high)]
    exact goes fuel (Nat.le_trans (Nat.le_max_right n m) high)
  · intro fuel c result
    obtain ⟨x,met,rest⟩ := Option.bind_eq_some_iff.mp result
    rw [one fuel x met] at rest
    exact two fuel c rest

theorem Settles.map {f : Nat → Option α} (settles : Settles f a) (g : α → β) : Settles (fun fuel => (f fuel).map g) (g a) := by
  obtain ⟨⟨enough,ends⟩,one⟩ := settles
  constructor
  · refine ⟨enough,fun fuel high => ?_⟩
    simp only [ends fuel high,Option.map_some]
  · intro fuel b result
    obtain ⟨x,met,rfl⟩ := Option.map_eq_some_iff.mp result
    rw [one fuel x met]

theorem Settles.result_iff {f : Nat → Option α} (settles : Settles f a) : (∃ fuel, f fuel = some b) ↔ b = a := by
  constructor
  · rintro ⟨fuel,result⟩
    exact settles.2 fuel b result
  · rintro rfl
    obtain ⟨enough,ends⟩ := settles.1
    exact ⟨enough,ends enough (Nat.le_refl enough)⟩

end Loops
