import GramadoKernel.Library.Runs

namespace Rounds

variable {α : Type}

-- A server that works through a round and builds a new one when nothing of it is left. The
-- first of a new round is served at once.
inductive Turn (New : α → List α → Prop) : List α → α → List α → Prop where
  | next : Turn New (x :: rest) x rest
  | renewed : New x rest → Turn New [] x rest

variable {New : α → List α → Prop} {queue served rest : List α}

theorem Turn.weaken {Other : α → List α → Prop} (included : ∀ x rest, New x rest → Other x rest) (turn : Turn New queue x rest) :
    Turn Other queue x rest := by
  cases turn with
  | next => exact .next
  | renewed built => exact .renewed (included _ _ built)

-- As long as the first round lasts, it is served in its order.
theorem served_in_order (path : Runs.Path (Turn New) queue served rest) : queue = served ++ rest ∨ queue <+: served := by
  induction path with
  | nil => exact .inl rfl
  | step earlier last ih =>
      rcases ih with split | done
      · cases last with
        | next => exact .inl (by simpa using split)
        | renewed =>
            rw [List.append_nil] at split
            rw [split]
            exact .inr (List.prefix_append _ _)
      · exact .inr (done.trans (List.prefix_append _ _))

-- `w` has a place in a round of at most `n`.
def Seats (w : α) (n : Nat) (x : α) (rest : List α) : Prop := (x = w ∨ w ∈ rest) ∧ rest.length < n

variable {w : α} {n : Nat}

-- Before `w` is served, what was served and what is left fit into the first round and one
-- further round, and in the further round `w` is still to come.
theorem waiting_bounded (path : Runs.Path (Turn (Seats w n)) queue served rest) (waits : w ∉ served) :
    served.length+rest.length ≤ queue.length ∨ (w ∈ rest ∧ served.length+rest.length ≤ queue.length+n) := by
  induction path with
  | nil => exact .inl (by simp)
  | step earlier last ih =>
      rw [List.mem_append,List.mem_singleton,not_or] at waits
      obtain ⟨before,apart⟩ := waits
      rw [List.length_append,List.length_singleton]
      cases last with
      | next =>
          rcases ih before with first | ⟨coming,further⟩
          · rw [List.length_cons] at first
            exact .inl (by omega)
          · rw [List.length_cons] at further
            exact .inr ⟨(List.mem_cons.mp coming).resolve_left apart,by omega⟩
      | renewed built =>
          obtain ⟨place,short⟩ := built
          rcases ih before with first | ⟨coming,_⟩
          · rw [List.length_nil] at first
            exact .inr ⟨place.resolve_left (Ne.symm apart),by omega⟩
          · cases coming

-- Two rounds are enough to serve `w`.
theorem served_within (path : Runs.Path (Turn (Seats w n)) queue served rest) (short : queue.length < n)
    (long : 2*n ≤ served.length+1) : w ∈ served := by
  by_contra waits
  rcases waiting_bounded path waits with first | ⟨coming,further⟩
  · omega
  · have some := List.length_pos_of_mem coming
    omega

end Rounds
