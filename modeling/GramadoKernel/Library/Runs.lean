import Mathlib.Data.List.Chain
import Mathlib.Data.List.Induction

namespace Runs

-- Finite runs of a labelled step relation. A condition that every step of a
-- run has to meet is a part of the relation, so runs under it are runs.
inductive Path (step : σ → ε → σ → Prop) : σ → List ε → σ → Prop where
  | nil : Path step s [] s
  | step : Path step s events m → step m event t → Path step s (events ++ [event]) t

theorem Path.weaken {step : σ → ε → σ → Prop} {other : σ → ε → σ → Prop}
    (included : ∀ s event t, step s event t → other s event t)
    (path : Path step s events t) : Path other s events t := by
  induction path with
  | nil => exact .nil
  | step _ last ih => exact .step ih (included _ _ _ last)

theorem Path.append {step : σ → ε → σ → Prop} (earlier : Path step s before m) (later : Path step m after t) :
    Path step s (before ++ after) t := by
  induction later with
  | nil => rwa [List.append_nil]
  | step _ last ih => rw [← List.append_assoc]; exact .step ih last

theorem Path.cons {step : σ → ε → σ → Prop} (first : step s event m) (later : Path step m events t) :
    Path step s (event :: events) t := (Path.step .nil first).append later

theorem path_nil {step : σ → ε → σ → Prop} : Path step s [] t ↔ t = s := by
  constructor
  · intro path
    generalize none : [] = events at path
    cases path with
    | nil => rfl
    | step => simp at none
  · rintro rfl
    exact .nil

theorem path_snoc {step : σ → ε → σ → Prop} : Path step s (events ++ [event]) t ↔ ∃ m, Path step s events m ∧ step m event t := by
  constructor
  · intro path
    generalize snoc : events ++ [event] = all at path
    cases path with
    | nil => simp at snoc
    | step earlier last =>
        obtain ⟨rfl,same⟩ := List.append_inj' snoc rfl
        cases same
        exact ⟨_,earlier,last⟩
  · rintro ⟨m,earlier,last⟩
    exact .step earlier last

theorem path_cons {step : σ → ε → σ → Prop} : Path step s (event :: events) t ↔ ∃ m, step s event m ∧ Path step m events t := by
  constructor
  · induction events using List.reverseRecOn generalizing t with
    | nil =>
        intro path
        rw [← List.nil_append [event]] at path
        obtain ⟨m,start,first⟩ := path_snoc.mp path
        cases path_nil.mp start
        exact ⟨t,first,.nil⟩
    | append_singleton events last ih =>
        intro path
        rw [← List.cons_append] at path
        obtain ⟨n,earlier,final⟩ := path_snoc.mp path
        obtain ⟨m,first,later⟩ := ih earlier
        exact ⟨m,first,.step later final⟩
  · rintro ⟨m,first,later⟩
    exact .cons first later

-- What one step preserves, a whole run preserves.
theorem Path.invariant {step : σ → ε → σ → Prop} (Holds : σ → Prop)
    (preserved : ∀ s event t, Holds s → step s event t → Holds t)
    (path : Path step s events t) (start : Holds s) : Holds t := by
  induction path with
  | nil => exact start
  | step _ last ih => exact preserved _ _ _ ih last

theorem Path.history {step : σ → ε → σ → Prop} (Holds : List ε → σ → Prop)
    (preserved : ∀ events s event t, Holds events s → step s event t → Holds (events ++ [event]) t)
    (path : Path step s events t) (start : Holds [] s) : Holds events t := by
  induction path with
  | nil => exact start
  | step _ last ih => exact preserved _ _ _ _ ih last

-- A run of steps that keep a property is a run of steps taken under it.
theorem Path.under {step : σ → ε → σ → Prop} (Holds : σ → Prop)
    (preserved : ∀ s event t, Holds s → step s event t → Holds t)
    (path : Path step s events t) (start : Holds s) : Path (fun s event t => Holds s ∧ step s event t) s events t := by
  induction path with
  | nil => exact .nil
  | step earlier last ih => exact .step ih ⟨earlier.invariant Holds preserved start,last⟩

-- Where every step moves items through a store in order, a run does.
theorem Path.conserved {α : Type} {step : σ → ε → σ → Prop} (stored : σ → List α) (input output : ε → List α)
    (moves : ∀ s event t, step s event t → stored s ++ input event = output event ++ stored t)
    (path : Path step s events t) : stored s ++ events.flatMap input = events.flatMap output ++ stored t := by
  induction path with
  | nil => simp
  | step _ last ih =>
      rw [List.flatMap_append,List.flatMap_append,← List.append_assoc,ih,List.append_assoc,List.append_assoc]
      simp only [List.flatMap_singleton,moves _ _ _ last]

-- A run that is followed by another system step by step.
theorem Path.simulated {step : σ → ε → σ → Prop} {other : τ → ε → τ → Prop} (At : σ → τ → Prop)
    (follows : ∀ s event t x, At s x → step s event t → ∃ y, At t y ∧ other x event y)
    {x : τ} (path : Path step s events t) (start : At s x) : ∃ y, At t y ∧ Path other x events y := by
  induction path with
  | nil => exact ⟨x,start,.nil⟩
  | step _ last ih =>
      obtain ⟨y,held,followed⟩ := ih
      obtain ⟨z,now,taken⟩ := follows _ _ _ y held last
      exact ⟨z,now,.step followed taken⟩

theorem Path.where {step : σ → ε → σ → Prop} {Holds : ε → Prop} (path : Path step s events t) (all : ∀ event ∈ events, Holds event) :
    Path (fun s event t => step s event t ∧ Holds event) s events t := by
  induction path with
  | nil => exact .nil
  | step _ last ih =>
      exact .step (ih fun event member => all event (List.mem_append_left _ member)) ⟨last,all _ (List.mem_append_right _ (List.mem_singleton_self _))⟩

theorem Path.each {step : σ → ε → σ → Prop} (Holds : ε → Prop) (met : ∀ s event t, step s event t → Holds event)
    (path : Path step s events t) : ∀ event ∈ events, Holds event := by
  induction path with
  | nil => simp
  | step _ last ih =>
      intro event member
      rcases List.mem_append.mp member with old | new
      · exact ih event old
      · rw [List.mem_singleton.mp new]
        exact met _ _ _ last

-- Where a step from a good state keeps to a rule exactly when a condition is met, and
-- keeping to it leads to a good state again, a run keeps to it exactly when all its steps
-- meet the condition.
theorem Path.forall_iff {step : σ → ε → σ → Prop} (Good : σ → Prop) (Kept Met : ε → Prop)
    (equal : ∀ s event t, Good s → step s event t → (Kept event ↔ Met event))
    (preserved : ∀ s event t, Good s → step s event t → Kept event → Good t)
    (path : Path step s events t) (start : Good s) :
    ((∀ event ∈ events, Kept event) ↔ ∀ event ∈ events, Met event) ∧ ((∀ event ∈ events, Kept event) → Good t) := by
  induction path with
  | nil => simp [start]
  | step _ last ih =>
      rw [List.forall_mem_append,List.forall_mem_append,List.forall_mem_singleton,List.forall_mem_singleton]
      refine ⟨⟨?_,?_⟩,?_⟩
      · rintro ⟨earlier,now⟩
        exact ⟨ih.1.mp earlier,(equal _ _ _ (ih.2 earlier) last).mp now⟩
      · rintro ⟨earlier,now⟩
        have kept := ih.1.mpr earlier
        exact ⟨kept,(equal _ _ _ (ih.2 kept) last).mpr now⟩
      · rintro ⟨earlier,now⟩
        exact preserved _ _ _ (ih.2 earlier) last now

-- Labels that name the two states of their step follow each other.
theorem Path.linked {step : σ → ε → σ → Prop} (before after : ε → σ) (named : ∀ s event t, step s event t → before event = s ∧ after event = t)
    (path : Path step s events t) : events.IsChain (fun event next => after event = before next) ∧ ∀ event ∈ events.getLast?, after event = t := by
  induction path with
  | nil => simp
  | step _ last ih =>
      obtain ⟨first,final⟩ := named _ _ _ last
      refine ⟨List.isChain_append.mpr ⟨ih.1,.singleton _,?_⟩,?_⟩
      · intro event ending next start
        cases start
        exact (ih.2 event ending).trans first.symm
      · intro event ending
        rw [List.getLast?_concat] at ending
        cases ending
        exact final

theorem forall_labels_snoc {Good : List ε → ε → Prop} {labels : List ε} {last : ε} :
    (∀ before label after, labels ++ [last] = before ++ label :: after → Good before label) ↔
      (∀ before label after, labels = before ++ label :: after → Good before label) ∧ Good labels last := by
  constructor
  · intro all
    exact ⟨fun before label after same => all before label (after ++ [last]) (by simp [same]),all labels last [] rfl⟩
  · intro both before label after same
    obtain ⟨earlier,final⟩ := both
    rcases List.eq_nil_or_concat after with rfl | ⟨rest,x,rfl⟩
    · obtain ⟨rfl,tail⟩ := List.append_inj' same rfl
      cases tail
      exact final
    · rw [List.concat_eq_append,← List.cons_append,← List.append_assoc] at same
      exact earlier before label rest (List.append_inj' same rfl).1

end Runs
