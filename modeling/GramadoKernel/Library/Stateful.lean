namespace Stateful

-- Programs that change a state and can stop early. The state is kept where they stop.
def final : EStateM.Result ε σ α → σ
  | .ok _ s => s
  | .error _ s => s

theorem get_bind (program : σ → EStateM ε σ α) (s : σ) : (get >>= program) s = program s s := rfl

theorem bind_run (first : EStateM ε σ α) (program : α → EStateM ε σ β) (s : σ) :
    (first >>= program) s = match first s with
      | .ok a t => program a t
      | .error e t => .error e t := rfl

theorem bind_done {first : EStateM ε σ α} {program : α → EStateM ε σ β} (done : first s = .ok a t) :
    (first >>= program) s = program a t := by
  rw [bind_run,done]

theorem bind_stopped {first : EStateM ε σ α} {program : α → EStateM ε σ β} (stopped : first s = .error e t) :
    (first >>= program) s = .error e t := by
  rw [bind_run,stopped]

-- What a program keeps, also where it stops.
def Keeps (Holds : σ → Prop) (program : EStateM ε σ α) : Prop := ∀ s, Holds s → Holds (final (program s))

section Keeps

variable {Holds : σ → Prop}

theorem Keeps.pure (a : α) : Keeps Holds (pure a : EStateM ε σ α) := fun _ holds => holds

theorem Keeps.throw (e : ε) : Keeps Holds (throw e : EStateM ε σ α) := fun _ holds => holds

theorem Keeps.modify {change : σ → σ} (kept : ∀ s, Holds s → Holds (change s)) : Keeps Holds (modify change : EStateM ε σ Unit) := kept

theorem final_bind {first : EStateM ε σ α} {program : α → EStateM ε σ β} {s : σ} (one : Holds (final (first s)))
    (two : ∀ a, Keeps Holds (program a)) : Holds (final ((first >>= program) s)) := by
  rw [bind_run]
  cases done : first s with
  | ok a t =>
      rw [done] at one
      exact two a t one
  | error e t =>
      rw [done] at one
      exact one

theorem Keeps.bind {first : EStateM ε σ α} {program : α → EStateM ε σ β} (one : Keeps Holds first) (two : ∀ a, Keeps Holds (program a)) :
    Keeps Holds (first >>= program) := fun s holds => final_bind (one s holds) two

theorem Keeps.after {first : EStateM ε σ α} {program : EStateM ε σ β} {s : σ} (two : Keeps Holds program) (one : Holds (final (first s))) :
    Holds (final ((first >>= fun _ => program) s)) := final_bind one fun _ => two

theorem Keeps.get {program : σ → EStateM ε σ α} (kept : ∀ s, Holds s → Holds (final (program s s))) : Keeps Holds (get >>= program) := kept

theorem Keeps.ite {condition : Prop} [Decidable condition] {first second : EStateM ε σ α} (one : condition → Keeps Holds first)
    (two : ¬ condition → Keeps Holds second) : Keeps Holds (if condition then first else second) := by
  by_cases met : condition
  · rw [if_pos met]
    exact one met
  · rw [if_neg met]
    exact two met

theorem Keeps.forM {program : α → EStateM ε σ Unit} (kept : ∀ a, Keeps Holds (program a)) (items : List α) : Keeps Holds (forM items program) := by
  induction items with
  | nil => exact Keeps.pure ()
  | cons a items ih =>
      rw [List.forM_cons]
      exact (kept a).bind fun _ => ih

end Keeps

def mapState (f : σ → τ) : EStateM.Result ε σ α → EStateM.Result ε τ α
  | .ok a s => .ok a (f s)
  | .error e s => .error e (f s)

-- A program that neither reads nor writes what the changes set, and keeps a value.
structure Leaves (change : ι → σ → σ) (kept : σ → κ) (program : EStateM ε σ α) : Prop where
  blind : ∀ i s, program (change i s) = mapState (change i) (program s)
  keeps : ∀ s, kept (final (program s)) = kept s

section Leaves

variable {change : ι → σ → σ} {kept : σ → κ}

theorem Leaves.pure (a : α) : Leaves change kept (pure a : EStateM ε σ α) := ⟨fun _ _ => rfl,fun _ => rfl⟩

theorem Leaves.throw (e : ε) : Leaves change kept (throw e : EStateM ε σ α) := ⟨fun _ _ => rfl,fun _ => rfl⟩

theorem Leaves.modify {update : σ → σ} (apart : ∀ i s, update (change i s) = change i (update s)) (same : ∀ s, kept (update s) = kept s) :
    Leaves change kept (modify update : EStateM ε σ Unit) := by
  refine ⟨fun i s => ?_,same⟩
  show EStateM.Result.ok () (update (change i s)) = .ok () (change i (update s))
  rw [apart]

theorem Leaves.get {program : σ → EStateM ε σ α} (blind : ∀ i s, program (change i s) = program s)
    (each : ∀ s, Leaves change kept (program s)) : Leaves change kept (get >>= program) := by
  refine ⟨fun i s => ?_,fun s => (each s).keeps s⟩
  rw [get_bind,get_bind,blind]
  exact (each s).blind i s

theorem Leaves.bind {first : EStateM ε σ α} {program : α → EStateM ε σ β} (one : Leaves change kept first)
    (two : ∀ a, Leaves change kept (program a)) : Leaves change kept (first >>= program) := by
  constructor
  · intro i s
    rw [bind_run,bind_run,one.blind]
    cases first s with
    | ok a t => exact (two a).blind i t
    | error e t => rfl
  · intro s
    have begin := one.keeps s
    rw [bind_run]
    cases done : first s with
    | ok a t =>
        rw [done] at begin
        exact ((two a).keeps t).trans begin
    | error e t =>
        rw [done] at begin
        exact begin

theorem Leaves.ite {condition : Prop} [Decidable condition] {first second : EStateM ε σ α} (one : condition → Leaves change kept first)
    (two : ¬ condition → Leaves change kept second) : Leaves change kept (if condition then first else second) := by
  by_cases met : condition
  · rw [if_pos met]
    exact one met
  · rw [if_neg met]
    exact two met

theorem Leaves.forM {program : α → EStateM ε σ Unit} (each : ∀ a, Leaves change kept (program a)) (items : List α) :
    Leaves change kept (forM items program) := by
  induction items with
  | nil => exact Leaves.pure ()
  | cons a items ih =>
      rw [List.forM_cons]
      exact (each a).bind fun _ => ih

end Leaves

-- A program that finishes wherever a condition holds, which is kept.
def Completes (Holds : σ → Prop) (program : EStateM ε σ Unit) : Prop := ∀ s, Holds s → ∃ t, program s = .ok () t ∧ Holds t

section Completes

variable {Holds : σ → Prop}

theorem Completes.pure : Completes Holds (pure () : EStateM ε σ Unit) := fun s holds => ⟨s,rfl,holds⟩

theorem Completes.modify {change : σ → σ} (kept : ∀ s, Holds s → Holds (change s)) : Completes Holds (modify change : EStateM ε σ Unit) :=
  fun s holds => ⟨change s,rfl,kept s holds⟩

theorem Completes.bind {first : EStateM ε σ Unit} {program : Unit → EStateM ε σ Unit} (one : Completes Holds first)
    (two : ∀ a, Completes Holds (program a)) : Completes Holds (first >>= program) := by
  intro s holds
  obtain ⟨t,done,kept⟩ := one s holds
  rw [bind_done done]
  exact two () t kept

theorem Completes.get {program : σ → EStateM ε σ Unit} (each : ∀ s, Holds s → Completes Holds (program s)) :
    Completes Holds (get >>= program) := fun s holds => each s holds s holds

theorem Completes.ite {condition : Prop} [Decidable condition] {first second : EStateM ε σ Unit} (one : condition → Completes Holds first)
    (two : ¬ condition → Completes Holds second) : Completes Holds (if condition then first else second) := by
  by_cases met : condition
  · rw [if_pos met]
    exact one met
  · rw [if_neg met]
    exact two met

theorem Completes.forM {program : α → EStateM ε σ Unit} {items : List α} (each : ∀ a ∈ items, Completes Holds (program a)) :
    Completes Holds (forM items program) := by
  induction items with
  | nil => exact Completes.pure
  | cons a items ih =>
      obtain ⟨first,others⟩ := List.forall_mem_cons.mp each
      rw [List.forM_cons]
      exact first.bind fun _ => ih others

end Completes

-- Two outcomes that go together: both finished in related states, or both stopped.
def Together (Related Stopped : σ → τ → Prop) : EStateM.Result ε σ Unit → EStateM.Result δ τ Unit → Prop
  | .ok _ s,.ok _ t => Related s t
  | .error _ s,.error _ t => Stopped s t
  | _,_ => False

def Simulates (Related Stopped : σ → τ → Prop) (one : EStateM ε σ Unit) (two : EStateM δ τ Unit) : Prop :=
  ∀ s t, Related s t → Together Related Stopped (one s) (two t)

section Simulates

variable {Related Stopped : σ → τ → Prop}

theorem Simulates.pure : Simulates Related Stopped (pure () : EStateM ε σ Unit) (pure () : EStateM δ τ Unit) := fun _ _ related => related

theorem Simulates.throw (stops : ∀ s t, Related s t → Stopped s t) (e : ε) (d : δ) :
    Simulates Related Stopped (throw e : EStateM ε σ Unit) (throw d : EStateM δ τ Unit) := stops

theorem Simulates.modify {f : σ → σ} {g : τ → τ} (kept : ∀ s t, Related s t → Related (f s) (g t)) :
    Simulates Related Stopped (modify f : EStateM ε σ Unit) (modify g : EStateM δ τ Unit) := kept

theorem Simulates.get {one : σ → EStateM ε σ Unit} {two : τ → EStateM δ τ Unit}
    (both : ∀ s t, Related s t → Together Related Stopped (one s s) (two t t)) : Simulates Related Stopped (get >>= one) (get >>= two) := both

theorem Together.bind_at {first : EStateM ε σ Unit} {second : EStateM δ τ Unit} {one : Unit → EStateM ε σ Unit} {two : Unit → EStateM δ τ Unit}
    (begin : Together Related Stopped (first s) (second t))
    (later : ∀ u v, first s = .ok () u → second t = .ok () v → Related u v → Together Related Stopped (one () u) (two () v)) :
    Together Related Stopped ((first >>= one) s) ((second >>= two) t) := by
  rw [bind_run,bind_run]
  cases done : first s with
  | ok a u =>
      cases met : second t with
      | ok b v =>
          rw [done,met] at begin
          exact later u v done met begin
      | error e v =>
          rw [done,met] at begin
          exact begin.elim
  | error e u =>
      cases met : second t with
      | ok b v =>
          rw [done,met] at begin
          exact begin.elim
      | error e v =>
          rw [done,met] at begin
          exact begin

theorem Together.bind {first : EStateM ε σ Unit} {second : EStateM δ τ Unit} {one : Unit → EStateM ε σ Unit} {two : Unit → EStateM δ τ Unit}
    (begin : Together Related Stopped (first s) (second t)) (later : Simulates Related Stopped (one ()) (two ())) :
    Together Related Stopped ((first >>= one) s) ((second >>= two) t) := begin.bind_at fun u v _ _ related => later u v related

theorem Together.weaken {Other : σ → τ → Prop} {one : EStateM.Result ε σ Unit} {two : EStateM.Result δ τ Unit}
    (included : ∀ s t, Related s t → Other s t) (both : Together Related Stopped one two) : Together Other Stopped one two := by
  cases one with
  | ok _ s =>
      cases two with
      | ok _ t => exact included s t both
      | error e t => exact both
  | error e s =>
      cases two with
      | ok _ t => exact both
      | error d t => exact both

-- Where one of the two finished, so did the other.
theorem Together.ok {one : EStateM.Result ε σ Unit} {two : EStateM.Result δ τ Unit} (both : Together Related Stopped one two)
    (done : one = .ok () s) : ∃ t, two = .ok () t ∧ Related s t := by
  subst done
  cases two with
  | ok _ t => exact ⟨t,rfl,both⟩
  | error d t => exact both.elim

theorem Together.ok_second {one : EStateM.Result ε σ Unit} {two : EStateM.Result δ τ Unit} (both : Together Related Stopped one two)
    (done : two = .ok () t) : ∃ s, one = .ok () s ∧ Related s t := by
  subst done
  cases one with
  | ok _ s => exact ⟨s,rfl,both⟩
  | error d s => exact both.elim

theorem together_mapped {Related Stopped : υ → ω → Prop} {f : σ → υ} {g : τ → ω} {one : EStateM.Result ε σ Unit}
    {two : EStateM.Result δ τ Unit} : Together Related Stopped (mapState f one) (mapState g two) ↔
      Together (fun s t => Related (f s) (g t)) (fun s t => Stopped (f s) (g t)) one two := by
  cases one with
  | ok _ s =>
      cases two with
      | ok _ t => exact Iff.rfl
      | error d t => exact Iff.rfl
  | error e s =>
      cases two with
      | ok _ t => exact Iff.rfl
      | error d t => exact Iff.rfl

theorem together_refl {Related Stopped : σ → σ → Prop} (same : ∀ s, Related s s) (stop : ∀ s, Stopped s s) (one : EStateM.Result ε σ Unit) :
    Together Related Stopped one one := by
  cases one with
  | ok _ s => exact same s
  | error e s => exact stop s

theorem Together.symm {Related Stopped : σ → σ → Prop} {one two : EStateM.Result ε σ Unit} (related : ∀ {s t}, Related s t → Related t s)
    (stopped : ∀ {s t}, Stopped s t → Stopped t s) (both : Together Related Stopped one two) : Together Related Stopped two one := by
  cases one with
  | ok _ s =>
      obtain ⟨t,rfl,later⟩ := both.ok rfl
      exact related later
  | error e s =>
      cases two with
      | ok _ t => exact both.elim
      | error d t => exact stopped both

theorem Together.trans {Related Stopped : σ → σ → Prop} {one two three : EStateM.Result ε σ Unit}
    (related : ∀ {s t u}, Related s t → Related t u → Related s u) (stopped : ∀ {s t u}, Stopped s t → Stopped t u → Stopped s u)
    (first : Together Related Stopped one two) (second : Together Related Stopped two three) : Together Related Stopped one three := by
  cases two with
  | ok _ t =>
      obtain ⟨s,rfl,before⟩ := first.ok_second rfl
      obtain ⟨u,rfl,after⟩ := second.ok rfl
      exact related before after
  | error e t =>
      cases one with
      | ok _ s => exact first.elim
      | error e s =>
          cases three with
          | ok _ u => exact second.elim
          | error d u => exact stopped first second

-- The second of the two goes on alone.
theorem Together.then {first : EStateM ε σ Unit} {second : EStateM δ τ Unit} {rest : Unit → EStateM δ τ Unit}
    (begin : Together Related Stopped (first s) (second t)) (later : Simulates Related Stopped (pure () : EStateM ε σ Unit) (rest ())) :
    Together Related Stopped (first s) ((second >>= rest) t) := by
  have both : Together Related Stopped ((first >>= fun _ => pure ()) s) ((second >>= rest) t) := begin.bind later
  rwa [bind_pure_unit] at both

theorem Simulates.bind {first : EStateM ε σ Unit} {second : EStateM δ τ Unit} {one : Unit → EStateM ε σ Unit} {two : Unit → EStateM δ τ Unit}
    (begin : Simulates Related Stopped first second) (later : Simulates Related Stopped (one ()) (two ())) :
    Simulates Related Stopped (first >>= one) (second >>= two) := fun s t related => (begin s t related).bind later

end Simulates

end Stateful
