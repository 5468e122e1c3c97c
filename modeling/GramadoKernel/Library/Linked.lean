import Mathlib.Data.List.Nodup
import Mathlib.Data.List.TakeWhile
import Mathlib.Logic.Function.Basic

namespace Linked

-- Following `next` from `a` visits exactly `items`, in order, and the last
-- node reached is `b`.
def Segment (next : ι → Option ι) : ι → List ι → ι → Prop
  | a,[],b => a = b
  | a,x :: rest,b => next a = some x ∧ Segment next x rest b

theorem Segment.last_mem {next : ι → Option ι} (segment : Segment next a items b) : b ∈ a :: items := by
  induction items generalizing a with
  | nil => exact List.mem_singleton.mpr segment.symm
  | cons x rest ih => exact List.mem_cons_of_mem a (ih segment.2)

-- A segment depends on the links of its nodes other than the last.
theorem Segment.congr {next other : ι → Option ι} (segment : Segment next a items b) (nodup : (a :: items).Nodup)
    (same : ∀ x ∈ a :: items, x ≠ b → other x = next x) : Segment other a items b := by
  induction items generalizing a with
  | nil => exact segment
  | cons x rest ih =>
      obtain ⟨fresh,distinct⟩ := List.nodup_cons.mp nodup
      have apart : a ≠ b := by
        intro same
        subst same
        exact fresh segment.2.last_mem
      refine ⟨(same a (by simp) apart).trans segment.1,ih segment.2 distinct ?_⟩
      intro y present other
      exact same y (List.mem_cons_of_mem a present) other

-- Following `next` from a pointer visits exactly `items` and arrives at a pointer.
def Visits (next : ι → Option ι) : Option ι → List ι → Option ι → Prop
  | p,[],q => p = q
  | p,x :: rest,q => p = some x ∧ Visits next (next x) rest q

section Visits

variable {next : ι → Option ι}

theorem Segment.visits (segment : Segment next a items b) : Visits next (some a) (a :: items) (next b) := by
  induction items generalizing a with
  | nil =>
      obtain rfl : a = b := segment
      exact ⟨rfl,rfl⟩
  | cons x rest ih =>
      refine ⟨rfl,?_⟩
      rw [segment.1]
      exact ih segment.2

theorem visits_append {before after : List ι} :
    Visits next p (before ++ after) q ↔ ∃ m, Visits next p before m ∧ Visits next m after q := by
  induction before generalizing p with
  | nil => simp [Visits]
  | cons x rest ih => simp [Visits,ih,and_assoc]

theorem visits_snoc {items : List ι} : Visits next p (items ++ [x]) q ↔ Visits next p items (some x) ∧ next x = q := by
  rw [visits_append]
  constructor
  · rintro ⟨m,before,here,arrives⟩
    subst here
    exact ⟨before,arrives⟩
  · rintro ⟨before,arrives⟩
    exact ⟨some x,before,rfl,arrives⟩

theorem Visits.congr {other : ι → Option ι} (visits : Visits next p items q) (same : ∀ x ∈ items, other x = next x) : Visits other p items q := by
  induction items generalizing p with
  | nil => exact visits
  | cons x rest ih =>
      refine ⟨visits.1,?_⟩
      rw [same x List.mem_cons_self]
      exact ih visits.2 fun y among => same y (List.mem_cons_of_mem x among)

-- The end of a list determines what is visited on the way to it.
theorem Visits.unique (one : Visits next p items none) (two : Visits next p others none) : items = others := by
  induction items generalizing p others with
  | nil =>
      have start : p = none := one
      subst start
      cases others with
      | nil => rfl
      | cons x rest => cases two.1
  | cons x rest ih =>
      obtain ⟨start,later⟩ := one
      subst start
      cases others with
      | nil => cases two
      | cons y more =>
          obtain ⟨same,further⟩ := two
          cases same
          rw [ih later further]

theorem Visits.nodup (visits : Visits next p items none) : items.Nodup := by
  induction items generalizing p with
  | nil => exact List.nodup_nil
  | cons x rest ih =>
      refine List.nodup_cons.mpr ⟨?_,ih visits.2⟩
      intro again
      obtain ⟨before,after,rfl⟩ := List.append_of_mem again
      obtain ⟨m,_,here⟩ := visits_append.mp visits.2
      have shorter := congrArg List.length (visits.2.unique here.2)
      simp at shorter
      omega

variable [DecidableEq ι]

theorem Visits.update {w : ι} {items : List ι} (fresh : w ∉ items) (value : Option ι) :
    Visits (Function.update next w value) p items q ↔ Visits next p items q := by
  have same : ∀ x ∈ items, Function.update next w value x = next x := by
    intro x among
    apply Function.update_of_ne
    rintro rfl
    exact fresh among
  constructor
  · intro visits
    exact visits.congr fun x among => (same x among).symm
  · intro visits
    exact visits.congr same

-- A node that is linked before the list: this ends exactly where it was not in the list.
theorem visits_front {w : ι} {items : List ι} :
    Visits (Function.update next w p) (some w) items none ↔ ∃ rest, items = w :: rest ∧ w ∉ rest ∧ Visits next p rest none := by
  constructor
  · intro visits
    cases items with
    | nil => cases visits
    | cons x rest =>
        have distinct := List.nodup_cons.mp visits.nodup
        obtain ⟨here,later⟩ := visits
        cases here
        rw [Function.update_self] at later
        exact ⟨rest,rfl,distinct.1,(Visits.update distinct.1 p).mp later⟩
  · rintro ⟨rest,rfl,fresh,visits⟩
    refine ⟨rfl,?_⟩
    rw [Function.update_self]
    exact (Visits.update fresh p).mpr visits

-- The items before the first occurrence of one, all of them where it does not occur.
def before (w : ι) (items : List ι) : List ι := items.takeWhile (· ≠ w)

theorem before_fresh {w : ι} {items : List ι} (fresh : w ∉ items) : before w items = items := by
  apply List.takeWhile_eq_self_iff.mpr
  intro x among
  apply decide_eq_true
  rintro rfl
  exact fresh among

theorem before_append {w : ι} {front : List ι} (fresh : w ∉ front) (rest : List ι) : before w (front ++ rest) = front ++ before w rest := by
  apply List.takeWhile_append_of_pos
  intro x among
  apply decide_eq_true
  rintro rfl
  exact fresh among

theorem before_cons_self (w : ι) (rest : List ι) : before w (w :: rest) = [] := List.takeWhile_cons_of_neg (by simp)

theorem before_first {w : ι} {front : List ι} (fresh : w ∉ front) (rest : List ι) : before w (front ++ w :: rest) = front := by
  rw [before_append fresh,before_cons_self,List.append_nil]

theorem before_subset (w : ι) (items : List ι) : before w items ⊆ items := List.takeWhile_subset _

theorem not_mem_before (w : ι) (items : List ι) : w ∉ before w items := by
  intro among
  have apart : decide (w ≠ w) = true := List.mem_takeWhile_imp (p := (decide <| · ≠ w)) among
  exact of_decide_eq_true apart rfl

-- An item moves to the end, and what stood behind it is lost.
def raise (items : List ι) (w : ι) : List ι := before w items ++ [w]

theorem mem_raise {x w : ι} {items : List ι} : x ∈ raise items w ↔ x ∈ before w items ∨ x = w := by simp [raise]

theorem raise_fresh {w : ι} {items : List ι} (fresh : w ∉ items) : raise items w = items ++ [w] := by rw [raise,before_fresh fresh]

theorem raise_all_fresh {items tops : List ι} (distinct : (items ++ tops).Nodup) : tops.foldl raise items = items ++ tops := by
  induction tops generalizing items with
  | nil => exact (List.append_nil items).symm
  | cons w rest ih =>
      have fresh : w ∉ items := fun among => (List.nodup_append.mp distinct).2.2 w among w List.mem_cons_self rfl
      rw [List.append_cons] at distinct ⊢
      rw [List.foldl_cons,raise_fresh fresh]
      exact ih distinct

theorem raise_all_missing {w : ι} {items tops : List ι} (fresh : w ∉ items) (never : w ∉ tops) : w ∉ tops.foldl raise items := by
  induction tops generalizing items with
  | nil => exact fresh
  | cons x rest ih =>
      obtain ⟨apart,later⟩ := List.ne_and_not_mem_of_not_mem_cons never
      apply ih _ later
      intro among
      cases mem_raise.mp among with
      | inl kept => exact fresh (before_subset x items kept)
      | inr same => exact apart same

-- Where one of the later items stands before the first of them, that one is lost.
theorem raise_all_lost {v x : ι} {front tops : List ι} (rest : List ι) (fresh : v ∉ front) (never : v ∉ tops) (raised : x ∈ tops) (earlier : x ∈ front) :
    v ∉ tops.foldl raise (front ++ v :: rest) := by
  induction tops generalizing rest with
  | nil => cases raised
  | cons y more ih =>
      obtain ⟨apart,later⟩ := List.ne_and_not_mem_of_not_mem_cons never
      by_cases cut : y ∈ front
      · apply raise_all_missing _ later
        intro among
        cases mem_raise.mp among with
        | inl kept =>
            obtain ⟨one,two,rfl,unmet⟩ := List.eq_append_cons_of_mem cut
            rw [List.append_assoc,List.cons_append,before_first unmet] at kept
            exact fresh (List.mem_append_left _ kept)
        | inr same => exact apart same
      · have remains : x ∈ more := by
          cases List.mem_cons.mp raised with
          | inl same =>
              subst same
              exact absurd earlier cut
          | inr among => exact among
        have shape : raise (front ++ v :: rest) y = front ++ v :: raise rest y := by
          have passed : y ∉ front ++ [v] := by simp [cut,apart.symm]
          rw [raise,List.append_cons front v rest,before_append passed,raise]
          simp
        rw [List.foldl_cons,shape]
        exact ih _ later remains

-- Moving distinct items to the end one after another keeps what has to be kept.
theorem raise_all_iff {v : ι} {items tops : List ι} (distinct : items.Nodup) (different : (v :: tops).Nodup) (Kept : ι → Prop) :
    (∀ x, Kept x ∨ x ∈ v :: tops → x ∈ (v :: tops).foldl raise items) ↔
      (∀ x ∈ tops, x ∉ before v items) ∧ ∀ x, Kept x → x ∈ before v items ∨ x ∈ v :: tops := by
  have fresh := not_mem_before v items
  have never := (List.nodup_cons.mp different).1
  have settled : (∀ x ∈ tops, x ∉ before v items) → (v :: tops).foldl raise items = before v items ++ v :: tops := by
    intro apart
    have joined : (before v items ++ v :: tops).Nodup := by
      refine List.nodup_append.mpr ⟨(List.takeWhile_sublist _).nodup distinct,different,?_⟩
      rintro x among y raised rfl
      cases List.mem_cons.mp raised with
      | inl same =>
          subst same
          exact fresh among
      | inr later => exact apart x later among
    rw [List.append_cons] at joined ⊢
    exact raise_all_fresh joined
  constructor
  · intro all
    have apart : ∀ x ∈ tops, x ∉ before v items := by
      intro x raised earlier
      have lost := raise_all_lost [] fresh never raised earlier
      exact lost (all v (.inr List.mem_cons_self))
    refine ⟨apart,fun x kept => ?_⟩
    have present := all x (.inl kept)
    rw [settled apart] at present
    exact List.mem_append.mp present
  · rintro ⟨apart,kept⟩ x wanted
    rw [settled apart]
    apply List.mem_append.mpr
    cases wanted with
    | inl here => exact kept x here
    | inr raised => exact .inr raised

-- A node that becomes the last one takes the place where it was met first, or the end.
theorem visits_back {w t : ι} {items : List ι} (visits : Visits next p (items ++ [t]) none) :
    Visits (Function.update (Function.update next t (some w)) w none) p (raise (items ++ [t]) w) none := by
  rw [raise,visits_snoc]
  refine ⟨(Visits.update (not_mem_before w _) none).mpr ?_,Function.update_self _ _ _⟩
  by_cases listed : w ∈ items ++ [t]
  · obtain ⟨front,back,cut,fresh⟩ := List.eq_append_cons_of_mem listed
    have distinct := visits.nodup
    rw [cut] at visits distinct ⊢
    rw [before_first fresh]
    obtain ⟨m,begin,here,_⟩ := visits_append.mp visits
    subst here
    -- The last node is the one that is linked or stands behind it.
    have ends : (w :: back).getLast? = some t := by
      rw [← List.getLast?_append_cons front,← cut]
      exact List.getLast?_concat
    have later : t ∉ front := by
      intro among
      exact (List.nodup_append.mp distinct).2.2 t among t (List.mem_of_getLast? ends) rfl
    exact (Visits.update later _).mpr begin
  · rw [before_fresh listed,visits_snoc]
    refine ⟨?_,Function.update_self _ _ _⟩
    have distinct := List.nodup_append.mp visits.nodup
    have fresh : t ∉ items := fun among => distinct.2.2 t among t (List.mem_singleton_self t) rfl
    exact (Visits.update fresh _).mpr (visits_snoc.mp visits).1

end Visits

end Linked
