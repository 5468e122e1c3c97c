import Mathlib.Data.List.Perm.Basic
import Mathlib.Data.List.Range
import Mathlib.Data.Nat.ModEq
import Mathlib.Logic.Function.Basic

namespace Ring

-- One advance of an index over `cap` cells, written as C code writes it:
-- increment, then return to the first cell when the end is passed.
def next (cap i : Nat) : Nat := if cap ≤ i+1 then 0 else i+1

theorem next_lt (positive : 0 < cap) : next cap i < cap := by
  unfold next
  split <;> omega

theorem next_ne (several : 1 < cap) : next cap i ≠ i := by
  unfold next
  split <;> omega

theorem next_mod (inside : i < cap) : next cap i = (i+1) % cap := by
  unfold next
  split
  · have full : i+1 = cap := by omega
    simp [full]
  · exact (Nat.mod_eq_of_lt (by omega)).symm

theorem next_turn (positive : 0 < cap) : next cap ((s+n) % cap) = (s+(n+1)) % cap := by
  rw [next_mod (Nat.mod_lt _ positive),Nat.mod_add_mod,Nat.add_assoc]

theorem turn_injective {cap s i j : Nat} (left : i < cap) (right : j < cap)
    (same : (s+i) % cap = (s+j) % cap) : i = j := by
  have equal : i % cap = j % cap := Nat.ModEq.add_left_cancel' s same
  rwa [Nat.mod_eq_of_lt left,Nat.mod_eq_of_lt right] at equal

theorem turn_onto {cap s j : Nat} (start : s < cap) (inside : j < cap) : ∃ i < cap, j = (s+i) % cap := by
  by_cases before : j < s
  · refine ⟨j+cap-s,by omega,?_⟩
    rw [show s+(j+cap-s) = j+cap by omega,Nat.add_mod_right,Nat.mod_eq_of_lt inside]
  · refine ⟨j-s,by omega,?_⟩
    rw [show s+(j-s) = j by omega,Nat.mod_eq_of_lt inside]

-- Cells with two independent cursors and no element count.
structure Buffer (α : Type u) where
  cell : Nat → Option α
  head : Nat
  tail : Nat

structure Inside (cap : Nat) (b : Buffer α) : Prop where
  head_lt : b.head < cap
  tail_lt : b.tail < cap

def empty : Buffer α := ⟨fun _ => none,0,0⟩

-- The writer stores at the tail without looking at the head; `none` is a
-- write that leaves nothing a reader recognises.
def write (cap : Nat) (b : Buffer α) (value : Option α) : Buffer α :=
  {b with cell := Function.update b.cell b.tail value,tail := next cap b.tail}

-- The reader obtains `b.cell b.head`, clears that cell and moves on. It moves
-- on as well when the cell holds nothing.
def poll (cap : Nat) (b : Buffer α) : Buffer α :=
  {b with cell := Function.update b.cell b.head none,head := next cap b.head}

def seek (b : Buffer α) (index : Nat) : Buffer α := {b with head := index}
def skip (cap : Nat) (b : Buffer α) : Buffer α := {b with head := next cap b.head}
def rewind (b : Buffer α) : Buffer α := {b with head := 0,tail := 0}

theorem empty_inside (positive : 0 < cap) : Inside cap (empty : Buffer α) := ⟨positive,positive⟩
theorem write_inside (inside : Inside cap b) : Inside cap (write cap b value) :=
  ⟨inside.head_lt,next_lt (Nat.zero_lt_of_lt inside.tail_lt)⟩
theorem poll_inside (inside : Inside cap b) : Inside cap (poll cap b) :=
  ⟨next_lt (Nat.zero_lt_of_lt inside.head_lt),inside.tail_lt⟩

def stored (cap : Nat) (b : Buffer α) : List α := (List.range cap).filterMap b.cell

theorem mem_stored : x ∈ stored cap b ↔ ∃ i < cap, b.cell i = some x := by
  simp [stored,List.mem_filterMap]

-- Replacing one cell exchanges exactly its old content for the new one.
theorem filterMap_exchange [DecidableEq ι] (f : ι → Option α) (i : ι) (value : Option α)
    (items : List ι) (nodup : items.Nodup) (member : i ∈ items) :
    List.Perm ((f i).toList ++ items.filterMap (Function.update f i value))
      (value.toList ++ items.filterMap f) := by
  induction items with
  | nil => cases member
  | cons first rest ih =>
      obtain ⟨fresh,nodup⟩ := List.nodup_cons.mp nodup
      by_cases same : first = i
      · subst first
        have others : rest.filterMap (Function.update f i value) = rest.filterMap f := by
          apply List.filterMap_congr
          intro j present
          have other : j ≠ i := by rintro rfl; exact fresh present
          exact Function.update_of_ne other _ _
        simp only [List.filterMap_cons,Function.update_self,others]
        cases f i <;> cases value <;> simp [List.Perm.swap]
      · have later : i ∈ rest := (List.mem_cons.mp member).resolve_left (Ne.symm same)
        have tail := ih nodup later
        simp only [List.filterMap_cons,Function.update_of_ne same]
        cases f first with
        | none => exact tail
        | some x =>
            calc
              List.Perm ((f i).toList ++ x :: rest.filterMap (Function.update f i value))
                  (x :: ((f i).toList ++ rest.filterMap (Function.update f i value))) := List.perm_middle
              List.Perm _ (x :: (value.toList ++ rest.filterMap f)) := tail.cons x
              List.Perm _ (value.toList ++ x :: rest.filterMap f) := List.perm_middle.symm

theorem stored_exchange (b : Buffer α) (i : Nat) (value : Option α) (inside : i < cap) :
    List.Perm ((b.cell i).toList ++ stored cap {b with cell := Function.update b.cell i value})
      (value.toList ++ stored cap b) :=
  filterMap_exchange b.cell i value (List.range cap) List.nodup_range (List.mem_range.mpr inside)

theorem poll_stored (inside : Inside cap b) :
    List.Perm ((b.cell b.head).toList ++ stored cap (poll cap b)) (stored cap b) := by
  have exchange := stored_exchange b b.head none inside.head_lt
  rwa [Option.toList_none,List.nil_append] at exchange

def polls (cap : Nat) : Nat → Buffer α → List α × Buffer α
  | 0,b => ([],b)
  | count+1,b =>
      let rest := polls cap count (poll cap b)
      ((b.cell b.head).toList ++ rest.1,rest.2)

theorem polls_stored (count : Nat) (inside : Inside cap b) :
    List.Perm ((polls cap count b).1 ++ stored cap (polls cap count b).2) (stored cap b) := by
  induction count generalizing b with
  | zero => simp [polls]
  | succ count ih =>
      simp only [polls,List.append_assoc]
      exact ((ih (poll_inside inside)).append_left _).trans (poll_stored inside)

theorem poll_cell (cap : Nat) (b : Buffer α) : (poll cap b).cell j = if j = b.head then none else b.cell j := by
  simp [poll,Function.update_apply]

theorem polls_clears {b : Buffer α} (inside : Inside cap b) (passed : i < count) :
    (polls cap count b).2.cell ((b.head+i) % cap) = none := by
  have stays : ∀ (n : Nat) (b : Buffer α) (j : Nat), b.cell j = none → (polls cap n b).2.cell j = none := by
    intro n
    induction n with
    | zero => exact fun _ _ clear => clear
    | succ n ih =>
        intro b j clear
        apply ih
        rw [poll_cell]
        split
        · rfl
        · exact clear
  induction count generalizing b i with
  | zero => omega
  | succ count ih =>
      have start := Nat.mod_eq_of_lt inside.head_lt
      cases i with
      | zero => exact stays count _ _ (by simp [poll_cell,start])
      | succ i =>
          have moved := ih (poll_inside inside) (Nat.lt_of_succ_lt_succ passed)
          have turned : ((poll cap b).head+i) % cap = (b.head+(i+1)) % cap := by
            change (next cap b.head+i) % cap = _
            rw [next_mod inside.head_lt,Nat.mod_add_mod]
            congr 1
            omega
          rwa [turned] at moved

-- A full turn of the reader, with no write in between, obtains everything.
theorem sweep_obtains (inside : Inside cap b) : List.Perm (polls cap cap b).1 (stored cap b) := by
  have nothing : stored cap (polls cap cap b).2 = [] := by
    rw [List.eq_nil_iff_forall_not_mem]
    intro x present
    obtain ⟨j,valid,found⟩ := mem_stored.mp present
    obtain ⟨i,bound,turned⟩ := turn_onto inside.head_lt valid
    rw [turned,polls_clears inside bound] at found
    cases found
  simpa [nothing] using polls_stored cap inside

-- The unread values lie in one window of consecutive cells that ends at the
-- tail, and the reader's cursor is not strictly inside it.
structure Window (cap : Nat) (b : Buffer α) (start : Nat) (unread : List α) : Prop where
  inside : Inside cap b
  start_lt : start < cap
  fits : unread.length ≤ cap
  filled : ∀ i, i < unread.length → b.cell ((start+i) % cap) = unread[i]?
  vacant : ∀ i, unread.length ≤ i → i < cap → b.cell ((start+i) % cap) = none
  ending : b.tail = (start+unread.length) % cap
  cursor : b.head = start ∨ ∃ i, unread.length ≤ i ∧ i < cap ∧ b.head = (start+i) % cap

theorem window_empty (positive : 0 < cap) : Window cap (empty : Buffer α) 0 [] := by
  refine ⟨empty_inside positive,positive,by simp,by simp,?_,?_,.inl rfl⟩
  · intros; rfl
  · simp [empty]

-- With nothing unread the window may start anywhere, in particular at the tail.
theorem Window.restart (window : Window cap b start []) : Window cap b b.tail [] := by
  have clear : ∀ j < cap, b.cell j = none := by
    intro j valid
    obtain ⟨i,bound,turned⟩ := turn_onto window.start_lt valid
    rw [turned]
    exact window.vacant i (Nat.zero_le _) bound
  have positive := Nat.zero_lt_of_lt window.start_lt
  refine ⟨window.inside,window.inside.tail_lt,by simp,by simp,?_,?_,.inr ?_⟩
  · intro i _ _
    exact clear _ (Nat.mod_lt _ positive)
  · simp [Nat.mod_eq_of_lt window.inside.tail_lt]
  · obtain ⟨i,bound,turned⟩ := turn_onto window.inside.tail_lt window.inside.head_lt
    exact ⟨i,Nat.zero_le _,bound,turned⟩

theorem Window.clear_iff (window : Window cap b start unread) :
    (∀ j < cap, b.cell j = none) ↔ unread = [] := by
  have positive := Nat.zero_lt_of_lt window.start_lt
  constructor
  · intro clear
    cases unread with
    | nil => rfl
    | cons x rest =>
        have found := window.filled 0 (by simp)
        rw [clear _ (Nat.mod_lt _ positive)] at found
        simp at found
  · intro same j valid
    subst same
    obtain ⟨i,bound,turned⟩ := turn_onto window.start_lt valid
    rw [turned]
    exact window.vacant i (Nat.zero_le _) bound

-- A full window has its end at its start, so with the cursor elsewhere there is
-- room for one more value.
theorem Window.room (window : Window cap b start unread) (clear : b.head = b.tail → unread = []) : unread.length < cap := by
  have positive := Nat.zero_lt_of_lt window.start_lt
  by_contra full
  have len : unread.length = cap := Nat.le_antisymm window.fits (Nat.not_lt.mp full)
  have around : b.tail = start := by
    rw [window.ending,len,Nat.add_mod_right,Nat.mod_eq_of_lt window.start_lt]
  rcases window.cursor with atStart | ⟨i,low,high,_⟩
  · have none := clear (atStart.trans around.symm)
    subst none
    simp at len
    omega
  · omega

theorem Window.extend_from (window : Window cap b start unread) (clear : b.head = b.tail → unread = []) :
    Window cap (write cap b (some x)) start (unread ++ [x]) := by
  have positive := Nat.zero_lt_of_lt window.start_lt
  have room := window.room clear
  have target : ∀ i, i < cap → i ≠ unread.length → (start+i) % cap ≠ b.tail := by
    intro i bound differs same
    rw [window.ending] at same
    exact differs (turn_injective bound room same)
  refine ⟨write_inside window.inside,window.start_lt,by simp; omega,?_,?_,?_,?_⟩
  · intro i bound
    simp only [List.length_append,List.length_singleton] at bound
    by_cases last : i = unread.length
    · subst last
      simp [write,← window.ending]
    · have low : i < unread.length := by omega
      rw [List.getElem?_append_left low]
      simpa [write,Function.update_apply,target i (by omega) last] using window.filled i low
  · intro i bound high
    simp only [List.length_append,List.length_singleton] at bound
    simpa [write,Function.update_apply,target i high (by omega)] using window.vacant i (by omega) high
  · change next cap b.tail = _
    rw [window.ending,next_turn positive]
    simp
  · rcases window.cursor with atStart | ⟨i,low,high,turned⟩
    · exact .inl atStart
    · by_cases zero : i = 0
      · refine .inl ?_
        change b.head = start
        rw [turned,zero,Nat.add_zero,Nat.mod_eq_of_lt window.start_lt]
      · have beyond : i ≠ unread.length := by
          intro same
          subst same
          have none := clear (turned.trans window.ending.symm)
          simp [none] at zero
        exact .inr ⟨i,by simp; omega,high,turned⟩

-- A write extends the window when the cursor is not at the cell after its end;
-- an empty window is moved to the tail first.
theorem Window.extend (window : Window cap b start unread)
    (clear : b.head = b.tail → unread = []) :
    ∃ start', Window cap (write cap b (some x)) start' (unread ++ [x]) := by
  cases unread with
  | nil => exact ⟨b.tail,window.restart.extend_from clear⟩
  | cons y rest => exact ⟨start,window.extend_from clear⟩

-- A poll at the start of the window obtains the oldest value.
theorem Window.take (window : Window cap b start (x :: rest)) (atStart : b.head = start) :
    b.cell b.head = some x ∧ Window cap (poll cap b) (next cap start) rest := by
  have positive := Nat.zero_lt_of_lt window.start_lt
  have first : (start+0) % cap = start := by simp [Nat.mod_eq_of_lt window.start_lt]
  have found : b.cell b.head = some x := by
    have here := window.filled 0 (by simp)
    rwa [first,← atStart] at here
  have shift : ∀ i, (next cap start+i) % cap = (start+(i+1)) % cap := by
    intro i
    rw [next_mod window.start_lt,Nat.mod_add_mod]
    congr 1
    omega
  have short : rest.length+1 ≤ cap := by simpa using window.fits
  refine ⟨found,poll_inside window.inside,next_lt positive,by omega,?_,?_,?_,.inl ?_⟩
  · intro i bound
    have other : (start+(i+1)) % cap ≠ b.head := by
      rw [atStart]
      intro same
      have zero := turn_injective (s := start) (i := i+1) (j := 0) (by omega) positive (same.trans first.symm)
      omega
    rw [shift,poll_cell,if_neg other]
    simpa using window.filled (i+1) (by simpa using bound)
  · intro i low high
    rw [shift,poll_cell]
    split
    · rfl
    · rcases Nat.lt_or_ge (i+1) cap with less | wrap
      · exact window.vacant (i+1) (by simpa using low) less
      · have full : i+1 = cap := by omega
        rename_i other
        refine absurd ?_ other
        rw [full,Nat.add_mod_right,Nat.mod_eq_of_lt window.start_lt,atStart]
  · change b.tail = _
    rw [shift,window.ending]
    simp
  · change next cap b.head = _
    rw [atStart]

-- A poll outside the window obtains nothing and comes at most to its start.
theorem Window.pass (window : Window cap b start unread) (low : unread.length ≤ i) (high : i < cap)
    (turned : b.head = (start+i) % cap) : b.cell b.head = none ∧ Window cap (poll cap b) start unread := by
  have positive := Nat.zero_lt_of_lt window.start_lt
  have clear : b.cell b.head = none := turned ▸ window.vacant i low high
  have same : (poll cap b).cell = b.cell := by
    funext j
    rw [poll_cell]
    split
    · rename_i equal; rw [equal,clear]
    · rfl
  refine ⟨clear,poll_inside window.inside,window.start_lt,window.fits,?_,?_,window.ending,?_⟩
  · rw [same]; exact window.filled
  · rw [same]; exact window.vacant
  · have moved : (poll cap b).head = (start+(i+1)) % cap := by
      change next cap b.head = _
      rw [turned,next_turn positive]
    rcases Nat.lt_or_ge (i+1) cap with less | wrap
    · exact .inr ⟨i+1,by omega,less,moved⟩
    · have full : i+1 = cap := by omega
      refine .inl ?_
      rw [moved,full,Nat.add_mod_right,Nat.mod_eq_of_lt window.start_lt]

theorem Window.advance (window : Window cap b start unread) :
    (∃ x rest, unread = x :: rest ∧ b.cell b.head = some x ∧ Window cap (poll cap b) (next cap start) rest) ∨
    (b.cell b.head = none ∧ Window cap (poll cap b) start unread) := by
  have positive := Nat.zero_lt_of_lt window.start_lt
  rcases window.cursor with atStart | ⟨i,low,high,turned⟩
  · cases unread with
    | nil => exact .inr (window.pass (i := 0) (by simp) positive (by simp [atStart,Nat.mod_eq_of_lt window.start_lt]))
    | cons x rest => exact .inl ⟨x,rest,rfl,window.take atStart⟩
  · exact .inr (window.pass low high turned)

-- The values that a number of polls obtains are the first unread ones, in their order.
theorem Window.polled (window : Window cap b start unread) (count : Nat) :
    ∃ start' rest, Window cap (polls cap count b).2 start' rest ∧ unread = (polls cap count b).1 ++ rest := by
  induction count generalizing b start unread with
  | zero => exact ⟨start,unread,window,rfl⟩
  | succ count ih =>
      rcases window.advance with ⟨x,rest,rfl,here,shorter⟩ | ⟨clear,still⟩
      · obtain ⟨start',left,final,split⟩ := ih shorter
        exact ⟨start',left,final,by simp [polls,here,← split]⟩
      · obtain ⟨start',left,final,split⟩ := ih still
        exact ⟨start',left,final,by simpa [polls,clear] using split⟩

theorem Window.swept (window : Window cap b start unread) : (polls cap cap b).1 = unread := by
  obtain ⟨start',rest,final,split⟩ := window.polled cap
  have nothing : rest = [] := by
    rw [← final.clear_iff]
    intro j valid
    obtain ⟨i,bound,turned⟩ := turn_onto window.inside.head_lt valid
    rw [turned]
    exact polls_clears window.inside bound
  rw [split,nothing,List.append_nil]

end Ring
