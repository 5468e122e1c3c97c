import GramadoKernel.ConsoleCells

namespace GramadoKernel

open Stateful

-- Where a character stands: after how many scrolls, and in which cell.
structure Place where
  scrolls : Nat
  x : Nat
  y : Nat
  deriving DecidableEq

namespace Place

def Before (p q : Place) : Prop := p.scrolls < q.scrolls ∨ p.scrolls = q.scrolls ∧ (p.y < q.y ∨ p.y = q.y ∧ p.x < q.x)

-- The cell for a character at a cursor: there, or at the start of the next row where the
-- row is full. Below the last row the screen goes up by one row. The column before the
-- right margin takes no character.
def cell (right bottom : Nat) (p : Place) : Place :=
  if p.x+1 < right then p
  else if p.y+1 < bottom then ⟨p.scrolls,0,p.y+1⟩
  else ⟨p.scrolls+1,0,p.y⟩

-- Characters in the cells from a cursor on, one after the other.
def InOrder (right bottom : Nat) : Place → List Place → Prop
  | _,[] => True
  | start,p :: rest => p = start.cell right bottom ∧ InOrder right bottom ⟨p.scrolls,p.x+1,p.y⟩ rest

theorem cell_later (right bottom : Nat) (p : Place) : ¬ (p.cell right bottom).Before p := by
  unfold cell Before
  split
  · omega
  · split
    · dsimp only
      omega
    · dsimp only
      omega

theorem InOrder.increasing {right bottom : Nat} (order : InOrder right bottom start places) :
    places.Pairwise Before ∧ ∀ p ∈ places, ¬ p.Before start := by
  induction places generalizing start with
  | nil => simp
  | cons p rest ih =>
      obtain ⟨here,later⟩ := order
      obtain ⟨sorted,after⟩ := ih later
      have first := cell_later right bottom start
      rw [← here] at first
      have follows : ∀ q ∈ rest, p.Before q := by
        intro q among
        have beyond := after q among
        unfold Before at beyond ⊢
        dsimp only at beyond
        omega
      refine ⟨List.pairwise_cons.mpr ⟨follows,sorted⟩,?_⟩
      intro q among
      cases List.mem_cons.mp among with
      | inl same =>
          rw [same]
          exact first
      | inr further =>
          have behind := follows q further
          unfold Before at first behind ⊢
          omega

-- Between two scrolls no cell is used twice.
theorem InOrder.nodup {right bottom : Nat} (order : InOrder right bottom start places) : places.Nodup := by
  apply order.increasing.1.imp
  intro p q before same
  subst same
  unfold Before at before
  omega

-- The second cell of a row
theorem cell_second {right : Nat} (wide : 2 ≤ right) (bottom scrolls y : Nat) (start : ((⟨scrolls,1,y⟩ : Place).cell right bottom).x = 0) :
    right = 2 ∧ (⟨scrolls,1,y⟩ : Place).cell right bottom ≠ ⟨scrolls,0,y⟩ := by
  unfold cell at start ⊢
  dsimp only at start ⊢
  by_cases more : 1+1 < right
  · rw [if_pos more] at start
    cases start
  · rw [if_neg more]
    refine ⟨by omega,?_⟩
    split
    · intro same
      have rows := congrArg Place.y same
      dsimp only at rows
      omega
    · intro same
      have scrolled := congrArg Place.scrolls same
      dsimp only at scrolled
      omega

end Place

def Printable (char : UInt8) : Prop := 32 < char ∧ char ≠ 127

structure Console.Margins (c : Console) : Prop where
  left : c.cursorLeft = 0
  top : c.cursorTop = 0
  right : 2 ≤ c.cursorRight
  bottom : 2 ≤ c.cursorBottom
  echoes : c.Echoes
  x : c.cursorX < c.cursorRight
  y : c.cursorY < c.cursorBottom

def Terminal.place (t : Terminal) : Place := ⟨t.scrolls,t.console.cursorX.toNat,t.console.cursorY.toNat⟩

-- One character that is drawn once, and where.
structure DrawnAt (s : Terminal) (e : UInt8 × Place) (t : Terminal) : Prop where
  done : consoleOutbyte2 e.1.toNat s = .ok () t
  drawing : ∃ d, t.drawings = s.drawings ++ [d] ∧ d.char = (e.1.toNat : Int) ∧ e.2 = ⟨t.scrolls,d.x.toNat,d.y.toNat⟩

-- A text that is sent one character after the other and stands in the cells from the
-- cursor on.
def PrintedInOrder (text : List UInt8) (t : Terminal) : Prop :=
  ∃ drawn u, Runs.Path DrawnAt t drawn u ∧ drawn.map Prod.fst = text ∧
    Place.InOrder t.console.cursorRight.toNat t.console.cursorBottom.toNat t.place (drawn.map Prod.snd) ∧
      (drawn.map Prod.snd).Nodup

def Console.entered (c : Console) : Console := if c.AtLineEnd then c.goto c.cursorLeft (c.cursorY+1) else c

-- The cursor in the cell of the next character.
def Terminal.entered (t : Terminal) : Terminal :=
  if t.console.entered.cursorBottom ≤ t.console.entered.cursorY then (t.put t.console.entered).bottomed else t.put t.console.entered

section Step

variable {t u : Terminal} {char : UInt8}

theorem entered_echoes (on : t.console.Echoes) : (t.put t.console.entered).console.Echoes := by
  show t.console.entered.Echoes
  unfold Console.entered
  split
  · exact on
  · exact on

theorem drawHere_entered (on : t.console.Echoes) (draws : t.Draws) :
    drawHere char.toNat (t.put t.console.entered) =
      .ok () ((t.entered.drawn char.toNat).put (t.entered.console.remember char.toNat)) := by
  have echoes := entered_echoes on
  unfold Terminal.entered
  by_cases below : t.console.entered.cursorBottom ≤ t.console.entered.cursorY
  · rw [if_pos below]
    exact drawHere_bottom_gui below echoes draws.2 draws.1
  · rw [if_neg below]
    exact drawHere_gui below echoes draws.2 draws.1

theorem printable_plain (printable : Printable char) : ¬ Special char ∧ char ≠ Ascii.backspace := by
  have high := printable.1
  constructor
  · intro special
    rcases special with rfl | rfl | rfl | rfl | rfl <;> exact absurd high (by decide)
  · rintro rfl
    exact absurd high (by decide)

-- What a character leaves: a drawing in its cell and the cursor after it, except that it
-- stays in the cell where a new row was started.
structure Steps (t : Terminal) (char : UInt8) (u : Terminal) : Prop where
  drawings : u.drawings = t.drawings ++ [⟨char.toNat,t.entered.console.cursorX,t.entered.console.cursorY,
    t.entered.console.cursorRight,t.entered.console.cursorBottom⟩]
  scrolls : u.scrolls = t.entered.scrolls
  draws : u.Draws
  console : u.console = if t.console.AtLineEnd then t.entered.console.remember char.toNat
    else (t.entered.console.remember char.toNat).goto (t.entered.console.cursorX+1) t.entered.console.cursorY

theorem entered_shared (t : Terminal) : t.entered.drawings = t.drawings ∧ t.entered.useGui = t.useGui := by
  unfold Terminal.entered
  split
  · exact ⟨bottomed_drawings _,bottomed_useGui _⟩
  · exact ⟨rfl,rfl⟩

theorem outbyte2_steps (used : InUse t) (on : t.console.Echoes) (draws : t.Draws) (room : ¬ t.console.Closed) (printable : Printable char) :
    ∃ u, consoleOutbyte2 char.toNat t = .ok () u ∧ Steps t char u := by
  obtain ⟨plain,other⟩ := printable_plain printable
  obtain ⟨drawings,gui⟩ := entered_shared t
  have here := @drawHere_entered t char on draws
  rw [(outbyte_plain used plain other).2,drawBeforeStep_open room]
  unfold Console.entered at here
  rw [bind_done here]
  refine ⟨_,rfl,?_,rfl,⟨gui.trans draws.1,?_⟩,?_⟩
  · show t.entered.drawings ++ [_] = _
    rw [drawings]
  · show ¬ ((8 : UInt32) = 0 ∨ (if _ then (16 : UInt32) else 8) = 0)
    split <;> decide
  · by_cases ending : t.console.AtLineEnd
    · rw [if_pos ending]
      simp only [if_pos ending]
      rfl
    · rw [if_neg ending]
      simp only [if_neg ending]
      rfl

theorem steps_drawnAt (done : consoleOutbyte2 char.toNat t = .ok () u) (steps : Steps t char u) : DrawnAt t (char,t.entered.place) u := by
  refine ⟨done,_,steps.drawings,rfl,?_⟩
  rw [steps.scrolls]
  rfl

theorem outbyte2_used (done : consoleOutbyte2 char.toNat t = .ok () u) (more : u.drawings ≠ t.drawings) : InUse t := by
  unfold consoleOutbyte2 at done
  rw [get_bind] at done
  by_cases size : t.charWidth = 0 ∨ t.charHeight = 0
  · rw [if_pos size] at done
    cases done
  · rw [if_neg size] at done
    refine ⟨size,?_⟩
    intro idle
    rw [if_pos idle] at done
    cases done
    exact more rfl

theorem drawBeforeStep_draws (on : t.console.Echoes) (sized : t.SizedFont) (done : drawBeforeStep char.toNat t = .ok () u) :
    ¬ t.console.Closed ∧ t.Draws := by
  have room : ¬ t.console.Closed := by
    intro closed
    obtain ⟨halt,stops⟩ := collision_closed closed "console_outbyte2: l >= r \n" "console_outbyte2: t >= b \n"
    unfold drawBeforeStep at done
    rw [bind_stopped stops] at done
    cases done
  refine ⟨room,?_,sized⟩
  cases gui : t.useGui with
  | true => rfl
  | false =>
      have never : ∃ halt v, drawHere char.toNat (t.put t.console.entered) = .error halt v ∧ SamePicture (t.put t.console.entered) v :=
        drawHere_stops sized gui (.inl (entered_echoes on))
      obtain ⟨halt,v,stops,_⟩ := never
      unfold Console.entered at stops
      rw [drawBeforeStep_open room,bind_stopped stops] at done
      cases done

theorem drawnAt_parts (drawn : DrawnAt t (char,p) u) (on : t.console.Echoes) (printable : Printable char) :
    InUse t ∧ t.Draws ∧ ¬ t.console.Closed ∧ p = t.entered.place ∧ Steps t char u := by
  obtain ⟨done,d,drawings,_,place⟩ := drawn
  replace done : consoleOutbyte2 char.toNat t = .ok () u := done
  replace place : p = ⟨u.scrolls,d.x.toNat,d.y.toNat⟩ := place
  have used : InUse t := outbyte2_used done (by rw [drawings]; simp)
  obtain ⟨plain,other⟩ := printable_plain printable
  obtain ⟨room,draws⟩ := drawBeforeStep_draws on used.sized ((outbyte_plain used plain other).2.symm.trans done)
  obtain ⟨v,same,steps⟩ := outbyte2_steps used on draws room printable
  cases done.symm.trans same
  cases List.append_cancel_left (drawings.symm.trans steps.drawings)
  refine ⟨used,draws,room,?_,steps⟩
  rw [place,steps.scrolls]
  rfl

end Step

section Rows

variable {t u : Terminal} {char : UInt8}

theorem next_toNat {x limit : UInt64} (inside : x < limit) : (x+1).toNat = x.toNat+1 := by
  rw [UInt64.lt_iff_toNat_lt] at inside
  have high := limit.toNat_lt
  rw [UInt64.toNat_add]
  simp
  omega

theorem masked_toNat (limit : UInt64) : (limit &&& 0xFFFF).toNat = limit.toNat % 65536 := by
  rw [UInt64.toNat_and]
  exact Nat.and_two_pow_sub_one_eq_mod limit.toNat 16

theorem lineEnd_iff {c : Console} (some : c.cursorRight ≠ 0) : c.AtLineEnd ↔ c.cursorRight.toNat ≤ c.cursorX.toNat+1 := by
  have positive : c.cursorRight.toNat ≠ 0 := fun zero => some (UInt64.toNat_inj.mp zero)
  have high := c.cursorRight.toNat_lt
  unfold Console.AtLineEnd
  rw [UInt64.le_iff_toNat_le,UInt64.toNat_sub]
  simp
  omega

theorem Console.Margins.nonzero {c : Console} (margins : c.Margins) : c.cursorRight ≠ 0 ∧ ¬ c.Closed := by
  obtain ⟨left,top,right,bottom,_,_,_⟩ := margins
  unfold Console.Closed
  rw [left,top]
  exact ⟨fun none => (several_columns right).1 (none ▸ UInt64.le_refl _),not_or.mpr ⟨(several_columns right).1,(several_columns bottom).1⟩⟩

theorem entered_middle (margins : t.console.Margins) (column : t.console.cursorX.toNat+1 < t.console.cursorRight.toNat) :
    ¬ t.console.AtLineEnd ∧ t.entered = t := by
  have middle : ¬ t.console.AtLineEnd := by
    rw [lineEnd_iff margins.nonzero.1]
    omega
  refine ⟨middle,?_⟩
  unfold Terminal.entered Console.entered
  rw [if_neg middle,if_neg (UInt64.not_le.mpr margins.y)]
  rfl

theorem entered_ending (margins : t.console.Margins) (column : t.console.cursorX.toNat+1 = t.console.cursorRight.toNat) :
    t.console.AtLineEnd ∧ t.entered = if t.console.cursorY.toNat+1 < t.console.cursorBottom.toNat then t.nextLine else t.nextLine.bottomed := by
  have ending : t.console.AtLineEnd := by
    rw [lineEnd_iff margins.nonzero.1]
    omega
  have below : t.nextLine.console.cursorBottom ≤ t.nextLine.console.cursorY ↔ ¬ t.console.cursorY.toNat+1 < t.console.cursorBottom.toNat := by
    show t.console.cursorBottom ≤ t.console.cursorY+1 ↔ _
    rw [UInt64.le_iff_toNat_le,next_toNat margins.y]
    omega
  refine ⟨ending,?_⟩
  unfold Terminal.entered Console.entered
  rw [if_pos ending]
  show (if t.nextLine.console.cursorBottom ≤ t.nextLine.console.cursorY then t.nextLine.bottomed else t.nextLine) = _
  by_cases above : t.console.cursorY.toNat+1 < t.console.cursorBottom.toNat
  · rw [if_pos above,if_neg (fun low => below.mp low above)]
  · rw [if_neg above,if_pos (below.mpr above)]

theorem nextLine_place (margins : t.console.Margins) : t.nextLine.place = ⟨t.scrolls,0,t.console.cursorY.toNat+1⟩ := by
  unfold Terminal.place Terminal.nextLine Terminal.put Console.goto
  simp only [margins.left,next_toNat margins.y]
  rfl

theorem scrolled_place (full : t.console.fullscreenFlag = true) :
    t.nextLine.bottomed.place = ⟨t.scrolls+1,0,((t.console.cursorBottom &&& 0xFFFF)-1).toNat⟩ := by
  unfold Terminal.bottomed
  rw [if_pos (show t.nextLine.console.fullscreenFlag = true from full)]
  rfl

theorem window_place (window : ¬ t.console.fullscreenFlag = true) :
    t.nextLine.bottomed.place = ⟨t.scrolls,0,(t.console.cursorBottom-1).toNat⟩ := by
  unfold Terminal.bottomed
  rw [if_neg (show ¬ t.nextLine.console.fullscreenFlag = true from window)]
  rfl

-- A scroll takes the limits down to 16 bits.
theorem lastLine_iff (last : t.console.cursorY.toNat+1 = t.console.cursorBottom.toNat) :
    ((t.console.cursorBottom &&& 0xFFFF)-1).toNat = t.console.cursorY.toNat ↔ t.console.cursorBottom.toNat < 65536 := by
  have high := t.console.cursorBottom.toNat_lt
  rw [UInt64.toNat_sub,masked_toNat]
  simp
  omega

theorem entered_cell_iff (margins : t.console.Margins) (column : t.console.cursorX.toNat+1 = t.console.cursorRight.toNat) :
    t.entered.place = t.place.cell t.console.cursorRight.toNat t.console.cursorBottom.toNat ↔
      (t.console.cursorY.toNat+1 = t.console.cursorBottom.toNat → t.console.fullscreenFlag = true ∧ t.console.cursorBottom.toNat < 65536) := by
  have line := UInt64.lt_iff_toNat_lt.mp margins.y
  have full : ¬ t.place.x+1 < t.console.cursorRight.toNat := by
    show ¬ t.console.cursorX.toNat+1 < _
    omega
  rw [(entered_ending margins column).2]
  unfold Place.cell
  rw [if_neg full]
  by_cases above : t.console.cursorY.toNat+1 < t.console.cursorBottom.toNat
  · have room : t.place.y+1 < t.console.cursorBottom.toNat := above
    rw [if_pos above,if_pos room,nextLine_place margins]
    constructor
    · intro _ last
      omega
    · intro _
      rfl
  · have below : ¬ t.place.y+1 < t.console.cursorBottom.toNat := above
    have last : t.console.cursorY.toNat+1 = t.console.cursorBottom.toNat := by omega
    rw [if_neg above,if_neg below]
    by_cases screen : t.console.fullscreenFlag = true
    · rw [scrolled_place screen]
      show (⟨t.scrolls+1,0,_⟩ : Place) = ⟨t.scrolls+1,0,t.console.cursorY.toNat⟩ ↔ _
      simp only [Place.mk.injEq,true_and,lastLine_iff last,screen]
      exact ⟨fun small _ => small,fun small => small last⟩
    · rw [window_place screen]
      show (⟨t.scrolls,0,_⟩ : Place) = ⟨t.scrolls+1,0,t.console.cursorY.toNat⟩ ↔ _
      constructor
      · intro same
        have scrolls := congrArg Place.scrolls same
        dsimp only at scrolls
        omega
      · intro small
        exact absurd (small last).1 screen

-- The character at the start of a new row leaves the cursor in its own cell.
structure RowStart (t u : Terminal) : Prop where
  place : u.place = t.entered.place
  x : u.console.cursorX = 0
  left : u.console.cursorLeft = 0
  y : u.console.cursorY < u.console.cursorBottom
  echoes : u.console.Echoes
  right : u.console.cursorRight = t.console.cursorRight ∨ u.console.cursorRight = t.console.cursorRight &&& 0xFFFF

theorem nextLine_rowStart (margins : t.console.Margins) (above : t.console.cursorY.toNat+1 < t.console.cursorBottom.toNat)
    (entered : t.entered = t.nextLine) (console : u.console = t.entered.console.remember char.toNat) (scrolls : u.scrolls = t.entered.scrolls) :
    RowStart t u := by
  rw [entered] at console scrolls
  refine ⟨?_,?_,?_,?_,?_,.inl ?_⟩
  · rw [entered]
    unfold Terminal.place
    rw [console,scrolls]
    rfl
  all_goals rw [console]
  · exact margins.left
  · exact margins.left
  · show t.console.cursorY+1 < t.console.cursorBottom
    rwa [UInt64.lt_iff_toNat_lt,next_toNat margins.y]
  · exact margins.echoes
  · rfl

theorem bottomed_rowStart (margins : t.console.Margins) (full : t.console.fullscreenFlag = true) (small : t.console.cursorBottom.toNat < 65536)
    (entered : t.entered = t.nextLine.bottomed) (console : u.console = t.entered.console.remember char.toNat)
    (scrolls : u.scrolls = t.entered.scrolls) : RowStart t u := by
  have bottomed : t.nextLine.bottomed.console = t.nextLine.console.scrolled.goto 0 ((t.console.cursorBottom &&& 0xFFFF)-1) := by
    unfold Terminal.bottomed
    rw [if_pos (show t.nextLine.console.fullscreenFlag = true from full)]
    rfl
  refine ⟨?_,?_,?_,?_,?_,.inr ?_⟩
  · unfold Terminal.place
    rw [console,scrolls]
    rfl
  all_goals rw [console,entered,bottomed]
  · rfl
  · show t.console.cursorLeft &&& 0xFFFF = 0
    rw [margins.left]
    rfl
  · show (t.console.cursorBottom &&& 0xFFFF)-1 < t.console.cursorBottom &&& 0xFFFF
    apply line_before
    intro none
    have zero := masked_toNat t.console.cursorBottom
    rw [none,Nat.mod_eq_of_lt small] at zero
    exact (several_columns margins.bottom).1 (UInt64.le_iff_toNat_le.mpr (Nat.le_of_eq zero.symm))
  · exact margins.echoes
  · rfl

theorem steps_rowStart (margins : t.console.Margins) (column : t.console.cursorX.toNat+1 = t.console.cursorRight.toNat)
    (place : t.entered.place = t.place.cell t.console.cursorRight.toNat t.console.cursorBottom.toNat) (steps : Steps t char u) : RowStart t u := by
  obtain ⟨ending,entered⟩ := entered_ending margins column
  have console := steps.console
  rw [if_pos ending] at console
  by_cases above : t.console.cursorY.toNat+1 < t.console.cursorBottom.toNat
  · rw [if_pos above] at entered
    exact nextLine_rowStart margins above entered console steps.scrolls
  · rw [if_neg above] at entered
    have line := UInt64.lt_iff_toNat_lt.mp margins.y
    obtain ⟨full,small⟩ := (entered_cell_iff margins column).mp place (by omega)
    exact bottomed_rowStart margins full small entered console steps.scrolls

-- So the next one is drawn in the first column again.
theorem RowStart.again (start : RowStart t u) : u.entered.place.x = 0 ∧
    (t.console.cursorRight.toNat = 2 → u.entered.place = u.place) := by
  obtain ⟨_,x,left,y,_,right⟩ := start
  constructor
  · unfold Terminal.entered Console.entered
    by_cases ending : u.console.AtLineEnd
    · rw [if_pos ending]
      split
      · rfl
      · show u.console.cursorLeft.toNat = 0
        rw [left]
        rfl
    · rw [if_neg ending,if_neg (UInt64.not_le.mpr y)]
      show u.console.cursorX.toNat = 0
      rw [x]
      rfl
  · intro two
    have same : u.console.cursorRight.toNat = 2 := by
      rcases right with kept | masked
      · rw [kept,two]
      · rw [masked,masked_toNat,two]
    have some : u.console.cursorRight ≠ 0 := by
      intro none
      rw [none] at same
      cases same
    have middle : ¬ u.console.AtLineEnd := by
      rw [lineEnd_iff some,same,x]
      decide
    unfold Terminal.entered Console.entered
    rw [if_neg middle,if_neg (UInt64.not_le.mpr y)]
    rfl

end Rows

def PrintedFrom (right bottom : Nat) (start : Place) (text : List UInt8) (t : Terminal) : Prop :=
  ∃ drawn u, Runs.Path DrawnAt t drawn u ∧ drawn.map Prod.fst = text ∧ Place.InOrder right bottom start (drawn.map Prod.snd)

theorem printedInOrder_from {text : List UInt8} {t : Terminal} :
    PrintedInOrder text t ↔ PrintedFrom t.console.cursorRight.toNat t.console.cursorBottom.toNat t.place text t := by
  constructor
  · rintro ⟨drawn,u,path,same,order,_⟩
    exact ⟨drawn,u,path,same,order⟩
  · rintro ⟨drawn,u,path,same,order⟩
    exact ⟨drawn,u,path,same,order,order.nodup⟩

theorem printedFrom_nil (right bottom : Nat) (start : Place) (t : Terminal) : PrintedFrom right bottom start [] t :=
  ⟨[],t,.nil,rfl,trivial⟩

theorem printedFrom_cons {right bottom : Nat} {start : Place} {char : UInt8} {text : List UInt8} {t : Terminal} :
    PrintedFrom right bottom start (char :: text) t ↔ ∃ u, DrawnAt t (char,start.cell right bottom) u ∧
      PrintedFrom right bottom ⟨(start.cell right bottom).scrolls,(start.cell right bottom).x+1,(start.cell right bottom).y⟩ text u := by
  constructor
  · rintro ⟨drawn,v,path,same,order⟩
    cases drawn with
    | nil => cases same
    | cons first rest =>
        obtain ⟨c,p⟩ := first
        obtain ⟨u,one,later⟩ := Runs.path_cons.mp path
        obtain ⟨rfl,others⟩ := List.cons.inj same
        obtain ⟨here,further⟩ := order
        replace here : p = start.cell right bottom := here
        subst here
        exact ⟨u,one,rest,v,later,others,further⟩
  · rintro ⟨u,one,drawn,v,path,same,order⟩
    exact ⟨(char,start.cell right bottom) :: drawn,v,.cons one path,congrArg (char :: ·) same,rfl,order⟩

-- The text ends in the row of the cursor, or its last character starts the next row,
-- which needs a scroll below the last one.
structure FitsRow (count : Nat) (t : Terminal) : Prop where
  initialized : t.console.initialized = true
  draws : t.Draws
  columns : t.console.cursorX.toNat+count ≤ t.console.cursorRight.toNat
  scroll : t.console.cursorX.toNat+count = t.console.cursorRight.toNat → t.console.cursorY.toNat+1 = t.console.cursorBottom.toNat →
    t.console.fullscreenFlag = true ∧ t.console.cursorBottom.toNat < 65536

section Text

variable {t u : Terminal} {char : UInt8} {rest : List UInt8}

theorem FitsRow.steps {count : Nat} (fits : FitsRow count t) (margins : t.console.Margins) (printable : Printable char) :
    ∃ u, consoleOutbyte2 char.toNat t = .ok () u ∧ Steps t char u :=
  outbyte2_steps ⟨fits.draws.2,by rw [fits.initialized]; decide⟩ margins.echoes fits.draws margins.nonzero.2 printable

-- In the middle of a row the text goes on in the next column.
theorem middle_console (margins : t.console.Margins) (column : t.console.cursorX.toNat+1 < t.console.cursorRight.toNat) (steps : Steps t char u) :
    u.console = (t.console.remember char.toNat).goto (t.console.cursorX+1) t.console.cursorY ∧ u.place = ⟨t.place.scrolls,t.place.x+1,t.place.y⟩ := by
  obtain ⟨middle,entered⟩ := entered_middle margins column
  have console := steps.console
  rw [if_neg middle,entered] at console
  refine ⟨console,?_⟩
  unfold Terminal.place
  rw [console,steps.scrolls,entered]
  show (⟨_,(t.console.cursorX+1).toNat,_⟩ : Place) = _
  rw [next_toNat margins.x]
  rfl

theorem middle_cell (column : t.console.cursorX.toNat+1 < t.console.cursorRight.toNat) (bottom : Nat) :
    t.place.cell t.console.cursorRight.toNat bottom = t.place := if_pos column

theorem middle_margins (margins : t.console.Margins) (column : t.console.cursorX.toNat+1 < t.console.cursorRight.toNat)
    (console : u.console = (t.console.remember char.toNat).goto (t.console.cursorX+1) t.console.cursorY) : u.console.Margins := by
  rw [console]
  refine ⟨margins.left,margins.top,margins.right,margins.bottom,margins.echoes,?_,margins.y⟩
  show t.console.cursorX+1 < t.console.cursorRight
  rwa [UInt64.lt_iff_toNat_lt,next_toNat margins.x]

theorem middle_fits (margins : t.console.Margins) (initialized : t.console.initialized = true) (draws : t.Draws)
    (column : t.console.cursorX.toNat+1 < t.console.cursorRight.toNat) (steps : Steps t char u) :
    rest = [] ∨ FitsRow rest.length u ↔ FitsRow (char :: rest).length t := by
  obtain ⟨console,_⟩ := middle_console margins column steps
  have next := next_toNat margins.x
  constructor
  · rintro (rfl | fits)
    · exact ⟨initialized,draws,Nat.le_of_lt column,fun full => absurd full (Nat.ne_of_lt column)⟩
    · obtain ⟨_,_,columns,scroll⟩ := fits
      rw [console] at columns scroll
      replace columns : (t.console.cursorX+1).toNat+rest.length ≤ t.console.cursorRight.toNat := columns
      rw [next] at columns
      refine ⟨initialized,draws,by rw [List.length_cons]; omega,fun full last => scroll ?_ last⟩
      show (t.console.cursorX+1).toNat+rest.length = t.console.cursorRight.toNat
      rw [List.length_cons] at full
      omega
  · intro fits
    obtain ⟨_,_,columns,scroll⟩ := fits
    rw [List.length_cons] at columns scroll
    refine .inr ⟨?_,steps.draws,?_,?_⟩
    · rw [console]
      exact initialized
    · rw [console]
      show (t.console.cursorX+1).toNat+rest.length ≤ t.console.cursorRight.toNat
      omega
    · rw [console]
      show (t.console.cursorX+1).toNat+rest.length = t.console.cursorRight.toNat → _
      intro full
      exact scroll (by omega)

-- Behind a character that started a row no other one can stand.
theorem row_ends (margins : t.console.Margins) (start : RowStart t u) (printable : ∀ char ∈ rest, Printable char)
    (later : PrintedFrom t.console.cursorRight.toNat t.console.cursorBottom.toNat ⟨u.place.scrolls,u.place.x+1,u.place.y⟩ rest u) : rest = [] := by
  cases rest with
  | nil => rfl
  | cons next more =>
      obtain ⟨v,drawn,_⟩ := printedFrom_cons.mp later
      obtain ⟨_,_,_,here,_⟩ := drawnAt_parts drawn start.echoes (printable next List.mem_cons_self)
      have column : u.place.x = 0 := by
        show u.console.cursorX.toNat = 0
        rw [start.x]
        rfl
      obtain ⟨first,same⟩ := start.again
      rw [column] at here
      have wide := UInt64.le_iff_toNat_le.mp margins.right
      rw [← here] at first
      obtain ⟨two,apart⟩ := Place.cell_second wide _ _ _ first
      have whole : u.place = ⟨u.place.scrolls,0,u.place.y⟩ := by
        rw [← column]
      rw [here,same two] at apart
      exact absurd whole apart

end Text

-- The text goes on behind a character in the middle of a row.
theorem printedFrom_middle {t : Terminal} {char : UInt8} {rest : List UInt8} (margins : t.console.Margins) (first : Printable char)
    (column : t.console.cursorX.toNat+1 < t.console.cursorRight.toNat)
    (later : ∀ u : Terminal, u.console.Margins →
      (PrintedFrom u.console.cursorRight.toNat u.console.cursorBottom.toNat u.place rest u ↔ rest = [] ∨ FitsRow rest.length u)) :
    PrintedFrom t.console.cursorRight.toNat t.console.cursorBottom.toNat t.place (char :: rest) t ↔ FitsRow (char :: rest).length t := by
  have cell := middle_cell column t.console.cursorBottom.toNat
  have entered := (entered_middle margins column).2
  rw [printedFrom_cons,cell]
  constructor
  · rintro ⟨u,drawn,printed⟩
    obtain ⟨used,draws,_,_,steps⟩ := drawnAt_parts drawn margins.echoes first
    obtain ⟨console,place⟩ := middle_console margins column steps
    have more := later u (middle_margins margins column console)
    rw [place,console] at more
    exact (middle_fits margins (by simpa using used.initialized) draws column steps).mp (more.mp printed)
  · intro fits
    obtain ⟨u,done,steps⟩ := fits.steps margins first
    obtain ⟨console,place⟩ := middle_console margins column steps
    have drawn := steps_drawnAt done steps
    rw [entered] at drawn
    have more := later u (middle_margins margins column console)
    rw [place,console] at more
    exact ⟨u,drawn,more.mpr ((middle_fits margins fits.initialized fits.draws column steps).mpr fits)⟩

-- The text ends with a character that starts a row.
theorem printedFrom_ending {t : Terminal} {char : UInt8} {rest : List UInt8} (margins : t.console.Margins) (first : Printable char)
    (others : ∀ char ∈ rest, Printable char) (ending : t.console.cursorX.toNat+1 = t.console.cursorRight.toNat) :
    PrintedFrom t.console.cursorRight.toNat t.console.cursorBottom.toNat t.place (char :: rest) t ↔ FitsRow (char :: rest).length t := by
  rw [printedFrom_cons]
  constructor
  · rintro ⟨u,drawn,printed⟩
    obtain ⟨used,draws,_,place,steps⟩ := drawnAt_parts drawn margins.echoes first
    have start := steps_rowStart margins ending place.symm steps
    rw [place,← start.place] at printed
    have none := row_ends margins start others printed
    subst none
    exact ⟨by simpa using used.initialized,draws,Nat.le_of_eq ending,fun _ => (entered_cell_iff margins ending).mp place.symm⟩
  · intro fits
    have none : rest = [] := by
      have columns := fits.columns
      rw [List.length_cons] at columns
      exact List.length_eq_zero_iff.mp (by omega)
    subst none
    obtain ⟨u,done,steps⟩ := fits.steps margins first
    have drawn := steps_drawnAt done steps
    rw [(entered_cell_iff margins ending).mpr (fits.scroll ending)] at drawn
    exact ⟨u,drawn,printedFrom_nil _ _ _ _⟩

theorem printedFrom_iff {text : List UInt8} {t : Terminal} (margins : t.console.Margins) (printable : ∀ char ∈ text, Printable char) :
    PrintedFrom t.console.cursorRight.toNat t.console.cursorBottom.toNat t.place text t ↔ text = [] ∨ FitsRow text.length t := by
  induction text generalizing t with
  | nil => simp [printedFrom_nil]
  | cons char rest ih =>
      obtain ⟨first,others⟩ := List.forall_mem_cons.mp printable
      simp only [List.cons_ne_nil,false_or]
      have inside := UInt64.lt_iff_toNat_lt.mp margins.x
      by_cases column : t.console.cursorX.toNat+1 < t.console.cursorRight.toNat
      · exact printedFrom_middle margins first column fun u kept => ih kept others
      · exact printedFrom_ending margins first others (by omega)

-- console_outbyte counts the column before it draws. Here it is counted last, and not at
-- all for the character that starts a new row, so that the next one is drawn over it.
theorem printed_in_order_iff (text : List UInt8) (t : Terminal) (margins : t.console.Margins) (printable : ∀ char ∈ text, Printable char) :
    PrintedInOrder text t ↔ text = [] ∨ FitsRow text.length t := printedInOrder_from.trans (printedFrom_iff margins printable)

-- Two columns before the right margin of the first line
def lateTerminal : Terminal := bootTerminal.put (bootTerminal.console.goto 98 0)

theorem lateTerminal_margins : lateTerminal.console.Margins :=
  ⟨by decide,by decide,by decide,by decide,by decide,by decide,by decide⟩

theorem line_end_in_order : PrintedInOrder [65,66] lateTerminal := by
  have printable : ∀ char ∈ [65,66], Printable char :=
    List.forall_mem_cons.mpr ⟨⟨by decide,by decide⟩,List.forall_mem_cons.mpr ⟨⟨by decide,by decide⟩,List.forall_mem_nil _⟩⟩
  refine (printed_in_order_iff [65,66] lateTerminal lateTerminal_margins printable).mpr (.inr ?_)
  exact ⟨by decide,⟨by decide,by decide⟩,by decide,fun _ last => absurd last (by decide)⟩

-- "ABC" there: the "C" is drawn over the "B".
theorem line_end_overwritten : lateTerminal.console.Margins ∧
    (final (print consoleOutbyte2 [65,66,67] lateTerminal)).drawings.map Drawing.cell = [(65,98,0),(66,0,1),(67,0,1)] ∧
      ¬ PrintedInOrder [65,66,67] lateTerminal := by
  refine ⟨lateTerminal_margins,rfl,?_⟩
  rw [printedInOrder_from,printedFrom_iff lateTerminal_margins]
  · rintro (none | fits)
    · cases none
    · exact absurd fits.columns (by decide)
  · refine List.forall_mem_cons.mpr ⟨⟨by decide,by decide⟩,List.forall_mem_cons.mpr ⟨⟨by decide,by decide⟩,?_⟩⟩
    exact List.forall_mem_cons.mpr ⟨⟨by decide,by decide⟩,List.forall_mem_nil _⟩

end GramadoKernel
