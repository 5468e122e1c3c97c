import GramadoKernel.SequenceRuns
import GramadoKernel.PrintedText

namespace GramadoKernel

open Stateful

-- A console with room for every cursor, which never scrolls.
structure Console.Endless (c : Console) : Prop where
  magic : c.magic = 1234
  initialized : c.initialized = true
  echoes : c.Echoes
  window : c.fullscreenFlag = false
  left : c.cursorLeft = 0
  top : c.cursorTop = 0
  right : c.cursorRight = 0xFFFFFFFFFFFFFFFF
  bottom : c.cursorBottom = 0xFFFFFFFFFFFFFFFF

-- Nothing stops its output.
structure Prepared (least : Nat) (t : Terminal) : Prop where
  gui : t.useGui = true
  width : t.charWidth &&& 0xFFFF ≠ 0
  height : t.charHeight &&& 0xFFFF ≠ 0
  console : t.console.Endless
  drawn : least ≤ t.drawings.length

theorem Console.Endless.goto {c : Console} (endless : c.Endless) (x y : UInt64) : (c.goto x y).Endless :=
  ⟨endless.magic,endless.initialized,endless.echoes,endless.window,endless.left,endless.top,endless.right,endless.bottom⟩

theorem Console.Endless.remember {c : Console} (endless : c.Endless) (char : Int) : (c.remember char).Endless :=
  ⟨endless.magic,endless.initialized,endless.echoes,endless.window,endless.left,endless.top,endless.right,endless.bottom⟩

theorem Console.Endless.open {c : Console} (endless : c.Endless) : ¬ c.Closed := by
  unfold Console.Closed
  rw [endless.left,endless.top,endless.right,endless.bottom]
  decide

section Prepared

variable {least : Nat} {t u : Terminal}

theorem Prepared.sized (prepared : Prepared least t) : t.SizedFont := by
  rintro (width | height)
  · exact prepared.width (by rw [width]; rfl)
  · exact prepared.height (by rw [height]; rfl)

theorem Prepared.draws (prepared : Prepared least t) : t.Draws := ⟨prepared.gui,prepared.sized⟩

theorem Prepared.used (prepared : Prepared least t) : InUse t := ⟨prepared.sized,by rw [prepared.console.initialized]; decide⟩

theorem Prepared.put (prepared : Prepared least t) {console : Console} (endless : console.Endless) : Prepared least (t.put console) :=
  ⟨prepared.gui,prepared.width,prepared.height,endless,prepared.drawn⟩

theorem Prepared.sequenced (prepared : Prepared least t) (q : Sequencing) : Prepared least (t.sequenced q) :=
  ⟨prepared.gui,prepared.width,prepared.height,prepared.console,prepared.drawn⟩

theorem Prepared.inStage (prepared : Prepared least t) (stage : EscapeSequenceStage) : Prepared least (t.inStage stage) :=
  prepared.sequenced {t.sequencing with stage := stage}

theorem onConsole_prepared {change : Console → Console} (kept : ∀ c, c.Endless → (change c).Endless) :
    Completes (Prepared least) (onConsole change) :=
  Completes.modify fun t prepared => prepared.put (kept t.console prepared.console)

theorem remember_prepared (char : Int) : Completes (Prepared least) (onConsole fun c => c.remember char) :=
  onConsole_prepared fun _ endless => endless.remember char

theorem setMode_prepared (on : Bool) : Completes (Prepared least) (modify fun t => t.setMode on : Output Unit) :=
  Completes.modify fun _ prepared => ⟨prepared.gui,prepared.width,prepared.height,prepared.console,prepared.drawn⟩

theorem scrollIfFullscreen_prepared : Completes (Prepared least) scrollIfFullscreen := by
  refine Completes.get fun t prepared => Completes.ite (fun full => ?_) fun _ => Completes.pure
  rw [prepared.console.window] at full
  cases full

theorem newlineAfterReturn_prepared (char : Int) : Completes (Prepared least) (newlineAfterReturn char) := by
  refine Completes.get fun t _ => Completes.ite (fun _ => scrollIfFullscreen_prepared.bind fun _ => ?_) fun _ => ?_
  · exact onConsole_prepared fun c endless => (endless.goto _ _).remember char
  · exact onConsole_prepared fun c endless => (endless.goto _ _).remember char

theorem newlineAlone_prepared (char : Int) : Completes (Prepared least) (newlineAlone char) := by
  refine Completes.get fun t _ => Completes.ite (fun _ => scrollIfFullscreen_prepared.bind fun _ => ?_) fun _ => ?_
  · exact onConsole_prepared fun c endless => (endless.goto _ _).remember char
  · exact onConsole_prepared fun c endless => (endless.goto _ _).remember char

theorem collision_prepared (horizontal vertical : String) : Completes (Prepared least) (collision horizontal vertical) :=
  fun s prepared => ⟨s,collision_open prepared.console.open horizontal vertical,prepared⟩

theorem scrollAtBottom_prepared : Completes (Prepared least) scrollAtBottom := by
  refine Completes.get fun t _ => Completes.ite (fun _ => scrollIfFullscreen_prepared.bind fun _ => ?_) fun _ => Completes.pure
  exact onConsole_prepared fun c endless => endless.goto _ _

theorem drawn_prepared (prepared : Prepared least t) (char : Int) : Prepared (least+1) (t.drawn char) := by
  refine ⟨prepared.gui,by show (8 : UInt32) &&& 0xFFFF ≠ 0; decide,?_,prepared.console,?_⟩
  · show (if t.font8x16 = true then (16 : UInt32) else 8) &&& 0xFFFF ≠ 0
    split <;> decide
  · show least+1 ≤ (t.drawings ++ [_]).length
    rw [List.length_append]
    exact Nat.succ_le_succ prepared.drawn

theorem Prepared.weaken (prepared : Prepared (least+1) t) : Prepared least t :=
  ⟨prepared.gui,prepared.width,prepared.height,prepared.console,Nat.le_of_succ_le prepared.drawn⟩

theorem drawIfEcho_prepared (char : Int) : Completes (Prepared least) (drawIfEcho char) :=
  fun t prepared => ⟨t.drawn char,drawIfEcho_gui prepared.console.echoes prepared.sized prepared.gui,(drawn_prepared prepared char).weaken⟩

theorem refreshCell_prepared : Completes (Prepared least) refreshCell :=
  Completes.modify fun _ prepared => ⟨prepared.gui,prepared.width,prepared.height,prepared.console,prepared.drawn⟩

theorem drawAfterStep_prepared (char : Int) : Completes (Prepared least) (drawAfterStep char) := by
  refine (collision_prepared _ _).bind fun _ => (onConsole_prepared fun c endless => ?_).bind fun _ => ?_
  · split
    · exact endless.goto _ _
    · exact endless.goto _ _
  · exact scrollAtBottom_prepared.bind fun _ => (drawIfEcho_prepared char).bind fun _ => remember_prepared char

theorem drawBeforeStep_prepared (char : Int) : Completes (Prepared least) (drawBeforeStep char) := by
  refine (collision_prepared _ _).bind fun _ => Completes.get fun t _ => (onConsole_prepared fun c endless => ?_).bind fun _ => ?_
  · split
    · exact endless.goto _ _
    · exact endless
  · refine scrollAtBottom_prepared.bind fun _ => (drawIfEcho_prepared char).bind fun _ => (remember_prepared char).bind fun _ => ?_
    refine refreshCell_prepared.bind fun _ => onConsole_prepared fun c endless => ?_
    split
    · exact endless
    · exact endless.goto _ _

theorem consoleOutbyte_prepared (char : Int) : Completes (Prepared least) (consoleOutbyte char) := by
  refine Completes.get fun t prepared => ?_
  refine Completes.ite (fun empty => absurd empty prepared.sized) fun _ => ?_
  refine Completes.ite (fun _ => Completes.pure) fun _ => ?_
  refine Completes.ite (fun _ => Completes.pure) fun _ => ?_
  refine Completes.ite (fun _ => onConsole_prepared fun _ endless => endless.goto _ _) fun _ => ?_
  refine Completes.ite (fun _ => newlineAfterReturn_prepared char) fun _ => ?_
  refine Completes.ite (fun _ => newlineAlone_prepared char) fun _ => ?_
  refine Completes.ite (fun _ => onConsole_prepared fun _ endless => (endless.goto _ _).remember char) fun _ => ?_
  refine Completes.ite (fun _ => onConsole_prepared fun _ endless => (endless.goto _ _).remember char) fun _ => ?_
  refine Completes.ite (fun _ => onConsole_prepared fun _ endless => (endless.goto _ _).remember char) fun _ => ?_
  refine Completes.ite (fun _ => onConsole_prepared fun c endless => ?_) fun _ => drawAfterStep_prepared char
  apply Console.Endless.remember
  split
  · exact endless.goto _ _
  · exact endless

theorem consoleOutbyte2_prepared (char : Int) : Completes (Prepared least) (consoleOutbyte2 char) := by
  refine Completes.get fun t prepared => ?_
  refine Completes.ite (fun empty => absurd empty prepared.sized) fun _ => ?_
  refine Completes.ite (fun _ => Completes.pure) fun _ => ?_
  refine Completes.ite (fun _ => onConsole_prepared fun _ endless => endless.goto _ _) fun _ => ?_
  refine Completes.ite (fun _ => newlineAfterReturn_prepared char) fun _ => ?_
  refine Completes.ite (fun _ => newlineAlone_prepared char) fun _ => ?_
  refine Completes.ite (fun _ => onConsole_prepared fun _ endless => (endless.goto _ _).remember char) fun _ => ?_
  refine Completes.ite (fun _ => onConsole_prepared fun _ endless => (endless.goto _ _).remember char) fun _ => ?_
  refine Completes.ite (fun _ => onConsole_prepared fun _ endless => (endless.goto _ _).remember char) fun _ => ?_
  refine Completes.ite (fun _ => (remember_prepared char).bind fun _ => ?_) fun _ => drawBeforeStep_prepared char
  refine Completes.ite (fun _ => onConsole_prepared fun _ endless => endless.goto _ _) fun _ => ?_
  exact Completes.ite (fun _ => onConsole_prepared fun _ endless => endless.goto _ _) fun _ => drawBeforeStep_prepared char

theorem Prepared.painted (prepared : Prepared least t) : ¬ (t.charWidth &&& 0xFFFF = 0 ∨ t.charHeight &&& 0xFFFF = 0) :=
  not_or.mpr ⟨prepared.width,prepared.height⟩

theorem consolePutchar_prepared (char : Int) : Completes (Prepared least) (consolePutchar char) := by
  refine Completes.get fun t prepared => Completes.ite (fun empty => absurd empty prepared.painted) fun _ => ?_
  refine (setMode_prepared true).bind fun _ => (consoleOutbyte_prepared char).bind fun _ => ?_
  exact refreshCell_prepared.bind fun _ => setMode_prepared false

theorem localGotoxy_prepared (newX newY : Int) : Completes (Prepared least) (localGotoxy newX newY) := by
  refine onConsole_prepared fun c endless => ?_
  split
  · exact endless
  · split
    · exact endless
    · exact endless.goto _ _

theorem localSaveCur_prepared : Completes (Prepared least) localSaveCur :=
  Completes.modify fun _ prepared => ⟨prepared.gui,prepared.width,prepared.height,prepared.console,prepared.drawn⟩

theorem localRestoreCur_prepared : Completes (Prepared least) localRestoreCur :=
  Completes.modify fun _ prepared => prepared.put (prepared.console.goto _ _)

theorem repeated_prepared (nr : Int) {once : Output Unit} (each : Completes (Prepared least) once) : Completes (Prepared least) (repeated nr once) :=
  Completes.get fun _ _ => Completes.ite (fun _ => Completes.pure) fun _ => Completes.forM fun _ _ => each

-- What a sequence can do: move the cursor, put spaces, save or restore the cursor, or nothing.
inductive CursorAction : Output Unit → Prop where
  | goto (newX newY : Int) : CursorAction (localGotoxy newX newY)
  | spaces (nr : Int) : CursorAction (repeated nr (consolePutchar 32))
  | nothing : CursorAction (pure ())
  | save : CursorAction localSaveCur
  | restore : CursorAction localRestoreCur

theorem CursorAction.ite {condition : Prop} [Decidable condition] {first second : Output Unit} (one : CursorAction first)
    (two : CursorAction second) : CursorAction (if condition then first else second) := by
  split
  · exact one
  · exact two

theorem act_action (final : UInt8) (ivalue ivalue2 : Int) (t : Terminal) :
    ∃ program, CursorAction program ∧ act final ivalue ivalue2 t = program t := by
  refine ⟨_,?_,get_bind _ t⟩
  refine .ite (.goto _ _) (.ite (.goto _ _) (.ite (.goto _ _) (.ite (.goto _ _) (.ite (.goto _ _) ?_))))
  refine .ite (.goto _ _) (.ite (.goto _ _) (.ite (.goto _ _) (.ite (.goto _ _) ?_)))
  refine .ite .nothing (.ite .nothing (.ite .nothing (.ite .nothing ?_)))
  refine .ite (.spaces _) (.ite (.spaces _) ?_)
  exact .ite .nothing (.ite .save (.ite .restore .nothing))

theorem act_prepared (final : UInt8) (ivalue ivalue2 : Int) : Completes (Prepared least) (act final ivalue ivalue2) := by
  intro t prepared
  obtain ⟨program,acts,same⟩ := act_action final ivalue ivalue2 t
  rw [same]
  cases acts with
  | goto newX newY => exact localGotoxy_prepared newX newY t prepared
  | spaces nr => exact repeated_prepared nr (consolePutchar_prepared 32) t prepared
  | nothing => exact Completes.pure t prepared
  | save => exact localSaveCur_prepared t prepared
  | restore => exact localRestoreCur_prepared t prepared

theorem writeText_prepared (doEcho : Bool) {ch : UInt8} (ordinary : ch ≠ Ascii.escape) : Completes (Prepared least) (writeText doEcho ch) := by
  refine Completes.ite (fun _ => Completes.ite (fun _ => consoleOutbyte2_prepared _) fun _ => Completes.pure) fun _ => ?_
  refine Completes.ite (fun escape => absurd escape ordinary) fun _ => ?_
  refine Completes.ite (fun _ => consolePutchar_prepared _) fun _ => ?_
  refine Completes.ite (fun _ => consolePutchar_prepared _) fun _ => ?_
  refine Completes.ite (fun _ => consolePutchar_prepared _) fun _ => ?_
  exact Completes.ite (fun _ => consolePutchar_prepared _) fun _ => Completes.pure

theorem Handles.prepared {doEcho : Bool} {program : Output Unit} (handles : Handles doEcho program) : Completes (Prepared least) program := by
  cases handles with
  | nothing => exact Completes.pure
  | act final ivalue ivalue2 => exact act_prepared final ivalue ivalue2
  | text bytes ordinary => exact Completes.forM fun ch among => writeText_prepared doEcho (ordinary ch among)

theorem items_prepared {doEcho : Bool} {items : List Item} (formed : ∀ item ∈ items, item.WellFormed) {isOpen : Bool}
    (stage : t.escapeSequenceStage = stageOf isOpen) (prepared : Prepared least t) :
    ∃ u, forM (textBytes items) (writeByte respond doEcho) t = .ok () u ∧ u.escapeSequenceStage = stageOf (openAfter isOpen items) ∧
      Prepared least u := by
  induction items generalizing t isOpen with
  | nil => exact ⟨t,rfl,stage,prepared⟩
  | cons item rest ih =>
      obtain ⟨first,others⟩ := List.forall_mem_cons.mp formed
      have found : ∃ program, Handles doEcho program ∧ Effect program t (forM item.bytes (writeByte respond doEcho) t)
          (stageOf (item.leavesOpen isOpen)) := item_effect first stage
      obtain ⟨program,handles,effect⟩ := found
      obtain ⟨v,done,kept⟩ := handles.prepared t prepared
      obtain ⟨q,ends,same⟩ := effect.ok v done
      obtain ⟨u,finished,stops,last⟩ := ih others ends (kept.sequenced q)
      refine ⟨u,?_,stops,last⟩
      show (forM (item.bytes ++ textBytes rest) (writeByte respond doEcho) : Output Unit) t = _
      rw [List.forM_append,bind_done same]
      exact finished

end Prepared

end GramadoKernel
