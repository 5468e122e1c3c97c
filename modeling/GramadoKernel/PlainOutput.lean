import GramadoKernel.ConsoleWrite

namespace GramadoKernel

open Stateful

-- The variables of the escape sequences.
structure Sequencing where
  stage : EscapeSequenceStage
  par : Nat → UInt64
  npar : Nat
  written : List Nat

def Terminal.sequencing (t : Terminal) : Sequencing := ⟨t.escapeSequenceStage,t.par,t.npar,t.written⟩

def Terminal.sequenced (q : Sequencing) (t : Terminal) : Terminal :=
  {t with escapeSequenceStage := q.stage, par := q.par, npar := q.npar, written := q.written}

def Console.settings (c : Console) : Nat × UInt32 := (c.magic,c.cLflag)

-- Output that has nothing to do with escape sequences and leaves the settings of its console.
abbrev Plain (program : Output α) : Prop := Leaves Terminal.sequenced (fun t => t.console.settings) program

theorem onConsole_plain {change : Console → Console} (same : ∀ c, (change c).settings = c.settings) : Plain (onConsole change) :=
  Leaves.modify (fun _ _ => rfl) fun t => same t.console

theorem remember_plain (char : Int) : Plain (onConsole fun c => c.remember char) := onConsole_plain fun _ => rfl

theorem setMode_plain (on : Bool) : Plain (modify fun t => t.setMode on : Output Unit) := Leaves.modify (fun _ _ => rfl) fun _ => rfl

theorem scroll_plain : Plain consoleScrollRect :=
  Leaves.get (fun _ _ => rfl) fun _ => Leaves.ite (fun _ => Leaves.throw _) fun _ => Leaves.modify (fun _ _ => rfl) fun _ => rfl

theorem scrollIfFullscreen_plain : Plain scrollIfFullscreen :=
  Leaves.get (fun _ _ => rfl) fun _ => Leaves.ite (fun _ => scroll_plain) fun _ => Leaves.pure ()

theorem newlineAfterReturn_plain (char : Int) : Plain (newlineAfterReturn char) := by
  refine Leaves.get (fun _ _ => rfl) fun t => ?_
  refine Leaves.ite (fun _ => scrollIfFullscreen_plain.bind fun _ => ?_) fun _ => ?_
  · exact onConsole_plain fun _ => rfl
  · exact onConsole_plain fun _ => rfl

theorem newlineAlone_plain (char : Int) : Plain (newlineAlone char) := by
  refine Leaves.get (fun _ _ => rfl) fun t => ?_
  refine Leaves.ite (fun _ => scrollIfFullscreen_plain.bind fun _ => ?_) fun _ => ?_
  · exact onConsole_plain fun _ => rfl
  · exact onConsole_plain fun _ => rfl

theorem collision_plain (horizontal vertical : String) : Plain (collision horizontal vertical) := by
  refine Leaves.get (fun _ _ => rfl) fun _ => ?_
  refine Leaves.ite (fun _ => Leaves.throw _) fun _ => ?_
  exact Leaves.ite (fun _ => Leaves.throw _) fun _ => Leaves.pure ()

theorem scrollAtBottom_plain : Plain scrollAtBottom := by
  refine Leaves.get (fun _ _ => rfl) fun _ => ?_
  refine Leaves.ite (fun _ => scrollIfFullscreen_plain.bind fun _ => ?_) fun _ => Leaves.pure ()
  exact onConsole_plain fun _ => rfl

theorem drawIfEcho_plain (char : Int) : Plain (drawIfEcho char) := by
  refine Leaves.get (fun _ _ => rfl) fun _ => Leaves.ite (fun _ => ?_) fun _ => Leaves.pure ()
  refine Leaves.get (fun _ _ => rfl) fun _ => ?_
  refine Leaves.ite (fun _ => Leaves.throw _) fun _ => ?_
  exact Leaves.ite (fun _ => Leaves.throw _) fun _ => Leaves.modify (fun _ _ => rfl) fun _ => rfl

theorem refreshCell_plain : Plain refreshCell := Leaves.modify (fun _ _ => rfl) fun _ => rfl

theorem drawAfterStep_plain (char : Int) : Plain (drawAfterStep char) := by
  refine (collision_plain _ _).bind fun _ => (onConsole_plain fun c => ?_).bind fun _ => ?_
  · split <;> rfl
  · exact scrollAtBottom_plain.bind fun _ => (drawIfEcho_plain char).bind fun _ => onConsole_plain fun _ => rfl

theorem drawBeforeStep_plain (char : Int) : Plain (drawBeforeStep char) := by
  refine (collision_plain _ _).bind fun _ => Leaves.get (fun _ _ => rfl) fun t => (onConsole_plain fun c => ?_).bind fun _ => ?_
  · split <;> rfl
  · refine scrollAtBottom_plain.bind fun _ => (drawIfEcho_plain char).bind fun _ => ?_
    refine (remember_plain char).bind fun _ => refreshCell_plain.bind fun _ => onConsole_plain fun c => ?_
    split <;> rfl

theorem consoleOutbyte_plain (char : Int) : Plain (consoleOutbyte char) := by
  refine Leaves.get (fun _ _ => rfl) fun t => ?_
  refine Leaves.ite (fun _ => Leaves.throw _) fun _ => ?_
  refine Leaves.ite (fun _ => Leaves.pure _) fun _ => ?_
  refine Leaves.ite (fun _ => Leaves.pure _) fun _ => ?_
  refine Leaves.ite (fun _ => onConsole_plain fun _ => rfl) fun _ => ?_
  refine Leaves.ite (fun _ => newlineAfterReturn_plain char) fun _ => ?_
  refine Leaves.ite (fun _ => newlineAlone_plain char) fun _ => ?_
  refine Leaves.ite (fun _ => onConsole_plain fun _ => rfl) fun _ => ?_
  refine Leaves.ite (fun _ => onConsole_plain fun _ => rfl) fun _ => ?_
  refine Leaves.ite (fun _ => onConsole_plain fun _ => rfl) fun _ => ?_
  refine Leaves.ite (fun _ => onConsole_plain fun c => ?_) fun _ => drawAfterStep_plain char
  show (if _ then c.goto _ _ else c).settings = c.settings
  split <;> rfl

theorem consoleOutbyte2_plain (char : Int) : Plain (consoleOutbyte2 char) := by
  refine Leaves.get (fun _ _ => rfl) fun t => ?_
  refine Leaves.ite (fun _ => Leaves.throw _) fun _ => ?_
  refine Leaves.ite (fun _ => Leaves.pure _) fun _ => ?_
  refine Leaves.ite (fun _ => onConsole_plain fun _ => rfl) fun _ => ?_
  refine Leaves.ite (fun _ => newlineAfterReturn_plain char) fun _ => ?_
  refine Leaves.ite (fun _ => newlineAlone_plain char) fun _ => ?_
  refine Leaves.ite (fun _ => onConsole_plain fun _ => rfl) fun _ => ?_
  refine Leaves.ite (fun _ => onConsole_plain fun _ => rfl) fun _ => ?_
  refine Leaves.ite (fun _ => onConsole_plain fun _ => rfl) fun _ => ?_
  refine Leaves.ite (fun _ => (remember_plain char).bind fun _ => ?_) fun _ => drawBeforeStep_plain char
  refine Leaves.ite (fun _ => onConsole_plain fun _ => rfl) fun _ => ?_
  exact Leaves.ite (fun _ => onConsole_plain fun _ => rfl) fun _ => drawBeforeStep_plain char

theorem consolePutchar_plain (char : Int) : Plain (consolePutchar char) := by
  refine Leaves.get (fun _ _ => rfl) fun t => Leaves.ite (fun _ => Leaves.throw _) fun _ => ?_
  refine (setMode_plain true).bind fun _ => (consoleOutbyte_plain char).bind fun _ => ?_
  exact refreshCell_plain.bind fun _ => setMode_plain false

theorem localGotoxy_plain (newX newY : Int) : Plain (localGotoxy newX newY) := by
  apply onConsole_plain
  intro c
  split
  · rfl
  · split <;> rfl

theorem localSaveCur_plain : Plain localSaveCur := Leaves.modify (fun _ _ => rfl) fun _ => rfl

theorem localRestoreCur_plain : Plain localRestoreCur := Leaves.modify (fun _ _ => rfl) fun _ => rfl

theorem repeated_plain (nr : Int) {once : Output Unit} (plain : Plain once) : Plain (repeated nr once) := by
  refine Leaves.get (fun _ _ => rfl) fun t => ?_
  exact Leaves.ite (fun _ => Leaves.pure _) fun _ => Leaves.forM (fun _ => plain) _

-- A character other than ESC outside of a sequence
theorem writeText_plain (doEcho : Bool) {ch : UInt8} (ordinary : ch ≠ Ascii.escape) : Plain (writeText doEcho ch) := by
  refine Leaves.ite (fun _ => Leaves.ite (fun _ => consoleOutbyte2_plain _) fun _ => Leaves.pure _) fun _ => ?_
  refine Leaves.ite (fun escape => absurd escape ordinary) fun _ => ?_
  refine Leaves.ite (fun _ => consolePutchar_plain _) fun _ => ?_
  refine Leaves.ite (fun _ => consolePutchar_plain _) fun _ => ?_
  refine Leaves.ite (fun _ => consolePutchar_plain _) fun _ => ?_
  exact Leaves.ite (fun _ => consolePutchar_plain _) fun _ => Leaves.pure _

end GramadoKernel
