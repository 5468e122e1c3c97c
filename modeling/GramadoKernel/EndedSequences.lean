import GramadoKernel.CursorMoves

namespace GramadoKernel

open Stateful

-- What a reader of the screens and of the cursors can tell of the consoles.
structure SameViews (s t : Consoles) : Prop where
  drawings : s.drawings.map Drawing.cell = t.drawings.map Drawing.cell
  scrolls : s.scrolls = t.scrolls
  cursors : ∀ n, (s.tty n).cursorX = (t.tty n).cursorX ∧ (s.tty n).cursorY = (t.tty n).cursorY

abbrev SameResults : EStateM.Result Halt Consoles Unit → EStateM.Result Halt Consoles Unit → Prop := Together SameViews SameViews

theorem sameViews_refl (s : Consoles) : SameViews s s := ⟨rfl,rfl,fun _ => ⟨rfl,rfl⟩⟩

theorem store_views {s : Consoles} {n : Nat} : SameViews (s.store n t) (s.store n u) ↔ SameCells t u := by
  constructor
  · intro same
    obtain ⟨drawings,scrolls,cursors⟩ := same
    have cursor := cursors n
    replace cursor : (Function.update s.tty n t.console n).cursorX = (Function.update s.tty n u.console n).cursorX ∧
      (Function.update s.tty n t.console n).cursorY = (Function.update s.tty n u.console n).cursorY := cursor
    rw [Function.update_self,Function.update_self] at cursor
    exact ⟨⟨drawings,scrolls⟩,cursor⟩
  · intro same
    obtain ⟨⟨drawings,scrolls⟩,x,y⟩ := same
    refine ⟨drawings,scrolls,fun m => ?_⟩
    show (Function.update s.tty n t.console m).cursorX = (Function.update s.tty n u.console m).cursorX ∧
      (Function.update s.tty n t.console m).cursorY = (Function.update s.tty n u.console m).cursorY
    by_cases here : m = n
    · rw [here,Function.update_self,Function.update_self]
      exact ⟨x,y⟩
    · rw [Function.update_of_ne here,Function.update_of_ne here]
      exact ⟨rfl,rfl⟩

theorem onTerminal_inside {n : Int} (inside : ¬ (n < 0 ∨ (consolettysCountMax : Int) ≤ n)) (a : α) (program : Output α) (s : Consoles) :
    onTerminal n a program s = mapState (s.store n.toNat) (program (s.terminal n.toNat)) := by
  unfold onTerminal
  rw [if_neg inside]
  cases program (s.terminal n.toNat) with
  | ok _ t => rfl
  | error halt t => rfl

theorem onTerminal_outside {n : Int} (range : n < 0 ∨ (consolettysCountMax : Int) ≤ n) (a : α) (program : Output α) (s : Consoles) :
    onTerminal n a program s = .ok a s := if_pos range

theorem inside_views {n : Int} (inside : ¬ (n < 0 ∨ (consolettysCountMax : Int) ≤ n)) {one two : Output Unit} {s : Consoles} :
    SameResults (onTerminal n () one s) (onTerminal n () two s) ↔
      Together SameCells SameCells (one (s.terminal n.toNat)) (two (s.terminal n.toNat)) := by
  have views : (fun t u => SameViews (s.store n.toNat t) (s.store n.toNat u)) = SameCells := funext₂ fun t u => propext store_views
  unfold SameResults
  rw [onTerminal_inside inside,onTerminal_inside inside,together_mapped,views]

-- Four consoles that look alike
def Terminal.consoles (t : Terminal) : Consoles := {toShared := t.toShared, tty := fun _ => t.console, fgConsole := 0, printkToSerial := false}

theorem onTerminal_views {one two : Output Unit} : (∀ (s : Consoles) (n : Int), SameResults (onTerminal n () one s) (onTerminal n () two s)) ↔
    ∀ t, Together SameCells SameCells (one t) (two t) := by
  constructor
  · intro same t
    exact (inside_views (by decide)).mp (same t.consoles 0)
  · intro same s n
    by_cases range : n < 0 ∨ (consolettysCountMax : Int) ≤ n
    · rw [onTerminal_outside range,onTerminal_outside range]
      exact sameViews_refl s
    · exact (inside_views range).mpr (same _)

theorem store_terminal (s : Consoles) (n : Nat) (t : Terminal) : (s.store n t).terminal n = t := by
  show ({t.toShared with console := Function.update s.tty n t.console n} : Terminal) = t
  rw [Function.update_self]

theorem store_store (s : Consoles) (n : Nat) (t u : Terminal) : (s.store n t).store n u = s.store n u := by
  unfold Consoles.store
  dsimp only
  rw [Function.update_idem]

theorem onTerminal_bind (n : Int) (one two : Output Unit) :
    (onTerminal n () one >>= fun _ => onTerminal n () two) = onTerminal n () (one >>= fun _ => two) := by
  funext s
  rw [bind_run]
  by_cases range : n < 0 ∨ (consolettysCountMax : Int) ≤ n
  · rw [onTerminal_outside range,onTerminal_outside range]
    exact onTerminal_outside range () two s
  · rw [onTerminal_inside range,onTerminal_inside range,bind_run]
    cases one (s.terminal n.toNat) with
    | error halt t => rfl
    | ok _ t =>
        show onTerminal n () two (s.store n.toNat t) = mapState (s.store n.toNat) (two t)
        rw [onTerminal_inside range,store_terminal]
        cases two t with
        | ok _ u => exact congrArg (EStateM.Result.ok ()) (store_store s _ t u)
        | error halt u => exact congrArg (EStateM.Result.error halt) (store_store s _ t u)

theorem write_on {data : List UInt8} (filled : data ≠ []) (n : Int) :
    (ConsoleCall.write n (some data)).on = onTerminal n () (consoleOutput data) := by
  funext s
  show (consoleWrite n (some data) >>= fun _ => pure ()) s = _
  unfold consoleWrite
  by_cases range : n < 0 ∨ (consolettysCountMax : Int) ≤ n
  · rw [if_pos range,onTerminal_outside range]
    rfl
  · rw [if_neg range,onTerminal_inside range]
    dsimp only
    rw [if_neg filled,bind_run,onTerminal_inside range]
    unfold consoleOutput
    rw [bind_run]
    cases writeBytes respond data (s.terminal n.toNat) with
    | ok _ t => rfl
    | error halt t => rfl

-- Where the escape sequences of a text end, for every text that follows, and what its cursor
-- sequences do.
structure EndsWhereItShould (items : List Item) : Prop where
  composes : ∀ (s : Consoles) (n : Int) (text : List UInt8), text ≠ [] →
    SameResults (((ConsoleCall.write n (some (textBytes items))).on >>= fun _ => (ConsoleCall.write n (some text)).on) s)
      ((ConsoleCall.write n (some (textBytes items ++ text))).on s)
  acts : ∀ before parameters final after, items = before ++ .sequence parameters final :: after → final ∈ cursorLetters →
    ∀ (s : Consoles) (n : Int), SameResults ((ConsoleCall.write n (some (textBytes (before ++ [.sequence parameters final])))).on s)
      (onTerminal n () (consoleOutput (textBytes before) >>= fun _ =>
        act final (decimal (parameters.getD 0 [])) (decimal (parameters.getD 1 []))) s)

-- The texts that leave no sequence open, neither at their end nor before a cursor sequence,
-- and whose cursor sequences have no parameter beyond its last digit.
structure SequencesEnded (items : List Item) : Prop where
  closed : leftOpen items = false
  sequences : ∀ before parameters final after, items = before ++ .sequence parameters final :: after → final ∈ cursorLetters →
    leftOpen before = false ∧ Exact parameters final

section Ends

variable {least : Nat} {t u : Terminal} {items : List Item} {parameters : List (List UInt8)} {final : UInt8}

theorem Effect.together {program : Output Unit} {result : EStateM.Result Halt Terminal Unit} {stage : EscapeSequenceStage}
    (effect : Effect program t result stage) : Together SameCells SameCells result (program t) := by
  cases met : program t with
  | ok _ v =>
      obtain ⟨q,_,same⟩ := effect.ok v met
      rw [same]
      exact sameCells_refl v
  | error halt v =>
      obtain ⟨q,same⟩ := effect.error halt v met
      rw [same]
      exact sameCells_refl v

theorem endless_echo (prepared : Prepared least t) : t.console.doEcho = true := decide_eq_true prepared.console.echoes

theorem writeText_draws (prepared : Prepared least t) {ch : UInt8} (printable : 32 < ch ∧ ch ≤ 126) :
    ∃ u, writeText true ch t = .ok () u ∧ Prepared (t.drawings.length+1) u := by
  obtain ⟨low,high⟩ := printable
  have shown : 32 ≤ ch ∧ ch ≠ 127 := by
    refine ⟨UInt8.le_of_lt low,?_⟩
    rintro rfl
    exact absurd high (by decide)
  have ascii : true = true ∧ ch ≤ 127 := ⟨rfl,UInt8.le_trans high (by decide)⟩
  have same : writeText true ch = consoleOutbyte2 ch.toNat := by
    unfold writeText
    rw [if_pos shown,if_pos ascii]
    rfl
  obtain ⟨u,done,steps⟩ := outbyte2_steps prepared.used prepared.console.echoes prepared.draws prepared.console.open ⟨low,shown.2⟩
  obtain ⟨v,met,kept⟩ := consoleOutbyte2_prepared ch.toNat t prepared
  cases done.symm.trans met
  refine ⟨u,by rw [same]; exact done,kept.gui,kept.width,kept.height,kept.console,?_⟩
  rw [steps.drawings,List.length_append]
  exact Nat.le_refl _

theorem consoleOutput_prepared (formed : ∀ item ∈ items, item.WellFormed) (prepared : Prepared least t) :
    ∃ u, consoleOutput (textBytes items) t = .ok () u ∧ u.escapeSequenceStage = stageOf (leftOpen items) ∧ Prepared least u ∧
      ∀ more, consoleOutput (textBytes items ++ more) t = (forM more (writeByte respond true) : Output Unit) u := by
  have valid := prepared.console.magic
  have begin : Prepared least (t.inStage .text) := prepared.inStage .text
  have stage : (t.inStage .text).escapeSequenceStage = stageOf false := rfl
  have run : ∃ u, forM (textBytes items) (writeByte respond true) (t.inStage .text) = .ok () u ∧
      u.escapeSequenceStage = stageOf (leftOpen items) ∧ Prepared least u := items_prepared formed stage begin
  obtain ⟨u,done,ends,kept⟩ := run
  refine ⟨u,?_,ends,kept,fun more => ?_⟩
  · rw [consoleOutput_valid valid,endless_echo prepared]
    exact done
  · rw [consoleOutput_valid valid,endless_echo prepared,List.forM_append,bind_done done]

def endlessTerminal : Terminal :=
  bootTerminal.put {bootTerminal.console with
    fullscreenFlag := false, cursorRight := 0xFFFFFFFFFFFFFFFF, cursorBottom := 0xFFFFFFFFFFFFFFFF}

theorem endlessTerminal_prepared : Prepared 0 endlessTerminal :=
  ⟨rfl,by decide,by decide,⟨rfl,rfl,by decide,rfl,rfl,rfl,rfl,rfl⟩,Nat.zero_le _⟩

-- A character behind an open sequence is drawn only where it is written alone.
theorem composes_iff (formed : ∀ item ∈ items, item.WellFormed) :
    (∀ text, text ≠ [] → ∀ t, Together SameCells SameCells ((consoleOutput (textBytes items) >>= fun _ => consoleOutput text) t)
      (consoleOutput (textBytes items ++ text) t)) ↔ leftOpen items = false := by
  constructor
  · intro composes
    by_contra isOpen
    rw [Bool.not_eq_false] at isOpen
    have same := composes [120] (by decide) endlessTerminal
    obtain ⟨u,done,stage,prepared,more⟩ := consoleOutput_prepared formed endlessTerminal_prepared
    rw [isOpen] at stage
    have alone : ∃ v, consoleOutput [120] u = .ok () v ∧ Prepared (u.drawings.length+1) v := by
      rw [consoleOutput_valid prepared.console.magic,endless_echo prepared,List.forM_cons,List.forM_nil,bind_pure_unit,writeByte_text rfl]
      exact writeText_draws (prepared.inStage .text) (by decide)
    obtain ⟨v,drawn,least⟩ := alone
    have swallowed : (forM [120] (writeByte respond true) : Output Unit) u = .ok () (u.inStage .text) := by
      rw [List.forM_cons,List.forM_nil,bind_pure_unit,writeByte_final stage]
      exact writeFinal_other (by decide) u
    rw [bind_done done,drawn,more,swallowed] at same
    have drawings : v.drawings.length = u.drawings.length := by
      have lengths := congrArg List.length same.1.1
      rwa [List.length_map,List.length_map] at lengths
    have count := least.drawn
    omega
  · intro closed text _ t
    rw [consoleOutput_append formed closed]
    exact together_refl sameCells_refl sameCells_refl _

-- The rest of a sequence behind an open one is drawn.
theorem swallowed_draws (prepared : Prepared least u) (stage : u.escapeSequenceStage = .final)
    (formed : (Item.sequence parameters final).WellFormed) :
    ∃ v, forM (Item.sequence parameters final).bytes (writeByte respond true) u = .ok () v ∧ u.drawings.length < v.drawings.length := by
  have effect : Effect (forM (91 :: (separated parameters ++ [final])) (writeText true)) (u.inStage .text)
      (forM (Item.sequence parameters final).bytes (writeByte respond true) u) .text := swallowed_effect stage formed
  have text : Prepared least (u.inStage .text) := prepared.inStage .text
  obtain ⟨_,others⟩ := List.forall_mem_cons.mp (sequence_ordinary formed)
  obtain ⟨v,bracket,drawn⟩ := writeText_draws text (by decide : (32 : UInt8) < 91 ∧ (91 : UInt8) ≤ 126)
  obtain ⟨w,rest,kept⟩ := Completes.forM (fun ch among => writeText_prepared true (ordinary_escape (others ch among))) v drawn
  have run : (forM (91 :: (separated parameters ++ [final])) (writeText true) : Output Unit) (u.inStage .text) = .ok () w := by
    rw [List.forM_cons,bind_done bracket]
    exact rest
  obtain ⟨q,_,same⟩ := effect.ok w run
  exact ⟨_,same,kept.drawn⟩

theorem acts_of_exact {before : List Item} (formed : ∀ item ∈ before, item.WellFormed) (sequence : (Item.sequence parameters final).WellFormed)
    (closed : leftOpen before = false) (exact : Exact parameters final) (t : Terminal) :
    Together SameCells SameCells (consoleOutput (textBytes (before ++ [.sequence parameters final])) t)
      ((consoleOutput (textBytes before) >>= fun _ => act final (decimal (parameters.getD 0 [])) (decimal (parameters.getD 1 []))) t) := by
  rw [act_uses exact.1 exact.2,textBytes_append,textBytes_single,bind_run]
  by_cases valid : t.console.magic = 1234
  · rw [consoleOutput_valid valid,consoleOutput_valid valid,List.forM_append,bind_run]
    cases done : (forM (textBytes before) (writeByte respond t.console.doEcho) : Output Unit) (t.inStage .text) with
    | error halt u => exact sameCells_refl u
    | ok _ u =>
        exact (sequence_effect (closed_leads formed closed done).stage sequence).together
  · rw [consoleOutput_invalid valid,consoleOutput_invalid valid]
    exact sameCells_refl t

theorem exact_of_acts {before : List Item} (formed : ∀ item ∈ before, item.WellFormed) (sequence : (Item.sequence parameters final).WellFormed)
    (acts : ∀ t, Together SameCells SameCells (consoleOutput (textBytes (before ++ [.sequence parameters final])) t)
      ((consoleOutput (textBytes before) >>= fun _ => act final (decimal (parameters.getD 0 [])) (decimal (parameters.getD 1 []))) t)) :
    leftOpen before = false ∧ Exact parameters final := by
  have same := acts endlessTerminal
  obtain ⟨u,done,stage,prepared,more⟩ := consoleOutput_prepared formed endlessTerminal_prepared
  rw [textBytes_append,textBytes_single,more,bind_done done] at same
  cases isOpen : leftOpen before with
  | true =>
      rw [isOpen] at stage
      obtain ⟨v,swallowed,longer⟩ := swallowed_draws prepared stage sequence
      obtain ⟨w,acted,drawings⟩ := act_draws prepared final (decimal (parameters.getD 0 [])) (decimal (parameters.getD 1 []))
      rw [swallowed,acted] at same
      have lengths := congrArg List.length same.1.1
      rw [List.length_map,List.length_map,drawings] at lengths
      omega
  | false =>
      rw [isOpen] at stage
      have effect : Effect (act final (lastDigit (parameters.getD 0 [])) (lastDigit (parameters.getD 1 []))) u
          (forM (Item.sequence parameters final).bytes (writeByte respond true) u) (stageOf (decide (final ≠ 'm'.toUInt8))) :=
        sequence_effect stage sequence
      refine ⟨rfl,exact_of_same prepared sequence.2.1 ?_⟩
      exact Together.trans SameCells.trans SameCells.trans (Together.symm SameCells.symm SameCells.symm same) effect.together

end Ends

theorem item_filled (item : Item) : item.bytes ≠ [] := by
  cases item with
  | char ch => exact List.cons_ne_nil _ _
  | sequence parameters final => exact List.cons_ne_nil _ _

theorem textBytes_filled {items : List Item} (filled : items ≠ []) : textBytes items ≠ [] := by
  cases items with
  | nil => exact absurd rfl filled
  | cons item rest => exact fun none => item_filled item (List.append_eq_nil_iff.mp none).1

-- Stage 4 is left by 'm' and by the bytes without a case there, and par[] keeps one digit.
theorem escape_sequences_iff (items : List Item) (filled : items ≠ []) (formed : ∀ item ∈ items, item.WellFormed) :
    EndsWhereItShould items ↔ SequencesEnded items := by
  have split {before after : List Item} {parameters : List (List UInt8)} {final : UInt8}
      (same : items = before ++ .sequence parameters final :: after) :
      (∀ item ∈ before, item.WellFormed) ∧ (Item.sequence parameters final).WellFormed := by
    subst same
    exact ⟨fun item among => formed item (List.mem_append_left _ among),formed _ (List.mem_append_right _ List.mem_cons_self)⟩
  have whole := textBytes_filled filled
  constructor
  · intro ends
    constructor
    · refine (composes_iff formed).mp fun text some => onTerminal_views.mp fun s n => ?_
      have same := ends.composes s n text some
      rwa [write_on whole,write_on some,write_on (List.append_ne_nil_of_left_ne_nil whole _),onTerminal_bind] at same
    · intro before parameters final after same cursor
      obtain ⟨others,sequence⟩ := split same
      refine exact_of_acts others sequence (onTerminal_views.mp fun s n => ?_)
      have acts := ends.acts before parameters final after same cursor s n
      rwa [write_on (textBytes_filled (List.append_ne_nil_of_right_ne_nil _ (List.cons_ne_nil _ _)))] at acts
  · intro ended
    constructor
    · intro s n text some
      rw [write_on whole,write_on some,write_on (List.append_ne_nil_of_left_ne_nil whole _),onTerminal_bind]
      exact onTerminal_views.mpr ((composes_iff formed).mpr ended.closed text some) s n
    · intro before parameters final after same cursor s n
      obtain ⟨others,sequence⟩ := split same
      obtain ⟨closed,exact⟩ := ended.sequences before parameters final after same cursor
      rw [write_on (textBytes_filled (List.append_ne_nil_of_right_ne_nil _ (List.cons_ne_nil _ _)))]
      exact onTerminal_views.mpr (acts_of_exact others sequence closed exact) s n

theorem attributes_end : EndsWhereItShould [.char 65,.sequence [[49]] 'm'.toUInt8] := by
  refine (escape_sequences_iff _ (List.cons_ne_nil _ _) ?_).mpr ⟨rfl,?_⟩
  · have letter : (65 : UInt8) ≠ Ascii.escape := by decide
    refine List.forall_mem_cons.mpr ⟨letter,List.forall_mem_cons.mpr ⟨⟨by decide,?_,by decide⟩,List.forall_mem_nil _⟩⟩
    intro digits among ch inside
    rw [List.mem_singleton.mp among,List.mem_singleton] at inside
    rw [inside]
    rfl
  · intro before parameters final after same cursor
    rcases before with _ | ⟨item,before⟩
    · cases same
    · rcases before with _ | ⟨item,before⟩
      · cases same
        exact absurd cursor (by decide)
      · cases before <;> cases same

-- "x" behind "ESC[5C" is drawn only where it is written alone, and "ESC[12G" moves the cursor
-- to column 2.
theorem escape_sequences_run_on :
    (final (((ConsoleCall.write 0 (some [27,91,53,67])).on >>= fun _ => (ConsoleCall.write 0 (some [120])).on)
      (bootConsoles 800 600))).drawings.map Drawing.cell = [(120,5,0)] ∧
    (final ((ConsoleCall.write 0 (some [27,91,53,67,120])).on (bootConsoles 800 600))).drawings = [] ∧
    ((final ((ConsoleCall.write 0 (some [27,91,49,50,71])).on (bootConsoles 800 600))).tty 0).cursorX = 2 ∧
    ¬ EndsWhereItShould [.sequence [[53]] 'C'.toUInt8] := by
  refine ⟨rfl,rfl,rfl,?_⟩
  intro ends
  have same := ends.composes (bootConsoles 800 600) 0 [120] (by decide)
  have cells : [((120 : Int),(5 : UInt64),(0 : UInt64))] = [] := same.drawings
  cases cells

end GramadoKernel
