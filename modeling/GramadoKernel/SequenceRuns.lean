import GramadoKernel.EscapeSequences

namespace GramadoKernel

open Stateful

def textBytes (items : List Item) : List UInt8 := items.flatMap Item.bytes

-- Whether a sequence is open after an item. Behind its letter it stays open, except for 'm':
-- letters that follow belong to it, and any other byte ends it.
def Item.leavesOpen : Item → Bool → Bool
  | .char ch,isOpen => isOpen && decide (ch ∈ finals ∧ ch ≠ 'm'.toUInt8)
  | .sequence _ final,isOpen => !isOpen && decide (final ≠ 'm'.toUInt8)

def openAfter (isOpen : Bool) (items : List Item) : Bool := items.foldl (fun isOpen item => item.leavesOpen isOpen) isOpen

def leftOpen (items : List Item) : Bool := openAfter false items

def stageOf (isOpen : Bool) : EscapeSequenceStage := if isOpen = true then .final else .text

theorem textBytes_append (items more : List Item) : textBytes (items ++ more) = textBytes items ++ textBytes more := List.flatMap_append

theorem textBytes_single (item : Item) : textBytes [item] = item.bytes := List.append_nil _

-- What some bytes do is what a program does, up to the variables of the sequences.
structure Effect (program : Output Unit) (t : Terminal) (result : EStateM.Result Halt Terminal Unit) (stage : EscapeSequenceStage) : Prop where
  ok : ∀ u, program t = .ok () u → ∃ q : Sequencing, q.stage = stage ∧ result = .ok () (u.sequenced q)
  error : ∀ halt u, program t = .error halt u → ∃ q, result = .error halt (u.sequenced q)

theorem Plain.ok {program : Output Unit} (plain : Plain program) (done : program t = .ok () u) :
    u.sequencing = t.sequencing ∧ u.console.settings = t.console.settings := by
  have same := plain.blind t.sequencing t
  have kept := plain.keeps t
  rw [show t.sequenced t.sequencing = t from rfl,done] at same
  rw [done] at kept
  refine ⟨?_,kept⟩
  have whole : u = u.sequenced t.sequencing := by
    injection same
  rw [whole]
  rfl

theorem Plain.effect {program : Output Unit} (plain : Plain program) (t : Terminal) : Effect program t (program t) t.escapeSequenceStage := by
  constructor
  · intro u done
    refine ⟨u.sequencing,?_,done⟩
    rw [(plain.ok done).1]
    rfl
  · intro halt u stopped
    exact ⟨u.sequencing,stopped⟩

def Terminal.closed (t : Terminal) (final : UInt8) : Terminal := if final = 'm'.toUInt8 then t.cleared.inStage .text else t.inStage .final

theorem closing_run (final : UInt8) (t : Terminal) : closing final t = .ok () (t.closed final) := by
  unfold closing Terminal.closed
  split <;> rfl

theorem closed_same (t : Terminal) (final : UInt8) : t.closed final = t.sequenced (t.closed final).sequencing ∧
    (t.closed final).escapeSequenceStage = stageOf (decide (final ≠ 'm'.toUInt8)) := by
  unfold Terminal.closed stageOf
  by_cases attributes : final = 'm'.toUInt8
  · rw [if_pos attributes,if_neg (by simp [attributes])]
    exact ⟨rfl,rfl⟩
  · rw [if_neg attributes,if_pos (decide_eq_true attributes)]
    exact ⟨rfl,rfl⟩

theorem act_effect (final : UInt8) (ivalue ivalue2 : Int) (t : Terminal) (q : Sequencing) :
    Effect (act final ivalue ivalue2) t ((act final ivalue ivalue2 >>= fun _ => closing final) (t.sequenced q))
      (stageOf (decide (final ≠ 'm'.toUInt8))) := by
  have blind := (act_plain final ivalue ivalue2).blind q t
  constructor
  · intro u done
    rw [done] at blind
    obtain ⟨same,stage⟩ := closed_same (u.sequenced q) final
    refine ⟨((u.sequenced q).closed final).sequencing,stage,?_⟩
    rw [bind_done blind,closing_run,same]
    rfl
  · intro halt u stopped
    rw [stopped] at blind
    exact ⟨q,bind_stopped blind⟩

section Bytes

variable {respond : Output Unit} {doEcho : Bool} {t u : Terminal}

theorem chars_run (stage : t.escapeSequenceStage = .text) {bytes : List UInt8} (ordinary : ∀ ch ∈ bytes, ch ≠ Ascii.escape) :
    (forM bytes (writeByte respond doEcho) : Output Unit) t = (forM bytes (writeText doEcho) : Output Unit) t := by
  induction bytes generalizing t with
  | nil => rfl
  | cons ch bytes ih =>
      obtain ⟨first,others⟩ := List.forall_mem_cons.mp ordinary
      rw [List.forM_cons,List.forM_cons,bind_run,bind_run,writeByte_text stage]
      cases written : writeText doEcho ch t with
      | error halt v => rfl
      | ok _ v =>
          have same := congrArg Sequencing.stage ((writeText_plain doEcho first).ok written).1
          exact ih (same.trans stage) others

theorem chars_plain (doEcho : Bool) {bytes : List UInt8} (ordinary : ∀ ch ∈ bytes, ch ≠ Ascii.escape) :
    Plain (forM bytes (writeText doEcho)) := by
  induction bytes with
  | nil => exact Leaves.pure ()
  | cons ch bytes ih =>
      obtain ⟨first,others⟩ := List.forall_mem_cons.mp ordinary
      rw [List.forM_cons]
      exact (writeText_plain doEcho first).bind fun _ => ih others

theorem chars_effect (stage : t.escapeSequenceStage = .text) {bytes : List UInt8} (ordinary : ∀ ch ∈ bytes, ch ≠ Ascii.escape) :
    Effect (forM bytes (writeText doEcho)) t (forM bytes (writeByte respond doEcho) t) .text := by
  have effect := (chars_plain doEcho ordinary).effect t
  rw [stage] at effect
  have run : (forM bytes (writeByte respond doEcho) : Output Unit) t = (forM bytes (writeText doEcho) : Output Unit) t := chars_run stage ordinary
  rwa [run]

theorem sequence_ordinary {parameters : List (List UInt8)} {final : UInt8} (formed : (Item.sequence parameters final).WellFormed) :
    ∀ ch ∈ 91 :: (separated parameters ++ [final]), 32 < ch ∧ ch ≤ 126 := by
  obtain ⟨_,digits,handled⟩ := formed
  intro ch among
  rcases List.mem_cons.mp among with rfl | later
  · decide
  rcases List.mem_append.mp later with inside | last
  · rcases separated_mem digits inside with digit | rfl
    · obtain ⟨low,high⟩ := digit_range digit
      rw [UInt8.lt_iff_toNat_lt,UInt8.le_iff_toNat_le]
      exact ⟨Nat.lt_of_lt_of_le (by decide) low,Nat.le_trans high (by decide)⟩
    · decide
  · rw [List.mem_singleton.mp last]
    exact (final_kind handled).2.2.2

theorem ordinary_escape {ch : UInt8} (ordinary : 32 < ch ∧ ch ≤ 126) : ch ≠ Ascii.escape := by
  rintro rfl
  exact absurd ordinary.1 (by decide)

theorem sequence_effect (stage : t.escapeSequenceStage = .text) {parameters : List (List UInt8)} {final : UInt8}
    (formed : (Item.sequence parameters final).WellFormed) :
    Effect (act final (lastDigit (parameters.getD 0 [])) (lastDigit (parameters.getD 1 []))) t
      (forM (Item.sequence parameters final).bytes (writeByte respond doEcho) t) (stageOf (decide (final ≠ 'm'.toUInt8))) := by
  have run : ∃ q : Sequencing, q.stage = .text ∧ forM (Item.sequence parameters final).bytes (writeByte respond doEcho) t =
      (act final (lastDigit (parameters.getD 0 [])) (lastDigit (parameters.getD 1 [])) >>= fun _ => closing final) (t.sequenced q) :=
    sequence_run stage formed
  obtain ⟨q,_,run⟩ := run
  rw [run]
  exact act_effect final _ _ t q

-- In stage 4 the ESC of a sequence ends the one before, and the rest of it is text.
theorem swallowed_effect (stage : t.escapeSequenceStage = .final) {parameters : List (List UInt8)} {final : UInt8}
    (formed : (Item.sequence parameters final).WellFormed) :
    Effect (forM (91 :: (separated parameters ++ [final])) (writeText doEcho)) (t.inStage .text)
      (forM (Item.sequence parameters final).bytes (writeByte respond doEcho) t) .text := by
  have escape : writeByte respond doEcho 27 t = .ok () (t.inStage .text) := by
    rw [writeByte_final stage]
    exact writeFinal_other (by decide) t
  have run : (forM (Item.sequence parameters final).bytes (writeByte respond doEcho) : Output Unit) t =
      (forM (91 :: (separated parameters ++ [final])) (writeByte respond doEcho) : Output Unit) (t.inStage .text) := by
    unfold Item.bytes
    rw [List.forM_cons,bind_done escape]
  rw [run]
  exact chars_effect rfl fun ch among => ordinary_escape (sequence_ordinary formed ch among)

theorem Effect.moved {program : Output Unit} {result : EStateM.Result Halt Terminal Unit} {stage : EscapeSequenceStage} {q : Sequencing}
    (effect : Effect program (t.sequenced q) result stage) (plain : Plain program) : Effect program t result stage := by
  have blind := plain.blind q t
  constructor
  · intro u done
    rw [done] at blind
    obtain ⟨p,ends,same⟩ := effect.ok _ blind
    exact ⟨p,ends,same⟩
  · intro halt u stopped
    rw [stopped] at blind
    obtain ⟨p,same⟩ := effect.error _ _ blind
    exact ⟨p,same⟩

-- The programs that the items of a text come to
inductive Handles (doEcho : Bool) : Output Unit → Prop where
  | nothing : Handles doEcho (pure ())
  | act (final : UInt8) (ivalue ivalue2 : Int) : Handles doEcho (act final ivalue ivalue2)
  | text (bytes : List UInt8) (ordinary : ∀ ch ∈ bytes, ch ≠ Ascii.escape) : Handles doEcho (forM bytes (writeText doEcho))

theorem Handles.plain {program : Output Unit} (handles : Handles doEcho program) : Plain program := by
  cases handles with
  | nothing => exact Leaves.pure ()
  | act final ivalue ivalue2 => exact act_plain final ivalue ivalue2
  | text bytes ordinary => exact chars_plain doEcho ordinary

theorem item_effect {item : Item} (formed : item.WellFormed) {isOpen : Bool} (stage : t.escapeSequenceStage = stageOf isOpen) :
    ∃ program, Handles doEcho program ∧ Effect program t (forM item.bytes (writeByte respond doEcho) t) (stageOf (item.leavesOpen isOpen)) := by
  cases item with
  | char ch =>
      cases isOpen with
      | false =>
          have plain : ∀ c ∈ [ch], c ≠ Ascii.escape := fun c same => by rwa [List.mem_singleton.mp same]
          exact ⟨_,.text [ch] plain,chars_effect stage plain⟩
      | true =>
          have run : (forM (Item.char ch).bytes (writeByte respond doEcho) : Output Unit) t = writeFinal ch t := by
            unfold Item.bytes
            rw [List.forM_cons,List.forM_nil,bind_pure_unit,writeByte_final stage]
          by_cases handled : ch ∈ finals
          · refine ⟨_,.act ch (t.parameter 0) (t.parameter 1),?_⟩
            rw [run,writeFinal_act handled]
            unfold Item.leavesOpen
            simp only [handled,true_and,Bool.true_and]
            exact act_effect ch _ _ t {t.sequencing with stage := .text}
          · refine ⟨_,.nothing,?_⟩
            rw [run,writeFinal_other handled]
            unfold Item.leavesOpen
            simp only [handled,false_and,decide_false,Bool.and_false]
            have effect : Effect (pure ()) (t.inStage .text) (.ok () (t.inStage .text)) .text := Plain.effect (Leaves.pure ()) (t.inStage .text)
            exact effect.moved (q := {t.sequencing with stage := .text}) (Leaves.pure ())
  | sequence parameters final =>
      cases isOpen with
      | false => exact ⟨_,.act _ _ _,sequence_effect stage formed⟩
      | true =>
          have ordinary : ∀ ch ∈ 91 :: (separated parameters ++ [final]), ch ≠ Ascii.escape :=
            fun ch among => ordinary_escape (sequence_ordinary formed ch among)
          exact ⟨_,.text _ ordinary,(swallowed_effect stage formed).moved (q := {t.sequencing with stage := .text}) (chars_plain doEcho ordinary)⟩

-- A stage and the settings, which later bytes depend on.
structure Leads (t : Terminal) (isOpen : Bool) (u : Terminal) : Prop where
  stage : u.escapeSequenceStage = stageOf isOpen
  settings : u.console.settings = t.console.settings

theorem Effect.done {program : Output Unit} {stage : EscapeSequenceStage} (effect : Effect program t (.ok () u) stage) :
    ∃ v q, program t = .ok () v ∧ q.stage = stage ∧ u = Terminal.sequenced q v := by
  cases met : program t with
  | error halt v =>
      obtain ⟨q,same⟩ := effect.error halt v met
      cases same
  | ok _ v =>
      obtain ⟨q,ends,same⟩ := effect.ok v met
      cases same
      exact ⟨v,q,rfl,ends,rfl⟩

theorem item_leads {item : Item} (formed : item.WellFormed) {isOpen : Bool} (stage : t.escapeSequenceStage = stageOf isOpen)
    (done : forM item.bytes (writeByte respond doEcho) t = .ok () u) : Leads t (item.leavesOpen isOpen) u := by
  have found : ∃ program, Handles doEcho program ∧ Effect program t (forM item.bytes (writeByte respond doEcho) t)
      (stageOf (item.leavesOpen isOpen)) := item_effect formed stage
  obtain ⟨program,handles,effect⟩ := found
  rw [done] at effect
  obtain ⟨v,q,met,ends,rfl⟩ := effect.done
  exact ⟨ends,(handles.plain.ok met).2⟩

theorem items_leads {items : List Item} (formed : ∀ item ∈ items, item.WellFormed) {isOpen : Bool}
    (stage : t.escapeSequenceStage = stageOf isOpen) (done : forM (textBytes items) (writeByte respond doEcho) t = .ok () u) :
    Leads t (openAfter isOpen items) u := by
  induction items generalizing t isOpen with
  | nil =>
      cases done
      exact ⟨stage,rfl⟩
  | cons item rest ih =>
      obtain ⟨first,others⟩ := List.forall_mem_cons.mp formed
      unfold textBytes at done
      rw [List.flatMap_cons,List.forM_append,bind_run] at done
      cases begun : forM item.bytes (writeByte respond doEcho) t with
      | error halt v =>
          rw [begun] at done
          cases done
      | ok _ v =>
          rw [begun] at done
          have one := item_leads first stage begun
          have later := ih others one.stage done
          exact ⟨later.stage,later.settings.trans one.settings⟩

end Bytes

-- What a text leaves that closes its sequences, from stage 0 on.
theorem closed_leads {respond : Output Unit} {doEcho : Bool} {t u : Terminal} {items : List Item} (formed : ∀ item ∈ items, item.WellFormed)
    (closed : leftOpen items = false) (done : (forM (textBytes items) (writeByte respond doEcho) : Output Unit) (t.inStage .text) = .ok () u) :
    Leads t false u := by
  have begin : (t.inStage .text).escapeSequenceStage = stageOf false := rfl
  have leads := items_leads formed begin done
  rw [show openAfter false items = false from closed] at leads
  exact ⟨leads.stage,leads.settings⟩

-- console_write on a console that there is, for its effect.
def consoleOutput (data : List UInt8) : Output Unit := writeBytes respond data >>= fun _ => pure ()

abbrev Console.doEcho (c : Console) : Bool := decide (c.cLflag &&& echo ≠ 0)

section Written

variable {t : Terminal}

theorem consoleOutput_valid (valid : t.console.magic = 1234) (data : List UInt8) :
    consoleOutput data t = (forM data (writeByte respond t.console.doEcho) : Output Unit) (t.inStage .text) := by
  unfold consoleOutput writeBytes
  rw [bind_assoc,get_bind,if_neg (not_not_intro valid),bind_assoc,bind_done (show setStage .text t = .ok () (t.inStage .text) from rfl),
    bind_assoc]
  exact congrFun (bind_pure_unit (x := (forM data (writeByte respond t.console.doEcho) : Output Unit))) _

theorem consoleOutput_invalid (invalid : t.console.magic ≠ 1234) (data : List UInt8) :
    consoleOutput data t = .error (.panic "console_write: tty validation\n") t := by
  unfold consoleOutput writeBytes
  rw [bind_assoc,get_bind,if_pos invalid]
  rfl

theorem text_stage (stage : t.escapeSequenceStage = .text) : t.inStage .text = t := by
  unfold Terminal.inStage
  rw [← stage]

-- A text that leaves no sequence open can be written before the rest of it.
theorem consoleOutput_append {items : List Item} (formed : ∀ item ∈ items, item.WellFormed) (closed : leftOpen items = false) (text : List UInt8) :
    (consoleOutput (textBytes items) >>= fun _ => consoleOutput text) = consoleOutput (textBytes items ++ text) := by
  funext t
  rw [bind_run]
  by_cases valid : t.console.magic = 1234
  · rw [consoleOutput_valid valid,consoleOutput_valid valid,List.forM_append,bind_run]
    cases done : (forM (textBytes items) (writeByte respond t.console.doEcho) : Output Unit) (t.inStage .text) with
    | error halt u => rfl
    | ok _ u =>
        have leads := closed_leads formed closed done
        have magic : u.console.magic = t.console.magic := congrArg Prod.fst leads.settings
        have flags : u.console.cLflag = t.console.cLflag := congrArg Prod.snd leads.settings
        show consoleOutput text u = (forM text (writeByte respond t.console.doEcho) : Output Unit) u
        rw [consoleOutput_valid (magic.trans valid),text_stage leads.stage]
        unfold Console.doEcho
        rw [flags]
  · rw [consoleOutput_invalid valid,consoleOutput_invalid valid]

end Written

end GramadoKernel
