import GramadoKernel.Library.Runs
import Mathlib.Data.List.Nodup
import Mathlib.Logic.Function.Basic

namespace GramadoKernel

-- PROMPT_SIZE and PROMPT_MAX_DEFAULT, both BUFSIZ, and the two keys: kstdio.h,
-- klimits2.h and vk.h.
def promptLength : Nat := 1024
def promptMaxDefault : Nat := 1024
def vkReturn : UInt8 := 0x1C
def keyBackspace : UInt8 := 0x0E

-- g_inputmode
inductive InputMode where
  | line | multipleLines
  deriving DecidableEq

inductive PromptArray where
  | prompt | promptOut | promptErr
  deriving DecidableEq

-- The prompt buffers of kstdio.c with what lies behind them, and the places that have
-- been written.
structure Prompt where
  inputMode : InputMode
  array : PromptArray → Nat → UInt8
  promptPos : Nat
  promptMax : Nat
  promptStatus : Nat
  written : List (PromptArray × Nat)

def Prompt.store (p : Prompt) (a : PromptArray) (i : Nat) (c : UInt8) : Prompt :=
  {p with array := Function.update p.array a (Function.update (p.array a) i c),written := (a,i) :: p.written}

-- The loop of kinput that clears the three arrays.
def Prompt.cleared (p : Prompt) : Prompt :=
  (List.range promptMaxDefault).foldl (fun p i => ((p.store .prompt i 0).store .promptOut i 0).store .promptErr i 0) p

def kinput (ch : UInt64) (p : Prompt) : UInt64 × Prompt :=
  let c := ch.toUInt8
  if p.inputMode = .line ∧ promptLength ≤ p.promptPos then (0,p)
  else if p.inputMode = .multipleLines ∧ promptLength ≤ p.promptPos then (0,p)
  else if c = vkReturn then
    match p.inputMode with
    | .line =>
        let p := p.store .prompt p.promptPos 0
        (vkReturn.toUInt64,{p.cleared with promptPos := 0})
    | .multipleLines =>
        let p := {p.store .prompt p.promptPos 0x0D with promptPos := p.promptPos+1}
        let p := {p.store .prompt p.promptPos 0x0A with promptPos := p.promptPos+1}
        (0,p)
  else if c = keyBackspace then
    if p.promptPos = 0 then (0,p.store .prompt 0 0)
    else
      let p := {p with promptPos := p.promptPos-1}
      (0,p.store .prompt p.promptPos 0)
  else (0,{p.store .prompt p.promptPos c with promptPos := p.promptPos+1})

-- The loop of consolePrompt.
def Prompt.emptied (p : Prompt) : Prompt := (List.range promptMaxDefault).foldl (fun p i => p.store .prompt i 0) p

-- consolePrompt, without what it prints.
def consolePrompt (p : Prompt) : Prompt :=
  let p := p.emptied
  {p.store .prompt 0 0 with promptPos := 0,promptStatus := 0,promptMax := promptMaxDefault}

inductive PromptEvent where
  | key (ch : UInt64)
  | inputMode (mode : InputMode)
  | consolePrompt

def PromptEvent.on (event : PromptEvent) (p : Prompt) : Prompt :=
  match event with
  | .key ch => (kinput ch p).2
  | .inputMode mode => {p with inputMode := mode}
  | .consolePrompt => GramadoKernel.consolePrompt p

-- The text that the keys stand for. A key is without effect where its text does not fit,
-- and Enter ends a line in the line mode.
def keyed (mode : InputMode) (c : UInt8) (text : List UInt8) : List UInt8 :=
  if c = vkReturn then
    match mode with
    | .line => []
    | .multipleLines => if text.length+2 ≤ promptLength then text ++ [0x0D,0x0A] else text
  else if c = keyBackspace then text.dropLast
  else if text.length < promptLength then text ++ [c] else text

-- The buffers with the text so far.
structure Editing where
  prompt : Prompt
  text : List UInt8

def Editing.after (e : Editing) (event : PromptEvent) : Editing where
  prompt := event.on e.prompt
  text :=
    match event with
    | .key ch => keyed e.prompt.inputMode ch.toUInt8 e.text
    | .inputMode _ => e.text
    | .consolePrompt => []

def Prompt.Within (p : Prompt) : Prop := ∀ place ∈ p.written, place.2 < promptLength

-- Every write so far is inside, the position too, and the buffer holds the text up to it.
structure Editing.Sound (e : Editing) : Prop where
  inside : e.prompt.Within
  position : e.prompt.promptPos ≤ promptLength
  text : (List.range e.prompt.promptPos).map (e.prompt.array .prompt) = e.text

-- Enter does not come at the last place in the mode of multiple lines, and a full buffer
-- meets neither a backspace nor the end of a line.
def PromptEvent.Meets (event : PromptEvent) (p : Prompt) : Prop :=
  match event with
  | .key ch =>
      ¬ (ch.toUInt8 = vkReturn ∧ p.inputMode = .multipleLines ∧ p.promptPos+1 = promptLength) ∧
        ¬ (p.promptPos = promptLength ∧ (ch.toUInt8 = keyBackspace ∨ ch.toUInt8 = vkReturn ∧ p.inputMode = .line))
  | _ => True

section Keys

variable {p : Prompt} {text : List UInt8}

theorem store_array (p : Prompt) (i : Nat) (c : UInt8) : (p.store .prompt i c).array .prompt = Function.update (p.array .prompt) i c := by
  simp only [Prompt.store,Function.update_self]

-- A byte stored at the position goes behind the text.
theorem held_snoc (array : Nat → UInt8) (held : (List.range n).map array = text) (c : UInt8) :
    (List.range (n+1)).map (Function.update array n c) = text ++ [c] := by
  rw [List.range_succ,List.map_append,List.map_singleton,Function.update_self,← held]
  congr 1
  apply List.map_congr_left
  intro i inside
  exact Function.update_of_ne (Nat.ne_of_lt (List.mem_range.mp inside)) _ _

theorem held_dropLast (array : Nat → UInt8) (held : (List.range (n+1)).map array = text) (c : UInt8) :
    (List.range n).map (Function.update array n c) = text.dropLast := by
  rw [← held,List.range_succ,List.map_append,List.map_singleton,List.dropLast_concat]
  apply List.map_congr_left
  intro i inside
  exact Function.update_of_ne (Nat.ne_of_lt (List.mem_range.mp inside)) _ _

theorem Editing.Sound.length {e : Editing} (sound : e.Sound) : e.text.length = e.prompt.promptPos := by
  rw [← sound.text,List.length_map,List.length_range]

theorem Prompt.Within.store (within : p.Within) (small : i < promptLength) (a : PromptArray) (c : UInt8) : (p.store a i c).Within :=
  List.forall_mem_cons.mpr ⟨small,within⟩

theorem within_loop {body : Prompt → Nat → Prompt} (keeps : ∀ q i, i < promptLength → q.Within → (body q i).Within) (places : List Nat)
    (small : ∀ i ∈ places, i < promptLength) (within : p.Within) : (places.foldl body p).Within := by
  induction places generalizing p with
  | nil => exact within
  | cons i rest ih =>
      obtain ⟨here,later⟩ := List.forall_mem_cons.mp small
      exact ih later (keeps p i here within)

theorem promptMaxDefault_small : ∀ i ∈ List.range promptMaxDefault, i < promptLength := fun _ among => List.mem_range.mp among

theorem Prompt.Within.cleared (within : p.Within) : p.cleared.Within := by
  unfold Prompt.cleared
  apply within_loop _ _ promptMaxDefault_small within
  intro q i small earlier
  exact ((earlier.store small _ _).store small _ _).store small _ _

theorem Prompt.Within.emptied (within : p.Within) : p.emptied.Within := by
  unfold Prompt.emptied
  apply within_loop _ _ promptMaxDefault_small within
  intro q i small earlier
  exact earlier.store small _ _

theorem first_place : 0 < promptLength := by decide

theorem Prompt.Within.consolePrompt (within : p.Within) : (GramadoKernel.consolePrompt p).Within := by
  have stored := within.emptied.store first_place .prompt 0
  unfold GramadoKernel.consolePrompt
  intro place among
  exact stored place among

-- What each kind of key does below the end of the buffer.
theorem kinput_full (full : promptLength ≤ p.promptPos) : kinput ch p = (0,p) := by
  cases mode : p.inputMode with
  | line => simp only [kinput,mode,full,true_and,if_true]
  | multipleLines => simp only [kinput,mode,full,reduceCtorEq,false_and,if_false,true_and,if_true]

theorem kinput_open (room : p.promptPos < promptLength) :
    kinput ch p =
      if ch.toUInt8 = vkReturn then
        match p.inputMode with
        | .line => (vkReturn.toUInt64,{(p.store .prompt p.promptPos 0).cleared with promptPos := 0})
        | .multipleLines =>
            (0,{({p.store .prompt p.promptPos 0x0D with promptPos := p.promptPos+1} : Prompt).store .prompt (p.promptPos+1) 0x0A with
              promptPos := p.promptPos+1+1})
      else if ch.toUInt8 = keyBackspace then
        if p.promptPos = 0 then (0,p.store .prompt 0 0)
        else (0,({p with promptPos := p.promptPos-1} : Prompt).store .prompt (p.promptPos-1) 0)
      else (0,{p.store .prompt p.promptPos ch.toUInt8 with promptPos := p.promptPos+1}) := by
  have short : ¬ promptLength ≤ p.promptPos := Nat.not_le_of_lt room
  simp only [kinput,short,and_false,if_false]

end Keys

section Editing

variable {e : Editing}

theorem key_prompt (e : Editing) (ch : UInt64) : (e.after (.key ch)).prompt = (kinput ch e.prompt).2 := rfl

theorem key_text (e : Editing) (ch : UInt64) : (e.after (.key ch)).text = keyed e.prompt.inputMode ch.toUInt8 e.text := rfl

theorem enter_line (sound : e.Sound) (room : e.prompt.promptPos < promptLength) (enter : ch.toUInt8 = vkReturn) (mode : e.prompt.inputMode = .line) :
    (e.after (.key ch)).Sound := by
  have prompt := key_prompt e ch
  simp only [kinput_open room,if_pos enter,mode] at prompt
  have text := key_text e ch
  simp only [keyed,if_pos enter,mode] at text
  have within := (sound.inside.store room .prompt 0).cleared
  generalize (e.prompt.store .prompt e.prompt.promptPos 0).cleared = q at prompt within
  refine ⟨?_,?_,?_⟩
  · rw [prompt]
    intro place among
    exact within place among
  · rw [prompt]
    exact Nat.zero_le promptLength
  · rw [text,prompt]
    rfl

theorem enter_lines (sound : e.Sound) (room : e.prompt.promptPos < promptLength) (enter : ch.toUInt8 = vkReturn)
    (mode : e.prompt.inputMode = .multipleLines) : (e.after (.key ch)).Sound ↔ e.prompt.promptPos+1 ≠ promptLength := by
  have prompt := key_prompt e ch
  simp only [kinput_open room,if_pos enter,mode] at prompt
  have text := key_text e ch
  simp only [keyed,if_pos enter,mode,sound.length] at text
  constructor
  · intro after last
    have bound := after.inside (.prompt,e.prompt.promptPos+1) (by rw [prompt]; exact List.mem_cons_self)
    exact Nat.ne_of_lt bound last
  · intro apart
    have further : e.prompt.promptPos+1 < promptLength := by omega
    rw [if_pos (show e.prompt.promptPos+2 ≤ promptLength from further)] at text
    refine ⟨?_,?_,?_⟩
    · rw [prompt]
      exact (sound.inside.store room .prompt 0x0D).store further .prompt 0x0A
    · rw [prompt]
      exact further
    · have first := held_snoc _ sound.text 0x0D
      have second := held_snoc _ first 0x0A
      rw [text,prompt,store_array,store_array,second,List.append_assoc]
      rfl

theorem backspace_sound (sound : e.Sound) (room : e.prompt.promptPos < promptLength) (other : ch.toUInt8 ≠ vkReturn)
    (backspace : ch.toUInt8 = keyBackspace) : (e.after (.key ch)).Sound := by
  have prompt := key_prompt e ch
  simp only [kinput_open room,if_neg other,if_pos backspace] at prompt
  have text := key_text e ch
  simp only [keyed,if_neg other,if_pos backspace] at text
  have held := sound.text
  cases position : e.prompt.promptPos with
  | zero =>
      rw [position] at room held
      rw [if_pos position] at prompt
      refine ⟨?_,?_,?_⟩
      · rw [prompt]
        exact sound.inside.store room .prompt 0
      · rw [prompt]
        exact sound.position
      · rw [text,← held,prompt]
        have same : (e.prompt.store .prompt 0 0).promptPos = 0 := position
        rw [same]
        rfl
  | succ n =>
      rw [position] at room held
      rw [if_neg (by omega),position,Nat.add_sub_cancel] at prompt
      refine ⟨?_,?_,?_⟩
      · rw [prompt]
        exact sound.inside.store (Nat.lt_of_succ_lt room) .prompt 0
      · rw [prompt]
        exact Nat.le_of_lt (Nat.lt_of_succ_lt room)
      · rw [text,prompt,store_array]
        exact held_dropLast _ held 0

theorem plain_sound (sound : e.Sound) (room : e.prompt.promptPos < promptLength) (other : ch.toUInt8 ≠ vkReturn)
    (plain : ch.toUInt8 ≠ keyBackspace) : (e.after (.key ch)).Sound := by
  have prompt := key_prompt e ch
  simp only [kinput_open room,if_neg other,if_neg plain] at prompt
  have text := key_text e ch
  simp only [keyed,if_neg other,if_neg plain,sound.length,if_pos room] at text
  refine ⟨?_,?_,?_⟩
  · rw [prompt]
    exact sound.inside.store room .prompt ch.toUInt8
  · rw [prompt]
    exact room
  · rw [text,prompt]
    simp only [store_array]
    exact held_snoc _ sound.text ch.toUInt8

-- A full buffer takes no key. This is right for the keys whose text does not fit.
theorem full_sound (sound : e.Sound) (full : e.prompt.promptPos = promptLength) (ch : UInt64) :
    (e.after (.key ch)).Sound ↔ ¬ (ch.toUInt8 = keyBackspace ∨ ch.toUInt8 = vkReturn ∧ e.prompt.inputMode = .line) := by
  have prompt := key_prompt e ch
  rw [kinput_full (Nat.le_of_eq full.symm)] at prompt
  have length := sound.length
  have same : (e.after (.key ch)).Sound ↔ keyed e.prompt.inputMode ch.toUInt8 e.text = e.text := by
    constructor
    · intro after
      rw [← key_text,← after.text,prompt]
      exact sound.text
    · intro stays
      refine ⟨?_,?_,?_⟩
      · rw [prompt]
        exact sound.inside
      · rw [prompt]
        exact sound.position
      · rw [prompt,key_text,stays]
        exact sound.text
  rw [same,full] at *
  by_cases enter : ch.toUInt8 = vkReturn
  · have other : ch.toUInt8 ≠ keyBackspace := by
      rw [enter]
      decide
    cases mode : e.prompt.inputMode with
    | line =>
        refine iff_of_false ?_ (fun never => never (.inr ⟨enter,rfl⟩))
        intro empty
        simp only [keyed,if_pos enter] at empty
        rw [← empty] at length
        exact absurd length (by decide)
    | multipleLines => simp [keyed,enter,length,vkReturn,keyBackspace]
  · by_cases backspace : ch.toUInt8 = keyBackspace
    · refine iff_of_false ?_ (fun never => never (.inl backspace))
      intro shorter
      simp only [keyed,if_neg enter,if_pos backspace] at shorter
      have lengths := congrArg List.length shorter
      rw [List.length_dropLast,length] at lengths
      exact absurd lengths (by decide)
    · simp [keyed,enter,backspace,length]

theorem event_sound (sound : e.Sound) (event : PromptEvent) : (e.after event).Sound ↔ event.Meets e.prompt := by
  cases event with
  | key ch =>
      unfold PromptEvent.Meets
      rcases Nat.lt_or_eq_of_le sound.position with room | full
      · have short := Nat.ne_of_lt room
        by_cases enter : ch.toUInt8 = vkReturn
        · cases mode : e.prompt.inputMode with
          | line => simp [enter_line sound room enter mode,short]
          | multipleLines => simp [enter_lines sound room enter mode,enter,short]
        · by_cases backspace : ch.toUInt8 = keyBackspace
          · simp [backspace_sound sound room enter backspace,enter,short]
          · simp [plain_sound sound room enter backspace,enter,short]
      · rw [full_sound sound full]
        simp [full]
  | inputMode mode => exact iff_of_true ⟨sound.inside,sound.position,sound.text⟩ trivial
  | consolePrompt => exact iff_of_true ⟨sound.inside.consolePrompt,Nat.zero_le promptLength,rfl⟩ trivial

end Editing

def bootPrompt : Prompt where
  inputMode := .line
  array := fun _ _ => 0
  promptPos := 0
  promptMax := 0
  promptStatus := 0
  written := []

def bootEditing : Editing := ⟨bootPrompt,[]⟩

theorem boot_editing_sound : bootEditing.Sound where
  inside := fun _ none => absurd none List.not_mem_nil
  position := Nat.zero_le promptLength
  text := rfl

theorem editing_run {events : List PromptEvent} {e : Editing}
    (run : Runs.Path (fun e (event : PromptEvent) t => event.Meets e.prompt ∧ t = e.after event) bootEditing events e) : e.Sound := by
  refine run.invariant Editing.Sound ?_ boot_editing_sound
  rintro s event t earlier ⟨meets,rfl⟩
  exact (event_sound earlier event).mpr meets

-- A run whose events all meet the condition is sound, and the next event leaves it sound
-- exactly when it meets the condition too.
theorem kinput_laws {events : List PromptEvent} {e : Editing}
    (run : Runs.Path (fun e (event : PromptEvent) t => event.Meets e.prompt ∧ t = e.after event) bootEditing events e) :
    e.Sound ∧ ∀ event : PromptEvent, (e.after event).Sound ↔ event.Meets e.prompt :=
  ⟨editing_run run,event_sound (editing_run run)⟩

theorem kinput_laws_key :
    let e := (bootEditing.after (.inputMode .multipleLines)).after (.key 0x41)
    e.Sound ∧ ∀ event : PromptEvent, (e.after event).Sound ↔ event.Meets e.prompt := by
  apply @kinput_laws [.inputMode .multipleLines,.key 0x41]
  have first : (PromptEvent.inputMode .multipleLines).Meets bootPrompt := trivial
  have second : (PromptEvent.key 0x41).Meets (bootEditing.after (.inputMode .multipleLines)).prompt := ⟨by decide,by decide⟩
  exact .step (.step .nil ⟨first,rfl⟩) ⟨second,rfl⟩

-- The buffer after some letters in the mode of multiple lines.
theorem typed_run (n : Nat) (small : n ≤ promptLength) :
    ∃ e, Runs.Path (fun e (event : PromptEvent) t => event.Meets e.prompt ∧ t = e.after event) bootEditing
        (.inputMode .multipleLines :: List.replicate n (.key 0x41)) e ∧ e.prompt.promptPos = n ∧ e.prompt.inputMode = .multipleLines := by
  induction n with
  | zero => exact ⟨_,.step .nil ⟨trivial,rfl⟩,rfl,rfl⟩
  | succ n ih =>
      obtain ⟨e,run,position,mode⟩ := ih (Nat.le_of_succ_le small)
      have room : e.prompt.promptPos < promptLength := position ▸ small
      have enter : (0x41 : UInt64).toUInt8 ≠ vkReturn := by decide
      have backspace : (0x41 : UInt64).toUInt8 ≠ keyBackspace := by decide
      have prompt := key_prompt e 0x41
      simp only [kinput_open room,if_neg enter,if_neg backspace] at prompt
      refine ⟨e.after (.key 0x41),?_,?_,?_⟩
      · rw [List.replicate_succ',← List.cons_append]
        refine run.step ⟨⟨?_,?_⟩,rfl⟩
        · rintro ⟨same,_⟩
          exact enter same
        · rintro ⟨_,same | ⟨same,_⟩⟩
          · exact backspace same
          · exact enter same
      · rw [prompt]
        exact congrArg (·+1) position
      · rw [prompt]
        exact mode

-- Enter at the last place writes behind the buffer, and a full buffer does not give its
-- last character back.
theorem kinput_overruns :
    (∃ e, Runs.Path (fun e (event : PromptEvent) t => t = e.after event) bootEditing
      (.inputMode .multipleLines :: List.replicate 1023 (.key 0x41) ++ [.key 0x1C]) e ∧
        (.prompt,promptLength) ∈ e.prompt.written ∧ e.prompt.promptPos = promptLength+1) ∧
    (∃ e, Runs.Path (fun e (event : PromptEvent) t => t = e.after event) bootEditing
      (.inputMode .multipleLines :: List.replicate 1024 (.key 0x41) ++ [.key 0x0E]) e ∧
        e.prompt.promptPos = promptLength ∧ e.text.length = 1023) := by
  constructor
  · obtain ⟨e,run,position,mode⟩ := typed_run 1023 (by decide)
    have room : e.prompt.promptPos < promptLength := by
      rw [position]
      decide
    have enter : (0x1C : UInt64).toUInt8 = vkReturn := by decide
    have prompt := key_prompt e 0x1C
    simp only [kinput_open room,if_pos enter,mode,position] at prompt
    refine ⟨_,(run.weaken fun _ _ _ => And.right).step rfl,?_,?_⟩
    · rw [prompt]
      exact List.mem_cons_self
    · rw [prompt]
      rfl
  · obtain ⟨e,run,position,mode⟩ := typed_run 1024 (by decide)
    have full : promptLength ≤ e.prompt.promptPos := by
      rw [position]
      decide
    have prompt := key_prompt e 0x0E
    rw [kinput_full full] at prompt
    have length := (editing_run run).length
    refine ⟨_,(run.weaken fun _ _ _ => And.right).step rfl,?_,?_⟩
    · rw [prompt]
      exact position
    · have text := key_text e 0x0E
      have enter : (0x0E : UInt64).toUInt8 ≠ vkReturn := by decide
      have backspace : (0x0E : UInt64).toUInt8 = keyBackspace := by decide
      simp only [keyed,if_neg enter,if_pos backspace] at text
      rw [text,List.length_dropLast,length,position]

end GramadoKernel
