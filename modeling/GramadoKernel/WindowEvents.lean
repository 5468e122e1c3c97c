import GramadoKernel.Library.Ring
import GramadoKernel.Library.Runs
import GramadoKernel.ZOrderRuns

namespace GramadoKernel

-- packet.h
def serverPacketTypeEvent : UInt64 := 1002

-- The number of elements of the ev_ arrays.
def windowEventsMax : Nat := 32

structure WindowEvent where
  wid : UInt64
  msg : UInt64
  long1 : UInt64
  long2 : UInt64
  deriving DecidableEq

-- The ev_ fields of struct gws_window_d, as doCreateWindow leaves them.
structure EventQueue where
  evHead : Nat := 0
  evTail : Nat := 0
  evWid : Nat → UInt64 := fun _ => 0
  evMsg : Nat → UInt64 := fun _ => 0
  evLong1 : Nat → UInt64 := fun _ => 0
  evLong2 : Nat → UInt64 := fun _ => 0

def EventQueue.slot (q : EventQueue) (i : Nat) : WindowEvent := ⟨q.evWid i,q.evMsg i,q.evLong1 i,q.evLong2 i⟩

def EventQueue.put (q : EventQueue) (i : Nat) (event : WindowEvent) : EventQueue :=
  {q with
    evWid := Function.update q.evWid i event.wid
    evMsg := Function.update q.evMsg i event.msg
    evLong1 := Function.update q.evLong1 i event.long1
    evLong2 := Function.update q.evLong2 i event.long2}

def EventQueue.post (q : EventQueue) (event : WindowEvent) : EventQueue :=
  {q.put q.evTail event with evTail := Ring.next windowEventsMax q.evTail}

def EventQueue.take (q : EventQueue) : EventQueue :=
  {q.put q.evHead ⟨0,0,0,0⟩ with evHead := Ring.next windowEventsMax q.evHead}

-- The display server: its windows with their ids and queues, and next_response.
structure EventServer where
  desktop : Desktop
  id : Nat → Int32
  queue : Nat → EventQueue
  nextResponse : Nat → UInt64

def EventServer.setQueue (s : EventServer) (w : Nat) (q : EventQueue) : EventServer := {s with queue := Function.update s.queue w q}

-- doCreateWindow for a window at the address w.
def doCreateWindow (w type : Nat) (parent : Option Nat) (s : EventServer) : EventServer :=
  {s with
    desktop := createWindow w type parent s.desktop
    id := Function.update s.id w (-1)
    queue := Function.update s.queue w {}}

-- The slot that RegisterWindow finds, and the id that it gives.
def Desktop.freeSlot (d : Desktop) : Option Nat :=
  if windowCountMax ≤ d.windowsCount+1 then none
  else (List.range windowCountMax).find? (fun i => (d.windowList i).isNone)

def registerEventWindow (w : Nat) (s : EventServer) : EventServer :=
  match s.desktop.freeSlot with
  | none => {s with desktop := registerWindow w s.desktop}
  | some slot => {s with desktop := registerWindow w s.desktop, id := Function.update s.id w (Int32.ofNat slot)}

-- The checks of a wid that the three functions share: its range, the entry of
-- windowList and the magic of the window.
def EventServer.validWindow (s : EventServer) (wid : Int32) : Option Nat :=
  if wid < 0 then none
  else if windowCountMax ≤ wid.toNatClampNeg then none
  else (s.desktop.windowList wid.toNatClampNeg).filter fun w => (s.desktop.window w).magic = 1234

-- (unsigned long) (value & 0xFFFFFFFF)
def masked (value : Int32) : UInt64 := value.toUInt32.toUInt64

def windowPostMessage (wid eventType : Int32) (long1 long2 : UInt64) (s : EventServer) : Int32 × EventServer :=
  if eventType < 0 then (-1,s)
  else
    match s.validWindow wid with
    | none => (-1,s)
    | some w => (0,s.setQueue w ((s.queue w).post ⟨masked wid,masked eventType,long1,long2⟩))

-- One turn of the loop of window_post_message_broadcast.
def broadcastEvent (eventType : Int32) (long1 long2 : UInt64) (sent : Int32 × EventServer) (i : Nat) : Int32 × EventServer :=
  match sent.2.desktop.windowList i with
  | none => sent
  | some w =>
      if sent.2.desktop.Overlapped w then (sent.1+1,(windowPostMessage (sent.2.id w) eventType long1 long2 sent.2).2)
      else sent

def windowPostMessageBroadcast (_wid eventType : Int32) (long1 long2 : UInt64) (s : EventServer) : Int32 × EventServer :=
  if eventType < 0 then (-1,s)
  else (List.range windowCountMax).foldl (broadcastEvent eventType long1 long2) (0,s)

def eventResponse (old : Nat → UInt64) (event : WindowEvent) : Nat → UInt64
  | 1 => serverPacketTypeEvent
  | 2 => 1234
  | 3 => 5678
  | 4 => event.wid
  | 5 => event.msg
  | 6 => event.long1
  | 7 => event.long2
  | i => if i < 32 then 0 else old i

-- message_address[0] & 0xFFFFFFFF as an int.
def requestedWid (message0 : UInt64) : Int32 := message0.toUInt32.toInt32

def serviceNextEvent (message0 : UInt64) (s : EventServer) : Int32 × EventServer :=
  match s.validWindow (requestedWid message0) with
  | none => (-1,s)
  | some w =>
      let event := (s.queue w).slot (s.queue w).evHead
      (0,{s.setQueue w (s.queue w).take with nextResponse := eventResponse s.nextResponse event})

-- What a client finds in the response: a message code of 0 stands for no event.
def receivedEvent (response : Nat → UInt64) : Option WindowEvent :=
  if response 5 = 0 then none else some ⟨response 4,response 5,response 6,response 7⟩

-- The cells of the queue that hold an event, with the two cursors.
def EventQueue.ring (q : EventQueue) : Ring.Buffer WindowEvent where
  cell := fun i => if q.evMsg i = 0 then none else some (q.slot i)
  head := q.evHead
  tail := q.evTail

theorem put_cell (q : EventQueue) (i : Nat) (event : WindowEvent) :
    (q.put i event).ring.cell = Function.update q.ring.cell i (if event.msg = 0 then none else some event) := by
  funext j
  by_cases here : j = i
  · subst here
    simp [EventQueue.ring,EventQueue.put,EventQueue.slot]
  · simp [EventQueue.ring,EventQueue.put,EventQueue.slot,Function.update_of_ne here]

theorem masked_ne_zero {value : Int32} (positive : 0 < value) : masked value ≠ 0 := by
  intro zero
  have unsigned := Int32.le_of_lt positive
  have bits : value.toUInt32.toNat = 0 := by simpa [masked] using congrArg UInt64.toNat zero
  rw [Int32.toNat_toUInt32_of_le unsigned] at bits
  have signed := Int32.cast_toNatClampNeg value unsigned
  rw [bits] at signed
  rw [Int32.lt_iff_toInt_lt,← signed] at positive
  exact absurd positive (by decide)

theorem post_ring (q : EventQueue) (wid long1 long2 : UInt64) (positive : 0 < eventType) :
    (q.post ⟨wid,masked eventType,long1,long2⟩).ring =
      Ring.write windowEventsMax q.ring (some ⟨wid,masked eventType,long1,long2⟩) := by
  have cells := put_cell q q.evTail ⟨wid,masked eventType,long1,long2⟩
  rw [if_neg (masked_ne_zero positive)] at cells
  unfold Ring.write
  rw [show q.ring.tail = q.evTail from rfl,← cells]
  rfl

theorem take_ring (q : EventQueue) : q.take.ring = Ring.poll windowEventsMax q.ring := by
  have cells := put_cell q q.evHead ⟨0,0,0,0⟩
  rw [if_pos rfl] at cells
  unfold Ring.poll
  rw [show q.ring.head = q.evHead from rfl,← cells]
  rfl

-- The response of a poll has the event of the cell at the head, or none.
theorem response_event (old : Nat → UInt64) (q : EventQueue) :
    receivedEvent (eventResponse old (q.slot q.evHead)) = q.ring.cell q.ring.head := rfl

-- Every listed window has its slot as its id.
structure EventServer.Listed (s : EventServer) : Prop where
  made : ∀ i w, s.desktop.windowList i = some w → s.desktop.created w = true
  numbered : ∀ i w, i < windowCountMax → s.desktop.windowList i = some w → s.id w = Int32.ofNat i

-- The window at the address a stands in a slot of the list.
structure EventServer.Serves (s : EventServer) (a slot : Nat) : Prop where
  listed : s.Listed
  inside : slot < windowCountMax
  here : s.desktop.windowList slot = some a
  magic : (s.desktop.window a).magic = 1234

theorem freeSlot_found {d : Desktop} (found : d.freeSlot = some slot) :
    slot < windowCountMax ∧ d.windowList slot = none ∧
      (registerWindow w d).windowList = Function.update d.windowList slot (some w) := by
  unfold Desktop.freeSlot at found
  split at found
  · cases found
  · rename_i room
    have member := List.mem_range.mp (List.mem_of_find?_eq_some found)
    have free := List.find?_some found
    refine ⟨member,by simpa using free,?_⟩
    simp [registerWindow,room,found]

theorem registerWindow_kept (w : Nat) (d : Desktop) :
    (registerWindow w d).window = d.window ∧ (registerWindow w d).created = d.created := by
  simp only [registerWindow]
  split
  · exact ⟨rfl,rfl⟩
  · split
    · exact ⟨rfl,rfl⟩
    · exact ⟨rfl,rfl⟩

-- What doCreateWindow and RegisterWindow together make of a new window.
theorem created_serves (type : Nat) (parent : Option Nat) {s : EventServer} (listed : s.Listed) (new : s.desktop.created a = false)
    (found : s.desktop.freeSlot = some slot) :
    (registerEventWindow a (doCreateWindow a type parent s)).Serves a slot ∧
      (registerEventWindow a (doCreateWindow a type parent s)).queue a = {} := by
  have found' : (doCreateWindow a type parent s).desktop.freeSlot = some slot := found
  obtain ⟨inside,free,list⟩ := freeSlot_found (w := a) found'
  obtain ⟨windows,created⟩ := registerWindow_kept a (doCreateWindow a type parent s).desktop
  have unlisted : ∀ i w, s.desktop.windowList i = some w → w ≠ a := by
    intro i w entry same
    subst same
    have was := listed.made i w entry
    rw [new] at was
    cases was
  simp only [registerEventWindow,found']
  refine ⟨⟨⟨?_,?_⟩,inside,?_,?_⟩,?_⟩
  · intro i w entry
    simp only [list,created] at entry ⊢
    by_cases same : w = a
    · simp [doCreateWindow,createWindow,same]
    · have other : i ≠ slot := by
        intro equal
        subst equal
        rw [Function.update_self] at entry
        exact same (Option.some.inj entry).symm
      rw [Function.update_of_ne other] at entry
      simpa [doCreateWindow,createWindow,Function.update_of_ne same] using listed.made i w entry
  · intro i w valid entry
    simp only [list] at entry
    by_cases equal : i = slot
    · subst equal
      rw [Function.update_self] at entry
      cases entry
      exact Function.update_self ..
    · rw [Function.update_of_ne equal] at entry
      have other := unlisted i w entry
      simpa [doCreateWindow,Function.update_of_ne other] using listed.numbered i w valid entry
  · simp only [list]
    exact Function.update_self ..
  · simp only [windows]
    simp [doCreateWindow,createWindow,Desktop.setWindow]
  · simp [doCreateWindow]

theorem slot_toNat (inside : slot < windowCountMax) : (Int32.ofNat slot).toNatClampNeg = slot :=
  Int32.toNatClampNeg_ofNat_of_lt (Nat.lt_trans inside (by decide))

theorem slot_not_negative (inside : slot < windowCountMax) : ¬ Int32.ofNat slot < 0 := by
  rw [Int32.lt_iff_toInt_lt,Int32.toInt_ofNat_of_lt (Nat.lt_trans inside (by decide))]
  simp

-- In a list of numbered windows a wid is valid for the window that has it as its id.
theorem EventServer.Listed.valid {s : EventServer} (listed : s.Listed) (found : s.validWindow wid = some w) : s.id w = wid := by
  unfold EventServer.validWindow at found
  split at found
  · cases found
  · split at found
    · cases found
    · rename_i low high
      have entry := (Option.filter_eq_some_iff.mp found).1
      rw [listed.numbered _ _ (Nat.not_le.mp high) entry]
      exact Int32.ofNat_toNatClampNeg wid (Int32.not_lt.mp low)

theorem EventServer.Serves.number {s : EventServer} (serves : s.Serves a slot) : s.id a = Int32.ofNat slot :=
  serves.listed.numbered slot a serves.inside serves.here

theorem EventServer.Serves.valid_iff {s : EventServer} (serves : s.Serves a slot) : s.validWindow wid = some a ↔ wid = s.id a := by
  constructor
  · intro found
    exact (serves.listed.valid found).symm
  · intro same
    rw [same,serves.number,EventServer.validWindow,if_neg (slot_not_negative serves.inside),slot_toNat serves.inside,
      if_neg (Nat.not_le.mpr serves.inside),serves.here]
    simp [serves.magic]

theorem EventServer.Serves.kept {s t : EventServer} (serves : s.Serves a slot) (desktop : t.desktop = s.desktop) (id : t.id = s.id) :
    t.Serves a slot := by
  refine ⟨⟨?_,?_⟩,serves.inside,?_,?_⟩
  · rw [desktop]; exact serves.listed.made
  · rw [desktop,id]; exact serves.listed.numbered
  · rw [desktop]; exact serves.here
  · rw [desktop]; exact serves.magic

-- A posted event goes into the queue of the window with that id.
theorem post_valid {s : EventServer} (found : s.validWindow wid = some w) (positive : 0 < eventType) :
    windowPostMessage wid eventType long1 long2 s =
      (0,s.setQueue w ((s.queue w).post ⟨masked wid,masked eventType,long1,long2⟩)) := by
  have signed : ¬ eventType < 0 := Int32.not_lt.mpr (Int32.le_of_lt positive)
  simp [windowPostMessage,signed,found]

theorem post_kept (wid eventType : Int32) (long1 long2 : UInt64) (s : EventServer) :
    (windowPostMessage wid eventType long1 long2 s).2.desktop = s.desktop ∧
      (windowPostMessage wid eventType long1 long2 s).2.id = s.id := by
  unfold windowPostMessage
  split
  · exact ⟨rfl,rfl⟩
  · split
    · exact ⟨rfl,rfl⟩
    · exact ⟨rfl,rfl⟩

theorem post_queue {s : EventServer} (serves : s.Serves a slot) (positive : 0 < eventType) :
    (windowPostMessage wid eventType long1 long2 s).2.queue a =
      if wid = s.id a then (s.queue a).post ⟨masked wid,masked eventType,long1,long2⟩ else s.queue a := by
  have signed : ¬ eventType < 0 := Int32.not_lt.mpr (Int32.le_of_lt positive)
  split
  · rename_i same
    rw [post_valid (serves.valid_iff.mpr same) positive]
    simp [EventServer.setQueue]
  · rename_i other
    simp only [windowPostMessage,if_neg signed]
    cases found : s.validWindow wid with
    | none => rfl
    | some w =>
        have apart : a ≠ w := by
          intro same
          subst same
          exact other (serves.valid_iff.mp found)
        simp [EventServer.setQueue,Function.update_of_ne apart]

theorem broadcastEvent_kept (eventType : Int32) (long1 long2 : UInt64) (sent : Int32 × EventServer) (i : Nat) :
    (broadcastEvent eventType long1 long2 sent i).2.desktop = sent.2.desktop ∧
      (broadcastEvent eventType long1 long2 sent i).2.id = sent.2.id := by
  unfold broadcastEvent
  split
  · exact ⟨rfl,rfl⟩
  · split
    · exact post_kept ..
    · exact ⟨rfl,rfl⟩

-- A turn of the loop posts to the window of its slot alone.
theorem broadcastEvent_queue (long1 long2 : UInt64) {sent : Int32 × EventServer} (serves : sent.2.Serves a slot)
    (positive : 0 < eventType) (valid : i < windowCountMax) :
    (broadcastEvent eventType long1 long2 sent i).2.queue a =
      if i = slot ∧ sent.2.desktop.Overlapped a then
        (sent.2.queue a).post ⟨masked (sent.2.id a),masked eventType,long1,long2⟩
      else sent.2.queue a := by
  by_cases same : i = slot
  · subst same
    by_cases overlapped : sent.2.desktop.Overlapped a
    · simp [broadcastEvent,serves.here,overlapped,post_queue serves positive]
    · simp [broadcastEvent,serves.here,overlapped]
  · rw [if_neg (fun both => same both.1)]
    unfold broadcastEvent
    split
    · rfl
    · rename_i w entry
      split
      · rw [post_queue serves positive,if_neg]
        rw [serves.number,serves.listed.numbered i w valid entry]
        intro equal
        have numbers := congrArg Int32.toNatClampNeg equal
        rw [slot_toNat valid,slot_toNat serves.inside] at numbers
        exact same numbers
      · rfl

-- The loop posts once to the window if it meets its slot, by induction on the slots.
theorem broadcast_loop (long1 long2 : UInt64) (slots : List Nat) (sent : Int32 × EventServer) (serves : sent.2.Serves a slot)
    (positive : 0 < eventType) (valid : ∀ i ∈ slots, i < windowCountMax) (once : slots.Nodup) :
    (slots.foldl (broadcastEvent eventType long1 long2) sent).2.desktop = sent.2.desktop ∧
      (slots.foldl (broadcastEvent eventType long1 long2) sent).2.id = sent.2.id ∧
      (slots.foldl (broadcastEvent eventType long1 long2) sent).2.queue a =
        if slot ∈ slots ∧ sent.2.desktop.Overlapped a then
          (sent.2.queue a).post ⟨masked (sent.2.id a),masked eventType,long1,long2⟩
        else sent.2.queue a := by
  induction slots generalizing sent with
  | nil => simp
  | cons i rest ih =>
      obtain ⟨fresh,once⟩ := List.nodup_cons.mp once
      obtain ⟨desktop,id⟩ := broadcastEvent_kept eventType long1 long2 sent i
      have here := broadcastEvent_queue long1 long2 serves positive (valid i (by simp))
      obtain ⟨lasting,numbers,later⟩ := ih _ (serves.kept desktop id) (fun j member => valid j (by simp [member])) once
      refine ⟨lasting.trans desktop,numbers.trans id,?_⟩
      rw [List.foldl_cons,later,desktop,id,here]
      by_cases same : i = slot
      · subst same
        simp [fresh]
      · simp [same,Ne.symm same]

theorem broadcast_queue (wid : Int32) (long1 long2 : UInt64) {s : EventServer} (serves : s.Serves a slot) (positive : 0 < eventType) :
    (windowPostMessageBroadcast wid eventType long1 long2 s).2.Serves a slot ∧
      (windowPostMessageBroadcast wid eventType long1 long2 s).2.id = s.id ∧
      (windowPostMessageBroadcast wid eventType long1 long2 s).2.queue a =
        if s.desktop.Overlapped a then (s.queue a).post ⟨masked (s.id a),masked eventType,long1,long2⟩ else s.queue a := by
  have signed : ¬ eventType < 0 := Int32.not_lt.mpr (Int32.le_of_lt positive)
  have loop := broadcast_loop long1 long2 (List.range windowCountMax) (0,s) serves positive
    (fun i member => List.mem_range.mp member) List.nodup_range
  simp only [windowPostMessageBroadcast,if_neg signed]
  obtain ⟨desktop,id,queue⟩ := loop
  exact ⟨serves.kept desktop id,id,by simpa [List.mem_range,serves.inside] using queue⟩

-- A request is answered from the queue of the window with the requested id.
theorem next_queue (message0 : UInt64) {s : EventServer} (serves : s.Serves a slot) :
    (serviceNextEvent message0 s).2.Serves a slot ∧ (serviceNextEvent message0 s).2.id = s.id ∧
      (serviceNextEvent message0 s).2.queue a = if requestedWid message0 = s.id a then (s.queue a).take else s.queue a := by
  unfold serviceNextEvent
  cases found : s.validWindow (requestedWid message0) with
  | none =>
      have other : requestedWid message0 ≠ s.id a := by
        intro same
        rw [serves.valid_iff.mpr same] at found
        cases found
      exact ⟨serves,rfl,(if_neg other).symm⟩
  | some w =>
      refine ⟨serves.kept rfl rfl,rfl,?_⟩
      have named := serves.listed.valid found
      by_cases same : a = w
      · subst same
        simp [EventServer.setQueue,named]
      · have other : requestedWid message0 ≠ s.id a := by
          intro equal
          rw [serves.valid_iff.mpr equal] at found
          exact same (Option.some.inj found)
        simp [EventServer.setQueue,Function.update_of_ne same,other]

theorem next_event {s : EventServer} (serves : s.Serves a slot) (asked : requestedWid message0 = s.id a) :
    (serviceNextEvent message0 s).1 = 0 ∧
      receivedEvent (serviceNextEvent message0 s).2.nextResponse = (s.queue a).ring.cell (s.queue a).ring.head := by
  have found := serves.valid_iff.mpr asked
  simp only [serviceNextEvent,found]
  exact ⟨trivial,response_event _ _⟩

inductive EventCall where
  | post (wid eventType : Int32) (long1 long2 : UInt64)
  | broadcast (wid eventType : Int32) (long1 long2 : UInt64)
  | next (message0 : UInt64)

def EventCall.on : EventCall → EventServer → Int32 × EventServer
  | .post wid eventType long1 long2 => windowPostMessage wid eventType long1 long2
  | .broadcast wid eventType long1 long2 => windowPostMessageBroadcast wid eventType long1 long2
  | .next message0 => serviceNextEvent message0

def EventCall.Coded : EventCall → Prop
  | .post _ eventType _ _ => 0 < eventType
  | .broadcast _ eventType _ _ => 0 < eventType
  | .next _ => True

-- The events that a call posts to a window, and those that it answers its client with.
structure Traffic where
  posted : List WindowEvent := []
  received : List WindowEvent := []
  deriving DecidableEq

def EventCall.traffic (a : Nat) (s : EventServer) (call : EventCall) : Traffic :=
  match call with
  | .post wid eventType long1 long2 =>
      if wid = s.id a then {posted := [⟨masked wid,masked eventType,long1,long2⟩]} else {}
  | .broadcast _ eventType long1 long2 =>
      if s.desktop.Overlapped a then {posted := [⟨masked (s.id a),masked eventType,long1,long2⟩]} else {}
  | .next message0 =>
      if requestedWid message0 = s.id a then {received := (receivedEvent (call.on s).2.nextResponse).toList} else {}

-- A window right after doCreateWindow and RegisterWindow, the windows before it in their slots.
def Created (a : Nat) (s : EventServer) : Prop :=
  ∃ earlier type parent, earlier.Listed ∧ earlier.desktop.created a = false ∧ earlier.desktop.freeSlot.isSome ∧
    s = registerEventWindow a (doCreateWindow a type parent earlier)

inductive EventStep (a : Nat) : EventServer → Traffic → EventServer → Prop where
  | call (call : EventCall) (coded : call.Coded) : EventStep a s (call.traffic a s) (call.on s).2

-- A step that keeps the order: no post at a moment when the two cursors are equal
-- and an event is unread.
structure ApartStep (a : Nat) (s : EventServer) (traffic : Traffic) (t : EventServer) : Prop where
  step : EventStep a s traffic t
  apart : traffic.posted ≠ [] → (s.queue a).evHead = (s.queue a).evTail → ∀ i < windowEventsMax, (s.queue a).evMsg i = 0

-- What a call does to the queue of one window: it adds the event that it posts there, it
-- answers with the cell at the head, or it leaves the queue alone.
inductive Turns (b : Ring.Buffer WindowEvent) : Traffic → Ring.Buffer WindowEvent → Prop where
  | added : Turns b {posted := [event]} (Ring.write windowEventsMax b (some event))
  | polled : Turns b {received := (b.cell b.head).toList} (Ring.poll windowEventsMax b)
  | quiet : Turns b {} b

theorem call_turns {s : EventServer} (serves : s.Serves a slot) {call : EventCall} (coded : call.Coded) :
    (call.on s).2.Serves a slot ∧ (call.on s).2.id = s.id ∧
      Turns (s.queue a).ring (call.traffic a s) ((call.on s).2.queue a).ring := by
  cases call with
  | post wid eventType long1 long2 =>
      obtain ⟨desktop,id⟩ := post_kept wid eventType long1 long2 s
      refine ⟨serves.kept desktop id,id,?_⟩
      simp only [EventCall.on,EventCall.traffic,post_queue serves coded]
      split
      · rw [post_ring _ _ _ _ coded]
        exact .added
      · exact .quiet
  | broadcast wid eventType long1 long2 =>
      obtain ⟨still,id,queue⟩ := broadcast_queue wid long1 long2 serves coded
      refine ⟨still,id,?_⟩
      simp only [EventCall.on,EventCall.traffic,queue]
      split
      · rw [post_ring _ _ _ _ coded]
        exact .added
      · exact .quiet
  | next message0 =>
      obtain ⟨still,id,queue⟩ := next_queue message0 serves
      refine ⟨still,id,?_⟩
      simp only [EventCall.on,EventCall.traffic,queue]
      split
      · rename_i asked
        rw [(next_event serves asked).2,take_ring]
        exact .polled
      · exact .quiet

def postedEvents (events : List Traffic) : List WindowEvent := events.flatMap Traffic.posted
def receivedEvents (events : List Traffic) : List WindowEvent := events.flatMap Traffic.received

-- The unread events stand in posting order in one window that ends at the tail, and
-- together with the received ones they are the posted ones.
def InTransit (a : Nat) (events : List Traffic) (s : EventServer) : Prop :=
  ∃ slot start unread, s.Serves a slot ∧ Ring.Window windowEventsMax (s.queue a).ring start unread ∧
    postedEvents events = receivedEvents events ++ unread

theorem created_inTransit (created : Created a s) : InTransit a [] s := by
  obtain ⟨earlier,type,parent,listed,new,room,rfl⟩ := created
  obtain ⟨slot,found⟩ := Option.isSome_iff_exists.mp room
  obtain ⟨serves,queue⟩ := created_serves type parent listed new found
  refine ⟨slot,0,[],serves,?_,rfl⟩
  rw [queue]
  exact Ring.window_empty (by decide)

theorem step_inTransit (transit : InTransit a events s) (step : ApartStep a s traffic t) : InTransit a (events ++ [traffic]) t := by
  obtain ⟨slot,start,unread,serves,window,same⟩ := transit
  obtain ⟨⟨call,coded⟩,apart⟩ := step
  obtain ⟨still,_,turns⟩ := call_turns serves coded
  simp only [InTransit,postedEvents,receivedEvents,List.flatMap_append,List.flatMap_singleton] at same ⊢
  generalize (call.on s).2.queue a = q' at turns ⊢
  generalize call.traffic a s = traffic at apart turns ⊢
  generalize ring : q'.ring = b' at turns ⊢
  cases turns with
  | added =>
      rename_i event
      have clear : (s.queue a).ring.head = (s.queue a).ring.tail → unread = [] := by
        intro equal
        rw [← window.clear_iff]
        intro j valid
        simp [EventQueue.ring,apart (by simp) equal j valid]
      obtain ⟨start',longer⟩ := window.extend (x := event) clear
      exact ⟨slot,start',unread ++ [event],still,longer,by simp [same]⟩
  | polled =>
      rcases window.advance with ⟨x,rest,rfl,here,shorter⟩ | ⟨clear,waiting⟩
      · exact ⟨slot,_,rest,still,shorter,by simp [same,here]⟩
      · exact ⟨slot,start,unread,still,waiting,by simp [same,clear]⟩
  | quiet => exact ⟨slot,start,unread,still,window,by simp [same]⟩

theorem reached_inTransit (created : Created a s) (path : Runs.Path (ApartStep a) s events t) : InTransit a events t :=
  path.history (InTransit a) (fun _ _ _ _ transit step => step_inTransit transit step) (created_inTransit created)

-- The events of a number of requests in a row.
def nextEvents (message0 : UInt64) : Nat → EventServer → List WindowEvent
  | 0,_ => []
  | count+1,s =>
      let (_,t) := serviceNextEvent message0 s
      (receivedEvent t.nextResponse).toList ++ nextEvents message0 count t

theorem nextEvents_polls (count : Nat) (serves : s.Serves a slot) (asked : requestedWid message0 = s.id a) :
    nextEvents message0 count s = (Ring.polls windowEventsMax count (s.queue a).ring).1 := by
  induction count generalizing s with
  | zero => rfl
  | succ count ih =>
      obtain ⟨still,id,queue⟩ := next_queue message0 serves
      have later := ih still (by rw [id]; exact asked)
      rw [queue,if_pos asked,take_ring] at later
      simp only [nextEvents,Ring.polls,later,(next_event serves asked).2]

-- A post while the cursors are equal lands in the cell that the next request reads.
theorem overtaking_event (serves : s.Serves a slot) {call : EventCall} (coded : call.Coded)
    (posts : (call.traffic a s).posted = [event]) (meet : (s.queue a).evHead = (s.queue a).evTail)
    (asked : requestedWid message0 = s.id a) : nextEvents message0 1 (call.on s).2 = [event] := by
  obtain ⟨still,id,turns⟩ := call_turns serves coded
  rw [nextEvents_polls 1 still (by rw [id]; exact asked)]
  generalize (call.on s).2.queue a = q' at turns ⊢
  generalize call.traffic a s = traffic at posts turns
  generalize ring : q'.ring = b' at turns ⊢
  cases turns with
  | added =>
      cases posts
      have equal : (s.queue a).ring.head = (s.queue a).ring.tail := meet
      simp [Ring.polls,Ring.write,equal]
  | polled => cases posts
  | quiet => cases posts

-- The client receives the posted events once and in their order, with their words, as
-- long as no event is posted while the cursors are equal and another one is unread.
-- After such a post the newest event comes first.
theorem events_in_order (created : Created a s) (path : Runs.Path (ApartStep a) s events t) :
    ∃ unread, postedEvents events = receivedEvents events ++ unread ∧ unread.length ≤ windowEventsMax ∧
      (∀ message0, requestedWid message0 = t.id a → nextEvents message0 windowEventsMax t = unread) ∧
      ∀ call : EventCall, call.Coded → ∀ event, (call.traffic a t).posted = [event] →
        (t.queue a).evHead = (t.queue a).evTail → unread ≠ [] →
        ∀ message0, requestedWid message0 = t.id a → nextEvents message0 1 (call.on t).2 = [event] := by
  obtain ⟨slot,start,unread,serves,window,same⟩ := reached_inTransit created path
  refine ⟨unread,same,window.fits,?_,?_⟩
  · intro message0 asked
    rw [nextEvents_polls _ serves asked,window.swept]
  · intro call coded event posts meet _ message0 asked
    exact overtaking_event serves coded posts meet asked

def startedServer : EventServer where
  desktop := bootDesktop
  id := fun _ => 0
  queue := fun _ => {}
  nextResponse := fun _ => 0

-- The first window, an overlapped one. Its wid is 0.
def firstWindowMade : EventServer := registerEventWindow 5 (doCreateWindow 5 wtOverlapped none startedServer)

theorem startedServer_listed : startedServer.Listed := by
  refine ⟨?_,?_⟩
  · intro i w entry
    cases entry
  · intro i w _ entry
    cases entry

def openEvent : EventCall := .post 0 20 1 2
def closeEvent : EventCall := .post 0 21 3 4
def askEvent : EventCall := .next 0

def afterEvents (calls : List EventCall) : EventServer := calls.foldl (fun s call => (call.on s).2) firstWindowMade

theorem firstWindow_created : Created 5 (afterEvents []) ∧ (afterEvents []).queue 5 = {} := by
  simp only [afterEvents,List.foldl_nil,firstWindowMade]
  have found : startedServer.desktop.freeSlot = some 0 := by decide +kernel
  exact ⟨⟨startedServer,wtOverlapped,none,startedServer_listed,rfl,by rw [found]; rfl,rfl⟩,
    (created_serves wtOverlapped none startedServer_listed rfl found).2⟩

theorem afterEvents_step (calls : List EventCall) (call : EventCall) (coded : call.Coded)
    (traffic : call.traffic 5 (afterEvents calls) = expected) :
    EventStep 5 (afterEvents calls) expected (afterEvents (calls ++ [call])) := by
  have step := EventStep.call (a := 5) (s := afterEvents calls) call coded
  rw [traffic] at step
  simpa [afterEvents] using step

theorem event_received : Created 5 (afterEvents []) ∧
    Runs.Path (ApartStep 5) (afterEvents []) [{posted := [⟨0,20,1,2⟩]}] (afterEvents [openEvent]) ∧
    nextEvents 0 windowEventsMax (afterEvents [openEvent]) = [⟨0,20,1,2⟩] := by
  have step : EventStep 5 (afterEvents []) {posted := [⟨0,20,1,2⟩]} (afterEvents ([] ++ [openEvent])) :=
    afterEvents_step [] openEvent (show (0 : Int32) < 20 by decide) (by decide +kernel)
  have path : Runs.Path (ApartStep 5) (afterEvents []) [{posted := [⟨0,20,1,2⟩]}] (afterEvents [openEvent]) :=
    .step .nil ⟨step,fun _ _ => by rw [firstWindow_created.2]; exact fun _ _ => rfl⟩
  obtain ⟨unread,same,_,swept,_⟩ := events_in_order firstWindow_created.1 path
  have all : unread = [⟨0,20,1,2⟩] := same.symm
  exact ⟨firstWindow_created.1,path,(swept 0 (by decide +kernel)).trans all⟩

-- After one request that finds nothing the client's cursor stands one cell ahead, and
-- the second of two events comes first.
def overtakenEvents : List Traffic :=
  [{},{posted := [⟨0,20,1,2⟩]},{posted := [⟨0,21,3,4⟩]},{received := [⟨0,21,3,4⟩]}]

theorem second_event_first : Created 5 (afterEvents []) ∧
    Runs.Path (EventStep 5) (afterEvents []) overtakenEvents (afterEvents [askEvent,openEvent,closeEvent,askEvent]) ∧
    (postedEvents overtakenEvents).length ≤ windowEventsMax ∧
    ¬ ∃ unread, postedEvents overtakenEvents = receivedEvents overtakenEvents ++ unread := by
  refine ⟨firstWindow_created.1,?_,by decide,?_⟩
  · have asked : EventStep 5 (afterEvents []) {} (afterEvents ([] ++ [askEvent])) :=
      afterEvents_step _ _ trivial (by decide +kernel)
    have opened : EventStep 5 (afterEvents [askEvent]) {posted := [⟨0,20,1,2⟩]} (afterEvents ([askEvent] ++ [openEvent])) :=
      afterEvents_step _ _ (show (0 : Int32) < 20 by decide) (by decide +kernel)
    have closed : EventStep 5 (afterEvents [askEvent,openEvent]) {posted := [⟨0,21,3,4⟩]}
        (afterEvents ([askEvent,openEvent] ++ [closeEvent])) :=
      afterEvents_step _ _ (show (0 : Int32) < 21 by decide) (by decide +kernel)
    have taken : EventStep 5 (afterEvents [askEvent,openEvent,closeEvent]) {received := [⟨0,21,3,4⟩]}
        (afterEvents ([askEvent,openEvent,closeEvent] ++ [askEvent])) := afterEvents_step _ _ trivial (by decide +kernel)
    exact .step (.step (.step (.step .nil asked) opened) closed) taken
  · rintro ⟨unread,same⟩
    have first : some ⟨0,20,1,2⟩ = some (⟨0,21,3,4⟩ : WindowEvent) := congrArg List.head? same
    revert first
    decide

end GramadoKernel
