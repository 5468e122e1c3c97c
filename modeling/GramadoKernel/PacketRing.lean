import GramadoKernel.Library.Ring
import GramadoKernel.StreamBuffer

namespace GramadoKernel

def networkBuffersMax : Nat := 32
def packetMax : Int := 1500

-- struct network_buffer_d. networkInit has a page for every buffer before it sets
-- `initialized`.
structure NetworkBuffer where
  initialized : Bool
  receiveTail : Nat
  receiveHead : Nat
  buffers : Nat → Int → UInt8
  isFull : Nat → Bool

def networkBufferBuilt (pages : Nat → Int → UInt8) : NetworkBuffer := ⟨true,0,0,pages,fun _ => false⟩

def networkPushPacket (b : NetworkBuffer) (srcBuffer : Option (Nat → UInt8)) (len : Int) : Except Halt (Int × NetworkBuffer) := do
  let src ← pointer srcBuffer (.panic "network_push_packet: src_buffer\n")
  let len := if packetMax < len then packetMax else len
  require (b.initialized = true) (.panic "network_push_packet: Shared buffers not initialized\n")
  let tail := b.receiveTail
  let b := {b with receiveTail := Ring.next networkBuffersMax tail}
  require (tail < networkBuffersMax) (.panic "network_push_packet: tail\n")
  -- Whether the buffer is full is looked at, but it is stored over.
  .ok (len,{b with
    buffers := Function.update b.buffers tail (memcpy (b.buffers tail) 0 src (memcpyLength len))
    isFull := Function.update b.isFull tail true})

-- The bytes are those copied to the user buffer, where there is a copy. The head
-- moves on before the buffer is looked at.
def networkPopPacket (b : NetworkBuffer) (uBuffer : UInt64) (len : Int) : Except Halt (Int × Option (List UInt8) × NetworkBuffer) := do
  require (uBuffer ≠ 0) (.panic "network_pop_packet: [FAIL] u_buffer\n")
  let len := if packetMax < len then packetMax else len
  require (b.initialized = true) (.panic "network_pop_packet: Shared buffers not initialized\n")
  let head := b.receiveHead
  let b := {b with receiveHead := Ring.next networkBuffersMax head}
  require (head < networkBuffersMax) (.panic "network_push_packet: head\n")
  if b.isFull head = false then .ok (0,none,b)
  else .ok (len,some (bytesAt (b.buffers head) 0 (memcpyLength len)),{b with isFull := Function.update b.isFull head false})

-- The packet of a push.
def packetOf (src : Nat → UInt8) (len : Int) : List UInt8 := (List.range len.toNat).map src

-- The ring with the packets pushed and not yet popped, oldest first.
structure Outstanding where
  ring : NetworkBuffer
  unread : List (List UInt8)

inductive PacketEvent where
  | pushed (packet : List UInt8) (value : Int)
  | popped (request value : Int) (given : Option (List UInt8))

-- Any interleaving of the two calls, while at most 32 packets are unread.
inductive PacketStep : Outstanding → PacketEvent → Outstanding → Prop where
  | push {t : Outstanding} {src : Nat → UInt8} {len rv : Int} {ring : NetworkBuffer} (low : 0 ≤ len) (high : len ≤ packetMax)
      (room : t.unread.length < networkBuffersMax) (called : networkPushPacket t.ring (some src) len = .ok (rv,ring)) :
      PacketStep t (.pushed (packetOf src len) rv) ⟨ring,t.unread ++ [packetOf src len]⟩
  | pop {t : Outstanding} {uBuffer : UInt64} {len rv : Int} {given : Option (List UInt8)} {ring : NetworkBuffer}
      (called : networkPopPacket t.ring uBuffer len = .ok (rv,given,ring)) :
      PacketStep t (.popped len rv given) ⟨ring,if t.ring.isFull t.ring.receiveHead = true then t.unread.tail else t.unread⟩

-- A push goes to a buffer without an unread packet. A pop of a full buffer is a pop
-- of the oldest unread packet, with as many of its bytes as are requested.
def PacketInOrder (t : Outstanding) : PacketEvent → Prop
  | .pushed packet value => value = packet.length ∧ t.ring.isFull t.ring.receiveTail = false
  | .popped request value given =>
      if t.ring.isFull t.ring.receiveHead = true then
        ∃ packet rest, t.unread = packet :: rest ∧ value = min (packet.length : Int) request ∧ given = some (packet.take value.toNat)
      else value = 0 ∧ given = none

theorem inOrder_full {t : Outstanding} (full : t.ring.isFull t.ring.receiveHead = true) {request value : Int} {given : Option (List UInt8)} :
    PacketInOrder t (.popped request value given) ↔
      ∃ packet rest, t.unread = packet :: rest ∧ value = min (packet.length : Int) request ∧ given = some (packet.take value.toNat) := by
  rw [PacketInOrder,if_pos full]

-- A push does not find head and tail at one place while packets are unread, and a
-- pop does not ask for more than the packet has.
def Orderly (t : Outstanding) : PacketEvent → Prop
  | .pushed _ _ => t.ring.receiveHead = t.ring.receiveTail → ∀ i < networkBuffersMax, t.ring.isFull i = false
  | .popped request _ _ => t.ring.isFull t.ring.receiveHead = true → ∀ packet ∈ t.unread.head?, 0 ≤ request ∧ min request packetMax ≤ packet.length

-- The ring as a view of the buffers, where a full one has its packet.
structure Viewed (b : NetworkBuffer) (r : Ring.Buffer (List UInt8)) : Prop where
  initialized : b.initialized = true
  head : r.head = b.receiveHead
  tail : r.tail = b.receiveTail
  full : ∀ i < networkBuffersMax, b.isFull i = (r.cell i).isSome
  held : ∀ i < networkBuffersMax, ∀ packet, r.cell i = some packet →
    bytesAt (b.buffers i) 0 packet.length = packet ∧ (packet.length : Int) ≤ packetMax

-- Every unread packet is in a full buffer, in order around the ring.
structure InRing (t : Outstanding) (start : Nat) (r : Ring.Buffer (List UInt8)) : Prop where
  viewed : Viewed t.ring r
  window : Ring.Window networkBuffersMax r start t.unread

theorem packetOf_length {src : Nat → UInt8} {len : Int} (low : 0 ≤ len) : ((packetOf src len).length : Int) = len := by
  simp [packetOf,low]

theorem memcpyLength_packet {len : Int} (low : 0 ≤ len) (high : len ≤ packetMax) : memcpyLength len = len.toNat := by
  unfold packetMax at high
  rw [memcpyLength,Int.emod_eq_of_lt low (by omega)]

theorem push_viewed {b b' : NetworkBuffer} {r : Ring.Buffer (List UInt8)} (viewed : Viewed b r) {src : Nat → UInt8} {len rv : Int}
    (low : 0 ≤ len) (high : len ≤ packetMax) (called : networkPushPacket b (some src) len = .ok (rv,b')) :
    rv = len ∧ Viewed b' (Ring.write networkBuffersMax r (some (packetOf src len))) := by
  simp only [networkPushPacket,bind_ok,pointer_ok,require_ok,Except.ok.injEq,Prod.mk.injEq,Option.some.injEq] at called
  obtain ⟨_,rfl,_,_,_,inside,same,rfl⟩ := called
  rw [if_neg (by omega)] at same
  subst same
  refine ⟨rfl,viewed.initialized,viewed.head,?_,?_,?_⟩
  · rw [Ring.write,viewed.tail]
  · intro i below
    by_cases here : i = b.receiveTail
    · simp [Ring.write,viewed.tail,here]
    · simp [Ring.write,viewed.tail,here,viewed.full i below]
  · intro i below packet found
    by_cases here : i = b.receiveTail
    · simp only [Ring.write,viewed.tail,here,Function.update_self,Option.some.injEq] at found ⊢
      subst found
      have length : (packetOf src len).length = len.toNat := by simp [packetOf]
      rw [if_neg (by omega),memcpyLength_packet low high,length,bytesAt_copied _ _ _ (Nat.le_refl _)]
      exact ⟨rfl,by omega⟩
    · simp only [Ring.write,viewed.tail,Function.update_of_ne here] at found ⊢
      exact viewed.held i below packet found

theorem pop_viewed {b b' : NetworkBuffer} {r : Ring.Buffer (List UInt8)} (viewed : Viewed b r) (inside : Ring.Inside networkBuffersMax r)
    {uBuffer : UInt64} {len rv : Int} {given : Option (List UInt8)} (called : networkPopPacket b uBuffer len = .ok (rv,given,b')) :
    Viewed b' (Ring.poll networkBuffersMax r) ∧
      (r.cell r.head = none ∧ b.isFull b.receiveHead = false ∧ rv = 0 ∧ given = none ∨
      ∃ packet, r.cell r.head = some packet ∧ b.isFull b.receiveHead = true ∧ rv = min len packetMax ∧
        given = some (bytesAt (b.buffers b.receiveHead) 0 (memcpyLength (min len packetMax)))) := by
  have below : b.receiveHead < networkBuffersMax := viewed.head ▸ inside.head_lt
  have full := viewed.full _ below
  have clipped : (if packetMax < len then packetMax else len) = min len packetMax := by
    split <;> omega
  simp only [networkPopPacket,bind_ok,require_ok] at called
  obtain ⟨_,_,_,_,_,_,called⟩ := called
  cases found : r.cell r.head with
  | none =>
      rw [← viewed.head,found] at full
      have empty : b.isFull b.receiveHead = false := by
        rw [← viewed.head]
        exact full
      rw [if_pos (by simp [empty])] at called
      cases called
      have same : (Ring.poll networkBuffersMax r).cell = r.cell := by
        funext j
        rw [Ring.poll_cell]
        split
        · rename_i here
          rw [here,found]
        · rfl
      refine ⟨⟨viewed.initialized,?_,viewed.tail,?_,?_⟩,.inl ⟨rfl,empty,rfl,rfl⟩⟩
      · rw [Ring.poll,viewed.head]
      · rw [same]
        exact viewed.full
      · rw [same]
        exact viewed.held
  | some packet =>
      rw [← viewed.head,found] at full
      have stored : b.isFull b.receiveHead = true := by
        rw [← viewed.head]
        exact full
      rw [if_neg (by simp [stored]),clipped] at called
      cases called
      refine ⟨⟨viewed.initialized,?_,viewed.tail,?_,?_⟩,.inr ⟨packet,rfl,stored,rfl,rfl⟩⟩
      · rw [Ring.poll,viewed.head]
      · intro i within
        rw [Ring.poll_cell,viewed.head]
        by_cases here : i = b.receiveHead
        · simp [here]
        · simp [here,viewed.full i within]
      · intro i within p cell
        rw [Ring.poll_cell] at cell
        split at cell
        · cases cell
        · exact viewed.held i within p cell

-- The buffers are all empty exactly when nothing is unread.
theorem InRing.clear_iff {t : Outstanding} {start : Nat} {r : Ring.Buffer (List UInt8)} (stored : InRing t start r) :
    (∀ i < networkBuffersMax, t.ring.isFull i = false) ↔ t.unread = [] := by
  rw [← stored.window.clear_iff]
  constructor
  · intro clear i below
    have full := stored.viewed.full i below
    rw [clear i below] at full
    exact Option.isNone_iff_eq_none.mp (Option.isSome_eq_false_iff.mp full.symm)
  · intro clear i below
    rw [stored.viewed.full i below,clear i below]
    rfl

theorem push_stored {t : Outstanding} {start : Nat} {r : Ring.Buffer (List UInt8)} (stored : InRing t start r) {src : Nat → UInt8}
    {len rv : Int} {ring : NetworkBuffer} (low : 0 ≤ len) (high : len ≤ packetMax)
    (called : networkPushPacket t.ring (some src) len = .ok (rv,ring)) (orderly : Orderly t (.pushed (packetOf src len) rv)) :
    PacketInOrder t (.pushed (packetOf src len) rv) ∧
      ∃ start' r', InRing ⟨ring,t.unread ++ [packetOf src len]⟩ start' r' := by
  obtain ⟨rfl,viewed⟩ := push_viewed stored.viewed low high called
  have clear : r.head = r.tail → t.unread = [] := by
    intro same
    rw [stored.viewed.head,stored.viewed.tail] at same
    exact stored.clear_iff.mp (orderly same)
  have free : t.ring.isFull t.ring.receiveTail = false := by
    have vacant := stored.window.vacant _ (Nat.le_refl _) (stored.window.room clear)
    rw [← stored.window.ending] at vacant
    rw [← stored.viewed.tail,stored.viewed.full _ stored.window.inside.tail_lt,vacant]
    rfl
  obtain ⟨start',window⟩ := stored.window.extend clear
  exact ⟨⟨(packetOf_length low).symm,free⟩,start',_,viewed,window⟩

theorem pop_stored {t : Outstanding} {start : Nat} {r : Ring.Buffer (List UInt8)} (stored : InRing t start r) {uBuffer : UInt64}
    {len rv : Int} {given : Option (List UInt8)} {ring : NetworkBuffer} (called : networkPopPacket t.ring uBuffer len = .ok (rv,given,ring))
    (orderly : Orderly t (.popped len rv given)) :
    PacketInOrder t (.popped len rv given) ∧
      ∃ start' r', InRing ⟨ring,if t.ring.isFull t.ring.receiveHead = true then t.unread.tail else t.unread⟩ start' r' := by
  obtain ⟨viewed,outcome⟩ := pop_viewed stored.viewed stored.window.inside called
  rcases stored.window.advance with ⟨packet,rest,oldest,found,window⟩ | ⟨missing,window⟩
  · rcases outcome with ⟨none,_⟩ | ⟨popped,cell,full,value,bytes⟩
    · rw [found] at none
      cases none
    · rw [found] at cell
      cases cell
      obtain ⟨low,within⟩ := orderly full packet (by rw [oldest]; rfl)
      have limit := stored.viewed.held _ stored.window.inside.head_lt packet found
      rw [stored.viewed.head] at limit
      have request : min len packetMax = min (packet.length : Int) len := by omega
      have positive : 0 ≤ min len packetMax := by
        unfold packetMax
        omega
      have copied : bytesAt (t.ring.buffers t.ring.receiveHead) 0 (memcpyLength (min len packetMax)) = packet.take rv.toNat := by
        rw [memcpyLength_packet positive (by omega),bytesAt_take _ 0 (show (min len packetMax).toNat ≤ packet.length by omega),limit.1,value]
      refine ⟨?_,Ring.next networkBuffersMax start,_,viewed,?_⟩
      · refine (inOrder_full full).mpr ?_
        exact ⟨packet,rest,oldest,value.trans request,bytes.trans (congrArg some copied)⟩
      · simp only [full,if_true,oldest,List.tail_cons]
        exact window
  · rcases outcome with ⟨_,empty,value,bytes⟩ | ⟨popped,cell,_⟩
    · refine ⟨?_,start,_,viewed,?_⟩
      · rw [PacketInOrder,if_neg (by simp [empty])]
        exact ⟨value,bytes⟩
      · simp only [empty,Bool.false_eq_true,if_false]
        exact window
    · rw [missing] at cell
      cases cell

theorem packetStep_stored {t t' : Outstanding} {event : PacketEvent} (stored : ∃ start r, InRing t start r) (step : PacketStep t event t')
    (orderly : Orderly t event) : PacketInOrder t event ∧ ∃ start r, InRing t' start r := by
  obtain ⟨start,r,stored⟩ := stored
  cases step with
  | push low high room called => exact push_stored stored low high called orderly
  | pop called => exact pop_stored stored called orderly

theorem built_stored (pages : Nat → Int → UInt8) : InRing ⟨networkBufferBuilt pages,[]⟩ 0 Ring.empty := by
  refine ⟨⟨rfl,rfl,rfl,?_,?_⟩,Ring.window_empty (by decide)⟩
  · intro i _
    rfl
  · intro i _ packet found
    cases found

-- Every unread packet is where it was put: in a full buffer, with all its bytes.
def Unharmed (t : Outstanding) : Prop := ∃ start, ∀ i, ∀ below : i < t.unread.length,
  t.ring.isFull ((start+i) % 32) = true ∧ bytesAt (t.ring.buffers ((start+i) % 32)) 0 (t.unread.get ⟨i,below⟩).length = t.unread.get ⟨i,below⟩

theorem InRing.unharmed {t : Outstanding} {start : Nat} {r : Ring.Buffer (List UInt8)} (stored : InRing t start r) : Unharmed t := by
  refine ⟨start,fun i below => ?_⟩
  have inside : (start+i) % 32 < networkBuffersMax := Nat.mod_lt _ (by decide)
  have filled := stored.window.filled i below
  rw [List.getElem?_eq_getElem below] at filled
  refine ⟨?_,(stored.viewed.held _ inside _ filled).1⟩
  rw [stored.viewed.full _ inside]
  exact Option.isSome_iff_exists.mpr ⟨_,filled⟩

-- In a run of orderly calls packets are popped in the order of their pushes, each
-- with the bytes that are requested of it, and none is stored over.
theorem packets_in_order {pages : Nat → Int → UInt8} {events : List PacketEvent} {t : Outstanding}
    (run : Runs.Path (fun s event s' => PacketStep s event s' ∧ Orderly s event) ⟨networkBufferBuilt pages,[]⟩ events t) :
    Runs.Path (fun s event s' => PacketStep s event s' ∧ PacketInOrder s event) ⟨networkBufferBuilt pages,[]⟩ events t ∧ Unharmed t := by
  have start : ∃ start r, InRing ⟨networkBufferBuilt pages,[]⟩ start r := ⟨0,_,built_stored pages⟩
  have kept := run.under (fun s => ∃ start r, InRing s start r)
    (fun s event s' stored step => (packetStep_stored stored step.1 step.2).2) start
  have stored := run.invariant (fun s => ∃ start r, InRing s start r)
    (fun s event s' stored step => (packetStep_stored stored step.1 step.2).2) start
  obtain ⟨_,_,last⟩ := stored
  exact ⟨kept.weaken fun s event s' step => ⟨step.2.1,(packetStep_stored step.1 step.2.1 step.2.2).1⟩,last.unharmed⟩

def freshRing : NetworkBuffer := networkBufferBuilt fun _ _ => 0

def afterPush (b : NetworkBuffer) (x : UInt8) : NetworkBuffer :=
  match networkPushPacket b (some fun _ => x) 1 with
  | .ok (_,b) => b
  | .error _ => b

def afterPop (b : NetworkBuffer) (len : Int) : NetworkBuffer :=
  match networkPopPacket b 1 len with
  | .ok (_,_,b) => b
  | .error _ => b

-- A packet of one byte is pushed and popped.
theorem one_packet_in_order :
    Runs.Path (fun s event s' => PacketStep s event s' ∧ PacketInOrder s event) ⟨freshRing,[]⟩ [.pushed [7] 1,.popped 1 1 (some [7])]
      ⟨afterPop (afterPush freshRing 7) 1,[]⟩ ∧ Unharmed ⟨afterPop (afterPush freshRing 7) 1,[]⟩ := by
  have push : PacketStep ⟨freshRing,[]⟩ (.pushed [7] 1) ⟨afterPush freshRing 7,[[7]]⟩ :=
    @PacketStep.push _ (fun _ => 7) 1 _ _ (by decide) (by decide) (by decide) rfl
  have pop : PacketStep ⟨afterPush freshRing 7,[[7]]⟩ (.popped 1 1 (some [7])) ⟨afterPop (afterPush freshRing 7) 1,[]⟩ :=
    @PacketStep.pop _ 1 _ _ _ _ rfl
  refine packets_in_order (.cons ⟨push,fun _ _ _ => rfl⟩ (.cons ⟨pop,fun _ packet member => ?_⟩ .nil))
  cases member
  exact ⟨by decide,by decide⟩

-- A pop of the empty ring, two packets, and a pop that gets the second of them.
theorem empty_pop_reorders : ∃ events t event t', Runs.Path PacketStep ⟨freshRing,[]⟩ events t ∧ PacketStep t event t' ∧ ¬ PacketInOrder t event := by
  have miss : PacketStep ⟨freshRing,[]⟩ (.popped 1 0 none) ⟨afterPop freshRing 1,[]⟩ := @PacketStep.pop _ 1 _ _ _ _ rfl
  have first : PacketStep ⟨afterPop freshRing 1,[]⟩ (.pushed [7] 1) ⟨afterPush (afterPop freshRing 1) 7,[[7]]⟩ :=
    @PacketStep.push _ (fun _ => 7) 1 _ _ (by decide) (by decide) (by decide) rfl
  have second : PacketStep ⟨afterPush (afterPop freshRing 1) 7,[[7]]⟩ (.pushed [8] 1)
      ⟨afterPush (afterPush (afterPop freshRing 1) 7) 8,[[7],[8]]⟩ :=
    @PacketStep.push _ (fun _ => 8) 1 _ _ (by decide) (by decide) (by decide) rfl
  have pop : PacketStep ⟨afterPush (afterPush (afterPop freshRing 1) 7) 8,[[7],[8]]⟩ (.popped 1 1 (some [8]))
      ⟨afterPop (afterPush (afterPush (afterPop freshRing 1) 7) 8) 1,[[8]]⟩ := @PacketStep.pop _ 1 _ _ _ _ rfl
  refine ⟨_,_,_,_,.cons miss (.cons first (.cons second .nil)),pop,?_⟩
  intro inOrder
  obtain ⟨packet,rest,oldest,_,bytes⟩ := (inOrder_full rfl).mp inOrder
  cases oldest
  exact absurd bytes (by decide)

end GramadoKernel
