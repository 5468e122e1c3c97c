import GramadoKernel.Backlog

namespace GramadoKernel

-- The port numbers of the sockets that are connecting or connected.
structure PortsApart (n : Net) : Prop where
  visible : ∀ i, Active (n.socket i) → (n.socket i).port ≠ 0
  distinct : ∀ i j, Active (n.socket i) → Active (n.socket j) → (n.socket i).port = (n.socket j).port → i = j

-- Every client in a list of pending connections is connecting.
def PendingActive (n : Net) : Prop := ∀ s i c, (n.socket s).pendingConnections i = some c → Active (n.socket c)

-- A connect that comes through finds a number that nobody has, and a server with a number
-- of its own.
structure Numbers (n : Net) (e : NetEvent) : Prop where
  next : ∀ s c f, e.Enters s c f n →
    n.newClientPortNumber ≠ 0xFFFF ∧ ∀ i, Active (n.socket i) → (n.socket i).port ≠ n.newClientPortNumber+1
  server : ∀ s c f, e.Enters s c f n → s = c ∨ Active (n.socket s) ∨
    ((n.socket s).port ≠ 0 ∧ (n.socket s).port ≠ n.newClientPortNumber+1 ∧ ∀ i, Active (n.socket i) → (n.socket i).port ≠ (n.socket s).port)

-- The counter is past all the numbers in use.
def Ahead (n : Net) : Prop := ∀ i, Active (n.socket i) → (n.socket i).port ≤ n.newClientPortNumber

-- A connect that does not make the counter wrap, to a server whose own number is behind it.
structure Unwrapped (n : Net) (e : NetEvent) : Prop where
  room : ∀ sockfd addr bytes addrlen, e.call = .connect sockfd addr bytes addrlen → n.newClientPortNumber ≠ 0xFFFF
  server : ∀ s c f, e.Enters s c f n → s = c ∨ Active (n.socket s) ∨
    ((n.socket s).port ≠ 0 ∧ (n.socket s).port ≤ n.newClientPortNumber ∧ ∀ i, Active (n.socket i) → (n.socket i).port ≠ (n.socket s).port)

-- What a refused call leaves alone.
structure LeftAlone (n after : Net) : Prop where
  sockets : after.socket = n.socket
  descriptors : after.objects = n.objects

-- The sockets in use are the same, under the same numbers.
structure SamePorts (n after : Net) : Prop where
  port : ∀ i, Active (n.socket i) → (after.socket i).port = (n.socket i).port
  active : ∀ i, Active (after.socket i) ↔ Active (n.socket i)

-- The client `c` is connected to the server's socket `s` under the next number.
structure Entered (n after : Net) (s c : Nat) : Prop where
  idle : ¬ Active (n.socket c)
  counter : after.newClientPortNumber = n.newClientPortNumber+1
  client : (after.socket c).port = n.newClientPortNumber+1
  other : ∀ i, i ≠ c → (after.socket i).port = (n.socket i).port
  active : ∀ i, Active (after.socket i) ↔ i = c ∨ i = s ∨ Active (n.socket i)

theorem unconnected_idle {x : Socket} (unconnected : x.state = .unconnected) : ¬ Active x := by
  rintro (connecting | connected)
  · rw [unconnected] at connecting
    cases connecting
  · rw [unconnected] at connected
    cases connected

-- No number is 0 before the counter wraps.
theorem next_visible (number : UInt16) : number+1 ≠ 0 ↔ number ≠ 0xFFFF := by
  have bound := number.toNat_lt
  simp only [ne_eq,← UInt16.toNat_inj,UInt16.toNat_add,UInt16.reduceToNat]
  omega

theorem onSocket_port {n : Net} {s i : Nat} {change : Socket → Socket} (kept : ∀ x, (change x).port = x.port) :
    ((n.onSocket s change).socket i).port = (n.socket i).port := by
  by_cases own : i = s
  · subst own
    rw [onSocket_same]
    exact kept _
  · rw [onSocket_other n change own]

theorem onSocket_active {n : Net} {s i : Nat} {change : Socket → Socket} (active : Active ((n.onSocket s change).socket i)) :
    i = s ∨ Active (n.socket i) := by
  by_cases own : i = s
  · exact .inl own
  · rw [onSocket_other n change own] at active
    exact .inr active

theorem portGiven_same (n : Net) (c : Nat) : (n.portGiven c).socket c = {n.socket c with port := n.newClientPortNumber+1} := by
  simp [Net.portGiven,Net.onSocket]

theorem portGiven_other (n : Net) {c i : Nat} (other : i ≠ c) : (n.portGiven c).socket i = n.socket i := by
  simp [Net.portGiven,Net.onSocket,other]

theorem portGiven_active (n : Net) (c i : Nat) : Active ((n.portGiven c).socket i) ↔ Active (n.socket i) := by
  by_cases own : i = c
  · subst own
    rw [portGiven_same]
    rfl
  · rw [portGiven_other n own]

section Steps

variable {n after : Net} {e : NetEvent} {s c f : Nat}

theorem linkClient_port (n : Net) (server s c f slot i : Nat) : ((linkClient n server s c f slot).socket i).port = (n.socket i).port := by
  simp only [linkClient]
  iterate 6
    refine Eq.trans (onSocket_port fun _ => rfl) ?_
  rw [setObject_socket]
  refine Eq.trans (onSocket_port fun _ => rfl) ?_
  exact onSocket_port fun _ => rfl

theorem linkClient_active {server slot i : Nat} (active : Active ((linkClient n server s c f slot).socket i)) :
    i = c ∨ i = s ∨ Active (n.socket i) := by
  simp only [linkClient] at active
  by_cases client : i = c
  · exact .inl client
  · by_cases own : i = s
    · exact .inr (.inl own)
    · have earlier := ((((((onSocket_active active).resolve_left client |> onSocket_active).resolve_left own |> onSocket_active).resolve_left own
        |> onSocket_active).resolve_left client |> onSocket_active).resolve_left own |> onSocket_active).resolve_left client
      rw [setObject_socket] at earlier
      exact .inr (.inr ((onSocket_active ((onSocket_active earlier).resolve_left client)).resolve_left own))

theorem linkClient_client (n : Net) (server s c f slot : Nat) : Active ((linkClient n server s c f slot).socket c) := by
  by_cases own : c = s
  · subst own
    exact .inl (by simp [linkClient,Net.onSocket,Net.setObject])
  · exact .inl (by simp [linkClient,Net.onSocket,Net.setObject,own])

-- A connect that comes through.
theorem enters_entered (step : NetStep n e after) (enters : e.Enters s c f n) : Entered n after s c := by
  obtain ⟨sockfd,addr,bytes,addrlen,server,slot,call,high,long,connects⟩ := enters
  cases step with
  | connect made =>
      cases call
      rw [connects.linked high long] at made
      cases made
      have idle := unconnected_idle connects.unconnected
      refine ⟨idle,rfl,?_,?_,?_⟩
      · rw [linkClient_port]
        exact congrArg Socket.port (portGiven_same n.credited c)
      · intro i different
        rw [linkClient_port]
        exact congrArg Socket.port (portGiven_other n.credited different)
      · intro i
        constructor
        · intro active
          rcases linkClient_active active with client | own | earlier
          · exact .inl client
          · exact .inr (.inl own)
          · exact .inr (.inr ((portGiven_active n.credited c i).mp earlier))
        · rintro (rfl | rfl | before)
          · exact linkClient_client _ _ _ _ _ _
          · exact (linkClient_joins _ _ _ _ _ _).active
          · exact (linkClient_keeps _ _ _ _ _ _ i).active ((portGiven_active n.credited c i).mpr before)
  | switch => cases call
  | read => cases call
  | write => cases call
  | listen => cases call
  | accept => cases call

theorem SamePorts.same (same : after.socket = n.socket) : SamePorts n after := ⟨fun i _ => by rw [same],fun i => by rw [same]⟩

-- Every other call.
theorem netStep_samePorts (step : NetStep n e after) (pending : PendingActive n) (quiet : ∀ s c f, ¬ e.Enters s c f n) : SamePorts n after := by
  cases step with
  | switch k => exact .same rfl
  | read _ => exact .same rfl
  | write _ => exact .same rfl
  | listen made =>
      rcases sysListen_cases made with ⟨k,rfl⟩ | ⟨_,s,f,k,_,rfl⟩
      · exact .same rfl
      · refine ⟨fun i _ => @onSocket_port (n.withKernel k) s i _ fun _ => rfl,fun i => ⟨?_,?_⟩⟩
        · intro active
          by_cases own : i = s
          · subst own
            rw [onSocket_same] at active
            exact active
          · exact (onSocket_active active).resolve_left own
        · intro before
          by_cases own : i = s
          · subst own
            rw [onSocket_same]
            exact before
          · rw [onSocket_other (n.withKernel k) _ own]
            exact before
  | connect made =>
      rcases sysConnect_cases made with ⟨_,k,rfl | ⟨c,f,wastes,_,_,rfl⟩⟩ | ⟨server,s,c,f,slot,k,_,connects,high,long,rfl⟩
      · exact .same rfl
      · have idle := unconnected_idle wastes.unconnected
        refine ⟨?_,portGiven_active (n.withKernel k) c⟩
        intro i active
        have different : i ≠ c := fun same => idle (same ▸ active)
        exact congrArg Socket.port (portGiven_other (n.withKernel k) different)
      · exact absurd ⟨_,_,_,_,_,_,rfl,high,long,connects⟩ (quiet s c f)
  | accept made =>
      rcases sysAccept_cases made with ⟨_,k,rfl⟩ | ⟨pid,s,k,_,_,waiting,taken⟩
      · exact .same rfl
      · rcases acceptPending_cases taken with ⟨_,rfl⟩ | ⟨c,cFile,_,found,_,rfl⟩
        · refine ⟨fun i _ => @onSocket_port (n.withKernel k) s i _ fun _ => rfl,fun i => ⟨?_,(acceptNobody_keeps (n.withKernel k) s i).active⟩⟩
          intro active
          rcases @onSocket_active (n.withKernel k) s i _ active with rfl | before
          · exact waiting
          · exact before
        · obtain ⟨place,present⟩ := scanned_pending found
          refine ⟨?_,fun i => ⟨?_,(acceptClient_keeps (n.withKernel k) pid s c cFile i).active⟩⟩
          · intro i _
            simp only [acceptClient,setObject_socket]
            exact Eq.trans (onSocket_port fun _ => rfl) (onSocket_port fun _ => rfl)
          · intro active
            simp only [acceptClient,setObject_socket] at active
            rcases onSocket_active active with rfl | before
            · exact pending s place _ present
            · rcases onSocket_active before with rfl | earlier
              · exact waiting
              · exact earlier

theorem netStep_pending (step : NetStep n e after) (pending : PendingActive n) : PendingActive after := by
  intro s i c present
  have kept := (netStep_keeps step c).active
  rcases netStep_queue step s with ⟨same,_⟩ | ⟨x,f,enters,_,joins⟩ | ⟨_,_,_,resized⟩ | ⟨advances,_⟩
  · rw [same.pendingConnections] at present
    exact kept (pending s i c present)
  · rw [joins.pendingConnections] at present
    by_cases place : i = nextTail (n.socket s)
    · subst place
      rw [Function.update_self] at present
      cases present
      exact ((enters_entered step enters).active c).mpr (.inl rfl)
    · rw [Function.update_of_ne place] at present
      exact kept (pending s i c present)
  · rw [resized.pendingConnections] at present
    exact kept (pending s i c present)
  · rw [advances.pendingConnections] at present
    exact kept (pending s i c present)

theorem SamePorts.apart (same : SamePorts n after) (apart : PortsApart n) : PortsApart after := by
  constructor
  · intro i active
    have before := (same.active i).mp active
    rw [same.port i before]
    exact apart.visible i before
  · intro i j first second equal
    have left := (same.active i).mp first
    have right := (same.active j).mp second
    rw [same.port i left,same.port j right] at equal
    exact apart.distinct i j left right equal

-- What a connect needs to keep the numbers apart, seen from the state before it.
theorem Entered.apart (entered : Entered n after s c) (apart : PortsApart n) (visible : n.newClientPortNumber ≠ 0xFFFF)
    (fresh : ∀ i, Active (n.socket i) → (n.socket i).port ≠ n.newClientPortNumber+1)
    (server : s = c ∨ Active (n.socket s) ∨ ((n.socket s).port ≠ 0 ∧ (n.socket s).port ≠ n.newClientPortNumber+1 ∧
      ∀ i, Active (n.socket i) → (n.socket i).port ≠ (n.socket s).port)) : PortsApart after := by
  -- The server's socket counts with the others, unless it is the client's.
  have others : ∀ i, Active (after.socket i) → i ≠ c → (n.socket i).port ≠ 0 ∧ (n.socket i).port ≠ n.newClientPortNumber+1 := by
    intro i active different
    rcases (entered.active i).mp active with client | rfl | before
    · exact absurd client different
    · rcases server with same | before | ⟨port,unlike,_⟩
      · exact absurd same different
      · exact ⟨apart.visible i before,fresh i before⟩
      · exact ⟨port,unlike⟩
    · exact ⟨apart.visible i before,fresh i before⟩
  have own : ∀ i, Active (after.socket i) → i ≠ c → i ≠ s → Active (n.socket i) := fun i active different other =>
    (((entered.active i).mp active).resolve_left different).resolve_left other
  constructor
  · intro i active
    by_cases client : i = c
    · subst client
      rw [entered.client]
      exact (next_visible _).mpr visible
    · rw [entered.other i client]
      exact (others i active client).1
  · intro i j first second equal
    by_cases left : i = c
    · subst left
      by_contra different
      rw [entered.client,entered.other j (Ne.symm different)] at equal
      exact (others j second (Ne.symm different)).2 equal.symm
    · by_cases right : j = c
      · subst right
        rw [entered.client,entered.other i left] at equal
        exact absurd equal (others i first left).2
      · rw [entered.other i left,entered.other j right] at equal
        by_contra different
        by_cases served : i = s
        · subst served
          have other := own j second right (Ne.symm different)
          rcases server with same | before | ⟨_,_,alone⟩
          · exact left same
          · exact different (apart.distinct i j before other equal)
          · exact alone j other equal.symm
        · have one := own i first left served
          by_cases serving : j = s
          · subst serving
            rcases server with same | before | ⟨_,_,alone⟩
            · exact right same
            · exact different (apart.distinct i j one before equal)
            · exact alone i one equal
          · exact different (apart.distinct i j one (own j second right serving) equal)

theorem Entered.numbers (entered : Entered n after s c) (apart : PortsApart after) :
    (n.newClientPortNumber ≠ 0xFFFF ∧ ∀ i, Active (n.socket i) → (n.socket i).port ≠ n.newClientPortNumber+1) ∧
      (s = c ∨ Active (n.socket s) ∨ ((n.socket s).port ≠ 0 ∧ (n.socket s).port ≠ n.newClientPortNumber+1 ∧
        ∀ i, Active (n.socket i) → (n.socket i).port ≠ (n.socket s).port)) := by
  have client : Active (after.socket c) := (entered.active c).mpr (.inl rfl)
  have server : Active (after.socket s) := (entered.active s).mpr (.inr (.inl rfl))
  have apartFrom : ∀ i, Active (n.socket i) → i ≠ c := fun i before same => entered.idle (same ▸ before)
  have later : ∀ i, Active (n.socket i) → Active (after.socket i) := fun i before => (entered.active i).mpr (.inr (.inr before))
  refine ⟨⟨?_,?_⟩,?_⟩
  · have visible := apart.visible c client
    rw [entered.client] at visible
    exact (next_visible _).mp visible
  · intro i before same
    apply apartFrom i before
    apply apart.distinct i c (later i before) client
    rw [entered.other i (apartFrom i before),entered.client,same]
  · by_cases own : s = c
    · exact .inl own
    · by_cases before : Active (n.socket s)
      · exact .inr (.inl before)
      · refine .inr (.inr ⟨?_,?_,?_⟩)
        · rw [← entered.other s own]
          exact apart.visible s server
        · intro same
          apply own
          apply apart.distinct s c server client
          rw [entered.other s own,entered.client,same]
        · intro i active same
          have equal : i = s := by
            apply apart.distinct i s (later i active) server
            rw [entered.other i (apartFrom i active),entered.other s own,same]
          exact before (equal ▸ active)

-- One call keeps the numbers apart exactly when it meets the condition.
theorem netStep_apart_iff (step : NetStep n e after) (pending : PendingActive n) (apart : PortsApart n) : PortsApart after ↔ Numbers n e := by
  constructor
  · intro kept
    exact ⟨fun s c f enters => ((enters_entered step enters).numbers kept).1,fun s c f enters => ((enters_entered step enters).numbers kept).2⟩
  · intro numbers
    by_cases some : ∃ s c f, e.Enters s c f n
    · obtain ⟨s,c,f,enters⟩ := some
      obtain ⟨visible,fresh⟩ := numbers.next s c f enters
      exact (enters_entered step enters).apart apart visible fresh (numbers.server s c f enters)
    · exact (netStep_samePorts step pending fun s c f enters => some ⟨s,c,f,enters⟩).apart apart

theorem below_next {port number : UInt16} (low : port ≤ number) (room : number ≠ 0xFFFF) : port < number+1 := by
  have order := UInt16.le_iff_toNat_le.mp low
  have bound := number.toNat_lt
  apply UInt16.lt_iff_toNat_lt.mpr
  simp only [ne_eq,← UInt16.toNat_inj,UInt16.toNat_add,UInt16.reduceToNat] at room ⊢
  omega

theorem netStep_counter (step : NetStep n e after) : after.newClientPortNumber = n.newClientPortNumber ∨
    (∃ sockfd addr bytes addrlen, e.call = .connect sockfd addr bytes addrlen) ∧ after.newClientPortNumber = n.newClientPortNumber+1 := by
  cases step with
  | switch k => exact .inl rfl
  | read _ => exact .inl rfl
  | write _ => exact .inl rfl
  | listen made =>
      rcases sysListen_cases made with ⟨k,rfl⟩ | ⟨_,s,f,k,_,rfl⟩
      · exact .inl rfl
      · exact .inl rfl
  | connect made =>
      rcases sysConnect_cases made with ⟨_,k,rfl | ⟨c,f,_,_,_,rfl⟩⟩ | ⟨_,_,_,_,_,_,_,_,_,_,rfl⟩
      · exact .inl rfl
      · exact .inr ⟨⟨_,_,_,_,rfl⟩,rfl⟩
      · exact .inr ⟨⟨_,_,_,_,rfl⟩,rfl⟩
  | accept made =>
      rcases sysAccept_cases made with ⟨_,k,rfl⟩ | ⟨pid,s,k,_,_,_,taken⟩
      · exact .inl rfl
      · rcases acceptPending_cases taken with ⟨_,rfl⟩ | ⟨c,cFile,_,_,_,rfl⟩
        · exact .inl rfl
        · exact .inl rfl

-- A number that the counter has not come to yet is fresh.
theorem Unwrapped.numbers (unwrapped : Unwrapped n e) (ahead : Ahead n) : Numbers n e := by
  have room : ∀ s c f, e.Enters s c f n → n.newClientPortNumber ≠ 0xFFFF := by
    rintro s c f ⟨sockfd,addr,bytes,addrlen,_,_,call,_⟩
    exact unwrapped.room sockfd addr bytes addrlen call
  constructor
  · intro s c f enters
    exact ⟨room s c f enters,fun i active => UInt16.ne_of_lt (below_next (ahead i active) (room s c f enters))⟩
  · intro s c f enters
    rcases unwrapped.server s c f enters with same | active | ⟨visible,behind,alone⟩
    · exact .inl same
    · exact .inr (.inl active)
    · exact .inr (.inr ⟨visible,UInt16.ne_of_lt (below_next behind (room s c f enters)),alone⟩)

theorem netStep_ahead (step : NetStep n e after) (pending : PendingActive n) (unwrapped : Unwrapped n e) (ahead : Ahead n) : Ahead after := by
  have grows : n.newClientPortNumber ≤ after.newClientPortNumber := by
    rcases netStep_counter step with same | ⟨⟨_,_,_,_,call⟩,next⟩
    · rw [same]
      exact UInt16.le_refl _
    · rw [next]
      exact UInt16.le_of_lt (below_next (UInt16.le_refl _) (unwrapped.room _ _ _ _ call))
  intro i active
  by_cases some : ∃ s c f, e.Enters s c f n
  · obtain ⟨s,c,f,enters⟩ := some
    have entered := enters_entered step enters
    by_cases client : i = c
    · subst client
      rw [entered.client,entered.counter]
      exact UInt16.le_refl _
    · rw [entered.other i client]
      rcases (entered.active i).mp active with same | rfl | before
      · exact absurd same client
      · rcases unwrapped.server i c f enters with same | before | ⟨_,behind,_⟩
        · exact absurd same client
        · exact UInt16.le_trans (ahead i before) grows
        · exact UInt16.le_trans behind grows
      · exact UInt16.le_trans (ahead i before) grows
  · have same := netStep_samePorts step pending fun s c f enters => some ⟨s,c,f,enters⟩
    have before := (same.active i).mp active
    rw [same.port i before]
    exact UInt16.le_trans (ahead i before) grows

end Steps

theorem portGiven_socket_iff (n : Net) (c : Nat) : (n.portGiven c).socket = n.socket ↔ (n.socket c).port = n.newClientPortNumber+1 := by
  constructor
  · intro same
    rw [← same,portGiven_same]
  · intro same
    funext i
    by_cases client : i = c
    · subst client
      rw [portGiven_same,← same]
    · exact portGiven_other n client

-- A refused connect leaves everything alone unless it has given the client a port. Over a
-- run of calls the numbers stay apart as long as every connect meets the condition; it
-- does as long as the counter does not wrap.
theorem connects_leave_ports_apart (n : Net) :
    (∀ sockfd addr bytes addrlen,
      (∀ value after, sysConnect n sockfd addr bytes addrlen = .ok (value,after) → value < 0 → LeftAlone n after) ↔
        (controlthreadBase ≤ addr → addrlen ≠ 0 → ∀ c f, Wastes n sockfd bytes c f → (n.socket c).port = n.newClientPortNumber+1)) ∧
    (∀ events after, PendingActive n → PortsApart n → Runs.Path (fun n e after => NetStep n e after ∧ Numbers n e) n events after →
      PortsApart after ∧ ∀ e next, NetStep after e next → (PortsApart next ↔ Numbers after e)) ∧
    ∀ events after, PendingActive n → PortsApart n → Ahead n →
      Runs.Path (fun n e after => NetStep n e after ∧ Unwrapped n e) n events after → PortsApart after := by
  refine ⟨?_,?_,?_⟩
  · intro sockfd addr bytes addrlen
    constructor
    · intro alone high long c f wastes
      have same := (alone _ _ (wastes.refused high long) (by decide)).sockets
      exact (portGiven_socket_iff n.credited c).mp same
    · intro condition value after made negative
      rcases sysConnect_cases made with ⟨_,k,rfl | ⟨c,f,wastes,high,long,rfl⟩⟩ | ⟨_,_,_,_,_,_,zero,_⟩
      · exact ⟨rfl,rfl⟩
      · exact ⟨(portGiven_socket_iff (n.withKernel k) c).mpr (condition high long c f wastes),rfl⟩
      · omega
  · intro events after pending apart run
    obtain ⟨queued,kept⟩ := run.invariant (fun m => PendingActive m ∧ PortsApart m) (by
      rintro m e next ⟨queued,kept⟩ ⟨step,numbers⟩
      exact ⟨netStep_pending step queued,(netStep_apart_iff step queued kept).mpr numbers⟩) ⟨pending,apart⟩
    exact ⟨kept,fun e next step => netStep_apart_iff step queued kept⟩
  · intro events after pending apart ahead run
    exact (run.invariant (fun m => PendingActive m ∧ PortsApart m ∧ Ahead m) (by
      rintro m e next ⟨queued,kept,past⟩ ⟨step,unwrapped⟩
      exact ⟨netStep_pending step queued,(netStep_apart_iff step queued kept).mpr (unwrapped.numbers past),
        netStep_ahead step queued unwrapped past⟩) ⟨pending,apart,ahead⟩).2.1

-- The server's socket has the port of the display server, and nobody is connected.
def portedSockets : Net := (threeSockets 2).onSocket 0 fun x => {x with port := portsWs}

theorem portedSockets_idle (i : Nat) : ¬ Active (portedSockets.socket i) := by
  apply unconnected_idle
  by_cases own : i = 0
  · subst own
    rfl
  · exact congrArg Socket.state (onSocket_other (threeSockets 2) _ own)

theorem portedSockets_connects : Connects portedSockets 3 dsAddress 1 0 1 1 4 :=
  ⟨by decide,by decide,by decide,by decide,rfl,rfl,⟨1,by decide,by decide⟩,by decide,rfl⟩

theorem portedSockets_server {s c f : Nat} (enters : NetEvent.Enters s c f portedSockets ⟨.connect 3 0x200000 dsAddress 16,0⟩) : s = 0 := by
  obtain ⟨_,_,_,_,server,slot,call,_,_,connects⟩ := enters
  cases call
  obtain ⟨target,found,present⟩ := connects.target
  cases found.symm.trans (show connectTarget portedSockets dsAddress = some 1 by decide)
  cases present.symm.trans (show processAt portedSockets.kernel 1 = some 1 by decide)
  cases connects.priv.symm.trans (show portedSockets.priv 1 = some 0 from rfl)
  rfl

theorem connects_leave_ports_apart_once : PortsApart (linkClient (portedSockets.credited.portGiven 1) 1 0 1 1 4) := by
  have step : NetStep portedSockets ⟨.connect 3 0x200000 dsAddress 16,0⟩ (linkClient (portedSockets.credited.portGiven 1) 1 0 1 1 4) :=
    .connect (portedSockets_connects.linked (by decide) (by decide))
  have unwrapped : Unwrapped portedSockets ⟨.connect 3 0x200000 dsAddress 16,0⟩ := by
    refine ⟨fun _ _ _ _ _ => by decide,fun s c f enters => ?_⟩
    cases portedSockets_server enters
    exact .inr (.inr ⟨by decide,by decide,fun i active => absurd active (portedSockets_idle i)⟩)
  have pending : PendingActive portedSockets := by
    intro s i c present
    by_cases own : s = 0
    · subst own
      cases present
    · rw [show portedSockets.socket s = (threeSockets 2).socket s from onSocket_other (threeSockets 2) _ own] at present
      cases present
  have apart : PortsApart portedSockets := ⟨fun i active => absurd active (portedSockets_idle i),fun i _ active => absurd active (portedSockets_idle i)⟩
  exact (connects_leave_ports_apart _).2.2 _ _ pending apart (fun i active => absurd active (portedSockets_idle i)) (.step .nil ⟨step,unwrapped⟩)

-- A server without a socket: the client's port is another one after the refusal. And a
-- connect after the counter has run up to its last value: the client has the port 0.
theorem refused_connect_changes_port :
    (∃ after, sysConnect {threeSockets 2 with priv := fun _ => none} 3 0x200000 dsAddress 16 = .ok (-1,after) ∧
      ((threeSockets 2).socket 1).port = 0 ∧ (after.socket 1).port = 11001) ∧
    ∃ after, sysConnect {portedSockets with newClientPortNumber := 0xFFFF} 3 0x200000 dsAddress 16 = .ok (0,after) ∧
      (after.socket 1).state = .connecting ∧ (after.socket 1).port = 0 :=
  ⟨⟨_,rfl,rfl,rfl⟩,_,rfl,rfl,rfl⟩

end GramadoKernel
