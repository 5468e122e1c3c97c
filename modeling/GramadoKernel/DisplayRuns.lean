import GramadoKernel.DisplayCalls

namespace GramadoKernel

-- The client's exchange in a state of the system.
def CallHere (P : Parties) (s : DisplaySystem) (p : Nat) (x : CallStage) : Prop :=
  CallAt (s.client p) (s.view P p) (s.desk.action (P.own p)) (s.desk.file (P.own p)) x

-- The sockets of the clients are behind their descriptors.
structure OwnSockets (P : Parties) (d : Desk) : Prop where
  objects : ∀ p, P.client p → d.objects p (P.fd p) = some (P.own p)
  sockets : ∀ p, P.client p → SocketFile (d.file (P.own p))

theorem currentProcess_some {k : Kernel} {pid : Nat} (current : currentProcess k = some pid) :
    ¬ (k.currentPid < 0 ∨ processCountMax ≤ k.currentPid) ∧ k.currentPid.toNat = pid ∧ ∃ process, k.processList pid = some process ∧ process.magic = 1234 := by
  unfold currentProcess at current
  split at current
  · rename_i range
    split at current
    · cases current
    · rename_i process present
      split at current
      · rename_i valid
        cases current
        exact ⟨by omega,rfl,process,present,valid.2⟩
      · cases current
  · cases current

section Sync

variable {d : Desk} {pid fd id : Nat}

theorem syncObject_own (current : currentProcess d.kernel = some pid) (inside : fd < 32) (object : d.objects pid fd = some id) (valid : (d.file id).Valid) :
    syncObject d fd = some id := by
  obtain ⟨range,same,process,present,magic⟩ := currentProcess_some current
  have low : ¬ ((fd : Int) < 0 ∨ openMax ≤ fd) := by
    simp only [openMax]
    omega
  subst same
  simp only [syncObject,if_neg low,if_neg range,present,magic,ne_eq,not_true_eq_false,if_false,Int.toNat_natCast,object,Option.bind_some,if_pos valid]

theorem syncObject_some (current : currentProcess d.kernel = some pid) (found : syncObject d fd = some id) : d.objects pid fd = some id := by
  obtain ⟨range,same,process,present,magic⟩ := currentProcess_some current
  subst same
  unfold syncObject at found
  split at found
  · cases found
  · simp only [present,magic,ne_eq,not_true_eq_false,if_false,Int.toNat_natCast] at found
    obtain ⟨j,object,valid⟩ := Option.bind_eq_some_iff.mp found
    split at valid
    · cases valid
      exact object
    · cases valid

theorem setAction_own (current : currentProcess d.kernel = some pid) (inside : fd < 32) (object : d.objects pid fd = some id) (valid : (d.file id).Valid)
    (data : Int) : sysSetFileSync d fd syncRequestSetAction data = d.acted id data := by
  simp only [sysSetFileSync,syncObject_own current inside object valid,if_true]

theorem getAction_own (current : currentProcess d.kernel = some pid) (inside : fd < 32) (object : d.objects pid fd = some id) (valid : (d.file id).Valid) :
    sysGetFileSync d fd syncRequestGetAction = d.action id := by
  have low : ¬ ((fd : Int) < 0 ∨ openMax ≤ fd) := by
    simp only [openMax]
    omega
  simp only [sysGetFileSync,if_neg low,syncObject_own current inside object valid,if_true]

-- An action is set at the object behind the descriptor or nowhere.
theorem setAction_net (d : Desk) (fd : Int) (data : Int) : (sysSetFileSync d fd syncRequestSetAction data).toNet = d.toNet := by
  unfold sysSetFileSync
  split
  · rfl
  · rfl

theorem setAction_other (current : currentProcess d.kernel = some pid) (other : d.objects pid fd ≠ some id) (data : Int) :
    (sysSetFileSync d fd syncRequestSetAction data).action id = d.action id := by
  unfold sysSetFileSync
  split
  · rfl
  · rename_i j found
    have different : id ≠ j := by
      rintro rfl
      exact other (syncObject_some current found)
    simp only [if_true,Desk.acted,Function.update_of_ne different]

end Sync

theorem getFile_own {io : Io} {pid fd id : Nat} (current : currentProcess io.kernel = some pid) (inside : fd < 32) (object : io.objects pid fd = some id) :
    getFileFromFd io fd = some id := by
  have low : ¬ ((fd : Int) < 0 ∨ (32 : Int) ≤ fd) := by omega
  simp only [getFileFromFd,if_neg low,current,Option.bind_some,Int.toNat_natCast,object]

theorem getFile_other {io : Io} {pid fd id : Nat} (current : currentProcess io.kernel = some pid) (other : io.objects pid fd ≠ some id) :
    getFileFromFd io fd ≠ some id := by
  unfold getFileFromFd
  split
  · simp
  · simpa only [current,Option.bind_some,Int.toNat_natCast] using other

theorem busy_away {phase : ServerPhase} (free : phase.busy = false) : phase.view = .away := by
  cases phase with
  | looking => rfl
  | accepted => rfl
  | reading => cases free
  | processing q => cases free
  | answering q r n => cases free
  | signalling => cases free
  | silent => cases free

section Frame

variable {P : Parties} {s t : DisplaySystem} {p : Nat} {x : CallStage} {e : DeskEvent}

theorem view_kept (server : t.server = s.server) (alone : ¬ Interrupts P s t) : t.view P p = s.view P p := by
  unfold DisplaySystem.view
  by_cases busy : s.server.busy = true
  · have same : t.desk.objects P.server 31 = s.desk.objects P.server 31 := by
      by_contra different
      exact alone ⟨busy,different⟩
    rw [server,same]
  · rw [server,busy_away (by simpa using busy),ite_self,ite_self]

theorem view_attended (attends : s.desk.objects P.server 31 = some (P.own p)) : s.view P p = s.server.view := if_pos attends

theorem view_away (elsewhere : s.desk.objects P.server 31 ≠ some (P.own p)) : s.view P p = .away := if_neg elsewhere

-- A step that leaves the client, its file and what the server does with it alone.
theorem CallHere.stays (here : CallHere P s p x) (client : t.client p = s.client p) (view : t.view P p = s.view P p)
    (action : t.desk.action (P.own p) = s.desk.action (P.own p)) (file : t.desk.file (P.own p) = s.desk.file (P.own p))
    (apart : ¬ e.Concerns p (P.own p)) : ∃ y, CallHere P t p y ∧ CallAdvances p (P.own p) x e y := by
  refine ⟨x,?_,.stays apart⟩
  unfold CallHere
  rw [client,view,action,file]
  exact here

end Frame

section Steps

variable {P : Parties} {s t : DisplaySystem} {p : Nat} {x : CallStage} {e : DeskEvent}

@[simp] theorem goes_client (s : DisplaySystem) (p : Nat) (d : Desk) (phase : ClientPhase) : (s.goes p d phase).client p = phase := Function.update_self ..

theorem goes_other (s : DisplaySystem) {p p' : Nat} (d : Desk) (phase : ClientPhase) (other : p ≠ p') : (s.goes p' d phase).client p = s.client p :=
  Function.update_of_ne other _ _

-- Where nobody comes through to the server, it sees every client as before.
theorem goes_view (s : DisplaySystem) {p p' : Nat} {d : Desk} (phase : ClientPhase) (objects : d.objects = s.desk.objects) :
    (s.goes p' d phase).view P p = s.view P p := by
  unfold DisplaySystem.view DisplaySystem.goes
  rw [objects]

theorem sysConnect_file {n after : Net} {sockfd value : Int} {addr : UInt64} {bytes : Nat → UInt8} {addrlen : UInt32}
    (made : sysConnect n sockfd addr bytes addrlen = .ok (value,after)) : after.file = n.file := by
  rcases sysConnect_cases made with ⟨_,k,rfl | ⟨c,f,_,_,_,rfl⟩⟩ | ⟨server,s,c,f,slot,k,_,_,_,_,rfl⟩
  · rfl
  · rfl
  · rfl

theorem sysConnect_objects {n after : Net} {sockfd value : Int} {addr : UInt64} {bytes : Nat → UInt8} {addrlen : UInt32}
    (made : sysConnect n sockfd addr bytes addrlen = .ok (value,after)) {pid fd : Nat} (low : fd < 31) : after.objects pid fd = n.objects pid fd := by
  rcases sysConnect_cases made with ⟨_,k,rfl | ⟨c,f,_,_,_,rfl⟩⟩ | ⟨server,s,c,f,slot,k,_,_,_,_,rfl⟩
  · rfl
  · rfl
  · rw [linkClient_objects]
    exact setObject_other _ _ fun both => by omega

-- The client's own steps.
theorem client_follows (apart : P.Apart) (client : P.client p) (own : OwnSockets P s.desk) (current : currentProcess s.desk.kernel = some p)
    (here : CallHere P s p x) (moves : ClientMoves P p s e t) (alone : ¬ Interrupts P s t) :
    ∃ y, CallHere P t p y ∧ CallAdvances p (P.own p) x e y := by
  have inside : P.fd p < 32 := Nat.lt_succ_of_lt (apart.fd p client)
  have object := own.objects p client
  have socket := own.sockets p client
  have target : getFileFromFd s.desk.toIo (P.fd p) = some (P.own p) := getFile_own current inside object
  unfold CallHere at here
  cases moves with
  | connect phase made =>
      refine CallHere.stays here rfl (view_kept rfl alone) rfl ?_ id
      exact congrFun (sysConnect_file made) _
  | refuse phase =>
      rw [phase] at here
      obtain ⟨y,now,follows⟩ := here.refuse
      refine ⟨y,?_,follows⟩
      unfold CallHere
      rw [goes_client,goes_view s _ rfl]
      exact now
  | ask request phase made =>
      rw [phase] at here
      obtain ⟨hollow,goes⟩ := here.ask (p := p) (a := P.own p) (q := message request)
      obtain ⟨value,holds,_⟩ := write_hollow target socket hollow request
      rw [made] at value holds
      obtain ⟨y,now,follows⟩ := goes _ holds
      rw [if_neg (by rw [value]; decide),if_neg (by rw [value]; decide)]
      refine ⟨y,?_,follows⟩
      unfold CallHere
      rw [goes_client,goes_view s _ (made ▸ (writeImp_touches s.desk.toIo (P.fd p) (some request) msgBufferSize).objects)]
      exact now
  | post phase =>
      rw [phase] at here
      obtain ⟨y,now,follows⟩ := here.post
      refine ⟨y,?_,follows⟩
      unfold CallHere
      rw [setAction_own current inside object socket.valid,goes_client,goes_view s _ (d := s.desk.acted (P.own p) actionRequest) rfl]
      simp only [DisplaySystem.goes,Desk.acted,Function.update_self]
      exact now
  | poll phase got =>
      rw [phase] at here
      rw [getAction_own current inside object socket.valid] at got
      subst got
      obtain ⟨y,now,follows⟩ := here.poll
      refine ⟨y,?_,follows⟩
      unfold CallHere
      rw [goes_client,goes_view s _ rfl]
      exact now
  | receive phase present made =>
      rw [phase] at here
      obtain ⟨r,holds,goes⟩ := here.receive (p := p) (a := P.own p)
      obtain ⟨answer,read,value,given,hollow,_⟩ := read_holds target socket holds present
      cases read.symm.trans made
      obtain ⟨y,now,follows⟩ := goes _ hollow
      rw [if_neg (by rw [value]; decide),if_neg (by rw [value]; decide),given]
      refine ⟨y,?_,follows⟩
      unfold CallHere
      rw [goes_client,goes_view s _ (readImp_touches read).objects]
      exact now
  | leave phase =>
      rw [phase] at here
      obtain ⟨y,now,follows⟩ := here.leave
      refine ⟨y,?_,follows⟩
      unfold CallHere
      rw [setAction_own current inside object socket.valid,goes_client,goes_view s _ (d := s.desk.acted (P.own p) actionNull) rfl]
      simp only [DisplaySystem.goes,Desk.acted,Function.update_self]
      exact now

-- Another client's steps.
theorem other_follows (apart : P.Apart) (client : P.client p) {p' : Nat} (client' : P.client p') (other : p ≠ p') (own : OwnSockets P s.desk)
    (current : currentProcess s.desk.kernel = some p') (here : CallHere P s p x) (moves : ClientMoves P p' s e t) (alone : ¬ Interrupts P s t) :
    ∃ y, CallHere P t p y ∧ CallAdvances p (P.own p) x e y := by
  have inside : P.fd p' < 32 := Nat.lt_succ_of_lt (apart.fd p' client')
  have object := own.objects p' client'
  have different : P.own p' ≠ P.own p := fun same => other (apart.own p p' client client' same.symm)
  have target : getFileFromFd s.desk.toIo (P.fd p') ≠ some (P.own p) := by
    rw [getFile_own current inside object]
    exact fun same => different (Option.some.inj same)
  have elsewhere : s.desk.objects p' (P.fd p') ≠ some (P.own p) := by
    rw [object]
    exact fun same => different (Option.some.inj same)
  cases moves with
  | connect phase made => exact here.stays rfl (view_kept rfl alone) rfl (congrFun (sysConnect_file made) _) id
  | refuse phase => exact here.stays (goes_other s _ _ other) (goes_view s _ rfl) rfl rfl id
  | ask request phase made =>
      subst made
      have touches := writeImp_touches s.desk.toIo (P.fd p') (some request) msgBufferSize
      refine here.stays (goes_other s _ _ other) (goes_view s _ touches.objects) rfl (touches.other target) ?_
      split
      · exact id
      · exact fun same => other same.symm
  | post phase =>
      have net := setAction_net s.desk (P.fd p') actionRequest
      exact here.stays (goes_other s _ _ other) (goes_view s _ (congrArg (fun n : Net => n.objects) net)) (setAction_other current elsewhere _)
        (congrFun (congrArg (fun n : Net => n.file) net) _) id
  | poll phase got => exact here.stays (goes_other s _ _ other) (goes_view s _ rfl) rfl rfl id
  | receive phase present made =>
      have touches := readImp_touches made
      refine here.stays (goes_other s _ _ other) (goes_view s _ touches.objects) rfl (touches.other target) ?_
      split
      · exact id
      · exact fun same => other same.symm
  | leave phase =>
      have net := setAction_net s.desk (P.fd p') actionNull
      exact here.stays (goes_other s _ _ other) (goes_view s _ (congrArg (fun n : Net => n.objects) net)) (setAction_other current elsewhere _)
        (congrFun (congrArg (fun n : Net => n.file) net) _) id

theorem sysAccept_file {n after : Net} {sockfd value : Int} {addr addrlen : UInt64} (made : sysAccept n sockfd addr addrlen = .ok (value,after)) (a : Nat) :
    after.file a = n.file a ∨ after.file a = {n.file a with descriptor := 31} := by
  rcases sysAccept_cases made with ⟨_,k,rfl⟩ | ⟨pid,s,k,_,_,_,pending⟩
  · exact .inl rfl
  · rcases acceptPending_cases pending with ⟨_,rfl⟩ | ⟨c,cFile,_,_,_,rfl⟩
    · exact .inl rfl
    · by_cases own : a = cFile
      · subst own
        exact .inr (Function.update_self ..)
      · exact .inl (Function.update_of_ne own _ _)

theorem sysAccept_objects {n after : Net} {sockfd value : Int} {addr addrlen : UInt64} (made : sysAccept n sockfd addr addrlen = .ok (value,after))
    {pid fd : Nat} (low : fd < 31) : after.objects pid fd = n.objects pid fd := by
  rcases sysAccept_cases made with ⟨_,k,rfl⟩ | ⟨p,s,k,_,_,_,pending⟩
  · rfl
  · rcases acceptPending_cases pending with ⟨_,rfl⟩ | ⟨c,cFile,_,_,_,rfl⟩
    · rfl
    · rw [acceptClient_objects]
      exact setObject_other _ _ fun both => by omega

-- The descriptor number that accept puts into a file is no part of an exchange.
theorem CallAt.numbered {phase : ClientPhase} {view : Attention} {action : Int} {f : File} (here : CallAt phase view action f x) :
    CallAt phase view action {f with descriptor := 31} x := by
  cases here with
  | idle hollow => exact .idle hollow
  | asked holds => exact .asked holds
  | posted seen holds => exact .posted seen holds
  | dropped seen hollow => exact .dropped seen hollow
  | serving hollow => exact .serving hollow
  | silent hollow => exact .silent hollow
  | hushed hollow => exact .hushed hollow
  | replied holds => exact .replied holds
  | signalled holds => exact .signalled holds
  | notified holds => exact .notified holds
  | leaving other hollow => exact .leaving other hollow

theorem accept_follows (here : CallHere P s p x) (away : s.view P p = .away) {n : Net} {sockfd value : Int} {addr addrlen : UInt64}
    (made : sysAccept s.desk.toNet sockfd addr addrlen = .ok (value,n)) :
    ∃ y, CallHere P (s.serves (s.desk.onNet n) (if value = 31 then .accepted else .looking)) p y ∧ CallAdvances p (P.own p) x .quiet y := by
  have free : (s.serves (s.desk.onNet n) (if value = 31 then .accepted else .looking)).view P p = s.view P p := by
    rw [away]
    unfold DisplaySystem.view DisplaySystem.serves
    rw [busy_away (by split <;> rfl),ite_self]
  rcases sysAccept_file made (P.own p) with same | numbered
  · exact here.stays rfl free rfl same id
  · refine ⟨x,?_,.stays id⟩
    unfold CallHere at here ⊢
    rw [free]
    simp only [DisplaySystem.serves,Desk.onNet,numbered]
    exact here.numbered

-- The server at work on another file, or on none.
theorem server_elsewhere (current : currentProcess s.desk.kernel = some P.server) (elsewhere : s.desk.objects P.server 31 ≠ some (P.own p))
    (here : CallHere P s p x) (moves : ServerMoves P s e t) : ∃ y, CallHere P t p y ∧ CallAdvances p (P.own p) x e y := by
  have away : s.view P p = .away := view_away elsewhere
  have target : getFileFromFd s.desk.toIo 31 ≠ some (P.own p) := getFile_other current (elsewhere : s.desk.objects P.server (31 : Int).toNat ≠ _)
  have unseen : ∀ {u : DisplaySystem}, u.desk.objects = s.desk.objects → u.view P p = s.view P p := by
    intro u objects
    rw [away]
    exact view_away (objects ▸ elsewhere)
  cases moves with
  | accept phase made => exact accept_follows here away made
  | check phase => exact here.stays rfl (unseen rfl) rfl rfl id
  | take phase present made =>
      have touches := readImp_touches made
      refine here.stays rfl (unseen touches.objects) rfl (touches.other target) ?_
      split
      · exact id
      · exact elsewhere
  | serve service phase => exact here.stays rfl (unseen rfl) rfl rfl id
  | @answer q r tries answer phase made =>
      subst made
      have touches := writeImp_touches s.desk.toIo 31 (some r) msgBufferSize
      refine here.stays rfl (unseen touches.objects) rfl (touches.other target) ?_
      split
      · exact id
      · exact elsewhere
  | signal phase =>
      have net := setAction_net s.desk 31 actionReply
      exact here.stays rfl (unseen (congrArg (fun n : Net => n.objects) net)) (setAction_other current elsewhere _)
        (congrFun (congrArg (fun n : Net => n.file) net) _) id
  | hush phase =>
      have net := setAction_net s.desk 31 actionNull
      exact here.stays rfl (unseen (congrArg (fun n : Net => n.objects) net)) (setAction_other current elsewhere _)
        (congrFun (congrArg (fun n : Net => n.file) net) _) id

theorem serves_view {d : Desk} {phase : ServerPhase} (objects : d.objects = s.desk.objects) (attends : s.desk.objects P.server 31 = some (P.own p)) :
    (s.serves d phase).view P p = phase.view := by
  unfold DisplaySystem.view DisplaySystem.serves
  exact if_pos (objects ▸ attends)

-- The server at work on the client's own file.
theorem server_attends (client : P.client p) (own : OwnSockets P s.desk) (current : currentProcess s.desk.kernel = some P.server)
    (attends : s.desk.objects P.server 31 = some (P.own p)) (here : CallHere P s p x) (moves : ServerMoves P s e t) :
    ∃ y, CallHere P t p y ∧ CallAdvances p (P.own p) x e y := by
  have socket := own.sockets p client
  have target : getFileFromFd s.desk.toIo 31 = some (P.own p) := getFile_own current (by decide : 31 < 32) attends
  have seen : s.view P p = s.server.view := view_attended attends
  cases moves with
  | accept phase made =>
      rw [phase] at seen
      exact accept_follows here seen made
  | check phase =>
      unfold CallHere at here
      rw [seen,phase] at here
      obtain ⟨y,now,follows⟩ := here.check
      refine ⟨y,?_,follows⟩
      unfold CallHere
      have got : sysGetFileSync s.desk 31 syncRequestGetAction = s.desk.action (P.own p) := getAction_own current (by decide : 31 < 32) attends socket.valid
      rw [serves_view rfl attends,got,apply_ite ServerPhase.view]
      exact now
  | @take ubuf answer phase present made =>
      have touches := readImp_touches made
      unfold CallHere at here
      rw [seen,phase] at here
      rcases here.take (p := p) (a := P.own p) with ⟨hollow,y,now,follows⟩ | ⟨q,holds,goes⟩
      · obtain ⟨other,read,value,same⟩ := read_hollow target socket hollow present
        cases read.symm.trans made
        rw [if_pos value,if_pos (.inl (by simp only [gReqSize]; omega))]
        refine ⟨y,?_,follows⟩
        unfold CallHere
        rw [serves_view touches.objects attends]
        simp only [DisplaySystem.serves,Desk.onIo,same]
        exact now
      · obtain ⟨other,read,value,given,hollow,_⟩ := read_holds target socket holds present
        cases read.symm.trans made
        have some : ¬ answer.value ≤ 0 := by
          rw [value]
          decide
        rw [if_neg some,attends,given]
        by_cases unused : answer.value < gReqSize ∨ messageLong q 1 = 0
        · rw [if_pos unused]
          obtain ⟨y,now,follows⟩ := (goes _ hollow).1
          refine ⟨y,?_,follows⟩
          unfold CallHere
          rw [serves_view touches.objects attends]
          exact now
        · rw [if_neg unused]
          obtain ⟨y,now,follows⟩ := (goes _ hollow).2
          refine ⟨y,?_,follows⟩
          unfold CallHere
          rw [serves_view touches.objects attends]
          exact now
  | serve service phase =>
      by_cases quiet : service.noReply = true
      · rw [if_pos quiet]
        unfold CallHere at here
        rw [seen,phase] at here
        obtain ⟨y,now,follows⟩ := here.silence
        refine ⟨y,?_,follows⟩
        unfold CallHere
        rw [serves_view rfl attends]
        exact now
      · rw [if_neg quiet]
        refine here.stays rfl ?_ rfl rfl id
        rw [serves_view rfl attends,seen,phase]
        rfl
  | @answer q r tries answer phase made =>
      unfold CallHere at here
      rw [seen,phase] at here
      obtain ⟨hollow,goes⟩ := here.answer (p := p) (a := P.own p)
      obtain ⟨value,holds,_⟩ := write_hollow target socket hollow r
      have touches := writeImp_touches s.desk.toIo 31 (some r) msgBufferSize
      rw [made] at value holds touches
      obtain ⟨y,now,follows⟩ := goes _ _ holds
      have written : ¬ answer.value ≤ 0 := by
        rw [value]
        decide
      rw [if_neg written,if_neg (fun both => written both.1),attends]
      refine ⟨y,?_,follows⟩
      unfold CallHere
      rw [serves_view touches.objects attends]
      exact now
  | signal phase =>
      unfold CallHere at here
      rw [seen,phase] at here
      obtain ⟨y,now,follows⟩ := here.signal
      refine ⟨y,?_,follows⟩
      have set : sysSetFileSync s.desk 31 syncRequestSetAction actionReply = s.desk.acted (P.own p) actionReply :=
        setAction_own current (by decide : 31 < 32) attends socket.valid actionReply
      unfold CallHere
      rw [set,serves_view (d := s.desk.acted (P.own p) actionReply) rfl attends]
      simp only [DisplaySystem.serves,Desk.acted,Function.update_self]
      exact now
  | hush phase =>
      unfold CallHere at here
      rw [seen,phase] at here
      obtain ⟨y,now,follows⟩ := here.hush
      refine ⟨y,?_,follows⟩
      have set : sysSetFileSync s.desk 31 syncRequestSetAction actionNull = s.desk.acted (P.own p) actionNull :=
        setAction_own current (by decide : 31 < 32) attends socket.valid actionNull
      unfold CallHere
      rw [set,serves_view (d := s.desk.acted (P.own p) actionNull) rfl attends]
      simp only [DisplaySystem.serves,Desk.acted,Function.update_self]
      exact now

end Steps

-- No step takes the socket of a client from it.
section Sockets

variable {P : Parties} {d : Desk}

theorem OwnSockets.same {d' : Desk} (own : OwnSockets P d) (net : d'.toNet = d.toNet) : OwnSockets P d' := by
  refine ⟨fun p client => ?_,fun p client => ?_⟩
  · rw [net]
    exact own.objects p client
  · rw [net]
    exact own.sockets p client

theorem OwnSockets.io {io : Io} {e : IoEvent} (own : OwnSockets P d) (step : IoStep d.toIo e io) (objects : io.objects = d.objects) :
    OwnSockets P (d.onIo io) := by
  refine ⟨fun p client => ?_,fun p client => ?_⟩
  · rw [← own.objects p client]
    exact congrFun (congrFun objects p) (P.fd p)
  · have socket := own.sockets p client
    exact (ioStep_socket socket step).keeps socket

theorem OwnSockets.net {n : Net} (own : OwnSockets P d) (apart : P.Apart) (objects : ∀ pid fd, fd < 31 → n.objects pid fd = d.objects pid fd)
    (file : ∀ a, n.file a = d.file a ∨ n.file a = {d.file a with descriptor := 31}) : OwnSockets P (d.onNet n) := by
  refine ⟨fun p client => ?_,fun p client => ?_⟩
  · rw [← own.objects p client]
    exact objects p (P.fd p) (apart.fd p client)
  · have socket := own.sockets p client
    rcases file (P.own p) with same | numbered
    · exact same ▸ socket
    · have now : (d.onNet n).file (P.own p) = {d.file (P.own p) with descriptor := 31} := numbered
      rw [now]
      exact ⟨socket.object,socket.valid,by simp,socket.size,socket.readable,socket.writable⟩

end Sockets

section Runs

variable {P : Parties} {s t : DisplaySystem} {e : DeskEvent}

theorem moves_own (apart : P.Apart) (own : OwnSockets P s.desk) (moves : DisplayMoves P s e t) : OwnSockets P t.desk := by
  cases moves with
  | switch k => exact own.net apart (fun _ _ _ => rfl) fun a => .inl rfl
  | client _ _ moves =>
      cases moves with
      | connect _ made => exact own.net apart (fun _ _ low => sysConnect_objects made low) fun a => .inl (congrFun (sysConnect_file made) a)
      | refuse _ => exact own
      | ask request _ made =>
          subst made
          exact own.io (.write rfl) (writeImp_touches _ _ _ _).objects
      | post _ => exact own.same (setAction_net _ _ _)
      | poll _ _ => exact own
      | receive _ _ made => exact own.io (.read made) (readImp_touches made).objects
      | leave _ => exact own.same (setAction_net _ _ _)
  | server _ moves =>
      cases moves with
      | accept _ made => exact own.net apart (fun _ _ low => sysAccept_objects made low) (sysAccept_file made)
      | check _ => exact own
      | take _ _ made => exact own.io (.read made) (readImp_touches made).objects
      | serve _ _ => exact own
      | answer _ made =>
          subst made
          exact own.io (.write rfl) (writeImp_touches _ _ _ _).objects
      | signal _ => exact own.same (setAction_net _ _ _)
      | hush _ => exact own.same (setAction_net _ _ _)

-- Every step of the system is a step of each exchange.
theorem moves_follow (apart : P.Apart) {p : Nat} (client : P.client p) (own : OwnSockets P s.desk) {x : CallStage} (here : CallHere P s p x)
    (moves : DisplayMoves P s e t) (alone : ¬ Interrupts P s t) : ∃ y, CallHere P t p y ∧ CallAdvances p (P.own p) x e y := by
  cases moves with
  | switch k => exact here.stays rfl rfl rfl rfl id
  | @client p' _ _ client' current moves =>
      by_cases same : p = p'
      · subst same
        exact client_follows apart client own current here moves alone
      · exact other_follows apart client client' same own current here moves alone
  | server current moves =>
      by_cases attends : s.desk.objects P.server 31 = some (P.own p)
      · exact server_attends client own current attends here moves
      · exact server_elsewhere current attends here moves

-- The requests and the replies that are still on their way.
def CallStage.requests : CallStage → List (List UInt8)
  | .asked q => [q]
  | .posted q => [q]
  | _ => []

def CallStage.replies : CallStage → List (List UInt8 × List UInt8)
  | .replied q r => [(q,r)]
  | .signalled q r => [(q,r)]
  | .notified q r => [(q,r)]
  | _ => []

-- The requests of a client and those that the server reads from a file; the replies that
-- it writes there and those that the client reads, each with its request.
def askedBy (p : Nat) : DeskEvent → List (List UInt8)
  | .asked p' q => if p' = p then [q] else []
  | _ => []

def takenFrom (a : Nat) : DeskEvent → List (List UInt8)
  | .taken file q => if file = some a then [q] else []
  | _ => []

def answeredTo (a : Nat) : DeskEvent → List (List UInt8 × List UInt8)
  | .answered file q r => if file = some a then [(q,r)] else []
  | _ => []

def receivedBy (p : Nat) : DeskEvent → List (List UInt8 × List UInt8)
  | .received p' q r => if p' = p then [(q,r)] else []
  | _ => []

theorem unconcerned {p a : Nat} (apart : ¬ e.Concerns p a) : askedBy p e = [] ∧ takenFrom a e = [] ∧ answeredTo a e = [] ∧ receivedBy p e = [] := by
  cases e with
  | quiet => exact ⟨rfl,rfl,rfl,rfl⟩
  | asked p' q => exact ⟨if_neg apart,rfl,rfl,rfl⟩
  | received p' q r => exact ⟨rfl,rfl,rfl,if_neg apart⟩
  | taken file q => exact ⟨rfl,if_neg apart,rfl,rfl⟩
  | answered file q r => exact ⟨rfl,rfl,if_neg apart,rfl⟩

theorem advances_requests {p a : Nat} {x y : CallStage} (advances : CallAdvances p a x e y) :
    x.requests ++ askedBy p e = takenFrom a e ++ y.requests := by
  cases advances with
  | stays apart => rw [(unconcerned apart).1,(unconcerned apart).2.1,List.append_nil,List.nil_append]
  | _ => simp [CallStage.requests,askedBy,takenFrom]

theorem advances_replies {p a : Nat} {x y : CallStage} (advances : CallAdvances p a x e y) :
    x.replies ++ answeredTo a e = receivedBy p e ++ y.replies := by
  cases advances with
  | stays apart => rw [(unconcerned apart).2.2.1,(unconcerned apart).2.2.2,List.append_nil,List.nil_append]
  | _ => simp [CallStage.replies,answeredTo,receivedBy]

-- No client is in a call, and nothing is in the buffers.
structure AtRest (P : Parties) (s : DisplaySystem) : Prop where
  own : OwnSockets P s.desk
  server : s.server = .looking
  client : ∀ p, P.client p → s.client p = .idle
  action : ∀ p, P.client p → s.desk.action (P.own p) = actionNull
  hollow : ∀ p, P.client p → Hollow (s.desk.file (P.own p))

theorem AtRest.here (rest : AtRest P s) {p : Nat} (client : P.client p) : CallHere P s p .idle := by
  unfold CallHere DisplaySystem.view
  rw [rest.client p client,rest.action p client,rest.server,show ServerPhase.looking.view = .away from rfl,ite_self]
  exact .idle (rest.hollow p client)

-- The steps of a run in which nobody comes through while the server is at work.
def Uninterrupted (P : Parties) (s : DisplaySystem) (e : DeskEvent) (t : DisplaySystem) : Prop := DisplayMoves P s e t ∧ ¬ Interrupts P s t

theorem uninterrupted_run {events : List DeskEvent} (apart : P.Apart) (rest : AtRest P s) (run : Runs.Path (Uninterrupted P) s events t) {p : Nat}
    (client : P.client p) : OwnSockets P t.desk ∧ ∃ x, CallHere P t p x ∧ Runs.Path (CallAdvances p (P.own p)) .idle events x := by
  have own : OwnSockets P t.desk := run.invariant (fun u => OwnSockets P u.desk) (fun _ _ _ own step => moves_own apart own step.1) rest.own
  obtain ⟨x,⟨_,here⟩,followed⟩ := run.simulated (fun u x => OwnSockets P u.desk ∧ CallHere P u p x) (fun u e v x both step => by
    obtain ⟨y,now,follows⟩ := moves_follow apart client both.1 both.2 step.1 step.2
    exact ⟨y,⟨moves_own apart both.1 step.1,now⟩,follows⟩) ⟨rest.own,rest.here client⟩
  exact ⟨own,x,here,followed⟩

def CallStage.served : CallStage → List (List UInt8)
  | .serving q => [q]
  | _ => []

-- The server answers requests that it has read, each of them once at most.
theorem answers_taken {p a : Nat} {events : List DeskEvent} {x : CallStage} (run : Runs.Path (CallAdvances p a) .idle events x) :
    ((events.flatMap (answeredTo a)).map Prod.fst ++ x.served).Sublist (events.flatMap (takenFrom a)) := by
  refine run.history (fun events x => ((events.flatMap (answeredTo a)).map Prod.fst ++ x.served).Sublist (events.flatMap (takenFrom a))) ?_
    (List.Sublist.refl [])
  intro events x e y held advances
  rw [List.flatMap_append,List.flatMap_append,List.flatMap_singleton,List.flatMap_singleton,List.map_append]
  have earlier := (List.sublist_append_left _ x.served).trans held
  cases advances with
  | stays apart =>
      rw [(unconcerned apart).2.1,(unconcerned apart).2.2.1,List.map_nil,List.append_nil,List.append_nil]
      exact held
  | takes => exact (List.Sublist.append (by simpa [answeredTo] using earlier) (by simp [CallStage.served,takenFrom]))
  | answers => simpa [CallStage.served,answeredTo,takenFrom] using held
  | _ => exact List.Sublist.append (by simpa [answeredTo] using earlier) (by simp [CallStage.served])

-- The requests of a client come to the server in order, and so do the replies to the
-- client, each with the request that it answers; one of them at most is on its way.
theorem exchanges_match {events : List DeskEvent} (apart : P.Apart) (rest : AtRest P s) (run : Runs.Path (Uninterrupted P) s events t) {p : Nat}
    (client : P.client p) :
    (∃ waiting, waiting.length ≤ 1 ∧ events.flatMap (askedBy p) = events.flatMap (takenFrom (P.own p)) ++ waiting) ∧
    (∃ waiting, waiting.length ≤ 1 ∧ events.flatMap (answeredTo (P.own p)) = events.flatMap (receivedBy p) ++ waiting) ∧
    ((events.flatMap (answeredTo (P.own p))).map Prod.fst).Sublist (events.flatMap (takenFrom (P.own p))) := by
  obtain ⟨_,x,_,followed⟩ := uninterrupted_run apart rest run client
  refine ⟨⟨x.requests,?_,?_⟩,⟨x.replies,?_,?_⟩,(List.sublist_append_left _ _).trans (answers_taken followed)⟩
  · cases x <;> simp [CallStage.requests]
  · exact followed.conserved CallStage.requests (askedBy p) (takenFrom (P.own p)) fun _ _ _ => advances_requests
  · cases x <;> simp [CallStage.replies]
  · exact followed.conserved CallStage.replies (answeredTo (P.own p)) (receivedBy p) fun _ _ _ => advances_replies

end Runs

section Scene

-- Three processes: the server and two clients with a socket as descriptor 3 each.
def displayParties : Parties where
  server := 1
  client := fun p => p = 2 ∨ p = 3
  fd := fun _ => 3
  own := fun p => p-1
  gwsGetNextEvent := 118

def displayStart : DisplaySystem where
  desk := {toNet := threeSockets 2,action := fun _ => actionNull}
  client := fun _ => .idle
  server := .looking

theorem displayParties_apart : displayParties.Apart := by
  refine ⟨by simp [displayParties],fun p client => by simp [displayParties],?_⟩
  intro p p' client client' same
  simp only [displayParties] at client client' same
  omega

theorem displayStart_rest : AtRest displayParties displayStart := by
  have sockets : ∀ p, SocketFile (displayStart.desk.file p) := fun p => ⟨rfl,⟨rfl,rfl⟩,Int.le_refl 3,rfl,rfl,rfl⟩
  refine ⟨⟨?_,fun p _ => sockets _⟩,rfl,fun _ _ => rfl,fun _ _ => rfl,fun _ _ => ⟨rfl,rfl⟩⟩
  rintro p (rfl | rfl)
  · rfl
  · rfl

-- A request with the code 1.
def sampleRequest (i : Nat) : UInt8 := if i = 8 then 1 else 0

def DisplaySystem.turn (s : DisplaySystem) (pid : Int) : DisplaySystem := s.onDesk (s.desk.onNet (s.desk.withKernel (threeProcesses pid)))

-- The first client is accepted, writes its request and sets the action.
def acceptedState : DisplaySystem := {displayStart with desk := displayStart.desk.onNet oneClient,server := .accepted}

def postedState : DisplaySystem :=
  let s := acceptedState.turn 2
  let s := s.goes 2 (s.desk.onIo (writeImp s.desk.toIo 3 (some sampleRequest) msgBufferSize).io) (.asked (message sampleRequest))
  s.goes 2 (sysSetFileSync s.desk 3 syncRequestSetAction actionRequest) (.posted (message sampleRequest))

-- The server has read it.
def takenState : DisplaySystem :=
  let s := (postedState.turn 1).serves (postedState.turn 1).desk .reading
  s.serves (s.desk.onIo (s.desk.toIo.credited.put 1 (s.desk.file 1).emptied)) (.processing (message sampleRequest))

theorem quiet_alone {P : Parties} {s t : DisplaySystem} (free : s.server.busy = false) : ¬ Interrupts P s t := by
  rintro ⟨busy,_⟩
  rw [free] at busy
  cases busy

theorem turn_uninterrupted (s : DisplaySystem) (pid : Int) : Uninterrupted displayParties s .quiet (s.turn pid) :=
  ⟨.switch (threeProcesses pid),fun interrupts => interrupts.2 rfl⟩

theorem accepted_run : Runs.Path (Uninterrupted displayParties) displayStart [.quiet,.quiet,.quiet] acceptedState := by
  let connected := displayStart.onDesk (displayStart.desk.onNet (linkClient ((threeSockets 2).credited.portGiven 1) 1 0 1 1 4))
  have connects : Uninterrupted displayParties displayStart .quiet connected :=
    ⟨.client (.inl rfl) (by decide) (.connect rfl oneClient_connected),quiet_alone rfl⟩
  have accepts : Uninterrupted displayParties (connected.turn 1) .quiet acceptedState :=
    ⟨.server (by decide) (.accept (s := connected.turn 1) rfl oneClient_accepted),quiet_alone rfl⟩
  exact .step (.step (.step .nil connects) (turn_uninterrupted connected 1)) accepts

theorem posted_run : Runs.Path (Uninterrupted displayParties) displayStart
    ([.quiet,.quiet,.quiet,.quiet]++[.asked 2 (message sampleRequest),.quiet]) postedState := by
  let turned := acceptedState.turn 2
  let answer := writeImp turned.desk.toIo 3 (some sampleRequest) msgBufferSize
  have value : answer.value = msgBufferSize := (write_hollow (a := 1) (by decide) ⟨rfl,⟨rfl,rfl⟩,by decide,rfl,rfl,rfl⟩ ⟨rfl,rfl⟩ sampleRequest).1
  have asks : Uninterrupted displayParties turned (.asked 2 (message sampleRequest))
      (turned.goes 2 (turned.desk.onIo answer.io) (.asked (message sampleRequest))) := by
    have step : ClientMoves displayParties 2 turned _ _ := .ask sampleRequest rfl (rfl : _ = answer)
    rw [value] at step
    exact ⟨.client (.inl rfl) (by decide) step,quiet_alone rfl⟩
  have posts : Uninterrupted displayParties (turned.goes 2 (turned.desk.onIo answer.io) (.asked (message sampleRequest))) .quiet postedState :=
    ⟨.client (.inl rfl) (by decide) (.post (by simp)),quiet_alone rfl⟩
  exact .step (.step (.step accepted_run (turn_uninterrupted acceptedState 2)) asks) posts

theorem taken_run : Runs.Path (Uninterrupted displayParties) displayStart
    ([.quiet,.quiet,.quiet,.quiet]++[.asked 2 (message sampleRequest),.quiet]++[.quiet,.quiet,.taken (some 1) (message sampleRequest)]) takenState := by
  let turned := postedState.turn 1
  have holds : Holds (turned.desk.file 1) (message sampleRequest) :=
    (write_hollow (by decide : getFileFromFd (acceptedState.turn 2).desk.toIo 3 = some 1) ⟨rfl,⟨rfl,rfl⟩,by decide,rfl,rfl,rfl⟩ ⟨rfl,rfl⟩ sampleRequest).2.1
  have checks : Uninterrupted displayParties turned .quiet (turned.serves turned.desk .reading) :=
    ⟨.server (by decide) (.check rfl),quiet_alone rfl⟩
  have takes : Uninterrupted displayParties (turned.serves turned.desk .reading) (.taken (some 1) (message sampleRequest)) takenState := by
    have read := readImp_holds (by decide : getFileFromFd turned.desk.toIo 31 = some 1) ⟨rfl,⟨rfl,rfl⟩,by decide,rfl,rfl,rfl⟩ holds
      (by decide : (0x200000 : UInt64) ≠ 0)
    have coded : ¬ messageLong (message sampleRequest) 1 = 0 := by
      simp [messageLong,message,msgBufferSize,sampleRequest,List.range_succ_eq_map (n := 7)]
    have step : ServerMoves displayParties (turned.serves turned.desk .reading) _ _ := .take rfl (by decide) read
    have given : ¬ ((msgBufferSize : Int) ≤ 0) := by simp [msgBufferSize]
    have usable : ¬ ((msgBufferSize : Int) < gReqSize ∨ messageLong (message sampleRequest) 1 = 0) := by simp [coded,msgBufferSize,gReqSize]
    simp only [if_neg given,if_neg usable] at step
    exact ⟨.server (by decide) step,fun interrupts => interrupts.2 rfl⟩
  exact .step (.step (.step posted_run (turn_uninterrupted postedState 1)) checks) takes

theorem exchanges_match_once : (∃ waiting, waiting.length ≤ 1 ∧ [message sampleRequest] = [message sampleRequest]++waiting) ∧
    (∃ waiting, waiting.length ≤ 1 ∧ ([] : List (List UInt8 × List UInt8)) = waiting) ∧ ([] : List (List UInt8)).Sublist [message sampleRequest] :=
  exchanges_match displayParties_apart displayStart_rest taken_run (p := 2) (.inl rfl)

end Scene

section Interruption

variable {P : Parties} {s t : DisplaySystem} {e : DeskEvent}

-- Only a client that connects can take the descriptor 31 from a server at work.
theorem interrupted (own : OwnSockets P s.desk) (moves : DisplayMoves P s e t) (interrupts : Interrupts P s t) :
    ∃ p, P.client p ∧ s.client p = .idle ∧ t.client = s.client ∧ t.server = s.server ∧ t.desk.action = s.desk.action ∧ t.desk.file = s.desk.file ∧
      t.desk.objects P.server 31 = some (P.own p) := by
  obtain ⟨busy,different⟩ := interrupts
  have moved : t.desk.objects ≠ s.desk.objects := fun same => different (congrFun (congrFun same P.server) 31)
  have acted : ∀ fd data, (sysSetFileSync s.desk fd syncRequestSetAction data).objects = s.desk.objects :=
    fun fd data => congrArg (fun n : Net => n.objects) (setAction_net s.desk fd data)
  cases moves with
  | switch k => exact absurd rfl moved
  | @client p _ _ client current moves =>
      cases moves with
      | @connect addr bytes addrlen value n phase made =>
          refine ⟨p,client,phase,rfl,rfl,rfl,sysConnect_file made,?_⟩
          rcases sysConnect_cases made with ⟨_,k,rfl | ⟨c,f,_,_,_,rfl⟩⟩ | ⟨server,i,c,f,slot,k,_,connects,_,_,rfl⟩
          · exact absurd rfl moved
          · exact absurd rfl moved
          · have file : f = P.own p := by
              have called := connects.file
              simp only [callerFile,currentProcess_at current,Option.bind_some,Int.toNat_natCast,own.objects p client] at called
              exact (Option.some.inj called).symm
            have objects : ∀ pid fd, (s.onDesk (s.desk.onNet (linkClient ((s.desk.withKernel k).portGiven c) server i c f slot))).desk.objects pid fd =
                (s.desk.setObject server 31 (some f)).objects pid fd := fun _ _ => rfl
            rw [objects] at different ⊢
            by_cases here : P.server = server
            · simp [Net.setObject,here,file]
            · exact absurd (setObject_other _ _ fun both => here both.1) different
      | refuse _ => exact absurd rfl moved
      | ask request _ made =>
          subst made
          exact absurd (writeImp_touches _ _ _ _).objects moved
      | post _ => exact absurd (acted _ _) moved
      | poll _ _ => exact absurd rfl moved
      | receive _ _ made => exact absurd (readImp_touches made).objects moved
      | leave _ => exact absurd (acted _ _) moved
  | server current moves =>
      cases moves with
      | accept phase _ =>
          rw [phase] at busy
          cases busy
      | check _ => exact absurd rfl moved
      | take _ _ made => exact absurd (readImp_touches made).objects moved
      | serve _ _ => exact absurd rfl moved
      | answer _ made =>
          subst made
          exact absurd (writeImp_touches _ _ _ _).objects moved
      | signal _ => exact absurd (acted _ _) moved
      | hush _ => exact absurd (acted _ _) moved

end Interruption

end GramadoKernel
