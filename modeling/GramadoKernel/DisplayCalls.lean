import GramadoKernel.DisplayServer

namespace GramadoKernel

-- The two states of a socket file between the calls of the protocol.
def Hollow (f : File) : Prop := f.socketBufferFull = false ∧ f.flags = swr

def Holds (f : File) (m : List UInt8) : Prop := f.socketBufferFull = true ∧ f.flags = srd ∧ bytesAt f.base 0 msgBufferSize = m

-- The file of a socket after its message has been read.
def File.emptied (f : File) : File := {f with socketBufferFull := false,flags := (f.flags ||| swr) &&& ~~~ srd ||| swr,tidWaiting := -1}

theorem bytesAt_memcpy (base : Int → UInt8) (source : Nat → UInt8) (n : Nat) : bytesAt (memcpy base 0 source n) 0 n = (List.range n).map source := by
  unfold bytesAt
  apply List.map_congr_left
  intro i member
  have below := List.mem_range.mp member
  rw [memcpy,if_pos (by omega)]
  congr 1
  omega

section Calls

variable {io : Io} {fd : Int} {a : Nat}

-- A message into an empty buffer.
theorem write_hollow (target : getFileFromFd io fd = some a) (socket : SocketFile (io.file a)) (hollow : Hollow (io.file a)) (source : Nat → UInt8) :
    (writeImp io fd (some source) msgBufferSize).value = msgBufferSize ∧
      Holds ((writeImp io fd (some source) msgBufferSize).io.file a) (message source) ∧
      SocketFile ((writeImp io fd (some source) msgBufferSize).io.file a) := by
  rcases writeImp_cases (rfl : writeImp io fd (some source) msgBufferSize = _) with ⟨_,reason⟩ | ⟨id,given,found,same,some,served⟩
  · rw [target] at reason
    simp [msgBufferSize] at reason
  · obtain rfl := Option.some.inj (found.symm.trans target)
    cases same
    have wrote : WritesSocket (io.file id) (.some source) msgBufferSize _ _ := writeFile_socket socket some
    rw [← served] at wrote
    generalize writeImp io fd (.some source) msgBufferSize = answer at wrote ⊢
    obtain ⟨value,given,io'⟩ := answer
    simp only at wrote ⊢
    generalize after : io'.file id = g at wrote ⊢
    obtain ⟨empty,flags⟩ := hollow
    cases wrote with
    | refused _ reason =>
        rw [flags] at reason
        simp [msgBufferSize,swr] at reason
    | full _ _ full =>
        rw [empty] at full
        cases full
    | long _ _ _ long => exact absurd long (by decide)
    | stored text waiting _ _ given _ _ =>
        cases given
        refine ⟨rfl,⟨rfl,rfl,bytesAt_memcpy _ _ _⟩,?_⟩
        exact ⟨socket.object,socket.valid,socket.descriptor,socket.size,socket.readable,socket.writable⟩

-- The message of a full buffer.
theorem readImp_holds (target : getFileFromFd io fd = some a) (socket : SocketFile (io.file a)) {m : List UInt8} (holds : Holds (io.file a) m) {ubuf : UInt64}
    (present : ubuf ≠ 0) : readImp io fd ubuf msgBufferSize = .ok ⟨msgBufferSize,m,io.credited.put a (io.file a).emptied⟩ := by
  obtain ⟨running,inside⟩ := target_current target
  obtain ⟨full,flags,bytes⟩ := holds
  have copied : fileReadBuffer (io.file a) ubuf msgBufferSize = readMessage (io.file a) msgBufferSize := by
    simp only [fileReadBuffer,socket.object,not_not.mpr socket.valid,present,if_false,socket.size]
    rw [if_neg (by decide),if_neg (by decide)]
    rfl
  have flag : ¬ (io.file a).flags &&& srd = 0 := by
    rw [flags]
    decide
  have served : readFile io a ubuf msgBufferSize = .ok ⟨msgBufferSize,m,io.credited.put a (io.file a).emptied⟩ := by
    have dispatch : readFile io a ubuf msgBufferSize = readSocket io a ubuf msgBufferSize := by
      simp only [readFile,socket.readable,socket.object,Bool.true_eq_false,if_false]
    have same : io.credited.file a = io.file a := rfl
    have hollow : ¬ (io.file a).socketBufferFull = false := by simp [full]
    have long : ¬ ((msgBufferSize : Nat) : Int) ≤ 0 := by decide
    rw [dispatch,readSocket]
    simp only [same]
    rw [if_neg flag,if_neg hollow,copied,readMessage,if_neg long,← bytes]
    rfl
  unfold readImp
  rw [if_neg running,if_neg inside,if_neg present,if_neg (by decide),if_neg (by decide),target]
  exact served

theorem read_holds (target : getFileFromFd io fd = some a) (socket : SocketFile (io.file a)) {m : List UInt8} (holds : Holds (io.file a) m) {ubuf : UInt64}
    (present : ubuf ≠ 0) : ∃ answer, readImp io fd ubuf msgBufferSize = .ok answer ∧ answer.value = msgBufferSize ∧ answer.given = m ∧
      Hollow (answer.io.file a) ∧ SocketFile (answer.io.file a) := by
  refine ⟨_,readImp_holds target socket holds present,rfl,rfl,?_,?_⟩
  · simp only [Io.put_same,Hollow,File.emptied,holds.2.1,true_and]
    decide
  · simp only [Io.put_same]
    exact ⟨socket.object,socket.valid,socket.descriptor,socket.size,socket.readable,socket.writable⟩

-- Nothing can be read from an empty buffer.
theorem read_hollow (target : getFileFromFd io fd = some a) (socket : SocketFile (io.file a)) (hollow : Hollow (io.file a)) {ubuf : UInt64}
    (present : ubuf ≠ 0) : ∃ answer, readImp io fd ubuf msgBufferSize = .ok answer ∧ answer.value ≤ 0 ∧ answer.io.file = io.file := by
  obtain ⟨running,inside⟩ := target_current target
  have flag : (io.file a).flags &&& srd = 0 := by
    rw [hollow.2]
    decide
  have served : readFile io a ubuf msgBufferSize = .ok ⟨-1,[],io.credited⟩ := by
    have same : io.credited.file a = io.file a := rfl
    simp only [readFile,socket.readable,socket.object,Bool.true_eq_false,if_false,readSocket,same,flag,if_true]
  refine ⟨⟨-1,[],io.credited⟩,?_,by simp,rfl⟩
  unfold readImp
  rw [if_neg running,if_neg inside,if_neg present,if_neg (by decide),if_neg (by decide),target]
  exact served

end Calls

-- What the server is doing with one of the clients.
inductive Attention where
  | away
  | reading
  | serving (request : List UInt8)
  | signalling
  | silent

def ServerPhase.view : ServerPhase → Attention
  | .looking => .away
  | .accepted => .away
  | .reading => .reading
  | .processing q => .serving q
  | .answering q _ _ => .serving q
  | .signalling => .signalling
  | .silent => .silent

def DisplaySystem.view (P : Parties) (s : DisplaySystem) (p : Nat) : Attention := if s.desk.objects P.server 31 = some (P.own p) then s.server.view else .away

-- The exchange of one client: its request on the way to the server, the reply on its way
-- back, or neither.
inductive CallStage where
  | idle
  | asked (request : List UInt8)
  | posted (request : List UInt8)
  | dropped (request : List UInt8)
  | serving (request : List UInt8)
  | silent (request : List UInt8)
  | hushed (request : List UInt8)
  | replied (request reply : List UInt8)
  | signalled (request reply : List UInt8)
  | notified (request reply : List UInt8)
  | leaving

-- The phase of the client, the server, sync.action and the file at each stage.
inductive CallAt : ClientPhase → Attention → Int → File → CallStage → Prop where
  | idle : Hollow f → CallAt .idle .away actionNull f .idle
  | asked : Holds f q → CallAt (.asked q) .away actionNull f (.asked q)
  | posted : view = .away ∨ view = .reading → Holds f q → CallAt (.posted q) view actionRequest f (.posted q)
  | dropped : view = .away ∨ view = .reading → Hollow f → CallAt (.posted q) view actionRequest f (.dropped q)
  | serving : Hollow f → CallAt (.posted q) (.serving q) actionRequest f (.serving q)
  | silent : Hollow f → CallAt (.posted q) .silent actionRequest f (.silent q)
  | hushed : Hollow f → CallAt (.posted q) .away actionNull f (.hushed q)
  | replied : Holds f r → CallAt (.posted q) .signalling actionRequest f (.replied q r)
  | signalled : Holds f r → CallAt (.posted q) .away actionReply f (.signalled q r)
  | notified : Holds f r → CallAt (.notified q) .away actionReply f (.notified q r)
  | leaving : action ≠ actionRequest → Hollow f → CallAt .leaving .away action f .leaving

-- The event passes a message of the client `p` with the file `a`.
def DeskEvent.Concerns (p a : Nat) : DeskEvent → Prop
  | .quiet => False
  | .asked p' _ => p' = p
  | .received p' _ _ => p' = p
  | .taken file _ => file = some a
  | .answered file _ _ => file = some a

-- How an exchange goes on.
inductive CallAdvances (p a : Nat) : CallStage → DeskEvent → CallStage → Prop where
  | stays : ¬ e.Concerns p a → CallAdvances p a x e x
  | refuses : CallAdvances p a .idle .quiet .leaving
  | asks : CallAdvances p a .idle (.asked p q) (.asked q)
  | posts : CallAdvances p a (.asked q) .quiet (.posted q)
  | takes : CallAdvances p a (.posted q) (.taken (some a) q) (.serving q)
  | drops : CallAdvances p a (.posted q) (.taken (some a) q) (.dropped q)
  | hushes : CallAdvances p a (.serving q) .quiet (.silent q)
  | forgets : CallAdvances p a (.silent q) .quiet (.hushed q)
  | gives : CallAdvances p a (.hushed q) .quiet .leaving
  | answers : CallAdvances p a (.serving q) (.answered (some a) q r) (.replied q r)
  | signals : CallAdvances p a (.replied q r) .quiet (.signalled q r)
  | notices : CallAdvances p a (.signalled q r) .quiet (.notified q r)
  | receives : CallAdvances p a (.notified q r) (.received p q r) .leaving
  | leaves : CallAdvances p a .leaving .quiet .idle

-- What each step makes of an exchange.
section Stages

variable {p a : Nat} {phase : ClientPhase} {view : Attention} {action : Int} {f : File} {x : CallStage} {q : List UInt8}

theorem CallAt.refuse (here : CallAt .idle view action f x) : ∃ y, CallAt .leaving view action f y ∧ CallAdvances p a x .quiet y := by
  cases here with
  | idle hollow => exact ⟨.leaving,.leaving (by decide) hollow,.refuses⟩

theorem CallAt.ask (here : CallAt .idle view action f x) :
    Hollow f ∧ ∀ g, Holds g q → ∃ y, CallAt (.asked q) view action g y ∧ CallAdvances p a x (.asked p q) y := by
  cases here with
  | idle hollow => exact ⟨hollow,fun g holds => ⟨.asked q,.asked holds,.asks⟩⟩

theorem CallAt.post (here : CallAt (.asked q) view action f x) : ∃ y, CallAt (.posted q) view actionRequest f y ∧ CallAdvances p a x .quiet y := by
  cases here with
  | asked holds => exact ⟨.posted q,.posted (.inl rfl) holds,.posts⟩

theorem CallAt.poll (here : CallAt (.posted q) view action f x) :
    ∃ y, CallAt (if action = actionReply then .notified q else if action = actionError ∨ action = actionNull then .leaving else .posted q) view action f y ∧
      CallAdvances p a x .quiet y := by
  cases here with
  | posted seen holds => exact ⟨_,.posted seen holds,.stays id⟩
  | dropped seen hollow => exact ⟨_,.dropped seen hollow,.stays id⟩
  | serving hollow => exact ⟨_,.serving hollow,.stays id⟩
  | silent hollow => exact ⟨_,.silent hollow,.stays id⟩
  | hushed hollow => exact ⟨_,.leaving (by decide) hollow,.gives⟩
  | replied holds => exact ⟨_,.replied holds,.stays id⟩
  | signalled holds => exact ⟨_,.notified holds,.notices⟩

theorem CallAt.receive (here : CallAt (.notified q) view action f x) :
    ∃ r, Holds f r ∧ ∀ g, Hollow g → ∃ y, CallAt .leaving view action g y ∧ CallAdvances p a x (.received p q r) y := by
  cases here with
  | notified holds => exact ⟨_,holds,fun g hollow => ⟨.leaving,.leaving (by decide) hollow,.receives⟩⟩

theorem CallAt.leave (here : CallAt .leaving view action f x) : ∃ y, CallAt .idle view actionNull f y ∧ CallAdvances p a x .quiet y := by
  cases here with
  | leaving _ hollow => exact ⟨.idle,.idle hollow,.leaves⟩

theorem CallAt.check (here : CallAt phase .away action f x) :
    ∃ y, CallAt phase (if action = actionRequest then .reading else .away) action f y ∧ CallAdvances p a x .quiet y := by
  cases here with
  | idle hollow => exact ⟨_,.idle hollow,.stays id⟩
  | asked holds => exact ⟨_,.asked holds,.stays id⟩
  | posted _ holds => exact ⟨_,.posted (.inr rfl) holds,.stays id⟩
  | dropped _ hollow => exact ⟨_,.dropped (.inr rfl) hollow,.stays id⟩
  | hushed hollow => exact ⟨_,.hushed hollow,.stays id⟩
  | signalled holds => exact ⟨_,.signalled holds,.stays id⟩
  | notified holds => exact ⟨_,.notified holds,.stays id⟩
  | leaving other hollow =>
      rw [if_neg other]
      exact ⟨_,.leaving other hollow,.stays id⟩

theorem CallAt.take (here : CallAt phase .reading action f x) :
    (Hollow f ∧ ∃ y, CallAt phase .away action f y ∧ CallAdvances p a x .quiet y) ∨
      ∃ q, Holds f q ∧ ∀ g, Hollow g → (∃ y, CallAt phase .away action g y ∧ CallAdvances p a x (.taken (some a) q) y) ∧
        ∃ y, CallAt phase (.serving q) action g y ∧ CallAdvances p a x (.taken (some a) q) y := by
  cases here with
  | posted _ holds =>
      exact .inr ⟨_,holds,fun g hollow => ⟨⟨_,.dropped (.inl rfl) hollow,.drops⟩,_,.serving hollow,.takes⟩⟩
  | dropped _ hollow => exact .inl ⟨hollow,_,.dropped (.inl rfl) hollow,.stays id⟩

theorem CallAt.silence (here : CallAt phase (.serving q) action f x) : ∃ y, CallAt phase .silent action f y ∧ CallAdvances p a x .quiet y := by
  cases here with
  | posted seen _ => simp at seen
  | dropped seen _ => simp at seen
  | serving hollow => exact ⟨_,.silent hollow,.hushes⟩

theorem CallAt.answer (here : CallAt phase (.serving q) action f x) :
    Hollow f ∧ ∀ g r, Holds g r → ∃ y, CallAt phase .signalling action g y ∧ CallAdvances p a x (.answered (some a) q r) y := by
  cases here with
  | posted seen _ => simp at seen
  | dropped seen _ => simp at seen
  | serving hollow => exact ⟨hollow,fun g r holds => ⟨_,.replied holds,.answers⟩⟩

theorem CallAt.signal (here : CallAt phase .signalling action f x) : ∃ y, CallAt phase .away actionReply f y ∧ CallAdvances p a x .quiet y := by
  cases here with
  | posted seen _ => simp at seen
  | dropped seen _ => simp at seen
  | replied holds => exact ⟨_,.signalled holds,.signals⟩

theorem CallAt.hush (here : CallAt phase .silent action f x) : ∃ y, CallAt phase .away actionNull f y ∧ CallAdvances p a x .quiet y := by
  cases here with
  | posted seen _ => simp at seen
  | dropped seen _ => simp at seen
  | silent hollow => exact ⟨_,.hushed hollow,.forgets⟩

end Stages

end GramadoKernel
