import GramadoKernel.FileBuffer

namespace GramadoKernel

-- kstdio.h
def seekSet : Int := 0
def seekCur : Int := 1
def seekEnd : Int := 2
def gramadoSeekClear : Int := 1000

-- The part of struct file_d that the stream routines use, with _fsize. The buffer is
-- allocated, so _p is never NULL.
structure Stream extends File where
  fsize : Int

-- A number stored in an int.
def toInt (n : Int) : Int := (n+2147483648) % 4294967296-2147483648

-- A number stored in a char.
def toChar (n : Int) : UInt8 := UInt8.ofNat (n % 256).toNat

-- What a call leaves, with the places of the buffer it has read or written.
structure SeekResult where
  value : Int
  stream : Stream
  touched : List Int

def Stream.failed (f : Stream) : SeekResult := ⟨-1,f,[]⟩

def Stream.moved (f : Stream) (position : Int) : Stream := {f with p := position,r := toInt position,w := toInt position}

-- The first BUFSIZ bytes are cleared.
def Stream.cleared (f : Stream) : Stream :=
  {f with base := fun i => if 0 ≤ i ∧ i < bufsiz then 0 else f.base i,p := 0,r := 0,w := 0,cnt := f.lbfsize}

def bufferStart : List Int := (List.range bufsiz.toNat).map fun i : Nat => (i : Int)

def kFseek (f : Stream) (offset whence : Int) : Except Halt SeekResult :=
  if whence < 0 then .ok f.failed
  else if whence = seekSet then
    let offset := if offset < 0 then 0 else offset
    let offset := if f.cnt < offset then f.cnt else offset
    .ok ⟨0,f.moved offset,[]⟩
  else if whence = seekCur then
    let offset := if f.cnt < offset then f.cnt else offset
    .ok ⟨0,f.moved (f.p+offset),[]⟩
  else if whence = seekEnd then do
    let offset := if 0 < offset then 0 else offset
    require (¬ f.lbfsize < f.fsize) (.panic "k_fseek: #todo f->_fsize > f->_lbfsize\n")
    require (¬ f.lbfsize < f.fsize+offset) (.panic "k_fseek: #todo (f->_fsize + offset) > f->_lbfsize\n")
    .ok ⟨0,f.moved (f.fsize+offset),[]⟩
  else if whence = gramadoSeekClear then .ok ⟨0,f.cleared,bufferStart⟩
  else .ok f.failed

def kFgetc (f : Stream) : SeekResult := ⟨(f.base f.p).toNat,{f with p := f.p+1,cnt := f.cnt-1},[f.p]⟩

def kUngetc (c : Int) (f : Stream) : SeekResult :=
  if c = eof then ⟨c,f,[]⟩
  else ⟨c,{f with base := Function.update f.base (f.p-1) (toChar c),p := f.p-1},[f.p-1]⟩

-- ksprintf (f->_p,"%c",ch): nothing is written for a NUL.
def Stream.print (f : Stream) (ch : Int) : Stream × List Int :=
  if toChar ch = 0 then (f,[])
  else ({f with base := Function.update f.base f.p (toChar ch)},[f.p])

def kFputc (ch : Int) (f : Stream) : Except Halt SeekResult :=
  if 0 < f.cnt ∧ ch ≠ 10 then do
    let (f,touched) := f.print ch
    let f : Stream := {f with p := f.p+1,w := f.w+1,cnt := f.cnt-1}
    require (¬ f.cnt ≤ 0) (.panic "k_fputc: _cnt\n")
    .ok ⟨ch,{f with flags := f.flags ||| srd},touched⟩
  else .ok f.failed

def kRewind (f : Stream) : Stream := {f with p := 0}

inductive SeekCall where
  | fseek (offset whence : Int)
  | fgetc
  | ungetc (c : Int)
  | fputc (ch : Int)
  | rewind

def SeekCall.on (f : Stream) : SeekCall → Except Halt SeekResult
  | .fseek offset whence => kFseek f offset whence
  | .fgetc => .ok (kFgetc f)
  | .ungetc c => .ok (kUngetc c f)
  | .fputc ch => kFputc ch f
  | .rewind => .ok ⟨0,kRewind f,[]⟩

structure SeekEvent where
  before : Stream
  call : SeekCall
  result : SeekResult

def SeekTurn (s : Stream) (e : SeekEvent) (t : Stream) : Prop := e.before = s ∧ e.call.on s = .ok e.result ∧ e.result.stream = t

structure Stream.InBuffer (f : Stream) : Prop where
  p : 0 ≤ f.p ∧ f.p ≤ f.lbfsize
  r : 0 ≤ f.r ∧ f.r ≤ f.lbfsize
  w : 0 ≤ f.w ∧ f.w ≤ f.lbfsize
  cnt : 0 ≤ f.cnt ∧ f.cnt ≤ f.lbfsize

-- The call leaves all positions in the buffer and touches nothing outside of it.
structure SeekEvent.Kept (e : SeekEvent) : Prop where
  inBuffer : e.result.stream.InBuffer
  touched : ∀ i ∈ e.result.touched, 0 ≤ i ∧ i < e.before.lbfsize

-- When a call does.
def Stays (f : Stream) : SeekCall → Prop
  | .fseek offset whence =>
      (whence = seekCur → 0 ≤ f.p+min offset f.cnt ∧ f.p+min offset f.cnt ≤ f.lbfsize) ∧
      (whence = seekEnd → 0 ≤ f.fsize+min offset 0) ∧ (whence = gramadoSeekClear → bufsiz ≤ f.lbfsize)
  | .fgetc => f.p < f.lbfsize ∧ 0 < f.cnt
  | .ungetc c => c = eof ∨ 0 < f.p
  | .fputc ch => 0 < f.cnt ∧ ch ≠ 10 → f.p < f.lbfsize ∧ f.w < f.lbfsize
  | .rewind => True

-- The sizes, which no call changes.
structure Stream.Sized (f : Stream) : Prop where
  fsize : 0 ≤ f.fsize ∧ f.fsize ≤ f.lbfsize
  lbfsize : f.lbfsize ≤ 2147483647

structure Stream.Sound (f : Stream) : Prop extends f.Sized,f.InBuffer

theorem toInt_small {n : Int} (small : 0 ≤ n ∧ n ≤ 2147483647) : toInt n = n := by
  unfold toInt
  omega

theorem moved_inBuffer {f : Stream} (sized : f.Sized) (inside : f.InBuffer) (position : Int) :
    (f.moved position).InBuffer ↔ 0 ≤ position ∧ position ≤ f.lbfsize := by
  constructor
  · intro after
    exact after.p
  · intro within
    have small : toInt position = position := toInt_small ⟨within.1,Int.le_trans within.2 sized.lbfsize⟩
    refine ⟨within,?_,?_,inside.cnt⟩
    · show 0 ≤ toInt position ∧ toInt position ≤ f.lbfsize
      rw [small]
      exact within
    · show 0 ≤ toInt position ∧ toInt position ≤ f.lbfsize
      rw [small]
      exact within

-- What k_fseek leaves.
inductive Sought (f : Stream) (offset whence : Int) (r : SeekResult) : Prop where
  | moved (position : Int) (stream : r.stream = f.moved position) (touched : r.touched = [])
      (place : whence = seekSet ∧ position = min (max offset 0) f.cnt ∨ whence = seekCur ∧ position = f.p+min offset f.cnt ∨
        whence = seekEnd ∧ position = f.fsize+min offset 0)
  | cleared (clear : whence = gramadoSeekClear) (stream : r.stream = f.cleared) (touched : r.touched = bufferStart)
  | failed (other : whence ≠ seekCur ∧ whence ≠ seekEnd ∧ whence ≠ gramadoSeekClear) (stream : r.stream = f) (touched : r.touched = [])

theorem kFseek_sought {f : Stream} {offset whence : Int} {r : SeekResult} (done : kFseek f offset whence = .ok r) : Sought f offset whence r := by
  unfold kFseek at done
  split at done
  · rename_i negative
    cases done
    refine .failed ?_ rfl rfl
    unfold seekCur seekEnd gramadoSeekClear
    omega
  split at done
  · rename_i set
    cases done
    refine .moved _ rfl rfl (.inl ⟨set,?_⟩)
    split <;> split <;> omega
  split at done
  · rename_i cur
    cases done
    refine .moved _ rfl rfl (.inr (.inl ⟨cur,?_⟩))
    split <;> omega
  split at done
  · rename_i last
    simp only [bind_ok,require_ok,Except.ok.injEq] at done
    obtain ⟨_,_,_,_,rfl⟩ := done
    refine .moved _ rfl rfl (.inr (.inr ⟨last,?_⟩))
    split <;> omega
  split at done
  · rename_i clear
    cases done
    exact .cleared clear rfl (by dsimp only)
  · rename_i notCur notEnd notClear
    cases done
    exact .failed ⟨notCur,notEnd,notClear⟩ rfl rfl

theorem mem_bufferStart {i : Int} : i ∈ bufferStart ↔ 0 ≤ i ∧ i < bufsiz := by
  unfold bufferStart
  rw [List.mem_map]
  constructor
  · rintro ⟨n,small,rfl⟩
    rw [List.mem_range] at small
    omega
  · rintro ⟨low,high⟩
    refine ⟨i.toNat,?_,Int.toNat_of_nonneg low⟩
    rw [List.mem_range]
    omega

theorem bufferStart_inside (size : Int) : (∀ i ∈ bufferStart, 0 ≤ i ∧ i < size) ↔ bufsiz ≤ size := by
  simp only [mem_bufferStart]
  constructor
  · intro all
    have last := (all (bufsiz-1) (by decide)).2
    omega
  · intro large i within
    omega

theorem kFseek_kept {f : Stream} {offset whence : Int} {r : SeekResult} (sound : f.Sound) (done : kFseek f offset whence = .ok r) :
    (r.stream.InBuffer ∧ ∀ i ∈ r.touched, 0 ≤ i ∧ i < f.lbfsize) ↔ Stays f (.fseek offset whence) := by
  have inside := sound.toInBuffer
  have cnt := inside.cnt
  have fsize := sound.fsize
  have limit := sound.lbfsize
  cases kFseek_sought done with
  | moved position stream touched place =>
      rw [stream,touched,moved_inBuffer sound.toSized inside]
      unfold Stays seekCur seekEnd gramadoSeekClear
      unfold seekSet seekCur seekEnd at place
      simp only [List.not_mem_nil,false_imp_iff,implies_true,and_true]
      omega
  | cleared clear stream touched =>
      rw [stream,touched,bufferStart_inside,clear]
      have start : f.cleared.InBuffer := by
        have positive : 0 ≤ f.lbfsize := Int.le_trans cnt.1 cnt.2
        exact ⟨⟨Int.le_refl 0,positive⟩,⟨Int.le_refl 0,positive⟩,⟨Int.le_refl 0,positive⟩,⟨positive,Int.le_refl _⟩⟩
      unfold Stays seekCur seekEnd gramadoSeekClear
      simp [start]
  | failed other stream touched =>
      rw [stream,touched]
      unfold Stays
      simp [other,inside]

theorem kFgetc_kept {f : Stream} (sound : f.Sound) :
    ((kFgetc f).stream.InBuffer ∧ ∀ i ∈ (kFgetc f).touched, 0 ≤ i ∧ i < f.lbfsize) ↔ Stays f .fgetc := by
  have p := sound.p
  have cnt := sound.cnt
  unfold Stays kFgetc
  rw [List.forall_mem_singleton]
  constructor
  · rintro ⟨after,place⟩
    have left : 0 ≤ f.cnt-1 ∧ f.cnt-1 ≤ f.lbfsize := after.cnt
    omega
  · intro stays
    have next : 0 ≤ f.p+1 ∧ f.p+1 ≤ f.lbfsize := by omega
    have left : 0 ≤ f.cnt-1 ∧ f.cnt-1 ≤ f.lbfsize := by omega
    exact ⟨⟨next,sound.r,sound.w,left⟩,p.1,stays.1⟩

theorem kUngetc_kept {f : Stream} (sound : f.Sound) (c : Int) :
    ((kUngetc c f).stream.InBuffer ∧ ∀ i ∈ (kUngetc c f).touched, 0 ≤ i ∧ i < f.lbfsize) ↔ Stays f (.ungetc c) := by
  have p := sound.p
  unfold Stays kUngetc
  by_cases ending : c = eof
  · rw [if_pos ending]
    simp [ending,sound.toInBuffer]
  · rw [if_neg ending,List.forall_mem_singleton]
    constructor
    · rintro ⟨after,place⟩
      right
      omega
    · intro stays
      have earlier : 0 ≤ f.p-1 ∧ f.p-1 ≤ f.lbfsize := by omega
      exact ⟨⟨earlier,sound.r,sound.w,sound.cnt⟩,by omega⟩

-- Printing a character writes at most its own place.
structure Printed (f : Stream) (printed : Stream × List Int) : Prop where
  p : printed.1.p = f.p
  r : printed.1.r = f.r
  w : printed.1.w = f.w
  cnt : printed.1.cnt = f.cnt
  lbfsize : printed.1.lbfsize = f.lbfsize
  fsize : printed.1.fsize = f.fsize
  places : ∀ i ∈ printed.2, i = f.p

theorem print_printed (f : Stream) (ch : Int) : Printed f (f.print ch) := by
  unfold Stream.print
  split
  · exact ⟨rfl,rfl,rfl,rfl,rfl,rfl,by simp⟩
  · exact ⟨rfl,rfl,rfl,rfl,rfl,rfl,by simp⟩

theorem kFputc_kept {f : Stream} {ch : Int} {r : SeekResult} (sound : f.Sound) (done : kFputc ch f = .ok r) :
    (r.stream.InBuffer ∧ ∀ i ∈ r.touched, 0 ≤ i ∧ i < f.lbfsize) ↔ Stays f (.fputc ch) := by
  have p := sound.p
  have w := sound.w
  have cnt := sound.cnt
  unfold kFputc at done
  split at done
  · rename_i put
    simp only [bind_ok,require_ok,Except.ok.injEq] at done
    obtain ⟨_,room,rfl⟩ := done
    have printed := print_printed f ch
    rw [printed.cnt] at room
    unfold Stays
    constructor
    · rintro ⟨after,_⟩ _
      have next : 0 ≤ (f.print ch).1.p+1 ∧ (f.print ch).1.p+1 ≤ (f.print ch).1.lbfsize := after.p
      have offset : 0 ≤ (f.print ch).1.w+1 ∧ (f.print ch).1.w+1 ≤ (f.print ch).1.lbfsize := after.w
      rw [printed.p,printed.lbfsize] at next
      rw [printed.w,printed.lbfsize] at offset
      omega
    · intro stays
      have free := stays put
      refine ⟨⟨?_,?_,?_,?_⟩,fun i among => ?_⟩
      · show 0 ≤ (f.print ch).1.p+1 ∧ (f.print ch).1.p+1 ≤ (f.print ch).1.lbfsize
        rw [printed.p,printed.lbfsize]
        omega
      · show 0 ≤ (f.print ch).1.r ∧ (f.print ch).1.r ≤ (f.print ch).1.lbfsize
        rw [printed.r,printed.lbfsize]
        exact sound.r
      · show 0 ≤ (f.print ch).1.w+1 ∧ (f.print ch).1.w+1 ≤ (f.print ch).1.lbfsize
        rw [printed.w,printed.lbfsize]
        omega
      · show 0 ≤ (f.print ch).1.cnt-1 ∧ (f.print ch).1.cnt-1 ≤ (f.print ch).1.lbfsize
        rw [printed.cnt,printed.lbfsize]
        omega
      · rw [printed.places i among]
        omega
  · rename_i nothing
    cases done
    unfold Stays
    simp [Stream.failed,sound.toInBuffer,nothing]

theorem seekCall_kept {s t : Stream} {e : SeekEvent} (sound : s.Sound) (turn : SeekTurn s e t) : e.Kept ↔ Stays e.before e.call := by
  obtain ⟨before,call,result⟩ := e
  obtain ⟨here,done,_⟩ := turn
  replace here : before = s := here
  subst here
  have both : SeekEvent.Kept ⟨before,call,result⟩ ↔ result.stream.InBuffer ∧ ∀ i ∈ result.touched, 0 ≤ i ∧ i < before.lbfsize :=
    ⟨fun kept => ⟨kept.inBuffer,kept.touched⟩,fun kept => ⟨kept.1,kept.2⟩⟩
  rw [both]
  cases call with
  | fseek offset whence => exact kFseek_kept sound done
  | fgetc =>
      cases done
      exact kFgetc_kept sound
  | ungetc c =>
      cases done
      exact kUngetc_kept sound c
  | fputc ch => exact kFputc_kept sound done
  | rewind =>
      cases done
      have start : (kRewind before).InBuffer := ⟨⟨Int.le_refl 0,Int.le_trans sound.cnt.1 sound.cnt.2⟩,sound.r,sound.w,sound.cnt⟩
      unfold Stays
      simp [start]

-- No call changes the sizes.
theorem seekCall_sizes {s t : Stream} {e : SeekEvent} (turn : SeekTurn s e t) : t.fsize = s.fsize ∧ t.lbfsize = s.lbfsize := by
  obtain ⟨before,call,result⟩ := e
  obtain ⟨here,done,there⟩ := turn
  replace here : before = s := here
  replace there : result.stream = t := there
  subst here there
  cases call with
  | fseek offset whence =>
      cases kFseek_sought done with
      | moved position stream =>
          rw [stream]
          exact ⟨rfl,rfl⟩
      | cleared _ stream =>
          rw [stream]
          exact ⟨rfl,rfl⟩
      | failed _ stream =>
          rw [stream]
          exact ⟨rfl,rfl⟩
  | fgetc =>
      cases done
      exact ⟨rfl,rfl⟩
  | ungetc c =>
      obtain rfl : kUngetc c before = result := Except.ok.inj done
      unfold kUngetc
      split
      · exact ⟨rfl,rfl⟩
      · exact ⟨rfl,rfl⟩
  | fputc ch =>
      replace done : kFputc ch before = .ok result := done
      have printed := print_printed before ch
      unfold kFputc at done
      split at done
      · simp only [bind_ok,require_ok,Except.ok.injEq] at done
        obtain ⟨_,_,rfl⟩ := done
        exact ⟨printed.fsize,printed.lbfsize⟩
      · cases done
        exact ⟨rfl,rfl⟩
  | rewind =>
      cases done
      exact ⟨rfl,rfl⟩

theorem Stream.Sound.next {s t : Stream} {e : SeekEvent} (sound : s.Sound) (turn : SeekTurn s e t) (kept : e.Kept) : t.Sound := by
  obtain ⟨fsize,lbfsize⟩ := seekCall_sizes turn
  refine ⟨⟨?_,?_⟩,turn.2.2 ▸ kept.inBuffer⟩
  · rw [fsize,lbfsize]
    exact sound.fsize
  · rw [lbfsize]
    exact sound.toSized.lbfsize

-- A stream as a file is opened.
structure Stream.Opened (f : Stream) : Prop extends f.Sized where
  p : f.p = 0
  r : f.r = 0
  w : f.w = 0
  cnt : f.cnt = f.lbfsize

theorem Stream.Opened.sound {f : Stream} (opened : f.Opened) : f.Sound := by
  have positive : 0 ≤ f.lbfsize := Int.le_trans opened.fsize.1 opened.fsize.2
  refine ⟨opened.toSized,⟨?_,?_,?_,?_⟩⟩
  · rw [opened.p]
    exact ⟨Int.le_refl 0,positive⟩
  · rw [opened.r]
    exact ⟨Int.le_refl 0,positive⟩
  · rw [opened.w]
    exact ⟨Int.le_refl 0,positive⟩
  · rw [opened.cnt]
    exact ⟨positive,Int.le_refl _⟩

-- The positions stay in the buffer exactly as long as every call may be made.
theorem stream_kept_iff {start t : Stream} {events : List SeekEvent} (opened : start.Opened) (run : Runs.Path SeekTurn start events t) :
    (∀ e ∈ events, e.Kept) ↔ ∀ e ∈ events, Stays e.before e.call :=
  (run.forall_iff Stream.Sound SeekEvent.Kept (fun e => Stays e.before e.call) (fun _ _ _ sound turn => seekCall_kept sound turn)
    (fun _ _ _ sound turn kept => sound.next turn kept) opened.sound).1

-- A file of 100 bytes in a buffer of BUFSIZ.
def hundredBytes : Stream where
  object := .file
  used := true
  magic := 1234
  descriptor := 3
  socketBufferFull := false
  socket := none
  base := fun _ => 65
  p := 0
  r := 0
  w := 0
  lbfsize := bufsiz
  cnt := bufsiz
  flags := swr ||| srd
  sync := ⟨true,true,false,false,false,false,false⟩
  tidWaiting := 0
  fsize := 100

theorem hundredBytes_opened : hundredBytes.Opened := ⟨⟨⟨by decide,by decide⟩,by decide⟩,rfl,rfl,rfl,rfl⟩

theorem hundredBytes_read : ∃ e t, Runs.Path SeekTurn hundredBytes [e] t ∧ e.call = .fgetc ∧ e.Kept := by
  let e : SeekEvent := ⟨hundredBytes,.fgetc,kFgetc hundredBytes⟩
  have run : Runs.Path SeekTurn hundredBytes [e] (kFgetc hundredBytes).stream := .step .nil ⟨rfl,rfl,rfl⟩
  refine ⟨e,_,run,rfl,(stream_kept_iff hundredBytes_opened run).mpr ?_ e (List.mem_singleton_self e)⟩
  rw [List.forall_mem_singleton]
  exact ⟨by decide,by decide⟩

-- One byte back from the start, and the next byte is read before the buffer.
theorem seek_before_start : ∃ e next t, Runs.Path SeekTurn hundredBytes [e,next] t ∧ e.call = .fseek (-1) seekCur ∧ next.call = .fgetc ∧
    next.result.touched = [-1] ∧ ¬ e.Kept := by
  let e : SeekEvent := ⟨hundredBytes,.fseek (-1) seekCur,⟨0,hundredBytes.moved (-1),[]⟩⟩
  let next : SeekEvent := ⟨hundredBytes.moved (-1),.fgetc,kFgetc (hundredBytes.moved (-1))⟩
  have run : Runs.Path SeekTurn hundredBytes [e,next] (kFgetc (hundredBytes.moved (-1))).stream :=
    .step (.step .nil ⟨rfl,rfl,rfl⟩) ⟨rfl,rfl,rfl⟩
  refine ⟨e,next,_,run,rfl,rfl,rfl,fun kept => ?_⟩
  exact absurd kept.inBuffer.p.1 (by decide)

end GramadoKernel
