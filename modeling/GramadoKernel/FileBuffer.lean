import GramadoKernel.Library.Runs
import GramadoKernel.State
import Mathlib.Data.List.Basic
import Mathlib.Data.List.Range

namespace GramadoKernel

-- klimits2.h, kstdio.h, kerrno.h
def bufsiz : Int := 1024
def eof : Int := -1
def srd : UInt16 := 0x0004
def swr : UInt16 := 0x0008

-- The object types that the routines on files tell apart.
inductive ObjectType where
  | file | tty | ioBuffer | socket | pipe | virtualConsole | nic | ptmx | pty | fileSystem | other
  deriving DecidableEq

-- struct kstdio_sync_d
structure Sync where
  canRead : Bool
  canWrite : Bool
  canAccept : Bool
  canConnect : Bool
  blockOnWrite : Bool
  blockOnWriteFull : Bool
  blockOnReadEmpty : Bool

-- struct file_d. `base` is the memory seen from _base and `p` the distance of _p
-- from it; a `struct socket_d *` is the index of the socket.
structure File where
  object : ObjectType
  used : Bool
  magic : Nat
  descriptor : Int
  socketBufferFull : Bool
  socket : Option Nat
  base : Int → UInt8
  p : Int
  r : Int
  w : Int
  lbfsize : Int
  cnt : Int
  flags : UInt16
  sync : Sync
  tidWaiting : Int

-- One memcpy from or to the buffer of a file: where it starts, counted from
-- _base, and how many bytes it copies.
structure Copy where
  offset : Int
  length : Nat

-- What one call of file_read_buffer or file_write_buffer does.
structure Transfer where
  value : Int
  file : File
  copied : Option Copy

-- The length of memcpy is an unsigned long.
def memcpyLength (n : Int) : Nat := (n % 18446744073709551616).toNat

def memcpy (memory : Int → UInt8) (offset : Int) (source : Nat → UInt8) (length : Nat) : Int → UInt8 := fun i =>
  if offset ≤ i ∧ i < offset+length then source (i-offset).toNat else memory i

def bytesAt (memory : Int → UInt8) (offset : Int) (length : Nat) : List UInt8 :=
  (List.range length).map fun i : Nat => memory (offset+i)

-- The bytes that a read hands to its caller.
def Transfer.given (t : Transfer) : List UInt8 :=
  match t.copied with
  | none => []
  | some c => bytesAt t.file.base c.offset c.length

def File.Valid (f : File) : Prop := f.used = true ∧ f.magic = 1234
instance (f : File) : Decidable f.Valid := inferInstanceAs (Decidable (_ ∧ _))

-- Regular file, TTY or IO buffer: reading respects the offsets.
def readStream (f : File) (count : Int) : Transfer :=
  if f.lbfsize ≤ 0 then ⟨eof,f,none⟩
  else if 8*1024 < f.lbfsize then ⟨eof,f,none⟩
  else if f.r < 0 then ⟨eof,{f with r := 0},none⟩
  else if f.lbfsize < f.r then ⟨eof,f,none⟩
  else if f.w < f.r then ⟨0,{f with r := f.w},none⟩
  else
    let count := if f.lbfsize < count then f.lbfsize-1 else count
    let delta := f.w-f.r
    if delta = 0 then ⟨0,f,none⟩
    else
      let count := if delta < count then delta else count
      if count ≤ 0 then ⟨eof,{f with p := f.r},none⟩
      else
        let r := if f.w < f.r+count then f.w else f.r+count
        ⟨count,{f with p := f.r+count,r := r,flags := f.flags ||| swr,sync := {f.sync with canWrite := true}},
          some ⟨f.r,memcpyLength count⟩⟩

-- Socket or pipe: nothing is appended.
def readMessage (f : File) (count : Int) : Transfer :=
  ⟨count,{f with flags := f.flags ||| swr},some ⟨0,memcpyLength count⟩⟩

def fileReadBuffer (f : File) (buffer : UInt64) (len : Int) : Transfer :=
  let count := len % 65536
  if ¬ f.Valid then ⟨eof,f,none⟩
  else if buffer = 0 then ⟨eof,f,none⟩
  else if count ≤ 0 then ⟨eof,f,none⟩
  else if f.lbfsize < count then ⟨eof,f,none⟩
  else
    match f.object with
    | .socket => readMessage f count
    | .pipe => readMessage f count
    | .file => readStream f count
    | .tty => readStream f count
    | .ioBuffer => readStream f count
    | _ => ⟨eof,f,none⟩

def writeStream (f : File) (string : Nat → UInt8) (len : Int) : Transfer :=
  if bufsiz < f.lbfsize then ⟨eof,f,none⟩
  else if f.w < 0 then ⟨eof,{f with p := 0,w := 0,r := 0,cnt := f.lbfsize},none⟩
  else if bufsiz ≤ f.w then ⟨eof,{f with w := bufsiz,cnt := 0},none⟩
  else if f.cnt < 0 then ⟨eof,{f with cnt := 0,w := f.lbfsize,r := f.lbfsize,p := f.lbfsize},none⟩
  else
    let f := if f.lbfsize < f.cnt then {f with cnt := f.lbfsize,p := 0,w := 0,r := 0} else f
    if len < 0 then ⟨-1,f,none⟩
    else if f.cnt < len ∧ f.cnt ≤ 0 then ⟨-1,{f with w := f.lbfsize,r := f.lbfsize,p := f.lbfsize,cnt := 0},none⟩
    else
      let len := if f.cnt < len then f.cnt else len
      let f := if f.w < f.r then {f with w := f.r,cnt := f.lbfsize-f.r} else f
      ⟨len,
        {f with
          base := memcpy f.base f.w string (memcpyLength len)
          p := f.w+len
          w := f.w+len
          cnt := f.cnt-len
          flags := srd
          sync := {f.sync with canRead := true}},
        some ⟨f.w,memcpyLength len⟩⟩

def writeMessage (f : File) (string : Nat → UInt8) (len : Int) : Transfer :=
  ⟨len,{f with base := memcpy f.base 0 string (memcpyLength len)},some ⟨0,memcpyLength len⟩⟩

def fileWriteBuffer (f : File) (string : Option (Nat → UInt8)) (len : Int) : Transfer :=
  match string with
  | none => ⟨eof,f,none⟩
  | some string =>
      if bufsiz ≤ len then ⟨eof,f,none⟩
      else
        match f.object with
        | .socket => writeMessage f string len
        | .pipe => writeMessage f string len
        | .file => writeStream f string len
        | .tty => writeStream f string len
        | .ioBuffer => writeStream f string len
        | _ => ⟨eof,f,none⟩

end GramadoKernel
