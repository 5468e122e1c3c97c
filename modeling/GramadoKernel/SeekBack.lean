import GramadoKernel.StreamBuffer
import GramadoKernel.StreamSeek
import Mathlib.Data.List.GetD

namespace GramadoKernel

-- A write of all the data where the file stands.
def Stream.written (f : Stream) (data : List UInt8) : Stream :=
  {f with toFile := (fileWriteBuffer f.toFile (some fun i => data.getD i 0) data.length).file}

-- A read of n-k bytes after k_fseek(f,k,SEEK_SET).
def ReadsBack (f : Stream) (data : List UInt8) (k : Nat) (buffer : UInt64) : Prop :=
  ∃ r, kFseek (f.written data) k seekSet = .ok r ∧
    (fileReadBuffer r.stream.toFile buffer (data.length-k)).given = data.drop k

-- A second write after k_fseek(f,0,SEEK_SET).
def Overwrites (f : Stream) (data more : List UInt8) : Prop :=
  ∃ r, kFseek (f.written data) 0 seekSet = .ok r ∧
    bytesAt (r.stream.written more).base 0 data.length = more ++ data.drop more.length

-- What a write at the start of a regular file leaves, of which as many bytes are
-- taken as _cnt says.
theorem written_start {f : File} (object : f.object = .file) (limit : f.lbfsize ≤ bufsiz) (start : f.r = 0 ∧ f.w = 0)
    (space : 0 < f.cnt ∧ f.cnt ≤ f.lbfsize) (source : Nat → UInt8) {n : Nat} (short : (n : Int) < bufsiz) :
    Appended f source (min n f.cnt.toNat) (fileWriteBuffer f (some source) n).file := by
  obtain ⟨r,w⟩ := start
  have taken : (if f.cnt < n then f.cnt else n) = ((min n f.cnt.toNat : Nat) : Int) := by split <;> omega
  have length : memcpyLength (min n f.cnt.toNat : Nat) = min n f.cnt.toNat := by
    rw [memcpyLength_small (by omega) (by omega)]
    rfl
  have some : 0 < bufsiz := by decide
  simp only [fileWriteBuffer,object,writeStream]
  rw [if_neg (by omega),if_neg (by omega),if_neg (by omega),if_neg (by omega),if_neg (by omega),if_neg (show ¬ f.lbfsize < f.cnt by omega),
    if_neg (by omega),if_neg (by omega),if_neg (show ¬ f.w < f.r by omega)]
  simp only [taken,length]
  exact ⟨rfl,id,rfl,rfl,rfl,rfl,rfl⟩

-- Nothing is read where the offsets meet.
theorem fileReadBuffer_met {f : File} (object : f.object = .file) (met : f.w = f.r) (buffer : UInt64) (len : Int) :
    (fileReadBuffer f buffer len).given = [] := by
  have stream (count : Int) : (readStream f count).copied = none := by
    have nothing : f.w-f.r = 0 := by omega
    simp only [readStream,nothing,if_true]
    repeat (first | rfl | split)
  have none : (fileReadBuffer f buffer len).copied = none := by
    simp only [fileReadBuffer,object]
    repeat (first | rfl | exact stream _ | split)
  rw [Transfer.given,none]

-- The bytes at the start after a write of which n are taken.
theorem bytesAt_overwritten (memory : Int → UInt8) (more : List UInt8) {n size : Nat} (few : n ≤ more.length) (within : n ≤ size) :
    bytesAt (memcpy memory 0 (fun i => more.getD i 0) n) 0 size = more.take n ++ (bytesAt memory 0 size).drop n := by
  obtain ⟨rest,rfl⟩ := Nat.exists_eq_add_of_le within
  have length : (bytesAt memory 0 n).length = n := by simp [bytesAt]
  have first : (List.range n).map (fun i => more.getD i 0) = more.take n := by
    apply List.ext_getElem
    · simp [few]
    · intro i left right
      simp only [List.length_map,List.length_range] at left
      rw [List.getElem_map,List.getElem_range,List.getD_eq_getElem _ _ (by omega),List.getElem_take]
  have above : bytesAt (memcpy memory 0 (fun i => more.getD i 0) n) (0+n) rest = bytesAt memory (0+n) rest := by
    apply List.map_congr_left
    intro i _
    exact if_neg (by omega)
  rw [bytesAt_append,bytesAt_append,bytesAt_copied _ _ _ (Nat.le_refl n),first,above,List.drop_left' length]

theorem written_opened {f : Stream} {data : List UInt8} (opened : Opened f.toFile) (short : data.length < f.lbfsize) :
    Appended f.toFile (fun i => data.getD i 0) data.length (f.written data).toFile := by
  have limit := opened.limit
  have space := opened.cnt
  have some := opened.some
  have appended := written_start opened.object limit ⟨opened.r,opened.w⟩ (by omega) (fun i => data.getD i 0) (n := data.length) (by omega)
  rwa [Nat.min_eq_left (by omega)] at appended

theorem written_bytes {f : Stream} {data : List UInt8} (opened : Opened f.toFile) (short : data.length < f.lbfsize) :
    bytesAt (f.written data).base 0 data.length = data := by
  have appended := written_opened opened short
  rw [appended.base,opened.w,bytesAt_overwritten _ _ (Nat.le_refl _) (Nat.le_refl _),List.take_length,List.drop_of_length_le (by simp [bytesAt]),
    List.append_nil]

-- k_fseek sets both offsets, at most to what _cnt says is free.
theorem sought_written {f : Stream} {data : List UInt8} (opened : Opened f.toFile) (short : data.length < f.lbfsize) (k : Nat) :
    ∃ r, kFseek (f.written data) k seekSet = .ok r ∧ r.stream = (f.written data).moved (min k (f.lbfsize-data.length)) := by
  have appended := written_opened opened short
  have space := opened.cnt
  have cnt : (f.written data).cnt = f.lbfsize-data.length := by
    rw [appended.cnt]
    omega
  refine ⟨_,by simp only [kFseek,seekSet]; rfl,?_⟩
  simp only [cnt]
  congr 1
  split <;> split <;> omega

-- What is cut off has to be there already.
theorem overwritten_iff (data more : List UInt8) (fewer : more.length ≤ data.length) (room : Nat) :
    more.take (min more.length room) ++ data.drop (min more.length room) = more ++ data.drop more.length ↔
      more.drop room = (data.take more.length).drop room := by
  by_cases fits : more.length ≤ room
  · have none : (data.take more.length).drop room = [] := by
      apply List.drop_of_length_le
      rw [List.length_take]
      omega
    rw [Nat.min_eq_left fits,List.take_length,List.drop_of_length_le fits,none]
    exact ⟨fun _ => rfl,fun _ => rfl⟩
  · have inside : room ≤ (data.take more.length).length := by
      rw [List.length_take]
      omega
    have rest : data.drop room = (data.take more.length).drop room ++ data.drop more.length := by
      rw [← List.drop_append_of_le_length inside,List.take_append_drop]
    have whole : more ++ data.drop more.length = more.take room ++ (more.drop room ++ data.drop more.length) := by
      rw [← List.append_assoc,List.take_append_drop]
    rw [Nat.min_eq_right (by omega),rest,whole,List.append_cancel_left_eq,List.append_cancel_right_eq]
    exact eq_comm

theorem overwrites_iff {f : Stream} {data more : List UInt8} (opened : Opened f.toFile) (short : data.length < f.lbfsize)
    (fewer : more.length ≤ data.length) :
    Overwrites f data more ↔ more.drop (f.lbfsize-data.length).toNat = (data.take more.length).drop (f.lbfsize-data.length).toNat := by
  have appended := written_opened opened short
  have limit := opened.limit
  have space := opened.cnt
  obtain ⟨r,done,stream⟩ := sought_written opened short 0
  have place : min ((0 : Nat) : Int) (f.lbfsize-data.length) = 0 := by omega
  rw [place] at stream
  have cnt : r.stream.cnt = f.lbfsize-data.length := by
    rw [stream]
    exact appended.cnt.trans (by rw [space])
  have lbfsize : r.stream.lbfsize = f.lbfsize := by
    rw [stream]
    exact appended.lbfsize
  have object : r.stream.object = .file := by
    rw [stream]
    exact appended.object.trans opened.object
  have start : r.stream.r = 0 ∧ r.stream.w = 0 := by
    rw [stream]
    exact ⟨rfl,rfl⟩
  have second := written_start object (by rw [lbfsize]; exact limit) start (by omega) (fun i => more.getD i 0) (n := more.length) (by omega)
  have bytes : bytesAt (r.stream.written more).base 0 data.length =
      more.take (min more.length (f.lbfsize-data.length).toNat) ++ data.drop (min more.length (f.lbfsize-data.length).toNat) := by
    have before : bytesAt r.stream.base 0 data.length = data := by
      rw [stream]
      exact written_bytes opened short
    rw [Stream.written,second.base,start.2,cnt,bytesAt_overwritten _ _ (by omega) (by omega),before]
  rw [← overwritten_iff data more fewer,← bytes]
  constructor
  · rintro ⟨r',done',overwritten⟩
    rw [show (0 : Int) = ((0 : Nat) : Int) from rfl,done] at done'
    cases done'
    exact overwritten
  · intro overwritten
    exact ⟨r,done,overwritten⟩

theorem seek_back {f : Stream} {data : List UInt8} (opened : Opened f.toFile) (short : data.length < f.lbfsize) :
    (∀ k buffer, k < data.length → ¬ ReadsBack f data k buffer) ∧
      ∀ more, more.length ≤ data.length →
        (Overwrites f data more ↔
          more.drop (f.lbfsize-data.length).toNat = (data.take more.length).drop (f.lbfsize-data.length).toNat) := by
  have appended := written_opened opened short
  constructor
  · rintro k buffer within ⟨r,done,given⟩
    obtain ⟨r',done',stream⟩ := sought_written opened short k
    rw [done] at done'
    cases done'
    have object : r.stream.object = .file := by
      rw [stream]
      exact appended.object.trans opened.object
    have met : r.stream.w = r.stream.r := by rw [stream]; rfl
    rw [fileReadBuffer_met object met] at given
    have length := congrArg List.length given
    rw [List.length_drop,List.length_nil] at length
    omega
  · intro more fewer
    exact overwrites_iff opened short fewer

-- A regular file with a buffer of 4 bytes.
def fourBytes : Stream := {smallFile with lbfsize := 4,cnt := 4,fsize := 0}

-- Three bytes are written, none is read back, and of two new bytes one is taken.
theorem seek_back_four :
    (∀ k buffer, k < 3 → ¬ ReadsBack fourBytes [65,66,67] k buffer) ∧ ¬ Overwrites fourBytes [65,66,67] [88,89] := by
  obtain ⟨reads,overwrites⟩ := seek_back (f := fourBytes)
    ⟨rfl,⟨rfl,rfl⟩,by decide,by decide,rfl,rfl,rfl⟩ (show (([65,66,67] : List UInt8).length : Int) < fourBytes.lbfsize by decide)
  refine ⟨reads,?_⟩
  rw [overwrites [88,89] (by decide)]
  decide

theorem sought_byte_not_read :
    Opened fourBytes.toFile ∧ (fileWriteBuffer fourBytes.toFile (some fun i => [65,66,67].getD i 0) 3).value = 3 ∧
      ¬ ∃ r, kFseek (fourBytes.written [65,66,67]) 1 seekSet = .ok r ∧ (fileReadBuffer r.stream.toFile 0x1000 2).given = [66,67] := by
  refine ⟨⟨rfl,⟨rfl,rfl⟩,by decide,by decide,rfl,rfl,rfl⟩,by decide,?_⟩
  rintro ⟨r,done,given⟩
  cases done
  revert given
  decide

end GramadoKernel
