import GramadoKernel.OpenedFiles
import GramadoKernel.StreamBuffer

namespace GramadoKernel

-- A regular file whose buffer holds a content, of which `k` bytes have been read.
structure HoldsContent (f : File) (content : List UInt8) (lbfsize : Int) (k : Nat) : Prop where
  object : f.object = .file
  valid : f.Valid
  readable : f.sync.canRead = true
  flag : f.flags &&& srd ≠ 0
  length : f.lbfsize = lbfsize
  room : (content.length : Int) < lbfsize
  r : f.r = k
  w : f.w = content.length
  read : k ≤ content.length
  bytes : bytesAt f.base 0 content.length = content

-- The place of a read of `count` bytes behind `k` bytes, and the bytes it gives. A buffer of
-- more than 8 KB is not read.
def readBytes (content : List UInt8) (lbfsize count : Int) (k : Nat) : List UInt8 :=
  if 0 < count ∧ count ≤ lbfsize ∧ lbfsize ≤ 8192 then (content.drop k).take count.toNat else []

theorem srd_kept (flags : UInt16) : (flags ||| swr) &&& srd = flags &&& srd := by
  have apart : swr.toBitVec &&& srd.toBitVec = 0#16 := by decide
  apply UInt16.toBitVec_inj.mp
  simp only [UInt16.toBitVec_and,UInt16.toBitVec_or]
  ext i below
  have here := congrArg (fun b : BitVec 16 => b[i]) apart
  simp only [BitVec.getElem_and,BitVec.getElem_zero] at here
  simp only [BitVec.getElem_and,BitVec.getElem_or,Bool.and_or_distrib_right,here,Bool.or_false]

section Stream

variable {f : File} {content : List UInt8} {lbfsize : Int} {k : Nat}

theorem HoldsContent.piece (holds : HoldsContent f content lbfsize k) {m : Nat} (inside : k+m ≤ content.length) :
    bytesAt f.base k m = (content.drop k).take m := by
  have whole := holds.bytes
  obtain ⟨rest,split⟩ := Nat.exists_eq_add_of_le inside
  rw [split,bytesAt_append,bytesAt_append] at whole
  rw [← whole]
  have first : (bytesAt f.base 0 k).length = k := by simp [bytesAt]
  have second : (bytesAt f.base k m).length = m := by simp [bytesAt]
  rw [List.append_assoc,List.drop_left' first]
  simp only [Int.zero_add]
  rw [List.take_left' second]

theorem readBytes_length (content : List UInt8) (lbfsize count : Int) (k : Nat) : (readBytes content lbfsize count k).length =
    if 0 < count ∧ count ≤ lbfsize ∧ lbfsize ≤ 8192 then min count.toNat (content.length-k) else 0 := by
  unfold readBytes
  split
  · rw [List.length_take,List.length_drop]
  · rfl

-- A read of a regular file gives the next bytes of the content, and leaves the file alone
-- where it gives none.
theorem fileReadBuffer_content (holds : HoldsContent f content lbfsize k) {ubuf : UInt64} (present : ubuf ≠ 0) (len : Int) :
    ((fileReadBuffer f ubuf len).value ≤ 0 ∧ (fileReadBuffer f ubuf len).copied = none ∧ (fileReadBuffer f ubuf len).file = f ∧
        readBytes content lbfsize (len % 65536) k = []) ∨
      ∃ n : Nat, 0 < n ∧ (fileReadBuffer f ubuf len).value = n ∧ (fileReadBuffer f ubuf len).given = readBytes content lbfsize (len % 65536) k ∧
        (readBytes content lbfsize (len % 65536) k).length = n ∧ HoldsContent (fileReadBuffer f ubuf len).file content lbfsize (k+n) := by
  obtain ⟨object,valid,readable,flag,length,room,r,w,read,bytes⟩ := id holds
  have count := readBytes_length content lbfsize (len % 65536) k
  have dispatch : fileReadBuffer f ubuf len = if len % 65536 ≤ 0 then ⟨eof,f,none⟩ else if f.lbfsize < len % 65536 then ⟨eof,f,none⟩
      else readStream f (len % 65536) := by
    simp only [fileReadBuffer,object,not_not.mpr valid,present,if_false]
  have refuses : ∀ {value : Int}, value ≤ 0 → fileReadBuffer f ubuf len = ⟨value,f,none⟩ → (readBytes content lbfsize (len % 65536) k).length = 0 →
      (fileReadBuffer f ubuf len).value ≤ 0 ∧ (fileReadBuffer f ubuf len).copied = none ∧ (fileReadBuffer f ubuf len).file = f ∧
        readBytes content lbfsize (len % 65536) k = [] := by
    intro value low same empty
    rw [same]
    exact ⟨low,rfl,rfl,List.length_eq_zero_iff.mp empty⟩
  have low : eof ≤ 0 := by decide
  by_cases nothing : len % 65536 ≤ 0
  · rw [if_pos nothing] at dispatch
    exact .inl (refuses low dispatch (by rw [count,if_neg (by omega)]))
  · rw [if_neg nothing] at dispatch
    by_cases long : f.lbfsize < len % 65536
    · rw [if_pos long] at dispatch
      exact .inl (refuses low dispatch (by rw [count,if_neg (by omega)]))
    · rw [if_neg long] at dispatch
      by_cases large : 8*1024 < f.lbfsize
      · have stopped : readStream f (len % 65536) = ⟨eof,f,none⟩ := by
          rw [readStream,if_neg (by omega),if_pos large]
        exact .inl (refuses low (dispatch.trans stopped) (by rw [count,if_neg (by omega)]))
      · have goes : readStream f (len % 65536) = if f.w-f.r = 0 then ⟨0,f,none⟩
            else
              let count := if f.w-f.r < len % 65536 then f.w-f.r else len % 65536
              if count ≤ 0 then ⟨eof,{f with p := f.r},none⟩
              else
                let r := if f.w < f.r+count then f.w else f.r+count
                ⟨count,{f with p := f.r+count,r := r,flags := f.flags ||| swr,sync := {f.sync with canWrite := true}},
                  some ⟨f.r,memcpyLength count⟩⟩ := by
          rw [readStream,if_neg (by omega),if_neg large,if_neg (by omega),if_neg (by omega),if_neg (by omega)]
          simp only [if_neg long]
        rw [if_pos (by omega)] at count
        by_cases empty : f.w-f.r = 0
        · rw [if_pos empty] at goes
          exact .inl (refuses (Int.le_refl 0) (dispatch.trans goes) (by omega))
        · rw [if_neg empty] at goes
          have least : ∃ n : Nat, (if f.w-f.r < len % 65536 then f.w-f.r else len % 65536) = n ∧ 0 < n ∧
              n = min (len % 65536).toNat (content.length-k) := by
            split
            · exact ⟨(f.w-f.r).toNat,by omega,by omega,by omega⟩
            · exact ⟨(len % 65536).toNat,by omega,by omega,by omega⟩
          obtain ⟨n,same,more,least⟩ := least
          have inside : k+n ≤ content.length := by omega
          have small : memcpyLength n = n := by
            rw [memcpyLength,Int.emod_eq_of_lt (by omega) (by omega)]
            rfl
          simp only [same,if_neg (show ¬ (n : Int) ≤ 0 by omega),if_neg (show ¬ f.w < f.r+n by omega),small] at goes
          rw [dispatch,goes]
          refine .inr ⟨n,more,rfl,?_,by omega,?_⟩
          · have piece := holds.piece inside
            simp only [Transfer.given,r]
            rw [piece,readBytes,if_pos (by omega)]
            rcases Nat.le_total (len % 65536).toNat (content.length-k) with all | rest
            · rw [show n = (len % 65536).toNat by omega]
            · rw [List.take_of_length_le (by rw [List.length_drop]; omega),List.take_of_length_le (by rw [List.length_drop]; omega)]
          · refine ⟨object,valid,readable,?_,length,room,by simp only; omega,w,inside,bytes⟩
            rw [srd_kept]
            exact flag

end Stream

section Calls

variable {io : Io} {id : Nat} {content : List UInt8} {lbfsize : Int} {k : Nat}

-- A read through any descriptor of the file.
theorem readImp_content (holds : HoldsContent (io.file id) content lbfsize k) {fd : Int} (target : getFileFromFd io fd = some id) {ubuf : UInt64}
    (present : ubuf ≠ 0) {count : Int} (positive : 0 < count) : ∃ answer, readImp io fd ubuf count = .ok answer ∧
      answer.given = readBytes content lbfsize (count % 65536) k ∧ answer.value = (if answer.given = [] then -1 else (answer.given.length : Int)) ∧
      HoldsContent (answer.io.file id) content lbfsize (k+answer.given.length) := by
  obtain ⟨running,inside⟩ := target_current target
  have served : readFile io id ubuf count = .ok (readRegular io id ubuf count) := by
    simp only [readFile,holds.readable,holds.object,Bool.true_eq_false,if_false]
  refine ⟨readRegular io id ubuf count,?_,?_⟩
  · unfold readImp
    rw [if_neg running,if_neg inside,if_neg present,if_neg (by omega),if_neg (by omega),target]
    exact served
  · unfold readRegular
    simp only [if_neg holds.flag]
    rcases fileReadBuffer_content holds present count with ⟨low,none,same,empty⟩ | ⟨n,more,value,given,length,after⟩
    · have nothing : (fileReadBuffer (io.file id) ubuf count).given = [] := by rw [Transfer.given,none]
      rw [if_pos low,nothing,same,empty]
      refine ⟨rfl,rfl,?_⟩
      rw [Io.put_same]
      exact holds
    · have some : readBytes content lbfsize (count % 65536) k ≠ [] := List.ne_nil_of_length_pos (by omega)
      rw [value,if_neg (by omega),given,length,if_neg some]
      refine ⟨rfl,rfl,?_⟩
      rw [Io.put_same]
      exact ⟨after.object,after.valid,after.readable,by rw [srd_kept]; exact after.flag,after.length,after.room,after.r,after.w,after.read,after.bytes⟩

-- A read of the file through any of its descriptors, with the bytes that it gives, or
-- anything that leaves the file alone.
inductive OpenFileStep (id : Nat) (io : Io) : List UInt8 → Io → Prop where
  | read : getFileFromFd io fd = some id → readImp io fd ubuf count = .ok answer → OpenFileStep id io answer.given answer.io
  | elsewhere : after.file id = io.file id → OpenFileStep id io [] after

theorem HoldsContent.step (holds : HoldsContent (io.file id) content lbfsize k) {given : List UInt8} {after : Io} (step : OpenFileStep id io given after) :
    HoldsContent (after.file id) content lbfsize (k+given.length) ∧ given = (content.drop k).take given.length := by
  cases step with
  | elsewhere same =>
      rw [same]
      exact ⟨holds,rfl⟩
  | @read fd ubuf count answer target read =>
      by_cases asked : ubuf ≠ 0 ∧ 0 < count
      · obtain ⟨answer',made,given,_,after⟩ := readImp_content holds target asked.1 asked.2
        cases made.symm.trans read
        refine ⟨after,?_⟩
        rw [given,readBytes]
        split
        · exact (List.take_eq_take_iff.mpr (by rw [List.length_take]; omega)).symm
        · rfl
      · have refused : answer.io = io ∧ answer.given = [] := by
          obtain ⟨running,inside⟩ := target_current target
          unfold readImp at read
          rw [if_neg running,if_neg inside] at read
          split at read
          · cases read
            exact ⟨rfl,rfl⟩
          · split at read
            · cases read
              exact ⟨rfl,rfl⟩
            · split at read
              · cases read
                exact ⟨rfl,rfl⟩
              · exact absurd ⟨by assumption,by omega⟩ asked
        rw [refused.1,refused.2]
        exact ⟨holds,rfl⟩

-- A run gives the content in order.
theorem HoldsContent.run (holds : HoldsContent (io.file id) content lbfsize 0) {pieces : List (List UInt8)} {after : Io}
    (run : Runs.Path (OpenFileStep id) io pieces after) :
    ∃ k, HoldsContent (after.file id) content lbfsize k ∧ pieces.flatten = content.take k := by
  induction run with
  | nil => exact ⟨0,holds,rfl⟩
  | step earlier step ih =>
      obtain ⟨k,there,before⟩ := ih
      obtain ⟨now,piece⟩ := there.step step
      refine ⟨_,now,?_⟩
      rw [List.flatten_append,before,List.flatten_singleton,List.take_add,← piece]

end Calls

section Opened

variable {s t : FileSystem} {a : OpenSupply} {n : OpenName} {pathname : CString}

end Opened

end GramadoKernel
