import ModbusStack.FileRecordReads

/-! FC21 against its reference: all sub-requests are written, from left to right, or none. -/
set_option autoImplicit false

namespace ModbusStack
open ByteMemory SortedTable

structure FileWrite where
  fileNumber : Word
  recordNumber : Word
  words : List Word
  deriving DecidableEq, Repr

namespace FileWrite

def encode (w : FileWrite) : List Byte :=
  [0x06#8] ++ writeBe16 w.fileNumber ++ writeBe16 w.recordNumber ++
    writeBe16 (BitVec.ofNat 16 w.words.length) ++ encodeWords w.words

/-- What the sub-request says about the record with this file number and record number. -/
def cells (w : FileWrite) : Word × Nat → Option Word := fun k =>
  if w.fileNumber = k.1 ∧ w.recordNumber.toNat ≤ k.2 then w.words[k.2-w.recordNumber.toNat]?
  else none

@[simp] theorem encode_length (w : FileWrite) : w.encode.length = 7+2*w.words.length := by
  simp [encode]
  omega

end FileWrite

def writeWords : Nat → List Word → Server → Server
  | _, [], s => s
  | base, v :: vs, s => writeWords (base+1) vs (writeRecord s base v)

section Files
variable (files : Mem FileRecordFile) (n : Nat)

def fileIndex (fileNumber : Word) : Option Nat :=
  (List.range n).find? fun i => decide ((files i).fileNumber = fileNumber)

/-- The files as a client sees them: a word for a file number and a record number. -/
def fileContents (memory : Mem Word) (k : Word × Nat) : Word :=
  match fileIndex files n k.1 with
  | some i => memory ((files i).records+k.2)
  | none => 0#16

def HasRecord (k : Word × Nat) : Prop :=
  ∃ i, i < n ∧ (files i).fileNumber = k.1 ∧ k.2 < (files i).recordCount

def DisjointArrays : Prop :=
  ∀ i j, i < n → j < n → i ≠ j → ∀ a b, a < (files i).recordCount → b < (files j).recordCount →
    (files i).records+a ≠ (files j).records+b

structure WriteAccepted (w : FileWrite) : Prop where
  nonempty : 1 ≤ w.words.length
  range : w.recordNumber.toNat+w.words.length ≤ 10000
  inside : ∃ i, i < n ∧ (files i).fileNumber = w.fileNumber ∧
    w.recordNumber.toNat+w.words.length ≤ (files i).recordCount

def FileWrite.perform (s : Server) (w : FileWrite) : Server :=
  match fileIndex files n w.fileNumber with
  | some i => writeWords ((files i).records+w.recordNumber.toNat) w.words s
  | none => s

/-- The bytes from `offset` to `len` are the encodings of accepted sub-requests. -/
structure Tiled (pdu : Mem Byte) (offset len : Nat) (writes : List FileWrite) : Prop where
  stored : Stored pdu offset (writes.flatMap FileWrite.encode)
  exact : len = offset+(writes.flatMap FileWrite.encode).length
  accepted : ∀ w ∈ writes, WriteAccepted files n w

structure WriteRequest (pdu : Mem Byte) (len : Nat) (writes : List FileWrite) : Prop where
  least : 9 ≤ (pdu 1).toNat
  most : (pdu 1).toNat ≤ 251
  exact : len = 2+(pdu 1).toNat
  tiled : Tiled files n pdu 2 len writes

end Files

section Lookup
variable {st : FileRecordState} {files : Mem FileRecordFile} {n : Nat}

theorem HoldsFiles.index_eq (h : HoldsFiles st files n) {i : Nat} (hi : i < n) {fileNumber : Word}
    (hn : (files i).fileNumber = fileNumber) : fileIndex files n fileNumber = some i := by
  unfold fileIndex
  cases hf : (List.range n).find? fun i => decide ((files i).fileNumber = fileNumber) with
  | none =>
    have := List.find?_eq_none.mp hf i (List.mem_range.mpr hi)
    simp [hn] at this
  | some j =>
    have hj := List.mem_range.mp (List.mem_of_find?_eq_some hf)
    have hp := List.find?_some hf
    simp only [decide_eq_true_eq] at hp
    rw [h.unique hi hj (hn.trans hp.symm)]

theorem HoldsFiles.contents_eq (h : HoldsFiles st files n) (memory : Mem Word) {i : Nat}
    (hi : i < n) {k : Word × Nat} (hn : (files i).fileNumber = k.1) :
    fileContents files n memory k = memory ((files i).records+k.2) := by
  rw [fileContents,h.index_eq hi hn]

theorem HoldsFiles.perform_eq (h : HoldsFiles st files n) (s : Server) {w : FileWrite} {i : Nat}
    (hi : i < n) (hn : (files i).fileNumber = w.fileNumber) :
    w.perform files n s = writeWords ((files i).records+w.recordNumber.toNat) w.words s := by
  rw [FileWrite.perform,h.index_eq hi hn]

end Lookup

/-! The sub-request that the loops decode at an offset. -/

def writeAt (pdu : Mem Byte) (offset : Nat) : FileWrite where
  fileNumber := (readSubrequest pdu offset).fileNumber
  recordNumber := (readSubrequest pdu offset).recordNumber
  words := wordsAt pdu (offset+7) (readSubrequest pdu offset).recordLength.toNat

section Decoding
variable {pdu : Mem Byte} {offset : Nat}

theorem writeAt_stored (h : (readSubrequest pdu offset).referenceType = 0x06#8) :
    Stored pdu offset (writeAt pdu offset).encode := by
  have h0 : pdu offset = 0x06#8 := h
  have hwords := stored_wordsAt pdu (offset+7) (readSubrequest pdu offset).recordLength.toNat
  simp only [FileWrite.encode,writeAt,wordsAt_length,BitVec.ofNat_toNat,BitVec.setWidth_eq,
    writeBe16,List.cons_append,List.nil_append,stored_cons,Nat.add_assoc]
  exact ⟨h0,by simp [readSubrequest],by simp [readSubrequest],by simp [readSubrequest],
    by simp [readSubrequest],by simp [readSubrequest],by simp [readSubrequest],hwords⟩

theorem readSubrequest_of_stored {w : FileWrite} (h : Stored pdu offset w.encode) :
    readSubrequest pdu offset =
      ⟨0x06#8,w.fileNumber,w.recordNumber,BitVec.ofNat 16 w.words.length⟩ := by
  simp only [FileWrite.encode,writeBe16,List.cons_append,List.nil_append,stored_cons,
    Nat.add_assoc] at h
  obtain ⟨h0,h1,h2,h3,h4,h5,h6,-⟩ := h
  simp [readSubrequest,h0,h1,h2,h3,h4,h5,h6]

theorem wordsAt_of_stored {w : FileWrite} (h : Stored pdu offset w.encode) :
    wordsAt pdu (offset+7) w.words.length = w.words := by
  simp only [FileWrite.encode,writeBe16,List.cons_append,List.nil_append,stored_cons,
    Nat.add_assoc] at h
  exact Stored.wordsAt_eq h.2.2.2.2.2.2.2

end Decoding

/-! The two passes. -/

section Passes
variable {files : Mem FileRecordFile} {n : Nat} {pdu : Mem Byte} {len : Nat}

theorem tiled_nil : Tiled files n pdu len len [] := ⟨stored_nil _ _,rfl,by simp⟩

theorem tiled_cons {offset : Nat} {w : FileWrite} {writes : List FileWrite} :
    Tiled files n pdu offset len (w :: writes) ↔
      Stored pdu offset w.encode ∧ WriteAccepted files n w ∧
        Tiled files n pdu (offset+(7+2*w.words.length)) len writes := by
  constructor
  · rintro ⟨hs,hlen,ha⟩
    rw [List.flatMap_cons,stored_append,w.encode_length] at hs
    rw [List.flatMap_cons,List.length_append,w.encode_length] at hlen
    exact ⟨hs.1,ha w (by simp),hs.2,by omega,fun x hx => ha x (by simp [hx])⟩
  · rintro ⟨hw,ha,hs,hlen,hrest⟩
    refine ⟨?_,?_,?_⟩
    · rw [List.flatMap_cons,stored_append,w.encode_length]
      exact ⟨hw,hs⟩
    · rw [List.flatMap_cons,List.length_append,w.encode_length]
      omega
    · simp only [List.mem_cons,forall_eq_or_imp]
      exact ⟨ha,hrest⟩

theorem Tiled.le {offset : Nat} {writes : List FileWrite}
    (h : Tiled files n pdu offset len writes) : offset+9*writes.length ≤ len := by
  induction writes generalizing offset with
  | nil =>
    have := h.exact
    simp only [List.flatMap_nil,List.length_nil] at this ⊢
    omega
  | cons w writes ih =>
    obtain ⟨-,ha,hrest⟩ := tiled_cons.mp h
    have := ih hrest
    have := ha.nonempty
    rw [List.length_cons]
    omega

theorem validateWriteSubrequests_sound {st : FileRecordState} (h : HoldsFiles st files n)
    {fuel offset count e c : Nat} (hle : offset ≤ len) (hfuel : len ≤ offset+fuel)
    (hok : validateWriteSubrequests st pdu len fuel offset count = .ok (e,c)) :
    ∃ writes, Tiled files n pdu offset len writes ∧ e = len ∧ c = count+writes.length := by
  induction fuel generalizing offset count with
  | zero =>
    obtain ⟨rfl,rfl⟩ := Prod.mk.inj (Except.ok.inj hok)
    obtain rfl : offset = len := by omega
    exact ⟨[],tiled_nil,rfl,rfl⟩
  | succ fuel ih =>
    rw [validateWriteSubrequests] at hok
    dsimp only at hok
    split at hok
    · rename_i hlt
      split at hok
      · cases hok
      rename_i hhead
      split at hok
      · cases hok
      rename_i htype
      split at hok
      · cases hok
      rename_i hempty
      split at hok
      · cases hok
      rename_i hrange
      split at hok
      · cases hok
      rename_i hrest
      split at hok
      · cases hok
      rename_i hbad
      split at hok
      · cases hok
      simp only [not_not,not_or,Nat.not_lt,Nat.not_le] at htype hrange
      obtain ⟨writes,htiled,he,hc⟩ := ih (by omega) (by omega) hok
      have hwords : (writeAt pdu offset).words.length =
          (readSubrequest pdu offset).recordLength.toNat := wordsAt_length _ _ _
      have hpos : (readSubrequest pdu offset).recordLength.toNat ≠ 0 := fun hz =>
        hempty (BitVec.eq_of_toNat_eq hz)
      have hinside : InsideFile files n (readSubrequest pdu offset) := by
        by_contra hout
        exact hbad ((h.rangeIsBad_iff _).mpr hout)
      refine ⟨writeAt pdu offset :: writes,tiled_cons.mpr ⟨writeAt_stored htype,?_,?_⟩,he,?_⟩
      · refine ⟨by omega,?_,?_⟩
        · rw [hwords]
          exact hrange.2
        · rw [hwords]
          exact hinside
      · rw [hwords,Nat.mul_comm 2]
        exact htiled
      · rw [List.length_cons]
        omega
    · obtain ⟨rfl,rfl⟩ := Prod.mk.inj (Except.ok.inj hok)
      obtain rfl : offset = len := by omega
      exact ⟨[],tiled_nil,rfl,rfl⟩

theorem validateWriteSubrequests_complete {st : FileRecordState} (h : HoldsFiles st files n)
    {writes : List FileWrite} {fuel offset count : Nat}
    (htiled : Tiled files n pdu offset len writes)
    (hfuel : writes.length ≤ fuel) (hcount : count+writes.length ≤ 27) :
    validateWriteSubrequests st pdu len fuel offset count = .ok (len,count+writes.length) := by
  induction writes generalizing fuel offset count with
  | nil =>
    obtain rfl : len = offset := htiled.exact
    cases fuel with
    | zero => rfl
    | succ fuel =>
      rw [validateWriteSubrequests,if_neg (by omega)]
      rfl
  | cons w writes ih =>
    rw [List.length_cons] at hfuel hcount
    obtain ⟨hs,⟨hnonempty,hrange,hinside⟩,hrest⟩ := tiled_cons.mp htiled
    have hle := hrest.le
    have hsize : (BitVec.ofNat 16 w.words.length).toNat = w.words.length := by
      rw [BitVec.toNat_ofNat]
      omega
    have hempty : BitVec.ofNat 16 w.words.length ≠ 0#16 := fun hz => by
      rw [hz] at hsize
      simp at hsize
      omega
    obtain ⟨fuel,rfl⟩ := Nat.exists_eq_succ_of_ne_zero (show fuel ≠ 0 by omega)
    have hgood : fileRangeIsBad st ⟨0x06#8,w.fileNumber,w.recordNumber,
        BitVec.ofNat 16 w.words.length⟩ = false := by
      rw [← Bool.not_eq_true,h.rangeIsBad_iff,not_not]
      obtain ⟨i,hi,hn,hcount⟩ := hinside
      exact ⟨i,hi,hn,by simpa only [hsize] using hcount⟩
    rw [validateWriteSubrequests,if_pos (by omega),if_neg (by omega)]
    simp only [readSubrequest_of_stored hs,hsize,hgood,hempty,ne_eq,not_true_eq_false,if_false,
      Bool.false_eq_true]
    rw [if_neg (by omega),if_neg (by omega),if_neg (by omega),Nat.mul_comm _ 2,
      ih hrest (by omega) (by omega),List.length_cons]
    congr 2
    omega

theorem writeRecords_eq (base : Nat) (pdu : Mem Byte) (k m i : Nat) (s : Server) :
    writeRecords base pdu k m i s = writeWords (base+i) (wordsAt pdu (k+2*i) m) s := by
  induction m generalizing i s with
  | zero => rfl
  | succ m ih =>
    rw [writeRecords,ih,wordsAt,writeWords,readBe16_off,Nat.mul_comm i 2]
    rfl

@[simp] theorem writeRecord_fileRecord (s : Server) (address : Nat) (value : Word) :
    (writeRecord s address value).data.fileRecord = s.data.fileRecord := rfl

theorem writeWords_data (base : Nat) (vs : List Word) (s : Server) :
    (writeWords base vs s).data = { s.data with memory := store s.data.memory base vs } := by
  induction vs generalizing base s with
  | nil =>
    have h : store s.data.memory base [] = s.data.memory := by
      funext i
      simp [store]
    rw [h]
    rfl
  | cons v vs ih =>
    rw [writeWords,ih,store_cons]
    rfl

theorem perform_data (files : Mem FileRecordFile) (n : Nat) (s : Server) (w : FileWrite) :
    (w.perform files n s).data = { s.data with memory := (w.perform files n s).data.memory } := by
  unfold FileWrite.perform
  cases fileIndex files n w.fileNumber with
  | none => rfl
  | some i =>
    dsimp only
    rw [writeWords_data]

/-- The second pass stores the sub-requests that the first one accepted. -/
theorem applyWriteSubrequests_eq {writes : List FileWrite} {fuel offset : Nat} {s : Server}
    (h : HoldsFiles s.data.fileRecord files n) (htiled : Tiled files n pdu offset len writes)
    (hfuel : writes.length ≤ fuel) :
    applyWriteSubrequests pdu len fuel offset s = writes.foldl (FileWrite.perform files n) s := by
  induction writes generalizing fuel offset s with
  | nil =>
    obtain rfl : len = offset := htiled.exact
    cases fuel with
    | zero => rfl
    | succ fuel =>
      rw [applyWriteSubrequests,if_neg (by omega)]
      rfl
  | cons w writes ih =>
    rw [List.length_cons] at hfuel
    obtain ⟨hs,⟨hnonempty,hrange,i,hi,hn,-⟩,hrest⟩ := tiled_cons.mp htiled
    have hle := hrest.le
    have hsize : (BitVec.ofNat 16 w.words.length).toNat = w.words.length := by
      rw [BitVec.toNat_ofNat]
      omega
    obtain ⟨fuel,rfl⟩ := Nat.exists_eq_succ_of_ne_zero (show fuel ≠ 0 by omega)
    have hfind := (h.find_iff w.fileNumber (files i)).mpr ⟨i,hi,rfl,hn⟩
    have hkept : (w.perform files n s).data.fileRecord = s.data.fileRecord := by
      rw [perform_data]
    have hnext : offset+7+w.words.length*2 = offset+(7+2*w.words.length) := by omega
    rw [applyWriteSubrequests,if_pos (by omega)]
    simp only [readSubrequest_of_stored hs,hsize,hfind,writeRecords_eq,Nat.mul_zero,Nat.add_zero,
      wordsAt_of_stored hs,hnext]
    rw [← h.perform_eq s hi hn,List.foldl_cons]
    exact ih (by rw [hkept]; exact h) hrest (by omega)

end Passes

/-! The arrays after the second pass. -/

section Effect
variable {st : FileRecordState} {files : Mem FileRecordFile} {n : Nat}

theorem store_apply (m : Mem Word) (k : Nat) (xs : List Word) (i : Nat) :
    store m k xs i = if k ≤ i then (xs[i-k]?).getD (m i) else m i := by
  simp [store]

theorem HoldsFiles.perform_memory (h : HoldsFiles st files n) (s : Server) {w : FileWrite} {i : Nat}
    (hi : i < n) (hn : (files i).fileNumber = w.fileNumber) :
    (w.perform files n s).data.memory =
      store s.data.memory ((files i).records+w.recordNumber.toNat) w.words := by
  rw [h.perform_eq s hi hn,writeWords_data]

theorem HoldsFiles.perform_contents (h : HoldsFiles st files n) (hdisjoint : DisjointArrays files n)
    (s : Server) {w : FileWrite} (ha : WriteAccepted files n w) {k : Word × Nat}
    (hk : HasRecord files n k) :
    fileContents files n (w.perform files n s).data.memory k =
      overlay (fileContents files n s.data.memory) w.cells k := by
  obtain ⟨i,hi,hn,hin⟩ := ha.inside
  obtain ⟨j,hj,hnj,hrecord⟩ := hk
  rw [overlay,h.contents_eq _ hj hnj,h.contents_eq _ hj hnj,h.perform_memory s hi hn,store_apply,
    FileWrite.cells]
  by_cases hsame : w.fileNumber = k.1
  · obtain rfl := h.unique hi hj (hn.trans (hsame.trans hnj.symm))
    simp only [hsame,true_and,Nat.add_le_add_iff_left,Nat.add_sub_add_left]
    split
    · rfl
    · rfl
  · have hcells : ¬ (w.fileNumber = k.1 ∧ w.recordNumber.toNat ≤ k.2) := fun hc => hsame hc.1
    simp only [hcells,if_false,Option.getD_none]
    split
    · rename_i hle
      have hne : i ≠ j := by
        rintro rfl
        exact hsame (hn.symm.trans hnj)
      have hout : w.words.length ≤
          (files j).records+k.2-((files i).records+w.recordNumber.toNat) := by
        by_contra hlt
        refine hdisjoint i j hi hj hne
          ((files j).records+k.2-(files i).records) k.2 (by omega) hrecord (by omega)
      rw [List.getElem?_eq_none hout,Option.getD_none]
    · rfl

theorem HoldsFiles.perform_other (h : HoldsFiles st files n) (s : Server) {w : FileWrite}
    (ha : WriteAccepted files n w) {address : Nat}
    (hout : ∀ i j, i < n → (w.cells ((files i).fileNumber,j)).isSome →
      address ≠ (files i).records+j) :
    (w.perform files n s).data.memory address = s.data.memory address := by
  obtain ⟨i,hi,hn,-⟩ := ha.inside
  rw [h.perform_memory s hi hn,store_apply]
  split
  · rename_i hle
    have hnone : w.words[address-((files i).records+w.recordNumber.toNat)]? = none := by
      by_contra hsome
      refine hout i (address-(files i).records) hi ?_ (by omega)
      rw [FileWrite.cells,if_pos ⟨hn.symm,by omega⟩,Option.isSome_iff_ne_none]
      rwa [Nat.sub_sub]
    rw [hnone]
    rfl
  · rfl

variable {writes : List FileWrite}

theorem foldl_perform_data (files : Mem FileRecordFile) (n : Nat) (s : Server) :
    (writes.foldl (FileWrite.perform files n) s).data =
      { s.data with memory := (writes.foldl (FileWrite.perform files n) s).data.memory } := by
  induction writes generalizing s with
  | nil => rfl
  | cons w writes ih =>
    rw [List.foldl_cons,ih,perform_data files n s w]

theorem HoldsFiles.foldl_perform_contents (h : HoldsFiles st files n)
    (hdisjoint : DisjointArrays files n) (s : Server)
    (ha : ∀ w ∈ writes, WriteAccepted files n w) {k : Word × Nat} (hk : HasRecord files n k) :
    fileContents files n (writes.foldl (FileWrite.perform files n) s).data.memory k =
      (writes.map FileWrite.cells).foldl overlay (fileContents files n s.data.memory) k := by
  induction writes generalizing s with
  | nil => rfl
  | cons w writes ih =>
    rw [List.foldl_cons,ih _ fun x hx => ha x (by simp [hx]),List.map_cons,List.foldl_cons,
      foldl_overlay,foldl_overlay,h.perform_contents hdisjoint s (ha w (by simp)) hk]

theorem HoldsFiles.foldl_perform_other (h : HoldsFiles st files n) (s : Server)
    (ha : ∀ w ∈ writes, WriteAccepted files n w) {address : Nat}
    (hout : ∀ i j, i < n →
      (lastValue (writes.map FileWrite.cells) ((files i).fileNumber,j)).isSome →
      address ≠ (files i).records+j) :
    (writes.foldl (FileWrite.perform files n) s).data.memory address = s.data.memory address := by
  induction writes generalizing s with
  | nil => rfl
  | cons w writes ih =>
    simp only [List.map_cons,lastValue,Option.isSome_or,Bool.or_eq_true] at hout
    rw [List.foldl_cons,ih _ (fun x hx => ha x (by simp [hx])) fun i j hi hs => hout i j hi (.inl hs),
      h.perform_other s (ha w (by simp)) fun i j hi hs => hout i j hi (.inr hs)]

end Effect

/-- The first pass without its count of sub-requests. -/
def validateWriteUncounted (st : FileRecordState) (pdu : Mem Byte) (len : Nat) :
    (fuel offset count : Nat) → Except Byte (Nat × Nat)
  | 0, offset, count => .ok (offset,count)
  | fuel+1, offset, count =>
    if offset < len then
      if len-offset < 7 then .error exIllegalDataValue
      else
        let r := readSubrequest pdu offset
        if r.referenceType ≠ 0x06#8 then .error exIllegalDataAddress
        else if r.recordLength = 0#16 then .error exIllegalDataValue
        else if 10000 ≤ r.recordNumber.toNat ∨
            10000 < r.recordNumber.toNat+r.recordLength.toNat then .error exIllegalDataAddress
        else if len-offset < 7+r.recordLength.toNat*2 then .error exIllegalDataValue
        else if fileRangeIsBad st r then .error exIllegalDataAddress
        else validateWriteUncounted st pdu len fuel (offset+(7+r.recordLength.toNat*2)) (count+1)
    else .ok (offset,count)

/-- Each sub-request takes nine bytes, and there are at most 251. -/
theorem validateWriteSubrequests_uncounted (st : FileRecordState) (pdu : Mem Byte)
    {len fuel offset count : Nat} (hlen : len ≤ 253) (hoffset : 2+9*count ≤ offset) :
    validateWriteSubrequests st pdu len fuel offset count =
      validateWriteUncounted st pdu len fuel offset count := by
  induction fuel generalizing offset count with
  | zero => rfl
  | succ fuel ih =>
    rw [validateWriteSubrequests,validateWriteUncounted]
    dsimp only
    refine ite_congr rfl (fun hlt => ?_) fun _ => rfl
    refine ite_congr rfl (fun _ => rfl) fun hhead => ?_
    refine ite_congr rfl (fun _ => rfl) fun htype => ?_
    refine ite_congr rfl (fun _ => rfl) fun hempty => ?_
    refine ite_congr rfl (fun _ => rfl) fun hrange => ?_
    refine ite_congr rfl (fun _ => rfl) fun hrest => ?_
    refine ite_congr rfl (fun _ => rfl) fun hbad => ?_
    -- nine bytes a sub-request at least, so the count cannot be exceeded
    have hpos : (readSubrequest pdu offset).recordLength.toNat ≠ 0 := fun hz =>
      hempty (BitVec.eq_of_toNat_eq hz)
    rw [if_neg (by omega)]
    exact ih (by omega)

def writtenWords (writes : List FileWrite) (r : Subrequest) : List Word :=
  (List.range r.recordLength.toNat).filterMap fun j =>
    lastValue (writes.map FileWrite.cells) (r.fileNumber,r.recordNumber.toNat+j)

def writtenSubresponse (writes : List FileWrite) (r : Subrequest) : List Byte :=
  [BitVec.ofNat 8 (1+2*r.recordLength.toNat),0x06#8] ++ encodeWords (writtenWords writes r)

structure WritesGranted (files : Mem FileRecordFile) (n : Nat) (s : Server) (pdu : Mem Byte)
    (len : Nat) (writes : List FileWrite) (out : Except Byte (List Byte) × Server) : Prop where
  response : out.1 = .ok (slice pdu 0 len)
  validated : validateWriteSubrequests s.data.fileRecord pdu len len 2 0 = .ok (len,writes.length)
  visited : out.2 = (writes.foldl (FileWrite.perform files n) (s.emit .lock)).emit .unlock
  onlyMemory : out.2.data = { s.data with memory := out.2.data.memory }
  contents : ∀ k, HasRecord files n k → fileContents files n out.2.data.memory k =
    (writes.map FileWrite.cells).foldl overlay (fileContents files n s.data.memory) k
  others : ∀ address, (∀ i j, i < n →
      (lastValue (writes.map FileWrite.cells) ((files i).fileNumber,j)).isSome →
      address ≠ (files i).records+j) → out.2.data.memory address = s.data.memory address
  readBack : ∀ pdu' len' capacity', ReadAccepted files n pdu' len' capacity' →
    (∀ r ∈ frameSubrequests pdu', ∀ j, j < r.recordLength.toNat →
      (lastValue (writes.map FileWrite.cells) (r.fileNumber,r.recordNumber.toNat+j)).isSome) →
    (mbFileRecordProcessReadRequest out.2 pdu' len' capacity').1 = .ok
      ([0x14#8,BitVec.ofNat 8 (totalResponseLength (frameSubrequests pdu'))] ++
        (frameSubrequests pdu').flatMap (writtenSubresponse writes))

structure WritesRecords (files : Mem FileRecordFile) (n : Nat) (s : Server) (pdu : Mem Byte)
    (len capacity : Nat) (out : Except Byte (List Byte) × Server) : Prop where
  normal_iff : (∃ response, out.1 = .ok response) ↔
    (∃ writes, WriteRequest files n pdu len writes) ∧ len ≤ capacity
  granted : ∀ writes, WriteRequest files n pdu len writes → len ≤ capacity →
    WritesGranted files n s pdu len writes out
  unique : ∀ writes writes', WriteRequest files n pdu len writes →
    WriteRequest files n pdu len writes' → writes = writes'
  refused : ¬ ((∃ writes, WriteRequest files n pdu len writes) ∧ len ≤ capacity) →
    (∃ e, out.1 = .error e) ∧ out.2.data = s.data
  limit : (pdu 1).toNat ≤ 251 → len = 2+(pdu 1).toNat →
    validateWriteSubrequests s.data.fileRecord pdu len len 2 0 =
      validateWriteUncounted s.data.fileRecord pdu len len 2 0

section Writes
variable {files : Mem FileRecordFile} {n : Nat} {s : Server} {pdu : Mem Byte} {len capacity : Nat}

/-- Sub-requests can be told apart from their bytes. -/
theorem encodedWrites_unique {offset : Nat} {writes writes' : List FileWrite}
    (hs : Stored pdu offset (writes.flatMap FileWrite.encode))
    (hs' : Stored pdu offset (writes'.flatMap FileWrite.encode))
    (hlength : (writes.flatMap FileWrite.encode).length =
      (writes'.flatMap FileWrite.encode).length)
    (hsizes : ∀ w ∈ writes, w.words.length < 65536)
    (hsizes' : ∀ w ∈ writes', w.words.length < 65536) : writes = writes' := by
  induction writes generalizing offset writes' with
  | nil =>
    cases writes' with
    | nil => rfl
    | cons w' writes' =>
      simp only [List.flatMap_nil,List.flatMap_cons,List.length_append,w'.encode_length,
        List.length_nil] at hlength
      omega
  | cons w writes ih =>
    cases writes' with
    | nil =>
      simp only [List.flatMap_nil,List.flatMap_cons,List.length_append,w.encode_length,
        List.length_nil] at hlength
      omega
    | cons w' writes' =>
      rw [List.flatMap_cons,stored_append,w.encode_length] at hs
      rw [List.flatMap_cons,stored_append,w'.encode_length] at hs'
      rw [List.flatMap_cons,List.flatMap_cons,List.length_append,List.length_append,
        w.encode_length,w'.encode_length] at hlength
      have hhead := (readSubrequest_of_stored hs.1).symm.trans (readSubrequest_of_stored hs'.1)
      simp only [Subrequest.mk.injEq,true_and] at hhead
      obtain ⟨hfile,hrecord,hsize⟩ := hhead
      have hcount : w.words.length = w'.words.length := by
        have := congrArg BitVec.toNat hsize
        simp only [BitVec.toNat_ofNat] at this
        have := hsizes w (by simp)
        have := hsizes' w' (by simp)
        omega
      have hwords : w.words = w'.words := by
        rw [← wordsAt_of_stored hs.1,hcount,wordsAt_of_stored hs'.1]
      obtain rfl : w = w' := by
        cases w
        cases w'
        simp_all
      rw [ih hs.2 hs'.2 (by omega) (fun x hx => hsizes x (by simp [hx]))
        fun x hx => hsizes' x (by simp [hx])]

theorem Tiled.unique {offset : Nat} {writes writes' : List FileWrite}
    (h : Tiled files n pdu offset len writes) (h' : Tiled files n pdu offset len writes') :
    writes = writes' := by
  have hexact := h.exact
  have hexact' := h'.exact
  have hsizes : ∀ w, WriteAccepted files n w → w.words.length < 65536 := by
    intro w hw
    have := hw.range
    omega
  exact encodedWrites_unique h.stored h'.stored (by omega)
    (fun w hw => hsizes w (h.accepted w hw)) fun w hw => hsizes w (h'.accepted w hw)

theorem HoldsFiles.writtenWords_eq (h : HoldsFiles s.data.fileRecord files n)
    {memory memory' : Mem Word} {writes : List FileWrite} {r : Subrequest}
    (hcontents : ∀ k, HasRecord files n k → fileContents files n memory' k =
      (writes.map FileWrite.cells).foldl overlay (fileContents files n memory) k)
    (hinside : InsideFile files n r)
    (hwritten : ∀ j, j < r.recordLength.toNat →
      (lastValue (writes.map FileWrite.cells) (r.fileNumber,r.recordNumber.toNat+j)).isSome) :
    recordWords files n memory' r = writtenWords writes r := by
  obtain ⟨i,hi,hn,hin⟩ := hinside
  rw [h.recordWords_eq memory' r hi hn,slice,writtenWords,← List.filterMap_eq_map]
  apply List.filterMap_congr
  intro j hj
  rw [List.mem_range] at hj
  have hk : HasRecord files n (r.fileNumber,r.recordNumber.toNat+j) := ⟨i,hi,hn,by dsimp only; omega⟩
  have hword := hcontents _ hk
  rw [foldl_overlay,h.contents_eq memory' hi hn] at hword
  obtain ⟨v,hv⟩ := Option.isSome_iff_exists.mp (hwritten j hj)
  rw [hv] at hword ⊢
  rw [Function.comp_apply,Nat.add_assoc,hword]
  rfl

theorem WriteRequest.validated {writes : List FileWrite}
    (h : HoldsFiles s.data.fileRecord files n) (hw : WriteRequest files n pdu len writes) :
    validateWriteSubrequests s.data.fileRecord pdu len len 2 0 = .ok (len,writes.length) := by
  obtain ⟨hleast,hmost,hexact,htiled⟩ := hw
  have hle := htiled.le
  rw [validateWriteSubrequests_complete h htiled (by omega) (by omega),Nat.zero_add]

theorem WriteRequest.process {writes : List FileWrite} (h : HoldsFiles s.data.fileRecord files n)
    (hw : WriteRequest files n pdu len writes) (hroom : len ≤ capacity) :
    mbFileRecordProcessWriteRequest s pdu len capacity = (.ok (slice pdu 0 len),
      (writes.foldl (FileWrite.perform files n) (s.emit .lock)).emit .unlock) := by
  have hvalid := hw.validated h
  obtain ⟨hleast,hmost,hexact,htiled⟩ := hw
  have hle := htiled.le
  have hnonempty : writes.length ≠ 0 := by
    intro hz
    obtain rfl := List.eq_nil_of_length_eq_zero hz
    have := htiled.exact
    simp only [List.flatMap_nil,List.length_nil] at this
    omega
  unfold mbFileRecordProcessWriteRequest
  have hlen : ¬ len < 2 := by omega
  have hframe : ¬ ((pdu 1).toNat < 9 ∨ 251 < (pdu 1).toNat ∨ len ≠ 2+(pdu 1).toNat) := by omega
  have hlimit : ¬ responseLimit capacity < len := by
    simp only [responseLimit,modbusPduMaxSize]
    omega
  simp only [hlen,hframe,if_false,Server.emit_data,hvalid,hnonempty,ne_eq,not_true_eq_false,
    or_self,hlimit]
  rw [applyWriteSubrequests_eq (s := s.emit .lock) h htiled (by omega)]

theorem writeRequest_of_ok (h : HoldsFiles s.data.fileRecord files n) {response : List Byte}
    (hok : (mbFileRecordProcessWriteRequest s pdu len capacity).1 = .ok response) :
    (∃ writes, WriteRequest files n pdu len writes) ∧ len ≤ capacity := by
  simp only [mbFileRecordProcessWriteRequest,Server.emit_data] at hok
  split at hok
  · cases hok
  · split at hok
    · cases hok
    · rename_i hframe
      split at hok
      · cases hok
      · rename_i e c hvalid
        obtain ⟨writes,htiled,-,-⟩ :=
          validateWriteSubrequests_sound h (by omega) (by omega) hvalid
        split at hok
        · cases hok
        · split at hok
          · cases hok
          · rename_i hroom
            simp only [responseLimit,modbusPduMaxSize] at hroom
            exact ⟨⟨writes,by omega,by omega,by omega,htiled⟩,by omega⟩

theorem mbFileRecordProcessWriteRequest_refused {e : Byte}
    (he : (mbFileRecordProcessWriteRequest s pdu len capacity).1 = .error e) :
    (mbFileRecordProcessWriteRequest s pdu len capacity).2.data = s.data := by
  revert he
  simp only [mbFileRecordProcessWriteRequest]
  repeat' split
  all_goals intro he
  all_goals first
    | rfl
    | cases he

end Writes

/-- For every accepted configuration of files with arrays of their own. -/
theorem mbFileRecordProcessWriteRequest_writes (s₀ s : Server) (files : Mem FileRecordFile)
    (n : Nat) (hconfigured : (mbFileRecordConfigure s₀ (some files) n).1 = .ok)
    (hs : s.data.fileRecord = (mbFileRecordConfigure s₀ (some files) n).2.data.fileRecord)
    (hdisjoint : DisjointArrays files n) (pdu : Mem Byte) (len capacity : Nat) :
    WritesRecords files n s pdu len capacity
      (mbFileRecordProcessWriteRequest s pdu len capacity) := by
  have h : HoldsFiles s.data.fileRecord files n := by
    rw [hs]
    exact mbFileRecordConfigure_holds s₀ files n hconfigured
  have hnormal : (∃ response, (mbFileRecordProcessWriteRequest s pdu len capacity).1 =
      .ok response) ↔ (∃ writes, WriteRequest files n pdu len writes) ∧ len ≤ capacity := by
    constructor
    · rintro ⟨response,hok⟩
      exact writeRequest_of_ok h hok
    · rintro ⟨⟨writes,hw⟩,hroom⟩
      exact ⟨_,congrArg Prod.fst (hw.process h hroom)⟩
  refine ⟨hnormal,?_,fun _ _ hw hw' => hw.tiled.unique hw'.tiled,?_,?_⟩
  · intro writes hw hroom
    have hout := hw.process h hroom
    have hcontents : ∀ k, HasRecord files n k →
        fileContents files n (mbFileRecordProcessWriteRequest s pdu len capacity).2.data.memory k =
          (writes.map FileWrite.cells).foldl overlay (fileContents files n s.data.memory) k := by
      intro k hk
      rw [hout]
      exact h.foldl_perform_contents hdisjoint (s.emit .lock) hw.tiled.accepted hk
    have honly : (mbFileRecordProcessWriteRequest s pdu len capacity).2.data = { s.data with
        memory := (mbFileRecordProcessWriteRequest s pdu len capacity).2.data.memory } := by
      rw [hout]
      exact foldl_perform_data files n (s.emit .lock)
    refine ⟨by rw [hout],hw.validated h,by rw [hout],honly,hcontents,?_,?_⟩
    · intro address haddress
      rw [hout]
      exact h.foldl_perform_other (s.emit .lock) hw.tiled.accepted haddress
    · rintro pdu' len' capacity' ⟨hframe,hsubrequests,htotal,hfits⟩ hwritten
      have hafter : HoldsFiles
          (mbFileRecordProcessWriteRequest s pdu len capacity).2.data.fileRecord files n := by
        rw [honly]
        exact h
      have hnone := (firstException_none_iff files n 0 (frameSubrequests pdu') (by omega)).mpr
        ⟨hsubrequests,by omega⟩
      rw [mbFileRecordProcessReadRequest_eq hafter,if_pos hframe,hnone]
      dsimp only
      rw [if_neg (by omega)]
      congr 2
      apply List.flatMap_congr
      intro r hr
      rw [subresponse,writtenSubresponse,
        h.writtenWords_eq hcontents (hsubrequests r hr).inside (hwritten r hr)]
  · intro hno
    cases hr : (mbFileRecordProcessWriteRequest s pdu len capacity).1 with
    | ok response => exact absurd (hnormal.mp ⟨response,hr⟩) hno
    | error e => exact ⟨⟨e,rfl⟩,mbFileRecordProcessWriteRequest_refused hr⟩
  · intro hmost hexact
    exact validateWriteSubrequests_uncounted _ _ (by omega) (by omega)

def oneFile : Mem FileRecordFile := fun _ => ⟨4,100,10⟩

/-- Records 1 and 2 of file 4, and then record 2 again. -/
def overlappingWrites : List FileWrite := [⟨4,1,[0x0A0B#16,0x0C0D#16]⟩,⟨4,2,[0x0E0F#16]⟩]

def overlappingRequest : Mem Byte :=
  ofList ([0x15#8,0x14#8] ++ overlappingWrites.flatMap FileWrite.encode)

theorem overlappingRequest_granted : WriteRequest oneFile 1 overlappingRequest 22 overlappingWrites where
  least := by decide
  most := by decide
  exact := by decide
  tiled := by
    refine ⟨rfl,by decide,?_⟩
    intro w hw
    simp only [overlappingWrites,List.mem_cons,List.not_mem_nil,or_false] at hw
    rcases hw with rfl | rfl
    · exact ⟨by decide,by decide,0,by decide,by decide,by decide⟩
    · exact ⟨by decide,by decide,0,by decide,by decide,by decide⟩

theorem oneFile_disjoint : DisjointArrays oneFile 1 := by
  intro i j hi hj hne
  omega

theorem mbFileRecordProcessWriteRequest_writes_overlapping :
    WritesRecords oneFile 1 (mbFileRecordConfigure .zeroed (some oneFile) 1).2 overlappingRequest 22
        253 (mbFileRecordProcessWriteRequest (mbFileRecordConfigure .zeroed (some oneFile) 1).2
          overlappingRequest 22 253) ∧
      WriteRequest oneFile 1 overlappingRequest 22 overlappingWrites :=
  ⟨mbFileRecordProcessWriteRequest_writes .zeroed _ oneFile 1 (by decide) rfl oneFile_disjoint
    overlappingRequest 22 253,overlappingRequest_granted⟩

end ModbusStack
