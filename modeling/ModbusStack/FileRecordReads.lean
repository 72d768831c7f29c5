import ModbusStack.ConfigStores

/-! FC20 against its reference: the two passes over the sub-requests. -/
set_option autoImplicit false

namespace ModbusStack
open ByteMemory SortedTable

def readSubrequests (pdu : Mem Byte) : (m offset : Nat) → List Subrequest
  | 0, _ => []
  | m+1, offset => readSubrequest pdu offset :: readSubrequests pdu m (offset+7)

def Subrequest.responseLength (r : Subrequest) : Nat := 2+2*r.recordLength.toNat

def totalResponseLength (rs : List Subrequest) : Nat := (rs.map Subrequest.responseLength).sum

section Reference
variable (files : Mem FileRecordFile) (n : Nat)

def InsideFile (r : Subrequest) : Prop :=
  ∃ i, i < n ∧ (files i).fileNumber = r.fileNumber ∧
    r.recordNumber.toNat+r.recordLength.toNat ≤ (files i).recordCount

instance (r : Subrequest) : Decidable (InsideFile files n r) :=
  inferInstanceAs (Decidable (∃ i, i < n ∧ _))

structure SubrequestAccepted (r : Subrequest) : Prop where
  referenceType : r.referenceType = 0x06#8
  nonempty : 1 ≤ r.recordLength.toNat
  range : r.recordNumber.toNat+r.recordLength.toNat ≤ 10000
  inside : InsideFile files n r

/-- The exception that a sub-request causes after `total` bytes of response. -/
def subrequestException (total : Nat) (r : Subrequest) : Option Byte :=
  if r.referenceType ≠ 0x06#8 then some 0x02#8
  else if r.recordLength.toNat = 0 then some 0x03#8
  else if 10000 < r.recordNumber.toNat+r.recordLength.toNat then some 0x02#8
  else if ¬ InsideFile files n r then some 0x02#8
  else if 245 < total+r.responseLength then some 0x03#8
  else none

def firstException : Nat → List Subrequest → Option Byte
  | _, [] => none
  | total, r :: rs =>
    match subrequestException files n total r with
    | some e => some e
    | none => firstException (total+r.responseLength) rs

def recordWords (memory : Mem Word) (r : Subrequest) : List Word :=
  match (List.range n).find? fun i => decide ((files i).fileNumber = r.fileNumber) with
  | some i => slice memory ((files i).records+r.recordNumber.toNat) r.recordLength.toNat
  | none => []

def subresponse (memory : Mem Word) (r : Subrequest) : List Byte :=
  [BitVec.ofNat 8 (1+2*r.recordLength.toNat),0x06#8] ++ encodeWords (recordWords files n memory r)

end Reference

structure ReadFrame (pdu : Mem Byte) (len : Nat) : Prop where
  least : 7 ≤ (pdu 1).toNat
  most : (pdu 1).toNat ≤ 245
  whole : (pdu 1).toNat%7 = 0
  exact : len = 2+(pdu 1).toNat

instance (pdu : Mem Byte) (len : Nat) : Decidable (ReadFrame pdu len) :=
  decidable_of_iff (7 ≤ (pdu 1).toNat ∧ (pdu 1).toNat ≤ 245 ∧ (pdu 1).toNat%7 = 0 ∧
      len = 2+(pdu 1).toNat)
    ⟨fun h => ⟨h.1,h.2.1,h.2.2.1,h.2.2.2⟩,fun h => ⟨h.least,h.most,h.whole,h.exact⟩⟩

def frameSubrequests (pdu : Mem Byte) : List Subrequest := readSubrequests pdu ((pdu 1).toNat/7) 2

structure ReadAccepted (files : Mem FileRecordFile) (n : Nat) (pdu : Mem Byte)
    (len capacity : Nat) : Prop where
  frame : ReadFrame pdu len
  subrequests : ∀ r ∈ frameSubrequests pdu, SubrequestAccepted files n r
  total : totalResponseLength (frameSubrequests pdu) ≤ 245
  room : 2+totalResponseLength (frameSubrequests pdu) ≤ capacity

def readException (files : Mem FileRecordFile) (n : Nat) (pdu : Mem Byte) (len : Nat) : Byte :=
  if ReadFrame pdu len then (firstException files n 0 (frameSubrequests pdu)).getD 0x04#8
  else 0x03#8

section Lookup
variable {st : FileRecordState} {files : Mem FileRecordFile} {n : Nat}

theorem HoldsFiles.find_iff (h : HoldsFiles st files n) (fileNumber : Word) (file : FileRecordFile) :
    findFileRecordUnlocked st fileNumber = some file ↔
      ∃ i, i < n ∧ files i = file ∧ file.fileNumber = fileNumber := by
  rw [findFileRecordUnlocked_eq,h.count,findFrom_eq_some_iff h.ascendingKeys]
  constructor
  · rintro ⟨i,hi,rfl,hk⟩
    exact ⟨i,hi,(h.entries i hi).symm,BitVec.eq_of_toNat_eq hk⟩
  · rintro ⟨i,hi,rfl,rfl⟩
    exact ⟨i,hi,h.entries i hi,rfl⟩

theorem HoldsFiles.unique (h : HoldsFiles st files n) {i j : Nat} (hi : i < n) (hj : j < n)
    (heq : (files i).fileNumber = (files j).fileNumber) : i = j := by
  by_contra hne
  have hkeys := h.ascendingKeys
  rcases Nat.lt_or_gt_of_ne hne with hlt | hlt
  · have := hkeys i j hlt hj
    simp only [h.entries i hi,h.entries j hj,heq] at this
    omega
  · have := hkeys j i hlt hi
    simp only [h.entries i hi,h.entries j hj,heq] at this
    omega

theorem HoldsFiles.rangeIsBad_iff (h : HoldsFiles st files n) (r : Subrequest) :
    fileRangeIsBad st r = true ↔ ¬ InsideFile files n r := by
  unfold fileRangeIsBad
  cases hf : findFileRecordUnlocked st r.fileNumber with
  | none =>
    simp only [true_iff]
    rintro ⟨i,hi,hn,-⟩
    have := (h.find_iff r.fileNumber (files i)).mpr ⟨i,hi,rfl,hn⟩
    rw [hf] at this
    cases this
  | some file =>
    obtain ⟨i,hi,rfl,hn⟩ := (h.find_iff r.fileNumber file).mp hf
    simp only [decide_eq_true_eq]
    constructor
    · rintro hbad ⟨j,hj,hnj,hle⟩
      obtain rfl := h.unique hi hj (hn.trans hnj.symm)
      omega
    · intro hout
      by_contra hgood
      exact hout ⟨i,hi,hn,by omega⟩

theorem HoldsFiles.recordWords_eq (h : HoldsFiles st files n) (memory : Mem Word) (r : Subrequest)
    {i : Nat} (hi : i < n) (hn : (files i).fileNumber = r.fileNumber) :
    recordWords files n memory r =
      slice memory ((files i).records+r.recordNumber.toNat) r.recordLength.toNat := by
  unfold recordWords
  cases hf : (List.range n).find? fun i => decide ((files i).fileNumber = r.fileNumber) with
  | none =>
    have := List.find?_eq_none.mp hf i (List.mem_range.mpr hi)
    simp [hn] at this
  | some j =>
    have hj := List.mem_range.mp (List.mem_of_find?_eq_some hf)
    have hp := List.find?_some hf
    simp only [decide_eq_true_eq] at hp
    obtain rfl := h.unique hi hj (hn.trans hp.symm)
    rfl

theorem HoldsFiles.recordWords_found (h : HoldsFiles st files n) (memory : Mem Word)
    (r : Subrequest) {file : FileRecordFile}
    (hf : findFileRecordUnlocked st r.fileNumber = some file) :
    recordWords files n memory r =
      readRecords memory file r.recordNumber.toNat r.recordLength.toNat := by
  obtain ⟨i,hi,rfl,hn⟩ := (h.find_iff r.fileNumber file).mp hf
  rw [h.recordWords_eq memory r hi hn]
  rfl

theorem HoldsFiles.recordWords_missing (h : HoldsFiles st files n) (memory : Mem Word)
    (r : Subrequest) (hf : findFileRecordUnlocked st r.fileNumber = none) :
    recordWords files n memory r = [] := by
  unfold recordWords
  cases hfind : (List.range n).find? fun i => decide ((files i).fileNumber = r.fileNumber) with
  | none => rfl
  | some j =>
    have hj := List.mem_range.mp (List.mem_of_find?_eq_some hfind)
    have hp := List.find?_some hfind
    simp only [decide_eq_true_eq] at hp
    have := (h.find_iff r.fileNumber (files j)).mpr ⟨j,hj,rfl,hp⟩
    rw [hf] at this
    cases this

end Lookup

section Passes
variable {files : Mem FileRecordFile} {n : Nat} {pdu : Mem Byte} {len : Nat}

theorem totalResponseLength_cons (r : Subrequest) (rs : List Subrequest) :
    totalResponseLength (r :: rs) = r.responseLength+totalResponseLength rs := by
  simp [totalResponseLength]

theorem validateReadSubrequests_eq {st : FileRecordState} (h : HoldsFiles st files n)
    (m fuel offset total : Nat) (hfuel : m ≤ fuel) (hlen : len = offset+7*m)
    (htotal : total ≤ 245) :
    validateReadSubrequests st pdu len fuel offset total =
      match firstException files n total (readSubrequests pdu m offset) with
      | some e => .error e
      | none => .ok (total+totalResponseLength (readSubrequests pdu m offset)) := by
  induction m generalizing fuel offset total with
  | zero =>
    cases fuel with
    | zero => rfl
    | succ fuel =>
      rw [validateReadSubrequests,if_neg (by omega)]
      rfl
  | succ m ih =>
    cases fuel with
    | zero => omega
    | succ fuel =>
      rw [validateReadSubrequests,if_pos (by omega)]
      simp only [readSubrequests,firstException,subrequestException,totalResponseLength_cons]
      generalize readSubrequest pdu offset = r
      have hzero : r.recordLength = 0#16 ↔ r.recordLength.toNat = 0 :=
        ⟨fun h => by rw [h]; rfl,fun h => BitVec.eq_of_toNat_eq h⟩
      have hsize : r.responseLength = 2+2*r.recordLength.toNat := rfl
      by_cases htype : r.referenceType = 0x06#8
      · simp only [htype,ne_eq,not_true_eq_false,if_false]
        by_cases hempty : r.recordLength.toNat = 0
        · simp only [hzero,hempty,if_true]
        · simp only [hzero,hempty,if_false]
          by_cases hrange : 10000 < r.recordNumber.toNat+r.recordLength.toNat
          · simp only [hrange,or_true,if_true]
          · have hnumber : ¬ 10000 ≤ r.recordNumber.toNat := by omega
            simp only [hrange,hnumber,or_self,if_false]
            by_cases hinside : InsideFile files n r
            · have hgood : fileRangeIsBad st r = false := by
                rw [← Bool.not_eq_true,h.rangeIsBad_iff,not_not]
                exact hinside
              simp only [hgood,hinside,not_true_eq_false,Bool.false_eq_true,if_false]
              by_cases hroom : 245 < total+r.responseLength
              · rw [if_pos (by omega),if_pos hroom]
              · rw [if_neg (by omega),if_neg hroom,ih fuel (offset+7) _ (by omega) (by omega) (by omega)]
                have hsum : total+(2+r.recordLength.toNat*2) = total+r.responseLength := by omega
                simp only [hsum,Nat.add_assoc]
            · have hbad := (h.rangeIsBad_iff r).mpr hinside
              simp only [hbad,hinside,not_false_eq_true,if_true]
      · simp only [htype,ne_eq,not_false_eq_true,if_true]

/-- The emission pass decodes the same sub-requests again. -/
theorem emitReadSubresponses_eq {d : DataModel} (h : HoldsFiles d.fileRecord files n)
    (m fuel offset : Nat) (hfuel : m ≤ fuel) (hlen : len = offset+7*m) :
    emitReadSubresponses d pdu len fuel offset =
      (readSubrequests pdu m offset).flatMap (subresponse files n d.memory) := by
  induction m generalizing fuel offset with
  | zero =>
    cases fuel with
    | zero => rfl
    | succ fuel =>
      rw [emitReadSubresponses,if_neg (by omega)]
      rfl
  | succ m ih =>
    cases fuel with
    | zero => omega
    | succ fuel =>
      rw [emitReadSubresponses,if_pos (by omega)]
      dsimp only
      rw [ih fuel (offset+7) (by omega) (by omega),readSubrequests,List.flatMap_cons,subresponse,
        Nat.mul_comm _ 2]
      cases hf : findFileRecordUnlocked d.fileRecord (readSubrequest pdu offset).fileNumber with
      | none => rw [h.recordWords_missing d.memory _ hf]
      | some file => rw [h.recordWords_found d.memory _ hf]

/-- No sub-request causes an exception: all are accepted, and the sum fits. -/
theorem firstException_none_iff (files : Mem FileRecordFile) (n total : Nat)
    (rs : List Subrequest) (htotal : total ≤ 245) :
    firstException files n total rs = none ↔
      (∀ r ∈ rs, SubrequestAccepted files n r) ∧ total+totalResponseLength rs ≤ 245 := by
  induction rs generalizing total with
  | nil => simpa [firstException,totalResponseLength] using htotal
  | cons r rs ih =>
    have hstep : subrequestException files n total r = none ↔
        SubrequestAccepted files n r ∧ total+r.responseLength ≤ 245 := by
      unfold subrequestException
      constructor
      · intro h
        repeat' split at h
        all_goals first
          | cases h; done
          | skip
        rename_i htype hempty hrange hinside hroom
        exact ⟨⟨not_not.mp htype,by omega,by omega,not_not.mp hinside⟩,by omega⟩
      · rintro ⟨⟨htype,hempty,hrange,hinside⟩,hroom⟩
        rw [if_neg (not_not.mpr htype),if_neg (by omega),if_neg (by omega),
          if_neg (not_not.mpr hinside),if_neg (by omega)]
    rw [firstException,totalResponseLength_cons]
    cases hr : subrequestException files n total r with
    | some e =>
      simp only [reduceCtorEq,false_iff,List.mem_cons,forall_eq_or_imp]
      rintro ⟨⟨haccepted,-⟩,hsum⟩
      rw [hstep.mpr ⟨haccepted,by omega⟩] at hr
      cases hr
    | none =>
      obtain ⟨haccepted,hroom⟩ := hstep.mp hr
      simp only [List.mem_cons,forall_eq_or_imp,haccepted,true_and]
      rw [ih _ hroom,Nat.add_assoc]

end Passes

structure ReadsRecords (files : Mem FileRecordFile) (n : Nat) (s : Server) (pdu : Mem Byte)
    (len capacity : Nat) (out : Except Byte (List Byte) × Server) : Prop where
  normal_iff : (∃ response, out.1 = .ok response) ↔ ReadAccepted files n pdu len capacity
  response : ReadAccepted files n pdu len capacity → out.1 = .ok
    ([0x14#8,BitVec.ofNat 8 (totalResponseLength (frameSubrequests pdu))] ++
      (frameSubrequests pdu).flatMap (subresponse files n s.data.memory))
  total : ReadAccepted files n pdu len capacity →
    (BitVec.ofNat 8 (totalResponseLength (frameSubrequests pdu))).toNat =
        totalResponseLength (frameSubrequests pdu) ∧
      ((frameSubrequests pdu).flatMap (subresponse files n s.data.memory)).length =
        totalResponseLength (frameSubrequests pdu)
  untruncated : ReadAccepted files n pdu len capacity → ∀ r ∈ frameSubrequests pdu,
    (BitVec.ofNat 8 (1+2*r.recordLength.toNat)).toNat = 1+2*r.recordLength.toNat ∧
      ∃ i, i < n ∧ (files i).fileNumber = r.fileNumber ∧ recordWords files n s.data.memory r =
        slice s.data.memory ((files i).records+r.recordNumber.toNat) r.recordLength.toNat
  exception : ¬ ReadAccepted files n pdu len capacity → out.1 = .error (readException files n pdu len)
  unchanged : out.2.data = s.data

section Reads
variable {files : Mem FileRecordFile} {n : Nat} {s : Server} {pdu : Mem Byte} {len capacity : Nat}

theorem responseLength_le_total {r : Subrequest} {rs : List Subrequest} (h : r ∈ rs) :
    r.responseLength ≤ totalResponseLength rs :=
  List.single_le_sum (fun _ _ => Nat.zero_le _) _ (List.mem_map_of_mem h)

/-- Every outcome of the function at once. -/
theorem mbFileRecordProcessReadRequest_eq (h : HoldsFiles s.data.fileRecord files n)
    (pdu : Mem Byte) (len capacity : Nat) :
    (mbFileRecordProcessReadRequest s pdu len capacity).1 =
      if ReadFrame pdu len then
        match firstException files n 0 (frameSubrequests pdu) with
        | some e => .error e
        | none =>
          if capacity < 2+totalResponseLength (frameSubrequests pdu) then .error 0x04#8
          else .ok ([0x14#8,BitVec.ofNat 8 (totalResponseLength (frameSubrequests pdu))] ++
            (frameSubrequests pdu).flatMap (subresponse files n s.data.memory))
      else .error 0x03#8 := by
  unfold mbFileRecordProcessReadRequest
  by_cases hframe : ReadFrame pdu len
  · obtain ⟨hleast,hmost,hwhole,hexact⟩ := hframe
    have hm : len = 2+7*((pdu 1).toNat/7) := by omega
    have hok : ¬ ((pdu 1).toNat < 7 ∨ 245 < (pdu 1).toNat ∨ (pdu 1).toNat%7 ≠ 0 ∨
        len ≠ 2+(pdu 1).toNat) := by omega
    have hlen : ¬ len < 2 := by omega
    have hframe : ReadFrame pdu len := ⟨hleast,hmost,hwhole,hexact⟩
    simp only [hlen,hok,hframe,if_false,if_true,Server.emit_data]
    rw [validateReadSubrequests_eq h ((pdu 1).toNat/7) len 2 0 (by omega) hm (by omega),
      emitReadSubresponses_eq h ((pdu 1).toNat/7) len 2 (by omega) hm,← frameSubrequests]
    cases hfirst : firstException files n 0 (frameSubrequests pdu) with
    | some e => rfl
    | none =>
      have htotal := ((firstException_none_iff files n 0 _ (by omega)).mp hfirst).2
      simp only [Nat.zero_add,responseLimit,modbusPduMaxSize] at htotal ⊢
      by_cases hroom : capacity < 2+totalResponseLength (frameSubrequests pdu)
      · rw [if_pos (by omega),if_pos hroom]
      · rw [if_neg (by omega),if_neg hroom]
  · rw [if_neg hframe]
    have hbad : ¬ (7 ≤ (pdu 1).toNat ∧ (pdu 1).toNat ≤ 245 ∧ (pdu 1).toNat%7 = 0 ∧
        len = 2+(pdu 1).toNat) := fun hc => hframe ⟨hc.1,hc.2.1,hc.2.2.1,hc.2.2.2⟩
    split
    · rfl
    · dsimp only
      rw [if_pos (by omega)]

theorem mbFileRecordProcessReadRequest_data :
    (mbFileRecordProcessReadRequest s pdu len capacity).2.data = s.data := by
  simp only [mbFileRecordProcessReadRequest]
  repeat' split
  all_goals rfl

theorem subresponses_length (memory : Mem Word) (h : HoldsFiles s.data.fileRecord files n)
    (rs : List Subrequest) (hrs : ∀ r ∈ rs, SubrequestAccepted files n r) :
    (rs.flatMap (subresponse files n memory)).length = totalResponseLength rs := by
  induction rs with
  | nil => rfl
  | cons r rs ih =>
    obtain ⟨i,hi,hn,-⟩ := (hrs r (by simp)).inside
    rw [List.flatMap_cons,List.length_append,ih fun x hx => hrs x (by simp [hx]),
      totalResponseLength_cons,subresponse,h.recordWords_eq memory r hi hn]
    simp [Subrequest.responseLength]
    omega

end Reads

/-- For every accepted configuration of files and whatever they hold. -/
theorem mbFileRecordProcessReadRequest_reads (s₀ s : Server) (files : Mem FileRecordFile) (n : Nat)
    (hconfigured : (mbFileRecordConfigure s₀ (some files) n).1 = .ok)
    (hs : s.data.fileRecord = (mbFileRecordConfigure s₀ (some files) n).2.data.fileRecord)
    (pdu : Mem Byte) (len capacity : Nat) :
    ReadsRecords files n s pdu len capacity
      (mbFileRecordProcessReadRequest s pdu len capacity) := by
  have h : HoldsFiles s.data.fileRecord files n := by
    rw [hs]
    exact mbFileRecordConfigure_holds s₀ files n hconfigured
  have heq := mbFileRecordProcessReadRequest_eq h pdu len capacity
  have hnone := firstException_none_iff files n 0 (frameSubrequests pdu) (by omega)
  rw [Nat.zero_add] at hnone
  have hresponse : ReadAccepted files n pdu len capacity →
      (mbFileRecordProcessReadRequest s pdu len capacity).1 = .ok
        ([0x14#8,BitVec.ofNat 8 (totalResponseLength (frameSubrequests pdu))] ++
          (frameSubrequests pdu).flatMap (subresponse files n s.data.memory)) := by
    rintro ⟨hframe,hsubrequests,htotal,hroom⟩
    rw [heq,if_pos hframe,hnone.mpr ⟨hsubrequests,htotal⟩]
    exact if_neg (by omega)
  have hexception : ¬ ReadAccepted files n pdu len capacity →
      (mbFileRecordProcessReadRequest s pdu len capacity).1 =
        .error (readException files n pdu len) := by
    intro hno
    rw [heq,readException]
    by_cases hframe : ReadFrame pdu len
    · rw [if_pos hframe,if_pos hframe]
      cases hfirst : firstException files n 0 (frameSubrequests pdu) with
      | some e => rfl
      | none =>
        obtain ⟨hsubrequests,htotal⟩ := hnone.mp hfirst
        have hroom : capacity < 2+totalResponseLength (frameSubrequests pdu) := by
          by_contra hroom
          exact hno ⟨hframe,hsubrequests,htotal,by omega⟩
        exact if_pos hroom
    · rw [if_neg hframe,if_neg hframe]
  refine ⟨?_,hresponse,?_,?_,hexception,mbFileRecordProcessReadRequest_data⟩
  · constructor
    · rintro ⟨response,hr⟩
      by_contra hno
      rw [hexception hno] at hr
      cases hr
    · exact fun ha => ⟨_,hresponse ha⟩
  · rintro ⟨hframe,hsubrequests,htotal,-⟩
    refine ⟨?_,subresponses_length s.data.memory h _ hsubrequests⟩
    rw [BitVec.toNat_ofNat]
    omega
  · rintro ⟨hframe,hsubrequests,htotal,-⟩ r hr
    have hle := responseLength_le_total hr
    obtain ⟨i,hi,hn,-⟩ := (hsubrequests r hr).inside
    refine ⟨?_,i,hi,hn,h.recordWords_eq s.data.memory r hi hn⟩
    rw [BitVec.toNat_ofNat]
    simp only [Subrequest.responseLength] at hle
    omega

/-- Files 4 and 7 in a memory whose words are numbered. -/
def twoFiles : Mem FileRecordFile := store (fun _ => ⟨0,0,0⟩) 0 [⟨4,100,10⟩,⟨7,200,5⟩]

def numberedServer : Server :=
  let s := (mbFileRecordConfigure .zeroed (some twoFiles) 2).2
  { s with data := { s.data with memory := fun k => BitVec.ofNat 16 k } }

def twoFilesRequest : Mem Byte :=
  ofList [0x14#8,0x0E#8,0x06#8,0x00#8,0x04#8,0x00#8,0x01#8,0x00#8,0x02#8,
    0x06#8,0x00#8,0x07#8,0x00#8,0x03#8,0x00#8,0x01#8]

theorem mbFileRecordProcessReadRequest_reads_two :
    (mbFileRecordProcessReadRequest numberedServer twoFilesRequest 16 253).1 =
      .ok [0x14#8,0x0A#8,0x05#8,0x06#8,0x00#8,0x65#8,0x00#8,0x66#8,0x03#8,0x06#8,0x00#8,0xCB#8] ∧
    ReadsRecords twoFiles 2 numberedServer twoFilesRequest 16 253
      (mbFileRecordProcessReadRequest numberedServer twoFilesRequest 16 253) :=
  ⟨by decide +kernel,mbFileRecordProcessReadRequest_reads .zeroed numberedServer twoFiles 2
    (by decide +kernel) rfl twoFilesRequest 16 253⟩

end ModbusStack
