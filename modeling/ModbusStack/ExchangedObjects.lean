import ModbusStack.DeviceIdPages
import ModbusStack.Exchange

/-! Exchanges of FC2Bh/0Eh: the page of stored objects that an answer carries. -/
set_option autoImplicit false

namespace ModbusStack
open ByteMemory GreedyPages

section Held
variable (d : DeviceIdState) (code objectId : Byte)

def heldObject (i : Nat) : IdentityObject :=
  ⟨(d.objects i).objectId,
    slice d.values (d.objects i).valueOffset (d.objects i).valueLength.toNat⟩

/-- Where a stream begins: at the object that was asked for, else at the first one. -/
def streamStart : Nat :=
  (findObjectIndex d (responseCategory code d.conformityLevel) objectId).getD
    (firstEligibleIndex d (responseCategory code d.conformityLevel))

def streamIndices : List Nat :=
  eligibleFrom d (responseCategory code d.conformityLevel) (streamStart d code objectId)

/-- The objects of one answer, and those that are left for the next. -/
def heldIndices : List Nat × List Nat :=
  if code = 0x04#8 then
    ((findObjectIndex d (conformityCategory d.conformityLevel) objectId).toList,[])
  else (takeWithin (objectSize d) 246 (streamIndices d code objectId),
    rest (objectSize d) 246 (streamIndices d code objectId))

def heldPage : IdentityPage where
  conformityLevel := d.conformityLevel
  moreFollows := if (heldIndices d code objectId).2 = [] then 0#8 else 0xFF#8
  nextObjectId := (heldIndices d code objectId).2.head?.elim 0#8 fun i => (d.objects i).objectId
  objects := (heldIndices d code objectId).1.map (heldObject d)

theorem heldObject_encode (i : Nat) :
    (heldObject d i).encode = deviceIdObjectBytes d (d.objects i) := by
  simp [IdentityObject.encode,heldObject,deviceIdObjectBytes]

theorem heldPage_body : (heldPage d code objectId).body code =
    [0x0E#8,code,d.conformityLevel,(heldPage d code objectId).moreFollows,
      (heldPage d code objectId).nextObjectId,
      BitVec.ofNat 8 (heldIndices d code objectId).1.length] ++
        pageBody d (heldIndices d code objectId).1 := by
  simp only [IdentityPage.body,heldPage,List.length_map,List.flatMap_map,pageBody,heldObject_encode]

theorem objectIdMatchesCategory_iff (objectId category : Byte) :
    objectIdMatchesCategory objectId category = true ↔ InCategory objectId category.toNat := by
  rw [← matchesCategory_iff]
  simp only [objectIdMatchesCategory,deviceIdObjectMatchesCategory,objectIdIsDefined]
  repeat' split
  all_goals simp

variable {d objectId}

theorem DeviceIdState.eligible_inCategory {category : Byte} {i : Nat}
    (hi : d.eligible category i = true) : InCategory (d.objects i).objectId category.toNat :=
  (objectIdMatchesCategory_iff _ _).mp hi

theorem findObjectIndex_spec {category : Byte} {i : Nat}
    (hi : findObjectIndex d category objectId = some i) :
    i < d.objectCount ∧ d.eligible category i = true ∧ (d.objects i).objectId = objectId := by
  have hfound := List.find?_some hi
  have hmem := List.mem_of_find?_eq_some hi
  simp only [Bool.and_eq_true,decide_eq_true_eq] at hfound
  exact ⟨List.mem_range.mp hmem,hfound⟩

end Held

section Stored
variable {d : DeviceIdState} {level : Byte} {objects : Mem DeviceIdObject} {n : Nat}
  (h : StoredConfiguration d level objects n) {code : Byte}
include h

theorem StoredConfiguration.objectSize_le {i : Nat} (hi : i < n) : objectSize d i ≤ 246 := by
  rw [h.objectSize_eq hi]
  have := (h.valid i hi).short
  omega

theorem StoredConfiguration.ascendingEligible (category : Byte) (i : Nat) :
    (eligibleFrom d category i).Pairwise fun j k =>
      (d.objects j).objectId.toNat < (d.objects k).objectId.toNat := by
  have hsorted : (eligibleFrom d category i).Pairwise (· < ·) :=
    List.Pairwise.filter _ List.pairwise_lt_range'
  refine hsorted.imp_of_mem fun hj hk hjk => ?_
  have hjn := (h.lt_of_mem_eligibleFrom hj).1
  have hkn := (h.lt_of_mem_eligibleFrom hk).1
  rw [(h.stores _ hjn).objectId,(h.stores _ hkn).objectId]
  exact h.ascending _ _ hjk hkn

theorem StoredConfiguration.streamStart_spec (hcode : 1 ≤ code.toNat ∧ code.toNat ≤ 3)
    (objectId : Byte) : streamStart d code objectId < n ∧
      d.eligible (responseCategory code level) (streamStart d code objectId) = true ∧
      ((d.objects (streamStart d code objectId)).objectId = 0#8 ∨
        (d.objects (streamStart d code objectId)).objectId = objectId) := by
  simp only [streamStart,h.conformityLevel]
  cases hfind : findObjectIndex d (responseCategory code level) objectId with
  | some i =>
    obtain ⟨hi,helig,hid⟩ := findObjectIndex_spec hfind
    rw [h.count] at hi
    exact ⟨hi,helig,.inr hid⟩
  | none =>
    have hzero := h.eligible_zero code hcode
    have hthree := h.three_le
    have hfirst : firstEligibleIndex d (responseCategory code level) = 0 := by
      rw [firstEligibleIndex,h.count]
      obtain ⟨m,rfl⟩ := Nat.exists_eq_add_of_le' (show 1 ≤ n by omega)
      rw [List.range_succ_eq_map,List.find?_cons_of_pos hzero]
      rfl
    rw [Option.getD_none,hfirst]
    exact ⟨by omega,hzero,.inl ((h.stores 0 (by omega)).objectId.trans h.mandatory.1)⟩

theorem StoredConfiguration.streamIndices_eq (hcode : 1 ≤ code.toNat ∧ code.toNat ≤ 3)
    (objectId : Byte) : ∃ js,
      streamIndices d code objectId = streamStart d code objectId :: js := by
  obtain ⟨hi,helig,-⟩ := h.streamStart_spec hcode objectId
  rw [streamIndices,h.conformityLevel,eligibleFrom,indicesFrom_step _ _ (by rwa [h.count]),helig]
  exact ⟨_,rfl⟩

theorem StoredConfiguration.conformity_mem :
    level ∈ [0x01#8,0x02#8,0x03#8,0x81#8,0x82#8,0x83#8] := by
  simpa [conformityLevelIsValid] using h.level_valid

theorem StoredConfiguration.heldPage_specific {objectId : Byte} {i : Nat}
    (hi : findObjectIndex d (conformityCategory level) objectId = some i) :
    heldPage d 0x04#8 objectId = ⟨level,0#8,0#8,[heldObject d i]⟩ := by
  simp [heldPage,heldIndices,h.conformityLevel,hi]

theorem StoredConfiguration.specific_answers {objectId : Byte} {i : Nat}
    (hbit : level &&& 0x80#8 ≠ 0#8)
    (hi : findObjectIndex d (conformityCategory level) objectId = some i) :
    (heldPage d 0x04#8 objectId).Answers 0x04#8 objectId := by
  obtain ⟨-,helig,hid⟩ := findObjectIndex_spec hi
  have hcategory := DeviceIdState.eligible_inCategory helig
  rw [hid] at hcategory
  rw [h.heldPage_specific hi]
  refine ⟨h.conformity_mem,by simp,by simp [IdentityPage.objectIds],?_,.inl ⟨rfl,rfl⟩,
    fun hne => absurd rfl hne,fun _ => ⟨hbit,rfl,?_⟩⟩
  · simp only [IdentityPage.objectIds,List.map_cons,List.map_nil,List.mem_singleton,heldObject,
      forall_eq,hid]
    exact hcategory
  · simp [IdentityPage.objectIds,heldObject,hid]

omit h in
theorem responseCategory_toNat (hne : code ≠ 0x04#8) :
    (responseCategory code level).toNat = pageCategory code level := by
  have hmask : (level &&& 0x7F#8).toNat = (conformityCategory level).toNat := rfl
  rw [pageCategory,if_neg hne,hmask,responseCategory]
  split
  · omega
  · omega

/-- A page of a stream begins with its first object, and the objects of the page and those that
are left ascend. -/
theorem StoredConfiguration.stream_split (hcode : 1 ≤ code.toNat ∧ code.toNat ≤ 3)
    (objectId : Byte) {taken left : List Nat} (hsplit : heldIndices d code objectId = (taken,left)) :
    (∃ ks, taken = streamStart d code objectId :: ks) ∧
      (taken ++ left).Pairwise (fun i j => (d.objects i).objectId.toNat <
        (d.objects j).objectId.toNat) ∧
      ∀ i ∈ taken ++ left, InCategory (d.objects i).objectId (pageCategory code level) := by
  have hne : code ≠ 0x04#8 := by bv_omega
  obtain ⟨hi,-⟩ := h.streamStart_spec hcode objectId
  obtain ⟨js,hjs⟩ := h.streamIndices_eq hcode objectId
  rw [heldIndices,if_neg hne] at hsplit
  obtain ⟨rfl,rfl⟩ := Prod.mk.inj hsplit
  rw [takeWithin_append_rest,streamIndices,h.conformityLevel,← responseCategory_toNat hne]
  refine ⟨?_,h.ascendingEligible _ _,fun i hmem => ?_⟩
  · rw [← h.conformityLevel,← streamIndices,hjs,takeWithin_cons_fits _ (h.objectSize_le hi)]
    exact ⟨_,rfl⟩
  · exact DeviceIdState.eligible_inCategory (h.lt_of_mem_eligibleFrom hmem).2

theorem StoredConfiguration.stream_answers (hcode : 1 ≤ code.toNat ∧ code.toNat ≤ 3)
    (objectId : Byte) : (heldPage d code objectId).Answers code objectId := by
  have hne : code ≠ 0x04#8 := by bv_omega
  obtain ⟨-,-,hfirst⟩ := h.streamStart_spec hcode objectId
  rcases hsplit : heldIndices d code objectId with ⟨taken,left⟩
  obtain ⟨⟨ks,rfl⟩,hascending,hcategory⟩ := h.stream_split hcode objectId hsplit
  obtain ⟨htaken,-,hbetween⟩ := List.pairwise_append.mp hascending
  have hids : (heldPage d code objectId).objectIds =
      (streamStart d code objectId :: ks).map fun i => (d.objects i).objectId := by
    simp only [IdentityPage.objectIds,heldPage,hsplit,List.map_map]
    rfl
  have hlevel : (heldPage d code objectId).conformityLevel = level := h.conformityLevel
  refine ⟨by rw [hlevel]; exact h.conformity_mem,by simp [heldPage,hsplit],?_,?_,?_,?_,
    fun h4 => absurd h4 hne⟩
  · rw [hids,List.pairwise_map]
    exact htaken
  · rw [hids,hlevel]
    intro a ha
    obtain ⟨i,hi,rfl⟩ := List.mem_map.mp ha
    exact hcategory i (List.mem_append_left _ hi)
  · rw [hids,hlevel]
    cases left with
    | nil => exact .inl ⟨by simp [heldPage,hsplit],by simp [heldPage,hsplit]⟩
    | cons y left =>
      have hnext : (heldPage d code objectId).nextObjectId = (d.objects y).objectId := by
        simp [heldPage,hsplit]
      refine .inr ⟨by simp [heldPage,hsplit],?_,?_,?_⟩
      · rw [hnext]
        intro hzero
        have hlt := hbetween _ List.mem_cons_self y List.mem_cons_self
        rw [hzero] at hlt
        exact absurd hlt (by simp)
      · rw [hnext]
        exact hcategory y (by simp)
      · intro a ha
        rw [hnext]
        obtain ⟨i,hi,rfl⟩ := List.mem_map.mp (List.mem_of_getLast? ha)
        exact hbetween i hi y List.mem_cons_self
  · rw [hids]
    rintro - a ha
    simp only [List.map_cons,List.head?_cons,Option.mem_some_iff] at ha
    rw [← ha]
    exact hfirst

theorem StoredConfiguration.process_specific {s : Server} (hs : s.data.deviceId = d)
    {objectId : Byte} {response : List Byte}
    (hout : (mbDeviceIdProcessRequest s 0x04#8 objectId 253).1 = .ok response) :
    response = 0x2B#8 :: (heldPage d 0x04#8 objectId).body 0x04#8 ∧
      (heldPage d 0x04#8 objectId).Answers 0x04#8 objectId := by
  simp only [mbDeviceIdProcessRequest,Server.emit_data,hs,h.configured,h.conformityLevel] at hout
  rw [if_neg (by decide),if_neg (by decide),if_pos trivial] at hout
  split at hout
  · cases hout
  rename_i hbit
  cases hfind : findObjectIndex d (conformityCategory level) objectId with
  | none =>
    rw [hfind] at hout
    cases hout
  | some index =>
    rw [hfind] at hout
    dsimp only at hout
    split at hout
    · cases hout
    refine ⟨?_,h.specific_answers hbit hfind⟩
    rw [← Except.ok.inj hout,h.heldPage_specific hfind]
    simp [IdentityPage.body,heldObject_encode]

theorem StoredConfiguration.process_stream (hcode : 1 ≤ code.toNat ∧ code.toNat ≤ 3) {s : Server}
    (hs : s.data.deviceId = d) {objectId : Byte} {response : List Byte}
    (hout : (mbDeviceIdProcessRequest s code objectId 253).1 = .ok response) :
    response = 0x2B#8 :: (heldPage d code objectId).body code := by
  have hne : code ≠ 0x04#8 := by bv_omega
  obtain ⟨hi,-⟩ := h.streamStart_spec hcode objectId
  rcases hsplit : heldIndices d code objectId with ⟨taken,left⟩
  obtain ⟨⟨ks,rfl⟩,-⟩ := h.stream_split hcode objectId hsplit
  have hloop := pageLoop_eq d (responseCategory code level) (responseLimit 253)
    (n-streamStart d code objectId) (streamStart d code objectId) 0 [] (by rw [h.count])
    (by rw [Nat.zero_add]; exact (h.length_eligibleFrom_le _).trans h.count_le) (by decide)
  have hindices : eligibleFrom d (responseCategory code level) (streamStart d code objectId) =
      streamIndices d code objectId := by rw [streamIndices,h.conformityLevel]
  have hheld := hsplit
  rw [heldIndices,if_neg hne] at hheld
  obtain ⟨htaken,hleft⟩ := Prod.mk.inj hheld
  rw [hindices] at hloop
  change pageLoop _ _ _ _ _ _ _ = finishPage d 0 [] (takeWithin _ 246 _) (rest _ 246 _) at hloop
  rw [htaken,hleft] at hloop
  have hstart : (findObjectIndex d (responseCategory code level) objectId).getD
      (firstEligibleIndex d (responseCategory code level)) = streamStart d code objectId := by
    rw [streamStart,h.conformityLevel]
  have hcategory : (if code.toNat < (conformityCategory level).toNat then code
      else conformityCategory level) = responseCategory code level := rfl
  have hbad : ¬ (n ≤ streamStart d code objectId ∨ responseLimit 253 < 7) := by
    simp only [responseLimit,modbusPduMaxSize]
    omega
  simp only [mbDeviceIdProcessRequest,Server.emit_data,hs,h.configured,h.conformityLevel,h.count,
    hcategory,hstart,if_neg hbad,if_neg hne] at hout
  rw [if_neg (by omega),if_neg (by decide),show (0 : Byte) = BitVec.ofNat 8 0 from rfl,hloop] at hout
  have hpositive : ¬ 0+(streamStart d code objectId :: ks).length = 0 := by simp
  cases left with
  | nil =>
    rw [← Except.ok.inj hout,heldPage_body]
    simp [heldPage,hsplit,h.conformityLevel]
  | cons y left =>
    simp only [finishPage,if_neg hpositive] at hout
    rw [← Except.ok.inj hout,heldPage_body]
    simp [heldPage,hsplit,h.conformityLevel]

theorem StoredConfiguration.process_heldPage {s : Server} (hs : s.data.deviceId = d)
    {objectId : Byte} {response : List Byte}
    (hout : (mbDeviceIdProcessRequest s code objectId 253).1 = .ok response) :
    response = 0x2B#8 :: (heldPage d code objectId).body code ∧
      (heldPage d code objectId).Answers code objectId := by
  have hcode : 1 ≤ code.toNat ∧ code.toNat ≤ 4 := by
    simp only [mbDeviceIdProcessRequest] at hout
    split at hout
    · cases hout
    · omega
  by_cases h4 : code = 0x04#8
  · subst h4
    exact h.process_specific hs hout
  · have hstream : 1 ≤ code.toNat ∧ code.toNat ≤ 3 := by bv_omega
    exact ⟨h.process_stream hstream hs hout,h.stream_answers hstream objectId⟩

end Stored

def ObjectsDelivered (d : DeviceIdState) (code objectId : Byte) (adu : Mem Byte)
    (response : Response) : Prop :=
  ∃ identity, mbrtumGetDeviceIdResponse response adu = .ok identity ∧
    identity.readDeviceIdCode = code ∧
    identity.conformityLevel = (heldPage d code objectId).conformityLevel ∧
    identity.moreFollows = (heldPage d code objectId).moreFollows ∧
    identity.nextObjectId = (heldPage d code objectId).nextObjectId ∧
    identity.objectCount.toNat = (heldPage d code objectId).objects.length ∧
    (∀ i, identity.objectCount.toNat ≤ i →
      mbrtumGetDeviceIdObject adu identity i = .error .errorIndex) ∧
    ∀ i o, (heldPage d code objectId).objects[i]? = some o →
      ∃ start, mbrtumGetDeviceIdObject adu identity i = .ok ⟨o.objectId,start,o.value.length⟩ ∧
        Stored adu start o.value

section Delivery
variable {a code objectId : Byte} {d : DeviceIdState} {tail : List Byte}
  (hpage : (heldPage d code objectId).Answers code objectId) (hmost : tail.length ≤ 252)
  (htail : tail = (heldPage d code objectId).body code)
include hpage hmost htail

theorem accepts_objects : (WireRequest.readDeviceIdentification code objectId).Accepts a tail
    ⟨0x2B#8,0,some 2,tail.length⟩ := by
  have hstored := reply_stored a 0x2B#8 tail
  nth_rewrite 2 [htail] at hstored
  have hcode : loByte ((WireRequest.readDeviceIdentification code objectId).descriptor a).startAddress =
      code := WireRequest.loByte_setWidth code
  have hobject : loByte ((WireRequest.readDeviceIdentification code objectId).descriptor a).quantity =
      objectId := WireRequest.loByte_setWidth objectId
  have hvalue : ¬ ((WireRequest.readDeviceIdentification code objectId).descriptor a).value ≠ 0x0E#16 :=
    not_not.mpr rfl
  have hanswers : (heldPage d code objectId).Answers
      (loByte ((WireRequest.readDeviceIdentification code objectId).descriptor a).startAddress)
      (loByte ((WireRequest.readDeviceIdentification code objectId).descriptor a).quantity) := by
    rwa [hcode,hobject]
  have hlimit : tail.length+4 ≤ 256 := by omega
  have hchecked := checkDeviceId_complete hlimit (by rwa [hcode])
    (by rw [hcode,← htail,Nat.add_comm]) hanswers
  rw [WireRequest.Accepts]
  simp only [checkNormalResponse,WireRequest.descriptor_function,WireRequest.function,
    BitVec.reduceToNat]
  rw [if_neg hvalue]
  cases hout : checkDeviceId ((WireRequest.readDeviceIdentification code objectId).descriptor a)
      (ofList (appendCrc (a :: 0x2B#8 :: tail))) (tail.length+4) with
  | mk result response =>
    rw [hout] at hchecked
    obtain rfl : result = .ok := hchecked
    rw [checkDeviceId_response hout]
    rfl

theorem objectsDelivered : ObjectsDelivered d code objectId
    (ofList (appendCrc (a :: 0x2B#8 :: tail))) ⟨0x2B#8,0,some 2,tail.length⟩ := by
  have hstored := reply_stored a 0x2B#8 tail
  nth_rewrite 2 [htail] at hstored
  generalize ofList (appendCrc (a :: 0x2B#8 :: tail)) = adu at hstored ⊢
  obtain ⟨h2,h3,h4,h5,h6,h7,hobjects⟩ := stored_body.mp hstored
  have hlength := body_length (heldPage d code objectId) code
  rw [← htail] at hlength
  have hpositive := List.length_pos_iff.mpr hpage.nonempty
  have hle := objects_length_le (heldPage d code objectId).objects
  have hcount : (adu 7).toNat = (heldPage d code objectId).objects.length := by
    rw [h7,BitVec.toNat_ofNat]
    omega
  have hleast : 8 ≤ tail.length := by omega
  have hsizes : ∀ o ∈ (heldPage d code objectId).objects, o.value.length < 256 := by
    intro o ho
    obtain ⟨i,-,rfl⟩ := List.mem_map.mp ho
    simp only [heldObject,slice_length]
    omega
  have hview : ObjectsAt (adu.off 8) (tail.length-6) 0 (heldPage d code objectId).objects :=
    ⟨(stored_off adu 8 0 _).mpr hobjects,by omega,hsizes⟩
  refine ⟨_,deviceIdResponse_eq rfl hleast h2,h3,h4,h5,h6,hcount,fun i hi => if_pos hi,
    fun i o hi => ?_⟩
  obtain ⟨place,-,hplace,-,-,-,hvalue⟩ := seekObject_eq hview hi
  rw [Nat.zero_add] at hplace
  rw [hplace,stored_off] at hvalue
  exact ⟨_,deviceIdObject_eq _ rfl hcount.symm hview hi,hvalue⟩

end Delivery

/-- Nothing is configured, or what an accepted configuration has stored. -/
def DeviceIdSound (d : DeviceIdState) : Prop :=
  d.configured = 0#8 ∨ ∃ level objects n, StoredConfiguration d level objects n

theorem exchange_deviceId {cfg : Platform} {a : Byte} {s : Slave} {policy : DiagnosticsPolicy}
    {code objectId : Byte} (hawake : s.isListenOnly = false)
    (hsound : DeviceIdSound s.server.data.deviceId)
    (h : (WireRequest.readDeviceIdentification code objectId).WellFormed a)
    (ha : (WireRequest.readDeviceIdentification code objectId).answered a = true) :
    Exchanges cfg (.readDeviceIdentification code objectId) a s policy fun adu response _ =>
      ObjectsDelivered s.server.data.deviceId code objectId adu response := by
  refine .handled h ha hawake (.inr rfl) (by simp [WireRequest.function])
    fun tail server after hfunction hserver => ?_
  have hpdu := WireRequest.arrival_pdu (w := .readDeviceIdentification code objectId) (a := a) policy
  simp only [WireRequest.pdu,WireRequest.body,WireRequest.function,stored_cons] at hpdu
  obtain ⟨h0,h1,h2,h3,-⟩ := hpdu
  have hlen : (WireRequest.readDeviceIdentification code objectId).pdu.length = 4 := rfl
  have hpass : ¬ (4 < 2 ∨ modbusPduMaxSize < 4 ∨
      ((WireRequest.arrival (.readDeviceIdentification code objectId) a policy).request.off 1) 0 ≠
        0x2B#8) := by
    rw [h0]
    simp [modbusPduMaxSize]
  simp only [processPduFunction,h0,BitVec.reduceToNat] at hfunction
  rw [hlen,if_neg (by omega),mbMeiProcessRequest,if_neg hpass] at hfunction
  dsimp only at hfunction
  rw [h1,h2,h3,if_pos rfl,if_neg (by omega)] at hfunction
  have hresponse : (mbDeviceIdProcessRequest s.server code objectId 253).1 = .ok (0x2B#8 :: tail) := by
    rw [hfunction]
    rfl
  obtain ⟨-,hmost,-⟩ := mbDeviceIdProcessRequest_fits s.server 253 code objectId _ hresponse
  rw [List.length_cons] at hmost
  have hroom : tail.length ≤ 252 := by omega
  obtain hnone | ⟨level,objects,n,hstored⟩ := hsound
  · simp only [mbDeviceIdProcessRequest,Server.emit_data,hnone] at hresponse
    split at hresponse
    · cases hresponse
    rw [if_pos trivial] at hresponse
    cases hresponse
  · obtain ⟨htail,hpage⟩ := hstored.process_heldPage rfl hresponse
    obtain ⟨-,htail⟩ := List.cons.inj htail
    exact ⟨_,accepts_objects hpage hroom htail,objectsDelivered hpage hroom htail⟩

end ModbusStack
