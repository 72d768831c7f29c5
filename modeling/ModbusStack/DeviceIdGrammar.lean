import ModbusStack.CrcAgreement
import ModbusStack.MasterResponse

/-! The responses that the FC43/14 parser of the master accepts, as a grammar. -/
set_option autoImplicit false

namespace ModbusStack
open ByteMemory

structure IdentityObject where
  objectId : Byte
  value : List Byte
  deriving DecidableEq, Repr

def IdentityObject.encode (o : IdentityObject) : List Byte :=
  o.objectId :: BitVec.ofNat 8 o.value.length :: o.value

@[simp] theorem IdentityObject.encode_length (o : IdentityObject) :
    o.encode.length = 2+o.value.length := by
  simp [encode]
  omega

/-- What an FC43/14 response says beside the address and the code. -/
structure IdentityPage where
  conformityLevel : Byte
  moreFollows : Byte
  nextObjectId : Byte
  objects : List IdentityObject
  deriving DecidableEq, Repr

def IdentityPage.objectIds (page : IdentityPage) : List Byte :=
  page.objects.map IdentityObject.objectId

def IdentityPage.body (page : IdentityPage) (readCode : Byte) : List Byte :=
  [0x0E#8,readCode,page.conformityLevel,page.moreFollows,page.nextObjectId,
    BitVec.ofNat 8 page.objects.length] ++ page.objects.flatMap IdentityObject.encode

def IdentityPage.encode (page : IdentityPage) (slaveAddress readCode : Byte) : List Byte :=
  [slaveAddress,0x2B#8] ++ page.body readCode

def InCategory (objectId : Byte) (category : Nat) : Prop :=
  (category = 1 ∧ objectId.toNat ≤ 0x02) ∨ (category = 2 ∧ objectId.toNat ≤ 0x06) ∨
    (category = 3 ∧ (objectId.toNat ≤ 0x06 ∨ 0x80 ≤ objectId.toNat))

def pageCategory (readCode conformityLevel : Byte) : Nat :=
  if readCode = 0x04#8 then (conformityLevel &&& 0x7F#8).toNat
  else min readCode.toNat (conformityLevel &&& 0x7F#8).toNat

structure IdentityPage.Answers (page : IdentityPage) (readCode objectId : Byte) : Prop where
  conformity : page.conformityLevel ∈ [0x01#8,0x02#8,0x03#8,0x81#8,0x82#8,0x83#8]
  nonempty : page.objects ≠ []
  ascending : page.objectIds.Pairwise fun a b => a.toNat < b.toNat
  category : ∀ a ∈ page.objectIds, InCategory a (pageCategory readCode page.conformityLevel)
  continuation : (page.moreFollows = 0#8 ∧ page.nextObjectId = 0#8) ∨
    (page.moreFollows = 0xFF#8 ∧ page.nextObjectId ≠ 0#8 ∧
      InCategory page.nextObjectId (pageCategory readCode page.conformityLevel) ∧
      ∀ a ∈ page.objectIds.getLast?, a.toNat < page.nextObjectId.toNat)
  first : readCode ≠ 0x04#8 → ∀ a ∈ page.objectIds.head?, a = 0#8 ∨ a = objectId
  specific : readCode = 0x04#8 → page.conformityLevel &&& 0x80#8 ≠ 0#8 ∧
    page.moreFollows = 0#8 ∧ page.objectIds = [objectId]

theorem matchesCategory_iff (objectId category : Byte) :
    deviceIdObjectMatchesCategory objectId category = true ↔
      InCategory objectId category.toNat := by
  have h : ∀ k : Nat, k < 256 → (category = BitVec.ofNat 8 k ↔ category.toNat = k) := by
    intro k hk
    rw [← BitVec.toNat_inj,BitVec.toNat_ofNat,Nat.mod_eq_of_lt hk]
  have h1 := h 1 (by omega)
  have h2 := h 2 (by omega)
  have h3 := h 3 (by omega)
  simp only [deviceIdObjectMatchesCategory,InCategory,h1,h2,h3]
  split
  · simp only [decide_eq_true_eq]
    omega
  · split
    · simp only [decide_eq_true_eq]
      omega
    · simp only [decide_eq_true_eq]
      omega

theorem effectiveCategory_toNat (readCode conformityLevel : Byte) :
    (effectiveCategory readCode conformityLevel).toNat = pageCategory readCode conformityLevel := by
  simp only [effectiveCategory,pageCategory,deviceIdConformityCategory]
  by_cases h : readCode = 0x04#8
  · simp [h]
  · simp only [h,ne_eq,not_false_eq_true,true_and,if_false]
    split
    · omega
    · omega

/-! The object loop. -/

section Objects
variable (request : Request) (adu : Mem Byte) (length : Nat) (readCode category : Byte)

/-- What the loop asks of an object identifier in turn `i`. -/
structure ObjectFits (i : Nat) (previous objectId : Byte) : Prop where
  ascending : 0 < i → previous.toNat < objectId.toNat
  category : deviceIdObjectMatchesCategory objectId category = true
  specific : readCode = 0x04#8 → objectId = loByte request.quantity
  first : readCode ≠ 0x04#8 → i = 0 → objectId = 0#8 ∨ objectId = loByte request.quantity

def ObjectsFit : (i : Nat) → Byte → List IdentityObject → Prop
  | _, _, [] => True
  | i, previous, o :: os =>
    ObjectFits request readCode category i previous o.objectId ∧ ObjectsFit (i+1) o.objectId os

variable {adu length}

theorem checkObjects_sound {n i offset e : Nat} {previous last : Byte} (hoffset : offset ≤ length-2)
    (h : checkObjects request adu length readCode category n i offset previous = .ok (e,last)) :
    ∃ objects, objects.length = n ∧ Stored adu offset (objects.flatMap IdentityObject.encode) ∧
      e = offset+(objects.flatMap IdentityObject.encode).length ∧ e ≤ length-2 ∧
      ObjectsFit request readCode category i previous objects ∧
      last = (objects.map IdentityObject.objectId).getLastD previous := by
  induction n generalizing i offset previous with
  | zero =>
    obtain ⟨rfl,rfl⟩ := Prod.mk.inj (Except.ok.inj h)
    exact ⟨[],rfl,stored_nil _ _,rfl,hoffset,trivial,rfl⟩
  | succ n ih =>
    rw [checkObjects] at h
    dsimp only at h
    split_ifs at h with hhead hvalue hascending hcategory hspecific hfirst
    obtain ⟨os,hn,hs,he,hle,hfit,hlast⟩ := ih (by omega) h
    let o : IdentityObject := ⟨adu offset,slice adu (offset+2) (adu (offset+1)).toNat⟩
    have hlen : o.encode.length = 2+(adu (offset+1)).toNat := by
      rw [o.encode_length,slice_length]
    refine ⟨o :: os,by rw [List.length_cons,hn],?_,?_,hle,⟨⟨?_,?_,?_,?_⟩,hfit⟩,?_⟩
    · rw [List.flatMap_cons,stored_append,hlen,← Nat.add_assoc]
      refine ⟨?_,hs⟩
      simp only [IdentityObject.encode,stored_cons,o,slice_length,BitVec.ofNat_toNat,
        BitVec.setWidth_eq,true_and]
      exact stored_slice adu (offset+2) _
    · rw [List.flatMap_cons,List.length_append,hlen]
      omega
    · intro hi
      have : o.objectId = adu offset := rfl
      rw [this]
      omega
    · simpa using hcategory
    · intro hcode
      by_contra hne
      exact hspecific ⟨hcode,hne⟩
    · intro hcode hi
      by_contra hne
      rw [not_or] at hne
      exact hfirst ⟨hcode,hi,hne.1,hne.2⟩
    · rw [hlast,List.map_cons,List.getLastD_cons]

theorem checkObjects_complete {objects : List IdentityObject} {i offset : Nat} {previous : Byte}
    (hlength : length ≤ 256)
    (hstored : Stored adu offset (objects.flatMap IdentityObject.encode))
    (hend : offset+(objects.flatMap IdentityObject.encode).length ≤ length-2)
    (hfit : ObjectsFit request readCode category i previous objects) :
    checkObjects request adu length readCode category objects.length i offset previous =
      .ok (offset+(objects.flatMap IdentityObject.encode).length,
        (objects.map IdentityObject.objectId).getLastD previous) := by
  induction objects generalizing i offset previous with
  | nil => rfl
  | cons o os ih =>
    obtain ⟨⟨hascending,hcategory,hspecific,hfirst⟩,hrest⟩ := hfit
    rw [List.flatMap_cons,stored_append,o.encode_length] at hstored
    rw [List.flatMap_cons,List.length_append,o.encode_length] at hend ⊢
    obtain ⟨ho,hos⟩ := hstored
    simp only [IdentityObject.encode,stored_cons] at ho
    obtain ⟨hid,hsize,-⟩ := ho
    have hvalue : (adu (offset+1)).toNat = o.value.length := by
      rw [hsize,BitVec.toNat_ofNat]
      omega
    have hspecific' : ¬ (readCode = 0x04#8 ∧ o.objectId ≠ loByte request.quantity) :=
      fun hc => hc.2 (hspecific hc.1)
    have hfirst' : ¬ (readCode ≠ 0x04#8 ∧ i = 0 ∧ o.objectId ≠ 0#8 ∧
        o.objectId ≠ loByte request.quantity) := by
      rintro ⟨hc,hi,h0,hr⟩
      rcases hfirst hc hi with h | h
      · exact h0 h
      · exact hr h
    rw [List.length_cons,checkObjects]
    simp only [hid,hvalue,hcategory,not_true_eq_false,if_false]
    rw [if_neg (by omega),if_neg (by omega),if_neg (by omega),if_neg hspecific',if_neg hfirst',
      Nat.add_assoc offset 2,ih hos (by omega) hrest,List.map_cons,List.getLastD_cons,
      Nat.add_assoc]

theorem checkObjects_error {n i offset : Nat} {previous : Byte} {result : MasterResult}
    (h : checkObjects request adu length readCode category n i offset previous = .error result) :
    result ≠ .ok := by
  induction n generalizing i offset previous with
  | zero => cases h
  | succ n ih =>
    rw [checkObjects] at h
    dsimp only at h
    split_ifs at h
    all_goals first
      | exact ih h
      | cases h; decide

/-- The loop's conditions after the first turn, without its accumulator. -/
theorem objectsFit_succ_iff (i : Nat) (previous : Byte) (objects : List IdentityObject) :
    ObjectsFit request readCode category (i+1) previous objects ↔
      (previous :: objects.map IdentityObject.objectId).Pairwise (fun a b => a.toNat < b.toNat) ∧
      ∀ a ∈ objects.map IdentityObject.objectId,
        deviceIdObjectMatchesCategory a category = true ∧
        (readCode = 0x04#8 → a = loByte request.quantity) := by
  induction objects generalizing i previous with
  | nil => simp [ObjectsFit]
  | cons o os ih =>
    rw [ObjectsFit,ih,List.map_cons,List.pairwise_cons (a := previous)]
    simp only [List.mem_cons,forall_eq_or_imp]
    constructor
    · rintro ⟨⟨hascending,hcategory,hspecific,-⟩,hsorted,hall⟩
      have hlt := hascending (by omega)
      refine ⟨⟨⟨hlt,fun a ha => ?_⟩,hsorted⟩,⟨hcategory,hspecific⟩,hall⟩
      have := (List.pairwise_cons.mp hsorted).1 a ha
      omega
    · rintro ⟨⟨⟨hlt,-⟩,hsorted⟩,⟨hcategory,hspecific⟩,hall⟩
      exact ⟨⟨fun _ => hlt,hcategory,hspecific,fun _ hi => by omega⟩,hsorted,hall⟩

theorem objectsFit_zero_iff (previous : Byte) (objects : List IdentityObject) :
    ObjectsFit request readCode category 0 previous objects ↔
      (objects.map IdentityObject.objectId).Pairwise (fun a b => a.toNat < b.toNat) ∧
      (∀ a ∈ objects.map IdentityObject.objectId,
        deviceIdObjectMatchesCategory a category = true ∧
        (readCode = 0x04#8 → a = loByte request.quantity)) ∧
      (readCode ≠ 0x04#8 → ∀ a ∈ (objects.map IdentityObject.objectId).head?,
        a = 0#8 ∨ a = loByte request.quantity) := by
  cases objects with
  | nil => simp [ObjectsFit]
  | cons o os =>
    rw [ObjectsFit,objectsFit_succ_iff,List.map_cons]
    simp only [List.mem_cons,forall_eq_or_imp,List.head?_cons,Option.mem_some_iff,forall_eq']
    constructor
    · rintro ⟨⟨-,hcategory,hspecific,hfirst⟩,hsorted,hall⟩
      exact ⟨hsorted,⟨⟨hcategory,hspecific⟩,hall⟩,fun hc => hfirst hc rfl⟩
    · rintro ⟨hsorted,⟨⟨hcategory,hspecific⟩,hall⟩,hfirst⟩
      exact ⟨⟨fun h => by omega,hcategory,hspecific,fun hc _ => hfirst hc⟩,hsorted,hall⟩

end Objects

section Page
variable {request : Request} {adu : Mem Byte} {length : Nat}

theorem deviceIdHeader_iff (readCode conformityLevel moreFollows nextObjectId objectCount : Byte) :
    deviceIdHeaderIsBad request readCode conformityLevel moreFollows nextObjectId objectCount =
        false ↔
      readCode = loByte request.startAddress ∧
      conformityLevel ∈ [0x01#8,0x02#8,0x03#8,0x81#8,0x82#8,0x83#8] ∧
      ((moreFollows = 0#8 ∧ nextObjectId = 0#8) ∨ (moreFollows = 0xFF#8 ∧ nextObjectId ≠ 0#8)) ∧
      objectCount ≠ 0#8 ∧
      (readCode = 0x04#8 → conformityLevel &&& 0x80#8 ≠ 0#8 ∧ moreFollows = 0#8 ∧
        objectCount = 1#8) := by
  have hdistinct : (0#8 : Byte) ≠ 0xFF#8 := by decide
  simp only [deviceIdHeaderIsBad,decide_eq_false_iff_not,deviceIdConformityIsValid,
    decide_eq_true_eq]
  constructor
  · intro h
    simp only [not_or,not_and_or,not_not] at h
    obtain ⟨hcode,hlevel,hmore,hcount,hend,hnext,hspecific⟩ := h
    refine ⟨hcode,hlevel,?_,hcount,?_⟩
    · rcases hmore with rfl | rfl
      · exact .inl ⟨rfl,by simpa using hend⟩
      · exact .inr ⟨rfl,by simpa using hnext⟩
    · intro h4
      rcases hspecific with hne | ⟨hbit,hm,-,hc⟩
      · exact absurd h4 hne
      · exact ⟨hbit,hm,hc⟩
  · rintro ⟨hcode,hlevel,hpair,hcount,hspecific⟩ hbad
    rcases hbad with h | h | ⟨h0,hff⟩ | h | ⟨h0,hn⟩ | ⟨hff,hn⟩ | ⟨h4,h⟩
    · exact h hcode
    · exact h hlevel
    · rcases hpair with ⟨hm,-⟩ | ⟨hm,-⟩
      · exact h0 hm
      · exact hff hm
    · exact hcount h
    · rcases hpair with ⟨-,hz⟩ | ⟨hm,-⟩
      · exact hn hz
      · exact hdistinct (h0.symm.trans hm)
    · rcases hpair with ⟨hm,-⟩ | ⟨-,hz⟩
      · exact hdistinct (hm.symm.trans hff)
      · exact hz hn
    · obtain ⟨hbit,hm,hc⟩ := hspecific h4
      rcases h with h | h | h | h
      · exact hbit h
      · exact h hm
      · rcases hpair with ⟨-,hz⟩ | ⟨hm',-⟩
        · exact h hz
        · exact hdistinct (hm.symm.trans hm')
      · exact h hc

theorem body_length (page : IdentityPage) (readCode : Byte) :
    (page.body readCode).length = 6+(page.objects.flatMap IdentityObject.encode).length := by
  simp [IdentityPage.body]
  omega

theorem objects_length_le (objects : List IdentityObject) :
    2*objects.length ≤ (objects.flatMap IdentityObject.encode).length := by
  induction objects with
  | nil => simp
  | cons o os ih =>
    rw [List.flatMap_cons,List.length_append,o.encode_length,List.length_cons]
    omega

theorem stored_body {page : IdentityPage} {readCode : Byte} :
    Stored adu 2 (page.body readCode) ↔ adu 2 = 0x0E#8 ∧ adu 3 = readCode ∧
      adu 4 = page.conformityLevel ∧ adu 5 = page.moreFollows ∧ adu 6 = page.nextObjectId ∧
      adu 7 = BitVec.ofNat 8 page.objects.length ∧
      Stored adu 8 (page.objects.flatMap IdentityObject.encode) := by
  simp only [IdentityPage.body,List.cons_append,List.nil_append,stored_cons]

theorem checkDeviceId_sound (h : (checkDeviceId request adu length).1 = .ok) :
    ∃ page : IdentityPage, Stored adu 2 (page.body (loByte request.startAddress)) ∧
      length = 4+(page.body (loByte request.startAddress)).length ∧
      page.Answers (loByte request.startAddress) (loByte request.quantity) := by
  unfold checkDeviceId at h
  split at h
  · cases h
  rename_i hlength
  split at h
  · cases h
  rename_i hmei
  split at h
  · cases h
  rename_i hheader
  rw [Bool.not_eq_true,deviceIdHeader_iff] at hheader
  obtain ⟨hcode,hlevel,hpair,hcount,hspecific⟩ := hheader
  dsimp only at h
  cases hobjects : checkObjects request adu length (adu 3) (effectiveCategory (adu 3) (adu 4))
    (adu 7).toNat 0 8 0 with
  | error e =>
    rw [hobjects] at h
    exact absurd h (checkObjects_error request _ _ hobjects)
  | ok r =>
    obtain ⟨e,last⟩ := r
    rw [hobjects] at h
    dsimp only at h
    split at h
    · cases h
    rename_i hend
    split at h
    · cases h
    rename_i hnext
    obtain ⟨objects,hn,hs,he,hle,hfit,hlast⟩ := checkObjects_sound request _ _ (by omega) hobjects
    obtain ⟨hsorted,hall,hfirst⟩ := (objectsFit_zero_iff request _ _ _ _).mp hfit
    have hids : ∀ a ∈ objects.map IdentityObject.objectId,
        InCategory a (pageCategory (adu 3) (adu 4)) := by
      intro a ha
      have hmatch := (hall a ha).1
      rwa [matchesCategory_iff,effectiveCategory_toNat] at hmatch
    have hpos : (adu 7).toNat ≠ 0 := fun hz => hcount (BitVec.eq_of_toNat_eq hz)
    obtain ⟨o,os,rfl⟩ := List.exists_cons_of_length_pos (by omega : 0 < objects.length)
    rw [← hcode]
    refine ⟨⟨adu 4,adu 5,adu 6,o :: os⟩,stored_body.mpr ⟨not_not.mp hmei,rfl,rfl,rfl,rfl,?_,hs⟩,?_,
      hlevel,by simp,hsorted,hids,?_,hfirst,?_⟩
    · rw [hn]
      simp
    · rw [body_length]
      dsimp only
      omega
    · rcases hpair with hpair | ⟨hmore,hnonzero⟩
      · exact .inl hpair
      · have hnext' : last.toNat < (adu 6).toNat ∧
            deviceIdObjectMatchesCategory (adu 6) (effectiveCategory (adu 3) (adu 4)) = true := by
          simp only [hmore,true_and,not_or,Nat.not_le,not_not] at hnext
          exact hnext
        rw [matchesCategory_iff,effectiveCategory_toNat] at hnext'
        refine .inr ⟨hmore,hnonzero,hnext'.2,fun a ha => ?_⟩
        have : a = last := by
          rw [hlast,List.getLastD_eq_getLast?]
          simp only [IdentityPage.objectIds] at ha
          rw [ha]
          rfl
        rw [this]
        exact hnext'.1
    · intro h4
      obtain ⟨hbit,hmore,hone⟩ := hspecific h4
      refine ⟨hbit,hmore,?_⟩
      rw [hone] at hn
      obtain rfl : os = [] := by simpa using hn
      have ho := (hall o.objectId (by simp)).2 h4
      simp [IdentityPage.objectIds,ho]

theorem checkDeviceId_complete {page : IdentityPage} (hlimit : length ≤ 256)
    (hstored : Stored adu 2 (page.body (loByte request.startAddress)))
    (hlength : length = 4+(page.body (loByte request.startAddress)).length)
    (hpage : page.Answers (loByte request.startAddress) (loByte request.quantity)) :
    (checkDeviceId request adu length).1 = .ok := by
  obtain ⟨h2,h3,h4,h5,h6,h7,hs⟩ := stored_body.mp hstored
  rw [body_length] at hlength
  obtain ⟨hlevel,hnonempty,hsorted,hids,hpair,hfirst,hspecific⟩ := hpage
  have hle := objects_length_le page.objects
  have hpos := List.length_pos_iff.mpr hnonempty
  have hcount : (BitVec.ofNat 8 page.objects.length).toNat = page.objects.length := by
    rw [BitVec.toNat_ofNat]
    omega
  have hheader : deviceIdHeaderIsBad request (loByte request.startAddress) page.conformityLevel
      page.moreFollows page.nextObjectId (BitVec.ofNat 8 page.objects.length) = false := by
    refine (deviceIdHeader_iff _ _ _ _ _).mpr ⟨rfl,hlevel,?_,?_,?_⟩
    · rcases hpair with h | ⟨hm,hn,-⟩
      · exact .inl h
      · exact .inr ⟨hm,hn⟩
    · intro hz
      rw [hz] at hcount
      simp at hcount
      omega
    · intro hc
      obtain ⟨hbit,hm,hone⟩ := hspecific hc
      have hlen : page.objects.length = 1 := by
        have := congrArg List.length hone
        simpa [IdentityPage.objectIds] using this
      rw [hlen]
      exact ⟨hbit,hm,rfl⟩
  have hfit : ObjectsFit request (loByte request.startAddress)
      (effectiveCategory (loByte request.startAddress) page.conformityLevel) 0 0 page.objects := by
    refine (objectsFit_zero_iff request _ _ _ _).mpr ⟨hsorted,fun a ha => ⟨?_,fun hc => ?_⟩,hfirst⟩
    · rw [matchesCategory_iff,effectiveCategory_toNat]
      exact hids a ha
    · have hone := (hspecific hc).2.2
      simp only [IdentityPage.objectIds] at hone
      rw [hone] at ha
      simpa using ha
  have hloop := checkObjects_complete request _ _ hlimit hs (by omega) hfit
  have hnext : ¬ (page.moreFollows = 0xFF#8 ∧ (page.nextObjectId.toNat ≤
      ((page.objects.map IdentityObject.objectId).getLastD 0).toNat ∨
      ¬ deviceIdObjectMatchesCategory page.nextObjectId
        (effectiveCategory (loByte request.startAddress) page.conformityLevel) = true)) := by
    rintro ⟨hm,hbad⟩
    rcases hpair with ⟨hm',-⟩ | ⟨-,-,hin,hlast⟩
    · rw [hm] at hm'
      exact absurd hm' (by decide)
    · rw [matchesCategory_iff,effectiveCategory_toNat] at hbad
      rcases hbad with hle | hout
      · have hne : page.objectIds ≠ [] := by simpa [IdentityPage.objectIds] using hnonempty
        have ha := List.getLast?_eq_some_getLast hne
        have hlt := hlast _ ha
        simp only [IdentityPage.objectIds] at ha
        rw [List.getLastD_eq_getLast?,ha,Option.getD_some] at hle
        exact Nat.not_lt.mpr hle hlt
      · exact hout hin
  rw [checkDeviceId,if_neg (by omega),if_neg (not_not.mpr h2),h3,h4,h5,h6,h7,hheader,hcount]
  simp only [Bool.false_eq_true,if_false,hloop]
  rw [if_neg (by omega),if_neg hnext]
  rfl

end Page

/-! The whole frame. -/

section Frame
variable {request : Request} {requestAdu : Mem Byte} {requestAduLength : Nat} {adu : Mem Byte}
  {length : Nat}

theorem checkResponse_ok_iff :
    (checkResponse request requestAdu requestAduLength adu length).1 = .ok ↔
      (5 ≤ length ∧ length ≤ 256) ∧ mbCrc16 adu length = 0#16 ∧ adu 0 = request.slaveAddress ∧
      adu 1 ≠ request.function ||| 0x80#8 ∧ adu 1 = request.function ∧
      (checkNormalResponse request requestAdu requestAduLength adu length).1 = .ok := by
  constructor
  · intro h
    unfold checkResponse at h
    split at h
    · cases h
    rename_i hlength
    split at h
    · cases h
    rename_i hcrc
    split at h
    · cases h
    rename_i haddress
    split at h
    · split at h
      · cases h
      split at h
      · cases h
      cases h
    rename_i hexception
    split at h
    · cases h
    rename_i hfunction
    exact ⟨by omega,not_not.mp hcrc,not_not.mp haddress,hexception,not_not.mp hfunction,h⟩
  · rintro ⟨hlength,hcrc,haddress,hexception,hfunction,h⟩
    rw [checkResponse,if_neg (by omega),if_neg (not_not.mpr hcrc),if_neg (not_not.mpr haddress),
      if_neg hexception,if_neg (not_not.mpr hfunction)]
    exact h

theorem processResponse_eq {original : Option (Mem Byte)}
    (hdescriptor : validateRequestDescriptor request = .ok)
    (hfunction : requiresRequestAdu request.function = false) :
    mbrtumProcessResponseWithRequestAdu request original requestAduLength (some adu) length =
      checkResponse request (original.getD fun _ => 0) requestAduLength adu length := by
  simp [mbrtumProcessResponseWithRequestAdu,hdescriptor,hfunction]

end Frame

/-- The object loop with its counter of eight bits; `none` when it has not ended after `fuel`
turns. A turn is the body of `checkObjects`. -/
def objectLoop (request : Request) (adu : Mem Byte) (length : Nat)
    (readCode category objectCount : Byte) :
    (fuel : Nat) → (i : Byte) → (offset : Nat) → (previousObjectId : Byte) →
      Option (Except MasterResult (Nat × Byte))
  | 0, _, _, _ => none
  | fuel+1, i, offset, previousObjectId =>
    if i.toNat < objectCount.toNat then
      match checkObjects request adu length readCode category 1 i.toNat offset previousObjectId with
      | .error e => some (.error e)
      | .ok (offset,previousObjectId) =>
        objectLoop request adu length readCode category objectCount fuel (i+1) offset
          previousObjectId
    else some (.ok (offset,previousObjectId))

section Loop
variable (request : Request) (adu : Mem Byte) (length : Nat)
  (readCode category objectCount : Byte)

theorem checkObjects_succ (n i offset : Nat) (previous : Byte) :
    checkObjects request adu length readCode category (n+1) i offset previous =
      match checkObjects request adu length readCode category 1 i offset previous with
      | .error e => .error e
      | .ok (offset,previous) =>
        checkObjects request adu length readCode category n (i+1) offset previous := by
  simp only [checkObjects]
  split_ifs
  all_goals rfl

/-- The counter never wraps: it stops at the count. -/
theorem objectLoop_eq {n fuel : Nat} {i : Byte} (hn : i.toNat+n = objectCount.toNat)
    (hfuel : n < fuel) (offset : Nat) (previous : Byte) :
    objectLoop request adu length readCode category objectCount fuel i offset previous =
      some (checkObjects request adu length readCode category n i.toNat offset previous) := by
  induction n generalizing fuel i offset previous with
  | zero =>
    obtain ⟨fuel,rfl⟩ := Nat.exists_eq_succ_of_ne_zero (show fuel ≠ 0 by omega)
    rw [objectLoop,if_neg (by omega)]
    rfl
  | succ n ih =>
    obtain ⟨fuel,rfl⟩ := Nat.exists_eq_succ_of_ne_zero (show fuel ≠ 0 by omega)
    have hi : (i+1).toNat = i.toNat+1 := by
      rw [BitVec.toNat_add]
      simp
      omega
    rw [objectLoop,if_pos (by omega),checkObjects_succ request adu length readCode category n]
    cases checkObjects request adu length readCode category 1 i.toNat offset previous with
    | error e => rfl
    | ok r =>
      dsimp only
      rw [ih (by omega) (by omega),hi]

end Loop

structure ParsesIdentity (request : Request) (original : Option (Mem Byte))
    (originalLength : Nat) : Prop where
  accepts_iff : ∀ (adu : Mem Byte) (length : Nat),
    (mbrtumProcessResponseWithRequestAdu request original originalLength (some adu) length).1 =
        .ok ↔
      ∃ page : IdentityPage,
        length = (appendCrc (page.encode request.slaveAddress
          (loByte request.startAddress))).length ∧ length ≤ 256 ∧
        Stored adu 0 (appendCrc (page.encode request.slaveAddress (loByte request.startAddress))) ∧
        page.Answers (loByte request.startAddress) (loByte request.quantity)
  terminates : ∀ (adu : Mem Byte) (length : Nat) (readCode category objectCount : Byte),
    objectLoop request adu length readCode category objectCount 256 0 8 0 =
      some (checkObjects request adu length readCode category objectCount.toNat 0 8 0)

theorem identityParser_accepts (request : Request)
    (hdescriptor : validateRequestDescriptor request = .ok) (hfunction : request.function = 0x2B#8)
    (hvalue : request.value = 0x0E#16) (original : Option (Mem Byte)) (originalLength : Nat) :
    ParsesIdentity request original originalLength where
  accepts_iff := by
    intro adu length
    have hfree : requiresRequestAdu request.function = false := by
      rw [hfunction]
      decide
    rw [processResponse_eq hdescriptor hfree,checkResponse_ok_iff]
    have hnormal : checkNormalResponse request (original.getD fun _ => 0) originalLength adu length =
        checkDeviceId request adu length := by
      simp [checkNormalResponse,hfunction,hvalue]
    rw [hnormal]
    constructor
    · rintro ⟨hlength,hcrc,haddress,-,hcode,hok⟩
      obtain ⟨page,hstored,hpage,hanswers⟩ := checkDeviceId_sound hok
      have hsize : (page.encode request.slaveAddress (loByte request.startAddress)).length =
          length-2 := by
        rw [IdentityPage.encode,List.length_append]
        simp only [List.length_cons,List.length_nil]
        omega
      obtain ⟨n,rfl⟩ := Nat.exists_eq_add_of_le' (show 2 ≤ length by omega)
      rw [Nat.add_sub_cancel] at hsize
      refine ⟨page,by rw [appendCrc_length,hsize],hlength.2,?_,hanswers⟩
      rw [stored_appendCrc,hsize]
      refine ⟨?_,(mbCrc16_eq_zero_iff adu n).mp hcrc⟩
      rw [IdentityPage.encode,List.cons_append,List.cons_append,List.nil_append,stored_cons,
        stored_cons]
      exact ⟨haddress,hcode.trans hfunction,hstored⟩
    · rintro ⟨page,hlength,hlimit,hstored,hanswers⟩
      have hcrc := mbCrc16_appendCrc hstored
      obtain ⟨hframe,-⟩ := stored_appendCrc.mp hstored
      rw [appendCrc_length,IdentityPage.encode,List.length_append] at hlength
      rw [IdentityPage.encode,List.cons_append,List.cons_append,List.nil_append,stored_cons,
        stored_cons] at hframe
      obtain ⟨h0,h1,hbody⟩ := hframe
      simp only [List.length_cons,List.length_nil] at hlength
      have hbodyLength := body_length page (loByte request.startAddress)
      have hexception : adu 1 ≠ request.function ||| 0x80#8 := by
        rw [hfunction,h1]
        decide
      refine ⟨by omega,?_,h0,hexception,h1.trans hfunction.symm,
        checkDeviceId_complete hlimit hbody (by omega) hanswers⟩
      rw [IdentityPage.encode,List.length_append] at hcrc
      simp only [List.length_cons,List.length_nil] at hcrc
      rw [hlength]
      exact hcrc
  terminates := by
    intro adu length readCode category objectCount
    exact objectLoop_eq request adu length readCode category objectCount (by simp)
      (by omega) 8 0

def basicIdentityRequest : Request := ⟨0x11#8,0x2B#8,0x01#16,0x00#16,0x0E#16,1#8,0,0⟩

theorem identityParser_accepts_basic : ParsesIdentity basicIdentityRequest none 0 :=
  identityParser_accepts basicIdentityRequest (by decide) rfl rfl none 0

end ModbusStack
