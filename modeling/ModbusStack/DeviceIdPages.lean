import ModbusStack.DeviceIdStore
import ModbusStack.GreedyPages

/-! The FC43/14 dialogue: a client that asks for object 0 and then for each Next Object ID
gets every configured object of its category once. -/
set_option autoImplicit false

namespace ModbusStack
open ByteMemory GreedyPages

section Scan
variable (n : Nat) (p : Nat → Bool)

/-- The indices from `i` on that satisfy `p`. -/
def indicesFrom (i : Nat) : List Nat := (List.range' i (n-i)).filter p

theorem indicesFrom_end {i : Nat} (h : n ≤ i) : indicesFrom n p i = [] := by
  simp [indicesFrom,Nat.sub_eq_zero_of_le h]

theorem indicesFrom_step {i : Nat} (h : i < n) :
    indicesFrom n p i = if p i then i :: indicesFrom n p (i+1) else indicesFrom n p (i+1) := by
  obtain ⟨k,hk⟩ := Nat.exists_eq_add_of_lt h
  subst hk
  simp only [indicesFrom,show i+k+1-i = k+1 by omega,show i+k+1-(i+1) = k by omega,
    List.range'_succ,List.filter_cons]

/-- The scanning loops stop at the first index that the filtered list starts with. -/
theorem find_getD_eq (i : Nat) :
    ((List.range' i (n-i)).find? p).getD n = (indicesFrom n p i).head?.getD n := by
  rw [indicesFrom,List.head?_filter]

theorem indicesFrom_head {i j : Nat} {js : List Nat} (h : indicesFrom n p i = j :: js) :
    j < n ∧ i ≤ j ∧ p j ∧ indicesFrom n p j = j :: js := by
  induction hk : n-i generalizing i with
  | zero =>
    rw [indicesFrom_end n p (by omega)] at h
    cases h
  | succ k ih =>
    have hi : i < n := by omega
    have hs := indicesFrom_step n p hi
    cases hp : p i with
    | true =>
      simp only [hp,if_true] at hs
      rw [h] at hs
      obtain ⟨rfl,-⟩ := List.cons.inj hs
      exact ⟨hi,le_refl _,hp,h⟩
    | false =>
      simp only [hp,Bool.false_eq_true,if_false] at hs
      rw [hs] at h
      obtain ⟨h1,h2,h3,h4⟩ := ih h (by omega)
      exact ⟨h1,by omega,h3,h4⟩

theorem indicesFrom_suffix {i y : Nat} {taken ys : List Nat}
    (h : indicesFrom n p i = taken ++ y :: ys) :
    i+taken.length ≤ y ∧ y < n ∧ p y ∧ indicesFrom n p y = y :: ys := by
  induction taken generalizing i with
  | nil =>
    obtain ⟨h1,h2,h3,h4⟩ := indicesFrom_head n p h
    exact ⟨h2,h1,h3,h4⟩
  | cons a taken ih =>
    obtain ⟨h1,h2,h3,h4⟩ := indicesFrom_head n p h
    rw [indicesFrom_step n p h1,h3,if_pos rfl] at h4
    obtain ⟨h5,h6⟩ := ih (List.cons.inj h4).2
    exact ⟨by simp; omega,h6⟩

end Scan

section Page
variable (d : DeviceIdState) (category : Byte)

def objectSize (i : Nat) : Nat := 2+(d.objects i).valueLength.toNat

def eligibleFrom (i : Nat) : List Nat := indicesFrom d.objectCount (d.eligible category) i

theorem nextEligibleIndex_eq (i : Nat) :
    nextEligibleIndex d category i = (eligibleFrom d category (i+1)).head?.getD d.objectCount :=
  find_getD_eq d.objectCount (d.eligible category) (i+1)

theorem eligibleFrom_next (i : Nat) :
    eligibleFrom d category (nextEligibleIndex d category i) = eligibleFrom d category (i+1) := by
  rw [nextEligibleIndex_eq]
  cases h : eligibleFrom d category (i+1) with
  | nil => exact indicesFrom_end _ _ (le_refl _)
  | cons j js => exact (indicesFrom_head _ _ h).2.2.2

theorem lt_nextEligibleIndex {i : Nat} (h : i < d.objectCount) :
    i < nextEligibleIndex d category i := by
  rw [nextEligibleIndex_eq]
  cases hl : eligibleFrom d category (i+1) with
  | nil => exact h
  | cons j js =>
    have := (indicesFrom_head _ _ hl).2.1
    simp
    omega

def pageBody (page : List Nat) : List Byte := page.flatMap fun i => deviceIdObjectBytes d (d.objects i)

theorem pageBody_length (page : List Nat) :
    (pageBody d page).length = total (objectSize d) page := by
  induction page with
  | nil => rfl
  | cons i page ih =>
    simp only [pageBody,List.flatMap_cons,List.length_append,total_cons] at ih ⊢
    rw [ih]
    simp [deviceIdObjectBytes,objectSize]
    omega

/-- The page that stops before the first of `left`, or at the end. -/
def finishPage (c : Nat) (body : List Byte) (page left : List Nat) : Option DeviceIdPage :=
  match left with
  | [] => some ⟨0,0,BitVec.ofNat 8 (c+page.length),body ++ pageBody d page⟩
  | y :: _ =>
    if c+page.length = 0 then none
    else some ⟨0xFF#8,(d.objects y).objectId,BitVec.ofNat 8 (c+page.length),body ++ pageBody d page⟩

theorem finishPage_cons (c : Nat) (body : List Byte) (i : Nat) (page left : List Nat) :
    finishPage d c body (i :: page) left =
      finishPage d (c+1) (body ++ deviceIdObjectBytes d (d.objects i)) page left := by
  cases left with
  | nil => simp [finishPage,pageBody,Nat.add_assoc,Nat.add_comm 1]
  | cons y left => simp [finishPage,pageBody,Nat.add_assoc,Nat.add_comm 1]

/-- The page loop takes the greedy page of the eligible objects from `index` on. -/
theorem pageLoop_eq (limit fuel index c : Nat) (body : List Byte)
    (hfuel : d.objectCount-index ≤ fuel) (hc : c+(eligibleFrom d category index).length ≤ 255)
    (hroom : 7+body.length ≤ limit) :
    pageLoop d category limit fuel index (BitVec.ofNat 8 c) body =
      finishPage d c body
        (takeWithin (objectSize d) (limit-(7+body.length)) (eligibleFrom d category index))
        (rest (objectSize d) (limit-(7+body.length)) (eligibleFrom d category index)) := by
  induction fuel generalizing index c body with
  | zero =>
    have he : eligibleFrom d category index = [] := indicesFrom_end _ _ (by omega)
    simp [pageLoop,he,takeWithin,rest,finishPage,pageBody]
  | succ fuel ih =>
    by_cases hi : index < d.objectCount
    · have hstep : eligibleFrom d category index = _ := indicesFrom_step _ (d.eligible category) hi
      have hlt := lt_nextEligibleIndex d category hi
      simp only [pageLoop,hi,if_true]
      cases hp : d.eligible category index with
      | false =>
        simp only [hp,Bool.false_eq_true,if_false] at hstep
        have he : eligibleFrom d category (nextEligibleIndex d category index) =
            eligibleFrom d category index := (eligibleFrom_next d category index).trans hstep.symm
        simp only [Bool.false_eq_true,not_false_eq_true,if_true]
        rw [ih _ c body (by omega) (by rw [he]; exact hc) hroom,he]
      | true =>
        simp only [hp,if_true] at hstep
        have he : eligibleFrom d category index =
            index :: eligibleFrom d category (nextEligibleIndex d category index) := by
          rw [eligibleFrom_next]
          exact hstep
        rw [he] at hc ⊢
        simp only [List.length_cons] at hc
        simp only [not_true_eq_false,if_false]
        by_cases hfit : objectSize d index ≤ limit-(7+body.length)
        · have hfit' : ¬ limit-(7+body.length) < 2+(d.objects index).valueLength.toNat := by
            simp only [objectSize] at hfit
            omega
          have hlen : (body ++ deviceIdObjectBytes d (d.objects index)).length =
              body.length+objectSize d index := by
            simp [deviceIdObjectBytes,objectSize]
            omega
          have hadd : BitVec.ofNat 8 c+1 = BitVec.ofNat 8 (c+1) := by simp [BitVec.ofNat_add]
          have hroom' : limit-(7+body.length)-objectSize d index =
              limit-(7+(body ++ deviceIdObjectBytes d (d.objects index)).length) := by omega
          rw [takeWithin_cons_fits _ hfit,rest_cons_fits _ hfit,finishPage_cons,if_neg hfit',hroom']
          simp only [hadd]
          split
          · rename_i hend
            rw [eligibleFrom,indicesFrom_end _ _ hend]
            simp [takeWithin,rest,finishPage,pageBody]
          · exact ih _ (c+1) _ (by omega) (by omega) (by rw [hlen]; omega)
        · have hfit' : limit-(7+body.length) < 2+(d.objects index).valueLength.toNat := by
            simp only [objectSize] at hfit
            omega
          have hz : BitVec.ofNat 8 c = 0#8 ↔ c = 0 := by
            constructor
            · intro h
              have := congrArg BitVec.toNat h
              simp at this
              omega
            · rintro rfl
              rfl
          simp [hfit',rest,takeWithin,hfit,finishPage,hz,pageBody]
    · have he : eligibleFrom d category index = [] := indicesFrom_end _ _ (by omega)
      simp [pageLoop,hi,he,takeWithin,rest,finishPage,pageBody]

end Page

def responseCategory (code level : Byte) : Byte :=
  if code.toNat < (conformityCategory level).toNat then code else conformityCategory level

def DeviceIdObject.encoded (o : DeviceIdObject) : List Byte :=
  [o.objectId,BitVec.ofNat 8 o.valueLength] ++ o.bytes

def categoryIndices (objects : Mem DeviceIdObject) (n : Nat) (category : Byte) : List Nat :=
  (List.range n).filter fun i => objectIdMatchesCategory (objects i).objectId category

/-- The response for one page; `next` is the index of the first object left out. -/
def pagePdu (code level : Byte) (objects : Mem DeviceIdObject) (page : List Nat)
    (next : Option Nat) : List Byte :=
  [0x2B#8,0x0E#8,code,level,if next.isSome then 0xFF#8 else 0#8,
    match next with
    | some y => (objects y).objectId
    | none => 0#8,
    BitVec.ofNat 8 page.length] ++ page.flatMap fun i => (objects i).encoded

def pagePdus (code level : Byte) (objects : Mem DeviceIdObject) :
    List (List Nat) → List (List Byte)
  | [] => []
  | page :: pages =>
    pagePdu code level objects page (pages.head?.bind List.head?) ::
      pagePdus code level objects pages

/-- The client's loop: ask, and ask again from Next Object ID while More Follows is set.
`none` if a request is refused or the loop has not ended after `fuel` requests. -/
def readDeviceId (code : Byte) (capacity : Nat) :
    (fuel : Nat) → Server → Byte → Option (List (List Byte))
  | 0, _, _ => none
  | fuel+1, s, objectId =>
    match mbDeviceIdProcessRequest s code objectId capacity with
    | (.error _,_) => none
    | (.ok pdu,s) =>
      if ofList pdu 4 = 0#8 then some [pdu]
      else (readDeviceId code capacity fuel s (ofList pdu 5)).map (pdu :: ·)

section Dialogue
variable {d : DeviceIdState} {level : Byte} {objects : Mem DeviceIdObject} {n : Nat}
  (h : StoredConfiguration d level objects n) {category : Byte}
include h

theorem StoredConfiguration.eligible_iff {i : Nat} (hi : i < n) :
    d.eligible category i = objectIdMatchesCategory (objects i).objectId category := by
  rw [DeviceIdState.eligible,(h.stores i hi).objectId]

theorem StoredConfiguration.eligibleFrom_zero :
    eligibleFrom d category 0 = categoryIndices objects n category := by
  simp only [eligibleFrom,indicesFrom,categoryIndices,h.count,Nat.sub_zero,List.range_eq_range']
  apply List.filter_congr
  intro i hi
  exact h.eligible_iff (by simpa using hi)

theorem StoredConfiguration.objectSize_eq {i : Nat} (hi : i < n) :
    objectSize d i = 2+(objects i).valueLength := by
  rw [objectSize,(h.stores i hi).valueLength]

theorem StoredConfiguration.objectBytes_eq {i : Nat} (hi : i < n) :
    deviceIdObjectBytes d (d.objects i) = (objects i).encoded := by
  have hs := h.stores i hi
  have hl : (d.objects i).valueLength = BitVec.ofNat 8 (objects i).valueLength := by
    rw [← hs.valueLength]
    simp
  simp only [deviceIdObjectBytes,DeviceIdObject.encoded,hs.objectId,hs.valueLength,hs.value]
  rw [hl]

/-- Ids are distinct, so asking for an eligible object's id finds that object. -/
theorem StoredConfiguration.findObjectIndex_eq {i : Nat} (hi : i < n)
    (hp : d.eligible category i) :
    findObjectIndex d category (objects i).objectId = some i := by
  rw [findObjectIndex,h.count,List.find?_range_eq_some]
  refine ⟨by simp [hp,(h.stores i hi).objectId],by simpa using hi,fun j hj => ?_⟩
  have hlt := h.ascending j i hj hi
  have hne : (objects j).objectId ≠ (objects i).objectId := by
    intro he
    rw [he] at hlt
    omega
  simp [(h.stores j (by omega)).objectId,hne]

theorem StoredConfiguration.pageBody_eq (page : List Nat) (hp : ∀ i ∈ page, i < n) :
    pageBody d page = page.flatMap fun i => (objects i).encoded := by
  simp only [pageBody,List.flatMap]
  congr 1
  apply List.map_congr_left
  intro i hi
  exact h.objectBytes_eq (hp i hi)

theorem StoredConfiguration.lt_of_mem_eligibleFrom {i j : Nat}
    (hj : j ∈ eligibleFrom d category i) : j < n ∧ d.eligible category j := by
  simp only [eligibleFrom,indicesFrom,List.mem_filter,List.mem_range'_1,h.count] at hj
  exact ⟨by omega,hj.2⟩

theorem StoredConfiguration.length_eligibleFrom_le (i : Nat) :
    (eligibleFrom d category i).length ≤ n := by
  have := List.length_filter_le (d.eligible category) (List.range' i (d.objectCount-i))
  simp only [List.length_range',h.count] at this
  simp only [eligibleFrom,indicesFrom,h.count]
  omega

/-- A request for an eligible object is answered with the greedy page that starts there. -/
theorem StoredConfiguration.process_eq (t : Server) (ht : t.data.deviceId = d) (code : Byte)
    (hcode : 1 ≤ code.toNat ∧ code.toNat ≤ 3) (hcat : category = responseCategory code level)
    (capacity i : Nat) (hi : i < n) (hp : d.eligible category i)
    (hfit : 7+objectSize d i ≤ responseLimit capacity) :
    (mbDeviceIdProcessRequest t code (objects i).objectId capacity).1 =
      .ok (pagePdu code level objects
        (takeWithin (objectSize d) (responseLimit capacity-7) (eligibleFrom d category i))
        (rest (objectSize d) (responseLimit capacity-7) (eligibleFrom d category i)).head?) := by
  have hcode1 : ¬ (code.toNat < 1 ∨ 4 < code.toNat) := by omega
  have hcode4 : code ≠ 0x04#8 := by bv_omega
  have hconf : ¬ (1#8 = 0#8) := by decide
  have hstart : ¬ (n ≤ i ∨ responseLimit capacity < 7) := by omega
  have hfind := h.findObjectIndex_eq hi hp
  have hloop := pageLoop_eq d category (responseLimit capacity) (n-i) i 0 []
    (by rw [h.count]) (by rw [Nat.zero_add]; exact (h.length_eligibleFrom_le i).trans h.count_le)
    (by simp; omega)
  simp only [List.length_nil,Nat.add_zero] at hloop
  have hmem : ∀ j ∈ eligibleFrom d category i, j < n := fun j hj => (h.lt_of_mem_eligibleFrom hj).1
  obtain ⟨js,hjs⟩ : ∃ js, eligibleFrom d category i = i :: js := by
    rw [eligibleFrom,indicesFrom_step _ _ (by rw [h.count]; exact hi),hp]
    exact ⟨_,rfl⟩
  have happ := takeWithin_append_rest (objectSize d) (responseLimit capacity-7)
    (eligibleFrom d category i)
  have hbody := h.pageBody_eq (takeWithin (objectSize d) (responseLimit capacity-7)
    (eligibleFrom d category i)) (fun j hj => hmem j (by rw [← happ]; simp [hj]))
  have hne : 0 < (takeWithin (objectSize d) (responseLimit capacity-7)
      (eligibleFrom d category i)).length := by
    rw [hjs,takeWithin_cons_fits _ (by omega)]
    simp
  have hcat' : (if code.toNat < (conformityCategory level).toNat then code
      else conformityCategory level) = category := hcat.symm
  simp only [mbDeviceIdProcessRequest,Server.emit_data,ht,hcode1,if_false,h.configured,hconf,hcode4,
    h.conformityLevel,hcat',hfind,h.count,Option.getD_some,hstart]
  rw [show (0 : Byte) = BitVec.ofNat 8 0 from rfl,hloop]
  cases hr : rest (objectSize d) (responseLimit capacity-7) (eligibleFrom d category i) with
  | nil => simp [finishPage,pagePdu,hbody]
  | cons y ys =>
    have hy := h.stores y (hmem y (by rw [← happ,hr]; simp))
    simp [finishPage,pagePdu,hbody,Nat.ne_of_gt hne,hy.objectId]

theorem StoredConfiguration.readDeviceId_eq (code : Byte)
    (hcode : 1 ≤ code.toNat ∧ code.toNat ≤ 3) (hcat : category = responseCategory code level)
    (capacity : Nat) (hfit : ∀ j, j < n → d.eligible category j →
      7+objectSize d j ≤ responseLimit capacity)
    (fuel : Nat) (t : Server) (ht : t.data.deviceId = d) (i : Nat) (hi : i < n)
    (hp : d.eligible category i) (hfuel : n-i ≤ fuel) :
    ∃ pages, readDeviceId code capacity fuel t (objects i).objectId =
        some (pagePdus code level objects pages) ∧
      Paginates (objectSize d) (responseLimit capacity-7) (eligibleFrom d category i) pages := by
  induction fuel generalizing t i with
  | zero => omega
  | succ fuel ih =>
    have hpdu := h.process_eq t ht code hcode hcat capacity i hi hp (hfit i hi hp)
    have hdata := mbDeviceIdProcessRequest_data t code (objects i).objectId capacity
    cases hout : mbDeviceIdProcessRequest t code (objects i).objectId capacity with
    | mk out t' =>
      rw [hout] at hpdu hdata
      simp only at hpdu hdata
      subst hpdu
      have happ := takeWithin_append_rest (objectSize d) (responseLimit capacity-7)
        (eligibleFrom d category i)
      have hle := total_takeWithin_le (objectSize d) (responseLimit capacity-7)
        (eligibleFrom d category i)
      have hne : takeWithin (objectSize d) (responseLimit capacity-7)
          (eligibleFrom d category i) ≠ [] := by
        have hs : eligibleFrom d category i = _ :=
          indicesFrom_step _ (d.eligible category) (by rw [h.count]; exact hi)
        rw [hs,hp,if_pos rfl,takeWithin_cons_fits _ (by have := hfit i hi hp; omega)]
        simp
      simp only [readDeviceId,hout]
      cases hr : rest (objectSize d) (responseLimit capacity-7) (eligibleFrom d category i) with
      | nil =>
        rw [hr,List.append_nil] at happ
        refine ⟨[takeWithin (objectSize d) (responseLimit capacity-7) (eligibleFrom d category i)],?_,?_⟩
        · simp [pagePdu,pagePdus]
        · have hlast : Paginates (objectSize d) (responseLimit capacity-7) _ _ := .last _ hne hle
          rwa [happ] at hlast ⊢
      | cons y ys =>
        rw [hr] at happ
        obtain ⟨h1,h2,h3,h4⟩ := indicesFrom_suffix _ _ happ.symm
        rw [h.count] at h2
        have hlen : 0 < (takeWithin (objectSize d) (responseLimit capacity-7)
            (eligibleFrom d category i)).length := List.length_pos_iff.mpr hne
        obtain ⟨pages,hread,hpages⟩ := ih t' (by rw [hdata,ht]) y h2 h3 (by omega)
        rw [eligibleFrom,h4] at hpages
        refine ⟨takeWithin (objectSize d) (responseLimit capacity-7) (eligibleFrom d category i) ::
          pages,?_,?_⟩
        · have h4 : ofList (pagePdu code level objects (takeWithin (objectSize d)
              (responseLimit capacity-7) (eligibleFrom d category i)) (some y)) 4 = 0xFF#8 := rfl
          have h5 : ofList (pagePdu code level objects (takeWithin (objectSize d)
              (responseLimit capacity-7) (eligibleFrom d category i)) (some y)) 5 =
              (objects y).objectId := rfl
          simp only [List.head?_cons,h4,h5,hread,Option.map_some,pagePdus,hpages.head?_flatten]
          rfl
        · have := Paginates.more _ y ys pages hne hle (lt_total_of_rest hr) hpages
          rwa [happ] at this

theorem StoredConfiguration.eligible_zero (code : Byte)
    (hcode : 1 ≤ code.toNat ∧ code.toNat ≤ 3) :
    d.eligible (responseCategory code level) 0 := by
  have hc : code = 1#8 ∨ code = 2#8 ∨ code = 3#8 := by bv_omega
  have hl := h.level_valid
  simp only [conformityLevelIsValid,decide_eq_true_eq] at hl
  rw [h.eligible_iff (by have := h.three_le; omega),h.mandatory.1]
  rcases hc with rfl | rfl | rfl <;> rcases hl with rfl | rfl | rfl | rfl | rfl | rfl <;> decide

theorem StoredConfiguration.total_eq (page : List Nat) (hp : ∀ i ∈ page, i < n) :
    total (objectSize d) page = (page.flatMap fun i => (objects i).encoded).length := by
  rw [← pageBody_length,h.pageBody_eq page hp]

theorem StoredConfiguration.ascending_ids :
    ((categoryIndices objects n category).map fun i => (objects i).objectId.toNat).Pairwise
      (· < ·) := by
  rw [List.pairwise_map]
  have hrange : (List.range n).Pairwise fun i j =>
      (objects i).objectId.toNat < (objects j).objectId.toNat := by
    rw [List.pairwise_iff_getElem]
    intro i j hi hj hij
    simp only [List.getElem_range]
    exact h.ascending i j hij (by simpa using hj)
  exact hrange.filter _

end Dialogue

theorem pagePdus_length_le (code level : Byte) (objects : Mem DeviceIdObject) (limit : Nat)
    (pages : List (List Nat)) (hp : ∀ page ∈ pages,
      7+(page.flatMap fun i => (objects i).encoded).length ≤ limit) :
    ∀ pdu ∈ pagePdus code level objects pages, pdu.length ≤ limit := by
  induction pages with
  | nil => simp [pagePdus]
  | cons page pages ih =>
    intro pdu hpdu
    simp only [pagePdus,List.mem_cons] at hpdu
    rcases hpdu with rfl | hpdu
    · have := hp page (by simp)
      simp only [pagePdu,List.length_append,List.length_cons,List.length_nil]
      omega
    · exact ih (fun q hq => hp q (by simp [hq])) pdu hpdu

/-- For every accepted configuration the dialogue ends without an exception, and its pages
are a greedy split of the configured objects of the category, byte for byte. -/
theorem readDeviceId_complete (cfg : Platform) (s : Server) (level : Byte)
    (objects : Mem DeviceIdObject) (n : Nat)
    (haccepted : (mbDeviceIdConfigure cfg s level (some objects) n).1 = .ok)
    (t : Server)
    (ht : t.data.deviceId = (mbDeviceIdConfigure cfg s level (some objects) n).2.data.deviceId)
    (code : Byte) (hcode : 1 ≤ code.toNat ∧ code.toNat ≤ 3) (capacity : Nat)
    (hfit : ∀ i, i < n → objectIdMatchesCategory (objects i).objectId (responseCategory code level) →
      9+(objects i).valueLength ≤ min capacity 253)
    (fuel : Nat) (hfuel : n ≤ fuel) :
    ∃ pages : List (List Nat),
      readDeviceId code capacity fuel t 0x00#8 = some (pagePdus code level objects pages) ∧
      pages.flatten = categoryIndices objects n (responseCategory code level) ∧
      (pages.flatten.map fun i => (objects i).objectId.toNat).Pairwise (· < ·) ∧
      (∀ page ∈ pages, page ≠ [] ∧ page.length ≤ 255) ∧
      (∀ pdu ∈ pagePdus code level objects pages, pdu.length ≤ min capacity 253) ∧
      (∀ before page next after, pages = before ++ page :: next :: after →
        ∃ y, next.head? = some y ∧ min capacity 253 <
          7+(page.flatMap fun i => (objects i).encoded).length+(2+(objects y).valueLength)) ∧
      (∀ i, i < n → 9+(objects i).valueLength ≤ 253) := by
  have h := mbDeviceIdConfigure_stores cfg s level objects n haccepted
  rw [← ht] at h
  have h3 := h.three_le
  have hfit' : ∀ j, j < n → t.data.deviceId.eligible (responseCategory code level) j →
      7+objectSize t.data.deviceId j ≤ responseLimit capacity := by
    intro j hj hp
    have := hfit j hj (by rwa [h.eligible_iff hj] at hp)
    rw [h.objectSize_eq hj]
    simp only [responseLimit,modbusPduMaxSize]
    omega
  have hzero := h.eligible_zero code hcode
  obtain ⟨pages,hread,hpages⟩ := h.readDeviceId_eq code hcode rfl capacity hfit' fuel t rfl 0
    (by omega) hzero (by omega)
  have hflat := hpages.flatten_eq
  rw [h.eligibleFrom_zero] at hflat
  have hlimit : 7 ≤ responseLimit capacity := by
    have := hfit' 0 (by omega) hzero
    omega
  have hmem : ∀ page ∈ pages, ∀ i ∈ page, i < n := by
    intro page hpage i hi
    have : i ∈ pages.flatten := List.mem_flatten.mpr ⟨page,hpage,hi⟩
    rw [hflat] at this
    simp only [categoryIndices,List.mem_filter,List.mem_range] at this
    exact this.1
  rw [h.mandatory.1] at hread
  refine ⟨pages,hread,hflat,hflat ▸ h.ascending_ids,fun page hpage => ⟨hpages.page_ne_nil page hpage,?_⟩,
    pagePdus_length_le _ _ _ _ _ fun page hpage => ?_,?_,fun i hi => ?_⟩
  · have hsub := (List.sublist_flatten_of_mem hpage).length_le
    have hfilter := List.length_filter_le
      (fun i => objectIdMatchesCategory (objects i).objectId (responseCategory code level)) (List.range n)
    have hn := h.count_le
    rw [hflat] at hsub
    simp only [List.length_range] at hfilter
    exact hsub.trans (hfilter.trans hn)
  · have := hpages.total_page_le page hpage
    rw [h.total_eq page (hmem page hpage)] at this
    simp only [responseLimit,modbusPduMaxSize] at this hlimit
    omega
  · intro before page next after hsplit
    obtain ⟨y,hy,hlt⟩ := hpages.page_maximal before after page next hsplit
    have hpage : page ∈ pages := by simp [hsplit]
    have hnext : next ∈ pages := by simp [hsplit]
    rw [h.total_eq page (hmem page hpage),
      h.objectSize_eq (hmem next hnext y (List.mem_of_head? hy))] at hlt
    refine ⟨y,hy,?_⟩
    simp only [responseLimit,modbusPduMaxSize] at hlt hlimit
    omega
  · have := (h.valid i hi).short
    omega

def basicObjects : Mem DeviceIdObject := fun i => ⟨BitVec.ofNat 8 i,some fun _ => 0x41#8,2⟩

theorem readDeviceId_complete_basic :
    ∃ pages : List (List Nat),
      readDeviceId 0x01#8 16 3
        (mbDeviceIdConfigure .standard .zeroed 0x01#8 (some basicObjects) 3).2 0x00#8 =
        some (pagePdus 0x01#8 0x01#8 basicObjects pages) ∧
      pages.flatten = [0,1,2] := by
  obtain ⟨pages,hread,hflat,_⟩ := readDeviceId_complete .standard .zeroed 0x01#8 basicObjects 3
    (by decide) _ rfl 0x01#8 (by decide) 16 (by decide) 3 (by decide)
  exact ⟨pages,hread,hflat⟩

end ModbusStack
