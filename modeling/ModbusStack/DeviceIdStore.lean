import ModbusStack.DeviceId
import ModbusStack.SortedTable

/-! What an accepted device-identification configuration leaves in the store. -/
set_option autoImplicit false

namespace ModbusStack
open ByteMemory

/-- What the validation loop has established of the object at `i`. -/
structure ValidObject (category : Byte) (objects : Mem DeviceIdObject) (i : Nat) : Prop where
  short : (objects i).valueLength ≤ 244
  value : (objects i).bytes.length = (objects i).valueLength
  allowed : configurationObjectIsAllowed (objects i).objectId category
  ascending : 0 < i → (objects (i-1)).objectId.toNat < (objects i).objectId.toNat

theorem validateObjects_ok (cfg : Platform) (category : Byte) (objects : Mem DeviceIdObject)
    (n i total : Nat) (h : validateObjects cfg category objects n i total = .ok) :
    ∀ j, i ≤ j → j < i+n → ValidObject category objects j := by
  induction n generalizing i total with
  | zero =>
    intro j hi hj
    omega
  | succ n ih =>
    simp only [validateObjects] at h
    split at h
    · cases h
    split at h
    · cases h
    split at h
    · cases h
    rename_i hobj hasc _
    intro j hi hj
    by_cases hji : j = i
    · subst hji
      refine ⟨by omega,?_,by tauto,by omega⟩
      cases hv : (objects j).value with
      | some v => simp [DeviceIdObject.bytes,hv]
      | none =>
        have : ¬ 0 < (objects j).valueLength := by
          intro hpos
          exact hobj (Or.inr (Or.inl ⟨hpos,by simp [hv]⟩))
        simp [DeviceIdObject.bytes,hv]
        omega
    · exact ih (i+1) _ h j (by omega) (by omega)

theorem copyObjects_frame (objects : Mem DeviceIdObject) (n i total : Nat) (d : DeviceIdState) :
    (copyObjects objects n i total d).objectCount = d.objectCount ∧
    (copyObjects objects n i total d).conformityLevel = d.conformityLevel ∧
    (∀ j, j < i → (copyObjects objects n i total d).objects j = d.objects j) ∧
    (∀ k, k < total → (copyObjects objects n i total d).values k = d.values k) := by
  induction n generalizing i total d with
  | zero => exact ⟨rfl,rfl,fun _ _ => rfl,fun _ _ => rfl⟩
  | succ n ih =>
    simp only [copyObjects]
    obtain ⟨hc,hl,ho,hv⟩ := ih (i+1) (total+(objects i).valueLength) { d with
      objects := put d.objects i
        ⟨(objects i).objectId,BitVec.ofNat 8 (objects i).valueLength,total⟩
      values := if 0 < (objects i).valueLength then store d.values total (objects i).bytes
        else d.values }
    refine ⟨hc,hl,fun j hj => ?_,fun k hk => ?_⟩
    · rw [ho j (by omega)]
      exact put_other _ _ _ _ (by omega)
    · rw [hv k (by omega)]
      show (if _ then _ else _ : Mem Byte) k = _
      split
      · exact store_below _ _ _ _ hk
      · rfl

structure StoresObject (d : DeviceIdState) (objects : Mem DeviceIdObject) (j : Nat) : Prop where
  objectId : (d.objects j).objectId = (objects j).objectId
  valueLength : (d.objects j).valueLength.toNat = (objects j).valueLength
  value : slice d.values (d.objects j).valueOffset (objects j).valueLength = (objects j).bytes

theorem copyObjects_stores (objects : Mem DeviceIdObject) (n i total : Nat) (d : DeviceIdState)
    (hv : ∀ j, i ≤ j → j < i+n →
      (objects j).valueLength ≤ 244 ∧ (objects j).bytes.length = (objects j).valueLength) :
    ∀ j, i ≤ j → j < i+n → StoresObject (copyObjects objects n i total d) objects j := by
  induction n generalizing i total d with
  | zero =>
    intro j hi hj
    omega
  | succ n ih =>
    intro j hi hj
    simp only [copyObjects]
    by_cases hji : j = i
    · subst hji
      obtain ⟨hshort,hbytes⟩ := hv j (by omega) (by omega)
      obtain ⟨-,-,ho,hval⟩ := copyObjects_frame objects n (j+1) (total+(objects j).valueLength)
        { d with
          objects := put d.objects j
            ⟨(objects j).objectId,BitVec.ofNat 8 (objects j).valueLength,total⟩
          values := if 0 < (objects j).valueLength then store d.values total (objects j).bytes
            else d.values }
      have hentry := (ho j (by omega)).trans (put_same _ _ _)
      refine ⟨by rw [hentry],?_,?_⟩
      · rw [hentry]
        simp
        omega
      · rw [hentry]
        rw [slice_congr fun k hk => hval (total+k) (by omega)]
        by_cases hz : 0 < (objects j).valueLength
        · simp only [hz,if_true]
          rw [← hbytes]
          exact slice_store _ _ _
        · have h0 : (objects j).valueLength = 0 := by omega
          rw [h0] at hbytes ⊢
          rw [List.length_eq_zero_iff.mp hbytes]
          rfl
    · exact ih (i+1) _ _ (fun k hk hk' => hv k (by omega) (by omega)) j (by omega) (by omega)

structure StoredConfiguration (d : DeviceIdState) (level : Byte) (objects : Mem DeviceIdObject)
    (n : Nat) : Prop where
  configured : d.configured = 1#8
  conformityLevel : d.conformityLevel = level
  level_valid : conformityLevelIsValid level
  count : d.objectCount = n
  count_le : n ≤ 255
  three_le : 3 ≤ n
  valid : ∀ j, j < n → ValidObject (conformityCategory level) objects j
  stores : ∀ j, j < n → StoresObject d objects j
  mandatory : (objects 0).objectId = 0x00#8 ∧ (objects 1).objectId = 0x01#8 ∧
    (objects 2).objectId = 0x02#8

theorem mbDeviceIdConfigure_stores (cfg : Platform) (s : Server) (level : Byte)
    (objects : Mem DeviceIdObject) (n : Nat)
    (h : (mbDeviceIdConfigure cfg s level (some objects) n).1 = .ok) :
    StoredConfiguration (mbDeviceIdConfigure cfg s level (some objects) n).2.data.deviceId level
      objects n := by
  simp only [mbDeviceIdConfigure] at h ⊢
  split at h
  · cases h
  rename_i hlevel
  split at h
  · cases h
  rename_i hcount
  simp only [hlevel,hcount,if_false]
  cases hv : validateObjects cfg (conformityCategory level) objects n 0 0 with
  | ok =>
    simp only [hv] at h ⊢
    split at h
    · cases h
    rename_i hmand
    simp only [hmand,if_false]
    have hvalid := validateObjects_ok cfg _ objects n 0 0 hv
    obtain ⟨hc,hl,-,-⟩ := copyObjects_frame objects n 0 0 { DeviceIdState.cleared with
      conformityLevel := level
      objectCount := n }
    have hst := copyObjects_stores objects n 0 0 { DeviceIdState.cleared with
      conformityLevel := level
      objectCount := n } fun j _ hj => ⟨(hvalid j (by omega) hj).short,(hvalid j (by omega) hj).value⟩
    refine ⟨rfl,hl,by simpa using hlevel,hc,by omega,by omega,fun j hj => hvalid j (by omega) (by omega),
      fun j hj => ?_,by tauto⟩
    obtain ⟨h1,h2,h3⟩ := hst j (by omega) (by omega)
    exact ⟨h1,h2,h3⟩
  | errorArgument | errorConformity | errorObjects | errorCapacity => simp [hv] at h

theorem StoredConfiguration.ascending {d : DeviceIdState} {level : Byte}
    {objects : Mem DeviceIdObject} {n : Nat} (h : StoredConfiguration d level objects n)
    (i j : Nat) (hij : i < j) (hj : j < n) :
    (objects i).objectId.toNat < (objects j).objectId.toNat :=
  SortedTable.ascending_of_adjacent (fun o : DeviceIdObject => o.objectId.toNat) objects
    (fun k hk hn => (h.valid k hn).ascending hk) i j hij hj

end ModbusStack
