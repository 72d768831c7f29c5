import ModbusStack.DeviceIdStore
import ModbusStack.FileRecord
import ModbusStack.Machine

/-! The three configuration stores over any sequence of configuration calls. -/
set_option autoImplicit false

namespace ModbusStack
open ByteMemory Machine SortedTable

/-! Where the values of the objects lie. -/

def valueStart (objects : Mem DeviceIdObject) (j : Nat) : Nat :=
  ((List.range j).map fun k => (objects k).valueLength).sum

@[simp] theorem valueStart_zero (objects : Mem DeviceIdObject) : valueStart objects 0 = 0 := rfl

theorem valueStart_succ (objects : Mem DeviceIdObject) (j : Nat) :
    valueStart objects (j+1) = valueStart objects j+(objects j).valueLength := by
  simp [valueStart,List.range_succ]

theorem validateObjects_fits (cfg : Platform) (category : Byte) (objects : Mem DeviceIdObject)
    (n i : Nat) (hi : valueStart objects i ≤ cfg.deviceIdValueStorageSize)
    (h : validateObjects cfg category objects n i (valueStart objects i) = .ok) :
    valueStart objects (i+n) ≤ cfg.deviceIdValueStorageSize := by
  induction n generalizing i with
  | zero => exact hi
  | succ n ih =>
    simp only [validateObjects] at h
    split at h
    · cases h
    split at h
    · cases h
    split at h
    · cases h
    rename_i hroom
    rw [← valueStart_succ] at h
    have hnext : valueStart objects (i+1) ≤ cfg.deviceIdValueStorageSize := by
      rw [valueStart_succ]
      omega
    have := ih (i+1) hnext h
    rwa [Nat.add_assoc,Nat.add_comm 1 n] at this

theorem copyObjects_offset (objects : Mem DeviceIdObject) (n i : Nat) (d : DeviceIdState) (j : Nat)
    (hi : i ≤ j) (hj : j < i+n) :
    ((copyObjects objects n i (valueStart objects i) d).objects j).valueOffset =
      valueStart objects j := by
  induction n generalizing i d with
  | zero => omega
  | succ n ih =>
    simp only [copyObjects,← valueStart_succ]
    by_cases hji : j = i
    · subst hji
      obtain ⟨-,-,ho,-⟩ := copyObjects_frame objects n (j+1) (valueStart objects (j+1)) { d with
        objects := put d.objects j
          ⟨(objects j).objectId,BitVec.ofNat 8 (objects j).valueLength,valueStart objects j⟩
        values := if 0 < (objects j).valueLength then
            store d.values (valueStart objects j) (objects j).bytes
          else d.values }
      rw [ho j (by omega)]
      simp
    · exact ih (i+1) _ (by omega) (by omega)

/-- The device-identification store holds a configuration: the entries in order, each value a
slice of the value storage that begins where the one before it ends. -/
structure HoldsDeviceId (cfg : Platform) (d : DeviceIdState) (level : Byte)
    (objects : Mem DeviceIdObject) (n : Nat) : Prop extends StoredConfiguration d level objects n where
  capacity : n ≤ cfg.deviceIdMaxObjects
  ascendingKeys : Ascending (fun e : DeviceIdEntry => e.objectId.toNat) d.objects n
  contiguous : (d.objects 0).valueOffset = 0 ∧ ∀ i, i+1 < n → (d.objects (i+1)).valueOffset =
    (d.objects i).valueOffset+(d.objects i).valueLength.toNat
  disjoint : ∀ i j, i < j → j < n →
    (d.objects i).valueOffset+(d.objects i).valueLength.toNat ≤ (d.objects j).valueOffset
  inRange : ∀ i, i < n → (d.objects i).valueOffset+(d.objects i).valueLength.toNat ≤
    cfg.deviceIdValueStorageSize

theorem valueStart_mono (objects : Mem DeviceIdObject) {i j : Nat} (h : i ≤ j) :
    valueStart objects i ≤ valueStart objects j := by
  induction j with
  | zero =>
    obtain rfl : i = 0 := by omega
    exact le_rfl
  | succ j ih =>
    by_cases he : i = j+1
    · rw [he]
    · rw [valueStart_succ]
      have := ih (by omega)
      omega

theorem mbDeviceIdConfigure_holds (cfg : Platform) (s : Server) (level : Byte)
    (objects : Mem DeviceIdObject) (n : Nat)
    (h : (mbDeviceIdConfigure cfg s level (some objects) n).1 = .ok) :
    HoldsDeviceId cfg (mbDeviceIdConfigure cfg s level (some objects) n).2.data.deviceId level
      objects n := by
  have hst := mbDeviceIdConfigure_stores cfg s level objects n h
  have hextra : n ≤ cfg.deviceIdMaxObjects ∧
      valueStart objects n ≤ cfg.deviceIdValueStorageSize ∧ ∀ j, j < n →
      ((mbDeviceIdConfigure cfg s level (some objects) n).2.data.deviceId.objects j).valueOffset =
        valueStart objects j := by
    simp only [mbDeviceIdConfigure] at h ⊢
    split at h
    · cases h
    rename_i hlevel
    split at h
    · cases h
    rename_i hcount
    simp only [hlevel,hcount,if_false]
    cases hv : validateObjects cfg (conformityCategory level) objects n 0 0 with
    | ok =>
      simp only [hv] at h ⊢
      split at h
      · cases h
      rename_i hmand
      simp only [hmand,if_false]
      have hfits := validateObjects_fits cfg (conformityCategory level) objects n 0 (by simp) hv
      rw [Nat.zero_add] at hfits
      refine ⟨by omega,hfits,fun j hj => ?_⟩
      exact copyObjects_offset objects n 0 _ j (by omega) (by omega)
    | errorArgument | errorConformity | errorObjects | errorCapacity => simp [hv] at h
  generalize (mbDeviceIdConfigure cfg s level (some objects) n).2.data.deviceId = d at hst hextra ⊢
  obtain ⟨hcap,hfits,hoff⟩ := hextra
  have hend (i : Nat) (hi : i < n) : (d.objects i).valueOffset+(d.objects i).valueLength.toNat =
      valueStart objects (i+1) := by
    rw [hoff i hi,(hst.stores i hi).valueLength,valueStart_succ]
  have h3 := hst.three_le
  refine ⟨hst,hcap,fun i j hij hj => ?_,⟨hoff 0 (by omega),fun i hi => ?_⟩,fun i j hij hj => ?_,
    fun i hi => ?_⟩
  · dsimp only
    rw [(hst.stores i (by omega)).objectId,(hst.stores j hj).objectId]
    exact hst.ascending i j hij hj
  · rw [hend i (by omega),hoff (i+1) hi]
  · rw [hend i (by omega),hoff j hj]
    exact valueStart_mono objects (by omega)
  · rw [hend i hi]
    exact (valueStart_mono objects (by omega)).trans hfits

/-! The file table and the FIFO table. -/

structure ValidFile (f : FileRecordFile) : Prop where
  fileNumber : f.fileNumber ≠ 0#16
  records : f.records ≠ 0
  nonempty : 0 < f.recordCount
  count_le : f.recordCount ≤ 10000

structure ValidQueue (q : FifoQueue) : Prop where
  registers : q.registers ≠ 0
  nonempty : 0 < q.registerCount
  count_le : q.registerCount ≤ 32

structure HoldsFiles (st : FileRecordState) (files : Mem FileRecordFile) (n : Nat) : Prop where
  count : st.fileCount = n
  nonempty : 0 < n
  capacity : n ≤ 8
  entries : ∀ i, i < n → st.files i = files i
  ascendingKeys : Ascending (fun f : FileRecordFile => f.fileNumber.toNat) st.files n
  valid : ∀ i, i < n → ValidFile (st.files i)

structure HoldsQueues (st : FifoState) (queues : Mem FifoQueue) (n : Nat) : Prop where
  count : st.queueCount = n
  nonempty : 0 < n
  capacity : n ≤ 8
  entries : ∀ i, i < n → st.queues i = queues i
  ascendingKeys : Ascending (fun q : FifoQueue => q.pointerAddress.toNat) st.queues n
  valid : ∀ i, i < n → ValidQueue (st.queues i)

theorem validateFiles_ok (files : Mem FileRecordFile) (n i : Nat)
    (h : validateFiles files n i = .ok) (j : Nat) (hi : i ≤ j) (hj : j < i+n) :
    ValidFile (files j) ∧
      (0 < j → (files (j-1)).fileNumber.toNat < (files j).fileNumber.toNat) := by
  induction n generalizing i with
  | zero => omega
  | succ n ih =>
    simp only [validateFiles] at h
    split at h
    · cases h
    split at h
    · cases h
    rename_i hfile hasc
    by_cases hji : j = i
    · subst hji
      simp only [not_or,not_lt] at hfile
      exact ⟨⟨hfile.1,hfile.2.1,by omega,hfile.2.2.2⟩,by omega⟩
    · exact ih (i+1) h (by omega) (by omega)

theorem validateQueues_ok (queues : Mem FifoQueue) (n i : Nat)
    (h : validateQueues queues n i = .ok) (j : Nat) (hi : i ≤ j) (hj : j < i+n) :
    ValidQueue (queues j) ∧
      (0 < j → (queues (j-1)).pointerAddress.toNat < (queues j).pointerAddress.toNat) := by
  induction n generalizing i with
  | zero => omega
  | succ n ih =>
    simp only [validateQueues] at h
    split at h
    · cases h
    split at h
    · cases h
    rename_i hqueue hasc
    by_cases hji : j = i
    · subst hji
      simp only [not_or,not_lt] at hqueue
      exact ⟨⟨hqueue.1,by omega,hqueue.2.2⟩,by omega⟩
    · exact ih (i+1) h (by omega) (by omega)

theorem store_slice {α : Type} (m table : Mem α) (n : Nat) (i : Nat) (hi : i < n) :
    store m 0 (slice table 0 n) i = table i := by
  have h := store_inside m 0 (slice table 0 n) i (by simpa using hi)
  rw [Nat.zero_add] at h
  rw [h]
  simp [slice]

theorem ascending_congr {α : Type} {key : α → Nat} {m table : Nat → α} {n : Nat}
    (h : ∀ i, i < n → m i = table i) (hasc : Ascending key table n) : Ascending key m n := by
  intro i j hij hj
  rw [h i (by omega),h j hj]
  exact hasc i j hij hj

theorem mbFileRecordConfigure_holds (s : Server) (files : Mem FileRecordFile) (n : Nat)
    (h : (mbFileRecordConfigure s (some files) n).1 = .ok) :
    HoldsFiles (mbFileRecordConfigure s (some files) n).2.data.fileRecord files n := by
  simp only [mbFileRecordConfigure] at h ⊢
  split at h
  · cases h
  rename_i hcount
  simp only [hcount,if_false]
  cases hv : validateFiles files n 0 with
  | ok =>
    have hvalid (j : Nat) (hj : j < n) := validateFiles_ok files n 0 hv j (by omega) (by omega)
    have hentries (i : Nat) (hi : i < n) :
        store FileRecordState.cleared.files 0 (slice files 0 n) i = files i :=
      store_slice _ files n i hi
    refine ⟨rfl,by omega,by omega,hentries,?_,fun i hi => ?_⟩
    · exact ascending_congr hentries (ascending_of_adjacent _ _ fun i h0 hi => (hvalid i hi).2 h0)
    · have h := (hvalid i hi).1
      rw [← hentries i hi] at h
      exact h
  | errorArgument | errorCapacity | errorFiles => simp [hv] at h

theorem mbFifoConfigure_holds (s : Server) (queues : Mem FifoQueue) (n : Nat)
    (h : (mbFifoConfigure s (some queues) n).1 = .ok) :
    HoldsQueues (mbFifoConfigure s (some queues) n).2.data.fifo queues n := by
  simp only [mbFifoConfigure] at h ⊢
  split at h
  · cases h
  rename_i hcount
  simp only [hcount,if_false]
  cases hv : validateQueues queues n 0 with
  | ok =>
    have hvalid (j : Nat) (hj : j < n) := validateQueues_ok queues n 0 hv j (by omega) (by omega)
    have hentries (i : Nat) (hi : i < n) :
        store FifoState.cleared.queues 0 (slice queues 0 n) i = queues i :=
      store_slice _ queues n i hi
    refine ⟨rfl,by omega,by omega,hentries,?_,fun i hi => ?_⟩
    · exact ascending_congr hentries (ascending_of_adjacent _ _ fun i h0 hi => (hvalid i hi).2 h0)
    · have h := (hvalid i hi).1
      rw [← hentries i hi] at h
      exact h
  | errorArgument | errorCapacity | errorQueues => simp [hv] at h

/-! The two lookups are the lookup of a sorted table. -/

theorem findFileRecordUnlocked_eq (st : FileRecordState) (fileNumber : Word) :
    findFileRecordUnlocked st fileNumber =
      findFrom (fun f : FileRecordFile => f.fileNumber.toNat) st.files fileNumber.toNat st.fileCount 0 := by
  have h (n i : Nat) : findFileFrom st fileNumber n i =
      findFrom (fun f : FileRecordFile => f.fileNumber.toNat) st.files fileNumber.toNat n i := by
    induction n generalizing i with
    | zero => rfl
    | succ n ih => simp only [findFileFrom,findFrom,ih,BitVec.toNat_inj]
  exact h st.fileCount 0

theorem findFifoUnlocked_eq (st : FifoState) (pointerAddress : Word) :
    findFifoUnlocked st pointerAddress =
      findFrom (fun q : FifoQueue => q.pointerAddress.toNat) st.queues pointerAddress.toNat
        st.queueCount 0 := by
  have h (n i : Nat) : findFifoFrom st pointerAddress n i =
      findFrom (fun q : FifoQueue => q.pointerAddress.toNat) st.queues pointerAddress.toNat n i := by
    induction n generalizing i with
    | zero => rfl
    | succ n ih => simp only [findFifoFrom,findFrom,ih,BitVec.toNat_inj]
  exact h st.queueCount 0

/-! Sequences of calls. -/

inductive ConfigCall where
  | deviceIdConfigure (level : Byte) (objects : Option (Mem DeviceIdObject)) (objectCount : Nat)
  | deviceIdClear
  | fileRecordConfigure (files : Option (Mem FileRecordFile)) (fileCount : Nat)
  | fileRecordClear
  | fifoConfigure (queues : Option (Mem FifoQueue)) (queueCount : Nat)
  | fifoClear
  | init

inductive ConfigResult where
  | deviceId (result : DeviceIdResult)
  | fileRecord (result : FileRecordResult)
  | fifo (result : FifoResult)
  | done
  deriving DecidableEq, Repr

def ConfigResult.isError (r : ConfigResult) : Bool :=
  r ≠ .deviceId .ok ∧ r ≠ .fileRecord .ok ∧ r ≠ .fifo .ok ∧ r ≠ .done

def configStep (cfg : Platform) (s : Server) : ConfigCall → ConfigResult × Server
  | .deviceIdConfigure level objects n =>
    let (r,s) := mbDeviceIdConfigure cfg s level objects n
    (.deviceId r,s)
  | .deviceIdClear => (.done,mbDeviceIdClear s)
  | .fileRecordConfigure files n =>
    let (r,s) := mbFileRecordConfigure s files n
    (.fileRecord r,s)
  | .fileRecordClear => (.done,mbFileRecordClear s)
  | .fifoConfigure queues n =>
    let (r,s) := mbFifoConfigure s queues n
    (.fifo r,s)
  | .fifoClear => (.done,mbFifoClear s)
  | .init => (.done,mbInit s)

abbrev ConfigRecord := Record Server ConfigCall ConfigResult

/-- What was last accepted for each store and not cleared since. -/
structure LastAccepted where
  deviceId : Option (Byte × Mem DeviceIdObject × Nat)
  files : Option (Mem FileRecordFile × Nat)
  queues : Option (Mem FifoQueue × Nat)

def LastAccepted.update (l : LastAccepted) (r : ConfigRecord) : LastAccepted :=
  if r.output.isError then l
  else match r.input with
    | .deviceIdConfigure level objects n =>
      { l with deviceId := objects.map fun objects => (level,objects,n) }
    | .deviceIdClear => { l with deviceId := none }
    | .fileRecordConfigure files n => { l with files := files.map fun files => (files,n) }
    | .fileRecordClear => { l with files := none }
    | .fifoConfigure queues n => { l with queues := queues.map fun queues => (queues,n) }
    | .fifoClear => { l with queues := none }
    | .init => ⟨none,none,none⟩

def lastAccepted (h : List ConfigRecord) : LastAccepted :=
  h.foldl LastAccepted.update ⟨none,none,none⟩

def DeviceIdStoreHolds (cfg : Platform) (d : DeviceIdState) :
    Option (Byte × Mem DeviceIdObject × Nat) → Prop
  | none => d = .cleared
  | some (level,objects,n) => HoldsDeviceId cfg d level objects n

def FileStoreHolds (st : FileRecordState) : Option (Mem FileRecordFile × Nat) → Prop
  | none => st = .cleared
  | some (files,n) => HoldsFiles st files n

def FifoStoreHolds (st : FifoState) : Option (Mem FifoQueue × Nat) → Prop
  | none => st = .cleared
  | some (queues,n) => HoldsQueues st queues n

structure StoresHold (cfg : Platform) (s : Server) (l : LastAccepted) : Prop where
  deviceId : DeviceIdStoreHolds cfg s.data.deviceId l.deviceId
  files : FileStoreHolds s.data.fileRecord l.files
  queues : FifoStoreHolds s.data.fifo l.queues

section Calls
variable (cfg : Platform) (s : Server)

theorem mbDeviceIdConfigure_error (level : Byte) (objects : Option (Mem DeviceIdObject)) (n : Nat) :
    (mbDeviceIdConfigure cfg s level objects n).1 = .ok ∨
      (mbDeviceIdConfigure cfg s level objects n).2 = s := by
  unfold mbDeviceIdConfigure
  repeat' split
  all_goals first
    | exact .inr rfl
    | exact .inl rfl

theorem mbFileRecordConfigure_error (files : Option (Mem FileRecordFile)) (n : Nat) :
    (mbFileRecordConfigure s files n).1 = .ok ∨ (mbFileRecordConfigure s files n).2 = s := by
  unfold mbFileRecordConfigure
  repeat' split
  all_goals first
    | exact .inr rfl
    | exact .inl rfl

theorem mbFifoConfigure_error (queues : Option (Mem FifoQueue)) (n : Nat) :
    (mbFifoConfigure s queues n).1 = .ok ∨ (mbFifoConfigure s queues n).2 = s := by
  unfold mbFifoConfigure
  repeat' split
  all_goals first
    | exact .inr rfl
    | exact .inl rfl

/-- An error return leaves everything as it was. -/
theorem configStep_error (c : ConfigCall) (h : (configStep cfg s c).1.isError = true) :
    (configStep cfg s c).2 = s := by
  cases c with
  | deviceIdConfigure level objects n =>
    refine (mbDeviceIdConfigure_error cfg s level objects n).resolve_left fun hok => ?_
    simp [configStep,hok,ConfigResult.isError] at h
  | fileRecordConfigure files n =>
    refine (mbFileRecordConfigure_error s files n).resolve_left fun hok => ?_
    simp [configStep,hok,ConfigResult.isError] at h
  | fifoConfigure queues n =>
    refine (mbFifoConfigure_error s queues n).resolve_left fun hok => ?_
    simp [configStep,hok,ConfigResult.isError] at h
  | _ => simp [configStep,ConfigResult.isError] at h

theorem mbDeviceIdConfigure_frame (level : Byte) (objects : Option (Mem DeviceIdObject)) (n : Nat) :
    (mbDeviceIdConfigure cfg s level objects n).2.data.fileRecord = s.data.fileRecord ∧
      (mbDeviceIdConfigure cfg s level objects n).2.data.fifo = s.data.fifo := by
  unfold mbDeviceIdConfigure
  repeat' split
  all_goals exact ⟨rfl,rfl⟩

theorem mbFileRecordConfigure_frame (files : Option (Mem FileRecordFile)) (n : Nat) :
    (mbFileRecordConfigure s files n).2.data.deviceId = s.data.deviceId ∧
      (mbFileRecordConfigure s files n).2.data.fifo = s.data.fifo := by
  unfold mbFileRecordConfigure
  repeat' split
  all_goals exact ⟨rfl,rfl⟩

theorem mbFifoConfigure_frame (queues : Option (Mem FifoQueue)) (n : Nat) :
    (mbFifoConfigure s queues n).2.data.deviceId = s.data.deviceId ∧
      (mbFifoConfigure s queues n).2.data.fileRecord = s.data.fileRecord := by
  unfold mbFifoConfigure
  repeat' split
  all_goals exact ⟨rfl,rfl⟩

variable {cfg s}

theorem StoresHold.step {l : LastAccepted} (h : StoresHold cfg s l) (c : ConfigCall) :
    StoresHold cfg (configStep cfg s c).2
      (l.update ⟨s,c,(configStep cfg s c).1,(configStep cfg s c).2⟩) := by
  cases he : (configStep cfg s c).1.isError with
  | true =>
    simp only [LastAccepted.update,he,if_true,configStep_error cfg s c he]
    exact h
  | false =>
    simp only [LastAccepted.update,he,Bool.false_eq_true,if_false]
    cases c with
    | deviceIdConfigure level objects n =>
      obtain ⟨hf,hq⟩ := mbDeviceIdConfigure_frame cfg s level objects n
      refine ⟨?_,hf.symm ▸ h.files,hq.symm ▸ h.queues⟩
      cases objects with
      | none => simp [configStep,mbDeviceIdConfigure,ConfigResult.isError] at he
      | some objects => exact mbDeviceIdConfigure_holds cfg s level objects n (by
          simpa [configStep,ConfigResult.isError] using he)
    | fileRecordConfigure files n =>
      obtain ⟨hd,hq⟩ := mbFileRecordConfigure_frame s files n
      refine ⟨hd.symm ▸ h.deviceId,?_,hq.symm ▸ h.queues⟩
      cases files with
      | none => simp [configStep,mbFileRecordConfigure,ConfigResult.isError] at he
      | some files => exact mbFileRecordConfigure_holds s files n (by
          simpa [configStep,ConfigResult.isError] using he)
    | fifoConfigure queues n =>
      obtain ⟨hd,hf⟩ := mbFifoConfigure_frame s queues n
      refine ⟨hd.symm ▸ h.deviceId,hf.symm ▸ h.files,?_⟩
      cases queues with
      | none => simp [configStep,mbFifoConfigure,ConfigResult.isError] at he
      | some queues => exact mbFifoConfigure_holds s queues n (by
          simpa [configStep,ConfigResult.isError] using he)
    | deviceIdClear => exact ⟨rfl,h.files,h.queues⟩
    | fileRecordClear => exact ⟨h.deviceId,rfl,h.queues⟩
    | fifoClear => exact ⟨h.deviceId,h.files,rfl⟩
    | init => exact ⟨rfl,rfl,rfl⟩

end Calls

def Server.unconfigured (s : Server) : Server :=
  { s with data := { s.data with deviceId := .cleared, fileRecord := .cleared, fifo := .cleared } }

theorem storesHold_run (cfg : Platform) (s : Server) (calls : List ConfigCall) :
    StoresHold cfg (run (configStep cfg) s.unconfigured calls)
      (lastAccepted (records (configStep cfg) s.unconfigured calls)) := by
  have h0 : StoresHold cfg s.unconfigured (lastAccepted []) := ⟨rfl,rfl,rfl⟩
  refine history_invariant (fun s h => StoresHold cfg s (lastAccepted h)) ?_ h0 calls
  intro s h c hs
  rw [lastAccepted,List.foldl_append]
  exact hs.step c

theorem FileStoreHolds.ascending {st : FileRecordState} {l : Option (Mem FileRecordFile × Nat)}
    (h : FileStoreHolds st l) :
    Ascending (fun f : FileRecordFile => f.fileNumber.toNat) st.files st.fileCount := by
  cases l with
  | none =>
    obtain rfl : st = .cleared := h
    exact fun i j _ hj => absurd hj (Nat.not_lt_zero j)
  | some l =>
    have hh : HoldsFiles st l.1 l.2 := h
    rw [hh.count]
    exact hh.ascendingKeys

theorem FifoStoreHolds.ascending {st : FifoState} {l : Option (Mem FifoQueue × Nat)}
    (h : FifoStoreHolds st l) :
    Ascending (fun q : FifoQueue => q.pointerAddress.toNat) st.queues st.queueCount := by
  cases l with
  | none =>
    obtain rfl : st = .cleared := h
    exact fun i j _ hj => absurd hj (Nat.not_lt_zero j)
  | some l =>
    have hh : HoldsQueues st l.1 l.2 := h
    rw [hh.count]
    exact hh.ascendingKeys

structure ConfigurationKept (cfg : Platform) (s : Server) (h : List ConfigRecord) : Prop where
  stores : StoresHold cfg s (lastAccepted h)
  errors : ∀ r ∈ h, r.output.isError = true → r.after = r.before
  files : ∀ fileNumber f, findFileRecordUnlocked s.data.fileRecord fileNumber = some f ↔
    ∃ i, i < s.data.fileRecord.fileCount ∧ s.data.fileRecord.files i = f ∧
      f.fileNumber = fileNumber
  queues : ∀ pointerAddress q, findFifoUnlocked s.data.fifo pointerAddress = some q ↔
    ∃ i, i < s.data.fifo.queueCount ∧ s.data.fifo.queues i = q ∧ q.pointerAddress = pointerAddress

theorem configurationStores_kept (cfg : Platform) (s : Server) (calls : List ConfigCall) :
    ConfigurationKept cfg (run (configStep cfg) s.unconfigured calls)
      (records (configStep cfg) s.unconfigured calls) := by
  have hs := storesHold_run cfg s calls
  refine ⟨hs,fun r hr he => ?_,fun fileNumber f => ?_,fun pointerAddress q => ?_⟩
  · obtain ⟨_,_,-,-,hstep⟩ := mem_records hr
    have h := configStep_error cfg r.before r.input
    rw [← hstep] at h
    exact h he
  · rw [findFileRecordUnlocked_eq,findFrom_eq_some_iff hs.files.ascending]
    simp only [BitVec.toNat_inj]
  · rw [findFifoUnlocked_eq,findFrom_eq_some_iff hs.queues.ascending]
    simp only [BitVec.toNat_inj]

end ModbusStack
