import ModbusStack.DataModel

/-! FC43/14 Read Device Identification: the object store and its paged responses. -/
set_option autoImplicit false

namespace ModbusStack
open ByteMemory

inductive DeviceIdResult where
  | ok | errorArgument | errorConformity | errorObjects | errorCapacity
  deriving DecidableEq, Repr

/-- An application-supplied object; `value` is `none` for NULL. -/
structure DeviceIdObject where
  objectId : Byte
  value : Option (Mem Byte)
  valueLength : Nat

def conformityLevelIsValid (level : Byte) : Bool :=
  level = 0x01#8 ∨ level = 0x02#8 ∨ level = 0x03#8 ∨
    level = 0x81#8 ∨ level = 0x82#8 ∨ level = 0x83#8

def conformityCategory (level : Byte) : Byte := level &&& 0x7F#8

def objectIdIsDefined (objectId : Byte) : Bool := objectId.toNat ≤ 0x06 ∨ 0x80 ≤ objectId.toNat

def objectIdMatchesCategory (objectId category : Byte) : Bool :=
  if category = 0x01#8 then objectId.toNat ≤ 0x02
  else if category = 0x02#8 then objectId.toNat ≤ 0x06
  else category = 0x03#8 ∧ objectIdIsDefined objectId

def configurationObjectIsAllowed (objectId category : Byte) : Bool :=
  if ¬ objectIdIsDefined objectId then false
  else if category = 0x01#8 then objectId.toNat ≤ 0x02
  else if category = 0x02#8 then objectId.toNat ≤ 0x06
  else category = 0x03#8

section Configure
variable (cfg : Platform) (category : Byte) (objects : Mem DeviceIdObject)

/-- The validation loop over the objects from `i` on; `total` is `total_value_length`. -/
def validateObjects : (n i total : Nat) → DeviceIdResult
  | 0, _, _ => .ok
  | n+1, i, total =>
    if 244 < (objects i).valueLength ∨
        (0 < (objects i).valueLength ∧ (objects i).value.isNone) ∨
        ¬ configurationObjectIsAllowed (objects i).objectId category then .errorObjects
    else if 0 < i ∧ (objects i).objectId.toNat ≤ (objects (i-1)).objectId.toNat then .errorObjects
    else if cfg.deviceIdValueStorageSize-total < (objects i).valueLength then .errorCapacity
    else validateObjects n (i+1) (total+(objects i).valueLength)

def DeviceIdObject.bytes (o : DeviceIdObject) : List Byte :=
  match o.value with
  | some v => slice v 0 o.valueLength
  | none => []

/-- The copy loop: one entry and its value bytes for each object from `i` on. -/
def copyObjects : (n i total : Nat) → DeviceIdState → DeviceIdState
  | 0, _, _, d => d
  | n+1, i, total, d =>
    copyObjects n (i+1) (total+(objects i).valueLength) { d with
      objects := put d.objects i
        ⟨(objects i).objectId,BitVec.ofNat 8 (objects i).valueLength,total⟩
      values := if 0 < (objects i).valueLength then store d.values total (objects i).bytes
        else d.values }

end Configure

def mbDeviceIdConfigure (cfg : Platform) (s : Server) (conformityLevel : Byte)
    (objects : Option (Mem DeviceIdObject)) (objectCount : Nat) : DeviceIdResult × Server :=
  match objects with
  | none => (.errorArgument,s)
  | some objects =>
    if ¬ conformityLevelIsValid conformityLevel then (.errorConformity,s)
    else if objectCount < 3 ∨ cfg.deviceIdMaxObjects < objectCount ∨ 255 < objectCount then
      (.errorCapacity,s)
    else
      match validateObjects cfg (conformityCategory conformityLevel) objects objectCount 0 0 with
      | .ok =>
        if (objects 0).objectId ≠ 0x00#8 ∨ (objects 1).objectId ≠ 0x01#8 ∨
            (objects 2).objectId ≠ 0x02#8 then (.errorObjects,s)
        else
          let s := s.emit .lock
          let d := copyObjects objects objectCount 0 0 { DeviceIdState.cleared with
            conformityLevel := conformityLevel
            objectCount := objectCount }
          let s := s.modify .deviceIdTable { s.data with deviceId := { d with configured := 1 } }
          (.ok,s.emit .unlock)
      | e => (e,s)

def mbDeviceIdClear (s : Server) : Server :=
  let s := s.emit .lock
  let s := s.modify .deviceIdTable { s.data with deviceId := .cleared }
  s.emit .unlock

def mbDeviceIdIsConfigured (s : Server) : Bool × Server :=
  let s := s.emit .lock
  (decide (s.data.deviceId.configured ≠ 0#8),s.emit .unlock)

section Request
variable (d : DeviceIdState) (category : Byte)

def DeviceIdState.eligible (i : Nat) : Bool :=
  objectIdMatchesCategory (d.objects i).objectId category

def findObjectIndex (objectId : Byte) : Option Nat :=
  (List.range d.objectCount).find? fun i =>
    d.eligible category i && decide ((d.objects i).objectId = objectId)

def firstEligibleIndex : Nat :=
  ((List.range d.objectCount).find? (d.eligible category)).getD d.objectCount

def nextEligibleIndex (index : Nat) : Nat :=
  ((List.range' (index+1) (d.objectCount-(index+1))).find? (d.eligible category)).getD
    d.objectCount

/-- The bytes that `append_device_id_object` writes at the current offset. -/
def deviceIdObjectBytes (entry : DeviceIdEntry) : List Byte :=
  [entry.objectId,entry.valueLength] ++ slice d.values entry.valueOffset entry.valueLength.toNat

structure DeviceIdPage where
  moreFollows : Byte
  nextObjectId : Byte
  objectCount : Byte
  body : List Byte
  deriving DecidableEq, Repr

/-- The page loop from `index` on, with what has been appended so far; `none` when the
first object does not fit. Each turn moves `index` up, so `objectCount - index` turns
are enough. -/
def pageLoop (limit : Nat) : (fuel index : Nat) → Byte → List Byte → Option DeviceIdPage
  | 0, _, count, body => some ⟨0,0,count,body⟩
  | fuel+1, index, count, body =>
    if index < d.objectCount then
      let entry := d.objects index
      if ¬ d.eligible category index then
        pageLoop limit fuel (nextEligibleIndex d category index) count body
      else if limit-(7+body.length) < 2+entry.valueLength.toNat then
        if count = 0#8 then none else some ⟨0xFF#8,entry.objectId,count,body⟩
      else
        let body := body ++ deviceIdObjectBytes d entry
        let count := count+1
        let next := nextEligibleIndex d category index
        if d.objectCount ≤ next then some ⟨0,0,count,body⟩
        else pageLoop limit fuel next count body
    else some ⟨0,0,count,body⟩

end Request

def responseLimit (responseCapacity : Nat) : Nat := min responseCapacity modbusPduMaxSize

def mbDeviceIdProcessRequest (s : Server) (readDeviceIdCode requestedObjectId : Byte)
    (responseCapacity : Nat) : Except Byte (List Byte) × Server :=
  let limit := responseLimit responseCapacity
  if readDeviceIdCode.toNat < 1 ∨ 4 < readDeviceIdCode.toNat then (.error exIllegalDataValue,s)
  else
    let s := s.emit .lock
    let d := s.data.deviceId
    if d.configured = 0#8 then (.error exServerFailure,s.emit .unlock)
    else
      let actualCategory := conformityCategory d.conformityLevel
      if readDeviceIdCode = 0x04#8 then
        if d.conformityLevel &&& 0x80#8 = 0#8 then (.error exIllegalDataValue,s.emit .unlock)
        else
          match findObjectIndex d actualCategory requestedObjectId with
          | none => (.error exIllegalDataAddress,s.emit .unlock)
          | some index =>
            let entry := d.objects index
            if limit < 7+2+entry.valueLength.toNat then (.error exServerFailure,s.emit .unlock)
            else
              (.ok ([0x2B#8,0x0E#8,readDeviceIdCode,d.conformityLevel,0#8,0#8,1#8] ++
                deviceIdObjectBytes d entry),s.emit .unlock)
      else
        let category :=
          if readDeviceIdCode.toNat < actualCategory.toNat then readDeviceIdCode
          else actualCategory
        let start := (findObjectIndex d category requestedObjectId).getD
          (firstEligibleIndex d category)
        if d.objectCount ≤ start ∨ limit < 7 then (.error exServerFailure,s.emit .unlock)
        else
          match pageLoop d category limit (d.objectCount-start) start 0 [] with
          | none => (.error exServerFailure,s.emit .unlock)
          | some page =>
            (.ok ([0x2B#8,0x0E#8,readDeviceIdCode,d.conformityLevel,page.moreFollows,
              page.nextObjectId,page.objectCount] ++ page.body),s.emit .unlock)

theorem mbDeviceIdProcessRequest_data (s : Server) (code objectId : Byte) (capacity : Nat) :
    (mbDeviceIdProcessRequest s code objectId capacity).2.data = s.data := by
  simp only [mbDeviceIdProcessRequest]
  repeat' split
  all_goals rfl

end ModbusStack
