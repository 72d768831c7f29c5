import ModbusStack.DeviceId

/-! The registry of application MEI handlers and the FC43 dispatch, and the serial-only
FC11 server identification. -/
set_option autoImplicit false

namespace ModbusStack
open ByteMemory

inductive MeiResult where
  | ok | errorArgument | errorType | errorCapacity | errorNotFound
  deriving DecidableEq, Repr

def meiExceptionIsValid (code : Byte) : Bool :=
  (0x01 ≤ code.toNat ∧ code.toNat ≤ 0x08) ∨ code = 0x0A#8 ∨ code = 0x0B#8

def meiTypeIsApplicationConfigurable (meiType : Byte) : Bool :=
  meiType ≠ 0x0D#8 ∧ meiType ≠ 0x0E#8

/-- The scan of `mb_mei_register_handler` over the slots from `i` on: the slot in use
for the type, or else the first free one seen. -/
def scanHandlers (table : MeiState) (meiType : Byte) :
    (n i : Nat) → Option Nat → Nat ⊕ Option Nat
  | 0, _, free => .inr free
  | n+1, i, free =>
    if (table i).inUse ≠ 0#8 then
      if (table i).meiType = meiType then .inl i
      else scanHandlers table meiType n (i+1) free
    else scanHandlers table meiType n (i+1) (free <|> some i)

def mbMeiRegisterHandler (cfg : Platform) (s : Server) (meiType : Byte)
    (handler : Option MeiHandlerFn) (context : Nat) : MeiResult × Server :=
  match handler with
  | none => (.errorArgument,s)
  | some handler =>
    if ¬ meiTypeIsApplicationConfigurable meiType then (.errorType,s)
    else
      let s := s.emit .lock
      let table := s.data.mei
      match scanHandlers table meiType cfg.meiMaxHandlers 0 none with
      | .inl i =>
        let s := s.modify .meiTable { s.data with
          mei := put table i { table i with handler := some handler, context := context } }
        (.ok,s.emit .unlock)
      | .inr none => (.errorCapacity,s.emit .unlock)
      | .inr (some i) =>
        let s := s.modify .meiTable { s.data with
          mei := put table i ⟨1,meiType,some handler,context⟩ }
        (.ok,s.emit .unlock)

def findHandler (cfg : Platform) (table : MeiState) (meiType : Byte) : Option Nat :=
  (List.range cfg.meiMaxHandlers).find? fun i =>
    decide ((table i).inUse ≠ 0#8 ∧ (table i).meiType = meiType)

def mbMeiUnregisterHandler (cfg : Platform) (s : Server) (meiType : Byte) : MeiResult × Server :=
  if ¬ meiTypeIsApplicationConfigurable meiType then (.errorType,s)
  else
    let s := s.emit .lock
    match findHandler cfg s.data.mei meiType with
    | some i =>
      let s := s.modify .meiTable { s.data with mei := put s.data.mei i ⟨0,0,none,0⟩ }
      (.ok,s.emit .unlock)
    | none => (.errorNotFound,s.emit .unlock)

def mbMeiClearHandlers (s : Server) : Server :=
  let s := s.emit .lock
  let s := s.modify .meiTable { s.data with mei := .cleared }
  s.emit .unlock

def mbMeiIsRegistered (cfg : Platform) (s : Server) (meiType : Byte) : Bool × Server :=
  if ¬ meiTypeIsApplicationConfigurable meiType then (false,s)
  else
    let s := s.emit .lock
    ((findHandler cfg s.data.mei meiType).isSome,s.emit .unlock)

def mbMeiProcessRequest (cfg : Platform) (s : Server) (pdu : Mem Byte)
    (len responseCapacity : Nat) : Except Byte (List Byte) × Server :=
  if len < 2 ∨ modbusPduMaxSize < len ∨ pdu 0 ≠ 0x2B#8 then (.error exIllegalDataValue,s)
  else
    let meiType := pdu 1
    if meiType = 0x0E#8 then
      if len ≠ 4 then (.error exIllegalDataValue,s)
      else mbDeviceIdProcessRequest s (pdu 2) (pdu 3) responseCapacity
    else if meiType = 0x0D#8 then (.error exIllegalDataValue,s)
    else
      let s := s.emit .lock
      let entry := (findHandler cfg s.data.mei meiType).map s.data.mei
      let s := s.emit .unlock
      match entry.bind fun e => e.handler.map fun h => (h,e.context) with
      | none => (.error exIllegalDataValue,s)
      | some (handler,context) =>
        let limit := responseLimit responseCapacity
        if limit < 2 then (.error exServerFailure,s)
        else
          let (handlerResult,responseData) :=
            handler context meiType (slice pdu 2 (len-2)) (limit-2)
          let s := s.emit (.meiHandler meiType)
          if handlerResult ≠ 0#8 then
            (.error (if meiExceptionIsValid handlerResult then handlerResult
              else exServerFailure),s)
          else if limit-2 < responseData.length ∨ 251 < responseData.length then
            (.error exServerFailure,s)
          else (.ok ([0x2B#8,meiType] ++ responseData),s)

inductive ServerIdResult where
  | ok | errorArgument | errorStatus | errorCapacity | errorLength
  deriving DecidableEq, Repr

def mbrtuServerIdConfigure (s : Server) (serverId : Option (Mem Byte)) (serverIdLength : Nat)
    (runStatus : Byte) (additionalData : Option (Mem Byte)) (additionalDataLength : Nat) :
    ServerIdResult × Server :=
  match serverId with
  | none => (.errorArgument,s)
  | some serverId =>
    if 0 < additionalDataLength ∧ additionalData.isNone then (.errorArgument,s)
    else if serverIdLength = 0 ∨ 250 < serverIdLength then (.errorLength,s)
    else if runStatus ≠ 0x00#8 ∧ runStatus ≠ 0xFF#8 then (.errorStatus,s)
    else if 249 < additionalDataLength then (.errorCapacity,s)
    else if 251 < serverIdLength+1+additionalDataLength then (.errorCapacity,s)
    else
      let s := s.emit .lock
      let extra := match additionalData with
        | some a => slice a 0 additionalDataLength
        | none => []
      let data := store (store (store (fun _ => 0#8) 0 (slice serverId 0 serverIdLength))
        serverIdLength [runStatus]) (serverIdLength+1) extra
      let s := { s with
        serverId := ⟨1,serverIdLength+1+additionalDataLength,data⟩
        trace := s.trace ++ [Event.write .serverIdTable] }
      (.ok,s.emit .unlock)

def mbrtuServerIdClear (s : Server) : Server :=
  let s := s.emit .lock
  let s := { s with serverId := .cleared, trace := s.trace ++ [Event.write .serverIdTable] }
  s.emit .unlock

def mbrtuServerIdIsConfigured (s : Server) : Bool × Server :=
  let s := s.emit .lock
  (decide (s.serverId.configured ≠ 0#8),s.emit .unlock)

inductive ServerIdPdu where
  | notHandled
  | response : List Byte → ServerIdPdu
  | capacity
  deriving DecidableEq, Repr

def mbrtuServerIdProcessPdu (s : Server) (pdu : Mem Byte) (len responseCapacity : Nat) :
    ServerIdPdu × Server :=
  if len = 0 ∨ pdu 0 ≠ 0x11#8 then (.notHandled,s)
  else if responseCapacity < 2 then (.capacity,s)
  else if len ≠ 1 then (.response [0x91#8,0x03#8],s)
  else
    let s := s.emit .lock
    if s.serverId.configured = 0#8 then (.response [0x91#8,0x04#8],s.emit .unlock)
    else if responseCapacity < 2+s.serverId.byteCount then (.capacity,s.emit .unlock)
    else
      (.response ([0x11#8,BitVec.ofNat 8 s.serverId.byteCount] ++
        slice s.serverId.data 0 s.serverId.byteCount),s.emit .unlock)

end ModbusStack
