import ModbusStack.DataModel

/-! Serial-line diagnostics: the counters and the event log of `modbus_rtu_diagnostics.c`,
and the functions 07, 08, 0B and 0C. -/
set_option autoImplicit false

namespace ModbusStack
open ByteMemory

abbrev eventLogCapacity : Nat := 64

structure Diagnostics where
  exceptionStatus : Byte
  diagnosticRegister : Word
  communicationStatus : Word
  eventCounter : Word
  messageCount : Word
  busCommunicationErrorCount : Word
  busExceptionErrorCount : Word
  serverMessageCount : Word
  serverNoResponseCount : Word
  serverNakCount : Word
  serverBusyCount : Word
  busCharacterOverrunCount : Word
  eventLog : Mem Byte
  eventLogHead : Byte
  eventLogCount : Byte
  listenOnly : Byte
  pendingActions : Byte

inductive DiagnosticsAction where
  | restartCommunications | forceListenOnly | clearCountersAndRegister | clearOverrunCounter
  deriving DecidableEq, Repr

/-- The callback with its context; `none` is a NULL callback. -/
abbrev DiagnosticsPolicy := Option (DiagnosticsAction → Word → Int)

def policyAllows (policy : DiagnosticsPolicy) (action : DiagnosticsAction) (data : Word) : Bool :=
  match policy with
  | none => false
  | some f => f action data ≠ 0

/-- The callback invocations that `policy_allows` makes. -/
def policyCall (policy : DiagnosticsPolicy) (action : DiagnosticsAction) (data : Word) :
    List (DiagnosticsAction × Word) :=
  if policy.isSome then [(action,data)] else []

def mbrtuDiagnosticsInit : Diagnostics :=
  ⟨0,0,0,0,0,0,0,0,0,0,0,0,fun _ => 0,0,0,0,0⟩

def incrementSaturating (value : Word) : Word := if value ≠ 0xFFFF#16 then value+1 else value

def isBroadcast (requestAddress : Byte) : Bool := requestAddress = 0#8

namespace Diagnostics

def isListenOnly (d : Diagnostics) : Bool := d.listenOnly ≠ 0#8

def pushEvent (d : Diagnostics) (event : Byte) : Diagnostics :=
  let head : Byte :=
    if d.eventLogCount = 0#8 then 0#8
    else if d.eventLogHead = 0#8 then BitVec.ofNat 8 (eventLogCapacity-1)
    else d.eventLogHead-1
  { d with
    eventLogHead := head
    eventLog := put d.eventLog head.toNat event
    eventLogCount :=
      if d.eventLogCount.toNat < eventLogCapacity then d.eventLogCount+1 else d.eventLogCount }

def makeReceiveEvent (d : Diagnostics) (broadcast communicationError characterOverrun : Bool) :
    Byte :=
  0x80#8 ||| (if broadcast then 0x40#8 else 0) ||| (if d.isListenOnly then 0x20#8 else 0) |||
    (if communicationError then 0x02#8 else 0) ||| (if characterOverrun then 0x10#8 else 0)

def makeSendEvent (d : Diagnostics) (exceptionCode : Byte) : Byte :=
  0x40#8 ||| (if d.isListenOnly then 0x20#8 else 0) |||
    (if 1 ≤ exceptionCode.toNat ∧ exceptionCode.toNat ≤ 3 then 0x01#8
      else if exceptionCode = 4#8 then 0x02#8
      else if exceptionCode = 5#8 ∨ exceptionCode = 6#8 then 0x04#8
      else if exceptionCode = 7#8 then 0x08#8
      else 0)

def clearCounters (d : Diagnostics) : Diagnostics :=
  { d with
    eventCounter := 0
    messageCount := 0
    busCommunicationErrorCount := 0
    busExceptionErrorCount := 0
    serverMessageCount := 0
    serverNoResponseCount := 0
    serverNakCount := 0
    serverBusyCount := 0
    busCharacterOverrunCount := 0 }

def getEvent (d : Diagnostics) (newestFirstIndex : Nat) : Option Byte :=
  if d.eventLogCount.toNat ≤ newestFirstIndex then none
  else some (d.eventLog ((d.eventLogHead.toNat+newestFirstIndex)%eventLogCapacity))

def setExceptionStatus (d : Diagnostics) (status : Byte) : Diagnostics :=
  { d with exceptionStatus := status }

def setRegister (d : Diagnostics) (value : Word) : Diagnostics :=
  { d with diagnosticRegister := value }

def setCommunicationStatus (d : Diagnostics) (status : Word) : Diagnostics :=
  { d with communicationStatus := status }

def takePendingActions (d : Diagnostics) : Byte × Diagnostics :=
  (d.pendingActions,{ d with pendingActions := 0 })

def noteBusMessage (d : Diagnostics) (broadcast : Bool) : Diagnostics :=
  let d := { d with messageCount := incrementSaturating d.messageCount }
  d.pushEvent (d.makeReceiveEvent broadcast false false)

def noteServerMessage (d : Diagnostics) : Diagnostics :=
  { d with serverMessageCount := incrementSaturating d.serverMessageCount }

def noteNormalCompletion (d : Diagnostics) (noResponse excludeFromEventCounter : Bool) :
    Diagnostics :=
  let d := if excludeFromEventCounter then d
    else { d with eventCounter := incrementSaturating d.eventCounter }
  let d := if noResponse then
      { d with serverNoResponseCount := incrementSaturating d.serverNoResponseCount }
    else d
  d.pushEvent (d.makeSendEvent 0)

def noteException (d : Diagnostics) (exceptionCode : Byte) : Diagnostics :=
  let d := { d with busExceptionErrorCount := incrementSaturating d.busExceptionErrorCount }
  let d :=
    if exceptionCode = 6#8 then
      { d with serverBusyCount := incrementSaturating d.serverBusyCount }
    else if exceptionCode = 7#8 then
      { d with serverNakCount := incrementSaturating d.serverNakCount }
    else d
  d.pushEvent (d.makeSendEvent exceptionCode)

def noteCommunicationError (d : Diagnostics) (broadcast characterOverrun : Bool) : Diagnostics :=
  let d := { d with
    messageCount := incrementSaturating d.messageCount
    busCommunicationErrorCount := incrementSaturating d.busCommunicationErrorCount }
  let d := if characterOverrun then
      { d with busCharacterOverrunCount := incrementSaturating d.busCharacterOverrunCount }
    else d
  d.pushEvent (d.makeReceiveEvent broadcast true characterOverrun)

def noteCharacterOverrun (d : Diagnostics) (broadcast addressedToServer : Bool) : Diagnostics :=
  let d := { d with messageCount := incrementSaturating d.messageCount }
  let d := if addressedToServer then
      { d with busCharacterOverrunCount := incrementSaturating d.busCharacterOverrunCount }
    else d
  d.pushEvent (d.makeReceiveEvent broadcast false true)

@[simp] theorem pushEvent_listenOnly (d : Diagnostics) (event : Byte) :
    (d.pushEvent event).listenOnly = d.listenOnly := rfl

@[simp] theorem noteBusMessage_listenOnly (d : Diagnostics) (broadcast : Bool) :
    (d.noteBusMessage broadcast).listenOnly = d.listenOnly := rfl

@[simp] theorem noteServerMessage_listenOnly (d : Diagnostics) :
    d.noteServerMessage.listenOnly = d.listenOnly := rfl

@[simp] theorem noteNormalCompletion_listenOnly (d : Diagnostics) (noResponse exclude : Bool) :
    (d.noteNormalCompletion noResponse exclude).listenOnly = d.listenOnly := by
  cases noResponse <;> cases exclude <;> rfl

@[simp] theorem noteException_listenOnly (d : Diagnostics) (code : Byte) :
    (d.noteException code).listenOnly = d.listenOnly := by
  simp only [noteException,pushEvent_listenOnly]
  repeat' split
  all_goals rfl

@[simp] theorem noteCommunicationError_listenOnly (d : Diagnostics) (broadcast overrun : Bool) :
    (d.noteCommunicationError broadcast overrun).listenOnly = d.listenOnly := by
  cases overrun <;> rfl

end Diagnostics

inductive DiagnosticsPdu where
  | notHandled
  | response : List Byte → DiagnosticsPdu
  | noResponse
  | error
  deriving DecidableEq, Repr

def makeException (function exceptionCode : Byte) (responseCapacity : Nat) : DiagnosticsPdu :=
  if responseCapacity < 2 then .error else .response [function ||| 0x80#8,exceptionCode]

def fixedWordResponse (function : Byte) (subfunction value : Word) (responseCapacity : Nat) :
    DiagnosticsPdu :=
  if responseCapacity < 5 then .error
  else .response ([function] ++ writeBe16 subfunction ++ writeBe16 value)

/-- A result, the diagnostics object afterwards and the policy calls made. -/
abbrev DiagnosticsStep := DiagnosticsPdu × Diagnostics × List (DiagnosticsAction × Word)

/-- The refusal that most branches share: an exception, or silence for a broadcast. -/
def refuseFc08 (d : Diagnostics) (broadcast : Bool) (exceptionCode : Byte)
    (responseCapacity : Nat) : DiagnosticsPdu × Diagnostics :=
  if broadcast then (.noResponse,d.noteNormalCompletion false true)
  else (makeException 0x08#8 exceptionCode responseCapacity,d)

def Diagnostics.counter (d : Diagnostics) (subfunction : Word) : Word :=
  match subfunction.toNat with
  | 0x0B => d.messageCount
  | 0x0C => d.busCommunicationErrorCount
  | 0x0D => d.busExceptionErrorCount
  | 0x0E => d.serverMessageCount
  | 0x0F => d.serverNoResponseCount
  | 0x10 => d.serverNakCount
  | 0x11 => d.serverBusyCount
  | _ => d.busCharacterOverrunCount

section Functions
variable (policy : DiagnosticsPolicy) (d : Diagnostics)

/-- FC08/0001. -/
def restartCommunications (broadcast : Bool) (len : Nat) (data : Word)
    (responseCapacity : Nat) : DiagnosticsStep :=
  if len ≠ 5 ∨ (data ≠ 0x0000#16 ∧ data ≠ 0xFF00#16) then
    let (r,d) := refuseFc08 d broadcast exIllegalDataValue responseCapacity
    (r,d,[])
  else
    let calls := policyCall policy .restartCommunications data
    if ¬ policyAllows policy .restartCommunications data then
      if broadcast ∨ d.isListenOnly then
        (.noResponse,d.noteNormalCompletion (!broadcast) true,calls)
      else (makeException 0x08#8 exIllegalDataValue responseCapacity,d,calls)
    else if ¬ broadcast ∧ ¬ d.isListenOnly ∧ responseCapacity < 5 then (.error,d,calls)
    else
      let wasListenOnly := d.isListenOnly
      let d := { d.clearCounters with
        listenOnly := 0
        pendingActions := d.pendingActions ||| 0x01#8 }
      let d := if data = 0xFF00#16 then { d with eventLogCount := 0, eventLogHead := 0 } else d
      let d := d.pushEvent 0x00#8
      if broadcast ∨ wasListenOnly then (.noResponse,d,calls)
      else (fixedWordResponse 0x08#8 0x0001#16 data responseCapacity,d,calls)

/-- FC08/0004. -/
def forceListenOnly (broadcast : Bool) (len : Nat) (data : Word) (responseCapacity : Nat) :
    DiagnosticsStep :=
  if len ≠ 5 ∨ data ≠ 0#16 then
    let (r,d) := refuseFc08 d broadcast exIllegalDataValue responseCapacity
    (r,d,[])
  else
    let calls := policyCall policy .forceListenOnly data
    if ¬ policyAllows policy .forceListenOnly data then
      let (r,d) := refuseFc08 d broadcast exIllegalDataValue responseCapacity
      (r,d,calls)
    else
      let d := { d with listenOnly := 1 }
      let d := d.noteNormalCompletion (!broadcast) false
      let d := { d with pendingActions := d.pendingActions ||| 0x02#8 }
      (.noResponse,d.pushEvent 0x04#8,calls)

/-- FC08/000A. -/
def clearCountersAndRegister (broadcast : Bool) (len : Nat) (data : Word)
    (responseCapacity : Nat) : DiagnosticsStep :=
  if len ≠ 5 ∨ data ≠ 0#16 then
    let (r,d) := refuseFc08 d broadcast exIllegalDataValue responseCapacity
    (r,d,[])
  else
    let calls := policyCall policy .clearCountersAndRegister data
    if ¬ policyAllows policy .clearCountersAndRegister data then
      let (r,d) := refuseFc08 d broadcast exIllegalDataValue responseCapacity
      (r,d,calls)
    else if ¬ broadcast ∧ responseCapacity < 5 then (.error,d,calls)
    else
      let d := { d.clearCounters with diagnosticRegister := 0 }
      let d := d.noteNormalCompletion false true
      if broadcast then (.noResponse,d,calls)
      else (fixedWordResponse 0x08#8 0x000A#16 data responseCapacity,d,calls)

/-- FC08/0014. -/
def clearOverrunCounter (broadcast : Bool) (len : Nat) (data : Word) (responseCapacity : Nat) :
    DiagnosticsStep :=
  if len ≠ 5 ∨ data ≠ 0#16 then
    let (r,d) := refuseFc08 d broadcast exIllegalDataValue responseCapacity
    (r,d,[])
  else
    let calls := policyCall policy .clearOverrunCounter data
    if ¬ policyAllows policy .clearOverrunCounter data then
      let (r,d) := refuseFc08 d broadcast exIllegalDataValue responseCapacity
      (r,d,calls)
    else if ¬ broadcast ∧ responseCapacity < 5 then (.error,d,calls)
    else
      let d := { d with busCharacterOverrunCount := 0 }
      if broadcast then (.noResponse,d.noteNormalCompletion false false,calls)
      else (fixedWordResponse 0x08#8 0x0014#16 data responseCapacity,d,calls)

/-- FC08/0002 and 000B to 0012: the word is returned, never changed. -/
def returnWord (broadcast : Bool) (subfunction value : Word) (len : Nat) (data : Word)
    (responseCapacity : Nat) : DiagnosticsStep :=
  if broadcast then (.noResponse,d.noteNormalCompletion false true,[])
  else if len ≠ 5 ∨ data ≠ 0#16 then
    (makeException 0x08#8 exIllegalDataValue responseCapacity,d,[])
  else (fixedWordResponse 0x08#8 subfunction value responseCapacity,d,[])

def processFc08 (requestAddress : Byte) (pdu : Mem Byte) (len responseCapacity : Nat) :
    DiagnosticsStep :=
  let broadcast := isBroadcast requestAddress
  if len < 3 ∨ (len-3)%2 ≠ 0 then
    let (r,d) := refuseFc08 d broadcast exIllegalDataValue responseCapacity
    (r,d,[])
  else
    let subfunction := readBe16 (pdu.off 1)
    let data := if 5 ≤ len then readBe16 (pdu.off 3) else 0#16
    if d.isListenOnly ∧ subfunction ≠ 0x0001#16 then (.noResponse,d,[])
    else match subfunction.toNat with
      | 0x00 =>
        if broadcast then (.noResponse,d.noteNormalCompletion false true,[])
        else if responseCapacity < len then (.error,d,[])
        else (.response (slice pdu 0 len),d,[])
      | 0x01 => restartCommunications policy d broadcast len data responseCapacity
      | 0x02 =>
        returnWord d broadcast subfunction d.diagnosticRegister len data responseCapacity
      | 0x04 => forceListenOnly policy d broadcast len data responseCapacity
      | 0x0A => clearCountersAndRegister policy d broadcast len data responseCapacity
      | 0x0B | 0x0C | 0x0D | 0x0E | 0x0F | 0x10 | 0x11 | 0x12 =>
        returnWord d broadcast subfunction (d.counter subfunction) len data responseCapacity
      | 0x14 => clearOverrunCounter policy d broadcast len data responseCapacity
      | _ =>
        let (r,d) := refuseFc08 d broadcast exIllegalFunction responseCapacity
        (r,d,[])

/-- FC07, FC0B and FC0C: a one-byte request answered with what the object holds. -/
def returnStatus (requestAddress function : Byte) (len : Nat) (response : List Byte)
    (responseCapacity : Nat) : DiagnosticsStep :=
  if isBroadcast requestAddress then (.noResponse,d.noteNormalCompletion false true,[])
  else if len ≠ 1 then (makeException function exIllegalDataValue responseCapacity,d,[])
  else if responseCapacity < response.length then (.error,d,[])
  else (.response response,d,[])

def exceptionStatusResponse : List Byte := [0x07#8,d.exceptionStatus]

def commEventCounterResponse : List Byte :=
  [0x0B#8] ++ writeBe16 d.communicationStatus ++ writeBe16 d.eventCounter

def commEventLogResponse : List Byte :=
  [0x0C#8,6#8+d.eventLogCount] ++ writeBe16 d.communicationStatus ++ writeBe16 d.eventCounter ++
    writeBe16 d.messageCount ++
    (List.range d.eventLogCount.toNat).map fun i => (d.getEvent i).getD 0#8

def isDiagnosticsFunction (function : Byte) : Bool :=
  function = 0x07#8 ∨ function = 0x08#8 ∨ function = 0x0B#8 ∨ function = 0x0C#8

def mbrtuDiagnosticsProcessPdu (requestAddress : Byte) (pdu : Mem Byte)
    (len responseCapacity : Nat) : DiagnosticsStep :=
  if len = 0 ∨ modbusPduMaxSize < len then (.error,d,[])
  else if ¬ isDiagnosticsFunction (pdu 0) then (.notHandled,d,[])
  else if d.isListenOnly ∧
      ¬ (pdu 0 = 0x08#8 ∧ 3 ≤ len ∧ readBe16 (pdu.off 1) = 0x0001#16) then (.noResponse,d,[])
  else match (pdu 0).toNat with
    | 0x07 => returnStatus d requestAddress 0x07#8 len (exceptionStatusResponse d) responseCapacity
    | 0x08 => processFc08 policy d requestAddress pdu len responseCapacity
    | 0x0B => returnStatus d requestAddress 0x0B#8 len (commEventCounterResponse d) responseCapacity
    | 0x0C => returnStatus d requestAddress 0x0C#8 len (commEventLogResponse d) responseCapacity
    | _ => (.notHandled,d,[])

end Functions

end ModbusStack
