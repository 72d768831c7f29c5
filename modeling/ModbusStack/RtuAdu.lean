import ModbusStack.Crc16
import ModbusStack.Diagnostics
import ModbusStack.Pdu

/-! `mbrtu_process_adu_with_diagnostics`: one complete serial frame in, at most one out. -/
set_option autoImplicit false

namespace ModbusStack
open ByteMemory

inductive RtuResult where
  | noResponse
  | responseReady : List Byte → RtuResult
  | errorSlaveAddress
  | errorResponseCapacity
  | errorPdu
  deriving DecidableEq, Repr

/-- The slave behind the frame processor: the data model, the optional diagnostics
object, and the policy calls made so far. -/
structure Slave where
  server : Server
  diagnostics : Option Diagnostics
  policyCalls : List (DiagnosticsAction × Word)

/-- The `note_` functions do nothing on a NULL object. -/
def Slave.note (s : Slave) (f : Diagnostics → Diagnostics) : Slave :=
  { s with diagnostics := s.diagnostics.map f }

def Slave.isListenOnly (s : Slave) : Bool :=
  match s.diagnostics with
  | some d => d.isListenOnly
  | none => false

def isSupportedWriteFunction (function : Byte) : Bool :=
  function = 0x05#8 ∨ function = 0x06#8 ∨ function = 0x0F#8 ∨ function = 0x10#8 ∨
    function = 0x15#8 ∨ function = 0x16#8

def responseExceptionCode (response : List Byte) : Byte :=
  if response.length = 2 ∧ ofList response 0 &&& 0x80#8 ≠ 0#8 then ofList response 1 else 0#8

def pduCapacity (responseCapacity : Nat) : Nat :=
  if 3 < responseCapacity then responseCapacity-3 else 0

/-- The address and the CRC are put around a response PDU, and it is accounted. -/
def Slave.noteResponse (s : Slave) (response : List Byte)
    (normal : Diagnostics → Diagnostics) : Slave :=
  let exceptionCode := responseExceptionCode response
  s.note fun d => if exceptionCode ≠ 0#8 then d.noteException exceptionCode else normal d

section Processing
variable (cfg : Platform) (s : Slave) (request : Mem Byte)

def selfAccounted (pduLen : Nat) : Bool :=
  request 1 = 0x08#8 ∧ 3 ≤ pduLen ∧ request 2 = 0x00#8 ∧
    (request 3 = 0x01#8 ∨ request 3 = 0x0A#8)

/-- The FC11 branch; `none` means that processing goes on. -/
def processServerId (pduLen responseCapacity : Nat) : Option RtuResult × Slave :=
  if isBroadcast (request 0) then
    (some .noResponse,s.note fun d => d.noteNormalCompletion false true)
  else
    let (r,server) := mbrtuServerIdProcessPdu s.server (request.off 1) pduLen
      (pduCapacity responseCapacity)
    let s := { s with server := server }
    match r with
    | .response response =>
      if responseCapacity < 1+response.length+2 then (some .errorResponseCapacity,s)
      else
        (some (.responseReady (appendCrc (request 0 :: response))),
          s.noteResponse response fun d => d.noteNormalCompletion false false)
    | .capacity => (some .errorResponseCapacity,s)
    | .notHandled => (none,s)

/-- The response to a broadcast write goes to a local buffer of 253 bytes. -/
def processBroadcast (pduLen : Nat) : RtuResult × Slave :=
  if ¬ isSupportedWriteFunction (request 1) then
    (.noResponse,s.note fun d => d.noteNormalCompletion false true)
  else
    match mbProcessPdu cfg s.server (request.off 1) pduLen modbusPduMaxSize with
    | (.error _,server) => (.errorPdu,{ s with server := server })
    | (.ok response,server) =>
      let s := { s with server := server }
      let exclude := decide (responseExceptionCode response ≠ 0#8)
      (.noResponse,s.note fun d => d.noteNormalCompletion false exclude)

def processUnicast (pduLen responseCapacity : Nat) : RtuResult × Slave :=
  if responseCapacity < 5 then (.errorResponseCapacity,s)
  else
    match mbProcessPdu cfg s.server (request.off 1) pduLen (responseCapacity-3) with
    | (.error _,server) => (.errorPdu,{ s with server := server })
    | (.ok response,server) =>
      let s := { s with server := server }
      (.responseReady (appendCrc (request 0 :: response)),
        s.noteResponse response fun d => d.noteNormalCompletion false false)

/-- What follows the diagnostics branch. -/
def processOrdinary (pduLen responseCapacity : Nat) : RtuResult × Slave :=
  let (early,s) := if request 1 = 0x11#8 then processServerId s request pduLen responseCapacity
    else (none,s)
  match early with
  | some r => (r,s)
  | none =>
    if isBroadcast (request 0) then processBroadcast cfg s request pduLen
    else processUnicast cfg s request pduLen responseCapacity

/-- The diagnostics branch, taken when there is a diagnostics object. -/
def processDiagnostics (policy : DiagnosticsPolicy) (d : Diagnostics)
    (pduLen responseCapacity : Nat) : RtuResult × Slave :=
  let (result,d,calls) := mbrtuDiagnosticsProcessPdu policy d (request 0) (request.off 1) pduLen
    (pduCapacity responseCapacity)
  let s := { s with diagnostics := some d, policyCalls := s.policyCalls ++ calls }
  match result with
  | .response response =>
    if responseCapacity < 1+response.length+2 then (.errorResponseCapacity,s)
    else
      (.responseReady (appendCrc (request 0 :: response)),
        s.noteResponse response fun d =>
          if selfAccounted request pduLen then d
          else d.noteNormalCompletion false (request 1 = 0x0B#8 ∨ request 1 = 0x0C#8))
  | .noResponse => (.noResponse,s)
  | .error => (.errorPdu,s)
  | .notHandled => processOrdinary cfg s request pduLen responseCapacity

/-- The gate of the frame processor: what a listening slave lets through. -/
def isRestartCandidate (pduLen : Nat) : Bool :=
  5 ≤ pduLen ∧ request 1 = 0x08#8 ∧ request 2 = 0x00#8 ∧ request 3 = 0x01#8

/-- A frame with a good CRC that carries this slave's address or the broadcast address. -/
def processAddressed (policy : DiagnosticsPolicy) (pduLen responseCapacity : Nat) :
    RtuResult × Slave :=
  let s := s.note fun d => d.noteServerMessage
  if s.isListenOnly ∧ ¬ isRestartCandidate request pduLen then
    (.noResponse,s.note fun d => d.noteNormalCompletion (!isBroadcast (request 0)) true)
  else
    match s.diagnostics with
    | some d => processDiagnostics cfg s request policy d pduLen responseCapacity
    | none => processOrdinary cfg s request pduLen responseCapacity

def crcMatches (len : Nat) : Bool :=
  readCrcLe (request.off (len-2)) = mbCrc16 request (len-2)

def mbrtuProcessAduWithDiagnostics (slaveAddress : Byte) (policy : DiagnosticsPolicy)
    (len responseCapacity : Nat) : RtuResult × Slave :=
  if slaveAddress.toNat < 1 ∨ 247 < slaveAddress.toNat then (.errorSlaveAddress,s)
  else if len < 4 ∨ 256 < len then
    if 0 < len then
      (.noResponse,s.note fun d => d.noteCommunicationError (request 0 = 0#8) false)
    else (.noResponse,s)
  else if ¬ crcMatches request len then
    (.noResponse,s.note fun d => d.noteCommunicationError (isBroadcast (request 0)) false)
  else
    let s := s.note fun d => d.noteBusMessage (isBroadcast (request 0))
    if request 0 ≠ 0#8 ∧ request 0 ≠ slaveAddress then (.noResponse,s)
    else processAddressed cfg s request policy (len-3) responseCapacity

def mbrtuProcessAdu (server : Server) (slaveAddress : Byte) (len responseCapacity : Nat) :
    RtuResult × Server :=
  let (r,s) := mbrtuProcessAduWithDiagnostics cfg ⟨server,none,[]⟩ request slaveAddress none len
    responseCapacity
  (r,s.server)

end Processing

theorem crcMatches_appendCrc (adu : List Byte) :
    crcMatches (ofList (appendCrc adu)) (appendCrc adu).length = true := by
  have hstored : Stored (ofList (appendCrc adu)) 0 (appendCrc adu) := by
    simpa using stored_ofList (appendCrc adu) []
  simp only [crcMatches,appendCrc_length,Nat.add_sub_cancel,decide_eq_true_eq]
  exact readCrcLe_appendCrc hstored

end ModbusStack
