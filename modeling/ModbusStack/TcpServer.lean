import ModbusStack.Pdu

/-! The lwIP server of `modbus_tcp.c`: client slots, stream buffers and the raw-API callbacks. -/
set_option autoImplicit false

namespace ModbusStack
open ByteMemory

abbrev tcpAduMaxSize : Nat := 260

/-- A slot; `pcb` is 0 for NULL. -/
structure TcpClient where
  pcb : Nat
  rxBuffer : Mem Byte
  rxCount : Nat

/-- The calls that leave the module, and the bytes that enter it. -/
inductive TcpEvent where
  | accepted : Nat → TcpEvent
  | refused : Nat → TcpEvent
  | received : Nat → List Byte → TcpEvent
  | handed : Nat → List Byte → TcpEvent
  | written : Nat → List Byte → TcpEvent
  | aborted : Nat → TcpEvent
  | closed : Nat → TcpEvent
  deriving DecidableEq, Repr

/-- The results of the lwIP functions that can fail; 0 is `ERR_OK`. -/
structure Lwip where
  tcpWrite : Nat → List Byte → Int
  tcpClose : Nat → Int

/-- `arg pcb` is what lwIP passes to the callbacks of a pcb: the slot set by `tcp_arg`, or
`none` for NULL and for a pcb that is closed, aborted or gone. -/
structure TcpServer where
  clients : Mem TcpClient
  arg : Nat → Option Nat
  server : Server
  log : List TcpEvent

def TcpServer.emit (t : TcpServer) (e : TcpEvent) : TcpServer := { t with log := t.log ++ [e] }

def TcpServer.setClient (t : TcpServer) (i : Nat) (client : TcpClient) : TcpServer :=
  { t with clients := put t.clients i client }

inductive TcpErr where
  | ok | abrt | arg
  | passed : Int → TcpErr
  deriving DecidableEq, Repr

def allocateClient (cfg : Platform) (t : TcpServer) (pcb : Nat) : Option (Nat × TcpServer) :=
  match (List.range cfg.tcpMaxClients).find? fun i => decide ((t.clients i).pcb = 0) with
  | none => none
  | some i => some (i,t.setClient i { t.clients i with pcb := pcb, rxCount := 0 })

def releaseClient (t : TcpServer) (i : Nat) : TcpServer :=
  t.setClient i { t.clients i with pcb := 0, rxCount := 0 }

inductive AduSize where
  | unknown
  | invalid
  | known : Nat → AduSize
  deriving DecidableEq, Repr

def expectedAduSize (buffer : Mem Byte) (available : Nat) : AduSize :=
  if available < 7 then .unknown
  else
    let lengthField := be16 (buffer 4) (buffer 5)
    if lengthField.toNat < 2 ∨ tcpAduMaxSize < 6+lengthField.toNat then .invalid
    else .known (6+lengthField.toNat)

section Stream
variable (cfg : Platform) (lwip : Lwip) (i : Nat)

/-- The frame loop on slot `i`; each turn removes at least eight bytes, so `rxCount` turns
are enough. `false` is the return value -1. -/
def processBufferedFrames : (fuel : Nat) → TcpServer → Bool × TcpServer
  | 0, t => (true,t)
  | fuel+1, t =>
    let client := t.clients i
    match expectedAduSize client.rxBuffer client.rxCount with
    | .invalid => (false,t)
    | .unknown => (true,t)
    | .known expected =>
      if client.rxCount < expected then (true,t)
      else
        let t := t.emit (.handed client.pcb (slice client.rxBuffer 0 expected))
        let (result,server) :=
          mbtcpProcessAdu cfg t.server client.rxBuffer expected tcpAduMaxSize
        let t := { t with server := server }
        match result with
        | .error _ => (false,t)
        | .ok response =>
          if lwip.tcpWrite client.pcb response ≠ 0 then (false,t)
          else
            let t := t.emit (.written client.pcb response)
            let remaining := client.rxCount-expected
            let rxBuffer := if 0 < remaining then
                store client.rxBuffer 0 (slice client.rxBuffer expected remaining)
              else client.rxBuffer
            processBufferedFrames fuel
              (t.setClient i { client with rxBuffer := rxBuffer, rxCount := remaining })

/-- Each turn copies at least one byte, so `data.length` turns are enough. -/
def feedReceivedBytes : (fuel : Nat) → List Byte → TcpServer → Bool × TcpServer
  | 0, _, t => (true,t)
  | fuel+1, data, t =>
    if data.length = 0 then (true,t)
    else
      let (room,t) :=
        if tcpAduMaxSize-(t.clients i).rxCount = 0 then
          let (ok,t) := processBufferedFrames cfg lwip i (t.clients i).rxCount t
          (ok && decide ((t.clients i).rxCount ≠ tcpAduMaxSize),t)
        else (true,t)
      if ¬ room then (false,t)
      else
        let client := t.clients i
        let copyLength := min data.length (tcpAduMaxSize-client.rxCount)
        let t := t.setClient i { client with
          rxBuffer := store client.rxBuffer client.rxCount (data.take copyLength)
          rxCount := client.rxCount+copyLength }
        let (ok,t) := processBufferedFrames cfg lwip i (client.rxCount+copyLength) t
        if ¬ ok then (false,t) else feedReceivedBytes fuel (data.drop copyLength) t

def feedSegments : List (List Byte) → TcpServer → Bool × TcpServer
  | [], t => (true,t)
  | part :: parts, t =>
    let (ok,t) := feedReceivedBytes cfg lwip i part.length part t
    if ¬ ok then (false,t) else feedSegments parts t

end Stream

section Callbacks
variable (cfg : Platform) (lwip : Lwip)

def mbAccept (t : TcpServer) (newPcb : Nat) (error : Int) : TcpErr × TcpServer :=
  if error ≠ 0 ∨ newPcb = 0 then (.passed error,t)
  else
    match allocateClient cfg t newPcb with
    | none => (.abrt,t.emit (.refused newPcb))
    | some (i,t) => (.ok,{ t with arg := put t.arg newPcb (some i) }.emit (.accepted newPcb))

/-- The error callback; lwIP has freed the pcb already. -/
def mbConnectionError (t : TcpServer) (pcb : Nat) : TcpErr × TcpServer :=
  match t.arg pcb with
  | none => (.ok,t)
  | some i => (.ok,(releaseClient { t with arg := put t.arg pcb none } i).emit (.closed pcb))

/-- The receive callback; `packet` is the chain of segments, `none` for NULL. The abort runs
the error callback as well, which releases the same slot. -/
def mbReceive (t : TcpServer) (pcb : Nat) (packet : Option (List (List Byte))) (error : Int) :
    TcpErr × TcpServer :=
  match t.arg pcb with
  | none => (.arg,t)
  | some i =>
    match packet with
    | none =>
      let t := (releaseClient { t with arg := put t.arg pcb none } i).emit (.closed pcb)
      if lwip.tcpClose pcb ≠ 0 then (.abrt,t) else (.ok,t)
    | some parts =>
      if error ≠ 0 then (.passed error,t)
      else
        let t := t.emit (.received pcb parts.flatten)
        let (ok,t) := feedSegments cfg lwip i parts t
        if ¬ ok then
          (.abrt,(releaseClient { t with arg := put t.arg pcb none } i).emit (.aborted pcb))
        else (.ok,t)

inductive TcpCallback where
  | accept : Nat → Int → TcpCallback
  | receive : Nat → Option (List (List Byte)) → Int → TcpCallback
  | connectionError : Nat → TcpCallback
  deriving DecidableEq, Repr

end Callbacks

end ModbusStack
