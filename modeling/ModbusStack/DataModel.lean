import ModbusStack.ByteMemory

/-! The register map, the configuration tables of `modbus.c` and its accessors. Every
call of `mb_lock`, `mb_unlock`, a write hook or an application handler, and every
write of shared state, is recorded in a trace. -/
set_option autoImplicit false

namespace ModbusStack
open ByteMemory

/-- The compile-time settings, with the bounds that `platform_port.h` and
`modbus_mei.h` enforce. -/
structure Platform where
  maxCoils : Nat
  maxDiscreteInputs : Nat
  maxHregs : Nat
  maxIregs : Nat
  meiMaxHandlers : Nat
  deviceIdMaxObjects : Nat
  deviceIdValueStorageSize : Nat
  tcpMaxClients : Nat
  coils_bound : 1 ≤ maxCoils ∧ maxCoils ≤ 65536
  discreteInputs_bound : 1 ≤ maxDiscreteInputs ∧ maxDiscreteInputs ≤ 65536
  hregs_bound : 1 ≤ maxHregs ∧ maxHregs ≤ 65536
  iregs_bound : 1 ≤ maxIregs ∧ maxIregs ≤ 65536
  meiHandlers_bound : 1 ≤ meiMaxHandlers
  tcpClients_bound : 1 ≤ tcpMaxClients ∧ tcpMaxClients ≤ 255

def Platform.standard : Platform where
  maxCoils := 256
  maxDiscreteInputs := 256
  maxHregs := 256
  maxIregs := 256
  meiMaxHandlers := 8
  deviceIdMaxObjects := 32
  deviceIdValueStorageSize := 512
  tcpMaxClients := 3
  coils_bound := by decide
  discreteInputs_bound := by decide
  hregs_bound := by decide
  iregs_bound := by decide
  meiHandlers_bound := by decide
  tcpClients_bound := by decide

abbrev modbusPduMaxSize : Nat := 253

abbrev exIllegalFunction : Byte := 0x01#8
abbrev exIllegalDataAddress : Byte := 0x02#8
abbrev exIllegalDataValue : Byte := 0x03#8
abbrev exServerFailure : Byte := 0x04#8

structure DeviceIdEntry where
  objectId : Byte
  valueLength : Byte
  valueOffset : Nat
  deriving DecidableEq, Repr

structure DeviceIdState where
  configured : Byte
  conformityLevel : Byte
  objectCount : Nat
  objects : Mem DeviceIdEntry
  values : Mem Byte

def DeviceIdState.cleared : DeviceIdState := ⟨0,0,0,fun _ => ⟨0,0,0⟩,fun _ => 0⟩

/-- `records` is the address of the first record in application memory, 0 for NULL. -/
structure FileRecordFile where
  fileNumber : Word
  records : Nat
  recordCount : Nat
  deriving DecidableEq, Repr

structure FileRecordState where
  fileCount : Nat
  files : Mem FileRecordFile

def FileRecordState.cleared : FileRecordState := ⟨0,fun _ => ⟨0,0,0⟩⟩

/-- `registers` is the address of the count register in application memory, 0 for NULL. -/
structure FifoQueue where
  pointerAddress : Word
  registers : Nat
  registerCount : Nat
  deriving DecidableEq, Repr

structure FifoState where
  queueCount : Nat
  queues : Mem FifoQueue

def FifoState.cleared : FifoState := ⟨0,fun _ => ⟨0,0,0⟩⟩

/-- An application handler: context, MEI type, request data and response capacity to
a result code and the response data it wrote. It is taken to answer alike every time and to leave
the data model alone. -/
abbrev MeiHandlerFn := Nat → Byte → List Byte → Nat → Byte × List Byte

structure MeiHandlerEntry where
  inUse : Byte
  meiType : Byte
  handler : Option MeiHandlerFn
  context : Nat

abbrev MeiState := Mem MeiHandlerEntry

def MeiState.cleared : MeiState := fun _ => ⟨0,0,none,0⟩

/-- The four banks, the configuration tables, and the application-owned words that the
file-record and FIFO tables point to. -/
structure DataModel where
  coils : Mem Byte
  discreteInputs : Mem Byte
  holdingRegisters : Mem Word
  inputRegisters : Mem Word
  deviceId : DeviceIdState
  fileRecord : FileRecordState
  fifo : FifoState
  mei : MeiState
  memory : Mem Word

structure ServerIdState where
  configured : Byte
  byteCount : Nat
  data : Mem Byte

def ServerIdState.cleared : ServerIdState := ⟨0,0,fun _ => 0⟩

inductive Region where
  | coils | discreteInputs | holdingRegisters | inputRegisters | fileRecords
  | deviceIdTable | fileTable | fifoTable | meiTable | serverIdTable
  deriving DecidableEq, Repr

inductive Event where
  | lock
  | unlock
  | write : Region → Event
  | onWriteCoil : Word → Byte → Event
  | onWriteHreg : Word → Word → Event
  | meiHandler : Byte → Event
  deriving DecidableEq, Repr

def Event.isWriteHook : Event → Bool
  | .onWriteCoil _ _ | .onWriteHreg _ _ => true
  | _ => false

structure Server where
  data : DataModel
  serverId : ServerIdState
  trace : List Event

def Server.zeroed : Server where
  data := ⟨fun _ => 0,fun _ => 0,fun _ => 0,fun _ => 0,.cleared,.cleared,.cleared,.cleared,fun _ => 0⟩
  serverId := .cleared
  trace := []

def Server.emit (s : Server) (e : Event) : Server := { s with trace := s.trace ++ [e] }

/-- A write of shared state, seen as such by the trace. -/
def Server.modify (s : Server) (r : Region) (d : DataModel) : Server :=
  { s with data := d, trace := s.trace ++ [.write r] }

def Server.hooks (s : Server) : List Event := s.trace.filter Event.isWriteHook

@[simp] theorem Server.emit_data (s : Server) (e : Event) : (s.emit e).data = s.data := rfl
@[simp] theorem Server.emit_serverId (s : Server) (e : Event) :
    (s.emit e).serverId = s.serverId := rfl
@[simp] theorem Server.modify_data (s : Server) (r : Region) (d : DataModel) :
    (s.modify r d).data = d := rfl
@[simp] theorem Server.modify_serverId (s : Server) (r : Region) (d : DataModel) :
    (s.modify r d).serverId = s.serverId := rfl

@[simp] theorem Server.emit_hooks (s : Server) (e : Event) (h : e.isWriteHook = false) :
    (s.emit e).hooks = s.hooks := by
  simp [hooks,emit,h]

def mbInit (s : Server) : Server :=
  let s := s.emit .lock
  let s := s.modify .coils { s.data with coils := fun _ => 0 }
  let s := s.modify .discreteInputs { s.data with discreteInputs := fun _ => 0 }
  let s := s.modify .holdingRegisters { s.data with holdingRegisters := fun _ => 0 }
  let s := s.modify .inputRegisters { s.data with inputRegisters := fun _ => 0 }
  let s := s.modify .deviceIdTable { s.data with deviceId := .cleared }
  let s := s.modify .fileTable { s.data with fileRecord := .cleared }
  let s := s.modify .fifoTable { s.data with fifo := .cleared }
  let s := s.modify .meiTable { s.data with mei := .cleared }
  s.emit .unlock

section Accessors
variable (cfg : Platform)

def mbGetCoil (d : DataModel) (address : Word) : Byte :=
  if address.toNat < cfg.maxCoils then d.coils address.toNat &&& 1#8 else 0#8

def mbSetCoil (s : Server) (address : Word) (value : Byte) : Server :=
  if cfg.maxCoils ≤ address.toNat then s else
  let normalized : Byte := if value ≠ 0#8 then 1#8 else 0#8
  let s := s.emit .lock
  let s := s.modify .coils { s.data with coils := put s.data.coils address.toNat normalized }
  let s := s.emit .unlock
  s.emit (.onWriteCoil address normalized)

def mbGetDinput (d : DataModel) (address : Word) : Byte :=
  if address.toNat < cfg.maxDiscreteInputs then d.discreteInputs address.toNat &&& 1#8 else 0#8

def mbSetDinput (s : Server) (address : Word) (value : Byte) : Server :=
  if cfg.maxDiscreteInputs ≤ address.toNat then s else
  let s := s.emit .lock
  let s := s.modify .discreteInputs { s.data with
    discreteInputs := put s.data.discreteInputs address.toNat (if value ≠ 0#8 then 1#8 else 0#8) }
  s.emit .unlock

def mbGetHreg (d : DataModel) (address : Word) : Word :=
  if address.toNat < cfg.maxHregs then d.holdingRegisters address.toNat else 0#16

def mbSetHreg (s : Server) (address : Word) (value : Word) : Server :=
  if cfg.maxHregs ≤ address.toNat then s else
  let s := s.emit .lock
  let s := s.modify .holdingRegisters
    { s.data with holdingRegisters := put s.data.holdingRegisters address.toNat value }
  let s := s.emit .unlock
  s.emit (.onWriteHreg address value)

def mbMaskWriteHreg (s : Server) (address andMask orMask : Word) : Word × Server :=
  if cfg.maxHregs ≤ address.toNat then (0#16,s) else
  let s := s.emit .lock
  let value := (s.data.holdingRegisters address.toNat &&& andMask) ||| (orMask &&& ~~~andMask)
  let s := s.modify .holdingRegisters
    { s.data with holdingRegisters := put s.data.holdingRegisters address.toNat value }
  let s := s.emit .unlock
  (value,s.emit (.onWriteHreg address value))

def mbGetIreg (d : DataModel) (address : Word) : Word :=
  if address.toNat < cfg.maxIregs then d.inputRegisters address.toNat else 0#16

def mbSetIreg (s : Server) (address : Word) (value : Word) : Server :=
  if cfg.maxIregs ≤ address.toNat then s else
  let s := s.emit .lock
  let s := s.modify .inputRegisters
    { s.data with inputRegisters := put s.data.inputRegisters address.toNat value }
  s.emit .unlock

end Accessors

theorem mbSetCoil_data (cfg : Platform) (s : Server) (address : Word) (value : Byte)
    (h : address.toNat < cfg.maxCoils) :
    (mbSetCoil cfg s address value).data = { s.data with
      coils := put s.data.coils address.toNat (if value ≠ 0#8 then 1#8 else 0#8) } := by
  simp [mbSetCoil,Nat.not_le.mpr h]

theorem mbSetHreg_data (cfg : Platform) (s : Server) (address value : Word)
    (h : address.toNat < cfg.maxHregs) :
    (mbSetHreg cfg s address value).data = { s.data with
      holdingRegisters := put s.data.holdingRegisters address.toNat value } := by
  simp [mbSetHreg,Nat.not_le.mpr h]

theorem mbMaskWriteHreg_data (cfg : Platform) (s : Server) (address andMask orMask : Word)
    (h : address.toNat < cfg.maxHregs) :
    (mbMaskWriteHreg cfg s address andMask orMask).2.data = { s.data with
      holdingRegisters := put s.data.holdingRegisters address.toNat
        ((s.data.holdingRegisters address.toNat &&& andMask) ||| (orMask &&& ~~~andMask)) } := by
  simp [mbMaskWriteHreg,Nat.not_le.mpr h]

end ModbusStack
