import ModbusStack.ConfigStores
import ModbusStack.ExchangedData
import ModbusStack.ExchangedDiagnostics
import ModbusStack.ExchangedFiles
import ModbusStack.ExchangedIds
import ModbusStack.ExchangedObjects

/-! From a builder of the master through the slave and back to the decoders, whatever has
happened to the slave before. -/
set_option autoImplicit false

namespace ModbusStack
open ByteMemory Machine

/-! The device identification over runs. -/

section Runs
variable {cfg : Platform} {a : Byte}

theorem mbDeviceIdConfigure_sound (s : Server) (level : Byte)
    (objects : Option (Mem DeviceIdObject)) (n : Nat) (h : DeviceIdSound s.data.deviceId) :
    DeviceIdSound (mbDeviceIdConfigure cfg s level objects n).2.data.deviceId := by
  rcases mbDeviceIdConfigure_error cfg s level objects n with hok | hsame
  · cases objects with
    | none => cases hok
    | some objects => exact .inr ⟨level,objects,n,mbDeviceIdConfigure_stores cfg s level objects n hok⟩
  · rwa [hsame]

theorem Path.deviceId {s s' : Server} (p : Path requestRegions false s false s') :
    s'.data.deviceId = s.data.deviceId :=
  p.same (r := .deviceIdTable) (by simp [requestRegions])

theorem apiStep_deviceId (s : Server) (c : ApiCall) (h : DeviceIdSound s.data.deviceId) :
    DeviceIdSound (apiStep cfg s c).2.data.deviceId := by
  have hrequest : ∀ s', Path requestRegions false s false s' → DeviceIdSound s'.data.deviceId := by
    intro s' p
    rwa [p.deviceId]
  cases c with
  | init => exact .inl rfl
  | deviceIdConfigure level objects n => exact mbDeviceIdConfigure_sound s level objects n h
  | deviceIdClear => exact .inl rfl
  | setCoil address value => exact hrequest _ (mbSetCoil_path cfg s address value)
  | setHreg address value => exact hrequest _ (mbSetHreg_path cfg s address value)
  | maskWriteHreg address andMask orMask =>
    exact hrequest _ (mbMaskWriteHreg_path cfg s address andMask orMask)
  | deviceIdProcessRequest code objectId capacity =>
    exact hrequest _ (mbDeviceIdProcessRequest_path s code objectId capacity)
  | fileRecordProcessReadRequest pdu len capacity =>
    exact hrequest _ (mbFileRecordProcessReadRequest_path s pdu len capacity)
  | fileRecordProcessWriteRequest pdu len capacity =>
    exact hrequest _ (mbFileRecordProcessWriteRequest_path s pdu len capacity)
  | fifoProcessReadRequest pdu len capacity =>
    exact hrequest _ (mbFifoProcessReadRequest_path s pdu len capacity)
  | meiProcessRequest pdu len capacity =>
    exact hrequest _ (mbMeiProcessRequest_path cfg s pdu len capacity)
  | serverIdProcessPdu pdu len capacity =>
    exact hrequest _ (mbrtuServerIdProcessPdu_path s pdu len capacity)
  | processPdu pdu len capacity => exact hrequest _ (mbProcessPdu_path cfg pdu len capacity s)
  | fileRecordConfigure files n =>
    rw [apiStep,(mbFileRecordConfigure_frame s files n).1]
    exact h
  | fifoConfigure queues n =>
    rw [apiStep,(mbFifoConfigure_frame s queues n).1]
    exact h
  | setDinput address value =>
    simp only [apiStep,mbSetDinput]
    split <;> exact h
  | setIreg address value =>
    simp only [apiStep,mbSetIreg]
    split <;> exact h
  | meiRegisterHandler meiType handler context =>
    simp only [apiStep,mbMeiRegisterHandler]
    repeat' split
    all_goals exact h
  | meiUnregisterHandler meiType =>
    simp only [apiStep,mbMeiUnregisterHandler]
    repeat' split
    all_goals exact h
  | meiIsRegistered meiType =>
    simp only [apiStep,mbMeiIsRegistered]
    repeat' split
    all_goals exact h
  | serverIdConfigure serverId n runStatus additionalData m =>
    simp only [apiStep,mbrtuServerIdConfigure]
    repeat' split
    all_goals exact h
  | _ => exact h

theorem rtuStep_deviceId (s : Slave) (f : RtuFrame) :
    (rtuStep cfg a s f).2.server.data.deviceId = s.server.data.deviceId := by
  have ho := rtuStep_outcome cfg a s f
  generalize rtuStep cfg a s f = out at ho
  cases ho with
  | serverIdAnswered response server _ _ _ _ hp _ =>
    have p := (mbrtuServerIdProcessPdu_path s.server (f.request.off 1) (f.len-3)
      (pduCapacity f.capacity)).deviceId
    rwa [hp] at p
  | serverIdCapacity server _ _ _ _ hp =>
    have p := (mbrtuServerIdProcessPdu_path s.server (f.request.off 1) (f.len-3)
      (pduCapacity f.capacity)).deviceId
    rwa [hp] at p
  | broadcastWritten response server _ _ _ _ hp =>
    have p := (mbProcessPdu_path cfg (f.request.off 1) (f.len-3) modbusPduMaxSize s.server).deviceId
    rwa [hp] at p
  | answered response server _ _ _ _ _ hp =>
    have p := (mbProcessPdu_path cfg (f.request.off 1) (f.len-3) (f.capacity-3) s.server).deviceId
    rwa [hp] at p
  | _ => rfl

theorem slaveStep_deviceId (s : Slave) (x : SlaveInput) (h : DeviceIdSound s.server.data.deviceId) :
    DeviceIdSound (slaveStep cfg a s x).2.server.data.deviceId := by
  cases x with
  | frame f =>
    rw [slaveStep,rtuStep_deviceId]
    exact h
  | dropped f => exact h
  | call c => exact apiStep_deviceId s.server c h
  | diagnosticsCall c => exact h

theorem slaveRun_deviceId {data : DataModel} (hasDiagnostics : Bool) (inputs : List SlaveInput)
    (h : data.deviceId = .cleared) : DeviceIdSound
      (run (slaveStep cfg a) (.initial data hasDiagnostics) inputs).server.data.deviceId := by
  refine run_invariant (fun s : Slave => DeviceIdSound s.server.data.deviceId)
    (fun s x hs => slaveStep_deviceId s x hs) ?_ inputs
  exact .inl (congrArg DeviceIdState.configured h)

end Runs

/-! The exchanges together. -/

def Delivered (cfg : Platform) (s : Slave) (w : WireRequest) (a : Byte)
    (policy : DiagnosticsPolicy) (adu : Mem Byte) (response : Response) (after : Slave) : Prop :=
  match w with
  | .read f start quantity => ReadDelivered cfg s f start quantity (w.descriptor a) adu response
  | .writeSingle .. | .maskWriteRegister .. | .writeMultipleCoils .. | .writeMultipleRegisters .. =>
    Written cfg s w after
  | .readWriteMultipleRegisters readStart readQuantity _ _ _ =>
    Yields BitVec.toNat (mbrtumGetRegister (w.descriptor a) response adu)
      (heldRegisters cfg after.server.data 0x17#8 readStart readQuantity) ∧ Written cfg s w after
  | .readFileRecord subrequests => FileRecordsDelivered s.server.data subrequests adu response
  | .writeFileRecord subrequests =>
    FileRecordsWritten s.server.data after.server.data subrequests
  | .readFifoQueue pointer => FifoDelivered s.server.data pointer adu response
  | .mei meiType data => MeiDelivered cfg s.server.data meiType data adu response
  | .readDeviceIdentification code objectId =>
    ObjectsDelivered s.server.data.deviceId code objectId adu response
  | .status f => ∃ d, (s.heard (w.arrival a policy)).diagnostics = some d ∧
    StatusDelivered d f adu response
  | .reportServerId _ => ServerIdDelivered s.server.serverId (w.descriptor a) adu response
  | .diagnostics subfunction data => ∃ d, (s.heard (w.arrival a policy)).diagnostics = some d ∧
    DiagnosticsDelivered d subfunction data adu response

/-- The expected length of FC11h is a property of the slave that the caller has to know. -/
def WireRequest.ExpectedOf (w : WireRequest) (t : ServerIdState) : Prop :=
  ∀ expected, w = .reportServerId expected → ServerIdExpected t expected

theorem exchange_delivered {cfg : Platform} {w : WireRequest} {a : Byte} {s : Slave}
    (policy : DiagnosticsPolicy) (h : w.WellFormed a) (ha : w.answered a = true)
    (hawake : s.isListenOnly = false) (hsound : s.Sound)
    (hdevice : DeviceIdSound s.server.data.deviceId) (hexpected : w.ExpectedOf s.server.serverId) :
    Exchanges cfg w a s policy (Delivered cfg s w a policy) := by
  cases w with
  | read f start quantity => exact exchange_read hawake h ha
  | writeSingle f address value =>
    obtain ⟨-,⟨rfl,-⟩ | rfl⟩ := id h
    · exact exchange_write hawake h ha rfl (by simp [WireRequest.function])
    · exact exchange_write hawake h ha rfl (by simp [WireRequest.function])
  | maskWriteRegister address andMask orMask =>
    exact exchange_write hawake h ha rfl (by simp [WireRequest.function])
  | writeMultipleCoils start quantity packed =>
    exact exchange_write hawake h ha rfl (by simp [WireRequest.function])
  | writeMultipleRegisters start quantity values =>
    exact exchange_write hawake h ha rfl (by simp [WireRequest.function])
  | readWriteMultipleRegisters readStart readQuantity writeStart writeQuantity values =>
    exact exchange_readWrite hawake h ha
  | readFileRecord subrequests => exact exchange_readFileRecord hawake h ha
  | writeFileRecord subrequests => exact exchange_writeFileRecord hawake h ha
  | readFifoQueue pointer => exact exchange_fifo hawake h ha
  | mei meiType data => exact exchange_mei hawake h ha
  | readDeviceIdentification code objectId => exact exchange_deviceId hawake hdevice h ha
  | status f => exact exchange_status hawake hsound.eventLog h ha
  | reportServerId expected => exact exchange_serverId hawake (hexpected expected rfl) h ha
  | diagnostics subfunction data => exact exchange_diagnostics hawake hsound.eventLog h ha

/-- The master accepts no other identification. -/
theorem accepted_expectedOf {cfg : Platform} {w : WireRequest} {a : Byte} {s : Slave}
    {policy : DiagnosticsPolicy} {answer : List Byte} {response : Response} (h : w.WellFormed a)
    (ha : w.answered a = true) (hawake : s.isListenOnly = false) (hsound : s.Sound)
    (hanswer : (rtuStep cfg a s (w.arrival a policy)).1 = .responseReady answer)
    (hverdict : w.verdict a answer = (.ok,response)) : w.ExpectedOf s.server.serverId := by
  rintro expected rfl
  exact exchange_serverId_expected hawake hsound.serverId h ha hanswer hverdict

def RoundTrips (cfg : Platform) (s : Slave) (policy : DiagnosticsPolicy) (built : BuiltRequest)
    (Good : Mem Byte → Response → Slave → Prop) : Prop :=
  ∃ adu after, mbrtuProcessAduWithDiagnostics cfg s (ofList built.adu) built.request.slaveAddress
      policy built.adu.length 256 = (.responseReady adu,after) ∧
    ((∃ code, code ≠ 0#8 ∧
        adu = appendCrc [built.request.slaveAddress,built.request.function ||| 0x80#8,code] ∧
        mbrtumProcessResponseWithRequestAdu built.request (some (ofList built.adu)) built.adu.length
          (some (ofList adu)) adu.length =
            (.exceptionResponse,⟨built.request.function,code,none,0⟩)) ∨
      ∃ response, mbrtumProcessResponseWithRequestAdu built.request (some (ofList built.adu))
        built.adu.length (some (ofList adu)) adu.length = (.ok,response) ∧
          Good (ofList adu) response after)

theorem masterSlave_roundTrip (cfg : Platform) (data : DataModel) (hcleared : data.deviceId = .cleared)
    (hasDiagnostics : Bool) (inputs : List SlaveInput) (policy : DiagnosticsPolicy)
    (call : BuildCall) (out : RequestBuffer) (s : Slave)
    (hs : s = run (slaveStep cfg call.slaveAddress) (.initial data hasDiagnostics) inputs)
    (hawake : s.isListenOnly = false) (hbuilt : (call.build out).result = .ok)
    (hexpects : (call.build out).request.expectsResponse = 1#8)
    (hserverId : call.wire.ExpectedOf s.server.serverId) :
    RoundTrips cfg s policy (call.build out)
      (Delivered cfg s call.wire call.slaveAddress policy) := by
  have hb := call.build_ok hbuilt
  rw [hb.built] at hexpects ⊢
  have ha : call.wire.answered call.slaveAddress = true := by
    by_contra hno
    rw [WireRequest.descriptor_expectsResponse,if_neg hno] at hexpects
    exact absurd hexpects (by decide)
  have hsound : s.Sound := hs ▸ slaveRun_sound cfg call.slaveAddress data hasDiagnostics inputs
  have hdevice : DeviceIdSound s.server.data.deviceId :=
    hs ▸ slaveRun_deviceId hasDiagnostics inputs hcleared
  have hexchange : Exchanges cfg _ _ s policy _ :=
    exchange_delivered policy hb.wellFormed ha hawake hsound hdevice hserverId
  simp only [RoundTrips,WireRequest.descriptor_slaveAddress,WireRequest.descriptor_function]
  exact hexchange

def identifiedSlave : Slave :=
  run (slaveStep .standard 0x11#8) (.initial Server.zeroed.data true)
    [.call (.serverIdConfigure (some fun _ => 0x41#8) 1 0xFF#8 none 0)]

def wideBuffer : RequestBuffer := ⟨true,1,true,256⟩

theorem masterSlave_roundTrip_identified :
    RoundTrips .standard identifiedSlave none ((BuildCall.reportServerId 0x11#8 1#16).build wideBuffer)
      (Delivered .standard identifiedSlave (.reportServerId 1#16) 0x11#8 none) := by
  refine masterSlave_roundTrip .standard Server.zeroed.data rfl true
    [.call (.serverIdConfigure (some fun _ => 0x41#8) 1 0xFF#8 none 0)] none
    (.reportServerId 0x11#8 1#16) wideBuffer identifiedSlave rfl (by decide) (by decide +kernel)
    (by decide +kernel) ?_
  rintro expected hw
  obtain rfl : 1#16 = expected := WireRequest.reportServerId.inj hw
  exact .inr ⟨_,_,_,mbrtuServerIdConfigure_holds Server.zeroed (fun _ => 0x41#8) 1 0xFF#8 none 0 rfl,
    rfl⟩

def longerIdentifier : BuiltRequest := (BuildCall.reportServerId 0x11#8 2#16).build wideBuffer

theorem longerIdentifier_rejected :
    longerIdentifier.result = .ok ∧ longerIdentifier.request.expectsResponse = 1#8 ∧
    identifiedSlave.isListenOnly = false ∧
    ¬ RoundTrips .standard identifiedSlave none longerIdentifier fun _ _ _ => True := by
  refine ⟨by decide +kernel,by decide +kernel,by decide,?_⟩
  rintro ⟨adu,after,hstep,hverdict⟩
  have hready : (mbrtuProcessAduWithDiagnostics .standard identifiedSlave
      (ofList longerIdentifier.adu) longerIdentifier.request.slaveAddress none
      longerIdentifier.adu.length 256).1 =
        .responseReady (appendCrc [0x11#8,0x11#8,0x02#8,0x41#8,0xFF#8]) := by decide +kernel
  have hrejected : (mbrtumProcessResponseWithRequestAdu longerIdentifier.request
      (some (ofList longerIdentifier.adu)) longerIdentifier.adu.length
      (some (ofList (appendCrc [0x11#8,0x11#8,0x02#8,0x41#8,0xFF#8])))
      (appendCrc [0x11#8,0x11#8,0x02#8,0x41#8,0xFF#8]).length).1 = .errorResponseLength := by
    decide +kernel
  rw [hstep] at hready
  obtain rfl : adu = appendCrc [0x11#8,0x11#8,0x02#8,0x41#8,0xFF#8] := RtuResult.responseReady.inj hready
  rcases hverdict with ⟨code,-,-,hexception⟩ | ⟨response,hok,-⟩
  · rw [hexception] at hrejected
    cases hrejected
  · rw [hok] at hrejected
    cases hrejected

end ModbusStack
