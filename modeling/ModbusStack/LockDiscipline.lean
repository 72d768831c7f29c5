import ModbusStack.LockTrace
import ModbusStack.Machine
import ModbusStack.Pdu

/-! The lock discipline of the server: every call of its interface takes and releases the
lock in non-nested pairs, writes shared state only inside them, and calls application code
only outside. -/
set_option autoImplicit false

namespace ModbusStack
open ByteMemory LockTrace Machine

def Event.action : Event → Action
  | .lock => .lock
  | .unlock => .unlock
  | .write _ => .write
  | .onWriteCoil _ _ | .onWriteHreg _ _ | .meiHandler _ => .call

def SameRegion (s s' : Server) : Region → Prop
  | .coils => s'.data.coils = s.data.coils
  | .discreteInputs => s'.data.discreteInputs = s.data.discreteInputs
  | .holdingRegisters => s'.data.holdingRegisters = s.data.holdingRegisters
  | .inputRegisters => s'.data.inputRegisters = s.data.inputRegisters
  | .fileRecords => s'.data.memory = s.data.memory
  | .deviceIdTable => s'.data.deviceId = s.data.deviceId
  | .fileTable => s'.data.fileRecord = s.data.fileRecord
  | .fifoTable => s'.data.fifo = s.data.fifo
  | .meiTable => s'.data.mei = s.data.mei
  | .serverIdTable => s'.serverId = s.serverId

theorem SameRegion.refl (s : Server) (r : Region) : SameRegion s s r := by
  cases r <;> rfl

theorem SameRegion.trans {s₁ s₂ s₃ : Server} {r : Region} (h : SameRegion s₁ s₂ r)
    (h' : SameRegion s₂ s₃ r) : SameRegion s₁ s₃ r := by
  cases r <;> exact Eq.trans h' h

def OnlyRegion (d d' : DataModel) : Region → Prop
  | .coils => d' = { d with coils := d'.coils }
  | .discreteInputs => d' = { d with discreteInputs := d'.discreteInputs }
  | .holdingRegisters => d' = { d with holdingRegisters := d'.holdingRegisters }
  | .inputRegisters => d' = { d with inputRegisters := d'.inputRegisters }
  | .fileRecords => d' = { d with memory := d'.memory }
  | .deviceIdTable => d' = { d with deviceId := d'.deviceId }
  | .fileTable => d' = { d with fileRecord := d'.fileRecord }
  | .fifoTable => d' = { d with fifo := d'.fifo }
  | .meiTable => d' = { d with mei := d'.mei }
  | .serverIdTable => d' = d

/-- From `s`, with the lock held or not, the program reaches `s'`: the automaton accepts the
events in between, and whatever has changed has been recorded as written, in regions of `W`
only. -/
def Path (W : Set Region) (held : Bool) (s : Server) (held' : Bool) (s' : Server) : Prop :=
  ∃ events, s'.trace = s.trace ++ events ∧
    scan held (events.map Event.action) = some held' ∧
    (∀ r, Event.write r ∈ events → r ∈ W) ∧
    ∀ r, Event.write r ∉ events → SameRegion s s' r

namespace Path
variable {W : Set Region} {held held' held'' : Bool} {s s' s'' : Server}

theorem refl (W : Set Region) (held : Bool) (s : Server) : Path W held s held s :=
  ⟨[],by simp,rfl,by simp,fun r _ => .refl s r⟩

theorem trans (p : Path W held s held' s') (q : Path W held' s' held'' s'') :
    Path W held s held'' s'' := by
  obtain ⟨events,htrace,hscan,hregion,hsame⟩ := p
  obtain ⟨events',htrace',hscan',hregion',hsame'⟩ := q
  refine ⟨events ++ events',by rw [htrace',htrace,List.append_assoc],?_,fun r hr => ?_,
    fun r hr => ?_⟩
  · rw [List.map_append,scan_append,hscan]
    exact hscan'
  · exact (List.mem_append.mp hr).elim (hregion r) (hregion' r)
  · simp only [List.mem_append,not_or] at hr
    exact (hsame r hr.1).trans (hsame' r hr.2)

theorem emit (p : Path W held s held' s') (e : Event) (he : next held' e.action = some held'')
    (hw : ∀ r, e ≠ .write r) : Path W held s held'' (s'.emit e) := by
  refine p.trans ⟨[e],rfl,by simp [scan,he],fun r hr => ?_,fun r _ => ?_⟩
  · exact absurd (List.mem_singleton.mp hr).symm (hw r)
  · cases r <;> rfl

theorem lock (p : Path W held s false s') : Path W held s true (s'.emit .lock) :=
  p.emit .lock rfl (fun _ => nofun)

theorem unlock (p : Path W held s true s') : Path W held s false (s'.emit .unlock) :=
  p.emit .unlock rfl (fun _ => nofun)

theorem call (p : Path W held s false s') (e : Event) (he : e.action = .call) :
    Path W held s false (s'.emit e) := by
  refine p.emit e (by rw [he]; rfl) ?_
  rintro r rfl
  cases he

theorem write (p : Path W held s true s') (r : Region) (hr : r ∈ W)
    (h : ∀ r', r' ≠ r → SameRegion s' s'' r') (htrace : s''.trace = s'.trace ++ [.write r]) :
    Path W held s true s'' := by
  refine p.trans ⟨[.write r],htrace,rfl,fun r' hr' => ?_,fun r' hr' => h r' ?_⟩
  · cases List.mem_singleton.mp hr'
    exact hr
  · rintro rfl
    simp at hr'

theorem modify (p : Path W held s true s') (r : Region) (d : DataModel) (hr : r ∈ W)
    (h : OnlyRegion s'.data d r) : Path W held s true (s'.modify r d) := by
  refine p.write r hr (fun r' hr' => ?_) rfl
  cases r <;> cases r' <;> first
    | rfl
    | exact absurd rfl hr'
    | simp only [OnlyRegion] at h; rw [h]; rfl

theorem readSection (W : Set Region) (s : Server) :
    Path W false s false ((s.emit .lock).emit .unlock) :=
  (refl W false s).lock.unlock

theorem writeSection (s : Server) (r : Region) (d : DataModel) (hr : r ∈ W)
    (h : OnlyRegion s.data d r) :
    Path W false s false (((s.emit .lock).modify r d).emit .unlock) :=
  ((refl W false s).lock.modify r d hr h).unlock

theorem same (p : Path W held s held' s') {r : Region} (hr : r ∉ W) : SameRegion s s' r := by
  obtain ⟨events,-,-,hregion,hsame⟩ := p
  exact hsame r fun h => hr (hregion r h)

theorem mono {W' : Set Region} (p : Path W held s held' s') (h : W ⊆ W') :
    Path W' held s held' s' := by
  obtain ⟨events,htrace,hscan,hregion,hsame⟩ := p
  exact ⟨events,htrace,hscan,fun r hr => h (hregion r hr),hsame⟩

end Path

def requestRegions : Set Region := {.coils,.holdingRegisters,.fileRecords}

theorem coils_mem_requestRegions : Region.coils ∈ requestRegions := .inl rfl

theorem holdingRegisters_mem_requestRegions : Region.holdingRegisters ∈ requestRegions :=
  .inr (.inl rfl)

theorem fileRecords_mem_requestRegions : Region.fileRecords ∈ requestRegions := .inr (.inr rfl)

/-- Everything but the serial-only server identification. -/
def modbusRegions : Set Region := {r | r ≠ .serverIdTable}

theorem requestRegions_subset : requestRegions ⊆ modbusRegions := by
  rintro r (rfl | rfl | rfl) <;> exact nofun

section Interface
variable (cfg : Platform) (s : Server)

theorem mbInit_path : Path modbusRegions false s false (mbInit s) := by
  unfold mbInit
  refine Path.unlock ?_
  refine Path.modify ?_ .meiTable _ nofun (by rfl)
  refine Path.modify ?_ .fifoTable _ nofun (by rfl)
  refine Path.modify ?_ .fileTable _ nofun (by rfl)
  refine Path.modify ?_ .deviceIdTable _ nofun (by rfl)
  refine Path.modify ?_ .inputRegisters _ nofun (by rfl)
  refine Path.modify ?_ .holdingRegisters _ nofun (by rfl)
  refine Path.modify ?_ .discreteInputs _ nofun (by rfl)
  refine Path.modify ?_ .coils _ nofun (by rfl)
  exact (Path.refl modbusRegions false s).lock

theorem mbSetCoil_path (address : Word) (value : Byte) :
    Path requestRegions false s false (mbSetCoil cfg s address value) := by
  simp only [mbSetCoil]
  split
  · exact .refl requestRegions false s
  · exact (Path.writeSection s .coils _ coils_mem_requestRegions (by rfl)).call _ (by rfl)

theorem mbSetDinput_path (address : Word) (value : Byte) :
    Path modbusRegions false s false (mbSetDinput cfg s address value) := by
  simp only [mbSetDinput]
  split
  · exact .refl modbusRegions false s
  · exact .writeSection s .discreteInputs _ nofun (by rfl)

theorem mbSetHreg_path (address value : Word) :
    Path requestRegions false s false (mbSetHreg cfg s address value) := by
  simp only [mbSetHreg]
  split
  · exact .refl requestRegions false s
  · exact (Path.writeSection s .holdingRegisters _ holdingRegisters_mem_requestRegions
      (by rfl)).call _ (by rfl)

theorem mbMaskWriteHreg_path (address andMask orMask : Word) :
    Path requestRegions false s false (mbMaskWriteHreg cfg s address andMask orMask).2 := by
  simp only [mbMaskWriteHreg]
  split
  · exact .refl requestRegions false s
  · exact (Path.writeSection s .holdingRegisters _ holdingRegisters_mem_requestRegions
      (by rfl)).call _ (by rfl)

theorem mbSetIreg_path (address value : Word) :
    Path modbusRegions false s false (mbSetIreg cfg s address value) := by
  simp only [mbSetIreg]
  split
  · exact .refl modbusRegions false s
  · exact .writeSection s .inputRegisters _ nofun (by rfl)

theorem mbDeviceIdConfigure_path (level : Byte) (objects : Option (Mem DeviceIdObject))
    (n : Nat) : Path modbusRegions false s false (mbDeviceIdConfigure cfg s level objects n).2 := by
  simp only [mbDeviceIdConfigure]
  repeat' split
  all_goals first
    | exact .refl modbusRegions false s
    | exact .writeSection s .deviceIdTable _ nofun (by rfl)

theorem mbDeviceIdClear_path : Path modbusRegions false s false (mbDeviceIdClear s) :=
  .writeSection s .deviceIdTable _ nofun (by rfl)

theorem mbDeviceIdProcessRequest_path (code objectId : Byte) (capacity : Nat) :
    Path requestRegions false s false (mbDeviceIdProcessRequest s code objectId capacity).2 := by
  simp only [mbDeviceIdProcessRequest]
  repeat' split
  all_goals first
    | exact .refl requestRegions false s
    | exact .readSection requestRegions s

theorem mbFileRecordConfigure_path (files : Option (Mem FileRecordFile)) (n : Nat) :
    Path modbusRegions false s false (mbFileRecordConfigure s files n).2 := by
  simp only [mbFileRecordConfigure]
  repeat' split
  all_goals first
    | exact .refl modbusRegions false s
    | exact .writeSection s .fileTable _ nofun (by rfl)

theorem mbFileRecordClear_path : Path modbusRegions false s false (mbFileRecordClear s) :=
  .writeSection s .fileTable _ nofun (by rfl)

theorem mbFileRecordProcessReadRequest_path (pdu : Mem Byte) (len capacity : Nat) :
    Path requestRegions false s false (mbFileRecordProcessReadRequest s pdu len capacity).2 := by
  simp only [mbFileRecordProcessReadRequest]
  repeat' split
  all_goals first
    | exact .refl requestRegions false s
    | exact .readSection requestRegions s

theorem writeRecords_path (base : Nat) (pdu : Mem Byte) (dataOffset n i : Nat) (s : Server) :
    Path requestRegions true s true (writeRecords base pdu dataOffset n i s) := by
  induction n generalizing i s with
  | zero => exact .refl requestRegions true s
  | succ n ih =>
    refine Path.trans ?_ (ih (i+1) _)
    exact (Path.refl requestRegions true s).modify .fileRecords _ fileRecords_mem_requestRegions
      (by rfl)

theorem applyWriteSubrequests_path (pdu : Mem Byte) (len fuel offset : Nat) (s : Server) :
    Path requestRegions true s true (applyWriteSubrequests pdu len fuel offset s) := by
  induction fuel generalizing offset s with
  | zero => exact .refl requestRegions true s
  | succ fuel ih =>
    simp only [applyWriteSubrequests]
    split
    · refine Path.trans ?_ (ih _ _)
      split
      · exact writeRecords_path _ pdu _ _ _ s
      · exact .refl requestRegions true s
    · exact .refl requestRegions true s

theorem mbFileRecordProcessWriteRequest_path (pdu : Mem Byte) (len capacity : Nat) :
    Path requestRegions false s false (mbFileRecordProcessWriteRequest s pdu len capacity).2 := by
  simp only [mbFileRecordProcessWriteRequest]
  repeat' split
  all_goals first
    | exact .refl requestRegions false s
    | exact .readSection requestRegions s
    | exact ((Path.refl requestRegions false s).lock.trans
        (applyWriteSubrequests_path pdu len len 2 _)).unlock

theorem mbFifoConfigure_path (queues : Option (Mem FifoQueue)) (n : Nat) :
    Path modbusRegions false s false (mbFifoConfigure s queues n).2 := by
  simp only [mbFifoConfigure]
  repeat' split
  all_goals first
    | exact .refl modbusRegions false s
    | exact .writeSection s .fifoTable _ nofun (by rfl)

theorem mbFifoClear_path : Path modbusRegions false s false (mbFifoClear s) :=
  .writeSection s .fifoTable _ nofun (by rfl)

theorem mbFifoProcessReadRequest_path (pdu : Mem Byte) (len capacity : Nat) :
    Path requestRegions false s false (mbFifoProcessReadRequest s pdu len capacity).2 := by
  simp only [mbFifoProcessReadRequest]
  repeat' split
  all_goals first
    | exact .refl requestRegions false s
    | exact .readSection requestRegions s

theorem mbMeiRegisterHandler_path (meiType : Byte) (handler : Option MeiHandlerFn)
    (context : Nat) :
    Path modbusRegions false s false (mbMeiRegisterHandler cfg s meiType handler context).2 := by
  simp only [mbMeiRegisterHandler]
  repeat' split
  all_goals first
    | exact .refl modbusRegions false s
    | exact .readSection modbusRegions s
    | exact .writeSection s .meiTable _ nofun (by rfl)

theorem mbMeiUnregisterHandler_path (meiType : Byte) :
    Path modbusRegions false s false (mbMeiUnregisterHandler cfg s meiType).2 := by
  simp only [mbMeiUnregisterHandler]
  repeat' split
  all_goals first
    | exact .refl modbusRegions false s
    | exact .readSection modbusRegions s
    | exact .writeSection s .meiTable _ nofun (by rfl)

theorem mbMeiClearHandlers_path : Path modbusRegions false s false (mbMeiClearHandlers s) :=
  .writeSection s .meiTable _ nofun (by rfl)

theorem mbMeiIsRegistered_path (meiType : Byte) :
    Path modbusRegions false s false (mbMeiIsRegistered cfg s meiType).2 := by
  simp only [mbMeiIsRegistered]
  split
  · exact .refl modbusRegions false s
  · exact .readSection modbusRegions s

/-- The handler is called after the lookup has released the lock. -/
theorem mbMeiProcessRequest_path (pdu : Mem Byte) (len capacity : Nat) :
    Path requestRegions false s false (mbMeiProcessRequest cfg s pdu len capacity).2 := by
  simp only [mbMeiProcessRequest]
  repeat' split
  all_goals first
    | exact .refl requestRegions false s
    | exact .readSection requestRegions s
    | exact mbDeviceIdProcessRequest_path s _ _ capacity
    | exact (Path.readSection requestRegions s).call _ rfl

theorem serverIdSection_path (st : ServerIdState) :
    Path {.serverIdTable} false s false
      (Server.emit { s.emit .lock with
        serverId := st, trace := (s.emit .lock).trace ++ [Event.write .serverIdTable] } .unlock) := by
  have hsame : ∀ r, r ≠ .serverIdTable → SameRegion (s.emit .lock) { s.emit .lock with
      serverId := st, trace := (s.emit .lock).trace ++ [Event.write .serverIdTable] } r := by
    intro r hr
    cases r <;> first | rfl | exact absurd rfl hr
  exact ((Path.refl {.serverIdTable} false s).lock.write .serverIdTable rfl hsame rfl).unlock

theorem mbrtuServerIdConfigure_path (serverId : Option (Mem Byte)) (n : Nat) (runStatus : Byte)
    (additionalData : Option (Mem Byte)) (m : Nat) :
    Path {.serverIdTable} false s false
      (mbrtuServerIdConfigure s serverId n runStatus additionalData m).2 := by
  simp only [mbrtuServerIdConfigure]
  repeat' split
  all_goals first
    | exact .refl {.serverIdTable} false s
    | exact serverIdSection_path s _

theorem mbrtuServerIdClear_path : Path {.serverIdTable} false s false (mbrtuServerIdClear s) :=
  serverIdSection_path s .cleared

theorem mbrtuServerIdProcessPdu_path (pdu : Mem Byte) (len capacity : Nat) :
    Path requestRegions false s false (mbrtuServerIdProcessPdu s pdu len capacity).2 := by
  simp only [mbrtuServerIdProcessPdu]
  repeat' split
  all_goals first
    | exact .refl requestRegions false s
    | exact .readSection requestRegions s

end Interface

section Requests
variable (cfg : Platform) (pdu : Mem Byte) (len capacity : Nat)

theorem setCoils_path (address : Word) (bit : Nat → Byte) (n i : Nat) (s : Server) :
    Path requestRegions false s false (setCoils cfg address bit n i s) := by
  induction n generalizing i s with
  | zero => exact .refl requestRegions false s
  | succ n ih => exact (mbSetCoil_path cfg s _ _).trans (ih (i+1) _)

theorem setHregs_path (address : Word) (value : Nat → Word) (n i : Nat) (s : Server) :
    Path requestRegions false s false (setHregs cfg address value n i s) := by
  induction n generalizing i s with
  | zero => exact .refl requestRegions false s
  | succ n ih => exact (mbSetHreg_path cfg s _ _).trans (ih (i+1) _)

variable (s : Server)

theorem readBits_path (function : Byte) (limit : Nat) (get : DataModel → Word → Byte) :
    Path requestRegions false s false (readBits s function limit get pdu len capacity).2 := by
  simp only [readBits]
  repeat' split
  all_goals exact .refl requestRegions false s

theorem readRegisters_path (function : Byte) (limit : Nat) (get : DataModel → Word → Word) :
    Path requestRegions false s false (readRegisters s function limit get pdu len capacity).2 := by
  simp only [readRegisters]
  repeat' split
  all_goals exact .refl requestRegions false s

theorem writeSingleCoil_path :
    Path requestRegions false s false (writeSingleCoil cfg s pdu len capacity).2 := by
  simp only [writeSingleCoil]
  repeat' split
  all_goals first
    | exact .refl requestRegions false s
    | exact mbSetCoil_path cfg s _ _

theorem writeSingleRegister_path :
    Path requestRegions false s false (writeSingleRegister cfg s pdu len capacity).2 := by
  simp only [writeSingleRegister]
  repeat' split
  all_goals first
    | exact .refl requestRegions false s
    | exact mbSetHreg_path cfg s _ _

theorem writeMultipleCoils_path :
    Path requestRegions false s false (writeMultipleCoils cfg s pdu len capacity).2 := by
  simp only [writeMultipleCoils]
  repeat' split
  all_goals first
    | exact .refl requestRegions false s
    | exact setCoils_path cfg _ _ _ _ s

theorem writeMultipleRegisters_path :
    Path requestRegions false s false (writeMultipleRegisters cfg s pdu len capacity).2 := by
  simp only [writeMultipleRegisters]
  repeat' split
  all_goals first
    | exact .refl requestRegions false s
    | exact setHregs_path cfg _ _ _ _ s

theorem maskWriteRegister_path :
    Path requestRegions false s false (maskWriteRegister cfg s pdu len capacity).2 := by
  simp only [maskWriteRegister]
  repeat' split
  all_goals first
    | exact .refl requestRegions false s
    | exact mbMaskWriteHreg_path cfg s _ _ _

theorem readWriteMultipleRegisters_path :
    Path requestRegions false s false (readWriteMultipleRegisters cfg s pdu len capacity).2 := by
  simp only [readWriteMultipleRegisters]
  repeat' split
  all_goals first
    | exact .refl requestRegions false s
    | exact setHregs_path cfg _ _ _ _ s

theorem processPduFunction_path :
    Path requestRegions false s false (processPduFunction cfg s pdu len capacity).2 := by
  unfold processPduFunction
  split
  · exact .refl requestRegions false s
  split
  · exact readBits_path pdu len capacity s _ _ _
  · exact readBits_path pdu len capacity s _ _ _
  · exact readRegisters_path pdu len capacity s _ _ _
  · exact readRegisters_path pdu len capacity s _ _ _
  · exact writeSingleCoil_path cfg pdu len capacity s
  · exact writeSingleRegister_path cfg pdu len capacity s
  · exact writeMultipleCoils_path cfg pdu len capacity s
  · exact writeMultipleRegisters_path cfg pdu len capacity s
  · exact mbFileRecordProcessReadRequest_path s pdu len capacity
  · exact mbFileRecordProcessWriteRequest_path s pdu len capacity
  · exact maskWriteRegister_path cfg pdu len capacity s
  · exact readWriteMultipleRegisters_path cfg pdu len capacity s
  · exact mbFifoProcessReadRequest_path s pdu len capacity
  · exact mbMeiProcessRequest_path cfg s pdu len capacity
  · exact .refl requestRegions false s

theorem mbProcessPdu_path :
    Path requestRegions false s false (mbProcessPdu cfg s pdu len capacity).2 := by
  have h := processPduFunction_path cfg pdu len capacity s
  unfold mbProcessPdu
  split
  · exact .refl requestRegions false s
  split
  · exact .refl requestRegions false s
  split
  · rename_i heq
    rwa [heq] at h
  · rename_i heq
    rwa [heq] at h

end Requests

inductive ApiCall where
  | init
  | setCoil (address : Word) (value : Byte)
  | setDinput (address : Word) (value : Byte)
  | setHreg (address value : Word)
  | maskWriteHreg (address andMask orMask : Word)
  | setIreg (address value : Word)
  | deviceIdConfigure (level : Byte) (objects : Option (Mem DeviceIdObject)) (n : Nat)
  | deviceIdClear
  | deviceIdIsConfigured
  | deviceIdProcessRequest (code objectId : Byte) (capacity : Nat)
  | fileRecordConfigure (files : Option (Mem FileRecordFile)) (n : Nat)
  | fileRecordClear
  | fileRecordIsConfigured
  | fileRecordProcessReadRequest (pdu : Mem Byte) (len capacity : Nat)
  | fileRecordProcessWriteRequest (pdu : Mem Byte) (len capacity : Nat)
  | fifoConfigure (queues : Option (Mem FifoQueue)) (n : Nat)
  | fifoClear
  | fifoIsConfigured
  | fifoProcessReadRequest (pdu : Mem Byte) (len capacity : Nat)
  | meiRegisterHandler (meiType : Byte) (handler : Option MeiHandlerFn) (context : Nat)
  | meiUnregisterHandler (meiType : Byte)
  | meiClearHandlers
  | meiIsRegistered (meiType : Byte)
  | meiProcessRequest (pdu : Mem Byte) (len capacity : Nat)
  | serverIdConfigure (serverId : Option (Mem Byte)) (n : Nat) (runStatus : Byte)
      (additionalData : Option (Mem Byte)) (m : Nat)
  | serverIdClear
  | serverIdIsConfigured
  | serverIdProcessPdu (pdu : Mem Byte) (len capacity : Nat)
  | processPdu (pdu : Mem Byte) (len capacity : Nat)

/-- The state that a call leaves behind; its result does not matter here. -/
def apiStep (cfg : Platform) (s : Server) : ApiCall → Unit × Server
  | .init => ((),mbInit s)
  | .setCoil address value => ((),mbSetCoil cfg s address value)
  | .setDinput address value => ((),mbSetDinput cfg s address value)
  | .setHreg address value => ((),mbSetHreg cfg s address value)
  | .maskWriteHreg address andMask orMask =>
    ((),(mbMaskWriteHreg cfg s address andMask orMask).2)
  | .setIreg address value => ((),mbSetIreg cfg s address value)
  | .deviceIdConfigure level objects n => ((),(mbDeviceIdConfigure cfg s level objects n).2)
  | .deviceIdClear => ((),mbDeviceIdClear s)
  | .deviceIdIsConfigured => ((),(mbDeviceIdIsConfigured s).2)
  | .deviceIdProcessRequest code objectId capacity =>
    ((),(mbDeviceIdProcessRequest s code objectId capacity).2)
  | .fileRecordConfigure files n => ((),(mbFileRecordConfigure s files n).2)
  | .fileRecordClear => ((),mbFileRecordClear s)
  | .fileRecordIsConfigured => ((),(mbFileRecordIsConfigured s).2)
  | .fileRecordProcessReadRequest pdu len capacity =>
    ((),(mbFileRecordProcessReadRequest s pdu len capacity).2)
  | .fileRecordProcessWriteRequest pdu len capacity =>
    ((),(mbFileRecordProcessWriteRequest s pdu len capacity).2)
  | .fifoConfigure queues n => ((),(mbFifoConfigure s queues n).2)
  | .fifoClear => ((),mbFifoClear s)
  | .fifoIsConfigured => ((),(mbFifoIsConfigured s).2)
  | .fifoProcessReadRequest pdu len capacity =>
    ((),(mbFifoProcessReadRequest s pdu len capacity).2)
  | .meiRegisterHandler meiType handler context =>
    ((),(mbMeiRegisterHandler cfg s meiType handler context).2)
  | .meiUnregisterHandler meiType => ((),(mbMeiUnregisterHandler cfg s meiType).2)
  | .meiClearHandlers => ((),mbMeiClearHandlers s)
  | .meiIsRegistered meiType => ((),(mbMeiIsRegistered cfg s meiType).2)
  | .meiProcessRequest pdu len capacity => ((),(mbMeiProcessRequest cfg s pdu len capacity).2)
  | .serverIdConfigure serverId n runStatus additionalData m =>
    ((),(mbrtuServerIdConfigure s serverId n runStatus additionalData m).2)
  | .serverIdClear => ((),mbrtuServerIdClear s)
  | .serverIdIsConfigured => ((),(mbrtuServerIdIsConfigured s).2)
  | .serverIdProcessPdu pdu len capacity => ((),(mbrtuServerIdProcessPdu s pdu len capacity).2)
  | .processPdu pdu len capacity => ((),(mbProcessPdu cfg s pdu len capacity).2)

def ApiCall.regions : ApiCall → Set Region
  | .serverIdConfigure .. | .serverIdClear => {.serverIdTable}
  | _ => modbusRegions

theorem apiStep_path (cfg : Platform) (s : Server) (call : ApiCall) :
    Path call.regions false s false (apiStep cfg s call).2 := by
  cases call with
  | init => exact mbInit_path s
  | setCoil address value => exact (mbSetCoil_path cfg s address value).mono requestRegions_subset
  | setDinput address value => exact mbSetDinput_path cfg s address value
  | setHreg address value => exact (mbSetHreg_path cfg s address value).mono requestRegions_subset
  | maskWriteHreg address andMask orMask =>
    exact (mbMaskWriteHreg_path cfg s address andMask orMask).mono requestRegions_subset
  | setIreg address value => exact mbSetIreg_path cfg s address value
  | deviceIdConfigure level objects n => exact mbDeviceIdConfigure_path cfg s level objects n
  | deviceIdClear => exact mbDeviceIdClear_path s
  | deviceIdProcessRequest code objectId capacity =>
    exact (mbDeviceIdProcessRequest_path s code objectId capacity).mono requestRegions_subset
  | fileRecordConfigure files n => exact mbFileRecordConfigure_path s files n
  | fileRecordClear => exact mbFileRecordClear_path s
  | fileRecordProcessReadRequest pdu len capacity =>
    exact (mbFileRecordProcessReadRequest_path s pdu len capacity).mono requestRegions_subset
  | fileRecordProcessWriteRequest pdu len capacity =>
    exact (mbFileRecordProcessWriteRequest_path s pdu len capacity).mono requestRegions_subset
  | fifoConfigure queues n => exact mbFifoConfigure_path s queues n
  | fifoClear => exact mbFifoClear_path s
  | fifoProcessReadRequest pdu len capacity =>
    exact (mbFifoProcessReadRequest_path s pdu len capacity).mono requestRegions_subset
  | meiRegisterHandler meiType handler context =>
    exact mbMeiRegisterHandler_path cfg s meiType handler context
  | meiUnregisterHandler meiType => exact mbMeiUnregisterHandler_path cfg s meiType
  | meiClearHandlers => exact mbMeiClearHandlers_path s
  | meiIsRegistered meiType => exact mbMeiIsRegistered_path cfg s meiType
  | meiProcessRequest pdu len capacity =>
    exact (mbMeiProcessRequest_path cfg s pdu len capacity).mono requestRegions_subset
  | serverIdConfigure serverId n runStatus additionalData m =>
    exact mbrtuServerIdConfigure_path s serverId n runStatus additionalData m
  | serverIdClear => exact mbrtuServerIdClear_path s
  | serverIdProcessPdu pdu len capacity =>
    exact (mbrtuServerIdProcessPdu_path s pdu len capacity).mono requestRegions_subset
  | processPdu pdu len capacity =>
    exact (mbProcessPdu_path cfg pdu len capacity s).mono requestRegions_subset
  | deviceIdIsConfigured | fileRecordIsConfigured | fifoIsConfigured | serverIdIsConfigured =>
    exact .readSection modbusRegions s

theorem apiRun_path (cfg : Platform) (s : Server) (calls : List ApiCall) :
    Path .univ false s false (run (apiStep cfg) s calls) :=
  run_invariant (fun s' => Path .univ false s false s')
    (fun _ call p => p.trans ((apiStep_path cfg _ call).mono (Set.subset_univ _)))
    (.refl .univ false s) calls

structure LockDiscipline (s s' : Server) (events : List Event) : Prop where
  trace : s'.trace = s.trace ++ events
  sections : Sections (events.map Event.action)
  writes : ∀ r, Event.write r ∉ events → SameRegion s s' r

theorem Path.discipline {W : Set Region} {s s' : Server} (p : Path W false s false s') :
    ∃ events, LockDiscipline s s' events := by
  obtain ⟨events,htrace,hscan,-,hsame⟩ := p
  exact ⟨events,htrace,sections_of_scan false _ hscan,hsame⟩

/-- From every state, every sequence of interface calls and every single call in it leaves a
trace of non-nested lock/unlock pairs that ends unlocked, with each write of shared state
inside a pair and each call of application code outside. -/
theorem serverInterface_lockDiscipline (cfg : Platform) (s : Server) (calls : List ApiCall) :
    (∃ events, LockDiscipline s (run (apiStep cfg) s calls) events) ∧
    ∀ r ∈ records (apiStep cfg) s calls, ∃ events, LockDiscipline r.before r.after events := by
  refine ⟨(apiRun_path cfg s calls).discipline,fun r hr => ?_⟩
  obtain ⟨_,_,_,_,hstep⟩ := mem_records hr
  have h := apiStep_path cfg r.before r.input
  rw [← hstep] at h
  exact h.discipline

end ModbusStack
