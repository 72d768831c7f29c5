import ModbusStack.LockDiscipline
import ModbusStack.RtuOutcome
import ModbusStack.RtuReceiver

/-! The slave as a machine: frames, frames that the receiver has dropped, and calls of the
application, in any order. -/
set_option autoImplicit false

namespace ModbusStack
open ByteMemory Machine

/-- A frame that the receiver has spoilt: an invalid gap, or more bytes than fit. -/
structure DroppedFrame where
  request : Mem Byte
  len : Nat
  overflow : Bool
  nonempty : 0 < len

inductive DiagnosticsCall where
  | setExceptionStatus (status : Byte)
  | setRegister (value : Word)
  | setCommunicationStatus (status : Word)
  | takePendingActions

def DiagnosticsCall.apply (d : Diagnostics) : DiagnosticsCall → Diagnostics
  | .setExceptionStatus status => d.setExceptionStatus status
  | .setRegister value => d.setRegister value
  | .setCommunicationStatus status => d.setCommunicationStatus status
  | .takePendingActions => d.takePendingActions.2

inductive SlaveInput where
  | frame (f : RtuFrame)
  | dropped (f : DroppedFrame)
  | call (c : ApiCall)
  | diagnosticsCall (c : DiagnosticsCall)

def Slave.noteDropped (s : Slave) (slaveAddress : Byte) (f : DroppedFrame) : Slave :=
  s.note fun d =>
    if f.overflow then
      d.noteCharacterOverrun (isBroadcast (f.request 0)) (decide (f.request 0 = slaveAddress))
    else d.noteCommunicationError (isBroadcast (f.request 0)) false

def slaveStep (cfg : Platform) (slaveAddress : Byte) (s : Slave) : SlaveInput → RtuResult × Slave
  | .frame f => rtuStep cfg slaveAddress s f
  | .dropped f => (.noResponse,s.noteDropped slaveAddress f)
  | .call c => (.noResponse,s.served (apiStep cfg s.server c).2)
  | .diagnosticsCall c => (.noResponse,s.note fun d => c.apply d)

abbrev SlaveRecord := Record Slave SlaveInput RtuResult

/-- The main loop hands a pending frame over as one of the first two inputs. -/
theorem mbrtuPoll_slaveStep (cfg : Platform) (ctx : RtuContext) (s : Slave) (transmitResult : Int)
    (hi : ctx.initialized ≠ 0#8) (hp : ctx.pendingReady ≠ 0#8) (hlen : 0 < ctx.pendingLength) :
    (mbrtuPoll cfg ctx s transmitResult).2.2 = (slaveStep cfg ctx.slaveAddress s
      (if ctx.pendingInvalidGap ≠ 0#8 ∨ ctx.pendingOverflow ≠ 0#8 then
        .dropped ⟨ctx.receiveBuffers ctx.pendingBufferIndex.toNat,ctx.pendingLength,
          decide (ctx.pendingOverflow ≠ 0#8),hlen⟩
      else .frame ⟨ctx.receiveBuffers ctx.pendingBufferIndex.toNat,ctx.pendingLength,
        ctx.diagnosticsPolicy,ctx.responseBufferCapacity⟩)).2 := by
  simp only [mbrtuPoll,hi,hp,if_false]
  by_cases hd : ctx.pendingInvalidGap ≠ 0#8 ∨ ctx.pendingOverflow ≠ 0#8
  · simp only [hd,if_true,slaveStep,Slave.noteDropped,hlen,true_and,isBroadcast,decide_eq_true_eq]
  · simp only [hd,if_false,slaveStep,rtuStep]
    generalize mbrtuProcessAduWithDiagnostics cfg s _ _ _ _ _ = out
    obtain ⟨result,s'⟩ := out
    cases result with
    | responseReady _ =>
      simp only
      split <;> rfl
    | _ => rfl

/-! Two bounds that every run keeps: the event log has at most 64 events, and the server
identification at most 251 bytes. -/

def Diagnostics.LogBounded (d : Diagnostics) : Prop := d.eventLogCount.toNat ≤ eventLogCapacity

namespace Diagnostics

theorem LogBounded.pushEvent {d : Diagnostics} (h : d.LogBounded) (event : Byte) :
    (d.pushEvent event).LogBounded := by
  simp only [LogBounded,Diagnostics.pushEvent,eventLogCapacity] at h ⊢
  split
  · rename_i hlt
    rw [BitVec.toNat_add_of_lt (by simp; omega)]
    simp
    omega
  · exact h

variable {d : Diagnostics} (h : d.LogBounded)
include h

theorem LogBounded.noteBusMessage (broadcast : Bool) : (d.noteBusMessage broadcast).LogBounded := by
  have h' : { d with messageCount := incrementSaturating d.messageCount }.LogBounded := h
  exact h'.pushEvent _

theorem LogBounded.noteServerMessage : d.noteServerMessage.LogBounded := h

theorem LogBounded.noteNormalCompletion (noResponse exclude : Bool) :
    (d.noteNormalCompletion noResponse exclude).LogBounded := by
  apply LogBounded.pushEvent
  cases noResponse <;> cases exclude <;> exact h

theorem LogBounded.noteException (code : Byte) : (d.noteException code).LogBounded := by
  apply LogBounded.pushEvent
  dsimp only
  repeat' split
  all_goals exact h

theorem LogBounded.noteCommunicationError (broadcast overrun : Bool) :
    (d.noteCommunicationError broadcast overrun).LogBounded := by
  apply LogBounded.pushEvent
  cases overrun <;> exact h

theorem LogBounded.noteCharacterOverrun (broadcast addressed : Bool) :
    (d.noteCharacterOverrun broadcast addressed).LogBounded := by
  apply LogBounded.pushEvent
  cases addressed <;> exact h

theorem LogBounded.perform (action : DiagnosticsAction) (broadcast : Bool) (data : Word) :
    (action.perform broadcast data d).LogBounded := by
  cases action with
  | restartCommunications =>
    apply LogBounded.pushEvent
    dsimp only
    split
    · exact Nat.zero_le _
    · exact h
  | forceListenOnly =>
    have h' : { d with listenOnly := 1 }.LogBounded := h
    apply LogBounded.pushEvent
    exact h'.noteNormalCompletion (!broadcast) false
  | clearCountersAndRegister =>
    have h' : { d.clearCounters with diagnosticRegister := 0 }.LogBounded := h
    exact h'.noteNormalCompletion _ _
  | clearOverrunCounter =>
    have h' : { d with busCharacterOverrunCount := 0 }.LogBounded := h
    cases broadcast with
    | true => exact h'.noteNormalCompletion _ _
    | false => exact h'

end Diagnostics

theorem DiagnosticsOutcome.logBounded {policy : DiagnosticsPolicy} {d : Diagnostics} {address : Byte}
    {pdu : Mem Byte} {len capacity : Nat} {out : DiagnosticsStep}
    (h : DiagnosticsOutcome policy d address pdu len capacity out) (hd : d.LogBounded) :
    out.2.1.LogBounded := by
  cases h with
  | notHandled _ => exact hd
  | unheard _ _ _ => exact hd
  | ignored _ _ _ => exact hd.noteNormalCompletion _ _
  | unanswered _ _ _ _ => exact hd.noteNormalCompletion _ _
  | refused _ _ _ _ _ => exact hd
  | returned _ _ _ _ _ _ _ _ => exact hd
  | approved action data _ _ _ =>
    simp only [approvedStep]
    repeat' split
    all_goals first
      | exact hd
      | exact hd.perform action _ data

structure Slave.Sound (s : Slave) : Prop where
  serverId : s.server.serverId.byteCount ≤ 251
  eventLog : ∀ d, s.diagnostics = some d → d.LogBounded

namespace Slave.Sound
variable {s : Slave}

theorem note (h : s.Sound) (f : Diagnostics → Diagnostics)
    (hf : ∀ d, d.LogBounded → (f d).LogBounded) : (s.note f).Sound := by
  refine ⟨h.serverId,fun d hd => ?_⟩
  simp only [Slave.note,Option.map_eq_some_iff] at hd
  obtain ⟨d₀,h₀,rfl⟩ := hd
  exact hf d₀ (h.eventLog d₀ h₀)

theorem heard (h : s.Sound) (f : RtuFrame) : (s.heard f).Sound :=
  (h.note _ fun _ hd => hd.noteBusMessage _).note _ fun _ hd => hd.noteServerMessage

theorem diagnosed (h : s.Sound) {d : Diagnostics} (hd : d.LogBounded)
    (calls : List (DiagnosticsAction × Word)) : (s.diagnosed d calls).Sound := by
  refine ⟨h.serverId,fun d' hd' => ?_⟩
  cases hd'
  exact hd

theorem served (h : s.Sound) {server : Server} (hs : server.serverId.byteCount ≤ 251) :
    (s.served server).Sound := ⟨hs,h.eventLog⟩

theorem noteResponse (h : s.Sound) (response : List Byte) (normal : Diagnostics → Diagnostics)
    (hn : ∀ d, d.LogBounded → (normal d).LogBounded) : (s.noteResponse response normal).Sound := by
  apply h.note
  intro d hd
  split
  · exact hd.noteException _
  · exact hn d hd

end Slave.Sound

theorem mbProcessPdu_serverId (cfg : Platform) (s : Server) (pdu : Mem Byte) (len capacity : Nat) :
    (mbProcessPdu cfg s pdu len capacity).2.serverId = s.serverId :=
  (mbProcessPdu_path cfg pdu len capacity s).same (r := .serverIdTable)
    fun h => requestRegions_subset h rfl

theorem mbrtuServerIdProcessPdu_serverId (s : Server) (pdu : Mem Byte) (len capacity : Nat) :
    (mbrtuServerIdProcessPdu s pdu len capacity).2.serverId = s.serverId :=
  (mbrtuServerIdProcessPdu_path s pdu len capacity).same (r := .serverIdTable)
    fun h => requestRegions_subset h rfl

theorem apiStep_serverId (cfg : Platform) (s : Server) (c : ApiCall)
    (h : s.serverId.byteCount ≤ 251) : (apiStep cfg s c).2.serverId.byteCount ≤ 251 := by
  have hsame : c.regions = modbusRegions → (apiStep cfg s c).2.serverId = s.serverId := by
    intro hr
    have p := apiStep_path cfg s c
    rw [hr] at p
    exact p.same (r := .serverIdTable) fun h => h rfl
  cases c with
  | serverIdConfigure serverId n runStatus additionalData m =>
    simp only [apiStep,mbrtuServerIdConfigure]
    repeat' split
    all_goals first
      | exact h
      | simp only [Server.emit_serverId]
        omega
  | serverIdClear => exact Nat.zero_le _
  | _ =>
    rw [hsame rfl]
    exact h

theorem rtuStep_sound (cfg : Platform) (slaveAddress : Byte) (s : Slave) (f : RtuFrame)
    (h : s.Sound) : (rtuStep cfg slaveAddress s f).2.Sound := by
  have ho := rtuStep_outcome cfg slaveAddress s f
  generalize rtuStep cfg slaveAddress s f = out at ho
  have hheard := h.heard f
  cases ho with
  | badSlaveAddress _ => exact h
  | empty _ => exact h
  | damaged _ _ => exact h.note _ fun _ hd => hd.noteCommunicationError _ _
  | foreign _ _ => exact h.note _ fun _ hd => hd.noteBusMessage _
  | unheard _ _ _ => exact hheard.note _ fun _ hd => hd.noteNormalCompletion _ _
  | diagnosedSilently d d' calls _ hd =>
    exact hheard.diagnosed (hd.2.2.logBounded (hheard.eventLog d hd.1)) calls
  | diagnosticsFailed d d' calls _ hd =>
    exact hheard.diagnosed (hd.2.2.logBounded (hheard.eventLog d hd.1)) calls
  | diagnosticsAnswered d d' calls response _ hd =>
    refine (hheard.diagnosed (hd.2.2.logBounded (hheard.eventLog d hd.1)) calls).noteResponse _ _ ?_
    intro d₀ h₀
    split
    · exact h₀
    · exact h₀.noteNormalCompletion _ _
  | serverIdAnswered response server _ _ _ _ hp _ =>
    have hs := mbrtuServerIdProcessPdu_serverId s.server (f.request.off 1) (f.len-3)
      (pduCapacity f.capacity)
    rw [hp] at hs
    exact (hheard.served (hs ▸ h.serverId)).noteResponse _ _ fun _ hd => hd.noteNormalCompletion _ _
  | serverIdCapacity server _ _ _ _ hp =>
    have hs := mbrtuServerIdProcessPdu_serverId s.server (f.request.off 1) (f.len-3)
      (pduCapacity f.capacity)
    rw [hp] at hs
    exact hheard.served (hs ▸ h.serverId)
  | broadcastIgnored _ _ _ _ => exact hheard.note _ fun _ hd => hd.noteNormalCompletion _ _
  | broadcastWritten response server _ _ _ _ hp =>
    have hs := mbProcessPdu_serverId cfg s.server (f.request.off 1) (f.len-3) modbusPduMaxSize
    rw [hp] at hs
    exact (hheard.served (hs ▸ h.serverId)).note _ fun _ hd => hd.noteNormalCompletion _ _
  | noRoom _ _ _ _ _ => exact hheard
  | answered response server _ _ _ _ _ hp =>
    have hs := mbProcessPdu_serverId cfg s.server (f.request.off 1) (f.len-3) (f.capacity-3)
    rw [hp] at hs
    exact (hheard.served (hs ▸ h.serverId)).noteResponse _ _ fun _ hd => hd.noteNormalCompletion _ _

theorem slaveStep_sound (cfg : Platform) (slaveAddress : Byte) (s : Slave) (x : SlaveInput)
    (h : s.Sound) : (slaveStep cfg slaveAddress s x).2.Sound := by
  cases x with
  | frame f => exact rtuStep_sound cfg slaveAddress s f h
  | dropped f =>
    refine h.note _ fun d hd => ?_
    split
    · exact hd.noteCharacterOverrun _ _
    · exact hd.noteCommunicationError _ _
  | call c => exact h.served (apiStep_serverId cfg s.server c h.serverId)
  | diagnosticsCall c =>
    refine h.note _ fun d hd => ?_
    cases c <;> exact hd

/-- A slave on any data model, with no server identification configured and a fresh
diagnostics object or none. -/
def Slave.initial (data : DataModel) (hasDiagnostics : Bool) : Slave where
  server := ⟨data,.cleared,[]⟩
  diagnostics := if hasDiagnostics then some mbrtuDiagnosticsInit else none
  policyCalls := []

theorem Slave.initial_sound (data : DataModel) (hasDiagnostics : Bool) :
    (Slave.initial data hasDiagnostics).Sound := by
  refine ⟨Nat.zero_le _,fun d hd => ?_⟩
  cases hasDiagnostics with
  | true =>
    cases hd
    exact Nat.zero_le _
  | false => cases hd

theorem slaveRun_sound (cfg : Platform) (slaveAddress : Byte) (data : DataModel)
    (hasDiagnostics : Bool) (inputs : List SlaveInput) :
    (run (slaveStep cfg slaveAddress) (.initial data hasDiagnostics) inputs).Sound :=
  run_invariant Slave.Sound (fun s x h => slaveStep_sound cfg slaveAddress s x h)
    (Slave.initial_sound data hasDiagnostics) inputs

end ModbusStack
