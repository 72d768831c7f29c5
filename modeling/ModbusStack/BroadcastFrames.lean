import ModbusStack.TransportAgreement

/-! Broadcast frames are never answered and write what the same request sent to one slave
writes; damaged and foreign frames do nothing. -/
set_option autoImplicit false

namespace ModbusStack
open ByteMemory

def RtuFrame.pdu (f : RtuFrame) : List Byte := slice f.request 1 (f.len-3)

/-- The same PDU sent to one slave with the full response capacity. -/
def RtuFrame.toUnicast (f : RtuFrame) (slaveAddress : Byte) (policy : DiagnosticsPolicy) : RtuFrame :=
  ⟨ofList (rtuAdu slaveAddress f.pdu),f.len,policy,256⟩

/-- The part of the diagnostics object that only an approved request may change. -/
def Diagnostics.gated (d : Diagnostics) : Byte × Byte × Word :=
  (d.listenOnly,d.pendingActions,d.diagnosticRegister)

section Gated
variable (d : Diagnostics)

@[simp] theorem pushEvent_gated (event : Byte) : (d.pushEvent event).gated = d.gated := rfl

@[simp] theorem noteBusMessage_gated (broadcast : Bool) :
    (d.noteBusMessage broadcast).gated = d.gated := rfl

@[simp] theorem noteServerMessage_gated : d.noteServerMessage.gated = d.gated := rfl

@[simp] theorem noteNormalCompletion_gated (noResponse exclude : Bool) :
    (d.noteNormalCompletion noResponse exclude).gated = d.gated := by
  cases noResponse <;> cases exclude <;> rfl

@[simp] theorem noteException_gated (code : Byte) : (d.noteException code).gated = d.gated := by
  simp only [Diagnostics.noteException,pushEvent_gated]
  repeat' split
  all_goals rfl

@[simp] theorem noteCommunicationError_gated (broadcast overrun : Bool) :
    (d.noteCommunicationError broadcast overrun).gated = d.gated := by
  cases overrun <;> rfl

end Gated

/-- An approved or refused diagnostics request to everyone is neither answered nor failed. -/
theorem DiagnosticsOutcome.broadcast_silent {policy : DiagnosticsPolicy} {d : Diagnostics}
    {address : Byte} {pdu : Mem Byte} {len capacity : Nat} {out : DiagnosticsStep}
    (h : DiagnosticsOutcome policy d address pdu len capacity out)
    (hb : isBroadcast address = true) : out.1 = .noResponse ∨ out.1 = .notHandled := by
  cases h with
  | notHandled _ => exact .inr rfl
  | unheard _ _ _ => exact .inl rfl
  | ignored _ _ _ => exact .inl rfl
  | unanswered _ hb' _ _ => simp [hb] at hb'
  | refused _ _ _ hb' _ => simp [hb] at hb'
  | returned _ _ hb' _ _ _ _ _ => simp [hb] at hb'
  | approved action data _ _ _ =>
    left
    have hans : action.isAnswered true d.isListenOnly = false := by cases action <;> rfl
    simp only [approvedStep,hb,hans,Bool.false_eq_true,if_false]

section Broadcast
variable (cfg : Platform) {slaveAddress : Byte} {s : Slave} {f : RtuFrame}

theorem rtuStep_broadcast (hi : f.isIntact = true) (h0 : f.request 0 = 0#8)
    (hrange : 1 ≤ slaveAddress.toNat ∧ slaveAddress.toNat ≤ 247) :
    (rtuStep cfg slaveAddress s f).1 = .noResponse ∧
    (rtuStep cfg slaveAddress s f).2.server =
      if isSupportedWriteFunction (f.request 1) ∧ s.isListenOnly = false then
        (mbProcessPdu cfg s.server (f.request.off 1) (f.len-3) modbusPduMaxSize).2
      else s.server := by
  have ho := rtuStep_outcome cfg slaveAddress s f
  generalize rtuStep cfg slaveAddress s f = out at ho
  have hb : isBroadcast (f.request 0) = true := by rw [h0]; rfl
  have hdiag : ∀ d out, Diagnoses s f d out → out.1 ≠ .notHandled →
      ¬ (isSupportedWriteFunction (f.request 1) ∧ s.isListenOnly = false) := by
    rintro d out hd hout ⟨hw,-⟩
    have hf : isDiagnosticsFunction (f.request 1) = true := hd.2.2.function hout
    simp only [isDiagnosticsFunction,decide_eq_true_eq] at hf
    rcases hf with h | h | h | h <;> rw [h] at hw <;> cases hw
  cases ho with
  | badSlaveAddress h => omega
  | empty h =>
    simp only [RtuFrame.isIntact,decide_eq_true_eq] at hi
    omega
  | damaged _ hi' => simp [hi] at hi'
  | foreign _ ha => simp [RtuFrame.isAddressed,h0] at ha
  | unheard _ hl _ => exact ⟨rfl,(if_neg (by simp [hl])).symm⟩
  | diagnosedSilently d d' calls _ hd =>
    exact ⟨rfl,(if_neg (hdiag d _ hd (by simp))).symm⟩
  | diagnosticsFailed d d' calls _ hd => rcases hd.2.2.broadcast_silent hb with h | h <;> cases h
  | diagnosticsAnswered d d' calls r _ hd => rcases hd.2.2.broadcast_silent hb with h | h <;> cases h
  | serverIdAnswered _ _ _ _ hb' _ _ _ => simp [hb] at hb'
  | serverIdCapacity _ _ _ hb' _ _ => simp [hb] at hb'
  | broadcastIgnored _ _ _ hw => exact ⟨rfl,(if_neg (by simp [hw])).symm⟩
  | broadcastWritten response server _ ho _ hw hp =>
    refine ⟨rfl,?_⟩
    rw [if_pos ⟨hw,ho.awake⟩,hp]
    rfl
  | noRoom _ _ hb' _ _ => simp [hb] at hb'
  | answered _ _ _ _ hb' _ _ _ => simp [hb] at hb'

theorem rtuStep_toUnicast (hi : f.isIntact = true) (policy : DiagnosticsPolicy)
    (hrange : 1 ≤ slaveAddress.toNat ∧ slaveAddress.toNat ≤ 247)
    (hw : isSupportedWriteFunction (f.request 1) = true) (hawake : s.isListenOnly = false) :
    (rtuStep cfg slaveAddress s (f.toUnicast slaveAddress policy)).2.server =
      (mbProcessPdu cfg s.server (f.request.off 1) (f.len-3) modbusPduMaxSize).2 := by
  have hbounds := RtuFrame.pduLen_bounds hi
  have hlen : f.pdu.length = f.len-3 := by simp [RtuFrame.pdu]
  have hagree : AgreeUpTo (f.len-3) (f.request.off 1) (ofList f.pdu) := by
    have h := agreeUpTo_ofList_slice (f.request.off 1) (f.len-3)
    rwa [slice_off] at h
  have hfirst : ofList f.pdu 0 = f.request 1 := (hagree 0 hbounds.1).symm
  have h11 : ofList f.pdu 0 ≠ 0x11#8 := by
    intro h
    rw [← hfirst,h] at hw
    cases hw
  have hf : isDiagnosticsFunction (ofList f.pdu 0) = false := by
    rw [hfirst]
    simp only [isSupportedWriteFunction,decide_eq_true_eq] at hw
    rcases hw with h | h | h | h | h | h <;> rw [h] <;> rfl
  obtain ⟨response,server,hp⟩ := mbProcessPdu_ok cfg s.server (f.request.off 1) (f.len-3)
    modbusPduMaxSize hbounds (by decide)
  have hp' : mbProcessPdu cfg s.server (ofList f.pdu) f.pdu.length modbusPduMaxSize =
      (.ok response,server) := by
    rw [hlen,← mbProcessPdu_congr cfg s.server modbusPduMaxSize hagree,hp]
  obtain ⟨slave,hserver,hstep⟩ := rtuStep_rtuAdu cfg (hlen ▸ hbounds) s slaveAddress policy hrange
    hawake (.inr hf) h11 hp'
  have hframe : f.toUnicast slaveAddress policy =
      ⟨ofList (rtuAdu slaveAddress f.pdu),f.pdu.length+3,policy,256⟩ := by
    simp only [RtuFrame.isIntact,decide_eq_true_eq] at hi
    rw [hlen,Nat.sub_add_cancel (by omega)]
    rfl
  rw [hframe,hstep,hserver,hp]

theorem rtuStep_unreached (hrange : 1 ≤ slaveAddress.toNat ∧ slaveAddress.toNat ≤ 247)
    (h : f.isIntact = false ∨ f.isAddressed slaveAddress = false) :
    (rtuStep cfg slaveAddress s f).1 = .noResponse ∧
    (rtuStep cfg slaveAddress s f).2.server = s.server ∧
    (rtuStep cfg slaveAddress s f).2.diagnostics.map Diagnostics.gated =
      s.diagnostics.map Diagnostics.gated := by
  have ho := rtuStep_outcome cfg slaveAddress s f
  generalize rtuStep cfg slaveAddress s f = out at ho
  have hno : ¬ Heard slaveAddress f := by
    rintro ⟨-,hi,ha⟩
    rcases h with h | h
    · simp [hi] at h
    · simp [ha] at h
  cases ho with
  | badSlaveAddress h => omega
  | empty _ => exact ⟨rfl,rfl,rfl⟩
  | damaged _ _ =>
    refine ⟨rfl,rfl,?_⟩
    simp [Slave.note,Function.comp_def]
  | foreign _ _ =>
    refine ⟨rfl,rfl,?_⟩
    simp [Slave.note,Function.comp_def]
  | unheard hh _ _ => exact absurd hh hno
  | diagnosedSilently _ _ _ hh _ => exact absurd hh hno
  | diagnosticsFailed _ _ _ hh _ => exact absurd hh hno
  | diagnosticsAnswered _ _ _ _ hh _ => exact absurd hh hno
  | serverIdAnswered _ _ hh _ _ _ _ _ => exact absurd hh hno
  | serverIdCapacity _ hh _ _ _ _ => exact absurd hh hno
  | broadcastIgnored hh _ _ _ => exact absurd hh hno
  | broadcastWritten _ _ hh _ _ _ _ => exact absurd hh hno
  | noRoom hh _ _ _ _ => exact absurd hh hno
  | answered _ _ hh _ _ _ _ _ => exact absurd hh hno

end Broadcast

/-- For every state, callback, capacity and frame: a broadcast is never answered and never an
error, and leaves the server as the same PDU sent to this slave would, when it is one of the
write functions and the slave is not listening, and as it was otherwise; a frame of a bad
length, with a bad CRC or for another slave leaves everything as it was. -/
theorem broadcast_and_foreign_frames (cfg : Platform) (slaveAddress : Byte) (s : Slave)
    (f : RtuFrame) (hrange : 1 ≤ slaveAddress.toNat ∧ slaveAddress.toNat ≤ 247) :
    (f.isIntact = true → f.request 0 = 0#8 →
      (rtuStep cfg slaveAddress s f).1 = .noResponse ∧
      (isSupportedWriteFunction (f.request 1) = true → s.isListenOnly = false → ∀ policy,
        (rtuStep cfg slaveAddress s f).2.server =
          (rtuStep cfg slaveAddress s (f.toUnicast slaveAddress policy)).2.server) ∧
      (isSupportedWriteFunction (f.request 1) = false ∨ s.isListenOnly = true →
        (rtuStep cfg slaveAddress s f).2.server = s.server)) ∧
    (f.len < 4 ∨ 256 < f.len ∨ crcMatches f.request f.len = false ∨
        (f.request 0 ≠ 0#8 ∧ f.request 0 ≠ slaveAddress) →
      (rtuStep cfg slaveAddress s f).1 = .noResponse ∧
      (rtuStep cfg slaveAddress s f).2.server = s.server ∧
      (rtuStep cfg slaveAddress s f).2.diagnostics.map Diagnostics.gated =
        s.diagnostics.map Diagnostics.gated) := by
  refine ⟨fun hi h0 => ?_,fun h => rtuStep_unreached cfg hrange ?_⟩
  · obtain ⟨hsilent,hserver⟩ := rtuStep_broadcast cfg (s := s) hi h0 hrange
    refine ⟨hsilent,fun hw hawake policy => ?_,fun hno => ?_⟩
    · rw [hserver,if_pos ⟨hw,hawake⟩,rtuStep_toUnicast cfg hi policy hrange hw hawake]
    · rw [hserver,if_neg]
      rintro ⟨hw,hawake⟩
      rcases hno with h | h
      · simp [hw] at h
      · simp [hawake] at h
  · rcases h with h | h | h | h
    · left
      simp only [RtuFrame.isIntact,decide_eq_false_iff_not]
      omega
    · left
      simp only [RtuFrame.isIntact,decide_eq_false_iff_not]
      omega
    · left
      simp [RtuFrame.isIntact,h]
    · right
      simpa [RtuFrame.isAddressed] using h

def broadcastWrite : RtuFrame :=
  ⟨ofList (appendCrc [0x00#8,0x06#8,0x00#8,0x00#8,0x12#8,0x34#8]),8,none,0⟩

theorem broadcast_and_foreign_frames_write :
    broadcastWrite.isIntact = true ∧
    (rtuStep .standard 0x11#8 ⟨.zeroed,some mbrtuDiagnosticsInit,[]⟩ broadcastWrite).1 =
      .noResponse := by
  have hi : broadcastWrite.isIntact = true := by decide +kernel
  exact ⟨hi,((broadcast_and_foreign_frames .standard 0x11#8
    ⟨.zeroed,some mbrtuDiagnosticsInit,[]⟩ broadcastWrite (by decide)).1 hi rfl).1⟩

end ModbusStack
