import ModbusStack.DiagnosticsOutcome
import ModbusStack.ListenOnly
import ModbusStack.ResponseBounds

/-! Everything that one serial frame can do to a slave, said once. -/
set_option autoImplicit false

namespace ModbusStack
open ByteMemory Machine

/-- The two notes that precede the processing of a frame for this slave. -/
def Slave.heard (s : Slave) (f : RtuFrame) : Slave :=
  (s.note fun d => d.noteBusMessage (isBroadcast (f.request 0))).note fun d => d.noteServerMessage

def Slave.diagnosed (s : Slave) (d : Diagnostics) (calls : List (DiagnosticsAction × Word)) :
    Slave :=
  { s with diagnostics := some d, policyCalls := s.policyCalls ++ calls }

def Slave.served (s : Slave) (server : Server) : Slave := { s with server := server }

structure Heard (slaveAddress : Byte) (f : RtuFrame) : Prop where
  range : 1 ≤ slaveAddress.toNat ∧ slaveAddress.toNat ≤ 247
  intact : f.isIntact = true
  addressed : f.isAddressed slaveAddress = true

structure Ordinary (s : Slave) (f : RtuFrame) : Prop where
  awake : s.isListenOnly = false
  function : s.diagnostics = none ∨ isDiagnosticsFunction (f.request 1) = false

abbrev Diagnoses (s : Slave) (f : RtuFrame) (d : Diagnostics) : DiagnosticsStep → Prop :=
  fun out => (s.heard f).diagnostics = some d ∧
    (s.isListenOnly = true → f.startsLikeRestart = true) ∧
    DiagnosticsOutcome f.policy d (f.request 0) (f.request.off 1) (f.len-3) (pduCapacity f.capacity)
      out

inductive FrameOutcome (cfg : Platform) (slaveAddress : Byte) (s : Slave) (f : RtuFrame) :
    RtuResult × Slave → Prop
  | badSlaveAddress (h : slaveAddress.toNat < 1 ∨ 247 < slaveAddress.toNat) :
    FrameOutcome cfg slaveAddress s f (.errorSlaveAddress,s)
  | empty (h : f.len = 0) : FrameOutcome cfg slaveAddress s f (.noResponse,s)
  | damaged (h : 0 < f.len) (hi : f.isIntact = false) :
    FrameOutcome cfg slaveAddress s f
      (.noResponse,s.note fun d => d.noteCommunicationError (isBroadcast (f.request 0)) false)
  | foreign (hi : f.isIntact = true) (ha : f.isAddressed slaveAddress = false) :
    FrameOutcome cfg slaveAddress s f
      (.noResponse,s.note fun d => d.noteBusMessage (isBroadcast (f.request 0)))
  | unheard (hh : Heard slaveAddress f) (hl : s.isListenOnly = true)
      (hr : f.startsLikeRestart = false) :
    FrameOutcome cfg slaveAddress s f
      (.noResponse,(s.heard f).note fun d =>
        d.noteNormalCompletion (!isBroadcast (f.request 0)) true)
  | diagnosedSilently (d d' : Diagnostics) (calls : List (DiagnosticsAction × Word))
      (hh : Heard slaveAddress f) (hd : Diagnoses s f d (.noResponse,d',calls)) :
    FrameOutcome cfg slaveAddress s f (.noResponse,(s.heard f).diagnosed d' calls)
  | diagnosticsFailed (d d' : Diagnostics) (calls : List (DiagnosticsAction × Word))
      (hh : Heard slaveAddress f) (hd : Diagnoses s f d (.error,d',calls)) :
    FrameOutcome cfg slaveAddress s f (.errorPdu,(s.heard f).diagnosed d' calls)
  | diagnosticsAnswered (d d' : Diagnostics) (calls : List (DiagnosticsAction × Word))
      (response : List Byte) (hh : Heard slaveAddress f)
      (hd : Diagnoses s f d (.response response,d',calls)) :
    FrameOutcome cfg slaveAddress s f
      (.responseReady (appendCrc (f.request 0 :: response)),
        ((s.heard f).diagnosed d' calls).noteResponse response fun d =>
          if selfAccounted f.request (f.len-3) then d
          else d.noteNormalCompletion false (f.request 1 = 0x0B#8 ∨ f.request 1 = 0x0C#8))
  | serverIdAnswered (response : List Byte) (server : Server) (hh : Heard slaveAddress f)
      (ho : Ordinary s f) (hb : isBroadcast (f.request 0) = false) (h11 : f.request 1 = 0x11#8)
      (hp : mbrtuServerIdProcessPdu s.server (f.request.off 1) (f.len-3) (pduCapacity f.capacity) =
        (.response response,server)) (hroom : 1+response.length+2 ≤ f.capacity) :
    FrameOutcome cfg slaveAddress s f
      (.responseReady (appendCrc (f.request 0 :: response)),
        ((s.heard f).served server).noteResponse response fun d => d.noteNormalCompletion false false)
  | serverIdCapacity (server : Server) (hh : Heard slaveAddress f) (ho : Ordinary s f)
      (hb : isBroadcast (f.request 0) = false) (h11 : f.request 1 = 0x11#8)
      (hp : mbrtuServerIdProcessPdu s.server (f.request.off 1) (f.len-3) (pduCapacity f.capacity) =
        (.capacity,server)) :
    FrameOutcome cfg slaveAddress s f (.errorResponseCapacity,(s.heard f).served server)
  | broadcastIgnored (hh : Heard slaveAddress f) (ho : Ordinary s f)
      (hb : isBroadcast (f.request 0) = true)
      (hw : isSupportedWriteFunction (f.request 1) = false) :
    FrameOutcome cfg slaveAddress s f
      (.noResponse,(s.heard f).note fun d => d.noteNormalCompletion false true)
  | broadcastWritten (response : List Byte) (server : Server) (hh : Heard slaveAddress f)
      (ho : Ordinary s f) (hb : isBroadcast (f.request 0) = true)
      (hw : isSupportedWriteFunction (f.request 1) = true)
      (hp : mbProcessPdu cfg s.server (f.request.off 1) (f.len-3) modbusPduMaxSize =
        (.ok response,server)) :
    FrameOutcome cfg slaveAddress s f
      (.noResponse,((s.heard f).served server).note fun d =>
        d.noteNormalCompletion false (decide (responseExceptionCode response ≠ 0#8)))
  | noRoom (hh : Heard slaveAddress f) (ho : Ordinary s f)
      (hb : isBroadcast (f.request 0) = false) (h11 : f.request 1 ≠ 0x11#8) (hc : f.capacity < 5) :
    FrameOutcome cfg slaveAddress s f (.errorResponseCapacity,s.heard f)
  | answered (response : List Byte) (server : Server) (hh : Heard slaveAddress f)
      (ho : Ordinary s f) (hb : isBroadcast (f.request 0) = false) (h11 : f.request 1 ≠ 0x11#8)
      (hc : 5 ≤ f.capacity)
      (hp : mbProcessPdu cfg s.server (f.request.off 1) (f.len-3) (f.capacity-3) =
        (.ok response,server)) :
    FrameOutcome cfg slaveAddress s f
      (.responseReady (appendCrc (f.request 0 :: response)),
        ((s.heard f).served server).noteResponse response fun d => d.noteNormalCompletion false false)

/-! The branches in turn. -/

section Branches
variable {cfg : Platform} {slaveAddress : Byte} {s : Slave} {f : RtuFrame}

@[simp] theorem Slave.heard_server (s : Slave) (f : RtuFrame) : (s.heard f).server = s.server := rfl

theorem Slave.heard_isListenOnly (s : Slave) (f : RtuFrame) :
    (s.heard f).isListenOnly = s.isListenOnly := by
  rw [heard,Slave.note_isListenOnly _ _ Diagnostics.noteServerMessage_listenOnly,
    Slave.note_isListenOnly _ _ fun d => Diagnostics.noteBusMessage_listenOnly d _]

theorem RtuFrame.pduLen_bounds (hi : f.isIntact = true) :
    1 ≤ f.len-3 ∧ f.len-3 ≤ modbusPduMaxSize := by
  simp only [RtuFrame.isIntact,decide_eq_true_eq] at hi
  simp only [modbusPduMaxSize]
  omega

theorem mbrtuServerIdProcessPdu_response (server : Server) (pdu : Mem Byte) (len capacity : Nat)
    (response : List Byte)
    (h : (mbrtuServerIdProcessPdu server pdu len capacity).1 = .response response) :
    AnswersFunction 0x11#8 response ∧ 2 ≤ response.length ∧ response.length ≤ capacity ∧
      (server.serverId.byteCount ≤ 251 → response.length ≤ modbusPduMaxSize) := by
  simp only [mbrtuServerIdProcessPdu] at h
  split at h
  · cases h
  split at h
  · cases h
  rename_i hcap
  split at h
  · cases h
    exact ⟨.inr ⟨0x03#8,by decide,rfl⟩,by simp,by simp; omega,by simp [modbusPduMaxSize]⟩
  split at h
  · cases h
    exact ⟨.inr ⟨0x04#8,by decide,rfl⟩,by simp,by simp; omega,by simp [modbusPduMaxSize]⟩
  split at h
  · cases h
  · rename_i hroom
    cases h
    refine ⟨.inl ⟨by decide,_,rfl⟩,by simp,?_,?_⟩
    · simp only [List.length_append,List.length_cons,List.length_nil,slice_length]
      omega
    · simp only [List.length_append,List.length_cons,List.length_nil,slice_length,modbusPduMaxSize,
        Server.emit_serverId]
      omega

theorem pduCapacity_room {n capacity : Nat} (h2 : 2 ≤ n) (h : n ≤ pduCapacity capacity) :
    1+n+2 ≤ capacity := by
  simp only [pduCapacity] at h
  split at h <;> omega

theorem processOrdinary_outcome (hh : Heard slaveAddress f) (ho : Ordinary s f) :
    FrameOutcome cfg slaveAddress s f
      (processOrdinary cfg (s.heard f) f.request (f.len-3) f.capacity) := by
  have hlen := RtuFrame.pduLen_bounds hh.intact
  simp only [processOrdinary]
  cases hb : isBroadcast (f.request 0) with
  | true =>
    by_cases h11 : f.request 1 = 0x11#8
    · simp only [h11,if_true,processServerId,hb]
      exact .broadcastIgnored hh ho hb (by rw [h11]; rfl)
    · simp only [h11,if_false,if_true,processBroadcast]
      cases hw : isSupportedWriteFunction (f.request 1) with
      | false =>
        simp only [Bool.false_eq_true,not_false_eq_true,if_true]
        exact .broadcastIgnored hh ho hb hw
      | true =>
        obtain ⟨r,server,hp⟩ := mbProcessPdu_ok cfg s.server (f.request.off 1) (f.len-3)
          modbusPduMaxSize hlen (by decide)
        simp only [Slave.heard_server,hp,not_true_eq_false,if_false]
        exact .broadcastWritten r server hh ho hb hw hp
  | false =>
    by_cases h11 : f.request 1 = 0x11#8
    · simp only [h11,if_true,processServerId,hb,Bool.false_eq_true,if_false,Slave.heard_server]
      cases hp : mbrtuServerIdProcessPdu s.server (f.request.off 1) (f.len-3)
          (pduCapacity f.capacity) with
      | mk r server =>
        cases r with
        | notHandled =>
          have hno : ¬ (f.len-3 = 0 ∨ (f.request.off 1) 0 ≠ 0x11#8) := by
            simp [h11]
            omega
          simp only [mbrtuServerIdProcessPdu,hno,if_false] at hp
          repeat' split at hp
          all_goals cases hp
        | capacity => exact .serverIdCapacity server hh ho hb h11 hp
        | response response =>
          obtain ⟨-,hmin,hmax,-⟩ := mbrtuServerIdProcessPdu_response s.server (f.request.off 1)
            (f.len-3) (pduCapacity f.capacity) response (by rw [hp])
          have hroom := pduCapacity_room hmin hmax
          simp only [Nat.not_lt.mpr hroom,if_false]
          exact .serverIdAnswered response server hh ho hb h11 hp hroom
    · simp only [h11,if_false,Bool.false_eq_true,processUnicast]
      split
      · rename_i hc
        exact .noRoom hh ho hb h11 hc
      · rename_i hc
        obtain ⟨r,server,hp⟩ := mbProcessPdu_ok cfg s.server (f.request.off 1) (f.len-3)
          (f.capacity-3) hlen (by omega)
        simp only [Slave.heard_server,hp]
        exact .answered r server hh ho hb h11 (by omega) hp

theorem DiagnosticsOutcome.response_spec {policy : DiagnosticsPolicy} {d : Diagnostics}
    {address : Byte} {pdu : Mem Byte} {len capacity : Nat} {out : DiagnosticsStep}
    (h : DiagnosticsOutcome policy d address pdu len capacity out) (response : List Byte)
    (hr : out.1 = .response response) :
    isBroadcast address = false ∧ AnswersFunction (pdu 0) response ∧ 2 ≤ response.length ∧
      response.length ≤ capacity ∧
      (d.eventLogCount.toNat ≤ eventLogCapacity → response.length ≤ modbusPduMaxSize) := by
  have hlow : isDiagnosticsFunction (pdu 0) = true → (pdu 0).toNat < 0x80 := by
    intro hf
    simp only [isDiagnosticsFunction,decide_eq_true_eq] at hf
    rcases hf with h | h | h | h <;> simp [h]
  cases h with
  | notHandled _ => cases hr
  | unheard _ _ _ => cases hr
  | ignored _ _ _ => cases hr
  | unanswered _ _ _ _ => cases hr
  | refused code hf hcode hb hd =>
    simp only [makeException] at hr
    split at hr
    · cases hr
    · cases hr
      refine ⟨hb,.inr ⟨code,hcode,rfl⟩,by simp,?_,by simp [modbusPduMaxSize]⟩
      simp only [List.length_cons,List.length_nil]
      omega
  | returned r hf hb ha hhead hmin hmax hself =>
    simp only at hr
    split at hr
    · cases hr
    · cases hr
      exact ⟨hb,.inl ⟨hlow hf,hhead⟩,hmin,by omega,hmax⟩
  | approved action data ha hp hl =>
    have h8 : pdu 0 = 0x08#8 := by
      by_contra hne
      simp [requestedAction,hne] at ha
    simp only [approvedStep] at hr
    split at hr
    · rename_i hans
      split at hr
      · cases hr
      · cases hr
        refine ⟨?_,.inl ⟨by rw [h8]; decide,_,by rw [h8]; rfl⟩,by simp,?_,by simp [modbusPduMaxSize]⟩
        · cases action <;> simp [DiagnosticsAction.isAnswered] at hans <;> simp [hans]
        · simp only [List.length_append,List.length_cons,List.length_nil,writeBe16_length]
          omega
    · cases hr

theorem processDiagnostics_outcome (d : Diagnostics) (hh : Heard slaveAddress f)
    (hd : (s.heard f).diagnostics = some d)
    (hg : s.isListenOnly = true → f.startsLikeRestart = true) :
    FrameOutcome cfg slaveAddress s f
      (processDiagnostics cfg (s.heard f) f.request f.policy d (f.len-3) f.capacity) := by
  have h := mbrtuDiagnosticsProcessPdu_outcome f.policy d (f.request 0) (f.request.off 1) (f.len-3)
    (pduCapacity f.capacity) (RtuFrame.pduLen_bounds hh.intact)
  simp only [processDiagnostics]
  generalize mbrtuDiagnosticsProcessPdu f.policy d (f.request 0) (f.request.off 1) (f.len-3)
    (pduCapacity f.capacity) = out at h
  obtain ⟨result,d',calls⟩ := out
  cases result with
  | noResponse => exact .diagnosedSilently d d' calls hh ⟨hd,hg,h⟩
  | error => exact .diagnosticsFailed d d' calls hh ⟨hd,hg,h⟩
  | response response =>
    obtain ⟨-,-,hmin,hmax,-⟩ := h.response_spec response rfl
    simp only [Nat.not_lt.mpr (pduCapacity_room hmin hmax),if_false]
    exact .diagnosticsAnswered d d' calls response hh ⟨hd,hg,h⟩
  | notHandled =>
    have hf : isDiagnosticsFunction (f.request 1) = false ∧ d' = d ∧ calls = [] := by
      generalize hout : ((DiagnosticsPdu.notHandled,d',calls) : DiagnosticsStep) = out at h
      cases h with
      | notHandled hf =>
        cases hout
        exact ⟨hf,rfl,rfl⟩
      | unheard _ _ _ => cases hout
      | ignored _ _ _ => cases hout
      | unanswered _ _ _ _ => cases hout
      | refused code _ _ _ _ =>
        simp only [makeException] at hout
        split at hout <;> cases hout
      | returned r _ _ _ _ _ _ _ =>
        simp only [Prod.mk.injEq] at hout
        have h1 := hout.1
        split at h1 <;> cases h1
      | approved action data _ _ _ =>
        simp only [approvedStep] at hout
        repeat' split at hout
        all_goals cases hout
    obtain ⟨hf,rfl,rfl⟩ := hf
    have hsame : { s.heard f with diagnostics := some d', policyCalls := (s.heard f).policyCalls ++ [] } =
        s.heard f := by rw [← hd,List.append_nil]
    have hawake : s.isListenOnly = false := by
      cases hl : s.isListenOnly with
      | false => rfl
      | true =>
        have hr := hg hl
        simp only [RtuFrame.startsLikeRestart,isRestartCandidate,decide_eq_true_eq] at hr
        rw [hr.2.1] at hf
        cases hf
    simp only [hsame]
    exact processOrdinary_outcome hh ⟨hawake,.inr hf⟩

theorem rtuStep_outcome (cfg : Platform) (slaveAddress : Byte) (s : Slave) (f : RtuFrame) :
    FrameOutcome cfg slaveAddress s f (rtuStep cfg slaveAddress s f) := by
  simp only [rtuStep,mbrtuProcessAduWithDiagnostics]
  split
  · rename_i h
    exact .badSlaveAddress h
  rename_i hrange
  split
  · rename_i hlen
    split
    · rename_i hpos
      exact .damaged hpos (by simp [RtuFrame.isIntact]; omega)
    · rename_i hpos
      exact .empty (by omega)
  rename_i hlen
  split
  · rename_i hcrc
    exact .damaged (by omega) (by simp [RtuFrame.isIntact]; simpa using fun _ _ => hcrc)
  rename_i hcrc
  have hi : f.isIntact = true := by
    simp only [RtuFrame.isIntact,decide_eq_true_eq]
    simp at hcrc
    exact ⟨by omega,by omega,hcrc⟩
  split
  · rename_i ha
    exact .foreign hi (by simpa [RtuFrame.isAddressed] using ha)
  rename_i ha
  have hh : Heard slaveAddress f :=
    ⟨by omega,hi,by simp only [RtuFrame.isAddressed,decide_eq_true_eq]; tauto⟩
  have hheard : (s.note fun d => d.noteBusMessage (isBroadcast (f.request 0))).note
      (fun d => d.noteServerMessage) = s.heard f := rfl
  simp only [processAddressed,hheard]
  split
  · rename_i hl
    exact .unheard hh ((Slave.heard_isListenOnly s f).symm.trans hl.1)
      (by simpa [RtuFrame.startsLikeRestart] using hl.2)
  rename_i hl
  have hg : s.isListenOnly = true → f.startsLikeRestart = true := by
    intro h
    rw [← Slave.heard_isListenOnly s f] at h
    exact not_and_not_right.mp hl h
  split
  · rename_i d hd
    exact processDiagnostics_outcome d hh hd hg
  · rename_i hd
    have hn : s.diagnostics = none := by simpa [Slave.heard,Slave.note] using hd
    exact processOrdinary_outcome hh ⟨by simp [Slave.isListenOnly,hn],.inl hn⟩

/-- A frame for a slave that is not listening only goes to the diagnostics object, if there is
one. -/
theorem rtuStep_heard (cfg : Platform) (hh : Heard slaveAddress f) (hawake : s.isListenOnly = false) :
    rtuStep cfg slaveAddress s f = (s.heard f).diagnostics.elim
      (processOrdinary cfg (s.heard f) f.request (f.len-3) f.capacity)
      fun d => processDiagnostics cfg (s.heard f) f.request f.policy d (f.len-3) f.capacity := by
  obtain ⟨hrange,hi,ha⟩ := hh
  simp only [RtuFrame.isIntact,decide_eq_true_eq] at hi
  simp only [RtuFrame.isAddressed,decide_eq_true_eq] at ha
  have h1 : ¬ (slaveAddress.toNat < 1 ∨ 247 < slaveAddress.toNat) := by omega
  have h2 : ¬ (f.len < 4 ∨ 256 < f.len) := by omega
  have h3 : ¬ (f.request 0 ≠ 0#8 ∧ f.request 0 ≠ slaveAddress) := by tauto
  have h4 : ¬ ((s.heard f).isListenOnly ∧ ¬ isRestartCandidate f.request (f.len-3)) := by
    rw [Slave.heard_isListenOnly,hawake]
    simp
  simp only [rtuStep,mbrtuProcessAduWithDiagnostics,h1,h2,h3,hi.2.2,not_true_eq_false,if_false]
  have hheard : (s.note fun d => d.noteBusMessage (isBroadcast (f.request 0))).note
      (fun d => d.noteServerMessage) = s.heard f := rfl
  simp only [processAddressed,hheard]
  rw [if_neg h4]
  cases (s.heard f).diagnostics <;> rfl

theorem rtuStep_diagnosed (cfg : Platform) {d : Diagnostics} (hh : Heard slaveAddress f)
    (hawake : s.isListenOnly = false) (hd : (s.heard f).diagnostics = some d) :
    rtuStep cfg slaveAddress s f =
      processDiagnostics cfg (s.heard f) f.request f.policy d (f.len-3) f.capacity := by
  rw [rtuStep_heard cfg hh hawake,hd]
  rfl

theorem rtuStep_ordinary (cfg : Platform) (hh : Heard slaveAddress f) (ho : Ordinary s f) :
    rtuStep cfg slaveAddress s f =
      processOrdinary cfg (s.heard f) f.request (f.len-3) f.capacity := by
  have hpdu := RtuFrame.pduLen_bounds hh.intact
  rw [rtuStep_heard cfg hh ho.awake]
  cases hd : (s.heard f).diagnostics with
  | none => rfl
  | some d =>
    have hf : isDiagnosticsFunction ((f.request.off 1) 0) = false := by
      rcases ho.function with hn | hf
      · simp [Slave.heard,Slave.note,hn] at hd
      · exact hf
    have hlen : ¬ (f.len-3 = 0 ∨ modbusPduMaxSize < f.len-3) := by omega
    have hsame : { s.heard f with diagnostics := some d, policyCalls := (s.heard f).policyCalls ++ [] } =
        s.heard f := by rw [← hd,List.append_nil]
    simp only [Option.elim_some,processDiagnostics,mbrtuDiagnosticsProcessPdu,hlen,hf,
      Bool.false_eq_true,not_false_eq_true,if_true,if_false,hsame]

end Branches

end ModbusStack
