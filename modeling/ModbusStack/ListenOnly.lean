import ModbusStack.Machine
import ModbusStack.RtuAdu

/-! Listen-only mode over any run of frames: what a listening slave answers, what it
changes, and which frame ends the mode. -/
set_option autoImplicit false

namespace ModbusStack
open ByteMemory Machine

/-- One frame as the receiver hands it over, with the callback and the response room
that go with it. -/
structure RtuFrame where
  request : Mem Byte
  len : Nat
  policy : DiagnosticsPolicy
  capacity : Nat

def rtuStep (cfg : Platform) (slaveAddress : Byte) (s : Slave) (f : RtuFrame) :
    RtuResult × Slave :=
  mbrtuProcessAduWithDiagnostics cfg s f.request slaveAddress f.policy f.len f.capacity

namespace RtuFrame

def isIntact (f : RtuFrame) : Bool := 4 ≤ f.len ∧ f.len ≤ 256 ∧ crcMatches f.request f.len

def isAddressed (f : RtuFrame) (slaveAddress : Byte) : Bool :=
  f.request 0 = 0#8 ∨ f.request 0 = slaveAddress

def restartData (f : RtuFrame) : Word := readBe16 (f.request.off 4)

/-- A PDU that starts like FC08/0001 and has at least a data word. -/
def startsLikeRestart (f : RtuFrame) : Bool := isRestartCandidate f.request (f.len-3)

def isRestart (f : RtuFrame) : Bool :=
  f.startsLikeRestart ∧ f.len = 8 ∧ (f.restartData = 0x0000#16 ∨ f.restartData = 0xFF00#16)

/-- The frames that break the silence: to this slave alone, like FC08/0001 but with other
data or another length, and with room for an exception response. -/
def isMalformedRestart (f : RtuFrame) (slaveAddress : Byte) : Bool :=
  1 ≤ slaveAddress.toNat ∧ slaveAddress.toNat ≤ 247 ∧ f.isIntact ∧
    f.request 0 = slaveAddress ∧ f.startsLikeRestart ∧ ¬ f.isRestart ∧ 5 ≤ f.capacity

/-- The frames that may end listen-only mode. -/
def isApprovedRestart (f : RtuFrame) (slaveAddress : Byte) : Bool :=
  f.isIntact ∧ f.isAddressed slaveAddress ∧ f.isRestart ∧
    policyAllows f.policy .restartCommunications f.restartData

end RtuFrame

def RtuResult.isReady : RtuResult → Bool
  | .responseReady _ => true
  | _ => false

/-- FC08/0001 with a data word: a refusal unless it has exactly the five bytes. -/
theorem processFc08_restart (policy : DiagnosticsPolicy) (d : Diagnostics) (address : Byte)
    (pdu : Mem Byte) (len capacity : Nat) (hlen : 5 ≤ len)
    (hsub : readBe16 (pdu.off 1) = 0x0001#16) :
    processFc08 policy d address pdu len capacity =
      if len = 5 ∧ (readBe16 (pdu.off 3) = 0x0000#16 ∨ readBe16 (pdu.off 3) = 0xFF00#16) then
        restartCommunications policy d (isBroadcast address) len (readBe16 (pdu.off 3)) capacity
      else
        ((refuseFc08 d (isBroadcast address) exIllegalDataValue capacity).1,
          (refuseFc08 d (isBroadcast address) exIllegalDataValue capacity).2,[]) := by
  by_cases hodd : (len-3)%2 = 0
  · simp only [processFc08,hodd,hsub,hlen,Nat.not_lt.mpr (show 3 ≤ len by omega),if_true]
    simp only [ne_eq,not_true_eq_false,or_self,and_false,if_false]
    by_cases hw : len = 5 ∧ (readBe16 (pdu.off 3) = 0x0000#16 ∨ readBe16 (pdu.off 3) = 0xFF00#16)
    · simp only [hw]
      rfl
    · simp only [hw,if_false]
      have hm : len ≠ 5 ∨ (readBe16 (pdu.off 3) ≠ 0x0000#16 ∧ readBe16 (pdu.off 3) ≠ 0xFF00#16) := by
        tauto
      exact if_pos hm
  · have hw : ¬ (len = 5 ∧
        (readBe16 (pdu.off 3) = 0x0000#16 ∨ readBe16 (pdu.off 3) = 0xFF00#16)) := by omega
    simp only [processFc08,hw,if_false]
    exact if_pos (Or.inr hodd)

/-- A well-formed Restart is never answered by a listening slave. -/
theorem restartCommunications_listening (policy : DiagnosticsPolicy) (d : Diagnostics)
    (broadcast : Bool) (data : Word) (capacity : Nat) (hl : d.isListenOnly)
    (hd : data = 0x0000#16 ∨ data = 0xFF00#16) :
    (restartCommunications policy d broadcast 5 data capacity).1 = .noResponse ∧
      ((restartCommunications policy d broadcast 5 data capacity).2.1.isListenOnly = false →
        policyAllows policy .restartCommunications data ∧
        (restartCommunications policy d broadcast 5 data capacity).2.2 =
          [(.restartCommunications,data)]) := by
  have hok : ¬ ((5 : Nat) ≠ 5 ∨ (data ≠ 0x0000#16 ∧ data ≠ 0xFF00#16)) := by tauto
  simp only [restartCommunications,hok,if_false,hl,or_true,if_true,not_true_eq_false,
    false_and,and_false]
  cases hp : policyAllows policy .restartCommunications data with
  | false =>
    refine ⟨rfl,fun h => ?_⟩
    simp [Diagnostics.isListenOnly] at h hl
    exact absurd h hl
  | true =>
    refine ⟨rfl,fun _ => ⟨rfl,?_⟩⟩
    cases policy with
    | none => cases hp
    | some f => rfl

theorem Slave.note_isListenOnly (s : Slave) (f : Diagnostics → Diagnostics)
    (hf : ∀ d, (f d).listenOnly = d.listenOnly) : (s.note f).isListenOnly = s.isListenOnly := by
  cases hd : s.diagnostics <;> simp [Slave.isListenOnly,Slave.note,hd,Diagnostics.isListenOnly,hf]

theorem Slave.noteResponse_isListenOnly (s : Slave) (response : List Byte)
    (normal : Diagnostics → Diagnostics) (hn : ∀ d, (normal d).listenOnly = d.listenOnly) :
    (s.noteResponse response normal).isListenOnly = s.isListenOnly := by
  apply Slave.note_isListenOnly
  intro d
  split
  · exact Diagnostics.noteException_listenOnly d _
  · exact hn d

theorem mbrtuDiagnosticsProcessPdu_restart (policy : DiagnosticsPolicy) (d : Diagnostics)
    (address : Byte) (pdu : Mem Byte) (len capacity : Nat) (hlen : 5 ≤ len) (hmax : len ≤ 253)
    (hf : pdu 0 = 0x08#8) (hsub : readBe16 (pdu.off 1) = 0x0001#16) :
    mbrtuDiagnosticsProcessPdu policy d address pdu len capacity =
      processFc08 policy d address pdu len capacity := by
  have h0 : ¬ (len = 0 ∨ modbusPduMaxSize < len) := by simp only [modbusPduMaxSize]; omega
  have h3 : 3 ≤ len := by omega
  simp only [mbrtuDiagnosticsProcessPdu,h0,if_false,hf,hsub,h3]
  simp [isDiagnosticsFunction]

structure Listens (s : Slave) (f : RtuFrame) (out : RtuResult × Slave) : Prop where
  server : out.2.server = s.server
  ready : out.1.isReady = (decide (f.request 0 ≠ 0#8) && !f.isRestart && decide (5 ≤ f.capacity))
  leaves : out.2.isListenOnly = false → f.isRestart ∧ out.1 = .noResponse ∧
    policyAllows f.policy .restartCommunications f.restartData ∧
    out.2.policyCalls = s.policyCalls ++ [(.restartCommunications,f.restartData)]

theorem processDiagnostics_listening (cfg : Platform) (s : Slave) (f : RtuFrame) (d : Diagnostics)
    (hd : d.isListenOnly) (hlen : f.len ≤ 256) (hr : f.startsLikeRestart) :
    Listens s f (processDiagnostics cfg s f.request f.policy d (f.len-3) f.capacity) := by
  have hr' := hr
  simp only [RtuFrame.startsLikeRestart,isRestartCandidate,decide_eq_true_eq] at hr'
  obtain ⟨h5,hf,h2,h3⟩ := hr'
  have hsub : readBe16 ((f.request.off 1).off 1) = 0x0001#16 := by
    simp only [readBe16_off,Mem.off_apply,h2,h3]
    rfl
  have hdata : readBe16 ((f.request.off 1).off 3) = f.restartData := rfl
  have hwell : (f.len-3 = 5 ∧ (f.restartData = 0x0000#16 ∨ f.restartData = 0xFF00#16)) ↔
      f.isRestart = true := by
    have h8 : f.len-3 = 5 ↔ f.len = 8 := by omega
    simp only [RtuFrame.isRestart,hr,decide_eq_true_eq,true_and,h8]
  simp only [processDiagnostics]
  rw [mbrtuDiagnosticsProcessPdu_restart _ _ _ _ _ _ h5 (by omega) hf hsub,
    processFc08_restart _ _ _ _ _ _ h5 hsub,hdata]
  by_cases hw : f.isRestart = true
  · have hw' := hwell.mpr hw
    rw [if_pos hw',hw'.1]
    obtain ⟨hn,ho⟩ := restartCommunications_listening f.policy d (isBroadcast (f.request 0))
      f.restartData (pduCapacity f.capacity) hd hw'.2
    simp only [hn]
    refine ⟨rfl,by simp [RtuResult.isReady,hw],fun h => ?_⟩
    obtain ⟨hp,hc⟩ := ho h
    exact ⟨hw,rfl,hp,by simp only [hc]⟩
  · have hw' := hwell.not.mpr hw
    rw [if_neg hw']
    cases hb : isBroadcast (f.request 0) with
    | true =>
      have h0 : f.request 0 = 0#8 := by simpa [isBroadcast] using hb
      refine ⟨rfl,by simp [refuseFc08,RtuResult.isReady,h0],fun h => ?_⟩
      simp [refuseFc08,Slave.isListenOnly,Diagnostics.isListenOnly] at h hd
      exact absurd h hd
    | false =>
      have h0 : f.request 0 ≠ 0#8 := by simpa [isBroadcast] using hb
      by_cases hc : 5 ≤ f.capacity
      · have hp : ¬ pduCapacity f.capacity < 2 := by simp only [pduCapacity]; split <;> omega
        have hc' : ¬ f.capacity < 5 := by omega
        simp only [refuseFc08,makeException,hp,if_false,Bool.false_eq_true,List.length_cons,
          List.length_nil,hc']
        refine ⟨rfl,by simp [RtuResult.isReady,h0,hw,hc],fun h => ?_⟩
        rw [Slave.noteResponse_isListenOnly] at h
        · exact absurd hd (by simpa [Slave.isListenOnly] using h)
        · intro d'
          split <;> simp
      · have hp : pduCapacity f.capacity < 2 := by simp only [pduCapacity]; split <;> omega
        simp only [refuseFc08,makeException,hp,if_true,Bool.false_eq_true,if_false]
        refine ⟨rfl,by simp [RtuResult.isReady,hc],fun h => ?_⟩
        simp [Slave.isListenOnly,hd] at h

structure ListeningStep (slaveAddress : Byte) (s : Slave) (f : RtuFrame)
    (out : RtuResult × Slave) : Prop where
  server : out.2.server = s.server
  ready : out.1.isReady = f.isMalformedRestart slaveAddress
  leaves : out.2.isListenOnly = false → f.isApprovedRestart slaveAddress ∧ out.1 = .noResponse ∧
    out.2.policyCalls = s.policyCalls ++ [(.restartCommunications,f.restartData)]

theorem ListeningStep.silent {slaveAddress : Byte} {s s' : Slave} {f : RtuFrame} {r : RtuResult}
    (hs : s.isListenOnly) (hr : r.isReady = false) (hm : ¬ f.isMalformedRestart slaveAddress)
    (hserver : s'.server = s.server) (hl : s'.isListenOnly = s.isListenOnly) :
    ListeningStep slaveAddress s f (r,s') where
  server := hserver
  ready := by simpa [hr] using hm
  leaves := by
    intro h
    rw [hl,hs] at h
    cases h

theorem processAddressed_listening (cfg : Platform) (slaveAddress : Byte) (s : Slave)
    (f : RtuFrame) (hs : s.isListenOnly) (hrange : 1 ≤ slaveAddress.toNat ∧ slaveAddress.toNat ≤ 247)
    (hi : f.isIntact) (ha : f.isAddressed slaveAddress) :
    ListeningStep slaveAddress s f
      (processAddressed cfg s f.request f.policy (f.len-3) f.capacity) := by
  have hs' : (s.note fun d => d.noteServerMessage).isListenOnly := by
    rw [Slave.note_isListenOnly s _ Diagnostics.noteServerMessage_listenOnly,hs]
  simp only [processAddressed,hs',true_and]
  split
  · rename_i hr
    refine .silent hs rfl ?_ rfl ?_
    · intro hm
      simp only [RtuFrame.isMalformedRestart,decide_eq_true_eq] at hm
      exact hr hm.2.2.2.2.1
    · rw [Slave.note_isListenOnly _ _ fun d => Diagnostics.noteNormalCompletion_listenOnly d _ _,
        hs',hs]
  · rename_i hr
    have hr' : f.startsLikeRestart := by simpa [RtuFrame.startsLikeRestart] using hr
    split
    · rename_i d hd
      have hdl : d.isListenOnly := by simpa [Slave.isListenOnly,hd] using hs'
      have hlen : f.len ≤ 256 := by
        simp only [RtuFrame.isIntact,decide_eq_true_eq] at hi
        exact hi.2.1
      have h := processDiagnostics_listening cfg (s.note fun d => d.noteServerMessage) f d hdl hlen hr'
      have haddr : f.request 0 ≠ 0#8 ↔ f.request 0 = slaveAddress := by
        simp only [RtuFrame.isAddressed,decide_eq_true_eq] at ha
        have hne : slaveAddress ≠ 0#8 := by bv_omega
        constructor
        · tauto
        · rintro h0
          rwa [h0]
      refine ⟨h.server,?_,fun hl => ?_⟩
      · rw [h.ready]
        simp [RtuFrame.isMalformedRestart,hrange,hi,hr',haddr,Bool.and_assoc]
      · obtain ⟨hw,hn,hp,hc⟩ := h.leaves hl
        exact ⟨by simp [RtuFrame.isApprovedRestart,hi,ha,hw,hp],hn,hc⟩
    · rename_i hd
      simp [Slave.isListenOnly,hd] at hs'

theorem rtuStep_listening (cfg : Platform) (slaveAddress : Byte) (s : Slave) (f : RtuFrame)
    (hs : s.isListenOnly) :
    ListeningStep slaveAddress s f (rtuStep cfg slaveAddress s f) := by
  simp only [rtuStep,mbrtuProcessAduWithDiagnostics]
  split
  · rename_i h
    refine .silent hs rfl ?_ rfl rfl
    simp only [RtuFrame.isMalformedRestart,decide_eq_true_eq]
    omega
  rename_i hrange
  split
  · rename_i h
    have hm : ¬ f.isMalformedRestart slaveAddress := by
      simp only [RtuFrame.isMalformedRestart,RtuFrame.isIntact,decide_eq_true_eq]
      omega
    split
    · refine .silent hs rfl hm rfl ?_
      exact Slave.note_isListenOnly _ _ fun d => Diagnostics.noteCommunicationError_listenOnly d _ _
    · exact .silent hs rfl hm rfl rfl
  rename_i hlen
  split
  · rename_i h
    refine .silent hs rfl ?_ rfl ?_
    · simp only [RtuFrame.isMalformedRestart,RtuFrame.isIntact,decide_eq_true_eq]
      tauto
    · exact Slave.note_isListenOnly _ _ fun d => Diagnostics.noteCommunicationError_listenOnly d _ _
  rename_i hcrc
  have hbus : (s.note fun d => d.noteBusMessage (isBroadcast (f.request 0))).isListenOnly := by
    rw [Slave.note_isListenOnly _ _ fun d => Diagnostics.noteBusMessage_listenOnly d _,hs]
  split
  · rename_i h
    refine .silent hs rfl ?_ rfl (hbus.trans hs.symm)
    simp only [RtuFrame.isMalformedRestart,decide_eq_true_eq]
    tauto
  rename_i haddr
  have h := processAddressed_listening cfg slaveAddress _ f hbus (by omega)
    (by simp [RtuFrame.isIntact]; simp at hcrc; exact ⟨by omega,by omega,hcrc⟩)
    (by simp [RtuFrame.isAddressed]; tauto)
  exact ⟨h.server,h.ready,h.leaves⟩

/-- In every run of frames, whatever each frame's bytes, callback and capacity: a frame
that meets a listening slave stays unanswered and without effect unless it is a malformed
Restart, and then it is answered. Even so the data model never changes, and only an approved
Restart, itself unanswered, ends the mode. -/
theorem listenOnly_silent_unless_malformed_restart (cfg : Platform) (slaveAddress : Byte)
    (start : Slave) (frames : List RtuFrame) :
    ∀ r ∈ records (rtuStep cfg slaveAddress) start frames, r.before.isListenOnly = true →
      ((r.output.isReady = false ∧ r.after.server.data = r.before.server.data ∧
          (r.after.isListenOnly = false → r.input.isApprovedRestart slaveAddress)) ↔
        r.input.isMalformedRestart slaveAddress = false) ∧
      r.after.server.data = r.before.server.data ∧
      (r.after.isListenOnly = false → r.input.isApprovedRestart slaveAddress ∧
        r.output = .noResponse ∧ r.after.policyCalls =
          r.before.policyCalls ++ [(.restartCommunications,r.input.restartData)]) := by
  intro r hr hl
  obtain ⟨_,_,_,_,hstep⟩ := mem_records hr
  obtain ⟨hserver,hready,hleaves⟩ := rtuStep_listening cfg slaveAddress r.before r.input hl
  rw [← hstep] at hserver hready hleaves
  have hdata : r.after.server.data = r.before.server.data := congrArg Server.data hserver
  refine ⟨⟨fun h => ?_,fun h => ?_⟩,hdata,hleaves⟩
  · rw [← hready]
    exact h.1
  · exact ⟨hready.trans h,hdata,fun h' => (hleaves h').1⟩

def listeningSlave : Slave where
  server := .zeroed
  diagnostics := some { mbrtuDiagnosticsInit with listenOnly := 1 }
  policyCalls := []

/-- A Restart frame with the undefined data word 1234h, sent to a listening slave 11h
without a policy callback. -/
def undefinedRestart : RtuFrame :=
  ⟨ofList (appendCrc [0x11#8,0x08#8,0x00#8,0x01#8,0x12#8,0x34#8]),8,none,256⟩

theorem undefinedRestart_answered :
    listeningSlave.isListenOnly = true ∧
    (rtuStep Platform.standard 0x11#8 listeningSlave undefinedRestart).1 =
      .responseReady [0x11#8,0x88#8,0x03#8,0x07#8,0xC4#8] := by
  decide +kernel

def undefinedRestartRecord : Record Slave RtuFrame RtuResult :=
  let step := rtuStep Platform.standard 0x11#8 listeningSlave undefinedRestart
  ⟨listeningSlave,undefinedRestart,step.1,step.2⟩

theorem listenOnly_silent_unless_malformed_restart_undefined :
    undefinedRestartRecord.output.isReady = true ∧
    undefinedRestartRecord.after.server.data = listeningSlave.server.data := by
  have hmem : undefinedRestartRecord ∈
      records (rtuStep Platform.standard 0x11#8) listeningSlave [undefinedRestart] := by
    simp [records,undefinedRestartRecord]
  obtain ⟨_,hdata,_⟩ := listenOnly_silent_unless_malformed_restart Platform.standard 0x11#8
    listeningSlave [undefinedRestart] undefinedRestartRecord hmem (by rfl)
  exact ⟨by decide +kernel,hdata⟩

end ModbusStack
