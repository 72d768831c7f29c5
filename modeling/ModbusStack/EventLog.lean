import ModbusStack.DiagnosticsAccounting
import ModbusStack.DownwardRing

/-! The event log of the diagnostics object as a bounded history. -/
set_option autoImplicit false

namespace ModbusStack
open ByteMemory DownwardRing

/-- What a function can do to the object, as far as the log is concerned: push an event, clear
the log as Restart with FF00 does, or set fields outside of the log. -/
inductive LogOp where
  | push : Byte → LogOp
  | clear : LogOp
  | update : Diagnostics → LogOp

def LogOp.apply (d : Diagnostics) : LogOp → Diagnostics
  | .push event => d.pushEvent event
  | .clear => d.eraseLog
  | .update d' => { d' with
      eventLog := d.eventLog
      eventLogHead := d.eventLogHead
      eventLogCount := d.eventLogCount }

def applyOps (d : Diagnostics) (ops : List LogOp) : Diagnostics := ops.foldl LogOp.apply d

/-- The events pushed since the last clear, newest first. -/
def recorded (ops : List LogOp) : List Byte :=
  ops.foldl (fun log op => match op with
    | .push event => event :: log
    | .clear => []
    | .update _ => log) []

inductive DiagnosticsFunctionCall where
  | noteBusMessage : Bool → DiagnosticsFunctionCall
  | noteServerMessage : DiagnosticsFunctionCall
  | noteNormalCompletion : Bool → Bool → DiagnosticsFunctionCall
  | noteException : Byte → DiagnosticsFunctionCall
  | noteCommunicationError : Bool → Bool → DiagnosticsFunctionCall
  | noteCharacterOverrun : Bool → Bool → DiagnosticsFunctionCall
  | setExceptionStatus : Byte → DiagnosticsFunctionCall
  | setRegister : Word → DiagnosticsFunctionCall
  | setCommunicationStatus : Word → DiagnosticsFunctionCall
  | takePendingActions : DiagnosticsFunctionCall
  | processPdu : DiagnosticsPolicy → Byte → Mem Byte → Nat → Nat → DiagnosticsFunctionCall

def DiagnosticsFunctionCall.perform (d : Diagnostics) : DiagnosticsFunctionCall → Diagnostics
  | .noteBusMessage broadcast => d.noteBusMessage broadcast
  | .noteServerMessage => d.noteServerMessage
  | .noteNormalCompletion noResponse exclude => d.noteNormalCompletion noResponse exclude
  | .noteException code => d.noteException code
  | .noteCommunicationError broadcast overrun => d.noteCommunicationError broadcast overrun
  | .noteCharacterOverrun broadcast addressed => d.noteCharacterOverrun broadcast addressed
  | .setExceptionStatus status => d.setExceptionStatus status
  | .setRegister value => d.setRegister value
  | .setCommunicationStatus status => d.setCommunicationStatus status
  | .takePendingActions => d.takePendingActions.2
  | .processPdu policy address pdu len capacity =>
    (mbrtuDiagnosticsProcessPdu policy d address pdu len capacity).2.1

/-- A Restart with FF00 that the policy approves, in the state that the request finds. -/
def DiagnosticsFunctionCall.ClearsLog (d : Diagnostics) : DiagnosticsFunctionCall → Prop
  | .processPdu policy address pdu len capacity =>
    requestedAction pdu len = some (.restartCommunications,0xFF00#16) ∧
      policyAllows policy .restartCommunications 0xFF00#16 = true ∧
      ¬ (isBroadcast address = false ∧ d.isListenOnly = false ∧ capacity < 5)
  | _ => False

def Diagnostics.ring (d : Diagnostics) : RingLog Byte :=
  ⟨d.eventLog,d.eventLogHead.toNat,d.eventLogCount.toNat⟩

section Ring
variable {d : Diagnostics}

theorem pushEvent_ring (event : Byte) :
    (d.pushEvent event).ring = d.ring.push eventLogCapacity event := by
  have hzero : ∀ b : Byte, b = 0#8 ↔ b.toNat = 0 := fun b =>
    ⟨fun h => by rw [h]; rfl,fun h => BitVec.eq_of_toNat_eq h⟩
  have hhead' : (if d.eventLogCount = 0#8 then 0#8
      else if d.eventLogHead = 0#8 then BitVec.ofNat 8 (eventLogCapacity-1)
      else d.eventLogHead-1 : Byte).toNat = d.ring.next eventLogCapacity := by
    simp only [RingLog.next,Diagnostics.ring,hzero]
    by_cases hc : d.eventLogCount.toNat = 0
    · simp only [hc,if_true]
      rfl
    by_cases hh : d.eventLogHead.toNat = 0
    · simp only [hc,hh,if_false,if_true]
      rfl
    · simp only [hc,hh,if_false]
      rw [BitVec.toNat_sub_of_le (by rw [BitVec.le_def]; simp; omega)]
      rfl
  have hcount' : (if d.eventLogCount.toNat < eventLogCapacity then d.eventLogCount+1
      else d.eventLogCount : Byte).toNat =
      if d.eventLogCount.toNat < eventLogCapacity then d.eventLogCount.toNat+1
      else d.eventLogCount.toNat := by
    split
    · rename_i h
      rw [BitVec.toNat_add_of_lt]
      · rfl
      · simp only [eventLogCapacity] at h
        simp
        omega
    · rfl
  simp only [Diagnostics.pushEvent,RingLog.push,Diagnostics.ring] at hhead' ⊢
  rw [hhead',hcount']
  congr 1
  funext i
  simp [put,Function.update_apply]

theorem getEvent_ring (i : Nat) : d.getEvent i = d.ring.get? eventLogCapacity i := by
  by_cases h : i < d.eventLogCount.toNat
  · rw [Diagnostics.getEvent,if_neg (by omega),RingLog.get?,if_pos (show i < d.ring.count from h)]
    rfl
  · rw [Diagnostics.getEvent,if_pos (by omega),RingLog.get?,
      if_neg (show ¬ i < d.ring.count from h)]

end Ring

theorem applyOps_append (d : Diagnostics) (ops ops' : List LogOp) :
    applyOps d (ops ++ ops') = applyOps (applyOps d ops) ops' := List.foldl_append

theorem recorded_push (ops : List LogOp) (event : Byte) :
    recorded (ops ++ [.push event]) = event :: recorded ops := by
  simp [recorded]

theorem recorded_clear (ops ops' : List LogOp) :
    recorded (ops ++ .clear :: ops') = recorded ops' := by
  simp [recorded]

theorem recorded_update (ops : List LogOp) (d : Diagnostics) :
    recorded (ops ++ [.update d]) = recorded ops := by
  simp [recorded]

/-- The log holds the newest of the recorded events after every history. -/
theorem applyOps_represents (ops : List LogOp) :
    Represents eventLogCapacity (applyOps mbrtuDiagnosticsInit ops).ring (recorded ops) := by
  induction ops using List.reverseRecOn with
  | nil => exact .empty (by decide) rfl
  | append_singleton ops op ih =>
    rw [applyOps_append]
    cases op with
    | push event =>
      rw [recorded_push]
      change Represents _ (Diagnostics.pushEvent _ event).ring _
      rw [pushEvent_ring]
      exact ih.push event
    | clear =>
      rw [recorded_clear]
      exact .empty (Nat.zero_lt_succ 63) rfl
    | update d =>
      rw [recorded_update]
      exact ih

theorem applyOps_push (d : Diagnostics) (events : List Byte) :
    applyOps d (events.map .push) = events.foldl Diagnostics.pushEvent d := by
  rw [applyOps,List.foldl_map]
  rfl

section Decompositions
variable {d d' : Diagnostics}

theorem LogPushed.ops {events : List Byte} (h : LogPushed d events d') :
    applyOps d (events.map .push ++ [.update d']) = d' := by
  obtain ⟨hl,hh,hc⟩ := h
  rw [applyOps_append,applyOps_push]
  simp only [applyOps,List.foldl_cons,List.foldl_nil,LogOp.apply]
  rw [← hl,← hh,← hc]

theorem LogPushed.exists_ops {events : List Byte} (h : LogPushed d events d') :
    ∃ ops, applyOps d ops = d' ∧ LogOp.clear ∉ ops :=
  ⟨_,h.ops,by simp⟩

theorem noteCharacterOverrun_log (broadcast addressed : Bool) :
    LogPushed d [d.makeReceiveEvent broadcast false true]
      (d.noteCharacterOverrun broadcast addressed) := by
  cases addressed <;> exact ⟨rfl,rfl,rfl⟩

variable (d)

/-- An approved action clears the log only as Restart with FF00. -/
theorem perform_ops (broadcast : Bool) (action : DiagnosticsAction) (data : Word) :
    ∃ ops, applyOps d ops = action.perform broadcast data d ∧
      (LogOp.clear ∈ ops ↔ action = .restartCommunications ∧ data = 0xFF00#16) := by
  by_cases hclear : action = .restartCommunications ∧ data = 0xFF00#16
  · obtain ⟨rfl,rfl⟩ := hclear
    have hpush : LogPushed d.eraseLog [0x00#8]
        (DiagnosticsAction.restartCommunications.perform broadcast 0xFF00#16 d) := ⟨rfl,rfl,rfl⟩
    exact ⟨_,(applyOps_append d [.clear] _).trans hpush.ops,by simp⟩
  · have hpush : ∃ events, LogPushed d events (action.perform broadcast data d) := by
      cases action with
      | restartCommunications =>
        have hdata : data ≠ 0xFF00#16 := fun h => hclear ⟨rfl,h⟩
        simp only [DiagnosticsAction.perform,hdata,if_false]
        exact ⟨[0x00#8],rfl,rfl,rfl⟩
      | forceListenOnly =>
        have hset : LogPushed d [] { d with listenOnly := 1 } := ⟨rfl,rfl,rfl⟩
        have hnote := hset.trans (noteNormalCompletion_log _ (!broadcast) false)
        have hpush : LogPushed (Diagnostics.noteNormalCompletion { d with listenOnly := 1 } (!broadcast) false)
          [0x04#8] (DiagnosticsAction.forceListenOnly.perform broadcast data d) := ⟨rfl,rfl,rfl⟩
        exact ⟨_,hnote.trans hpush⟩
      | clearCountersAndRegister =>
        have hset : LogPushed d [] { d.clearCounters with diagnosticRegister := 0 } := ⟨rfl,rfl,rfl⟩
        exact ⟨_,hset.trans (noteNormalCompletion_log _ false true)⟩
      | clearOverrunCounter =>
        have hset : LogPushed d [] { d with busCharacterOverrunCount := 0 } := ⟨rfl,rfl,rfl⟩
        cases broadcast with
        | true => exact ⟨_,hset.trans (noteNormalCompletion_log _ false false)⟩
        | false => exact ⟨[],hset⟩
    obtain ⟨events,hevents⟩ := hpush
    obtain ⟨ops,hops,hno⟩ := hevents.exists_ops
    exact ⟨ops,hops,by simp [hno,hclear]⟩

theorem processPdu_ops (policy : DiagnosticsPolicy) (address : Byte) (pdu : Mem Byte)
    (len capacity : Nat) :
    ∃ ops, applyOps d ops = (mbrtuDiagnosticsProcessPdu policy d address pdu len capacity).2.1 ∧
      (LogOp.clear ∈ ops ↔
        (DiagnosticsFunctionCall.processPdu policy address pdu len capacity).ClearsLog d) := by
  have hkept : ∀ {d'} {events : List Byte}, LogPushed d events d' →
      ¬ (DiagnosticsFunctionCall.processPdu policy address pdu len capacity).ClearsLog d →
      ∃ ops, applyOps d ops = d' ∧ (LogOp.clear ∈ ops ↔
        (DiagnosticsFunctionCall.processPdu policy address pdu len capacity).ClearsLog d) := by
    intro d' events hpush hno
    obtain ⟨ops,hops,hclear⟩ := hpush.exists_ops
    exact ⟨ops,hops,by simp [hclear,hno]⟩
  have hsame : LogPushed d [] d := ⟨rfl,rfl,rfl⟩
  by_cases hlen : 1 ≤ len ∧ len ≤ modbusPduMaxSize
  · have hdenied : Denied policy pdu len →
        ¬ (DiagnosticsFunctionCall.processPdu policy address pdu len capacity).ClearsLog d := by
      rintro hd ⟨ha,hp,-⟩
      rw [hd _ _ ha] at hp
      cases hp
    have hout := mbrtuDiagnosticsProcessPdu_outcome policy d address pdu len capacity hlen
    generalize mbrtuDiagnosticsProcessPdu policy d address pdu len capacity = out at hout ⊢
    cases hout with
    | notHandled hf =>
      refine hkept hsame fun hc => ?_
      rw [(requestedAction_spec hc.1).1] at hf
      cases hf
    | unheard hf hl hr =>
      refine hkept hsame fun hc => ?_
      obtain ⟨h8,h5,hsub,-,-⟩ := requestedAction_spec hc.1
      simp [isRestartPdu,h8,h5,hsub,DiagnosticsAction.subfunction] at hr
    | ignored hf hb hd => exact hkept (noteNormalCompletion_log d false true) (hdenied hd)
    | unanswered hf hb hl hd => exact hkept (noteNormalCompletion_log d true true) (hdenied hd)
    | refused code hf hcode hb hd => exact hkept hsame (hdenied hd)
    | returned response hf hb ha hhead hmin hmax hself =>
      refine hkept hsame fun hc => ?_
      rw [hc.1] at ha
      cases ha
    | approved action data ha hp hl =>
      have hclears : (DiagnosticsFunctionCall.processPdu policy address pdu len capacity).ClearsLog d ↔
          (action = .restartCommunications ∧ data = 0xFF00#16) ∧
            ¬ (isBroadcast address = false ∧ d.isListenOnly = false ∧ capacity < 5) := by
        simp only [DiagnosticsFunctionCall.ClearsLog,ha,Option.some.injEq,Prod.mk.injEq]
        constructor
        · rintro ⟨heq,-,hroom⟩
          exact ⟨heq,hroom⟩
        · rintro ⟨⟨rfl,rfl⟩,hroom⟩
          exact ⟨⟨rfl,rfl⟩,hp,hroom⟩
      simp only [approvedStep]
      split
      · rename_i hanswered
        split
        · rename_i hroom
          refine hkept hsame ?_
          rw [hclears]
          rintro ⟨⟨rfl,-⟩,hno⟩
          simp only [DiagnosticsAction.isAnswered,Bool.and_eq_true,Bool.not_eq_true'] at hanswered
          exact hno ⟨hanswered.1,hanswered.2,hroom⟩
        · rename_i hroom
          obtain ⟨ops,hops,hclear⟩ := perform_ops d (isBroadcast address) action data
          exact ⟨ops,hops,hclear.trans (by rw [hclears]; simp [hroom])⟩
      · rename_i hanswered
        obtain ⟨ops,hops,hclear⟩ := perform_ops d (isBroadcast address) action data
        refine ⟨ops,hops,hclear.trans ?_⟩
        rw [hclears]
        constructor
        · rintro ⟨rfl,rfl⟩
          refine ⟨⟨rfl,rfl⟩,fun hno => hanswered ?_⟩
          simp [DiagnosticsAction.isAnswered,hno.1,hno.2.1]
        · exact fun h => h.1
  · have hbad : len = 0 ∨ modbusPduMaxSize < len := by omega
    simp only [mbrtuDiagnosticsProcessPdu,hbad,if_true]
    refine hkept hsame fun hc => ?_
    have h5 := (requestedAction_spec hc.1).2.1
    simp only [modbusPduMaxSize] at hlen
    omega

/-- Every call is made of the three operations, and clears the log only as Restart with FF00. -/
theorem functionCall_ops (call : DiagnosticsFunctionCall) :
    ∃ ops, applyOps d ops = call.perform d ∧ (LogOp.clear ∈ ops ↔ call.ClearsLog d) := by
  have hkept : ∀ {d'} {events : List Byte}, LogPushed d events d' →
      ∃ ops, applyOps d ops = d' ∧ (LogOp.clear ∈ ops ↔ False) := by
    intro d' events hpush
    obtain ⟨ops,hops,hclear⟩ := hpush.exists_ops
    exact ⟨ops,hops,by simp [hclear]⟩
  have hset : ∀ {d' : Diagnostics}, LogPushed d [] d' →
      ∃ ops, applyOps d ops = d' ∧ (LogOp.clear ∈ ops ↔ False) := fun h => hkept h
  cases call with
  | noteBusMessage broadcast => exact hkept (noteBusMessage_log d broadcast)
  | noteServerMessage => exact hkept (noteServerMessage_log d)
  | noteNormalCompletion noResponse exclude => exact hkept (noteNormalCompletion_log d noResponse exclude)
  | noteException code => exact hkept (noteException_log d code)
  | noteCommunicationError broadcast overrun => exact hkept (noteCommunicationError_log d broadcast overrun)
  | noteCharacterOverrun broadcast addressed => exact hkept (noteCharacterOverrun_log broadcast addressed)
  | setExceptionStatus status => exact hset ⟨rfl,rfl,rfl⟩
  | setRegister value => exact hset ⟨rfl,rfl,rfl⟩
  | setCommunicationStatus status => exact hset ⟨rfl,rfl,rfl⟩
  | takePendingActions => exact hset ⟨rfl,rfl,rfl⟩
  | processPdu policy address pdu len capacity => exact processPdu_ops d policy address pdu len capacity

end Decompositions

def retained (ops : List LogOp) : List Byte := (recorded ops).take eventLogCapacity

section Histories
variable (ops : List LogOp)

theorem eventLogCount_eq : (applyOps mbrtuDiagnosticsInit ops).eventLogCount.toNat = (retained ops).length := by
  rw [retained,List.length_take]
  exact (applyOps_represents ops).count_eq

theorem getEvent_eq (i : Nat) : (applyOps mbrtuDiagnosticsInit ops).getEvent i = (retained ops)[i]? := by
  rw [getEvent_ring]
  exact (applyOps_represents ops).get?_eq i

theorem retained_length_le : (retained ops).length ≤ eventLogCapacity := by
  rw [retained,List.length_take]
  exact min_le_left _ _

theorem commEventLogResponse_eq :
    let d := applyOps mbrtuDiagnosticsInit ops
    commEventLogResponse d = [0x0C#8,BitVec.ofNat 8 (6+(retained ops).length)] ++
      writeBe16 d.communicationStatus ++ writeBe16 d.eventCounter ++ writeBe16 d.messageCount ++
      retained ops := by
  intro d
  have hcount : d.eventLogCount.toNat = (retained ops).length := eventLogCount_eq ops
  have hbyte : 6#8+d.eventLogCount = BitVec.ofNat 8 (6+(retained ops).length) := by
    apply BitVec.eq_of_toNat_eq
    rw [BitVec.toNat_add,hcount,BitVec.toNat_ofNat]
    rfl
  have hevents : ((List.range d.eventLogCount.toNat).map fun i => (d.getEvent i).getD 0#8) =
      retained ops := by
    apply List.ext_getElem?
    intro i
    rw [List.getElem?_map,hcount]
    by_cases hi : i < (retained ops).length
    · rw [List.getElem?_range hi,Option.map_some,getEvent_eq,List.getElem?_eq_getElem hi]
      rfl
    · rw [List.getElem?_eq_none (by simpa using hi),List.getElem?_eq_none (by simpa using hi)]
      rfl
  rw [commEventLogResponse,hbyte,hevents]

end Histories

structure EventLogIsHistory : Prop where
  count : ∀ ops, (applyOps mbrtuDiagnosticsInit ops).eventLogCount.toNat =
    min 64 (recorded ops).length
  head : ∀ ops, (applyOps mbrtuDiagnosticsInit ops).eventLogHead.toNat < 64
  event : ∀ ops i, (applyOps mbrtuDiagnosticsInit ops).getEvent i =
    if i < (applyOps mbrtuDiagnosticsInit ops).eventLogCount.toNat then (recorded ops)[i]? else none
  present : ∀ ops i, i < (applyOps mbrtuDiagnosticsInit ops).eventLogCount.toNat →
    i < (recorded ops).length
  cleared : ∀ before after i,
    (applyOps mbrtuDiagnosticsInit (before ++ .clear :: after)).getEvent i =
      (applyOps mbrtuDiagnosticsInit after).getEvent i
  response : ∀ ops policy address pdu capacity,
    let d := applyOps mbrtuDiagnosticsInit ops
    pdu 0 = 0x0C#8 → isBroadcast address = false → d.isListenOnly = false →
    8+d.eventLogCount.toNat ≤ capacity →
    ∃ byteCount : Byte, byteCount.toNat = 6+d.eventLogCount.toNat ∧
      mbrtuDiagnosticsProcessPdu policy d address pdu 1 capacity =
        (.response ([0x0C#8,byteCount] ++ writeBe16 d.communicationStatus ++
          writeBe16 d.eventCounter ++ writeBe16 d.messageCount ++
          (recorded ops).take d.eventLogCount.toNat),d,[])
  calls : ∀ d (call : DiagnosticsFunctionCall), ∃ ops,
    applyOps d ops = call.perform d ∧ (LogOp.clear ∈ ops ↔ call.ClearsLog d)

theorem eventLog_isHistory : EventLogIsHistory := by
  have hcount : ∀ ops, (applyOps mbrtuDiagnosticsInit ops).eventLogCount.toNat =
      min 64 (recorded ops).length := fun ops => (applyOps_represents ops).count_eq
  have hcapacity : eventLogCapacity = 64 := rfl
  refine ⟨hcount,fun ops => (applyOps_represents ops).head_lt,?_,?_,?_,?_,functionCall_ops⟩
  · intro ops i
    rw [getEvent_eq,retained,hcount]
    split
    · rename_i hi
      exact List.getElem?_take_of_lt (by omega)
    · rename_i hi
      rw [List.getElem?_eq_none_iff,List.length_take]
      omega
  · intro ops i hi
    rw [hcount] at hi
    omega
  · intro before after i
    rw [getEvent_eq,getEvent_eq,retained,retained,recorded_clear]
  · intro ops policy address pdu capacity d h0 hb hl hroom
    have hretained : (recorded ops).take d.eventLogCount.toNat = retained ops := by
      rw [retained,List.take_eq_take_iff,hcount ops]
      omega
    have hlength := retained_length_le ops
    have hd : d.eventLogCount.toNat = (retained ops).length := eventLogCount_eq ops
    have hresponse := commEventLogResponse_eq ops
    refine ⟨BitVec.ofNat 8 (6+(retained ops).length),?_,?_⟩
    · rw [BitVec.toNat_ofNat,hd]
      omega
    · rw [hretained,← hresponse]
      have hlong : (commEventLogResponse d).length = 8+(retained ops).length := by
        rw [hresponse]
        simp
        omega
      have hroom' : ¬ capacity < (commEventLogResponse d).length := by omega
      have hcode : (pdu 0).toNat = 0x0C := by rw [h0]; rfl
      have hdiag : isDiagnosticsFunction (pdu 0) = true := by rw [h0]; rfl
      have hlen : ¬ (1 = 0 ∨ modbusPduMaxSize < 1) := by decide
      simp only [mbrtuDiagnosticsProcessPdu,hlen,if_false,hdiag,hl,hcode,not_true_eq_false,
        Bool.false_eq_true,false_and,returnStatus,hb,ne_eq,hroom']
      rfl

end ModbusStack
