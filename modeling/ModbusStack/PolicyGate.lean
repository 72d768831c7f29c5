import ModbusStack.BroadcastFrames

/-! The policy gate: without an approved request of the exact form, one frame neither changes
the gated fields, nor lets a counter fall, nor loses an event. -/
set_option autoImplicit false

namespace ModbusStack
open ByteMemory

inductive DiagnosticsCounter where
  | event | message | busCommunicationError | busExceptionError | serverMessage
  | serverNoResponse | serverNak | serverBusy | busCharacterOverrun
  deriving DecidableEq, Repr

def Diagnostics.count (d : Diagnostics) : DiagnosticsCounter → Nat
  | .event => d.eventCounter.toNat
  | .message => d.messageCount.toNat
  | .busCommunicationError => d.busCommunicationErrorCount.toNat
  | .busExceptionError => d.busExceptionErrorCount.toNat
  | .serverMessage => d.serverMessageCount.toNat
  | .serverNoResponse => d.serverNoResponseCount.toNat
  | .serverNak => d.serverNakCount.toNat
  | .serverBusy => d.serverBusyCount.toNat
  | .busCharacterOverrun => d.busCharacterOverrunCount.toNat

/-- The event log is what it would be after these events have been pushed. -/
def LogPushed (d : Diagnostics) (events : List Byte) (d' : Diagnostics) : Prop :=
  let e := events.foldl Diagnostics.pushEvent d
  d'.eventLog = e.eventLog ∧ d'.eventLogHead = e.eventLogHead ∧ d'.eventLogCount = e.eventLogCount

def LogKept (d d' : Diagnostics) : Prop := ∃ events, LogPushed d events d'

theorem pushEvent_congr {d d' : Diagnostics} (event : Byte) (h : LogPushed d [] d') :
    LogPushed (d.pushEvent event) [] (d'.pushEvent event) := by
  obtain ⟨hl,hh,hc⟩ := h
  simp only [List.foldl_nil] at hl hh hc
  simp only [LogPushed,List.foldl_nil,Diagnostics.pushEvent,hl,hh,hc,and_self]

theorem foldl_pushEvent_congr (events : List Byte) {d d' : Diagnostics} (h : LogPushed d [] d') :
    LogPushed (events.foldl Diagnostics.pushEvent d) [] (events.foldl Diagnostics.pushEvent d') := by
  induction events generalizing d d' with
  | nil => exact h
  | cons e events ih => exact ih (pushEvent_congr e h)

theorem LogPushed.trans {d d' d'' : Diagnostics} {events events' : List Byte}
    (h : LogPushed d events d') (h' : LogPushed d' events' d'') :
    LogPushed d (events ++ events') d'' := by
  have hsame : LogPushed (events.foldl Diagnostics.pushEvent d) [] d' := h
  obtain ⟨hl,hh,hc⟩ := foldl_pushEvent_congr events' hsame
  obtain ⟨hl',hh',hc'⟩ := h'
  simp only [LogPushed,List.foldl_append]
  exact ⟨hl'.trans hl,hh'.trans hh,hc'.trans hc⟩

/-- No gated field changed, no counter fell, no event was lost. -/
structure Kept (d d' : Diagnostics) : Prop where
  gated : d'.gated = d.gated
  counters : ∀ c, d.count c ≤ d'.count c
  log : LogKept d d'

namespace Kept
variable {d d' d'' : Diagnostics}

theorem refl (d : Diagnostics) : Kept d d :=
  ⟨rfl,fun _ => Nat.le_refl _,[],rfl,rfl,rfl⟩

theorem trans (h : Kept d d') (h' : Kept d' d'') : Kept d d'' := by
  obtain ⟨events,he⟩ := h.log
  obtain ⟨events',he'⟩ := h'.log
  exact ⟨h'.gated.trans h.gated,fun c => (h.counters c).trans (h'.counters c),
    events ++ events',he.trans he'⟩

end Kept

theorem incrementSaturating_le (v : Word) : v.toNat ≤ (incrementSaturating v).toNat := by
  unfold incrementSaturating
  split
  · rename_i h
    rw [BitVec.toNat_add_of_lt]
    · omega
    · have := v.isLt
      have hne : v.toNat ≠ 65535 := fun heq => h (BitVec.eq_of_toNat_eq heq)
      simp
      omega
  · exact Nat.le_refl _

section Notes
variable (d : Diagnostics)

theorem noteBusMessage_log (broadcast : Bool) :
    LogPushed d [d.makeReceiveEvent broadcast false false] (d.noteBusMessage broadcast) :=
  ⟨rfl,rfl,rfl⟩

theorem noteServerMessage_log : LogPushed d [] d.noteServerMessage := ⟨rfl,rfl,rfl⟩

theorem noteNormalCompletion_log (noResponse exclude : Bool) :
    LogPushed d [d.makeSendEvent 0] (d.noteNormalCompletion noResponse exclude) := by
  cases noResponse <;> cases exclude <;> exact ⟨rfl,rfl,rfl⟩

theorem noteException_log (code : Byte) :
    LogPushed d [d.makeSendEvent code] (d.noteException code) := by
  unfold Diagnostics.noteException
  dsimp only
  split
  · exact ⟨rfl,rfl,rfl⟩
  split <;> exact ⟨rfl,rfl,rfl⟩

theorem noteCommunicationError_log (broadcast overrun : Bool) :
    LogPushed d [d.makeReceiveEvent broadcast true overrun]
      (d.noteCommunicationError broadcast overrun) := by
  cases overrun <;> exact ⟨rfl,rfl,rfl⟩

theorem noteBusMessage_kept (broadcast : Bool) : Kept d (d.noteBusMessage broadcast) := by
  refine ⟨rfl,fun c => ?_,_,noteBusMessage_log d broadcast⟩
  cases c <;> first
    | exact Nat.le_refl _
    | exact incrementSaturating_le _

theorem noteServerMessage_kept : Kept d d.noteServerMessage := by
  refine ⟨rfl,fun c => ?_,_,noteServerMessage_log d⟩
  cases c <;> first
    | exact Nat.le_refl _
    | exact incrementSaturating_le _

theorem noteNormalCompletion_kept (noResponse exclude : Bool) :
    Kept d (d.noteNormalCompletion noResponse exclude) := by
  refine ⟨noteNormalCompletion_gated d _ _,fun c => ?_,_,noteNormalCompletion_log d _ _⟩
  cases noResponse <;> cases exclude <;> cases c <;> first
    | exact Nat.le_refl _
    | exact incrementSaturating_le _

theorem noteException_kept (code : Byte) : Kept d (d.noteException code) := by
  refine ⟨noteException_gated d code,fun c => ?_,_,noteException_log d code⟩
  unfold Diagnostics.noteException
  dsimp only
  split
  · cases c <;> first
      | exact Nat.le_refl _
      | exact incrementSaturating_le _
  split <;> cases c <;> first
    | exact Nat.le_refl _
    | exact incrementSaturating_le _

theorem noteCommunicationError_kept (broadcast overrun : Bool) :
    Kept d (d.noteCommunicationError broadcast overrun) := by
  refine ⟨noteCommunicationError_gated d _ _,fun c => ?_,_,noteCommunicationError_log d _ _⟩
  cases overrun <;> cases c <;> first
    | exact Nat.le_refl _
    | exact incrementSaturating_le _

end Notes

def DiagnosticsAction.gatedAfter (d : Diagnostics) : DiagnosticsAction → Byte × Byte × Word
  | .restartCommunications => (0#8,d.pendingActions ||| 0x01#8,d.diagnosticRegister)
  | .forceListenOnly => (1#8,d.pendingActions ||| 0x02#8,d.diagnosticRegister)
  | .clearCountersAndRegister => (d.listenOnly,d.pendingActions,0#16)
  | .clearOverrunCounter => d.gated

/-- Restart and Clear Counters zero every counter, Clear Overrun its own; the others do not
fall. -/
def DiagnosticsAction.CounterAfter (action : DiagnosticsAction) (c : DiagnosticsCounter)
    (before after : Nat) : Prop :=
  match action with
  | .restartCommunications | .clearCountersAndRegister => after = 0
  | .clearOverrunCounter => if c = .busCharacterOverrun then after = 0 else before ≤ after
  | .forceListenOnly => before ≤ after

/-- What an approved action changes, and nothing else. -/
structure ActionEffect (action : DiagnosticsAction) (data : Word) (d d' : Diagnostics) : Prop where
  gated : d'.gated = action.gatedAfter d
  counters : ∀ c, action.CounterAfter c (d.count c) (d'.count c)
  log : if action = .restartCommunications ∧ data = 0xFF00#16 then
      ∀ i, d'.getEvent i = if i = 0 then some 0x00#8 else none
    else LogKept d d'

theorem LogKept.trans {d d' d'' : Diagnostics} (h : LogKept d d') (h' : LogKept d' d'') :
    LogKept d d'' := by
  obtain ⟨events,he⟩ := h
  obtain ⟨events',he'⟩ := h'
  exact ⟨events ++ events',he.trans he'⟩

theorem restart_effect (broadcast : Bool) (data : Word) (d : Diagnostics) :
    ActionEffect .restartCommunications data d
      (DiagnosticsAction.perform broadcast data d .restartCommunications) := by
  by_cases hd : data = 0xFF00#16
  · simp only [DiagnosticsAction.perform,hd,if_true]
    refine ⟨rfl,fun c => (by cases c <;> rfl),?_⟩
    rw [if_pos ⟨rfl,rfl⟩]
    intro i
    by_cases hi : i = 0
    · subst hi
      rfl
    · rw [if_neg hi]
      exact if_pos (Nat.one_le_iff_ne_zero.mpr hi)
  · simp only [DiagnosticsAction.perform,hd,if_false]
    refine ⟨rfl,fun c => (by cases c <;> rfl),?_⟩
    rw [if_neg fun h => hd h.2]
    exact ⟨[0x00#8],rfl,rfl,rfl⟩

theorem forceListenOnly_effect (broadcast : Bool) (data : Word) (d : Diagnostics) :
    ActionEffect .forceListenOnly data d
      (DiagnosticsAction.perform broadcast data d .forceListenOnly) := by
  refine ⟨?_,fun c => ?_,{ d with listenOnly := 1 }.makeSendEvent 0 :: [0x04#8],?_⟩
  · cases broadcast <;> rfl
  · cases broadcast <;> cases c <;> first
      | exact Nat.le_refl _
      | exact incrementSaturating_le _
  · cases broadcast <;> exact ⟨rfl,rfl,rfl⟩

theorem clearCounters_effect (broadcast : Bool) (data : Word) (d : Diagnostics) :
    ActionEffect .clearCountersAndRegister data d
      (DiagnosticsAction.perform broadcast data d .clearCountersAndRegister) :=
  ⟨rfl,fun c => (by cases c <;> rfl),[d.makeSendEvent 0],rfl,rfl,rfl⟩

theorem clearOverrun_effect (data : Word) (d : Diagnostics) :
    ActionEffect .clearOverrunCounter data d
      ({ d with busCharacterOverrunCount := 0 }.noteNormalCompletion false false) := by
  refine ⟨rfl,fun c => ?_,[d.makeSendEvent 0],rfl,rfl,rfl⟩
  cases c <;> first
    | exact rfl
    | exact Nat.le_refl _
    | exact incrementSaturating_le _

theorem ActionEffect.after {action : DiagnosticsAction} {data : Word} {d d₁ d' : Diagnostics}
    (h : Kept d d₁) (he : ActionEffect action data d₁ d') : ActionEffect action data d d' := by
  refine ⟨?_,fun c => ?_,?_⟩
  · have hg := h.gated
    simp only [Diagnostics.gated,Prod.mk.injEq] at hg
    obtain ⟨hlisten,hpending,hregister⟩ := hg
    rw [he.gated]
    cases action <;>
      simp only [DiagnosticsAction.gatedAfter,Diagnostics.gated,hlisten,hpending,hregister]
  · have hc := he.counters c
    have hle := h.counters c
    cases action with
    | restartCommunications => exact hc
    | clearCountersAndRegister => exact hc
    | forceListenOnly => exact hle.trans hc
    | clearOverrunCounter =>
      simp only [DiagnosticsAction.CounterAfter] at hc ⊢
      split
      · rename_i hover
        rwa [if_pos hover] at hc
      · rename_i hover
        rw [if_neg hover] at hc
        exact hle.trans hc
  · have hl := he.log
    split
    · rename_i hff
      rwa [if_pos hff] at hl
    · rename_i hff
      rw [if_neg hff] at hl
      exact h.log.trans hl

theorem requestedAction_spec {pdu : Mem Byte} {len : Nat} {action : DiagnosticsAction} {data : Word}
    (h : requestedAction pdu len = some (action,data)) :
    pdu 0 = 0x08#8 ∧ len = 5 ∧ readBe16 (pdu.off 1) = action.subfunction ∧
      data = readBe16 (pdu.off 3) ∧ (data = 0x0000#16 ∨ action = .restartCommunications ∧ data = 0xFF00#16) := by
  have hword : ∀ n : Nat, (readBe16 (pdu.off 1)).toNat = n →
      readBe16 (pdu.off 1) = BitVec.ofNat 16 n := by
    intro n hn
    rw [← hn]
    simp
  unfold requestedAction at h
  split at h
  · rename_i hf
    refine ⟨hf.1,hf.2,?_⟩
    dsimp only at h
    split at h <;> try cases h
    all_goals
      rename_i hsub
      split at h
      · rename_i hdata
        cases h
        exact ⟨hword _ hsub,rfl,by tauto⟩
      · cases h
  · cases h

/-- Only the two actions that account for themselves are left out by the caller. -/
theorem selfAccounted_action {f : RtuFrame} {action : DiagnosticsAction} {data : Word}
    (h : requestedAction (f.request.off 1) (f.len-3) = some (action,data)) :
    selfAccounted f.request (f.len-3) =
      decide (action = .restartCommunications ∨ action = .clearCountersAndRegister) := by
  obtain ⟨h8,h5,hsub,-,-⟩ := requestedAction_spec h
  have h1 : f.request 1 = 0x08#8 := h8
  have h2 : f.request 2 = hiByte action.subfunction := by
    rw [← hsub,readBe16_off,hiByte_be16]
    rfl
  have h3 : f.request 3 = loByte action.subfunction := by
    rw [← hsub,readBe16_off,loByte_be16]
    rfl
  simp only [selfAccounted,h1,h2,h3,h5]
  cases action <;> rfl

section Frames
variable {cfg : Platform} {slaveAddress : Byte} {s : Slave} {f : RtuFrame} {d : Diagnostics}

def SlaveKept (s s' : Slave) : Prop :=
  ∀ d, s.diagnostics = some d → ∃ d', s'.diagnostics = some d' ∧ Kept d d'

theorem SlaveKept.refl (s : Slave) : SlaveKept s s := fun d hd => ⟨d,hd,.refl d⟩

theorem SlaveKept.note {s s' : Slave} (h : SlaveKept s s') (g : Diagnostics → Diagnostics)
    (hg : ∀ d, Kept d (g d)) : SlaveKept s (s'.note g) := by
  intro d hd
  obtain ⟨d',hd',hk⟩ := h d hd
  exact ⟨g d',by simp [Slave.note,hd'],hk.trans (hg d')⟩

theorem SlaveKept.heard (s : Slave) (f : RtuFrame) : SlaveKept s (s.heard f) :=
  ((SlaveKept.refl s).note _ fun d => noteBusMessage_kept d _).note _ noteServerMessage_kept

theorem SlaveKept.noteResponse {s s' : Slave} (h : SlaveKept s s') (response : List Byte)
    (normal : Diagnostics → Diagnostics) (hn : ∀ d, Kept d (normal d)) :
    SlaveKept s (s'.noteResponse response normal) := by
  refine h.note _ fun d => ?_
  split
  · exact noteException_kept d _
  · exact hn d

/-- The diagnostics branch leaves a kept object, or has carried out an approved action. -/
theorem DiagnosticsOutcome.kept {policy : DiagnosticsPolicy} {address : Byte} {pdu : Mem Byte}
    {len capacity : Nat} {out : DiagnosticsStep}
    (h : DiagnosticsOutcome policy d address pdu len capacity out) :
    (Kept d out.2.1 ∧ (out.2.2 = [] ∨ ∃ action data, requestedAction pdu len = some (action,data) ∧
      out.2.2 = [(action,data)])) ∨
    ∃ action data, requestedAction pdu len = some (action,data) ∧
      policyAllows policy action data = true ∧ out.2.2 = [(action,data)] ∧
      out.2.1 = action.perform (isBroadcast address) data d ∧
      (out.1 = .noResponse ∧ action.isAnswered (isBroadcast address) d.isListenOnly = false ∨
        out.1 = .response ([0x08#8] ++ writeBe16 action.subfunction ++ writeBe16 data) ∧
          action.isAnswered (isBroadcast address) d.isListenOnly = true) := by
  have hdenied : deniedCalls policy pdu len = [] ∨ ∃ action data,
      requestedAction pdu len = some (action,data) ∧ deniedCalls policy pdu len = [(action,data)] := by
    cases ha : requestedAction pdu len with
    | none => exact .inl (by rw [deniedCalls,ha])
    | some a =>
      obtain ⟨action,data⟩ := a
      simp only [deniedCalls,ha,policyCall]
      split
      · exact .inr ⟨action,data,rfl,rfl⟩
      · exact .inl rfl
  cases h with
  | notHandled _ => exact .inl ⟨.refl d,.inl rfl⟩
  | unheard _ _ _ => exact .inl ⟨.refl d,.inl rfl⟩
  | ignored _ _ _ => exact .inl ⟨noteNormalCompletion_kept d _ _,hdenied⟩
  | unanswered _ _ _ _ => exact .inl ⟨noteNormalCompletion_kept d _ _,hdenied⟩
  | refused _ _ _ _ _ => exact .inl ⟨.refl d,hdenied⟩
  | returned _ _ _ _ _ _ _ _ => exact .inl ⟨.refl d,.inl rfl⟩
  | approved action data ha hp _ =>
    simp only [approvedStep]
    split
    · rename_i hans
      split
      · exact .inl ⟨.refl d,.inr ⟨action,data,ha,rfl⟩⟩
      · exact .inr ⟨action,data,ha,hp,rfl,rfl,.inr ⟨rfl,hans⟩⟩
    · rename_i hans
      exact .inr ⟨action,data,ha,hp,rfl,rfl,.inl ⟨rfl,by simpa using hans⟩⟩

structure Approved (slaveAddress : Byte) (s : Slave) (f : RtuFrame) (out : RtuResult × Slave)
    (action : DiagnosticsAction) (data : Word) : Prop where
  heard : Heard slaveAddress f
  requested : requestedAction (f.request.off 1) (f.len-3) = some (action,data)
  allowed : policyAllows f.policy action data = true
  calls : out.2.policyCalls = s.policyCalls ++ [(action,data)]
  result : out.1 = .noResponse ∨ out.1.isReady = true
  effect : ∀ d, s.diagnostics = some d → ∃ d', out.2.diagnostics = some d' ∧
    ActionEffect action data d d'

def CallsOnce (slaveAddress : Byte) (s : Slave) (f : RtuFrame) (out : RtuResult × Slave) : Prop :=
  out.2.policyCalls = s.policyCalls ∨ ∃ action data, Heard slaveAddress f ∧
    requestedAction (f.request.off 1) (f.len-3) = some (action,data) ∧
    out.2.policyCalls = s.policyCalls ++ [(action,data)]

theorem CallsOnce.of_calls {out : RtuResult × Slave} {calls : List (DiagnosticsAction × Word)}
    (hh : Heard slaveAddress f) (hout : out.2.policyCalls = s.policyCalls ++ calls)
    (hc : calls = [] ∨ ∃ action data,
      requestedAction (f.request.off 1) (f.len-3) = some (action,data) ∧ calls = [(action,data)]) :
    CallsOnce slaveAddress s f out := by
  rcases hc with rfl | ⟨action,data,ha,rfl⟩
  · exact .inl (hout.trans (List.append_nil _))
  · exact .inr ⟨action,data,hh,ha,hout⟩

/-- The object after an approved action and its completion, whoever has noted that. -/
def DiagnosticsAction.settle (broadcast : Bool) (data : Word) (d : Diagnostics) :
    DiagnosticsAction → Diagnostics
  | .clearOverrunCounter => { d with busCharacterOverrunCount := 0 }.noteNormalCompletion false false
  | action => action.perform broadcast data d

/-- With an answer the caller notes the completion of Clear Overrun. -/
theorem answered_settle {action : DiagnosticsAction} {data : Word} {response : List Byte}
    (h : requestedAction (f.request.off 1) (f.len-3) = some (action,data))
    (hr : response = [0x08#8] ++ writeBe16 action.subfunction ++ writeBe16 data)
    (hans : action.isAnswered (isBroadcast (f.request 0)) d.isListenOnly = true) :
    (if responseExceptionCode response ≠ 0#8 then
        (action.perform (isBroadcast (f.request 0)) data d).noteException (responseExceptionCode response)
      else if selfAccounted f.request (f.len-3) then
        action.perform (isBroadcast (f.request 0)) data d
      else (action.perform (isBroadcast (f.request 0)) data d).noteNormalCompletion false
        (decide (f.request 1 = 0x0B#8 ∨ f.request 1 = 0x0C#8))) =
      action.settle (isBroadcast (f.request 0)) data d := by
  have hcode : responseExceptionCode response = 0#8 := by
    rw [hr]
    rfl
  have h8 : f.request 1 = 0x08#8 := (requestedAction_spec h).1
  rw [hcode,if_neg (by simp),selfAccounted_action h,h8]
  cases action with
  | restartCommunications => rfl
  | clearCountersAndRegister => rfl
  | forceListenOnly => cases hans
  | clearOverrunCounter =>
    have hb : isBroadcast (f.request 0) = false := by
      simpa [DiagnosticsAction.isAnswered] using hans
    rw [hb]
    rfl

/-- Without an answer the action has noted it itself. -/
theorem silent_settle {action : DiagnosticsAction} {data : Word} {broadcast : Bool}
    (hans : action.isAnswered broadcast d.isListenOnly = false) :
    action.perform broadcast data d = action.settle broadcast data d := by
  cases action with
  | restartCommunications => rfl
  | clearCountersAndRegister => rfl
  | forceListenOnly => rfl
  | clearOverrunCounter =>
    have hb : broadcast = true := by simpa [DiagnosticsAction.isAnswered] using hans
    rw [hb]
    rfl

theorem settle_effect (action : DiagnosticsAction) (data : Word) (broadcast : Bool)
    (d : Diagnostics) : ActionEffect action data d (action.settle broadcast data d) := by
  cases action with
  | restartCommunications => exact restart_effect broadcast data d
  | clearCountersAndRegister => exact clearCounters_effect broadcast data d
  | forceListenOnly => exact forceListenOnly_effect broadcast data d
  | clearOverrunCounter => exact clearOverrun_effect data d

theorem rtuStep_gate (cfg : Platform) (slaveAddress : Byte) (s : Slave) (f : RtuFrame) :
    (SlaveKept s (rtuStep cfg slaveAddress s f).2 ∧
        CallsOnce slaveAddress s f (rtuStep cfg slaveAddress s f)) ∨
      ∃ action data, Approved slaveAddress s f (rtuStep cfg slaveAddress s f) action data := by
  have ho := rtuStep_outcome cfg slaveAddress s f
  generalize rtuStep cfg slaveAddress s f = out at ho
  have hheard := SlaveKept.heard s f
  have hcompletion := fun (noResponse exclude : Bool) (d : Diagnostics) =>
    noteNormalCompletion_kept d noResponse exclude
  -- the object that the diagnostics branch was given
  have hgiven : ∀ {d₀ d₁}, s.diagnostics = some d₀ → (s.heard f).diagnostics = some d₁ →
      Kept d₀ d₁ := by
    intro d₀ d₁ h₀ h₁
    obtain ⟨d',hd',hk⟩ := hheard d₀ h₀
    rw [h₁] at hd'
    cases hd'
    exact hk
  cases ho with
  | badSlaveAddress _ => exact .inl ⟨.refl s,.inl rfl⟩
  | empty _ => exact .inl ⟨.refl s,.inl rfl⟩
  | damaged _ _ =>
    exact .inl ⟨(SlaveKept.refl s).note _ fun d => noteCommunicationError_kept d _ _,.inl rfl⟩
  | foreign _ _ =>
    exact .inl ⟨(SlaveKept.refl s).note _ fun d => noteBusMessage_kept d _,.inl rfl⟩
  | unheard _ _ _ => exact .inl ⟨hheard.note _ (hcompletion _ _),.inl rfl⟩
  | diagnosedSilently d d' calls hh hd =>
    rcases hd.2.2.kept with ⟨hk,hcalls⟩ | ⟨action,data,ha,hp,hcalls,hperform,hresult⟩
    · exact .inl ⟨fun d₀ h₀ => ⟨d',rfl,(hgiven h₀ hd.1).trans hk⟩,.of_calls hh rfl hcalls⟩
    · simp only at hcalls hperform
      subst hcalls hperform
      refine .inr ⟨action,data,hh,ha,hp,rfl,.inl rfl,fun d₀ h₀ => ⟨_,rfl,?_⟩⟩
      rcases hresult with ⟨-,hans⟩ | ⟨hno,-⟩
      · rw [silent_settle hans]
        exact .after (hgiven h₀ hd.1) (settle_effect action data _ d)
      · cases hno
  | diagnosticsFailed d d' calls hh hd =>
    rcases hd.2.2.kept with ⟨hk,hcalls⟩ | ⟨action,data,ha,hp,hcalls,hperform,hresult⟩
    · exact .inl ⟨fun d₀ h₀ => ⟨d',rfl,(hgiven h₀ hd.1).trans hk⟩,.of_calls hh rfl hcalls⟩
    · rcases hresult with ⟨hno,-⟩ | ⟨hno,-⟩ <;> cases hno
  | diagnosticsAnswered d d' calls response hh hd =>
    rcases hd.2.2.kept with ⟨hk,hcalls⟩ | ⟨action,data,ha,hp,hcalls,hperform,hresult⟩
    · refine .inl ⟨?_,.of_calls hh rfl hcalls⟩
      refine SlaveKept.noteResponse (fun d₀ h₀ => ⟨d',rfl,(hgiven h₀ hd.1).trans hk⟩) _ _ fun d₀ => ?_
      split
      · exact .refl d₀
      · exact hcompletion _ _ d₀
    · simp only at hcalls hperform
      subst hcalls hperform
      refine .inr ⟨action,data,hh,ha,hp,rfl,.inr rfl,fun d₀ h₀ => ⟨_,rfl,?_⟩⟩
      rcases hresult with ⟨hno,-⟩ | ⟨hr,hans⟩
      · cases hno
      · cases hr
        dsimp only
        rw [answered_settle ha rfl hans]
        exact .after (hgiven h₀ hd.1) (settle_effect action data _ d)
  | serverIdAnswered response server _ _ _ _ _ _ =>
    have hserved : SlaveKept s ((s.heard f).served server) := hheard
    exact .inl ⟨hserved.noteResponse _ _ (hcompletion _ _),.inl rfl⟩
  | serverIdCapacity _ _ _ _ _ _ => exact .inl ⟨hheard,.inl rfl⟩
  | broadcastIgnored _ _ _ _ => exact .inl ⟨hheard.note _ (hcompletion _ _),.inl rfl⟩
  | broadcastWritten response server _ _ _ _ _ =>
    have hserved : SlaveKept s ((s.heard f).served server) := hheard
    exact .inl ⟨hserved.note _ (hcompletion _ _),.inl rfl⟩
  | noRoom _ _ _ _ _ => exact .inl ⟨hheard,.inl rfl⟩
  | answered response server _ _ _ _ _ _ =>
    have hserved : SlaveKept s ((s.heard f).served server) := hheard
    exact .inl ⟨hserved.noteResponse _ _ (hcompletion _ _),.inl rfl⟩

end Frames

structure PolicyGate (slaveAddress : Byte) (s : Slave) (f : RtuFrame) (out : RtuResult × Slave) :
    Prop where
  changes : ∀ d, s.diagnostics = some d → ∃ d', out.2.diagnostics = some d' ∧
    (d'.gated ≠ d.gated ∨ (∃ c, d'.count c < d.count c) ∨ ¬ LogKept d d' →
      ∃ action data, Heard slaveAddress f ∧
        requestedAction (f.request.off 1) (f.len-3) = some (action,data) ∧
        policyAllows f.policy action data = true ∧
        out.2.policyCalls = s.policyCalls ++ [(action,data)] ∧
        (out.1 = .noResponse ∨ out.1.isReady = true) ∧ ActionEffect action data d d')
  withoutPolicy : f.policy = none → ∀ d, s.diagnostics = some d →
    ∃ d', out.2.diagnostics = some d' ∧ d'.gated = d.gated ∧ (∀ c, d.count c ≤ d'.count c) ∧
      LogKept d d'
  calls : out.2.policyCalls = s.policyCalls ∨ ∃ action data, Heard slaveAddress f ∧
    requestedAction (f.request.off 1) (f.len-3) = some (action,data) ∧
    out.2.policyCalls = s.policyCalls ++ [(action,data)]

theorem diagnostics_policy_gate (cfg : Platform) (slaveAddress : Byte) (s : Slave) (f : RtuFrame) :
    PolicyGate slaveAddress s f (rtuStep cfg slaveAddress s f) := by
  rcases rtuStep_gate cfg slaveAddress s f with ⟨hkept,hcalls⟩ | ⟨action,data,ha⟩
  · refine ⟨fun d hd => ?_,fun _ d hd => ?_,hcalls⟩
    · obtain ⟨d',hd',hk⟩ := hkept d hd
      refine ⟨d',hd',?_⟩
      rintro (hg | ⟨c,hc⟩ | hl)
      · exact absurd hk.gated hg
      · exact absurd (hk.counters c) (by omega)
      · exact absurd hk.log hl
    · obtain ⟨d',hd',hk⟩ := hkept d hd
      exact ⟨d',hd',hk.gated,hk.counters,hk.log⟩
  · refine ⟨fun d hd => ?_,fun hnone => ?_,.inr ⟨action,data,ha.heard,ha.requested,ha.calls⟩⟩
    · obtain ⟨d',hd',he⟩ := ha.effect d hd
      exact ⟨d',hd',fun _ => ⟨action,data,ha.heard,ha.requested,ha.allowed,ha.calls,ha.result,he⟩⟩
    · have hp := ha.allowed
      rw [hnone] at hp
      cases hp

end ModbusStack
