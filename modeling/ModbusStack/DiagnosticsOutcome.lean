import ModbusStack.Diagnostics

/-! Everything that one request can do to the diagnostics object, said once. -/
set_option autoImplicit false

namespace ModbusStack
open ByteMemory

def DiagnosticsAction.subfunction : DiagnosticsAction → Word
  | .restartCommunications => 0x0001#16
  | .forceListenOnly => 0x0004#16
  | .clearCountersAndRegister => 0x000A#16
  | .clearOverrunCounter => 0x0014#16

/-- The action that a request asks for: five bytes, with the data word 0000, or also FF00 for
Restart. -/
def requestedAction (pdu : Mem Byte) (len : Nat) : Option (DiagnosticsAction × Word) :=
  if pdu 0 = 0x08#8 ∧ len = 5 then
    let data := readBe16 (pdu.off 3)
    match (readBe16 (pdu.off 1)).toNat with
    | 0x01 =>
      if data = 0x0000#16 ∨ data = 0xFF00#16 then some (.restartCommunications,data) else none
    | 0x04 => if data = 0#16 then some (.forceListenOnly,data) else none
    | 0x0A => if data = 0#16 then some (.clearCountersAndRegister,data) else none
    | 0x14 => if data = 0#16 then some (.clearOverrunCounter,data) else none
    | _ => none
  else none

def DiagnosticsAction.perform (broadcast : Bool) (data : Word) (d : Diagnostics) :
    DiagnosticsAction → Diagnostics
  | .restartCommunications =>
    let d := { d.clearCounters with
      listenOnly := 0
      pendingActions := d.pendingActions ||| 0x01#8 }
    let d := if data = 0xFF00#16 then { d with eventLogCount := 0, eventLogHead := 0 } else d
    d.pushEvent 0x00#8
  | .forceListenOnly =>
    let d := { d with listenOnly := 1 }
    let d := d.noteNormalCompletion (!broadcast) false
    let d := { d with pendingActions := d.pendingActions ||| 0x02#8 }
    d.pushEvent 0x04#8
  | .clearCountersAndRegister =>
    { d.clearCounters with diagnosticRegister := 0 }.noteNormalCompletion false true
  | .clearOverrunCounter =>
    let d := { d with busCharacterOverrunCount := 0 }
    if broadcast then d.noteNormalCompletion false false else d

def DiagnosticsAction.isAnswered (broadcast listening : Bool) : DiagnosticsAction → Bool
  | .restartCommunications => !broadcast && !listening
  | .forceListenOnly => false
  | .clearCountersAndRegister | .clearOverrunCounter => !broadcast

/-- The room for the answer is checked before anything changes. -/
def approvedStep (d : Diagnostics) (broadcast : Bool) (action : DiagnosticsAction) (data : Word)
    (capacity : Nat) : DiagnosticsStep :=
  if action.isAnswered broadcast d.isListenOnly then
    if capacity < 5 then (.error,d,[(action,data)])
    else
      (.response ([0x08#8] ++ writeBe16 action.subfunction ++ writeBe16 data),
        action.perform broadcast data d,[(action,data)])
  else (.noResponse,action.perform broadcast data d,[(action,data)])

def deniedCalls (policy : DiagnosticsPolicy) (pdu : Mem Byte) (len : Nat) :
    List (DiagnosticsAction × Word) :=
  match requestedAction pdu len with
  | none => []
  | some (action,data) => policyCall policy action data

def Denied (policy : DiagnosticsPolicy) (pdu : Mem Byte) (len : Nat) : Prop :=
  ∀ action data, requestedAction pdu len = some (action,data) →
    policyAllows policy action data = false

def isRestartPdu (pdu : Mem Byte) (len : Nat) : Bool :=
  pdu 0 = 0x08#8 ∧ 3 ≤ len ∧ readBe16 (pdu.off 1) = 0x0001#16

inductive DiagnosticsOutcome (policy : DiagnosticsPolicy) (d : Diagnostics) (address : Byte)
    (pdu : Mem Byte) (len capacity : Nat) : DiagnosticsStep → Prop
  | notHandled (hf : isDiagnosticsFunction (pdu 0) = false) :
    DiagnosticsOutcome policy d address pdu len capacity (.notHandled,d,[])
  | unheard (hf : isDiagnosticsFunction (pdu 0) = true) (hl : d.isListenOnly = true)
      (hr : isRestartPdu pdu len = false) :
    DiagnosticsOutcome policy d address pdu len capacity (.noResponse,d,[])
  | ignored (hf : isDiagnosticsFunction (pdu 0) = true) (hb : isBroadcast address = true)
      (hd : Denied policy pdu len) :
    DiagnosticsOutcome policy d address pdu len capacity
      (.noResponse,d.noteNormalCompletion false true,deniedCalls policy pdu len)
  | unanswered (hf : isDiagnosticsFunction (pdu 0) = true) (hb : isBroadcast address = false)
      (hl : d.isListenOnly = true) (hd : Denied policy pdu len) :
    DiagnosticsOutcome policy d address pdu len capacity
      (.noResponse,d.noteNormalCompletion true true,deniedCalls policy pdu len)
  | refused (code : Byte) (hf : isDiagnosticsFunction (pdu 0) = true) (hcode : code ≠ 0#8)
      (hb : isBroadcast address = false) (hd : Denied policy pdu len) :
    DiagnosticsOutcome policy d address pdu len capacity
      (makeException (pdu 0) code capacity,d,deniedCalls policy pdu len)
  | returned (response : List Byte) (hf : isDiagnosticsFunction (pdu 0) = true)
      (hb : isBroadcast address = false) (ha : requestedAction pdu len = none)
      (hhead : ∃ tail, response = pdu 0 :: tail) (hmin : 2 ≤ response.length)
      (hmax : d.eventLogCount.toNat ≤ eventLogCapacity → response.length ≤ modbusPduMaxSize)
      (hself : pdu 0 = 0x08#8 → 3 ≤ len ∧ readBe16 (pdu.off 1) ≠ 0x0001#16 ∧
        readBe16 (pdu.off 1) ≠ 0x000A#16) :
    DiagnosticsOutcome policy d address pdu len capacity
      (if capacity < response.length then .error else .response response,d,[])
  | approved (action : DiagnosticsAction) (data : Word)
      (ha : requestedAction pdu len = some (action,data))
      (hp : policyAllows policy action data = true)
      (hl : d.isListenOnly = true → action = .restartCommunications) :
    DiagnosticsOutcome policy d address pdu len capacity
      (approvedStep d (isBroadcast address) action data capacity)

section Steps
variable {policy : DiagnosticsPolicy} {d : Diagnostics} {address : Byte} {pdu : Mem Byte}
  {len capacity : Nat}

theorem policyCall_of_allows {action : DiagnosticsAction} {data : Word}
    (h : policyAllows policy action data = true) : policyCall policy action data = [(action,data)] := by
  cases policy with
  | none => cases h
  | some f => rfl

theorem DiagnosticsOutcome.refuse (code : Byte) (hf : pdu 0 = 0x08#8) (hcode : code ≠ 0#8)
    (hd : Denied policy pdu len) :
    DiagnosticsOutcome policy d address pdu len capacity
      ((refuseFc08 d (isBroadcast address) code capacity).1,
        (refuseFc08 d (isBroadcast address) code capacity).2,deniedCalls policy pdu len) := by
  cases hb : isBroadcast address with
  | true => exact .ignored (by rw [hf]; rfl) hb hd
  | false =>
    have h : DiagnosticsOutcome policy d address pdu len capacity
        (makeException (pdu 0) code capacity,d,deniedCalls policy pdu len) :=
      .refused code (by rw [hf]; rfl) hcode hb hd
    rwa [hf] at h

/-- A request that asks for no action is refused without a policy call. -/
theorem DiagnosticsOutcome.refuse_none (code : Byte) (hf : pdu 0 = 0x08#8) (hcode : code ≠ 0#8)
    (ha : requestedAction pdu len = none) :
    DiagnosticsOutcome policy d address pdu len capacity
      ((refuseFc08 d (isBroadcast address) code capacity).1,
        (refuseFc08 d (isBroadcast address) code capacity).2,[]) := by
  have h : DiagnosticsOutcome policy d address pdu len capacity
      ((refuseFc08 d (isBroadcast address) code capacity).1,
        (refuseFc08 d (isBroadcast address) code capacity).2,deniedCalls policy pdu len) :=
    .refuse code hf hcode (by intro action data h; rw [ha] at h; cases h)
  rwa [deniedCalls,ha] at h

theorem denied_of_some {action : DiagnosticsAction} {data : Word}
    (ha : requestedAction pdu len = some (action,data))
    (hp : policyAllows policy action data = false) :
    Denied policy pdu len ∧ deniedCalls policy pdu len = policyCall policy action data := by
  refine ⟨fun action' data' h => ?_,by rw [deniedCalls,ha]⟩
  rw [ha] at h
  cases h
  exact hp

theorem requestedAction_restart (hf : pdu 0 = 0x08#8) (hsub : readBe16 (pdu.off 1) = 0x0001#16) :
    requestedAction pdu len =
      if len = 5 ∧ (readBe16 (pdu.off 3) = 0x0000#16 ∨ readBe16 (pdu.off 3) = 0xFF00#16) then
        some (.restartCommunications,readBe16 (pdu.off 3))
      else none := by
  by_cases hl : len = 5
  · simp only [requestedAction,hf,hl,hsub,and_self,true_and,if_true]
    rfl
  · simp only [requestedAction,hl,and_false,false_and,if_false]

theorem requestedAction_zero (action : DiagnosticsAction) (hr : action ≠ .restartCommunications)
    (hf : pdu 0 = 0x08#8) (hsub : readBe16 (pdu.off 1) = action.subfunction) :
    requestedAction pdu len = if len = 5 ∧ readBe16 (pdu.off 3) = 0#16 then
      some (action,readBe16 (pdu.off 3)) else none := by
  by_cases hl : len = 5
  · simp only [requestedAction,hf,hl,hsub,and_self,true_and,if_true]
    cases action with
    | restartCommunications => exact absurd rfl hr
    | forceListenOnly => rfl
    | clearCountersAndRegister => rfl
    | clearOverrunCounter => rfl
  · simp only [requestedAction,hl,and_false,false_and,if_false]

theorem data_bad (hw : ¬ (len = 5 ∧ readBe16 (pdu.off 3) = 0#16)) :
    len ≠ 5 ∨ (if 5 ≤ len then readBe16 (pdu.off 3) else 0#16) ≠ 0#16 := by
  by_cases hl : len = 5
  · right
    simp only [hl,le_refl,if_true]
    tauto
  · exact .inl hl

theorem restartCommunications_outcome (hf : pdu 0 = 0x08#8)
    (hsub : readBe16 (pdu.off 1) = 0x0001#16) :
    DiagnosticsOutcome policy d address pdu len capacity
      (restartCommunications policy d (isBroadcast address) len
        (if 5 ≤ len then readBe16 (pdu.off 3) else 0#16) capacity) := by
  have ha : requestedAction pdu len = _ := requestedAction_restart hf hsub
  by_cases hw : len = 5 ∧ (readBe16 (pdu.off 3) = 0x0000#16 ∨ readBe16 (pdu.off 3) = 0xFF00#16)
  · rw [if_pos hw] at ha
    have hok : ¬ (len ≠ 5 ∨
        (readBe16 (pdu.off 3) ≠ 0x0000#16 ∧ readBe16 (pdu.off 3) ≠ 0xFF00#16)) := by tauto
    simp only [restartCommunications,show 5 ≤ len by omega,if_true,hok,if_false]
    cases hp : policyAllows policy .restartCommunications (readBe16 (pdu.off 3)) with
    | false =>
      obtain ⟨hd,hc⟩ := denied_of_some ha hp
      rw [← hc]
      cases hb : isBroadcast address with
      | true => exact .ignored (by rw [hf]; rfl) hb hd
      | false =>
        cases hl : d.isListenOnly with
        | true => exact .unanswered (by rw [hf]; rfl) hb hl hd
        | false =>
          have h : DiagnosticsOutcome policy d address pdu len capacity
              (makeException (pdu 0) exIllegalDataValue capacity,d,deniedCalls policy pdu len) :=
            .refused _ (by rw [hf]; rfl) (by decide) hb hd
          rwa [hf] at h
    | true =>
      have h : DiagnosticsOutcome policy d address pdu len capacity
          (approvedStep d (isBroadcast address) .restartCommunications (readBe16 (pdu.off 3))
            capacity) := .approved _ _ ha hp (fun _ => rfl)
      rw [policyCall_of_allows hp]
      cases hb : isBroadcast address <;> cases hl : d.isListenOnly <;>
        simp only [approvedStep,DiagnosticsAction.isAnswered,hb,hl] at h
      case false.false =>
        by_cases hc : capacity < 5
        · simpa [hc] using h
        · simp only [hc,Bool.not_false,Bool.and_self,if_true,if_false] at h
          simp only [hc,Bool.false_eq_true,not_false_eq_true,and_false,not_true_eq_false,or_self,
            if_false,fixedWordResponse]
          exact h
      all_goals exact h
  · rw [if_neg hw] at ha
    have hbad : len ≠ 5 ∨ ((if 5 ≤ len then readBe16 (pdu.off 3) else 0#16) ≠ 0x0000#16 ∧
        (if 5 ≤ len then readBe16 (pdu.off 3) else 0#16) ≠ 0xFF00#16) := by
      by_cases hl : len = 5
      · right
        simp only [hl,le_refl,if_true]
        tauto
      · exact .inl hl
    simp only [restartCommunications,hbad,if_true]
    exact .refuse_none _ hf (by decide) ha

/-- The outcome of an action whose data word is 0000, from what its function does when the
request is bad, when the policy denies it and when it is approved. -/
theorem action_outcome (action : DiagnosticsAction) {step : DiagnosticsStep}
    (hr : action ≠ .restartCommunications) (hf : pdu 0 = 0x08#8) (hl : d.isListenOnly = false)
    (hsub : readBe16 (pdu.off 1) = action.subfunction)
    (hbad : (len ≠ 5 ∨ (if 5 ≤ len then readBe16 (pdu.off 3) else 0#16) ≠ 0#16) →
      step = ((refuseFc08 d (isBroadcast address) exIllegalDataValue capacity).1,
        (refuseFc08 d (isBroadcast address) exIllegalDataValue capacity).2,[]))
    (hdenied : len = 5 → readBe16 (pdu.off 3) = 0#16 → policyAllows policy action 0#16 = false →
      step = ((refuseFc08 d (isBroadcast address) exIllegalDataValue capacity).1,
        (refuseFc08 d (isBroadcast address) exIllegalDataValue capacity).2,
          policyCall policy action 0#16))
    (happroved : len = 5 → readBe16 (pdu.off 3) = 0#16 → policyAllows policy action 0#16 = true →
      step = approvedStep d (isBroadcast address) action 0#16 capacity) :
    DiagnosticsOutcome policy d address pdu len capacity step := by
  have ha : requestedAction pdu len = _ := requestedAction_zero action hr hf hsub
  by_cases hw : len = 5 ∧ readBe16 (pdu.off 3) = 0#16
  · obtain ⟨hlen,hdata⟩ := id hw
    rw [if_pos hw,hdata] at ha
    cases hp : policyAllows policy action 0#16 with
    | false =>
      obtain ⟨hd,hc⟩ := denied_of_some ha hp
      rw [hdenied hlen hdata hp,← hc]
      exact .refuse _ hf (by decide) hd
    | true =>
      rw [happroved hlen hdata hp]
      exact .approved _ _ ha hp (by simp [hl])
  · rw [if_neg hw] at ha
    rw [hbad (data_bad hw)]
    exact .refuse_none _ hf (by decide) ha

theorem forceListenOnly_outcome (hf : pdu 0 = 0x08#8) (hl : d.isListenOnly = false)
    (hsub : readBe16 (pdu.off 1) = 0x0004#16) :
    DiagnosticsOutcome policy d address pdu len capacity
      (forceListenOnly policy d (isBroadcast address) len
        (if 5 ≤ len then readBe16 (pdu.off 3) else 0#16) capacity) := by
  refine action_outcome .forceListenOnly (by decide) hf hl hsub (fun hbad => ?_)
    (fun hlen hdata hp => ?_) fun hlen hdata hp => ?_
  · simp only [forceListenOnly,hbad,if_true]
  · simp [forceListenOnly,hlen,hdata,hp]
  · simp [forceListenOnly,hlen,hdata,hp,policyCall_of_allows hp,approvedStep,
      DiagnosticsAction.isAnswered,DiagnosticsAction.perform]

theorem clearCountersAndRegister_outcome (hf : pdu 0 = 0x08#8) (hl : d.isListenOnly = false)
    (hsub : readBe16 (pdu.off 1) = 0x000A#16) :
    DiagnosticsOutcome policy d address pdu len capacity
      (clearCountersAndRegister policy d (isBroadcast address) len
        (if 5 ≤ len then readBe16 (pdu.off 3) else 0#16) capacity) := by
  refine action_outcome .clearCountersAndRegister (by decide) hf hl hsub (fun hbad => ?_)
    (fun hlen hdata hp => ?_) fun hlen hdata hp => ?_
  · simp only [clearCountersAndRegister,hbad,if_true]
  · simp [clearCountersAndRegister,hlen,hdata,hp]
  · rw [hlen,if_pos (le_refl 5),hdata,clearCountersAndRegister,policyCall_of_allows hp]
    cases isBroadcast address with
    | true => simp [hp,approvedStep,DiagnosticsAction.isAnswered,DiagnosticsAction.perform]
    | false =>
      by_cases hc : capacity < 5
      · simp [hp,hc,approvedStep,DiagnosticsAction.isAnswered]
      · simp [hp,hc,approvedStep,DiagnosticsAction.isAnswered,DiagnosticsAction.perform,
          fixedWordResponse,DiagnosticsAction.subfunction]

theorem clearOverrunCounter_outcome (hf : pdu 0 = 0x08#8) (hl : d.isListenOnly = false)
    (hsub : readBe16 (pdu.off 1) = 0x0014#16) :
    DiagnosticsOutcome policy d address pdu len capacity
      (clearOverrunCounter policy d (isBroadcast address) len
        (if 5 ≤ len then readBe16 (pdu.off 3) else 0#16) capacity) := by
  refine action_outcome .clearOverrunCounter (by decide) hf hl hsub (fun hbad => ?_)
    (fun hlen hdata hp => ?_) fun hlen hdata hp => ?_
  · simp only [clearOverrunCounter,hbad,if_true]
  · simp [clearOverrunCounter,hlen,hdata,hp]
  · rw [hlen,if_pos (le_refl 5),hdata,clearOverrunCounter,policyCall_of_allows hp]
    cases isBroadcast address with
    | true => simp [hp,approvedStep,DiagnosticsAction.isAnswered,DiagnosticsAction.perform]
    | false =>
      by_cases hc : capacity < 5
      · simp [hp,hc,approvedStep,DiagnosticsAction.isAnswered]
      · simp [hp,hc,approvedStep,DiagnosticsAction.isAnswered,DiagnosticsAction.perform,
          fixedWordResponse,DiagnosticsAction.subfunction]

theorem requestedAction_none (h : pdu 0 = 0x08#8 → (readBe16 (pdu.off 1)).toNat ≠ 0x01 ∧
      (readBe16 (pdu.off 1)).toNat ≠ 0x04 ∧ (readBe16 (pdu.off 1)).toNat ≠ 0x0A ∧
      (readBe16 (pdu.off 1)).toNat ≠ 0x14) : requestedAction pdu len = none := by
  by_cases hf : pdu 0 = 0x08#8 ∧ len = 5
  · obtain ⟨h1,h4,hA,h14⟩ := h hf.1
    rw [requestedAction,if_pos hf]
    split <;> first | contradiction | rfl
  · rw [requestedAction,if_neg hf]

theorem returnWord_outcome (value : Word) (hf : pdu 0 = 0x08#8) (h3 : 3 ≤ len)
    (ha : requestedAction pdu len = none) (hone : readBe16 (pdu.off 1) ≠ 0x0001#16)
    (hten : readBe16 (pdu.off 1) ≠ 0x000A#16) :
    DiagnosticsOutcome policy d address pdu len capacity
      (returnWord d (isBroadcast address) (readBe16 (pdu.off 1)) value len
        (if 5 ≤ len then readBe16 (pdu.off 3) else 0#16) capacity) := by
  have hdenied : Denied policy pdu len ∧ deniedCalls policy pdu len = [] := by
    refine ⟨fun action data h => ?_,by rw [deniedCalls,ha]⟩
    rw [ha] at h
    cases h
  have hreturned : isBroadcast address = false → DiagnosticsOutcome policy d address pdu len capacity
      (fixedWordResponse (pdu 0) (readBe16 (pdu.off 1)) value capacity,d,[]) := fun hb =>
    .returned ([pdu 0] ++ writeBe16 (readBe16 (pdu.off 1)) ++ writeBe16 value)
      (by rw [hf]; rfl) hb ha ⟨_,rfl⟩ (by simp) (by simp [modbusPduMaxSize])
      (fun _ => ⟨h3,hone,hten⟩)
  simp only [returnWord]
  rw [← hf]
  cases hb : isBroadcast address with
  | true =>
    rw [← hdenied.2]
    exact .ignored (by rw [hf]; rfl) hb hdenied.1
  | false =>
    generalize (if 5 ≤ len then readBe16 (pdu.off 3) else 0#16) = data
    by_cases hbad : len ≠ 5 ∨ data ≠ 0#16
    · simp only [hbad,if_true,Bool.false_eq_true,if_false]
      rw [← hdenied.2]
      exact .refused _ (by rw [hf]; rfl) (by decide) hb hdenied.1
    · simp only [hbad,Bool.false_eq_true,if_false]
      exact hreturned hb

theorem processFc08_outcome (hf : pdu 0 = 0x08#8) (hmax : len ≤ modbusPduMaxSize)
    (hr : d.isListenOnly = true → isRestartPdu pdu len = true) :
    DiagnosticsOutcome policy d address pdu len capacity
      (processFc08 policy d address pdu len capacity) := by
  simp only [processFc08]
  split
  · exact .refuse_none _ hf (by decide) (by simp only [requestedAction]; split <;> simp_all)
  rename_i hodd
  have h3 : 3 ≤ len := by omega
  have hword : ∀ n : Nat, (readBe16 (pdu.off 1)).toNat = n →
      readBe16 (pdu.off 1) = BitVec.ofNat 16 n := by
    intro n hn
    rw [← hn]
    simp
  split
  · rename_i hl
    have h1 := hr hl.1
    simp only [isRestartPdu,decide_eq_true_eq] at h1
    exact absurd h1.2.2 hl.2
  rename_i hl
  have hheard : readBe16 (pdu.off 1) ≠ 0x0001#16 → d.isListenOnly = false := by
    intro hne
    cases hd : d.isListenOnly with
    | true => exact absurd ⟨hd,hne⟩ hl
    | false => rfl
  have hnone : (readBe16 (pdu.off 1)).toNat ≠ 0x01 ∧ (readBe16 (pdu.off 1)).toNat ≠ 0x04 ∧
      (readBe16 (pdu.off 1)).toNat ≠ 0x0A ∧ (readBe16 (pdu.off 1)).toNat ≠ 0x14 →
      requestedAction pdu len = none := fun h => requestedAction_none fun _ => h
  split
  case _ hsub =>
    have ha : requestedAction pdu len = none := hnone (by omega)
    cases hb : isBroadcast address with
    | true =>
      have h : DiagnosticsOutcome policy d address pdu len capacity
          (.noResponse,d.noteNormalCompletion false true,deniedCalls policy pdu len) :=
        .ignored (by rw [hf]; rfl) hb (by intro action data h; rw [ha] at h; cases h)
      rw [deniedCalls,ha] at h
      exact h
    | false =>
      have h : DiagnosticsOutcome policy d address pdu len capacity
          (if capacity < (slice pdu 0 len).length then .error else .response (slice pdu 0 len),d,[]) := by
        refine .returned _ (by rw [hf]; rfl) hb ha ?_ ?_ ?_ (fun _ => ⟨h3,?_,?_⟩)
        · obtain ⟨n,rfl⟩ := Nat.exists_eq_add_of_le (show 1 ≤ len by omega)
          rw [Nat.add_comm 1 n,slice_cons]
          exact ⟨_,rfl⟩
        · simp only [slice_length]
          omega
        · simp only [slice_length]
          exact fun _ => hmax
        · simp [hword _ hsub]
        · simp [hword _ hsub]
      rw [slice_length] at h
      simp only [Bool.false_eq_true,if_false]
      split at h
      · rename_i hc
        rwa [if_pos hc]
      · rename_i hc
        rwa [if_neg hc]
  case _ hsub => exact restartCommunications_outcome hf (hword _ hsub)
  case _ hsub =>
    exact returnWord_outcome _ hf h3 (hnone (by omega)) (by simp [hword _ hsub])
      (by simp [hword _ hsub])
  case _ hsub =>
    exact forceListenOnly_outcome hf (hheard (by simp [hword _ hsub])) (hword _ hsub)
  case _ hsub =>
    exact clearCountersAndRegister_outcome hf (hheard (by simp [hword _ hsub])) (hword _ hsub)
  case h_14 hsub =>
    exact clearOverrunCounter_outcome hf (hheard (by simp [hword _ hsub])) (hword _ hsub)
  case h_15 =>
    exact .refuse_none _ hf (by decide)
      (hnone ⟨by assumption,by assumption,by assumption,by assumption⟩)
  all_goals
    rename_i hsub
    exact returnWord_outcome _ hf h3 (hnone (by omega)) (by simp [hword _ hsub])
      (by simp [hword _ hsub])

theorem returnStatus_outcome (function : Byte) (response : List Byte) (hf : pdu 0 = function)
    (h8 : function ≠ 0x08#8) (hdiag : isDiagnosticsFunction function = true)
    (hhead : ∃ tail, response = function :: tail) (hmin : 2 ≤ response.length)
    (hmax : d.eventLogCount.toNat ≤ eventLogCapacity → response.length ≤ modbusPduMaxSize) :
    DiagnosticsOutcome policy d address pdu len capacity
      (returnStatus d address function len response capacity) := by
  subst hf
  have ha : requestedAction pdu len = none := requestedAction_none fun h => absurd h h8
  have hdenied : Denied policy pdu len ∧ deniedCalls policy pdu len = [] := by
    refine ⟨fun action data h => ?_,by rw [deniedCalls,ha]⟩
    rw [ha] at h
    cases h
  have hreturned : isBroadcast address = false → DiagnosticsOutcome policy d address pdu len capacity
      (if capacity < response.length then .error else .response response,d,[]) := fun hb =>
    .returned response hdiag hb ha hhead hmin hmax (fun h => absurd h h8)
  simp only [returnStatus]
  cases hb : isBroadcast address with
  | true =>
    rw [← hdenied.2]
    exact .ignored hdiag hb hdenied.1
  | false =>
    simp only [Bool.false_eq_true,if_false]
    have hr := hreturned hb
    split
    · rw [← hdenied.2]
      exact .refused _ hdiag (by decide) hb hdenied.1
    · split at hr
      · rename_i hc
        rwa [if_pos hc]
      · rename_i hc
        rwa [if_neg hc]

theorem mbrtuDiagnosticsProcessPdu_outcome (policy : DiagnosticsPolicy) (d : Diagnostics)
    (address : Byte) (pdu : Mem Byte) (len capacity : Nat)
    (hlen : 1 ≤ len ∧ len ≤ modbusPduMaxSize) :
    DiagnosticsOutcome policy d address pdu len capacity
      (mbrtuDiagnosticsProcessPdu policy d address pdu len capacity) := by
  have h0 : ¬ (len = 0 ∨ modbusPduMaxSize < len) := by omega
  have hcode : ∀ n : Nat, (pdu 0).toNat = n → pdu 0 = BitVec.ofNat 8 n := by
    intro n hn
    rw [← hn]
    simp
  simp only [mbrtuDiagnosticsProcessPdu,h0,if_false]
  cases hf : isDiagnosticsFunction (pdu 0) with
  | false => exact .notHandled hf
  | true =>
    simp only [not_true_eq_false,if_false]
    split
    · rename_i hl
      exact .unheard hf hl.1 (decide_eq_false hl.2)
    rename_i hl
    have hr : d.isListenOnly = true → isRestartPdu pdu len = true := by
      intro h
      exact decide_eq_true (not_and_not_right.mp hl h)
    split
    case _ h =>
      exact returnStatus_outcome _ _ (hcode _ h) (by decide) rfl ⟨_,rfl⟩
        (by simp [exceptionStatusResponse]) (by simp [exceptionStatusResponse,modbusPduMaxSize])
    case _ h => exact processFc08_outcome (hcode _ h) hlen.2 hr
    case _ h =>
      exact returnStatus_outcome _ _ (hcode _ h) (by decide) rfl ⟨_,rfl⟩
        (by simp [commEventCounterResponse])
        (by simp [commEventCounterResponse,modbusPduMaxSize])
    case _ h =>
      refine returnStatus_outcome _ _ (hcode _ h) (by decide) rfl ⟨_,rfl⟩ ?_ ?_
      · simp [commEventLogResponse]
      · simp [commEventLogResponse,modbusPduMaxSize,eventLogCapacity]
        omega
    case _ h7 h8 hB hC =>
      simp only [isDiagnosticsFunction,decide_eq_true_eq] at hf
      rcases hf with h | h | h | h <;> simp [h] at h7 h8 hB hC

end Steps

theorem DiagnosticsOutcome.function {policy : DiagnosticsPolicy} {d : Diagnostics} {address : Byte}
    {pdu : Mem Byte} {len capacity : Nat} {out : DiagnosticsStep}
    (h : DiagnosticsOutcome policy d address pdu len capacity out) (hout : out.1 ≠ .notHandled) :
    isDiagnosticsFunction (pdu 0) = true := by
  cases h with
  | notHandled _ => exact absurd rfl hout
  | unheard hf _ _ => exact hf
  | ignored hf _ _ => exact hf
  | unanswered hf _ _ _ => exact hf
  | refused _ hf _ _ _ => exact hf
  | returned _ hf _ _ _ _ _ _ => exact hf
  | approved action data ha _ _ =>
    have h8 : pdu 0 = 0x08#8 := by
      by_contra hne
      simp [requestedAction,hne] at ha
    rw [h8]
    rfl

end ModbusStack
