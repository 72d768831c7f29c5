import ModbusStack.TransactionRuns

/-! The diagnostics counters of a transaction object against the history of its calls. -/
set_option autoImplicit false

namespace ModbusStack
open ByteMemory Machine

structure Accounts where
  started : Word32
  attempts : Word32
  retries : Word32
  successful : Word32
  exceptions : Word32
  cancelled : Word32
  deriving DecidableEq, Repr

def Transaction.accounts (t : Transaction) : Accounts :=
  ⟨t.diagnostics.transactionsStarted,t.diagnostics.transmissionAttempts,
    t.diagnostics.retriesPerformed,t.diagnostics.successfulTransactions,
    t.diagnostics.exceptionResponses,t.diagnostics.cancelledTransactions⟩

def bumpIf (b : Bool) (value : Word32) : Word32 := if b then increment32 value else value

namespace TransactionRecord
variable (r : TransactionRecord)

/-- The call leaves a retry pending that was not pending before. -/
def schedules : Bool :=
  decide (r.after.state = .retryDelay) && (decide (r.before.state ≠ .retryDelay) || r.transmits)

def ends : Bool := (stateIsActive r.before.state || r.opens) && !stateIsActive r.after.state

def succeeds : Bool := r.ends && decide (r.after.state = .complete ∧ r.after.result = .success)

def excepts : Bool :=
  r.ends && decide (r.after.state = .complete ∧ r.after.result = .modbusException)

def cancels : Bool := r.ends && decide (r.after.state = .cancelled)

def fails : Bool := r.ends && decide (r.after.state = .failed)

/-- The transaction is cancelled while a retry is pending, which is then never transmitted. -/
def dropsRetry : Bool := decide (r.before.state = .retryDelay) && r.cancels

end TransactionRecord

structure StepCounted (r : TransactionRecord) : Prop where
  accounts : r.after.accounts =
    ⟨bumpIf r.opens r.before.accounts.started,bumpIf r.transmits r.before.accounts.attempts,
      bumpIf r.schedules r.before.accounts.retries,bumpIf r.succeeds r.before.accounts.successful,
      bumpIf r.excepts r.before.accounts.exceptions,bumpIf r.cancels r.before.accounts.cancelled⟩
  pending : r.transmits.toNat+r.dropsRetry.toNat+(decide (r.after.state = .retryDelay)).toNat =
    r.opens.toNat+r.schedules.toNat+(decide (r.before.state = .retryDelay)).toNat
  active : r.opens.toNat+(stateIsActive r.before.state).toNat =
    r.succeeds.toNat+r.excepts.toNat+r.cancels.toNat+r.fails.toNat+
      (stateIsActive r.after.state).toNat
  once : r.sent.length = r.transmits.toNat

inductive GaveUp (t t' : Transaction) : Prop where
  | retry (state : t'.state = .retryDelay)
      (accounts : t'.accounts = { t.accounts with retries := increment32 t.accounts.retries })
  | fail (state : t'.state = .failed) (accounts : t'.accounts = t.accounts)

section GivingUp
variable (t : Transaction) (now : Word32)

theorem scheduleRetryOrFinish_gaveUp (r : TransactionResult) :
    GaveUp t (t.scheduleRetryOrFinish now r) := by
  unfold Transaction.scheduleRetryOrFinish
  split
  · exact .retry rfl rfl
  · exact .fail rfl rfl

theorem handleResponseTimeout_gaveUp : GaveUp t (t.handleResponseTimeout now) := by
  cases scheduleRetryOrFinish_gaveUp
    (t.count fun d => { d with timeouts := increment32 d.timeouts }) now t.timeoutResult with
  | retry state accounts => exact .retry state accounts
  | fail state accounts => exact .fail state accounts

theorem transportFailed_gaveUp : GaveUp t (t.transportFailed now) := by
  unfold Transaction.transportFailed
  dsimp only
  split
  · cases scheduleRetryOrFinish_gaveUp
      (t.count fun d => { d with transportErrors := increment32 d.transportErrors }) now
      .transportError with
    | retry state accounts => exact .retry state accounts
    | fail state accounts => exact .fail state accounts
  · exact .fail rfl rfl

end GivingUp

inductive Transmitted (t t' : Transaction) : Prop where
  | sending (state : t'.state = .transmitting)
      (accounts : t'.accounts = { t.accounts with attempts := increment32 t.accounts.attempts })
  | retry (state : t'.state = .retryDelay)
      (accounts : t'.accounts = { t.accounts with
        attempts := increment32 t.accounts.attempts
        retries := increment32 t.accounts.retries })
  | fail (state : t'.state = .failed)
      (accounts : t'.accounts = { t.accounts with attempts := increment32 t.accounts.attempts })

theorem beginTransmit_transmitted (t : Transaction) (answer : Int) (now : Word32) :
    Transmitted t (t.beginTransmit answer now).2 := by
  unfold Transaction.beginTransmit
  dsimp only
  split
  · exact .sending rfl rfl
  · cases transportFailed_gaveUp t.sending now with
    | retry state accounts => exact .retry state accounts
    | fail state accounts => exact .fail state accounts

@[simp] theorem stateIsActive_transmitting : stateIsActive .transmitting = true := rfl
@[simp] theorem stateIsActive_waitingResponse : stateIsActive .waitingResponse = true := rfl
@[simp] theorem stateIsActive_retryDelay : stateIsActive .retryDelay = true := rfl
@[simp] theorem stateIsActive_complete : stateIsActive .complete = false := rfl
@[simp] theorem stateIsActive_failed : stateIsActive .failed = false := rfl
@[simp] theorem stateIsActive_cancelled : stateIsActive .cancelled = false := rfl

section Shapes
variable {r : TransactionRecord}

theorem transmits_of_silent (hsent : r.sent = []) : r.transmits = false := by
  simp [TransactionRecord.transmits,hsent]

theorem StepCounted.quiet (hopens : r.opens = false) (hsent : r.sent = [])
    (hstate : r.after.state = r.before.state) (haccounts : r.after.accounts = r.before.accounts) :
    StepCounted r := by
  have ht := transmits_of_silent hsent
  have hends : r.ends = false := by
    simp [TransactionRecord.ends,hopens,hstate]
  have hschedules : r.schedules = false := by
    simp [TransactionRecord.schedules,ht,hstate]
  constructor <;>
    simp [TransactionRecord.succeeds,TransactionRecord.excepts,TransactionRecord.cancels,
      TransactionRecord.fails,TransactionRecord.dropsRetry,hends,hschedules,ht,hopens,hsent,hstate,
      haccounts,bumpIf]

theorem StepCounted.wait (hopens : r.opens = false) (hsent : r.sent = [])
    (hbefore : r.before.state = .transmitting) (hafter : r.after.state = .waitingResponse)
    (haccounts : r.after.accounts = r.before.accounts) : StepCounted r := by
  have ht := transmits_of_silent hsent
  constructor <;>
    simp [TransactionRecord.schedules,TransactionRecord.ends,TransactionRecord.succeeds,
      TransactionRecord.excepts,TransactionRecord.cancels,TransactionRecord.fails,
      TransactionRecord.dropsRetry,ht,hopens,hsent,hbefore,hafter,haccounts,bumpIf]

theorem StepCounted.gaveUp (hopens : r.opens = false) (hsent : r.sent = [])
    (hbefore : r.before.state = .transmitting ∨ r.before.state = .waitingResponse)
    (h : GaveUp r.before r.after) : StepCounted r := by
  have ht := transmits_of_silent hsent
  have hactive : stateIsActive r.before.state = true := by
    rcases hbefore with hb | hb <;> simp [hb]
  have hdelay : r.before.state ≠ .retryDelay := by
    rcases hbefore with hb | hb <;> simp [hb]
  cases h with
  | retry state accounts =>
    constructor <;>
      simp [TransactionRecord.schedules,TransactionRecord.ends,TransactionRecord.succeeds,
        TransactionRecord.excepts,TransactionRecord.cancels,TransactionRecord.fails,
        TransactionRecord.dropsRetry,ht,hopens,hsent,hactive,hdelay,state,accounts,bumpIf]
  | fail state accounts =>
    constructor <;>
      simp [TransactionRecord.schedules,TransactionRecord.ends,TransactionRecord.succeeds,
        TransactionRecord.excepts,TransactionRecord.cancels,TransactionRecord.fails,
        TransactionRecord.dropsRetry,ht,hopens,hsent,hactive,hdelay,state,accounts,bumpIf]

theorem StepCounted.transmitted {frame : List Byte} {t : Transaction} (hsent : r.sent = [frame])
    (hcause : (r.opens = true ∧ stateIsActive r.before.state = false) ∨
      (r.opens = false ∧ r.before.state = .retryDelay))
    (haccounts : t.accounts = { r.before.accounts with
      started := bumpIf r.opens r.before.accounts.started })
    (h : Transmitted t r.after) : StepCounted r := by
  have ht : r.transmits = true := by simp [TransactionRecord.transmits,hsent]
  have hended : (stateIsActive r.before.state || r.opens) = true := by
    rcases hcause with ⟨ho,-⟩ | ⟨-,hb⟩
    · simp [ho]
    · simp [hb]
  have hactive : r.opens.toNat+(stateIsActive r.before.state).toNat = 1 := by
    rcases hcause with ⟨ho,hb⟩ | ⟨ho,hb⟩
    · simp [ho,hb]
    · simp [ho,hb]
  have hdelay : r.opens.toNat+(decide (r.before.state = .retryDelay)).toNat = 1 := by
    rcases hcause with ⟨ho,hb⟩ | ⟨ho,hb⟩
    · have hne : r.before.state ≠ .retryDelay := by
        intro he
        simp [he] at hb
      simp [ho,hne]
    · simp [ho,hb]
  cases h with
  | sending state accounts =>
    constructor
    · simp [TransactionRecord.schedules,TransactionRecord.ends,TransactionRecord.succeeds,
        TransactionRecord.excepts,TransactionRecord.cancels,ht,state,accounts,haccounts,bumpIf]
    · simp [TransactionRecord.schedules,TransactionRecord.dropsRetry,TransactionRecord.cancels,
        TransactionRecord.ends,ht,state,hdelay]
    · simp [TransactionRecord.succeeds,TransactionRecord.excepts,TransactionRecord.cancels,
        TransactionRecord.fails,TransactionRecord.ends,state,hactive]
    · simp [hsent,ht]
  | retry state accounts =>
    constructor
    · simp [TransactionRecord.schedules,TransactionRecord.ends,TransactionRecord.succeeds,
        TransactionRecord.excepts,TransactionRecord.cancels,ht,state,accounts,haccounts,bumpIf]
    · simp [TransactionRecord.schedules,TransactionRecord.dropsRetry,TransactionRecord.cancels,
        TransactionRecord.ends,ht,state]
      omega
    · simp [TransactionRecord.succeeds,TransactionRecord.excepts,TransactionRecord.cancels,
        TransactionRecord.fails,TransactionRecord.ends,state,hactive]
    · simp [hsent,ht]
  | fail state accounts =>
    constructor
    · simp [TransactionRecord.schedules,TransactionRecord.ends,TransactionRecord.succeeds,
        TransactionRecord.excepts,TransactionRecord.cancels,ht,state,accounts,haccounts,bumpIf]
    · simp [TransactionRecord.schedules,TransactionRecord.dropsRetry,TransactionRecord.cancels,
        TransactionRecord.ends,ht,state,hdelay]
    · simp [TransactionRecord.succeeds,TransactionRecord.excepts,TransactionRecord.cancels,
        TransactionRecord.fails,TransactionRecord.ends,hactive,hended,state]
    · simp [hsent,ht]

theorem StepCounted.completed (hopens : r.opens = false) (hsent : r.sent = [])
    (hbefore : r.before.state = .transmitting ∨ r.before.state = .waitingResponse)
    (hafter : r.after.state = .complete)
    (haccounts : (r.after.result = .success ∧ r.after.accounts = { r.before.accounts with
        successful := increment32 r.before.accounts.successful }) ∨
      (r.after.result = .modbusException ∧ r.after.accounts = { r.before.accounts with
        exceptions := increment32 r.before.accounts.exceptions })) : StepCounted r := by
  have ht := transmits_of_silent hsent
  have hactive : stateIsActive r.before.state = true := by
    rcases hbefore with hb | hb <;> simp [hb]
  have hdelay : r.before.state ≠ .retryDelay := by
    rcases hbefore with hb | hb <;> simp [hb]
  rcases haccounts with ⟨hresult,haccounts⟩ | ⟨hresult,haccounts⟩
  · constructor <;>
      simp [TransactionRecord.schedules,TransactionRecord.ends,TransactionRecord.succeeds,
        TransactionRecord.excepts,TransactionRecord.cancels,TransactionRecord.fails,
        TransactionRecord.dropsRetry,ht,hopens,hsent,hactive,hdelay,hafter,hresult,
        haccounts,bumpIf]
  · constructor <;>
      simp [TransactionRecord.schedules,TransactionRecord.ends,TransactionRecord.succeeds,
        TransactionRecord.excepts,TransactionRecord.cancels,TransactionRecord.fails,
        TransactionRecord.dropsRetry,ht,hopens,hsent,hactive,hdelay,hafter,hresult,
        haccounts,bumpIf]

theorem StepCounted.cancelled (hopens : r.opens = false) (hsent : r.sent = [])
    (hactive : stateIsActive r.before.state = true) (hafter : r.after.state = .cancelled)
    (haccounts : r.after.accounts = { r.before.accounts with
      cancelled := increment32 r.before.accounts.cancelled }) : StepCounted r := by
  have ht := transmits_of_silent hsent
  constructor <;>
    simp [TransactionRecord.schedules,TransactionRecord.ends,TransactionRecord.succeeds,
      TransactionRecord.excepts,TransactionRecord.cancels,TransactionRecord.fails,
      TransactionRecord.dropsRetry,ht,hopens,hsent,hactive,hafter,haccounts,bumpIf]

end Shapes

section Steps
variable (t : Transaction)

theorem refused_counted {c : TransactionCall} {code : TransactionCode} (hcode : code ≠ .ok) :
    StepCounted ⟨t,c,(code,[]),t⟩ := by
  refine .quiet ?_ rfl rfl rfl
  cases c <;> simp [TransactionRecord.opens,hcode]

theorem start_counted (request : Option Request) (adu : Option (Mem Byte)) (length : Nat)
    (now : Word32) (answer : Int) :
    StepCounted ⟨t,.start request adu length now answer,(t.start request adu length now answer).1,
      (t.start request adu length now answer).2⟩ := by
  unfold Transaction.start
  split
  · split
    · exact refused_counted t (by decide)
    split
    · exact refused_counted t (by decide)
    rename_i hidle
    split
    · exact refused_counted t (by decide)
    split
    · exact refused_counted t (by decide)
    · rename_i request adu _ _ _
      refine .transmitted (t := t.load request adu length) rfl (.inl ⟨rfl,?_⟩) rfl
        (beginTransmit_transmitted _ answer now)
      simpa using hidle
  · exact refused_counted t (by decide)

theorem poll_counted (now : Word32) (answer : Int) :
    StepCounted ⟨t,.poll now answer,(t.poll now answer).1,(t.poll now answer).2⟩ := by
  unfold Transaction.poll
  split
  · exact refused_counted t (by decide)
  split
  · rename_i hdelay
    split
    · exact .transmitted (t := t) rfl (.inr ⟨rfl,hdelay⟩) rfl (beginTransmit_transmitted t answer now)
    · exact .quiet rfl rfl rfl rfl
  split
  · exact .quiet rfl rfl rfl rfl
  rename_i hwaiting
  split
  · exact .quiet rfl rfl rfl rfl
  · exact .gaveUp rfl rfl (.inr (not_not.mp hwaiting)) (handleResponseTimeout_gaveUp t now)

theorem onTxComplete_counted (now : Word32) :
    StepCounted ⟨t,.onTxComplete now,(t.onTxComplete now).1,(t.onTxComplete now).2⟩ := by
  unfold Transaction.onTxComplete
  split
  · exact refused_counted t (by decide)
  split
  · exact refused_counted t (by decide)
  rename_i hstate
  split
  · exact .completed rfl rfl (.inl (not_not.mp hstate)) rfl (.inl ⟨rfl,rfl⟩)
  · exact .wait rfl rfl (not_not.mp hstate) rfl rfl

theorem onTxError_counted (now : Word32) :
    StepCounted ⟨t,.onTxError now,(t.onTxError now).1,(t.onTxError now).2⟩ := by
  unfold Transaction.onTxError
  split
  · exact refused_counted t (by decide)
  split
  · exact refused_counted t (by decide)
  · rename_i hstate
    exact .gaveUp rfl rfl (.inl (not_not.mp hstate)) (transportFailed_gaveUp t now)

theorem judge_counted {adu : Mem Byte} {length : Nat} {now : Word32} {c : TransactionCall}
    (hc : c = .onResponse (some adu) length now) (hstate : t.state = .waitingResponse) :
    StepCounted ⟨t,c,(.ok,[]),
      (t.storeResponse adu length).judge (t.storeResponse adu length).protocolResult⟩ := by
  subst hc
  generalize hs : t.storeResponse adu length = s
  have hsame : s.state = t.state ∧ s.accounts = t.accounts := by
    subst hs
    exact ⟨rfl,rfl⟩
  generalize s.protocolResult = result
  unfold Transaction.judge
  split
  · exact .completed rfl rfl (.inr hstate) rfl (.inl ⟨rfl,by rw [← hsame.2]; rfl⟩)
  · exact .completed rfl rfl (.inr hstate) rfl (.inr ⟨rfl,by rw [← hsame.2]; rfl⟩)
  · exact .quiet rfl rfl hsame.1 hsame.2
  · exact .quiet rfl rfl hsame.1 hsame.2
  · exact .quiet rfl rfl hsame.1 hsame.2

theorem onResponse_counted (adu : Option (Mem Byte)) (length : Nat) (now : Word32) :
    StepCounted ⟨t,.onResponse adu length now,(t.onResponse adu length now).1,
      (t.onResponse adu length now).2⟩ := by
  unfold Transaction.onResponse
  split
  · exact refused_counted t (by decide)
  split
  · exact refused_counted t (by decide)
  split
  · exact refused_counted t (by decide)
  rename_i hwaiting
  have hstate := not_not.mp hwaiting
  split
  · refine .gaveUp rfl rfl (.inr hstate) ?_
    cases handleResponseTimeout_gaveUp
      (t.count fun d => { d with lateResponses := increment32 d.lateResponses }) now with
    | retry state accounts => exact .retry state accounts
    | fail state accounts => exact .fail state accounts
  split
  · exact .quiet rfl rfl rfl rfl
  · exact judge_counted t rfl hstate

theorem cancel_counted : StepCounted ⟨t,.cancel,t.cancel.1,t.cancel.2⟩ := by
  unfold Transaction.cancel
  split
  · exact refused_counted t (by decide)
  split
  · exact refused_counted t (by decide)
  · rename_i hactive
    exact .cancelled rfl rfl (not_not.mp hactive) rfl rfl

theorem transactionStep_counted (c : TransactionCall) : StepCounted (transactionRecord t c) := by
  cases c with
  | start request adu length now answer => exact start_counted t request adu length now answer
  | poll now answer => exact poll_counted t now answer
  | onTxComplete now => exact onTxComplete_counted t now
  | onTxError now => exact onTxError_counted t now
  | onResponse adu length now => exact onResponse_counted t adu length now
  | cancel => exact cancel_counted t

end Steps

def Saturates (value : Word32) (n : Nat) : Prop := value.toNat = min n 4294967295

theorem Saturates.bump {value : Word32} {n : Nat} (h : Saturates value n) (b : Bool) :
    Saturates (bumpIf b value) (n+b.toNat) := by
  cases b with
  | false => exact h
  | true =>
    simp only [Saturates,bumpIf,if_true,increment32,Bool.toNat_true] at h ⊢
    split
    · rename_i hne
      have hlt : value.toNat ≠ 4294967295 := fun he => hne (BitVec.eq_of_toNat_eq he)
      have := value.isLt
      rw [BitVec.toNat_add_of_lt (by simp; omega)]
      simp
      omega
    · rename_i he
      have hmax : value.toNat = 4294967295 := by
        rw [not_not.mp he]
        rfl
      omega

structure CountersHold (t : Transaction) (history : List TransactionRecord) : Prop where
  started : Saturates t.accounts.started (history.countP TransactionRecord.opens)
  attempts : Saturates t.accounts.attempts (history.countP TransactionRecord.transmits)
  retries : Saturates t.accounts.retries (history.countP TransactionRecord.schedules)
  successful : Saturates t.accounts.successful (history.countP TransactionRecord.succeeds)
  exceptions : Saturates t.accounts.exceptions (history.countP TransactionRecord.excepts)
  cancelled : Saturates t.accounts.cancelled (history.countP TransactionRecord.cancels)
  transports : (transportCalls history).length = history.countP TransactionRecord.transmits
  pending : history.countP TransactionRecord.transmits+history.countP TransactionRecord.dropsRetry+
      (decide (t.state = .retryDelay)).toNat =
    history.countP TransactionRecord.opens+history.countP TransactionRecord.schedules
  active : history.countP TransactionRecord.opens =
    history.countP TransactionRecord.succeeds+history.countP TransactionRecord.excepts+
      history.countP TransactionRecord.cancels+history.countP TransactionRecord.fails+
      (stateIsActive t.state).toNat

theorem countP_snoc (p : TransactionRecord → Bool) (history : List TransactionRecord)
    (r : TransactionRecord) : (history ++ [r]).countP p = history.countP p+(p r).toNat := by
  rw [List.countP_append,List.countP_singleton]
  cases p r <;> rfl

theorem CountersHold.snoc {r : TransactionRecord} {history : List TransactionRecord}
    (h : CountersHold r.before history) (hr : StepCounted r) :
    CountersHold r.after (history ++ [r]) := by
  have hpending := hr.pending
  have hactive := hr.active
  have hpending' := h.pending
  have hactive' := h.active
  constructor
  · rw [hr.accounts,countP_snoc]
    exact h.started.bump r.opens
  · rw [hr.accounts,countP_snoc]
    exact h.attempts.bump r.transmits
  · rw [hr.accounts,countP_snoc]
    exact h.retries.bump r.schedules
  · rw [hr.accounts,countP_snoc]
    exact h.successful.bump r.succeeds
  · rw [hr.accounts,countP_snoc]
    exact h.exceptions.bump r.excepts
  · rw [hr.accounts,countP_snoc]
    exact h.cancelled.bump r.cancels
  · rw [transportCalls,List.flatMap_append,List.length_append,countP_snoc,← h.transports,
      transportCalls,List.flatMap_singleton,hr.once]
  · simp only [countP_snoc]
    omega
  · simp only [countP_snoc]
    omega

theorem transaction_countersHold {config : TransactionConfig} {t₀ : Transaction}
    (hinit : mbrtumTransactionInit (some config) true = .ok t₀) (calls : List TransactionCall) :
    CountersHold (run transactionStep t₀ calls) (records transactionStep t₀ calls) := by
  have hstart : CountersHold t₀ [] := by
    simp only [mbrtumTransactionInit,not_true_eq_false,if_false] at hinit
    split at hinit
    · cases hinit
    · cases hinit
      exact ⟨rfl,rfl,rfl,rfl,rfl,rfl,rfl,rfl,rfl⟩
  exact history_invariant CountersHold (fun t history c h =>
    h.snoc (r := transactionRecord t c) (transactionStep_counted t c)) hstart calls

theorem dropsRetry_iff {t : Transaction} (hinit : t.isInitialized = true) (c : TransactionCall) :
    (transactionRecord t c).dropsRetry = true ↔ c = .cancel ∧ t.state = .retryDelay := by
  constructor
  · intro h
    simp only [TransactionRecord.dropsRetry,TransactionRecord.cancels,Bool.and_eq_true,
      decide_eq_true_eq] at h
    obtain ⟨hbefore,-,hafter⟩ := h
    have hstate : t.state = .retryDelay := hbefore
    refine ⟨?_,hstate⟩
    have hcancelled : (transactionStep t c).2.state = .cancelled := hafter
    have htransmitted : ∀ {s : Transaction} {answer : Int} {now : Word32},
        (s.beginTransmit answer now).2.state ≠ .cancelled := by
      intro s answer now hs
      cases beginTransmit_transmitted s answer now with
      | sending state _ => simp [hs] at state
      | retry state _ => simp [hs] at state
      | fail state _ => simp [hs] at state
    have hm := transactionStep_moves hinit c
    generalize (transactionStep t c).1 = out at hm
    generalize (transactionStep t c).2 = t' at hm hcancelled
    cases hm with
    | refused c code hcode hc => simp [hstate] at hcancelled
    | rested now answer hdue => simp [hstate] at hcancelled
    | started request adu length now answer hidle hlength hmatch => simp [hstate] at hidle
    | retried now answer hd hdue => exact absurd hcancelled htransmitted
    | timedOut c now t' hc hs hdue hkept hgiven => simp [hstate] at hs
    | sentUnanswered now t' hs hnone hkept hdone hresult hretries => simp [hstate] at hs
    | sent now hs hsome => simp [hstate] at hs
    | failed now hs => simp [hstate] at hs
    | wrongLength adu length now hs hearly hlength => simp [hstate] at hs
    | judged adu length now hs hearly hlength => simp [hstate] at hs
    | cancelled t' hactive hkept hs hresult hretries => rfl
  · rintro ⟨rfl,hstate⟩
    simp [TransactionRecord.dropsRetry,TransactionRecord.cancels,TransactionRecord.ends,
      transactionRecord,transactionStep,Transaction.cancel,hinit,hstate,Transaction.finish]

def Unsaturated (a : Accounts) : Prop :=
  a.started.toNat < 4294967295 ∧ a.attempts.toNat < 4294967295 ∧ a.retries.toNat < 4294967295 ∧
    a.successful.toNat < 4294967295 ∧ a.exceptions.toNat < 4294967295 ∧
    a.cancelled.toNat < 4294967295

/-- Every transmission is the first one of a transaction or a retry, and every transaction has
come to one of the four ends. -/
structure CountersAccount (t : Transaction) (history : List TransactionRecord) : Prop where
  transports : t.accounts.attempts.toNat = (transportCalls history).length
  attempts : t.accounts.attempts.toNat = t.accounts.started.toNat+t.accounts.retries.toNat
  ends : t.accounts.started.toNat = t.accounts.successful.toNat+t.accounts.exceptions.toNat+
    t.accounts.cancelled.toNat+history.countP TransactionRecord.fails

/-- The counters account for everything exactly if no transaction was cancelled with a retry
pending: that retry has been counted and is never transmitted. -/
theorem transactionCounters_account_iff (config : TransactionConfig) (t₀ : Transaction)
    (hinit : mbrtumTransactionInit (some config) true = .ok t₀) (calls : List TransactionCall)
    (hidle : stateIsActive (run transactionStep t₀ calls).state = false)
    (hcounters : Unsaturated (run transactionStep t₀ calls).accounts) :
    CountersAccount (run transactionStep t₀ calls) (records transactionStep t₀ calls) ↔
      ∀ r ∈ records transactionStep t₀ calls,
        ¬ (r.input = .cancel ∧ r.before.state = .retryDelay) := by
  obtain ⟨h1,h2,h3,h4,h5,h6,htransports,hpending,hactive⟩ := transaction_countersHold hinit calls
  obtain ⟨l1,l2,l3,l4,l5,l6⟩ := hcounters
  have hdelay : (run transactionStep t₀ calls).state ≠ .retryDelay := by
    intro he
    simp [he] at hidle
  simp only [hdelay,hidle,decide_false,Bool.toNat_false,Nat.add_zero] at hpending hactive
  simp only [Saturates] at h1 h2 h3 h4 h5 h6
  have hdrops : ∀ r ∈ records transactionStep t₀ calls,
      (TransactionRecord.dropsRetry r = true ↔ r.input = .cancel ∧ r.before.state = .retryDelay) := by
    intro r hr
    obtain ⟨ys,zs,-,hbefore,hstep⟩ := mem_records hr
    have hready : r.before.isInitialized = true := by
      rw [hbefore]
      exact (accounted_run hinit ys).initialized
    have hrecord : r = transactionRecord r.before r.input := by
      obtain ⟨before,input,output,after⟩ := r
      simp only [transactionRecord,← hstep]
    rw [hrecord]
    exact dropsRetry_iff hready r.input
  have hzero : (records transactionStep t₀ calls).countP TransactionRecord.dropsRetry = 0 ↔
      ∀ r ∈ records transactionStep t₀ calls,
        ¬ (r.input = .cancel ∧ r.before.state = .retryDelay) := by
    rw [List.countP_eq_zero]
    exact forall₂_congr fun r hr => not_congr (hdrops r hr)
  rw [← hzero]
  constructor
  · intro h
    have := h.attempts
    omega
  · intro h0
    exact ⟨by omega,by omega,by omega⟩

theorem transactionCounters_account_retry :
    CountersAccount (run transactionStep (.initialized retryOnce) answeredOnRetry)
      (records transactionStep (.initialized retryOnce) answeredOnRetry) := by
  refine (transactionCounters_account_iff retryOnce (.initialized retryOnce) rfl answeredOnRetry
    (by decide +kernel) ?_).mpr ?_
  · exact ⟨by decide +kernel,by decide +kernel,by decide +kernel,by decide +kernel,
      by decide +kernel,by decide +kernel⟩
  · intro r hr hc
    obtain ⟨ys,zs,hsplit,-⟩ := mem_records hr
    have hmem : r.input ∈ answeredOnRetry := by
      rw [hsplit]
      simp
    rw [hc.1] at hmem
    simp [answeredOnRetry] at hmem

def cancelledBeforeRetry : List TransactionCall :=
  [.start (some ⟨0x11#8,0x07#8,0,0,0,1,0,0⟩) (some exceptionStatusAdu) 4 0 0,.onTxComplete 2,
    .poll 102 0,.cancel]

theorem cancelledBeforeRetry_unaccounted :
    mbrtumTransactionInit (some retryOnce) true = .ok (.initialized retryOnce) ∧
    stateIsActive (run transactionStep (.initialized retryOnce) cancelledBeforeRetry).state = false ∧
    Unsaturated (run transactionStep (.initialized retryOnce) cancelledBeforeRetry).accounts ∧
    ¬ CountersAccount (run transactionStep (.initialized retryOnce) cancelledBeforeRetry)
      (records transactionStep (.initialized retryOnce) cancelledBeforeRetry) := by
  have haccounts : (run transactionStep (.initialized retryOnce) cancelledBeforeRetry).accounts =
      ⟨1,1,1,0,0,1⟩ := by decide +kernel
  refine ⟨rfl,by decide +kernel,?_,fun h => ?_⟩
  · rw [haccounts]
    exact ⟨by decide,by decide,by decide,by decide,by decide,by decide⟩
  · have hattempts := h.attempts
    rw [haccounts] at hattempts
    exact absurd hattempts (by decide)

end ModbusStack
