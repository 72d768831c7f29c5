import ModbusStack.Machine
import ModbusStack.InBounds
import ModbusStack.Transaction

/-! Runs of the transaction engine. One relation says what a call can do; what holds of
every run of calls after `mbrtum_transaction_init` is derived from it. -/
set_option autoImplicit false

namespace ModbusStack
open ByteMemory Machine

namespace Transaction
variable (t : Transaction)

structure SameRequest (t' : Transaction) : Prop where
  config : t'.config = t.config
  cookie : t'.initializationCookie = t.initializationCookie
  request : t'.request = t.request
  requestAdu : t'.requestAdu = t.requestAdu
  requestAduLength : t'.requestAduLength = t.requestAduLength

/-- The fields that a retry, a timeout or a transport failure leaves alone. -/
structure Kept (t' : Transaction) : Prop extends t.SameRequest t' where
  sawResponseError : t'.sawResponseError = t.sawResponseError
  response : t'.response = t.response
  responseAdu : t'.responseAdu = t.responseAdu
  responseAduLength : t'.responseAduLength = t.responseAduLength
  exceptionCode : t'.exceptionCode = t.exceptionCode

/-- An attempt has ended without an answer: another one is scheduled, or the transaction
fails with the given result. -/
inductive GivenUp (now : Word32) (finalResult : TransactionResult) (t' : Transaction) : Prop where
  | retry (h : t.retriesUsed.toNat < t.config.maxRetries.toNat) (state : t'.state = .retryDelay)
      (result : t'.result = t.result) (deadline : t'.deadline = now+t.config.retryDelayTicks)
      (retries : t'.retriesUsed.toNat = t.retriesUsed.toNat+1)
  | fail (state : t'.state = .failed) (result : t'.result = finalResult)
      (retries : t'.retriesUsed = t.retriesUsed)

section Counted
variable {t : Transaction} {f : TransactionDiagnostics → TransactionDiagnostics}
  {t' : Transaction}

theorem Kept.of_count (h : (t.count f).Kept t') : t.Kept t' :=
  ⟨⟨h.config,h.cookie,h.request,h.requestAdu,h.requestAduLength⟩,h.sawResponseError,h.response,
    h.responseAdu,h.responseAduLength,h.exceptionCode⟩

theorem Kept.refl : t.Kept t := ⟨⟨rfl,rfl,rfl,rfl,rfl⟩,rfl,rfl,rfl,rfl,rfl⟩

theorem GivenUp.of_count {now : Word32} {r : TransactionResult}
    (h : (t.count f).GivenUp now r t') : t.GivenUp now r t' := by
  cases h with
  | retry h state result deadline retries => exact .retry h state result deadline retries
  | fail state result retries => exact .fail state result retries

end Counted

theorem scheduleRetryOrFinish_spec (now : Word32) (r : TransactionResult) :
    Kept t (t.scheduleRetryOrFinish now r) ∧ GivenUp t now r (t.scheduleRetryOrFinish now r) := by
  unfold scheduleRetryOrFinish
  split
  · rename_i h
    refine ⟨⟨⟨rfl,rfl,rfl,rfl,rfl⟩,rfl,rfl,rfl,rfl,rfl⟩,.retry h rfl rfl rfl ?_⟩
    have hm := t.config.maxRetries.isLt
    simp only [BitVec.toNat_add,BitVec.toNat_ofNat]
    omega
  · exact ⟨⟨⟨rfl,rfl,rfl,rfl,rfl⟩,rfl,rfl,rfl,rfl,rfl⟩,.fail rfl rfl rfl⟩

def timeoutResult : TransactionResult :=
  if t.sawResponseError ≠ 0#8 then .responseError else .timeout

theorem handleResponseTimeout_spec (now : Word32) :
    Kept t (t.handleResponseTimeout now) ∧
      GivenUp t now t.timeoutResult (t.handleResponseTimeout now) := by
  have h := scheduleRetryOrFinish_spec
    (t.count fun d => { d with timeouts := increment32 d.timeouts }) now t.timeoutResult
  exact ⟨h.1.of_count,h.2.of_count⟩

theorem transportFailed_spec (now : Word32) :
    Kept t (t.transportFailed now) ∧ GivenUp t now .transportError (t.transportFailed now) ∧
      (t.config.retryTransportErrors = 0#8 → (t.transportFailed now).state = .failed) := by
  by_cases hr : t.config.retryTransportErrors ≠ 0#8
  · have he : t.transportFailed now = (t.count fun d => { d with
        transportErrors := increment32 d.transportErrors }).scheduleRetryOrFinish now
          .transportError := if_pos hr
    have h := scheduleRetryOrFinish_spec
      (t.count fun d => { d with transportErrors := increment32 d.transportErrors }) now
      .transportError
    rw [he]
    exact ⟨h.1.of_count,h.2.of_count,fun h => absurd h hr⟩
  · have he : t.transportFailed now = (t.count fun d => { d with
        transportErrors := increment32 d.transportErrors }).finish .failed .transportError :=
      if_neg hr
    rw [he]
    exact ⟨⟨⟨rfl,rfl,rfl,rfl,rfl⟩,rfl,rfl,rfl,rfl,rfl⟩,.fail rfl rfl rfl,fun _ => rfl⟩

end Transaction

/-- The validator has found fault with a frame that was meant for this transaction. -/
def MasterResult.isMalformed : MasterResult → Bool
  | .ok | .exceptionResponse | .errorAddressMismatch | .errorFunctionMismatch => false
  | _ => true

def Transaction.validate (t : Transaction) (adu : Mem Byte) (length : Nat) :
    MasterResult × Response :=
  mbrtumProcessResponseWithRequestAdu t.request (some t.requestAdu) t.requestAduLength
    (some adu) length

/-- The copy of the frame is judged as the frame itself would be. -/
theorem Transaction.storeResponse_eq (t : Transaction) (adu : Mem Byte) (length : Nat) :
    t.storeResponse adu length = { t with
      responseAdu := store t.responseAdu 0 (slice adu 0 length)
      responseAduLength := length
      response := (t.validate adu length).2
      protocolResult := (t.validate adu length).1 } := by
  have hagree : AgreeUpTo length (store t.responseAdu 0 (slice adu 0 length)) adu := by
    intro i hi
    have h := store_inside t.responseAdu 0 (slice adu 0 length) i (by simpa using hi)
    simpa [slice] using h
  simp only [storeResponse,validate,
    mbrtumProcessResponseWithRequestAdu_congr t.request t.requestAduLength hagree]

inductive Moves (t : Transaction) :
    TransactionCall → TransactionCode × List (List Byte) → Transaction → Prop where
  | refused (c : TransactionCall) (code : TransactionCode) (hcode : code ≠ .ok)
      (hc : ∀ adu length now, c = .onResponse (some adu) length now → t.state ≠ .waitingResponse) :
      Moves t c (code,[]) t
  | rested (now : Word32) (answer : Int)
      (hdue : ¬ (t.state = .waitingResponse ∧ deadlineReached now t.deadline = true)) :
      Moves t (.poll now answer) (.ok,[]) t
  | started (request : Request) (adu : Mem Byte) (length : Nat) (now : Word32) (answer : Int)
      (hidle : stateIsActive t.state = false) (hlength : length ≤ 256)
      (hmatch : requestAduMatchesDescriptor request adu length = true) :
      Moves t (.start (some request) (some adu) length now answer)
        ((t.load request adu length).beginTransmit answer now).1
        ((t.load request adu length).beginTransmit answer now).2
  | retried (now : Word32) (answer : Int) (hstate : t.state = .retryDelay)
      (hdue : deadlineReached now t.deadline = true) :
      Moves t (.poll now answer) (t.beginTransmit answer now).1 (t.beginTransmit answer now).2
  | timedOut (c : TransactionCall) (now : Word32) (t' : Transaction)
      (hc : (∃ answer, c = .poll now answer) ∨ ∃ adu length, c = .onResponse (some adu) length now)
      (hstate : t.state = .waitingResponse) (hdue : deadlineReached now t.deadline = true)
      (hkept : t.Kept t') (hgiven : t.GivenUp now t.timeoutResult t') : Moves t c (.ok,[]) t'
  | sentUnanswered (now : Word32) (t' : Transaction) (hstate : t.state = .transmitting)
      (hnone : t.request.expectsResponse = 0#8) (hkept : t.Kept t') (hdone : t'.state = .complete)
      (hresult : t'.result = .success) (hretries : t'.retriesUsed = t.retriesUsed) :
      Moves t (.onTxComplete now) (.ok,[]) t'
  | sent (now : Word32) (hstate : t.state = .transmitting)
      (hsome : t.request.expectsResponse ≠ 0#8) :
      Moves t (.onTxComplete now) (.ok,[]) { t with
        deadline := now+t.config.responseTimeoutTicks
        state := .waitingResponse }
  | failed (now : Word32) (hstate : t.state = .transmitting) :
      Moves t (.onTxError now) (.ok,[]) (t.transportFailed now)
  | wrongLength (adu : Mem Byte) (length : Nat) (now : Word32) (hstate : t.state = .waitingResponse)
      (hearly : deadlineReached now t.deadline = false) (hlength : length = 0 ∨ 256 < length) :
      Moves t (.onResponse (some adu) length now) (.ok,[])
        { t.noteMalformed with protocolResult := .errorResponseLength }
  | judged (adu : Mem Byte) (length : Nat) (now : Word32) (hstate : t.state = .waitingResponse)
      (hearly : deadlineReached now t.deadline = false) (hlength : ¬ (length = 0 ∨ 256 < length)) :
      Moves t (.onResponse (some adu) length now) (.ok,[])
        ((t.storeResponse adu length).judge (t.validate adu length).1)
  | cancelled (t' : Transaction) (hactive : stateIsActive t.state = true) (hkept : t.Kept t')
      (hstate : t'.state = .cancelled) (hresult : t'.result = .cancelled)
      (hretries : t'.retriesUsed = t.retriesUsed) : Moves t .cancel (.ok,[]) t'

section Steps
variable {t : Transaction} (hinit : t.isInitialized = true)
include hinit

theorem start_moves (request : Option Request) (adu : Option (Mem Byte)) (length : Nat)
    (now : Word32) (answer : Int) :
    Moves t (.start request adu length now answer) (t.start request adu length now answer).1
      (t.start request adu length now answer).2 := by
  have hrefuse : ∀ code, code ≠ .ok → Moves t (.start request adu length now answer) (code,[]) t :=
    fun code hcode => .refused _ code hcode fun _ _ _ h => nomatch h
  unfold Transaction.start
  split
  · simp only [hinit,not_true_eq_false,if_false]
    split
    · exact hrefuse _ (by decide)
    · rename_i hidle
      split
      · exact hrefuse _ (by decide)
      · rename_i hlength
        split
        · exact hrefuse _ (by decide)
        · rename_i hmatch
          exact .started _ _ _ _ _ (by simpa using hidle) (by omega) (by simpa using hmatch)
  · exact hrefuse _ (by decide)

theorem poll_moves (now : Word32) (answer : Int) :
    Moves t (.poll now answer) (t.poll now answer).1 (t.poll now answer).2 := by
  unfold Transaction.poll
  simp only [hinit,not_true_eq_false,if_false]
  split
  · rename_i hstate
    split
    · exact .retried now answer hstate ‹_›
    · exact .rested now answer (by simp [hstate])
  · split
    · rename_i hstate
      exact .rested now answer fun h => hstate h.1
    · rename_i hstate
      have hw : t.state = .waitingResponse := not_not.mp hstate
      split
      · rename_i hdue
        exact .rested now answer fun h => hdue h.2
      · rename_i hdue
        obtain ⟨hk,hg⟩ := t.handleResponseTimeout_spec now
        exact .timedOut _ now _ (.inl ⟨answer,rfl⟩) hw (by simpa using hdue) hk hg

theorem onTxComplete_moves (now : Word32) :
    Moves t (.onTxComplete now) (t.onTxComplete now).1 (t.onTxComplete now).2 := by
  unfold Transaction.onTxComplete
  simp only [hinit,not_true_eq_false,if_false]
  split
  · exact .refused _ _ (by decide) fun _ _ _ h => nomatch h
  · rename_i hstate
    have ht : t.state = .transmitting := not_not.mp hstate
    split
    · rename_i hnone
      exact .sentUnanswered now _ ht hnone ⟨⟨rfl,rfl,rfl,rfl,rfl⟩,rfl,rfl,rfl,rfl,rfl⟩ rfl rfl rfl
    · exact .sent now ht ‹_›

theorem onTxError_moves (now : Word32) :
    Moves t (.onTxError now) (t.onTxError now).1 (t.onTxError now).2 := by
  unfold Transaction.onTxError
  simp only [hinit,not_true_eq_false,if_false]
  split
  · exact .refused _ _ (by decide) fun _ _ _ h => nomatch h
  · rename_i hstate
    exact .failed now (not_not.mp hstate)

theorem onResponse_moves (adu : Option (Mem Byte)) (length : Nat) (now : Word32) :
    Moves t (.onResponse adu length now) (t.onResponse adu length now).1
      (t.onResponse adu length now).2 := by
  unfold Transaction.onResponse
  cases adu with
  | none => exact .refused _ _ (by decide) fun _ _ _ h => nomatch h
  | some adu =>
    simp only [hinit,not_true_eq_false,if_false]
    split
    · rename_i hstate
      exact .refused _ _ (by decide) fun _ _ _ _ => hstate
    · rename_i hstate
      have hw : t.state = .waitingResponse := not_not.mp hstate
      split
      · rename_i hdue
        obtain ⟨hk,hg⟩ := Transaction.handleResponseTimeout_spec
          (t.count fun d => { d with lateResponses := increment32 d.lateResponses }) now
        exact .timedOut _ now _ (.inr ⟨adu,length,rfl⟩) hw hdue hk.of_count hg.of_count
      · rename_i hdue
        split
        · exact .wrongLength adu length now hw (by simpa using hdue) ‹_›
        · rename_i hlength
          have hj := Moves.judged adu length now hw (by simpa using hdue) hlength
          rw [t.storeResponse_eq adu length] at hj ⊢
          exact hj

theorem cancel_moves : Moves t .cancel t.cancel.1 t.cancel.2 := by
  unfold Transaction.cancel
  simp only [hinit,not_true_eq_false,if_false]
  split
  · exact .refused _ _ (by decide) fun _ _ _ h => nomatch h
  · rename_i hactive
    exact .cancelled _ (by simpa using hactive) ⟨⟨rfl,rfl,rfl,rfl,rfl⟩,rfl,rfl,rfl,rfl,rfl⟩
      rfl rfl rfl

theorem transactionStep_moves (c : TransactionCall) :
    Moves t c (transactionStep t c).1 (transactionStep t c).2 := by
  cases c with
  | start request adu length now answer => exact start_moves hinit request adu length now answer
  | poll now answer => exact poll_moves hinit now answer
  | onTxComplete now => exact onTxComplete_moves hinit now
  | onTxError now => exact onTxError_moves hinit now
  | onResponse adu length now => exact onResponse_moves hinit adu length now
  | cancel => exact cancel_moves hinit

end Steps

theorem onTxComplete_silent (t : Transaction) (now : Word32) : (t.onTxComplete now).1.2 = [] := by
  unfold Transaction.onTxComplete
  repeat' split
  all_goals rfl

theorem onResponse_silent (t : Transaction) (adu : Option (Mem Byte)) (length : Nat) (now : Word32) :
    (t.onResponse adu length now).1.2 = [] := by
  unfold Transaction.onResponse
  repeat' split
  all_goals rfl

/-! The history of a run. -/

abbrev TransactionRecord := Record Transaction TransactionCall (TransactionCode × List (List Byte))

namespace TransactionRecord
variable (r : TransactionRecord)

def sent : List (List Byte) := r.output.2

def transmits : Bool := !r.sent.isEmpty

def opens : Bool :=
  match r.input with
  | .start .. => r.output.1 = .ok
  | _ => false

/-- The transport rejected the frame, or `mbrtum_transaction_on_tx_error` was reported. -/
def transportFails : Bool :=
  match r.input with
  | .start _ _ _ _ answer | .poll _ answer => r.transmits && decide (answer ≠ 0)
  | .onTxError _ => r.output.1 = .ok
  | _ => false

/-- The response deadline was found to have passed, in `poll` or by a late frame. -/
def timesOut : Bool :=
  match r.input with
  | .poll now _ | .onResponse (some _) _ now =>
    r.before.state = .waitingResponse ∧ deadlineReached now r.before.deadline
  | _ => false

def time : Word32 :=
  match r.input with
  | .start _ _ _ now _ | .poll now _ | .onTxComplete now | .onTxError now | .onResponse _ _ now => now
  | .cancel => 0

end TransactionRecord

/-- The records of the current transaction, its start included. -/
def transactionOf (history : List TransactionRecord) : List TransactionRecord :=
  since TransactionRecord.opens history

def attemptOf (history : List TransactionRecord) : List TransactionRecord :=
  since TransactionRecord.transmits history

def transportCalls (history : List TransactionRecord) : List (List Byte) :=
  history.flatMap TransactionRecord.sent

def transactionRecord (t : Transaction) (c : TransactionCall) : TransactionRecord :=
  ⟨t,c,(transactionStep t c).1,(transactionStep t c).2⟩

def OpenedBy (t : Transaction) (q : TransactionRecord) : Prop :=
  q.opens = true ∧ ∃ adu now answer,
    q.input = .start (some t.request) (some adu) t.requestAduLength now answer ∧
      slice t.requestAdu 0 t.requestAduLength = slice adu 0 t.requestAduLength

structure Accounted (config : TransactionConfig) (t : Transaction)
    (history : List TransactionRecord) : Prop where
  initialized : t.isInitialized = true
  config_eq : t.config = config
  retries : t.retriesUsed.toNat ≤ config.maxRetries.toNat
  fresh : t.state = .idle → ∀ r ∈ history, r.opens = false
  opened : t.state ≠ .idle → ∃ q rest, transactionOf history = q :: rest ∧ OpenedBy t q
  called : t.state ≠ .idle → 1 ≤ (transportCalls (transactionOf history)).length
  calls : t.state ≠ .idle → (transportCalls (transactionOf history)).length +
    (if t.state = .retryDelay then 1 else 0) ≤ t.retriesUsed.toNat+1
  scheduled : t.state = .retryDelay → ∃ q ∈ attemptOf history,
    (q.transportFails = true ∨ q.timesOut = true) ∧ t.deadline = q.time+config.retryDelayTicks
  clean : config.retryTransportErrors = 0#8 → stateIsActive t.state = true →
    ∀ q ∈ transactionOf history, q.transportFails = false

section Accounting
variable {config : TransactionConfig} {t : Transaction} {history : List TransactionRecord}

theorem transactionOf_snoc {r : TransactionRecord} (h : r.opens = false) :
    transactionOf (history ++ [r]) = transactionOf history ++ [r] := since_snoc_of_neg h

theorem attemptOf_snoc {r : TransactionRecord} (h : r.transmits = false) :
    attemptOf (history ++ [r]) = attemptOf history ++ [r] := since_snoc_of_neg h

theorem Accounted.extend (ha : Accounted config t history) {t' : Transaction}
    {r : TransactionRecord} (hopens : r.opens = false) (hsent : r.sent = [])
    (hkept : t.SameRequest t') (hidle : t'.state = .idle ↔ t.state = .idle)
    (hretries : t'.retriesUsed.toNat ≤ config.maxRetries.toNat)
    (hcount : t.retriesUsed.toNat+(if t'.state = .retryDelay then 1 else 0) ≤
      t'.retriesUsed.toNat+(if t.state = .retryDelay then 1 else 0))
    (hscheduled : t'.state = .retryDelay → ∃ q ∈ attemptOf (history ++ [r]),
      (q.transportFails = true ∨ q.timesOut = true) ∧ t'.deadline = q.time+config.retryDelayTicks)
    (hclean : config.retryTransportErrors = 0#8 → stateIsActive t'.state = true →
      stateIsActive t.state = true ∧ r.transportFails = false) :
    Accounted config t' (history ++ [r]) := by
  have hcalls : transportCalls (transactionOf (history ++ [r])) =
      transportCalls (transactionOf history) := by
    simp [transactionOf_snoc hopens,transportCalls,hsent]
  exact {
  initialized := by
    have h := ha.initialized
    simp only [Transaction.isInitialized] at h ⊢
    rw [hkept.cookie]
    exact h
  config_eq := hkept.config.trans ha.config_eq
  retries := hretries
  fresh := by
    intro hs q hq
    rcases List.mem_append.mp hq with hq | hq
    · exact ha.fresh (hidle.mp hs) q hq
    · rw [List.mem_singleton.mp hq]
      exact hopens
  opened := by
    intro hs
    obtain ⟨q,rest,hq,hb,adu,now,answer,hi,he⟩ := ha.opened fun h => hs (hidle.mpr h)
    refine ⟨q,rest ++ [r],by rw [transactionOf_snoc hopens,hq]; rfl,hb,adu,now,answer,?_,?_⟩
    · rw [hkept.request,hkept.requestAduLength]
      exact hi
    · rw [hkept.requestAdu,hkept.requestAduLength]
      exact he
  called := by
    intro hs
    rw [hcalls]
    exact ha.called fun h => hs (hidle.mpr h)
  calls := by
    intro hs
    have h := ha.calls fun h => hs (hidle.mpr h)
    rw [hcalls]
    omega
  scheduled := hscheduled
  clean := by
    intro hr hactive q hq
    obtain ⟨hbefore,hf⟩ := hclean hr hactive
    rw [transactionOf_snoc hopens] at hq
    rcases List.mem_append.mp hq with hq | hq
    · exact ha.clean hr hbefore q hq
    · rw [List.mem_singleton.mp hq]
      exact hf }

theorem Accounted.giveUp (ha : Accounted config t history) {t' : Transaction}
    {r : TransactionRecord} {finalResult : TransactionResult} (hopens : r.opens = false)
    (hsent : r.sent = []) (hstate : t.state = .transmitting ∨ t.state = .waitingResponse)
    (hkept : t.Kept t') (hgiven : t.GivenUp r.time finalResult t')
    (hcause : r.transportFails = true ∨ r.timesOut = true)
    (hclean : config.retryTransportErrors = 0#8 → t'.state ≠ .failed → r.transportFails = false) :
    Accounted config t' (history ++ [r]) := by
  have hactive : stateIsActive t.state = true := by rcases hstate with h | h <;> simp [stateIsActive,h]
  have hidle : t.state ≠ .idle := by rcases hstate with h | h <;> simp [h]
  have hdelay : t.state ≠ .retryDelay := by rcases hstate with h | h <;> simp [h]
  have hr := ha.retries
  cases hgiven with
  | retry h state result deadline retries =>
    rw [ha.config_eq] at h deadline
    refine ha.extend hopens hsent hkept.toSameRequest (by simp [state,hidle]) (by omega) ?_ ?_ ?_
    · simp only [state,hdelay,if_true,if_false]
      omega
    · exact fun _ => ⟨r,last_mem_since,hcause,deadline⟩
    · exact fun he _ => ⟨hactive,hclean he (by simp [state])⟩
  | fail state result retries =>
    refine ha.extend hopens hsent hkept.toSameRequest (by simp [state,hidle]) (by rw [retries]; exact hr) ?_ ?_ ?_
    · simp [state,hdelay,retries]
    · intro h
      simp [state] at h
    · intro _ h
      simp [state,stateIsActive] at h

theorem Accounted.leave (ha : Accounted config t history) {t' : Transaction}
    {r : TransactionRecord} (hsame : t.SameRequest t')
    (hstate : t.state = .transmitting ∨ t.state = .waitingResponse ∨ t.state = .retryDelay)
    (hidle : t'.state ≠ .idle) (hdelay : t'.state ≠ .retryDelay)
    (hretries : t'.retriesUsed = t.retriesUsed) (hopens : r.opens = false) (hsent : r.sent = [])
    (hfails : r.transportFails = false) : Accounted config t' (history ++ [r]) := by
  have hactive : stateIsActive t.state = true := by simpa [stateIsActive] using hstate
  have ht : t.state ≠ .idle := by rcases hstate with h | h | h <;> simp [h]
  refine ha.extend hopens hsent hsame (by simp [hidle,ht]) (by rw [hretries]; exact ha.retries)
    ?_ (fun h => absurd h hdelay) fun _ _ => ⟨hactive,hfails⟩
  simp [hdelay,hretries]

theorem judge_spec (t : Transaction) (adu : Mem Byte) (length : Nat) (result : MasterResult) :
    t.SameRequest ((t.storeResponse adu length).judge result) ∧
      (((t.storeResponse adu length).judge result).state = t.state ∨
        ((t.storeResponse adu length).judge result).state = .complete) ∧
      ((t.storeResponse adu length).judge result).retriesUsed = t.retriesUsed := by
  rw [t.storeResponse_eq]
  cases result <;> exact ⟨⟨rfl,rfl,rfl,rfl,rfl⟩,by first | exact .inl rfl | exact .inr rfl,rfl⟩

theorem Accounted.send {s : Transaction} {r : TransactionRecord} {now : Word32} {answer : Int}
    (hinit : s.isInitialized = true) (hconfig : s.config = config) (hstate : s.state = .transmitting)
    (hretries : s.retriesUsed.toNat ≤ config.maxRetries.toNat)
    (hopened : ∃ q rest, transactionOf (history ++ [r]) = q :: rest ∧ OpenedBy s q)
    (hcalls : 1 ≤ (transportCalls (transactionOf (history ++ [r]))).length ∧
      (transportCalls (transactionOf (history ++ [r]))).length ≤ s.retriesUsed.toNat+1)
    (hclean : config.retryTransportErrors = 0#8 → r.transportFails = false →
      ∀ q ∈ transactionOf (history ++ [r]), q.transportFails = false)
    (hfails : r.transportFails = decide (answer ≠ 0)) (htime : r.time = now) :
    Accounted config (if answer = 0 then s else s.transportFailed now) (history ++ [r]) := by
  by_cases hz : answer = 0
  · simp only [hz,if_true]
    refine ⟨hinit,hconfig,hretries,by simp [hstate],fun _ => hopened,fun _ => hcalls.1,?_,
      by simp [hstate],?_⟩
    · simp [hstate,hcalls.2]
    · exact fun he _ => hclean he (by simp [hfails,hz])
  · simp only [hz,if_false]
    obtain ⟨hk,hg,hf⟩ := s.transportFailed_spec now
    have hopened' : ∃ q rest, transactionOf (history ++ [r]) = q :: rest ∧
        OpenedBy (s.transportFailed now) q := by
      obtain ⟨q,rest,hq,hb,adu,time,result,hi,he⟩ := hopened
      refine ⟨q,rest,hq,hb,adu,time,result,?_,?_⟩
      · rw [hk.request,hk.requestAduLength]
        exact hi
      · rw [hk.requestAdu,hk.requestAduLength]
        exact he
    have hinit' : (s.transportFailed now).isInitialized = true := by
      simp only [Transaction.isInitialized] at hinit ⊢
      rw [hk.cookie]
      exact hinit
    have hquiet : config.retryTransportErrors = 0#8 → stateIsActive (s.transportFailed now).state =
        true → ∀ q ∈ transactionOf (history ++ [r]), q.transportFails = false := by
      intro he hactive
      rw [hf (by rw [hconfig]; exact he)] at hactive
      simp [stateIsActive] at hactive
    cases hg with
    | retry h state result deadline retries =>
      rw [hconfig] at h deadline
      refine ⟨hinit',hk.config.trans hconfig,by omega,by simp [state],fun _ => hopened',
        fun _ => hcalls.1,?_,?_,hquiet⟩
      · simp only [state,if_true]
        omega
      · exact fun _ => ⟨r,last_mem_since,.inl (by simp [hfails,hz]),by rw [htime]; exact deadline⟩
    | fail state result retries =>
      refine ⟨hinit',hk.config.trans hconfig,by rw [retries]; exact hretries,by simp [state],
        fun _ => hopened',fun _ => hcalls.1,?_,by simp [state],hquiet⟩
      simp [state,hcalls.2,retries]

theorem accounted_started (ha : Accounted config t history) (request : Request) (adu : Mem Byte)
    (length : Nat) (now : Word32) (answer : Int) :
    Accounted config ((t.load request adu length).beginTransmit answer now).2 (history ++
      [⟨t,.start (some request) (some adu) length now answer,
        ((t.load request adu length).beginTransmit answer now).1,
        ((t.load request adu length).beginTransmit answer now).2⟩]) := by
  have hcopy : slice (store t.requestAdu 0 (slice adu 0 length)) 0 length = slice adu 0 length := by
    have h := slice_store t.requestAdu 0 (slice adu 0 length)
    simpa using h
  refine Accounted.send ha.initialized ha.config_eq rfl (Nat.zero_le _) ?_ ?_ ?_ rfl rfl
  · exact ⟨_,[],since_snoc_of_pos rfl,rfl,adu,now,answer,rfl,hcopy⟩
  · rw [transactionOf,since_snoc_of_pos rfl]
    exact ⟨le_refl _,le_refl _⟩
  · intro _ hf q hq
    rw [transactionOf,since_snoc_of_pos rfl] at hq
    rw [List.mem_singleton.mp hq]
    exact hf

theorem accounted_retried (ha : Accounted config t history) (now : Word32) (answer : Int)
    (hstate : t.state = .retryDelay) :
    Accounted config (t.beginTransmit answer now).2 (history ++
      [⟨t,.poll now answer,(t.beginTransmit answer now).1,(t.beginTransmit answer now).2⟩]) := by
  have hidle : t.state ≠ .idle := by simp [hstate]
  have hactive : stateIsActive t.state = true := by simp [stateIsActive,hstate]
  refine Accounted.send ha.initialized ha.config_eq rfl ha.retries ?_ ?_ ?_ rfl rfl
  · obtain ⟨q,rest,hq,hb⟩ := ha.opened hidle
    exact ⟨q,_,by rw [transactionOf_snoc rfl,hq]; rfl,hb⟩
  · have h := ha.calls hidle
    simp only [hstate,if_true] at h
    rw [transactionOf_snoc rfl,transportCalls,List.flatMap_append,List.length_append]
    exact ⟨Nat.le_add_left _ _,h⟩
  · intro he hf q hq
    rw [transactionOf_snoc rfl] at hq
    rcases List.mem_append.mp hq with hq | hq
    · exact ha.clean he hactive q hq
    · rw [List.mem_singleton.mp hq]
      exact hf

theorem accounted_step (ha : Accounted config t history) {c : TransactionCall}
    {out : TransactionCode × List (List Byte)} {t' : Transaction} (hm : Moves t c out t') :
    Accounted config t' (history ++ [⟨t,c,out,t'⟩]) := by
  have hquiet : ∀ {c : TransactionCall} {code : TransactionCode},
      TransactionRecord.opens ⟨t,c,(code,[]),t⟩ = false →
      TransactionRecord.transportFails ⟨t,c,(code,[]),t⟩ = false →
      Accounted config t (history ++ [⟨t,c,(code,[]),t⟩]) := by
    intro c code hopens hfails
    refine ha.extend hopens rfl Transaction.Kept.refl.toSameRequest Iff.rfl ha.retries
      (le_refl _) ?_ fun _ h => ⟨h,hfails⟩
    intro h
    obtain ⟨q,hq,hr⟩ := ha.scheduled h
    exact ⟨q,mem_since_snoc rfl hq,hr⟩
  cases hm with
  | refused c code hcode hc =>
    apply hquiet
    · cases c <;> simp [TransactionRecord.opens,hcode]
    · cases c <;> simp [TransactionRecord.transportFails,TransactionRecord.transmits,
        TransactionRecord.sent,hcode]
  | rested now answer hdue => exact hquiet rfl rfl
  | started request adu length now answer hidle hlength hmatch =>
    exact accounted_started ha request adu length now answer
  | retried now answer hstate hdue => exact accounted_retried ha now answer hstate
  | timedOut c now t' hc hstate hdue hkept hgiven =>
    have hr : TransactionRecord.opens ⟨t,c,(.ok,[]),t'⟩ = false ∧
        TransactionRecord.time ⟨t,c,(.ok,[]),t'⟩ = now ∧
        TransactionRecord.timesOut ⟨t,c,(.ok,[]),t'⟩ = true ∧
        TransactionRecord.transportFails ⟨t,c,(.ok,[]),t'⟩ = false := by
      rcases hc with ⟨answer,rfl⟩ | ⟨adu,length,rfl⟩
      · exact ⟨rfl,rfl,by simp [TransactionRecord.timesOut,hstate,hdue],rfl⟩
      · exact ⟨rfl,rfl,by simp [TransactionRecord.timesOut,hstate,hdue],rfl⟩
    obtain ⟨hopens,htime,hout,hfails⟩ := hr
    exact ha.giveUp hopens rfl (.inr hstate) hkept (by rw [htime]; exact hgiven) (.inr hout)
      fun _ _ => hfails
  | sentUnanswered now t' hstate hnone hkept hdone hresult hretries =>
    exact ha.leave hkept.toSameRequest (by simp [hstate]) (by simp [hdone]) (by simp [hdone])
      hretries rfl rfl rfl
  | sent now hstate hsome =>
    exact ha.leave ⟨rfl,rfl,rfl,rfl,rfl⟩ (.inl hstate) (by simp) (by simp) rfl rfl rfl rfl
  | failed now hstate =>
    obtain ⟨hk,hg,hf⟩ := t.transportFailed_spec now
    refine ha.giveUp rfl rfl (.inl hstate) hk hg (.inl rfl) fun he hne => ?_
    exact absurd (hf (by rw [ha.config_eq]; exact he)) hne
  | wrongLength adu length now hstate hearly hlength =>
    exact ha.leave ⟨rfl,rfl,rfl,rfl,rfl⟩ (.inr (.inl hstate)) (by simp [Transaction.noteMalformed,
      Transaction.count,hstate]) (by simp [Transaction.noteMalformed,Transaction.count,hstate])
      rfl rfl rfl rfl
  | judged adu length now hstate hearly hlength =>
    obtain ⟨hsame,hstates,hretries⟩ := judge_spec t adu length (t.validate adu length).1
    refine ha.leave hsame (.inr (.inl hstate)) ?_ ?_ hretries rfl rfl rfl
    · rcases hstates with h | h <;> simp [h,hstate]
    · rcases hstates with h | h <;> simp [h,hstate]
  | cancelled t' hactive hkept hstate hresult hretries =>
    refine ha.leave hkept.toSameRequest ?_ (by simp [hstate]) (by simp [hstate]) hretries rfl rfl rfl
    simpa [stateIsActive] using hactive

end Accounting

theorem mbrtumTransactionInit_spec {config : TransactionConfig} {t : Transaction}
    (h : mbrtumTransactionInit (some config) true = .ok t) :
    t.isInitialized = true ∧ t.config = config ∧ t.state = .idle ∧ t.result = .none ∧
      t.retriesUsed = 0 ∧ t.sawResponseError = 0 ∧ t.exceptionCode = 0 := by
  simp only [mbrtumTransactionInit,not_true_eq_false,if_false] at h
  split at h
  · simp at h
  · cases h
    exact ⟨rfl,rfl,rfl,rfl,rfl,rfl,rfl⟩

theorem accounted_run {config : TransactionConfig} {t₀ : Transaction}
    (hinit : mbrtumTransactionInit (some config) true = .ok t₀) (calls : List TransactionCall) :
    Accounted config (run transactionStep t₀ calls) (records transactionStep t₀ calls) := by
  obtain ⟨hi,hc,hs,-,hr,-⟩ := mbrtumTransactionInit_spec hinit
  refine history_invariant (Accounted config) ?_ ?_ calls
  · intro t history c ha
    exact accounted_step ha (transactionStep_moves ha.initialized c)
  · exact ⟨hi,hc,by simp [hr],by simp,by simp [hs],by simp [hs],by simp [hs],by simp [hs],
      by simp [hs,stateIsActive]⟩

structure Faithful (config : TransactionConfig) (history : List TransactionRecord)
    (r : TransactionRecord) : Prop where
  error_noop : r.output.1.isError = true → r.after = r.before ∧ r.sent = []
  once : r.sent.length ≤ 1
  bytes : ∀ frame ∈ r.sent, ∃ q rest request adu length now answer,
    transactionOf (history ++ [r]) = q :: rest ∧ q.opens = true ∧
      q.input = .start (some request) (some adu) length now answer ∧ frame = slice adu 0 length
  caller : r.transmits = true → (r.opens = true ∧ stateIsActive r.before.state = false) ∨
    (r.opens = false ∧ (∃ now answer, r.input = .poll now answer) ∧ ∃ q ∈ attemptOf history,
      (q.transportFails = true ∨ q.timesOut = true) ∧
        deadlineReached r.time (q.time+config.retryDelayTicks) = true)
  unforgiving : config.retryTransportErrors = 0#8 → r.transmits = true → r.opens = false →
    ∀ q ∈ transactionOf history, q.transportFails = false

theorem Moves.transmission {t t' : Transaction} {c : TransactionCall}
    {out : TransactionCode × List (List Byte)} (hm : Moves t c out t') :
    (out.2 = [] ∧ (out.1 ≠ .ok → t' = t)) ∨
      (out = (.ok,[slice t'.requestAdu 0 t'.requestAduLength]) ∧ t'.state ≠ .idle ∧
        ((∃ request adu length now answer, c = .start (some request) (some adu) length now answer ∧
            stateIsActive t.state = false) ∨
          ∃ now answer, c = .poll now answer ∧ t.state = .retryDelay ∧
            deadlineReached now t.deadline = true)) := by
  have hframe : ∀ (s : Transaction) (answer : Int) (now : Word32), (s.beginTransmit answer now).1 =
      (.ok,[slice (s.beginTransmit answer now).2.requestAdu 0
        (s.beginTransmit answer now).2.requestAduLength]) ∧
      (s.beginTransmit answer now).2.state ≠ .idle := by
    intro s answer now
    obtain ⟨hk,hg,-⟩ := s.sending.transportFailed_spec now
    by_cases hz : answer = 0
    · simp [Transaction.beginTransmit,hz,Transaction.sending,Transaction.count]
    · refine ⟨by simp [Transaction.beginTransmit,hz,hk.requestAdu,hk.requestAduLength],?_⟩
      cases hg with
      | retry h state result deadline retries => simp [Transaction.beginTransmit,hz,state]
      | fail state result retries => simp [Transaction.beginTransmit,hz,state]
  cases hm with
  | refused c code hcode hc => exact .inl ⟨rfl,fun _ => rfl⟩
  | started request adu length now answer hidle hlength hmatch =>
    obtain ⟨hf,hs⟩ := hframe (t.load request adu length) answer now
    exact .inr ⟨hf,hs,.inl ⟨request,adu,length,now,answer,rfl,hidle⟩⟩
  | retried now answer hstate hdue =>
    obtain ⟨hf,hs⟩ := hframe t answer now
    exact .inr ⟨hf,hs,.inr ⟨now,answer,rfl,hstate,hdue⟩⟩
  | _ => exact .inl ⟨rfl,fun h => absurd rfl h⟩

theorem faithful_step {config : TransactionConfig} {t : Transaction}
    {history : List TransactionRecord} (ha : Accounted config t history) (c : TransactionCall) :
    Faithful config history (transactionRecord t c) := by
  have hm := transactionStep_moves ha.initialized c
  have hafter := accounted_step ha hm
  rcases hm.transmission with ⟨hsent,hnoop⟩ | ⟨hout,hne,hcause⟩
  · have hs : (transactionRecord t c).sent = [] := hsent
    have hq : (transactionRecord t c).transmits = false := by simp [TransactionRecord.transmits,hs]
    refine ⟨fun h => ⟨hnoop (of_decide_eq_true h),hs⟩,by simp [hs],
      by simp [hs],by simp [hq],by simp [hq]⟩
  · have hs : (transactionRecord t c).sent = [slice (transactionStep t c).2.requestAdu 0
        (transactionStep t c).2.requestAduLength] := congrArg Prod.snd hout
    have hok : (transactionRecord t c).output.1 = .ok := congrArg Prod.fst hout
    refine ⟨by simp [TransactionCode.isError,hok],by simp [hs],?_,?_,?_⟩
    · intro frame hframe
      rw [hs,List.mem_singleton] at hframe
      obtain ⟨q,rest,hq,hb,adu,now,answer,hi,he⟩ := hafter.opened hne
      exact ⟨q,rest,_,adu,_,now,answer,hq,hb,hi,hframe.trans he⟩
    · intro _
      rcases hcause with ⟨_,_,_,_,_,rfl,hidle⟩ | ⟨now,answer,rfl,hd,hdue⟩
      · exact .inl ⟨by simp [TransactionRecord.opens,transactionRecord,hout],hidle⟩
      · obtain ⟨q,hq,hcause,hdl⟩ := ha.scheduled hd
        exact .inr ⟨rfl,⟨now,answer,rfl⟩,q,hq,hcause,by rw [← hdl]; exact hdue⟩
    · intro he _ hopens
      rcases hcause with ⟨_,_,_,_,_,rfl,_⟩ | ⟨_,_,rfl,hd,_⟩
      · simp [TransactionRecord.opens,transactionRecord,hout] at hopens
      · exact ha.clean he (by simp [stateIsActive,hd])

/-- The transport is called only by a successful start from an inactive state, or by a poll
after the attempt before it was given up and the retry delay has elapsed; at most once in
a call, always with the bytes of that start, and at most `max_retries + 1` times in a
transaction. A call that returns an error changes nothing. -/
structure TransmissionsBounded (config : TransactionConfig) (t : Transaction)
    (history : List TransactionRecord) : Prop where
  retries : t.retriesUsed.toNat ≤ config.maxRetries.toNat
  calls : (∃ r ∈ history, r.opens = true) →
    1 ≤ (transportCalls (transactionOf history)).length ∧
      (transportCalls (transactionOf history)).length ≤ config.maxRetries.toNat+1
  faithful : ∀ c, Faithful config history (transactionRecord t c)

theorem transaction_transmissions_bounded (config : TransactionConfig) (t₀ : Transaction)
    (hinit : mbrtumTransactionInit (some config) true = .ok t₀) (calls : List TransactionCall) :
    TransmissionsBounded config (run transactionStep t₀ calls)
      (records transactionStep t₀ calls) := by
  have ha := accounted_run hinit calls
  refine ⟨ha.retries,?_,faithful_step ha⟩
  rintro ⟨r,hr,hopens⟩
  have hidle : (run transactionStep t₀ calls).state ≠ .idle :=
    fun h => by simp [ha.fresh h r hr] at hopens
  have hcalls := ha.calls hidle
  have hretries := ha.retries
  exact ⟨ha.called hidle,by omega⟩

def retryOnce : TransactionConfig := ⟨100#32,10#32,1#16,0#8⟩

def exceptionStatusAdu : Mem Byte := ofList (appendCrc [0x11#8,0x07#8])

def answeredOnRetry : List TransactionCall :=
  [.start (some ⟨0x11#8,0x07#8,0,0,0,1,0,0⟩) (some exceptionStatusAdu) 4 0 0,.onTxComplete 2,
    .poll 102 0,.poll 112 0,.onTxComplete 114,
    .onResponse (some (ofList (appendCrc [0x11#8,0x07#8,0x55#8]))) 5 120]

theorem transaction_transmissions_bounded_retry :
    (transportCalls (transactionOf (records transactionStep (.initialized retryOnce)
        answeredOnRetry))).length = 2 ∧
      TransmissionsBounded retryOnce (run transactionStep (.initialized retryOnce) answeredOnRetry)
        (records transactionStep (.initialized retryOnce) answeredOnRetry) := by
  refine ⟨by decide +kernel,?_⟩
  exact transaction_transmissions_bounded retryOnce (.initialized retryOnce) rfl answeredOnRetry

end ModbusStack
