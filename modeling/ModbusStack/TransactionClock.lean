import ModbusStack.TransactionRuns

/-! The transaction engine over an arbitrary clock. The engine of the source is the one whose
ticks and deadlines are 32-bit words; the ideal one counts without bound. -/
set_option autoImplicit false

namespace ModbusStack
open ByteMemory Machine

/-- Times, deadlines, the deadline so many ticks after a time, and its test. -/
structure Clock (τ δ : Type) where
  after : τ → Word32 → δ
  reached : τ → δ → Bool

def wordClock : Clock Word32 Word32 := ⟨fun now ticks => now+ticks,deadlineReached⟩

def trueClock : Clock Nat Nat := ⟨fun now ticks => now+ticks.toNat,fun now deadline => deadline ≤ now⟩

inductive TimedCall (τ : Type) where
  | start (request : Option Request) (requestAdu : Option (Mem Byte)) (requestAduLength : Nat)
      (now : τ) (transportResult : Int)
  | poll (now : τ) (transportResult : Int)
  | onTxComplete (now : τ)
  | onTxError (now : τ)
  | onResponse (responseAdu : Option (Mem Byte)) (responseAduLength : Nat) (now : τ)
  | cancel

def TimedCall.map {τ τ' : Type} (f : τ → τ') : TimedCall τ → TimedCall τ'
  | .start request adu length now answer => .start request adu length (f now) answer
  | .poll now answer => .poll (f now) answer
  | .onTxComplete now => .onTxComplete (f now)
  | .onTxError now => .onTxError (f now)
  | .onResponse adu length now => .onResponse adu length (f now)
  | .cancel => .cancel

def TimedCall.call : TimedCall Word32 → TransactionCall
  | .start request adu length now answer => .start request adu length now answer
  | .poll now answer => .poll now answer
  | .onTxComplete now => .onTxComplete now
  | .onTxError now => .onTxError now
  | .onResponse adu length now => .onResponse adu length now
  | .cancel => .cancel

def Transaction.timeless (t : Transaction) : Transaction := { t with deadline := 0 }

structure ClockedTransaction (δ : Type) where
  core : Transaction
  deadline : δ

abbrev ClockedStep (δ : Type) := (TransactionCode × List (List Byte)) × ClockedTransaction δ

namespace ClockedTransaction
variable {τ δ : Type} (k : Clock τ δ) (t : ClockedTransaction δ)

def withCore (core : Transaction) : ClockedTransaction δ := { t with core := core }

def scheduleRetryOrFinish (now : τ) (finalResult : TransactionResult) : ClockedTransaction δ :=
  if t.core.retriesUsed.toNat < t.core.config.maxRetries.toNat then
    { core := { t.core.count fun d => { d with
          retriesPerformed := increment32 d.retriesPerformed } with
        retriesUsed := t.core.retriesUsed+1#16
        state := .retryDelay }
      deadline := k.after now t.core.config.retryDelayTicks }
  else t.withCore (t.core.finish .failed finalResult)

def handleResponseTimeout (now : τ) : ClockedTransaction δ :=
  (t.withCore (t.core.count fun d => { d with
    timeouts := increment32 d.timeouts })).scheduleRetryOrFinish k now
      (if t.core.sawResponseError ≠ 0#8 then .responseError else .timeout)

def transportFailed (now : τ) : ClockedTransaction δ :=
  let t := t.withCore (t.core.count fun d => { d with
    transportErrors := increment32 d.transportErrors })
  if t.core.config.retryTransportErrors ≠ 0#8 then t.scheduleRetryOrFinish k now .transportError
  else t.withCore (t.core.finish .failed .transportError)

def beginTransmit (transportResult : Int) (now : τ) : ClockedStep δ :=
  let t := t.withCore t.core.sending
  ((.ok,[slice t.core.requestAdu 0 t.core.requestAduLength]),
    if transportResult = 0 then t else t.transportFailed k now)

def start (request : Option Request) (requestAdu : Option (Mem Byte)) (requestAduLength : Nat)
    (now : τ) (transportResult : Int) : ClockedStep δ :=
  match request, requestAdu with
  | some request, some requestAdu =>
    if ¬ t.core.isInitialized then ((.errorNotInitialized,[]),t)
    else if stateIsActive t.core.state then ((.errorBusy,[]),t)
    else if requestAduLength = 0 ∨ 256 < requestAduLength then ((.errorCapacity,[]),t)
    else if ¬ requestAduMatchesDescriptor request requestAdu requestAduLength then
      ((.errorRequest,[]),t)
    else (t.withCore (t.core.load request requestAdu requestAduLength)).beginTransmit k
      transportResult now
  | _, _ => ((.errorArgument,[]),t)

def poll (now : τ) (transportResult : Int) : ClockedStep δ :=
  if ¬ t.core.isInitialized then ((.errorNotInitialized,[]),t)
  else if t.core.state = .retryDelay then
    if k.reached now t.deadline then t.beginTransmit k transportResult now else ((.ok,[]),t)
  else if t.core.state ≠ .waitingResponse then ((.ok,[]),t)
  else if ¬ k.reached now t.deadline then ((.ok,[]),t)
  else ((.ok,[]),t.handleResponseTimeout k now)

def onTxComplete (now : τ) : ClockedStep δ :=
  if ¬ t.core.isInitialized then ((.errorNotInitialized,[]),t)
  else if t.core.state ≠ .transmitting then ((.errorState,[]),t)
  else if t.core.request.expectsResponse = 0#8 then
    ((.ok,[]),t.withCore ((t.core.count fun d => { d with
      successfulTransactions := increment32 d.successfulTransactions }).finish .complete .success))
  else
    ((.ok,[]),{ core := { t.core with state := .waitingResponse }
                deadline := k.after now t.core.config.responseTimeoutTicks })

def onTxError (now : τ) : ClockedStep δ :=
  if ¬ t.core.isInitialized then ((.errorNotInitialized,[]),t)
  else if t.core.state ≠ .transmitting then ((.errorState,[]),t)
  else ((.ok,[]),t.transportFailed k now)

def onResponse (responseAdu : Option (Mem Byte)) (responseAduLength : Nat) (now : τ) :
    ClockedStep δ :=
  match responseAdu with
  | none => ((.errorArgument,[]),t)
  | some responseAdu =>
    if ¬ t.core.isInitialized then ((.errorNotInitialized,[]),t)
    else if t.core.state ≠ .waitingResponse then ((.errorState,[]),t)
    else if k.reached now t.deadline then
      ((.ok,[]),(t.withCore (t.core.count fun d => { d with
        lateResponses := increment32 d.lateResponses })).handleResponseTimeout k now)
    else if responseAduLength = 0 ∨ 256 < responseAduLength then
      ((.ok,[]),t.withCore { t.core.noteMalformed with protocolResult := .errorResponseLength })
    else
      let core := t.core.storeResponse responseAdu responseAduLength
      ((.ok,[]),t.withCore (core.judge core.protocolResult))

def cancel : ClockedStep δ :=
  if ¬ t.core.isInitialized then ((.errorNotInitialized,[]),t)
  else if ¬ stateIsActive t.core.state then ((.errorState,[]),t)
  else ((.ok,[]),t.withCore ((t.core.count fun d => { d with
    cancelledTransactions := increment32 d.cancelledTransactions }).finish .cancelled .cancelled))

end ClockedTransaction

def clockedStep {τ δ : Type} (k : Clock τ δ) (t : ClockedTransaction δ) : TimedCall τ → ClockedStep δ
  | .start request adu length now answer => t.start k request adu length now answer
  | .poll now answer => t.poll k now answer
  | .onTxComplete now => t.onTxComplete k now
  | .onTxError now => t.onTxError k now
  | .onResponse adu length now => t.onResponse k adu length now
  | .cancel => t.cancel

def Transaction.clocked (t : Transaction) : ClockedTransaction Word32 := ⟨t.timeless,t.deadline⟩

namespace Transaction
variable (t : Transaction)

theorem scheduleRetryOrFinish_clocked (now : Word32) (r : TransactionResult) :
    t.clocked.scheduleRetryOrFinish wordClock now r = (t.scheduleRetryOrFinish now r).clocked := by
  unfold scheduleRetryOrFinish ClockedTransaction.scheduleRetryOrFinish
  rw [apply_ite clocked]
  rfl

theorem count_clocked (f : TransactionDiagnostics → TransactionDiagnostics) :
    t.clocked.withCore (t.clocked.core.count f) = (t.count f).clocked := rfl

theorem handleResponseTimeout_clocked (now : Word32) :
    t.clocked.handleResponseTimeout wordClock now = (t.handleResponseTimeout now).clocked := by
  unfold handleResponseTimeout ClockedTransaction.handleResponseTimeout
  rw [count_clocked]
  exact scheduleRetryOrFinish_clocked _ now _

theorem transportFailed_clocked (now : Word32) :
    t.clocked.transportFailed wordClock now = (t.transportFailed now).clocked := by
  unfold transportFailed ClockedTransaction.transportFailed
  rw [apply_ite clocked,count_clocked]
  dsimp only
  rw [scheduleRetryOrFinish_clocked]
  rfl

theorem beginTransmit_clocked (answer : Int) (now : Word32) :
    t.clocked.beginTransmit wordClock answer now =
      ((t.beginTransmit answer now).1,(t.beginTransmit answer now).2.clocked) := by
  unfold beginTransmit ClockedTransaction.beginTransmit
  by_cases h : answer = 0
  · simp only [if_pos h]
    rfl
  · simp only [if_neg h]
    exact Prod.ext rfl (transportFailed_clocked t.sending now)

theorem judge_clocked (r : MasterResult) :
    t.clocked.withCore (t.clocked.core.judge r) = (t.judge r).clocked := by
  cases r <;> rfl

/-- The engine of the source is the engine over the clock of 32-bit words. -/
theorem transactionStep_clocked (c : TimedCall Word32) :
    clockedStep wordClock t.clocked c =
      ((transactionStep t c.call).1,(transactionStep t c.call).2.clocked) := by
  have hi : t.clocked.core.isInitialized = t.isInitialized := rfl
  have hs : t.clocked.core.state = t.state := rfl
  have he : t.clocked.core.request = t.request := rfl
  have hd (now : Word32) : wordClock.reached now t.clocked.deadline =
    deadlineReached now t.deadline := rfl
  cases c with
  | start request adu length now answer =>
    cases request with
    | none => rfl
    | some request =>
      cases adu with
      | none => rfl
      | some adu =>
        simp only [clockedStep,ClockedTransaction.start,TimedCall.call,transactionStep,start,
          hi,hs]
        split_ifs
        any_goals rfl
        exact beginTransmit_clocked (t.load request adu length) answer now
  | poll now answer =>
    simp only [clockedStep,ClockedTransaction.poll,TimedCall.call,transactionStep,poll,
      hi,hs,hd]
    split_ifs
    any_goals rfl
    · exact beginTransmit_clocked t answer now
    · rw [handleResponseTimeout_clocked]
  | onTxComplete now =>
    simp only [clockedStep,ClockedTransaction.onTxComplete,TimedCall.call,transactionStep,
      onTxComplete,hi,hs,he]
    split_ifs <;> rfl
  | onTxError now =>
    simp only [clockedStep,ClockedTransaction.onTxError,TimedCall.call,transactionStep,
      onTxError,hi,hs]
    split_ifs
    any_goals rfl
    exact Prod.ext rfl (transportFailed_clocked t now)
  | onResponse adu length now =>
    cases adu with
    | none => rfl
    | some adu =>
      simp only [clockedStep,ClockedTransaction.onResponse,TimedCall.call,transactionStep,
        onResponse,hi,hs,hd]
      split_ifs
      any_goals rfl
      · rw [count_clocked,handleResponseTimeout_clocked]
      · exact Prod.ext rfl (judge_clocked (t.storeResponse adu length) _)
  | cancel =>
    simp only [clockedStep,ClockedTransaction.cancel,TimedCall.call,transactionStep,
      cancel,hi,hs]
    split_ifs <;> rfl

end Transaction

/-! Two clocks that agree on when a deadline is reached give the same engine. -/

/-- A deadline is only looked at in these states. -/
def TransactionState.isPending (state : TransactionState) : Bool :=
  state = .waitingResponse ∨ state = .retryDelay

/-- What one clock takes for `time now` and a deadline `d`, the other takes for `now` and a
related deadline, as long as `now` is timely for it. -/
structure Clock.Follows {τ δ τ' δ' : Type} (k : Clock τ δ) (k' : Clock τ' δ') (time : τ' → τ)
    (Same : δ → δ' → Prop) (Timely : τ' → δ' → Prop) : Prop where
  after : ∀ now ticks, Same (k.after (time now) ticks) (k'.after now ticks)
  reached : ∀ now d d', Same d d' → Timely now d' → k.reached (time now) d = k'.reached now d'

/-- The two objects differ at most in a deadline that nobody looks at. -/
structure InStep {δ δ' : Type} (Same : δ → δ' → Prop) (t : ClockedTransaction δ)
    (t' : ClockedTransaction δ') : Prop where
  core : t.core = t'.core
  deadline : t'.core.state.isPending = true → Same t.deadline t'.deadline

def TimelyCall {τ δ : Type} (Timely : τ → δ → Prop) (t : ClockedTransaction δ) :
    TimedCall τ → Prop
  | .poll now _ | .onResponse _ _ now => t.core.state.isPending = true → Timely now t.deadline
  | _ => True

instance {τ δ : Type} (Timely : τ → δ → Prop) [∀ now d, Decidable (Timely now d)]
    (t : ClockedTransaction δ) (c : TimedCall τ) : Decidable (TimelyCall Timely t c) :=
  match c with
  | .poll _ _ | .onResponse _ _ _ => inferInstanceAs (Decidable (_ → _))
  | .start .. | .onTxComplete _ | .onTxError _ | .cancel => inferInstanceAs (Decidable True)

section Simulation
variable {τ δ τ' δ' : Type} {k : Clock τ δ} {k' : Clock τ' δ'} {time : τ' → τ}
  {Same : δ → δ' → Prop} {Timely : τ' → δ' → Prop} (hk : k.Follows k' time Same Timely)

structure StepInStep (Same : δ → δ' → Prop) (r : ClockedStep δ) (r' : ClockedStep δ') : Prop where
  output : r.1 = r'.1
  inStep : InStep Same r.2 r'.2

variable {core : Transaction} {d : δ} {d' : δ'}

theorem inStep_idle (h : core.state.isPending = false) :
    InStep Same (⟨core,d⟩ : ClockedTransaction δ) (⟨core,d'⟩ : ClockedTransaction δ') :=
  ⟨rfl,fun hp => by simp [h] at hp⟩

include hk

theorem scheduleRetryOrFinish_inStep (now : τ') (r : TransactionResult) :
    InStep Same (ClockedTransaction.scheduleRetryOrFinish k ⟨core,d⟩ (time now) r)
      (ClockedTransaction.scheduleRetryOrFinish k' ⟨core,d'⟩ now r) := by
  unfold ClockedTransaction.scheduleRetryOrFinish
  dsimp only
  split
  · exact ⟨rfl,fun _ => hk.after now _⟩
  · exact inStep_idle rfl

theorem transportFailed_inStep (now : τ') :
    InStep Same (ClockedTransaction.transportFailed k ⟨core,d⟩ (time now))
      (ClockedTransaction.transportFailed k' ⟨core,d'⟩ now) := by
  unfold ClockedTransaction.transportFailed ClockedTransaction.withCore
  dsimp only
  split
  · exact scheduleRetryOrFinish_inStep hk now _
  · exact inStep_idle rfl

theorem beginTransmit_inStep (answer : Int) (now : τ') :
    StepInStep Same (ClockedTransaction.beginTransmit k ⟨core,d⟩ answer (time now))
      (ClockedTransaction.beginTransmit k' ⟨core,d'⟩ answer now) := by
  unfold ClockedTransaction.beginTransmit ClockedTransaction.withCore
  dsimp only
  refine ⟨rfl,?_⟩
  dsimp only
  split
  · exact inStep_idle rfl
  · exact transportFailed_inStep hk now

/-- One call, made of both engines at the same moment. -/
theorem clockedStep_inStep {t : ClockedTransaction δ} {t' : ClockedTransaction δ'}
    (ht : InStep Same t t') (c : TimedCall τ') (hc : TimelyCall Timely t' c) :
    StepInStep Same (clockedStep k t (c.map time)) (clockedStep k' t' c) := by
  obtain ⟨core,d⟩ := t
  obtain ⟨core',d'⟩ := t'
  obtain ⟨rfl,hd⟩ := ht
  have hsame : InStep Same (⟨core,d⟩ : ClockedTransaction δ) (⟨core,d'⟩ : ClockedTransaction δ') :=
    ⟨rfl,hd⟩
  have hreached (now : τ') (hp : core.state.isPending = true) (ht : Timely now d') :
      k.reached (time now) d = k'.reached now d' := hk.reached now d d' (hd hp) ht
  cases c with
  | start request adu length now answer =>
    cases request with
    | none => exact ⟨rfl,hsame⟩
    | some request =>
      cases adu with
      | none => exact ⟨rfl,hsame⟩
      | some adu =>
        simp only [TimedCall.map,clockedStep,ClockedTransaction.start]
        split_ifs
        all_goals first
          | exact ⟨rfl,hsame⟩
          | exact beginTransmit_inStep hk answer now
  | poll now answer =>
    simp only [TimedCall.map,clockedStep,ClockedTransaction.poll]
    by_cases hp : core.state.isPending = true
    · simp only [hreached now hp (hc hp)]
      split_ifs
      all_goals first
        | exact ⟨rfl,hsame⟩
        | exact beginTransmit_inStep hk answer now
        | exact ⟨rfl,scheduleRetryOrFinish_inStep hk now _⟩
    · simp only [TransactionState.isPending,decide_eq_true_eq,not_or] at hp
      simp only [hp.1,hp.2,if_false,not_false_eq_true,if_true,ne_eq]
      split <;> exact ⟨rfl,hsame⟩
  | onTxComplete now =>
    simp only [TimedCall.map,clockedStep,ClockedTransaction.onTxComplete]
    split_ifs
    all_goals first
      | exact ⟨rfl,hsame⟩
      | exact ⟨rfl,inStep_idle rfl⟩
      | exact ⟨rfl,rfl,fun _ => hk.after now _⟩
  | onTxError now =>
    simp only [TimedCall.map,clockedStep,ClockedTransaction.onTxError]
    split_ifs
    all_goals first
      | exact ⟨rfl,hsame⟩
      | exact ⟨rfl,transportFailed_inStep hk now⟩
  | onResponse adu length now =>
    cases adu with
    | none => exact ⟨rfl,hsame⟩
    | some adu =>
      simp only [TimedCall.map,clockedStep,ClockedTransaction.onResponse]
      by_cases hw : core.state = .waitingResponse
      · have hp : core.state.isPending = true := by simp [TransactionState.isPending,hw]
        simp only [hreached now hp (hc hp)]
        split_ifs
        all_goals first
          | exact ⟨rfl,hsame⟩
          | exact ⟨rfl,scheduleRetryOrFinish_inStep hk now _⟩
          | exact ⟨rfl,rfl,fun _ => hd hp⟩
      · simp only [hw,ne_eq,not_false_eq_true,if_true]
        split <;> exact ⟨rfl,hsame⟩
  | cancel =>
    simp only [TimedCall.map,clockedStep,ClockedTransaction.cancel]
    split_ifs
    all_goals first
      | exact ⟨rfl,hsame⟩
      | exact ⟨rfl,inStep_idle rfl⟩

end Simulation

/-- Not 2^31 ticks or more after the deadline, and not more than 2^31 ticks before it. -/
def withinHalfRange (now deadline : Nat) : Prop := now < deadline+2^31 ∧ deadline ≤ now+2^31

instance (now deadline : Nat) : Decidable (withinHalfRange now deadline) :=
  inferInstanceAs (Decidable (_ ∧ _))

theorem deadlineReached_ofNat {now deadline : Nat} (h : withinHalfRange now deadline) :
    deadlineReached (BitVec.ofNat 32 now) (BitVec.ofNat 32 deadline) = decide (deadline ≤ now) := by
  obtain ⟨hafter,hbefore⟩ := h
  unfold deadlineReached
  rw [decide_eq_decide,BitVec.toInt_eq_toNat_cond]
  simp only [BitVec.toNat_sub,BitVec.toNat_ofNat]
  split <;> omega

/-- Within half the range of a deadline, the 32-bit clock reads as the unbounded one. -/
theorem wordClock_follows_trueClock :
    wordClock.Follows trueClock (BitVec.ofNat 32) (fun d d' => d = BitVec.ofNat 32 d')
      withinHalfRange where
  after now ticks := by
    apply BitVec.eq_of_toNat_eq
    simp [wordClock,trueClock]
  reached now d d' hd ht := by
    subst hd
    exact deadlineReached_ofNat ht

/-- The 32-bit clock, set differently, reads the same of every deadline. -/
theorem wordClock_follows_shifted (c : Word32) :
    wordClock.Follows wordClock (· + c) (fun d d' => d = d'+c) fun _ _ => True where
  after now ticks := by
    simp only [wordClock]
    ac_rfl
  reached now d d' hd _ := by
    subst hd
    simp only [wordClock,deadlineReached]
    congr 3
    exact add_sub_add_right_eq_sub now d' c

/-- The engine that stores unbounded deadlines and tests `deadline ≤ now`. -/
abbrev idealStep := clockedStep trueClock

def Transaction.ideal (t : Transaction) : ClockedTransaction Nat := ⟨t.timeless,0⟩

def TimedCall.wrapped (c : TimedCall Nat) : TransactionCall := (c.map (BitVec.ofNat 32)).call

def TransactionCall.timed : TransactionCall → TimedCall Word32
  | .start request adu length now answer => .start request adu length now answer
  | .poll now answer => .poll now answer
  | .onTxComplete now => .onTxComplete now
  | .onTxError now => .onTxError now
  | .onResponse adu length now => .onResponse adu length now
  | .cancel => .cancel

theorem TransactionCall.call_timed (c : TransactionCall) : c.timed.call = c := by cases c <;> rfl

def TransactionCall.shift (c : Word32) (x : TransactionCall) : TransactionCall :=
  (x.timed.map (· + c)).call

theorem transactionStep_inStep {τ' δ' : Type} {k' : Clock τ' δ'} {time : τ' → Word32}
    {Same : Word32 → δ' → Prop} {Timely : τ' → δ' → Prop}
    (hk : wordClock.Follows k' time Same Timely) {t : Transaction} {t' : ClockedTransaction δ'}
    (ht : InStep Same t.clocked t') (c : TimedCall τ') (hc : TimelyCall Timely t' c) :
    (transactionStep t (c.map time).call).1 = (clockedStep k' t' c).1 ∧
      InStep Same (transactionStep t (c.map time).call).2.clocked (clockedStep k' t' c).2 := by
  have h := clockedStep_inStep hk ht c hc
  rw [Transaction.transactionStep_clocked] at h
  exact ⟨h.output,h.inStep⟩

theorem wrapped_run (t : Transaction) (calls : List (TimedCall Nat))
    (hidle : t.state.isPending = false)
    (htimely : ∀ r ∈ records idealStep t.ideal calls, TimelyCall withinHalfRange r.before r.input) :
    List.Forall₂ (fun r i => r.output = i.output ∧ r.after.timeless = i.after.core)
      (records transactionStep t (calls.map TimedCall.wrapped))
      (records idealStep t.ideal calls) := by
  have h := records_simulation TimedCall.wrapped
    (fun t i => InStep (fun d d' => d = BitVec.ofNat 32 d') t.clocked i)
    (TimelyCall withinHalfRange)
    (fun s i c hs hc => transactionStep_inStep wordClock_follows_trueClock hs c hc)
    (s := t) (t := t.ideal) (inStep_idle (show t.timeless.state.isPending = false from hidle))
    calls htimely
  exact h.imp fun _ _ hr => ⟨hr.1,hr.2.core⟩

theorem shifted_run (t : Transaction) (calls : List TransactionCall) (c : Word32)
    (hidle : t.state.isPending = false) :
    List.Forall₂ (fun r r' => r.output = r'.output ∧ r.after.timeless = r'.after.timeless)
      (records transactionStep t (calls.map (TransactionCall.shift c)))
      (records transactionStep t calls) := by
  have hstep (s s' : Transaction) (x : TransactionCall)
      (hs : InStep (fun d d' => d = d'+c) s.clocked s'.clocked) :
      (transactionStep s (x.shift c)).1 = (transactionStep s' x).1 ∧
        InStep (fun d d' => d = d'+c) (transactionStep s (x.shift c)).2.clocked
          (transactionStep s' x).2.clocked := by
    have h := transactionStep_inStep (wordClock_follows_shifted c) hs x.timed
      (by cases x <;> simp [TransactionCall.timed,TimelyCall])
    rwa [Transaction.transactionStep_clocked,x.call_timed] at h
  have h := records_simulation (TransactionCall.shift c)
    (fun s s' => InStep (fun d d' => d = d'+c) s.clocked s'.clocked) (fun _ _ => True)
    (fun s s' x hs _ => hstep s s' x hs) (s := t) (t := t)
    (inStep_idle (show t.timeless.state.isPending = false from hidle)) calls fun _ _ => trivial
  exact h.imp fun _ _ hr => ⟨hr.1,hr.2.core⟩

/-- Nothing of a run shows where in the range of the 32-bit tick it takes place: with calls
that come within half the range of a pending deadline it is the run of the ideal engine, and
setting the tick differently changes the stored deadline only. -/
structure WrapInvisible (t : Transaction) : Prop where
  ideal : ∀ calls : List (TimedCall Nat),
    (∀ r ∈ records idealStep t.ideal calls, TimelyCall withinHalfRange r.before r.input) →
    List.Forall₂ (fun r i => r.output = i.output ∧ r.after.timeless = i.after.core)
      (records transactionStep t (calls.map TimedCall.wrapped)) (records idealStep t.ideal calls)
  shift : ∀ (calls : List TransactionCall) (c : Word32),
    List.Forall₂ (fun r r' => r.output = r'.output ∧ r.after.timeless = r'.after.timeless)
      (records transactionStep t (calls.map (TransactionCall.shift c)))
      (records transactionStep t calls)

theorem transaction_wrap_invisible (config : TransactionConfig) (t₀ : Transaction)
    (hinit : mbrtumTransactionInit (some config) true = .ok t₀) : WrapInvisible t₀ := by
  have hidle : t₀.state.isPending = false := by
    obtain ⟨-,-,hs,-⟩ := mbrtumTransactionInit_spec hinit
    rw [hs]
    rfl
  exact ⟨fun calls h => wrapped_run t₀ calls hidle h,fun calls c => shifted_run t₀ calls c hidle⟩

/-- Read Exception Status with a timeout of 100 ticks, started 60 ticks before the tick wraps:
the deadline of the first attempt lies behind the wrap. -/
def overTheWrap : List (TimedCall Nat) :=
  [.start (some ⟨0x11#8,0x07#8,0,0,0,1,0,0⟩) (some exceptionStatusAdu) 4 (2^32-60) 0,
    .onTxComplete (2^32-50),.poll (2^32-1) 0,.poll (2^32+50) 0,.poll (2^32+60) 0]

theorem transaction_wrap_invisible_over_wrap :
    (run transactionStep (.initialized retryOnce) (overTheWrap.map TimedCall.wrapped)).state =
        .transmitting ∧
      List.Forall₂ (fun r i => r.output = i.output ∧ r.after.timeless = i.after.core)
        (records transactionStep (.initialized retryOnce) (overTheWrap.map TimedCall.wrapped))
        (records idealStep (Transaction.initialized retryOnce).ideal overTheWrap) := by
  refine ⟨by decide +kernel,?_⟩
  exact (transaction_wrap_invisible retryOnce (.initialized retryOnce) rfl).ideal overTheWrap
    (by decide +kernel)

end ModbusStack
