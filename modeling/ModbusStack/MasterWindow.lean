import ModbusStack.MasterFraming
import ModbusStack.MasterCycles

/-! The receive window of the harness in every interleaving of its main loop with the
interrupts. -/
set_option autoImplicit false

namespace ModbusStack
open ByteMemory Machine

/-! The receiver outside a window. -/

def MasterUart.Swept (u : MasterUart) : Prop := u.receiveWindowOpen = 0#8 → u.rx.AtRest

structure MasterUart.Closed (u : MasterUart) : Prop where
  window : u.receiveWindowOpen = 0#8
  rest : u.rx.AtRest

section Closing
variable {u u' : MasterUart}

theorem interrupt_closed (hclosed : u.receiveWindowOpen = 0#8) (i : MasterInterrupt) :
    (u.interrupt i).2.rx = u.rx := by
  cases i with
  | rxComplete byte rearmed =>
    have hbyte : (modbusMasterOnRxByteIsr u byte).2.rx = u.rx := by
      unfold modbusMasterOnRxByteIsr
      rw [if_pos (.inr hclosed)]
    cases rearmed <;> exact hbyte
  | uartError => rfl
  | tick =>
    show (modbusMasterOn50usTickIsr u).2.rx = u.rx
    unfold modbusMasterOn50usTickIsr
    rw [if_pos (.inr (.inl hclosed))]

theorem MasterUart.Swept.interrupt (h : u.Swept) (i : MasterInterrupt) : (u.interrupt i).2.Swept := by
  intro hclosed
  rw [(interrupt_flags u i).window] at hclosed
  rw [interrupt_closed hclosed]
  exact h hclosed

theorem MasterUart.Closed.interrupt (h : u.Closed) (i : MasterInterrupt) :
    (u.interrupt i).2.Closed := by
  refine ⟨(interrupt_flags u i).window.trans h.window,?_⟩
  rw [interrupt_closed h.window]
  exact h.rest

theorem transmit_bounded (h : u.rx.Bounded) (adu : List Byte) (x : UartTransmission) :
    (modbusMasterTransportTransmit u adu x).2.rx.Bounded := by
  unfold modbusMasterTransportTransmit
  split
  · exact h
  · have hreset : MasterRx.Bounded (MasterUart.rx { modbusMasterRxResetAll u with
        receiveWindowOpen := 0
        txCompletePending := 0
        currentFunction := ofList adu 1 }) := rxResetAll_bounded u
    obtain ⟨hduring,-⟩ := interrupts_confined hreset x.during
    dsimp only
    split
    · exact hduring
    · exact hduring

end Closing

/-! The window. -/

/-- While the object waits for a response, or a transmission is about to be reported, the window
is open. -/
structure MasterApp.Listening (a : MasterApp) : Prop where
  on : a.uart.initialized ≠ 0#8
  bounded : a.uart.rx.Bounded
  waiting : a.transaction.state = .waitingResponse → a.uart.receiveWindowOpen ≠ 0#8
  reported : a.uart.txCompletePending ≠ 0#8 → a.uart.receiveWindowOpen ≠ 0#8

def MasterApp.Awaits (a : MasterApp) : Prop :=
  a.uart.receiveWindowOpen ≠ 0#8 → a.transaction.state = .waitingResponse

/-- No retry is due before the receiver has been closed. -/
def MasterApp.Delayed (a : MasterApp) (now : Word32) : Prop :=
  ¬ a.uart.Closed → a.transaction.state = .retryDelay →
    deadlineReached now a.transaction.deadline = false

section Windows
variable {a a' : MasterApp}

theorem MasterApp.Listening.interrupted (h : a.Listening) (is : List MasterInterrupt) :
    (a.interrupted is).Listening := by
  have hflags := interrupts_flags a.uart is
  refine ⟨?_,(interrupts_confined h.bounded is).1,fun hw => ?_,fun hp => ?_⟩
  · show (a.uart.interrupts is).initialized ≠ 0#8
    rw [hflags.initialized]
    exact h.on
  · show (a.uart.interrupts is).receiveWindowOpen ≠ 0#8
    rw [hflags.window]
    exact h.waiting hw
  · have hp : (a.uart.interrupts is).txCompletePending ≠ 0#8 := hp
    rw [hflags.pending] at hp
    show (a.uart.interrupts is).receiveWindowOpen ≠ 0#8
    rw [hflags.window]
    exact h.reported hp

theorem MasterApp.Awaits.interrupted (h : a.Awaits) (is : List MasterInterrupt) :
    (a.interrupted is).Awaits := by
  intro hw
  have hw : (a.uart.interrupts is).receiveWindowOpen ≠ 0#8 := hw
  rw [(interrupts_flags a.uart is).window] at hw
  exact h hw

theorem MasterApp.Delayed.interrupted {now : Word32} (h : a.Delayed now) (i : MasterInterrupt) :
    (a.interrupted [i]).Delayed now :=
  fun hopen => h fun hclosed => hopen (hclosed.interrupt i)

theorem MasterApp.Listening.report (h : a.Listening) {c : TransactionCall}
    (hstate : (transactionStep a.transaction c).2.state = .waitingResponse →
      a.transaction.state = .waitingResponse) : (a.report c).2.Listening :=
  ⟨h.on,h.bounded,fun hw => h.waiting (hstate hw),h.reported⟩

theorem MasterApp.Sound.handleTxComplete_eq (h : a.Sound) :
    modbusMasterHandleTxComplete a = { a with uart := { a.uart with txCompletePending := 0 } } ∨
    a.uart.txCompletePending ≠ 0#8 ∧ modbusMasterHandleTxComplete a =
      (MasterApp.report { a with uart := { a.uart with txCompletePending := 0 } }
        (.onTxComplete a.uart.txCompleteTick)).2 := by
  by_cases hpending : a.uart.txCompletePending = 0#8
  · exact .inl (if_pos hpending)
  · refine .inr ⟨hpending,?_⟩
    obtain ⟨hok,-⟩ := onTxComplete_transmitting h.transaction.initialized
      (h.transmitting.mpr hpending) a.uart.txCompleteTick
    unfold modbusMasterHandleTxComplete
    dsimp only
    rw [if_neg hpending]
    exact if_neg (not_not.mpr hok)

theorem MasterApp.Listening.handleTxComplete (h : a.Listening) (hs : a.Sound) :
    (modbusMasterHandleTxComplete a).Listening ∧
      (modbusMasterHandleTxComplete a).uart.txCompletePending = 0#8 := by
  rcases hs.handleTxComplete_eq with he | ⟨hpending,he⟩
  · rw [he]
    exact ⟨⟨h.on,h.bounded,h.waiting,fun hp => absurd rfl hp⟩,rfl⟩
  · rw [he]
    exact ⟨⟨h.on,h.bounded,fun _ => h.reported hpending,fun hp => absurd rfl hp⟩,rfl⟩

/-- A state that waits, or a frame that is being sent, keeps the window; otherwise the receiver is
closed. -/
theorem MasterApp.Listening.sync (h : a.Listening) (hs : a.Sound) :
    (modbusMasterSyncWatchState a).Listening ∧ (modbusMasterSyncWatchState a).uart.Swept := by
  have hkept (hkeep : ¬ (a.transaction.state ≠ .waitingResponse ∧
      ¬ (a.transaction.state = .transmitting ∧ a.uart.txCompletePending ≠ 0#8))) : a.uart.Swept := by
    intro hclosed
    by_contra
    refine hkeep ⟨fun hw => h.waiting hw hclosed,fun ht => ?_⟩
    exact h.reported ht.2 hclosed
  unfold modbusMasterSyncWatchState
  dsimp only
  split <;> split
  all_goals first
    | (rename_i hkeep
       exact ⟨⟨h.on,h.bounded,h.waiting,h.reported⟩,hkept hkeep⟩)
    | (rename_i hclose
       refine ⟨⟨h.on,rxResetAll_bounded a.uart,fun hw => absurd hw hclose.1,fun hp => ?_⟩,
         fun _ => rxResetAll_atRest a.uart⟩
       exact absurd ⟨hs.transmitting.mpr hp,hp⟩ hclose.2)

theorem MasterApp.Sound.sync_awaits (hno : a.transaction.state ≠ .transmitting) :
    (modbusMasterSyncWatchState a).Awaits := by
  unfold modbusMasterSyncWatchState
  dsimp only
  split <;> split
  all_goals first
    | (rename_i hkeep
       intro _
       by_contra hwaiting
       exact hkeep ⟨hwaiting,fun ht => hno ht.1⟩)
    | exact fun hw => absurd rfl hw

theorem MasterApp.Listening.finish (h : a.Listening) (result : TestResult) (now : Word32)
    (hno : a.transaction.state ≠ .waitingResponse) (hpending : a.uart.txCompletePending = 0#8) :
    (modbusMasterFinishCycle a result now).Listening ∧
      (modbusMasterFinishCycle a result now).uart.Swept :=
  ⟨⟨h.on,rxResetAll_bounded a.uart,fun hw => absurd hw hno,fun hp => absurd hpending hp⟩,
    fun _ => rxResetAll_atRest a.uart⟩

theorem finishCycle_awaits (a : MasterApp) (result : TestResult) (now : Word32) :
    (modbusMasterFinishCycle a result now).Awaits := fun hw => absurd rfl hw

theorem MasterApp.Listening.call (h : a.Listening) (x : UartTransmission)
    {c : Int → TransactionCall}
    (hsilent : (transactionStep a.transaction (c 0)).1.2 = [] →
      (transactionStep a.transaction (c 0)).2.state = .waitingResponse →
        a.transaction.state = .waitingResponse)
    (hsent : (transactionStep a.transaction (c 0)).1.2 ≠ [] → ∀ answer,
      (transactionStep a.transaction (c answer)).2.state ≠ .waitingResponse) :
    (a.call x c).2.Listening := by
  have hbounded : (callTransaction a.transaction a.uart x c).2.2.rx.Bounded := by
    unfold callTransaction
    split
    · exact h.bounded
    · exact transmit_bounded h.bounded _ x
  have hspec := callTransaction_spec a.uart a.transaction x c
  unfold MasterApp.call
  generalize callTransaction a.transaction a.uart x c = out at hbounded hspec
  cases hspec with
  | silent hnone => exact ⟨h.on,hbounded,fun hw => h.waiting (hsilent hnone hw),h.reported⟩
  | transmitted answer u' hsome htransport =>
    have hno := hsent hsome answer
    refine ⟨?_,hbounded,fun hw => absurd hw hno,?_⟩
    · show u'.initialized ≠ 0#8
      cases htransport with
      | accepted _ _ _ initialized => rw [initialized]; exact h.on
      | refused _ _ _ initialized => rw [initialized]; exact h.on
      | invalid => exact h.on
    · show u'.txCompletePending ≠ 0#8 → u'.receiveWindowOpen ≠ 0#8
      cases htransport with
      | accepted _ _ window _ => rw [window]; exact fun _ => by decide
      | refused _ pending _ _ => exact fun hp => absurd pending hp
      | invalid => exact h.reported

theorem Transaction.GivenUp.not_waiting {t t' : Transaction} {now : Word32} {r : TransactionResult}
    (hg : t.GivenUp now r t') : t'.state ≠ .waitingResponse := by
  cases hg with
  | retry _ state _ _ _ => simp [state]
  | fail state _ _ => simp [state]

theorem beginTransmit_not_waiting (t : Transaction) (answer : Int) (now : Word32) :
    (t.beginTransmit answer now).2.state ≠ .waitingResponse := by
  by_cases hz : answer = 0
  · rw [show (t.beginTransmit answer now).2 = t.sending from if_pos hz]
    exact fun h => by cases h
  · rw [show (t.beginTransmit answer now).2 = t.sending.transportFailed now from if_neg hz]
    exact (t.sending.transportFailed_spec now).2.1.not_waiting

theorem MasterApp.Listening.poll (h : a.Listening) (hs : a.Sound) (x : UartTransmission)
    (now : Word32) : (a.call x (.poll now)).2.Listening := by
  refine h.call x (fun hnone hw => ?_) fun hsome answer => ?_
  · have hm := transactionStep_moves hs.transaction.initialized (.poll now 0)
    generalize (transactionStep a.transaction (.poll now 0)).2 = t',
      (transactionStep a.transaction (.poll now 0)).1 = out at hm hw
    cases hm with
    | refused | rested => exact hw
    | retried _ _ hstate _ => exact absurd hw (beginTransmit_not_waiting _ _ _)
    | timedOut _ _ _ _ hstate _ _ _ => exact hstate
  · have hm := transactionStep_moves hs.transaction.initialized (.poll now answer)
    rw [← poll_sent a.transaction now answer] at hsome
    generalize (transactionStep a.transaction (.poll now answer)).2 = t',
      (transactionStep a.transaction (.poll now answer)).1 = out at hm hsome
    cases hm with
    | refused | rested | timedOut => exact absurd rfl hsome
    | retried => exact beginTransmit_not_waiting _ _ _

structure MasterApp.Settled (a : MasterApp) : Prop where
  listening : a.Listening
  swept : a.uart.Swept
  awaits : a.Awaits
  sent : a.transaction.state ≠ .transmitting

theorem MasterApp.Listening.start (h : a.Listening) (hp : a.Poised) (now : Word32)
    (x : StartHardware) : (modbusMasterStartCurrentStep a now x).Settled := by
  obtain ⟨b,hsound,he⟩ := hp.start_eq now x
  have hbefore : MasterApp.Listening
      { a with cycle := (modbusMasterBuildRequest a.cycle a.settings).2 } :=
    ⟨h.on,h.bounded,h.waiting,h.reported⟩
  have hstart := start_built hp.transaction hp.inactive b now
  have hcalled := hbefore.call x.transmission
    (c := .start (some b.request) (some (ofList b.adu)) b.adu.length now)
    (fun hnone => by rw [(hstart 0).2.1] at hnone; cases hnone) fun _ answer hw => by
      have hm := transactionStep_moves hp.transaction.initialized
        (.start (some b.request) (some (ofList b.adu)) b.adu.length now answer)
      have hok := (hstart answer).1
      generalize (transactionStep a.transaction (.start (some b.request) (some (ofList b.adu))
        b.adu.length now answer)).2 = t',(transactionStep a.transaction (.start (some b.request)
        (some (ofList b.adu)) b.adu.length now answer)).1 = out at hm hok hw
      cases hm with
      | refused _ _ hcode _ => exact hcode hok
      | timedOut _ _ _ hc => rcases hc with ⟨_,hc⟩ | ⟨_,_,hc⟩ <;> cases hc
      | started => exact beginTransmit_not_waiting _ _ _ hw
  rw [he]
  have hreported := hsound.interrupted x.afterStart
  have hlistening := ((hcalled.interrupted x.afterStart).handleTxComplete hreported).1
  have hhandled := hreported.handleTxComplete
  have hno := hhandled.2
  have hsynced := (hlistening.interrupted x.afterTxComplete).sync (hhandled.1.interrupted _)
  refine ⟨hsynced.1,hsynced.2,MasterApp.Sound.sync_awaits hno,?_⟩
  rw [(sync_sameCycle _).2.1]
  exact hno

/-- A late response schedules a retry that is not due at once. -/
theorem onResponse_delayed {t : Transaction} (ht : t.Driven) (adu : Option (Mem Byte))
    (length : Nat) (now : Word32) (hbefore : t.state ≠ .retryDelay)
    (hafter : (transactionStep t (.onResponse adu length now)).2.state = .retryDelay) :
    deadlineReached now (transactionStep t (.onResponse adu length now)).2.deadline = false := by
  have hm := transactionStep_moves ht.initialized (.onResponse adu length now)
  generalize (transactionStep t (.onResponse adu length now)).2 = t',
    (transactionStep t (.onResponse adu length now)).1 = out at hm hafter
  cases hm with
  | refused => exact absurd hafter hbefore
  | timedOut _ now' _ hc _ _ _ hgiven =>
    have hnow : now' = now := by
      rcases hc with ⟨_,hc⟩ | ⟨_,_,hc⟩
      · cases hc
      · injection hc with _ _ hnow
        exact hnow.symm
    subst hnow
    cases hgiven with
    | retry _ _ _ deadline _ =>
      have hahead : now'-(now'+100#32) = 0#32-100#32 := by bv_omega
      rw [deadline,ht.config_eq]
      show decide (0 ≤ (now'-(now'+100#32)).toInt) = false
      rw [hahead]
      rfl
    | fail state _ _ =>
      rw [state] at hafter
      cases hafter
  | wrongLength =>
    exact absurd hafter hbefore
  | judged adu length now hwaiting _ _ =>
    rcases (judge_spec t adu length (t.validate adu length).1).2.1 with h | h
    · rw [h] at hafter
      exact absurd hafter hbefore
    · rw [h] at hafter
      cases hafter

end Windows

/-! The main loop. -/

/-- The statements between which the window is open exactly for a response. -/
def MasterPhase.isSettled : MasterPhase → Bool
  | .outside | .txComplete | .takeFrame | .handFrame .. | .terminal _ | .syncAgain _
  | .startDue _ | .takeTest .. => true
  | _ => false

/-- After a UART error the window may be closed over a frame until the next synchronization. -/
def MasterPhase.isSwept : MasterPhase → Bool
  | .poll _ | .txCompleteAgain _ | .sync _ => false
  | _ => true

def MasterPhase.responseTime : MasterPhase → Option Word32
  | .uartError now | .resetReceiver now | .reportError now | .poll now => some now
  | _ => none

theorem MasterPhase.settled_time {phase : MasterPhase} (h : phase.isSettled = true) :
    phase.responseTime = none := by
  cases phase <;> first | rfl | cases h

structure MasterLoop.Windowed (m : MasterLoop) : Prop where
  sound : m.Sound
  listening : m.app.Listening
  sent : (∀ now, m.phase ≠ .txCompleteAgain now) → m.app.transaction.state ≠ .transmitting
  swept : m.phase.isSwept = true → m.app.uart.Swept
  awaits : m.phase.isSettled = true → m.app.Awaits
  delayed : ∀ now, m.phase.responseTime = some now → m.app.Delayed now

section MainLoop
variable {a a' : MasterApp}

theorem MasterApp.Settled.delayed (h : a.Settled) (now : Word32) : a.Delayed now := by
  intro hopen hdelay
  have hw : a.uart.receiveWindowOpen ≠ 0#8 := fun hclosed => hopen ⟨hclosed,h.swept hclosed⟩
  rw [h.awaits hw] at hdelay
  cases hdelay

theorem MasterApp.Settled.same (h : a.Settled) (huart : a'.uart = a.uart)
    (htransaction : a'.transaction = a.transaction) : a'.Settled := by
  refine ⟨⟨?_,?_,?_,?_⟩,?_,?_,?_⟩
  · rw [huart]; exact h.listening.on
  · rw [huart]; exact h.listening.bounded
  · rw [huart,htransaction]; exact h.listening.waiting
  · rw [huart]; exact h.listening.reported
  · rw [huart]; exact h.swept
  · unfold MasterApp.Awaits
    rw [huart,htransaction]
    exact h.awaits
  · rw [htransaction]; exact h.sent

theorem MasterApp.Settled.handFrame (h : a.Settled) (hs : a.Sound) (f : TakenFrame)
    (now : Word32) : (handResponseFrame a f now).Listening ∧
      (handResponseFrame a f now).uart.Swept ∧ (handResponseFrame a f now).Delayed now ∧
      (handResponseFrame a f now).transaction.state ≠ .transmitting := by
  have hl := h.listening
  have hswept := h.swept
  have hno := h.sent
  unfold handResponseFrame
  dsimp only
  split
  · exact ⟨⟨hl.on,hl.bounded,hl.waiting,hl.reported⟩,hswept,
      fun hopen => h.delayed now fun hclosed => hopen ⟨hclosed.window,hclosed.rest⟩,hno⟩
  · rename_i hstate
    have hstate := not_not.mp hstate
    have hdelay : a.transaction.state ≠ .retryDelay := by simp [hstate]
    have hnoted : MasterApp.Listening
        { a with watch := { a.watch with lastResponseLength := f.length } } :=
      ⟨hl.on,hl.bounded,hl.waiting,hl.reported⟩
    split
    · exact ⟨hnoted.report fun _ => hstate,hswept,
        fun _ => onResponse_delayed hs.transaction _ _ now hdelay,
        onResponse_state_ne hs.transaction.initialized hno _ _ _⟩
    · exact ⟨hnoted.report fun _ => hstate,hswept,
        fun _ => onResponse_delayed hs.transaction _ _ now hdelay,
        onResponse_state_ne hs.transaction.initialized hno _ _ _⟩

/-- The window is closed or kept, whatever has been received since the receiver was reset. -/
theorem MasterApp.Listening.reportUartError (h : a.Listening) (hs : a.Sound)
    (hno : a.transaction.state ≠ .transmitting) {now : Word32} (hd : a.Delayed now) :
    (reportUartError a now).Listening ∧ (reportUartError a now).Delayed now ∧
      (reportUartError a now).transaction.state ≠ .transmitting := by
  have hpending := hs.idle_pending hno
  unfold ModbusStack.reportUartError
  dsimp only
  split
  · rename_i hstate
    have hdelay : a.transaction.state ≠ .retryDelay := by simp [hstate]
    refine ⟨MasterApp.Listening.report ?_ fun _ => hstate,
      fun _ => onResponse_delayed hs.transaction _ _ now hdelay,
      onResponse_state_ne hs.transaction.initialized hno _ _ _⟩
    exact ⟨h.on,h.bounded,fun _ => by simp,fun hp => absurd hpending hp⟩
  · rename_i hstate
    refine ⟨⟨h.on,h.bounded,fun hw => absurd hw hstate,fun hp => absurd hpending hp⟩,
      fun hopen => hd fun hclosed => hopen ⟨rfl,hclosed.rest⟩,hno⟩

theorem MasterApp.Settled.terminal (h : a.Settled) (hs : a.Sound) (now : Word32)
    (x : StartHardware) : (modbusMasterHandleTerminalTransaction a now x).Settled := by
  have hhandled := terminal_handled a now x
  generalize modbusMasterHandleTerminalTransaction a now x = a' at hhandled ⊢
  cases hhandled with
  | kept => exact h
  | ended b result huart ht _ _ hstate =>
    have hsame := h.same huart ht
    have hended := hsame.listening.finish result now
      (by rw [ht]; rcases hstate with hs | hs | hs <;> simp [hs])
      (by rw [huart]; exact hs.idle_pending h.sent)
    exact ⟨hended.1,hended.2,finishCycle_awaits b result now,hsame.sent⟩
  | readback hactive hcomplete _ _ hwrite =>
    have hl := h.listening
    have hlistening : MasterApp.Listening
        { a with cycle := { a.cycle with testStep := .verifyReadback } } :=
      ⟨hl.on,hl.bounded,hl.waiting,hl.reported⟩
    exact hlistening.start (hs.readback hactive hcomplete hwrite) now x

theorem MasterApp.Settled.takeSelectedTest (h : a.Settled) (hs : a.Sound)
    (hactive : a.cycle.active = 0#8) (checked : MasterTest) (now : Word32) (x : StartHardware) :
    (takeSelectedTest a checked now x).Settled := by
  by_cases hvalid : modbusMasterTestIsValid checked = true
  · have hbegun : (beginTest a checked).Settled := h.same rfl rfl
    cases htest : modbusMasterTestIsValid a.settings.selectedTest with
    | true =>
      rw [takeSelectedTest_valid hvalid]
      exact hbegun.listening.start (hs.beginTest hactive checked htest) now x
    | false =>
      have hstate : a.transaction.state ≠ .waitingResponse := fun hw => by
        have hinactive := (hs.resting hactive).inactive
        rw [hw] at hinactive
        cases hinactive
      have hpending := hs.idle_pending h.sent
      rw [takeSelectedTest_spoilt hvalid htest]
      unfold MasterApp.spoilt
      dsimp only
      generalize ha' : MasterApp.setProtocolResult _ _ = a'
      have huart : a'.uart = a.uart := by rw [← ha']; rfl
      have ht : a'.transaction = a.transaction := by rw [← ha']; rfl
      have hsame := h.same huart ht
      have hended := hsame.listening.finish .buildError now (by rw [ht]; exact hstate)
        (by rw [huart]; exact hpending)
      exact ⟨hended.1,hended.2,finishCycle_awaits a' _ now,hsame.sent⟩
  · rw [show ModbusStack.takeSelectedTest a checked now x = refuseTest a checked now from
      if_pos hvalid]
    exact h.same rfl rfl

theorem armed_same (u : MasterUart) (uartReady armed : Bool) :
    (modbusMasterEnsureReceiveArmed u uartReady armed).receiveWindowOpen = u.receiveWindowOpen ∧
      (modbusMasterEnsureReceiveArmed u uartReady armed).rx = u.rx ∧
      (modbusMasterEnsureReceiveArmed u uartReady armed).initialized = u.initialized ∧
      (modbusMasterEnsureReceiveArmed u uartReady armed).txCompletePending =
        u.txCompletePending := by
  unfold modbusMasterEnsureReceiveArmed MasterUart.noteError
  split
  · split <;> exact ⟨rfl,rfl,rfl,rfl⟩
  · exact ⟨rfl,rfl,rfl,rfl⟩

theorem MasterApp.Settled.armed (h : a.Settled) (uartReady armed : Bool) :
    MasterApp.Settled { a with uart := modbusMasterEnsureReceiveArmed a.uart uartReady armed } := by
  obtain ⟨hwindow,hrx,hon,hpending⟩ := armed_same a.uart uartReady armed
  refine ⟨⟨?_,?_,fun hw => ?_,fun hp => ?_⟩,fun hclosed => ?_,fun hw => ?_,h.sent⟩
  · exact fun hno => h.listening.on (hon.symm.trans hno)
  · show (modbusMasterEnsureReceiveArmed a.uart uartReady armed).rx.Bounded
    rw [hrx]
    exact h.listening.bounded
  · exact fun hno => h.listening.waiting hw (hwindow.symm.trans hno)
  · exact fun hno => h.listening.reported (fun hn => hp (hpending.trans hn)) (hwindow.symm.trans hno)
  · show (modbusMasterEnsureReceiveArmed a.uart uartReady armed).rx.AtRest
    rw [hrx]
    exact h.swept (hwindow.symm.trans hclosed)
  · exact h.awaits fun hno => hw (hwindow.trans hno)

theorem MasterApp.Settled.txComplete (h : a.Settled) (hs : a.Sound) :
    (modbusMasterHandleTxComplete a).Settled := by
  have he : modbusMasterHandleTxComplete a =
      { a with uart := { a.uart with txCompletePending := 0 } } := by
    unfold modbusMasterHandleTxComplete
    exact if_pos (hs.idle_pending h.sent)
  have hlistening := (h.listening.handleTxComplete hs).1
  rw [he] at hlistening ⊢
  exact ⟨hlistening,h.swept,h.awaits,h.sent⟩

theorem MasterApp.Settled.takeFrame (h : a.Settled) : (takePendingFrame a).2.Settled := by
  have hl := h.listening
  unfold takePendingFrame
  dsimp only
  split
  · exact h
  · refine ⟨⟨hl.on,⟨hl.bounded.active,hl.bounded.pending,hl.bounded.activeIndex,
      hl.bounded.pendingIndex⟩,hl.waiting,hl.reported⟩,fun hclosed => ?_,h.awaits,h.sent⟩
    have hrest := h.swept hclosed
    exact ⟨hrest.frameActive,hrest.gapTicks,hrest.activeLength,hrest.unspoilt,rfl⟩

structure MasterApp.Handling (a : MasterApp) (now : Word32) : Prop where
  listening : a.Listening
  swept : a.uart.Swept
  sent : a.transaction.state ≠ .transmitting
  delayed : a.Delayed now

theorem MasterApp.Settled.handling (h : a.Settled) (now : Word32) : a.Handling now :=
  ⟨h.listening,h.swept,h.sent,h.delayed now⟩

theorem MasterApp.Handling.takeUartError {now : Word32} (h : a.Handling now) :
    (takeUartError a).2.Handling now := by
  have hl := h.listening
  unfold ModbusStack.takeUartError
  split
  · exact h
  · exact ⟨⟨hl.on,hl.bounded,hl.waiting,hl.reported⟩,h.swept,h.sent,
      fun hopen => h.delayed fun hclosed => hopen ⟨hclosed.window,hclosed.rest⟩⟩

theorem MasterApp.Handling.resetReceiver {now : Word32} (h : a.Handling now) :
    (resetReceiver a).Handling now :=
  ⟨⟨h.listening.on,rxResetAll_bounded a.uart,h.listening.waiting,h.listening.reported⟩,
    fun _ => rxResetAll_atRest a.uart,h.sent,
    fun hopen => h.delayed fun hclosed => hopen ⟨hclosed.window,rxResetAll_atRest a.uart⟩⟩

theorem MasterApp.Settled.windowed (h : a.Settled) {m : MasterLoop} (happ : m.app = a)
    (hs : m.Sound) (hphase : m.phase.isSettled = true) : m.Windowed := by
  subst happ
  refine ⟨hs,h.listening,fun _ => h.sent,fun _ => h.swept,fun _ => h.awaits,fun now hp => ?_⟩
  rw [MasterPhase.settled_time hphase] at hp
  cases hp

theorem MasterApp.Handling.windowed {now : Word32} (h : a.Handling now) {m : MasterLoop}
    (happ : m.app = a) (hs : m.Sound) (hphase : m.phase.responseTime = some now) : m.Windowed := by
  subst happ
  refine ⟨hs,h.listening,fun _ => h.sent,fun _ => h.swept,fun hp => ?_,fun now' hp => ?_⟩
  · rw [MasterPhase.settled_time hp] at hphase
    cases hphase
  · obtain rfl := Option.some.inj (hphase.symm.trans hp)
    exact h.delayed

theorem MasterLoop.Windowed.settled {m : MasterLoop} (h : m.Windowed)
    (hphase : m.phase.isSettled = true) : m.app.Settled := by
  refine ⟨h.listening,h.swept ?_,h.awaits hphase,h.sent fun now hp => ?_⟩
  · generalize m.phase = phase at hphase
    cases phase <;> first | rfl | cases hphase
  · rw [hp] at hphase
    cases hphase

theorem MasterLoop.Windowed.process {m : MasterLoop} (h : m.Windowed) (x : MasterHardware) :
    (modbusMasterProcessStep m x).Windowed := by
  have hsound := h.sound.process x
  obtain ⟨a,phase⟩ := m
  have hs : a.Sound := h.sound.app
  have hl : a.Listening := h.listening
  -- what is left behind when a frame has been sent, or a window has been closed
  have hpolled {m' : MasterLoop} (hsound : m'.Sound) (hlistening : m'.app.Listening)
      (hsent : (∀ now, m'.phase ≠ .txCompleteAgain now) → m'.app.transaction.state ≠ .transmitting)
      (hphase : m'.phase.isSwept = false ∧ m'.phase.isSettled = false ∧
        m'.phase.responseTime = none) : m'.Windowed := by
    obtain ⟨hswept,hsettled,htime⟩ := hphase
    refine ⟨hsound,hlistening,hsent,fun hp => ?_,fun hp => ?_,fun now hp => ?_⟩
    · rw [hswept] at hp
      cases hp
    · rw [hsettled] at hp
      cases hp
    · rw [htime] at hp
      cases hp
  cases phase with
  | outside =>
    have he : modbusMasterProcessStep ⟨a,.outside⟩ x =
        ⟨{ a with uart := modbusMasterEnsureReceiveArmed a.uart x.uartReady x.armed },
          .txComplete⟩ := if_neg hl.on
    rw [he] at hsound ⊢
    exact ((h.settled rfl).armed x.uartReady x.armed).windowed rfl hsound rfl
  | txComplete => exact ((h.settled rfl).txComplete hs).windowed rfl hsound rfl
  | takeFrame =>
    have htaken := (h.settled rfl).takeFrame
    unfold modbusMasterProcessStep at hsound ⊢
    dsimp only at hsound ⊢
    generalize takePendingFrame a = out at htaken hsound
    obtain ⟨f,a'⟩ := out
    cases f with
    | some f => exact htaken.windowed rfl hsound rfl
    | none => exact (htaken.handling x.now).windowed rfl hsound rfl
  | handFrame f now =>
    obtain ⟨hlistening,hswept,hdelayed,hno⟩ := (h.settled rfl).handFrame hs f now
    exact MasterApp.Handling.windowed ⟨hlistening,hswept,hno,hdelayed⟩ rfl hsound rfl
  | uartError now =>
    have htaken : (takeUartError a).2.Handling now := MasterApp.Handling.takeUartError
      ⟨hl,h.swept rfl,h.sent fun _ => by simp,h.delayed now rfl⟩
    unfold modbusMasterProcessStep at hsound ⊢
    dsimp only at hsound ⊢
    generalize takeUartError a = out at htaken hsound
    obtain ⟨noted,a'⟩ := out
    cases noted with
    | true => exact htaken.windowed rfl hsound rfl
    | false => exact htaken.windowed rfl hsound rfl
  | resetReceiver now =>
    have hreset : (resetReceiver a).Handling now := MasterApp.Handling.resetReceiver
      ⟨hl,h.swept rfl,h.sent fun _ => by simp,h.delayed now rfl⟩
    exact hreset.windowed rfl hsound rfl
  | reportError now =>
    obtain ⟨hlistening,hdelayed,hno⟩ := hl.reportUartError hs (h.sent fun _ => by simp)
      (h.delayed now rfl)
    refine ⟨hsound,hlistening,fun _ => hno,fun hp => (by cases hp),fun hp => (by cases hp),
      fun now' hp => ?_⟩
    obtain rfl := Option.some.inj hp
    exact hdelayed
  | poll now =>
    exact hpolled hsound (hl.poll hs x.start.transmission now) (fun hp => absurd rfl (hp now))
      ⟨rfl,rfl,rfl⟩
  | txCompleteAgain now =>
    exact hpolled hsound (hl.handleTxComplete hs).1 (fun _ => hs.handleTxComplete.2) ⟨rfl,rfl,rfl⟩
  | sync now | syncAgain now =>
    have hno : a.transaction.state ≠ .transmitting := h.sent fun _ => by simp
    obtain ⟨hlistening,hswept⟩ := hl.sync hs
    have hsynced : (modbusMasterSyncWatchState a).Settled := by
      refine ⟨hlistening,hswept,MasterApp.Sound.sync_awaits hno,?_⟩
      rw [(sync_sameCycle a).2.1]
      exact hno
    exact hsynced.windowed rfl hsound rfl
  | terminal now =>
    exact ((h.settled rfl).terminal hs now x.start).windowed rfl hsound rfl
  | startDue now =>
    have hsettled : a.Settled := h.settled rfl
    unfold modbusMasterProcessStep at hsound ⊢
    dsimp only at hsound ⊢
    rcases startDueCycle_spec a now with he | ⟨force,-,he⟩
    · rw [he] at hsound ⊢
      exact hsettled.windowed rfl hsound rfl
    · rw [he] at hsound ⊢
      have hforced : MasterApp.Settled { a with forceRequest := force } := hsettled.same rfl rfl
      exact hforced.windowed rfl hsound rfl
  | takeTest checked now =>
    exact ((h.settled rfl).takeSelectedTest hs (h.sound.taking checked now rfl) checked now
      x.start).windowed rfl hsound rfl

theorem MasterLoop.Windowed.step {m : MasterLoop} (h : m.Windowed) (x : MasterInput) :
    (masterLoopStep m x).2.Windowed := by
  have hsound := h.sound.step x
  have hl := h.listening
  cases x with
  | interrupt i =>
    exact ⟨hsound,hl.interrupted [i],h.sent,fun hp => (h.swept hp).interrupt i,
      fun hp => (h.awaits hp).interrupted [i],fun now hp => (h.delayed now hp).interrupted i⟩
  | edit settings =>
    exact ⟨hsound,⟨hl.on,hl.bounded,hl.waiting,hl.reported⟩,h.sent,h.swept,h.awaits,h.delayed⟩
  | requestNow =>
    exact ⟨hsound,⟨hl.on,hl.bounded,hl.waiting,hl.reported⟩,h.sent,h.swept,h.awaits,h.delayed⟩
  | process hardware => exact h.process hardware

end MainLoop

/-! The frames of the master. -/

/-- What is done between two states without a frame being sent. -/
def MasterApp.Quiet (a a' : MasterApp) : Prop :=
  ∃ events, a'.log = a.log ++ events ∧
    ∀ c, .called c ∈ events → (transactionStep a.transaction c).1.2 = []

section Frames
variable {a : MasterApp}

theorem MasterApp.Quiet.still {a' : MasterApp} (hlog : a'.log = a.log) : a.Quiet a' :=
  ⟨[],by simp [hlog],fun c hc => by cases hc⟩

theorem MasterApp.Quiet.called {a' : MasterApp} {c : TransactionCall}
    (hlog : a'.log = a.log ++ [.called c]) (hsilent : (transactionStep a.transaction c).1.2 = []) :
    a.Quiet a' := by
  refine ⟨[.called c],hlog,fun c' hc => ?_⟩
  injection List.mem_singleton.mp hc with he
  rw [he]
  exact hsilent

theorem handleTxComplete_quiet (hs : a.Sound) : a.Quiet (modbusMasterHandleTxComplete a) := by
  rcases hs.handleTxComplete_eq with he | ⟨-,he⟩ <;> rw [he]
  · exact .still rfl
  · exact .called rfl (onTxComplete_silent _ _)

theorem handFrame_quiet (f : TakenFrame) (now : Word32) : a.Quiet (handResponseFrame a f now) := by
  unfold handResponseFrame
  dsimp only
  split
  · exact .still rfl
  · split
    · exact .called rfl (onResponse_silent _ _ _ _)
    · exact .called rfl (onResponse_silent _ _ _ _)

theorem reportUartError_quiet (now : Word32) : a.Quiet (reportUartError a now) := by
  unfold reportUartError
  dsimp only
  split
  · exact .called rfl (onResponse_silent _ _ _ _)
  · exact .still rfl

theorem poll_quiet (hs : a.Sound) {now : Word32} (hd : a.Delayed now)
    (hopen : ¬ a.uart.Closed) (x : UartTransmission) :
    a.Quiet (a.call x (.poll now)).2 := by
  have hsilent (answer : Int) : (transactionStep a.transaction (.poll now answer)).1.2 = [] := by
    have hm := transactionStep_moves hs.transaction.initialized (.poll now answer)
    generalize (transactionStep a.transaction (.poll now answer)).2 = t',
      (transactionStep a.transaction (.poll now answer)).1 = out at hm
    cases hm with
    | refused | rested | timedOut => rfl
    | retried _ _ hdelay hdue =>
      rw [hd hopen hdelay] at hdue
      cases hdue
  have hspec := callTransaction_spec a.uart a.transaction x (.poll now)
  unfold MasterApp.call
  generalize callTransaction a.transaction a.uart x (.poll now) = out at hspec
  cases hspec with
  | silent => exact .called rfl (hsilent 0)
  | transmitted answer => exact .called rfl (hsilent answer)

theorem terminal_quiet (hwaiting : a.transaction.state = .waitingResponse) (now : Word32)
    (x : StartHardware) : modbusMasterHandleTerminalTransaction a now x = a := by
  have h := terminal_handled a now x
  generalize modbusMasterHandleTerminalTransaction a now x = a' at h ⊢
  cases h with
  | kept => rfl
  | ended b result huart ht hlog htest hstate => simp [hwaiting] at hstate
  | readback _ hcomplete => simp [hwaiting] at hcomplete

theorem MasterLoop.Windowed.quiet {m : MasterLoop} (h : m.Windowed)
    (hopen : ¬ m.app.uart.Closed) (x : MasterInput) : m.app.Quiet (masterLoopStep m x).2.app := by
  cases x with
  | interrupt | edit | requestNow => exact .still rfl
  | process hardware =>
    -- the window is open for a response when a step of a test could be started
    have hwaiting (hphase : m.phase.isSettled = true) :
        m.app.transaction.state = .waitingResponse := by
      have hsettled := h.settled hphase
      exact hsettled.awaits fun hclosed => hopen ⟨hclosed,hsettled.swept hclosed⟩
    obtain ⟨a,phase⟩ := m
    have hs : a.Sound := h.sound.app
    show a.Quiet (modbusMasterProcessStep ⟨a,phase⟩ hardware).app
    cases phase with
    | outside =>
      refine .still ?_
      unfold modbusMasterProcessStep
      dsimp only
      split <;> rfl
    | txComplete => exact handleTxComplete_quiet hs
    | takeFrame =>
      have hlog : (takePendingFrame a).2.log = a.log := by
        unfold takePendingFrame
        dsimp only
        split <;> rfl
      refine .still ?_
      unfold modbusMasterProcessStep
      dsimp only
      generalize takePendingFrame a = out at hlog
      obtain ⟨f,a'⟩ := out
      cases f <;> exact hlog
    | handFrame f now => exact handFrame_quiet f now
    | uartError now =>
      have hlog : (takeUartError a).2.log = a.log := by
        unfold takeUartError
        split <;> rfl
      refine .still ?_
      unfold modbusMasterProcessStep
      dsimp only
      generalize takeUartError a = out at hlog
      obtain ⟨noted,a'⟩ := out
      cases noted <;> exact hlog
    | resetReceiver now => exact .still rfl
    | reportError now => exact reportUartError_quiet now
    | poll now => exact poll_quiet hs (h.delayed now rfl) hopen _
    | txCompleteAgain now => exact handleTxComplete_quiet hs
    | sync now => exact .still (sync_log a)
    | terminal now =>
      exact .still (congrArg MasterApp.log (terminal_quiet (hwaiting rfl) now _))
    | syncAgain now => exact .still (sync_log a)
    | startDue now =>
      refine .still ?_
      unfold modbusMasterProcessStep
      dsimp only
      rcases startDueCycle_spec a now with he | ⟨force,-,he⟩
      · rw [he]
      · rw [he]
    | takeTest checked now =>
      have hinactive := (hs.resting (h.sound.taking checked now rfl)).inactive
      rw [show a.transaction.state = .waitingResponse from hwaiting rfl] at hinactive
      cases hinactive

theorem MasterLoop.Windowed.closed {m : MasterLoop} (h : m.Windowed) {x : MasterInput}
    {c : TransactionCall} (hc : .called c ∈ (masterLoopStep m x).1)
    (hsent : (transactionStep m.app.transaction c).1.2 ≠ []) : m.app.uart.Closed := by
  by_contra hopen
  obtain ⟨events,hlog,hsilent⟩ := h.quiet hopen x
  have hevents : (masterLoopStep m x).1 = events := by
    show (masterLoopStep m x).2.app.log.drop m.app.log.length = events
    rw [hlog,List.drop_left]
  rw [hevents] at hc
  exact hsent (hsilent c hc)

end Frames

theorem masterStart_windowed (tick : Word32) : (masterStart tick).Windowed := by
  have he : (masterStart tick).app.uart.rx.AtRest ∧ (masterStart tick).app.uart.rx.Bounded ∧
      (masterStart tick).app.uart.initialized = 1#8 ∧
      (masterStart tick).app.uart.receiveWindowOpen = 0#8 ∧
      (masterStart tick).app.uart.txCompletePending = 0#8 ∧
      (masterStart tick).app.transaction.state = .idle :=
    ⟨⟨rfl,rfl,rfl,⟨rfl,rfl⟩,rfl⟩,⟨Nat.zero_le _,Nat.zero_le _,.inl rfl,.inl rfl⟩,rfl,rfl,rfl,rfl⟩
  obtain ⟨hrest,hbounded,hon,hclosed,hpending,hstate⟩ := he
  refine MasterApp.Settled.windowed (a := (masterStart tick).app) ⟨⟨?_,hbounded,fun hw => ?_,
    fun hp => absurd hpending hp⟩,fun _ => hrest,fun hw => absurd hclosed hw,?_⟩ rfl
    (masterStart_sound tick) rfl
  · rw [hon]
    decide
  · rw [hstate] at hw
    cases hw
  · rw [hstate]
    simp

theorem masterLoop_windowed (tick : Word32) (inputs : List MasterInput) :
    (run masterLoopStep (masterStart tick) inputs).Windowed :=
  run_invariant MasterLoop.Windowed (fun _ x h => h.step x) (masterStart_windowed tick) inputs

/-- However the interrupts fall between the statements of the main loop: the buffers are used
within their bounds; the receive window is open while the object waits for a response and between
the settled statements only then; while it is closed the receiver is at rest, unless the handling
of a UART error has closed it over a frame, which the next synchronization clears away; and a frame
is sent with the window closed and nothing of an earlier response left. -/
theorem masterLoop_window (tick : Word32) (inputs : List MasterInput) :
    let m := run masterLoopStep (masterStart tick) inputs
    m.app.uart.rx.Bounded ∧
      (m.app.transaction.state = .waitingResponse → m.app.uart.receiveWindowOpen ≠ 0#8) ∧
      (m.phase.isSettled = true → m.app.uart.receiveWindowOpen ≠ 0#8 →
        m.app.transaction.state = .waitingResponse) ∧
      (m.phase.isSwept = true → m.app.uart.receiveWindowOpen = 0#8 → m.app.uart.rx.AtRest) ∧
      ∀ x c, .called c ∈ (masterLoopStep m x).1 →
        (transactionStep m.app.transaction c).1.2 ≠ [] → m.app.uart.Closed := by
  have h := masterLoop_windowed tick inputs
  exact ⟨h.listening.bounded,h.listening.waiting,h.awaits,h.swept,fun x c hc => h.closed hc⟩

end ModbusStack
