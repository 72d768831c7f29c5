import ModbusStack.LineTransactions
import ModbusStack.MasterApp

/-! The transaction object of the harness and the transport under it. -/
set_option autoImplicit false

namespace ModbusStack
open ByteMemory Machine

/-! The transaction object when nobody cancels. -/

def TransactionState.allows : TransactionState → TransactionResult → Prop
  | .complete, .success | .complete, .modbusException => True
  | .failed, .timeout | .failed, .transportError | .failed, .responseError => True
  | .idle, .none | .transmitting, .none | .waitingResponse, .none | .retryDelay, .none => True
  | _, _ => False

structure Transaction.Driven (t : Transaction) : Prop where
  initialized : t.isInitialized = true
  config_eq : t.config = modbusMasterConfig
  allowed : t.state.allows t.result
  holds : ∀ v, t.result.verdict = some v →
    (v = .ok ∧ t.request.expectsResponse = 0#8) ∨ ∃ answer, t.Holds v answer

section Driving
variable {t t' : Transaction} {c : TransactionCall} {out : TransactionCode × List (List Byte)}

theorem Transaction.Driven.running (h : t.Driven) (ha : stateIsActive t.state = true) :
    t.result = .none := by
  have hallowed := h.allowed
  generalize t.state = state, t.result = result at ha hallowed
  cases state <;> cases result <;> simp_all [stateIsActive,TransactionState.allows]

theorem Transaction.GivenUp.allowed {now : Word32} {r : TransactionResult} (hg : t.GivenUp now r t')
    (hnone : t.result = .none) (hr : TransactionState.failed.allows r) :
    t'.state.allows t'.result := by
  cases hg with
  | retry _ state result _ _ =>
    rw [state,result,hnone]
    trivial
  | fail state result _ =>
    rw [state,result]
    exact hr

theorem beginTransmit_allowed (hnone : t.result = .none) (answer : Int) (now : Word32) :
    (t.beginTransmit answer now).2.state.allows (t.beginTransmit answer now).2.result := by
  by_cases hz : answer = 0
  · rw [show (t.beginTransmit answer now).2 = t.sending from if_pos hz]
    show TransactionState.transmitting.allows t.result
    rw [hnone]
    trivial
  · rw [show (t.beginTransmit answer now).2 = t.sending.transportFailed now from if_neg hz]
    exact (t.sending.transportFailed_spec now).2.1.allowed hnone trivial

theorem timeoutResult_allowed : TransactionState.failed.allows t.timeoutResult := by
  unfold Transaction.timeoutResult
  split <;> trivial

theorem Moves.allowed (hm : Moves t c out t') (h : t.Driven) (hc : c ≠ .cancel) :
    t'.state.allows t'.result := by
  have hnone : ∀ {state : TransactionState}, t.state = state → stateIsActive state = true →
      t.result = .none := fun hs ha => h.running (by rw [hs]; exact ha)
  cases hm with
  | refused | rested => exact h.allowed
  | started => exact beginTransmit_allowed rfl _ _
  | retried now answer hstate _ => exact beginTransmit_allowed (hnone hstate rfl) _ _
  | timedOut _ now _ _ hstate _ _ hgiven =>
    exact hgiven.allowed (hnone hstate rfl) timeoutResult_allowed
  | sentUnanswered _ _ _ _ _ hdone hresult _ =>
    rw [hdone,hresult]
    trivial
  | sent now hstate _ =>
    show TransactionState.waitingResponse.allows t.result
    rw [hnone hstate rfl]
    trivial
  | failed now hstate => exact (t.transportFailed_spec now).2.1.allowed (hnone hstate rfl) trivial
  | wrongLength => exact h.allowed
  | judged adu length now hstate _ _ =>
    rw [t.storeResponse_eq]
    cases (t.validate adu length).1 with
    | ok | exceptionResponse => trivial
    | _ => exact h.allowed
  | cancelled => exact absurd rfl hc

theorem Transaction.Driven.step (h : t.Driven) (hc : c ≠ .cancel)
    (hstart : ∀ request adu length now answer, c = .start request adu length now answer →
      ∃ r bytes, request = some r ∧ adu = some (ofList bytes) ∧ length = bytes.length) :
    (transactionStep t c).2.Driven := by
  have hm := transactionStep_moves h.initialized c
  have hallowed := hm.allowed h hc
  by_cases hopens : ∃ request adu length now answer, c = .start request adu length now answer ∧
      (transactionStep t c).1.1 = .ok
  · obtain ⟨request,adu,length,now,answer,rfl,hok⟩ := hopens
    obtain ⟨r,bytes,rfl,rfl,rfl⟩ := hstart _ _ _ _ _ rfl
    obtain ⟨hopened,-⟩ := hm.opens hok
    refine ⟨?_,hopened.config.trans h.config_eq,hallowed,fun v hv => ?_⟩
    · have hi := h.initialized
      simp only [Transaction.isInitialized] at hi ⊢
      rw [hopened.cookie]
      exact hi
    · rw [hopened.verdict] at hv
      cases hv
  · have hcontinues := hm.continues h.running fun request adu length now answer hs hok =>
      hopens ⟨request,adu,length,now,answer,hs,hok⟩
    refine ⟨?_,hcontinues.same.config.trans h.config_eq,hallowed,fun v hv => ?_⟩
    · have hi := h.initialized
      simp only [Transaction.isInitialized] at hi ⊢
      rw [hcontinues.same.cookie]
      exact hi
    · rcases hcontinues.outcome v hv with ⟨hsame,hkept⟩ | ⟨hv,hexpects⟩ | ⟨adu,length,now,-,hholds⟩
      · rcases h.holds v (hsame ▸ hv) with ⟨hok,hexpects⟩ | ⟨answer,hholds⟩
        · exact .inl ⟨hok,by rw [hcontinues.same.request]; exact hexpects⟩
        · exact .inr ⟨answer,hkept answer hholds⟩
      · exact .inl ⟨hv,by rw [hcontinues.same.request]; exact hexpects⟩
      · exact .inr ⟨_,hholds⟩

/-- An object that is not active takes no notice of anything but a start. -/
theorem Moves.resting (hm : Moves t c out t') (hrest : stateIsActive t.state = false)
    (hopens : ∀ request adu length now answer, c = .start request adu length now answer →
      out.1 ≠ .ok) : t' = t := by
  cases hm with
  | refused | rested => rfl
  | started => exact absurd rfl (hopens _ _ _ _ _ rfl)
  | cancelled _ hactive => rw [hrest] at hactive; cases hactive
  | _ => simp_all [stateIsActive]

end Driving

/-! The interrupts and the transport. -/

structure MasterUart.SameFlags (u u' : MasterUart) : Prop where
  initialized : u'.initialized = u.initialized
  window : u'.receiveWindowOpen = u.receiveWindowOpen
  pending : u'.txCompletePending = u.txCompletePending
  tick : u'.txCompleteTick = u.txCompleteTick

section Interrupts
variable (u : MasterUart)

theorem MasterUart.SameFlags.trans {u u' u'' : MasterUart} (h : u.SameFlags u')
    (h' : u'.SameFlags u'') : u.SameFlags u'' :=
  ⟨h'.initialized.trans h.initialized,h'.window.trans h.window,h'.pending.trans h.pending,
    h'.tick.trans h.tick⟩

theorem completeFrame_flags : u.SameFlags (modbusMasterRxCompleteFrameIsr u).2 := by
  unfold modbusMasterRxCompleteFrameIsr
  dsimp only
  split
  · exact ⟨rfl,rfl,rfl,rfl⟩
  · split <;> exact ⟨rfl,rfl,rfl,rfl⟩

theorem storeByte_flags (byte : Byte) : u.SameFlags (u.storeByte byte) := by
  unfold MasterUart.storeByte
  split
  · exact ⟨rfl,rfl,rfl,rfl⟩
  · split <;> exact ⟨rfl,rfl,rfl,rfl⟩

theorem rxByte_flags (byte : Byte) : u.SameFlags (modbusMasterOnRxByteIsr u byte).2 := by
  have hframe := completeFrame_flags { u with receivedBytes := u.receivedBytes+1 }
  unfold modbusMasterOnRxByteIsr
  split
  · exact ⟨rfl,rfl,rfl,rfl⟩
  · refine .trans ?_ (storeByte_flags _ byte)
    dsimp only
    split
    · split
      · exact ⟨hframe.initialized,hframe.window,hframe.pending,hframe.tick⟩
      · split <;> exact ⟨rfl,rfl,rfl,rfl⟩
    · exact ⟨rfl,rfl,rfl,rfl⟩

theorem tick_flags : u.SameFlags (modbusMasterOn50usTickIsr u).2 := by
  unfold modbusMasterOn50usTickIsr
  split
  · exact ⟨rfl,rfl,rfl,rfl⟩
  · dsimp only
    split <;> split
    · refine .trans ?_ (completeFrame_flags _)
      exact ⟨rfl,rfl,rfl,rfl⟩
    · exact ⟨rfl,rfl,rfl,rfl⟩
    · exact completeFrame_flags u
    · exact ⟨rfl,rfl,rfl,rfl⟩

theorem interrupt_flags (i : MasterInterrupt) : u.SameFlags (u.interrupt i).2 := by
  cases i with
  | rxComplete byte rearmed =>
    have h := rxByte_flags u byte
    cases rearmed
    · exact h.trans ⟨rfl,rfl,rfl,rfl⟩
    · exact h
  | uartError => exact ⟨rfl,rfl,rfl,rfl⟩
  | tick => exact tick_flags u

theorem interrupts_flags (is : List MasterInterrupt) : u.SameFlags (u.interrupts is) := by
  induction is generalizing u with
  | nil => exact ⟨rfl,rfl,rfl,rfl⟩
  | cons i is ih => exact (interrupt_flags u i).trans (ih _)

/-- What the transport answers, and the flags that go with it. -/
inductive Transported (u : MasterUart) : Int × MasterUart → Prop
  | accepted (u' : MasterUart) (pending : u'.txCompletePending = 1#8)
      (window : u'.receiveWindowOpen = 1#8) (initialized : u'.initialized = u.initialized) :
      Transported u (0,u')
  | refused (u' : MasterUart) (pending : u'.txCompletePending = 0#8)
      (window : u'.receiveWindowOpen = 0#8) (initialized : u'.initialized = u.initialized) :
      Transported u (-1,u')
  | invalid : Transported u (-1,u)

theorem modbusMasterTransportTransmit_spec (adu : List Byte) (x : UartTransmission) :
    Transported u (modbusMasterTransportTransmit u adu x) := by
  unfold modbusMasterTransportTransmit
  split
  · exact .invalid
  · have h := interrupts_flags { modbusMasterRxResetAll u with
      receiveWindowOpen := 0
      txCompletePending := 0
      currentFunction := ofList adu 1 } x.during
    dsimp only
    split
    · exact .refused _ h.pending h.window h.initialized
    · exact .accepted _ rfl rfl h.initialized

theorem Transported.pending {u u' : MasterUart} {answer : Int} (h : Transported u (answer,u'))
    (hidle : u.txCompletePending = 0#8) : answer = 0 ↔ u'.txCompletePending ≠ 0#8 := by
  cases h with
  | accepted _ pending => simp [pending]
  | refused _ pending => simp [pending]
  | invalid => simp [hidle]

/-- A call of the interface with the answer of the transport, if it was called. -/
inductive Calls (t : Transaction) (u : MasterUart) (call : Int → TransactionCall) :
    TransactionCall × TransactionStep × MasterUart → Prop
  | silent (hsent : (transactionStep t (call 0)).1.2 = []) :
      Calls t u call (call 0,transactionStep t (call 0),u)
  | transmitted (answer : Int) (u' : MasterUart) (hsent : (transactionStep t (call 0)).1.2 ≠ [])
      (htransport : Transported u (answer,u')) :
      Calls t u call (call answer,transactionStep t (call answer),u')

theorem callTransaction_spec (t : Transaction) (x : UartTransmission)
    (call : Int → TransactionCall) : Calls t u call (callTransaction t u x call) := by
  unfold callTransaction
  split
  · rename_i hsent
    exact .silent hsent
  · rename_i adu rest hsent
    exact .transmitted _ _ (by simp [hsent]) (modbusMasterTransportTransmit_spec u adu x)

end Interrupts

end ModbusStack
