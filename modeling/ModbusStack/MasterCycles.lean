import ModbusStack.DecodableResponses
import ModbusStack.MasterInvariant

/-! The test cycles of the validation harness in every interleaving of its main loop with the
interrupts, with edits of its settings and with any behaviour of the UART. -/
set_option autoImplicit false

namespace ModbusStack
open ByteMemory Machine

/-! The reading and the comparison of the values. -/

section Reading
variable {t : Transaction}

theorem Transaction.Holds.own {verdict : MasterResult} {answer : List Byte}
    (h : t.Holds verdict answer) :
    t.validate t.responseAdu answer.length = (verdict,t.response) := by
  rw [← h.judged]
  have hagree := agreeUpTo_ofList_slice t.responseAdu answer.length
  rw [h.stored] at hagree
  exact mbrtumProcessResponseWithRequestAdu_congr t.request t.requestAduLength hagree _

theorem decodeFrom_ok {α : Type} {decode : Word → Except MasterResult α} {count index : Nat}
    (h : ∀ i, index ≤ i → i < index+count → ∃ value, decode (BitVec.ofNat 16 i) = .ok value)
    (values : Mem α) :
    (decodeFrom decode count index values).1 = .ok ∧
      ∀ i, (index ≤ i → i < index+count →
          decode (BitVec.ofNat 16 i) = .ok ((decodeFrom decode count index values).2 i)) ∧
        (i < index → (decodeFrom decode count index values).2 i = values i) := by
  induction count generalizing index values with
  | zero => exact ⟨rfl,fun i => ⟨fun h1 h2 => by omega,fun _ => rfl⟩⟩
  | succ count ih =>
    obtain ⟨value,hvalue⟩ := h index (le_refl _) (by omega)
    obtain ⟨hok,hrest⟩ :=
      @ih (index+1) (fun i h1 h2 => h i (by omega) (by omega)) (put values index value)
    simp only [decodeFrom,hvalue]
    refine ⟨hok,fun i => ⟨fun h1 h2 => ?_,fun h1 => ?_⟩⟩
    · by_cases hi : i = index
      · rw [hi,(hrest index).2 (by omega),hvalue,put_same]
      · exact (hrest i).1 (by omega) (by omega)
    · rw [(hrest i).2 (by omega),put_other _ _ _ _ (by omega)]

def BuildCall.isHarnessRead : BuildCall → Prop
  | .readBits a f start quantity => a = 1#8 ∧ (f = 0x01#8 ∨ f = 0x02#8) ∧ start = 0#16 ∧
      quantity = 10#16
  | .readRegisters a f start quantity => a = 1#8 ∧ (f = 0x03#8 ∨ f = 0x04#8) ∧ start = 0#16 ∧
      quantity = 10#16
  | _ => False

theorem readbackCall_isHarnessRead (c : TestCycle) : c.readbackCall.isHarnessRead := by
  unfold TestCycle.readbackCall
  split <;> exact ⟨rfl,by decide,rfl,rfl⟩

theorem requestCall_isHarnessRead {c : TestCycle} {call : BuildCall}
    (hvalid : modbusMasterTestIsValid c.currentTest = true)
    (hread : modbusMasterTestIsWrite c.currentTest ≠ true) (hcall : c.requestCall = some call) :
    call.isHarnessRead := by
  rcases MasterTest.valid_cases hvalid with h | h | h | h | h | h | h | h
  all_goals
    simp only [TestCycle.requestCall,h,MasterTest.fc01,MasterTest.fc02,MasterTest.fc03,
      MasterTest.fc04,MasterTest.fc05,MasterTest.fc06,MasterTest.fc0F,MasterTest.fc10] at hcall
    rw [h] at hread
  all_goals first
    | exact absurd rfl hread
    | (obtain rfl := Option.some.inj hcall
       exact ⟨rfl,by decide,rfl,rfl⟩)

/-- What has been validated for a read of the harness is decoded completely. -/
theorem modbusMasterDecodeReadResponse_ok {b : BuiltCall} (hdriven : t.Driven)
    (hresult : t.result = .success) (hcarries : t.Carries b) (hread : b.call.isHarnessRead)
    (r : MasterReadings) :
    (modbusMasterDecodeReadResponse t r).1 = .ok ∧
      t.Decoded (modbusMasterDecodeReadResponse t r).2 := by
  have hrequest : ∃ f, (f = 0x01#8 ∨ f = 0x02#8 ∨ f = 0x03#8 ∨ f = 0x04#8) ∧
      t.request = ⟨1#8,f,0#16,10#16,0#16,1#8,0#16,0#16⟩ := by
    rw [hcarries.request,b.request_eq]
    obtain ⟨call,out,hbuilt⟩ := b
    cases call with
    | readBits a f start quantity =>
      obtain ⟨rfl,hf,rfl,rfl⟩ := hread
      exact ⟨f,by tauto,rfl⟩
    | readRegisters a f start quantity =>
      obtain ⟨rfl,hf,rfl,rfl⟩ := hread
      exact ⟨f,by tauto,rfl⟩
    | _ => exact absurd hread id
  obtain ⟨f,hf,hrequest⟩ := hrequest
  rcases hdriven.holds .ok (by rw [hresult]; rfl) with ⟨-,hexpects⟩ | ⟨answer,hholds⟩
  · rw [hrequest] at hexpects
    cases hexpects
  · have hnormal := processResponse_normal hholds.own
    have hchecked := hnormal.checked
    have hindex : ∀ i, 0 ≤ i → i < 0+modbusMasterTestQuantity →
        ¬ t.request.quantity.toNat ≤ (BitVec.ofNat 16 i).toNat := by
      intro i _ hi
      rw [hrequest]
      simp only [modbusMasterTestQuantity,BitVec.toNat_ofNat] at hi ⊢
      omega
    have hbits (hm : f ∈ [0x01#8,0x02#8]) : ∀ i, 0 ≤ i → i < 0+modbusMasterTestQuantity →
        ∃ value, mbrtumGetBit t.request t.response t.responseAdu (BitVec.ofNat 16 i) =
          .ok value := by
      intro i h0 hi
      have hread : checkReadBits t.request t.responseAdu answer.length = (.ok,t.response) := by
        simp only [List.mem_cons,List.not_mem_nil,or_false] at hm
        rw [hrequest] at hchecked ⊢
        rcases hm with rfl | rfl <;> simpa [checkNormalResponse] using hchecked
      have hmember : t.request.function ∈ [0x01#8,0x02#8] := by rw [hrequest]; exact hm
      rw [mbrtumGetBit_eq hmember (checkReadBits_response hread).1,if_neg (hindex i h0 hi)]
      exact ⟨_,rfl⟩
    have hregisters (hm : f ∈ [0x03#8,0x04#8]) : ∀ i, 0 ≤ i → i < 0+modbusMasterTestQuantity →
        ∃ value, mbrtumGetRegister t.request t.response t.responseAdu (BitVec.ofNat 16 i) =
          .ok value := by
      intro i h0 hi
      have hread : checkReadRegisters t.request t.responseAdu answer.length = (.ok,t.response) := by
        simp only [List.mem_cons,List.not_mem_nil,or_false] at hm
        rw [hrequest] at hchecked ⊢
        rcases hm with rfl | rfl <;> simpa [checkNormalResponse] using hchecked
      have hmember : t.request.function ∈ [0x03#8,0x04#8,0x17#8] := by
        rw [hrequest]
        simp only [List.mem_cons,List.not_mem_nil,or_false] at hm ⊢
        tauto
      rw [mbrtumGetRegister_eq hmember (checkReadRegisters_response hread).1,
        if_neg (hindex i h0 hi)]
      exact ⟨_,rfl⟩
    have hfunction : t.request.function = f := by rw [hrequest]
    unfold modbusMasterDecodeReadResponse Transaction.Decoded
    dsimp only
    rw [hfunction]
    rcases hf with rfl | rfl | rfl | rfl
    · have h := decodeFrom_ok (hbits (by simp)) r.coils
      exact ⟨h.1,fun i hi => (h.2 i).1 (Nat.zero_le i) (by omega)⟩
    · have h := decodeFrom_ok (hbits (by simp)) r.discreteInputs
      exact ⟨h.1,fun i hi => (h.2 i).1 (Nat.zero_le i) (by omega)⟩
    · have h := decodeFrom_ok (hregisters (by simp)) r.holdingRegisters
      exact ⟨h.1,fun i hi => (h.2 i).1 (Nat.zero_le i) (by omega)⟩
    · have h := decodeFrom_ok (hregisters (by simp)) r.inputRegisters
      exact ⟨h.1,fun i hi => (h.2 i).1 (Nat.zero_le i) (by omega)⟩

theorem compareReadback_spec {w : Nat} (hw : w ≤ 16) (c : TestCycle) (actual expected : Mem (BitVec w))
    (count : Nat) :
    let pairs := (List.range count).map fun i => ((expected i).setWidth 16,(actual i).setWidth 16)
    ((compareReadback c actual expected count).1 = true →
      (compareReadback c actual expected count).2 = c ∧ ∀ p ∈ pairs, p.1 = p.2) ∧
    ((compareReadback c actual expected count).1 = false →
      ∃ before e a after, pairs = before ++ (e,a) :: after ∧ (∀ p ∈ before, p.1 = p.2) ∧ e ≠ a ∧
        (compareReadback c actual expected count).2 = { c with
          mismatchIndex := BitVec.ofNat 16 before.length
          mismatchExpected := e
          mismatchActual := a }) := by
  intro pairs
  have hinjective (i : Nat) (h : (expected i).setWidth 16 = (actual i).setWidth 16) :
      actual i = expected i := by
    have hn := congrArg BitVec.toNat h
    rw [BitVec.toNat_setWidth_of_le hw,BitVec.toNat_setWidth_of_le hw] at hn
    exact (BitVec.eq_of_toNat_eq hn).symm
  unfold compareReadback
  cases hfind : (List.range count).find? fun i => actual i ≠ expected i with
  | none =>
    refine ⟨fun _ => ⟨rfl,fun p hp => ?_⟩,fun h => absurd h (by simp)⟩
    obtain ⟨i,hi,rfl⟩ := List.mem_map.mp hp
    have heq := List.find?_eq_none.mp hfind i hi
    simp only [ne_eq,decide_not,Bool.not_eq_true,Bool.not_eq_false',decide_eq_true_eq] at heq
    simp [heq]
  | some i =>
    obtain ⟨hne,as,bs,hsplit,hbefore⟩ := List.find?_eq_some_iff_append.mp hfind
    have hi : i = as.length := by
      have hget : (List.range count)[as.length]? = some i := by simp [hsplit]
      rw [List.getElem?_range] at hget
      · exact (Option.some.inj hget).symm
      · have := congrArg List.length hsplit
        simp only [List.length_range,List.length_append,List.length_cons] at this
        omega
    refine ⟨fun h => absurd h (by simp),fun _ => ⟨as.map fun i => ((expected i).setWidth 16,
      (actual i).setWidth 16),(expected i).setWidth 16,(actual i).setWidth 16,bs.map fun i =>
      ((expected i).setWidth 16,(actual i).setWidth 16),?_,fun p hp => ?_,fun h => ?_,?_⟩⟩
    · simp only [pairs,hsplit,List.map_append,List.map_cons]
    · obtain ⟨j,hj,rfl⟩ := List.mem_map.mp hp
      have heq := hbefore j hj
      simp only [ne_eq,decide_not,Bool.not_not,decide_eq_true_eq] at heq
      simp [heq]
    · exact absurd (hinjective i h) (by simpa using hne)
    · simp [hi]

/-- The verification tells whether all values agree, and changes nothing but its record. -/
theorem modbusMasterVerifyReadback_spec (c : TestCycle) (r : MasterReadings) :
    (∃ i e a, (modbusMasterVerifyReadback c r).2 =
      { c with
        mismatchIndex := i
        mismatchExpected := e
        mismatchActual := a }) ∧
    ((modbusMasterVerifyReadback c r).1 = true → ∀ p ∈ c.comparison r, p.1 = p.2) ∧
    ((modbusMasterVerifyReadback c r).1 = false → (modbusMasterVerifyReadback c r).2.Mismatch r) := by
  have hcompare : ∀ {w : Nat} (hw : w ≤ 16) (actual expected : Mem (BitVec w)) (count : Nat),
      modbusMasterVerifyReadback c r = compareReadback { c with
        mismatchIndex := modbusMasterNoMismatch
        mismatchExpected := 0
        mismatchActual := 0 } actual expected count →
      (c.comparison r = (List.range count).map fun i =>
        ((expected i).setWidth 16,(actual i).setWidth 16)) →
      (∃ i e a, (modbusMasterVerifyReadback c r).2 =
        { c with
          mismatchIndex := i
          mismatchExpected := e
          mismatchActual := a }) ∧
      ((modbusMasterVerifyReadback c r).1 = true → ∀ p ∈ c.comparison r, p.1 = p.2) ∧
      ((modbusMasterVerifyReadback c r).1 = false →
        (modbusMasterVerifyReadback c r).2.Mismatch r) := by
    intro w hw actual expected count hverify hpairs
    obtain ⟨hmatch,hdiffer⟩ := compareReadback_spec hw { c with
      mismatchIndex := modbusMasterNoMismatch
      mismatchExpected := 0
      mismatchActual := 0 } actual expected count
    rw [← hverify] at hmatch hdiffer
    rw [← hpairs] at hmatch hdiffer
    cases hresult : (modbusMasterVerifyReadback c r).1 with
    | true =>
      obtain ⟨hc,hequal⟩ := hmatch hresult
      exact ⟨⟨_,_,_,hc⟩,fun _ => hequal,fun h => absurd h (by simp)⟩
    | false =>
      obtain ⟨before,e,a,after,hsplit,hbefore,hne,hc⟩ := hdiffer hresult
      refine ⟨⟨_,_,_,hc⟩,fun h => absurd h (by simp),fun _ => ?_⟩
      rw [hc]
      exact ⟨before,e,a,after,hsplit,hbefore,hne,rfl,rfl,rfl⟩
  by_cases h05 : c.currentTest = .fc05
  · exact hcompare (by decide) r.coils c.expectedCoils 1 (if_pos h05) (if_pos h05)
  by_cases h0F : c.currentTest = .fc0F
  · exact hcompare (by decide) r.coils c.expectedCoils modbusMasterTestQuantity
      ((if_neg h05).trans (if_pos h0F)) ((if_neg h05).trans (if_pos h0F))
  have hverify : modbusMasterVerifyReadback c r = compareReadback { c with
      mismatchIndex := modbusMasterNoMismatch
      mismatchExpected := 0
      mismatchActual := 0 } r.holdingRegisters c.expectedRegisters
      (if c.currentTest = .fc06 then 1 else modbusMasterTestQuantity) :=
    (if_neg h05).trans (if_neg h0F)
  refine hcompare (by decide) _ _ _ hverify ?_
  unfold TestCycle.comparison
  rw [if_neg h05,if_neg h0F]
  split <;> simp

end Reading

/-! The steps of the main loop. -/

section Loop
variable {a : MasterApp}

theorem finalCall_eq {c : TestCycle} (hstep : c.testStep = .request ∧
    modbusMasterTestIsWrite c.currentTest ≠ true ∨
    c.testStep = .verifyReadback ∧ modbusMasterTestIsWrite c.currentTest = true) :
    c.finalCall = c.sentCall := by
  unfold TestCycle.finalCall TestCycle.sentCall
  rcases hstep with ⟨hstep,hwrite⟩ | ⟨hstep,hwrite⟩ <;> simp [hstep,hwrite]

theorem MasterApp.Running.finalRead (h : a.Running) (hstep : a.cycle.testStep = .request ∧
    modbusMasterTestIsWrite a.cycle.currentTest ≠ true ∨
    a.cycle.testStep = .verifyReadback ∧ modbusMasterTestIsWrite a.cycle.currentTest = true) :
    ∃ b : BuiltCall, a.cycle.finalCall = some b.call ∧ a.transaction.Carries b ∧
      b.call.isHarnessRead := by
  obtain ⟨b,hcall,hcarries⟩ := h.carries
  refine ⟨b,(finalCall_eq hstep).trans hcall,hcarries,?_⟩
  rcases hstep with ⟨hstep,hwrite⟩ | ⟨hstep,hwrite⟩
  · refine requestCall_isHarnessRead h.valid hwrite ?_
    rw [← hcall]
    simp [TestCycle.sentCall,hstep]
  · have he : a.cycle.readbackCall = b.call := by simpa [TestCycle.sentCall,hstep] using hcall
    rw [← he]
    exact readbackCall_isHarnessRead _

theorem mapTerminalResult_reports (hdriven : a.transaction.Driven)
    (hfailed : a.transaction.state = .failed ∨ a.transaction.state = .cancelled) :
    a.Reports (modbusMasterMapTerminalResult a.transaction) := by
  have hallowed := hdriven.allowed
  unfold modbusMasterMapTerminalResult
  rcases hfailed with h | h
  · rw [h] at hallowed
    cases hr : a.transaction.result <;> rw [hr] at hallowed <;> first | exact hr | exact hallowed.elim
  · rw [h] at hallowed
    cases hr : a.transaction.result <;> rw [hr] at hallowed <;> exact hallowed.elim

/-! The branches of `modbus_master_handle_terminal_transaction`. -/

structure TestCycle.SameTest (c c' : TestCycle) : Prop where
  currentTest : c'.currentTest = c.currentTest
  requestCall : c'.requestCall = c.requestCall

/-- A cycle ends with a verdict, or goes on to read back what it wrote, or the transaction is not
over. -/
inductive TerminalHandled (a : MasterApp) (now : Word32) (x : StartHardware) : MasterApp → Prop
  | kept : TerminalHandled a now x a
  | ended (a' : MasterApp) (result : TestResult) (huart : a'.uart = a.uart)
      (ht : a'.transaction = a.transaction) (hlog : a'.log = a.log)
      (htest : a.cycle.SameTest a'.cycle)
      (hstate : a.transaction.state = .complete ∨ a.transaction.state = .failed ∨
        a.transaction.state = .cancelled)
      (hread : result = .pass ∨ result = .verifyError → ¬ (a.cycle.testStep = .request ∧
        modbusMasterTestIsWrite a.cycle.currentTest = true)) :
      TerminalHandled a now x (modbusMasterFinishCycle a' result now)
  | readback (hactive : a.cycle.active ≠ 0#8) (hcomplete : a.transaction.state = .complete)
      (hsuccess : a.transaction.result = .success) (hstep : a.cycle.testStep = .request)
      (hwrite : modbusMasterTestIsWrite a.cycle.currentTest = true) :
      TerminalHandled a now x (modbusMasterStartCurrentStep
        { a with cycle := { a.cycle with testStep := .verifyReadback } } now x)

theorem mapTerminalResult_unverified (t : Transaction) :
    ¬ (modbusMasterMapTerminalResult t = .pass ∨
      modbusMasterMapTerminalResult t = .verifyError) := by
  unfold modbusMasterMapTerminalResult
  split <;> simp

theorem terminal_handled (a : MasterApp) (now : Word32) (x : StartHardware) :
    TerminalHandled a now x (modbusMasterHandleTerminalTransaction a now x) := by
  by_cases hactive : a.cycle.active = 0#8
  · rw [show modbusMasterHandleTerminalTransaction a now x = a from if_pos hactive]
    exact .kept
  unfold modbusMasterHandleTerminalTransaction
  rw [if_neg hactive]
  by_cases hcomplete : a.transaction.state = .complete
  · rw [if_pos hcomplete]
    split
    · exact .ended a _ rfl rfl rfl ⟨rfl,rfl⟩ (.inl hcomplete) (by simp)
    split
    · exact .ended a _ rfl rfl rfl ⟨rfl,rfl⟩ (.inl hcomplete) (by simp)
    rename_i hsuccess
    split
    · rename_i hwrite
      exact .readback hactive hcomplete (not_not.mp hsuccess) hwrite.1 hwrite.2
    rename_i hread
    dsimp only
    split
    · exact .ended _ _ rfl rfl rfl ⟨rfl,rfl⟩ (.inl hcomplete) (by simp)
    split
    · obtain ⟨⟨i,e,d,hc⟩,-⟩ := modbusMasterVerifyReadback_spec a.cycle
        (modbusMasterDecodeReadResponse a.transaction a.readings).2
      rw [hc]
      split
      · exact .ended _ _ rfl rfl rfl ⟨rfl,rfl⟩ (.inl hcomplete) fun _ => hread
      · exact .ended _ _ rfl rfl rfl ⟨rfl,rfl⟩ (.inl hcomplete) fun _ => hread
    · exact .ended _ _ rfl rfl rfl ⟨rfl,rfl⟩ (.inl hcomplete) fun _ => hread
  · rw [if_neg hcomplete]
    split
    · rename_i hfailed
      exact .ended a _ rfl rfl rfl ⟨rfl,rfl⟩ (.inr hfailed)
        fun hverified => (mapTerminalResult_unverified _ hverified).elim
    · exact .kept

theorem MasterApp.Sound.readback (h : a.Sound) (hactive : a.cycle.active ≠ 0#8)
    (hcomplete : a.transaction.state = .complete)
    (hwrite : modbusMasterTestIsWrite a.cycle.currentTest = true) :
    MasterApp.Poised { a with cycle := { a.cycle with testStep := .verifyReadback } } := by
  have hrunning := h.running hactive
  refine ⟨h.transaction,h.idle_pending ?_,h.counted.test rfl ⟨rfl,rfl,rfl,rfl,rfl,rfl,rfl⟩,hactive,
    ?_,hrunning.valid,.inr ⟨rfl,hwrite⟩,hrunning.unreported⟩
  · simp [hcomplete]
  · show stateIsActive a.transaction.state = false
    rw [hcomplete]
    rfl

theorem MasterApp.Sound.terminal (h : a.Sound) (now : Word32) (x : StartHardware) :
    (modbusMasterHandleTerminalTransaction a now x).Sound := by
  by_cases hactive : a.cycle.active = 0#8
  · rw [show modbusMasterHandleTerminalTransaction a now x = a from if_pos hactive]
    exact h
  have hrunning := h.running hactive
  have hdriven := h.transaction
  unfold modbusMasterHandleTerminalTransaction
  rw [if_neg hactive]
  by_cases hcomplete : a.transaction.state = .complete
  · have hinactive : stateIsActive a.transaction.state = false := by rw [hcomplete]; rfl
    have hpending := h.idle_pending (by simp [hcomplete])
    have hfinish : ∀ {result}, a.Reports result → (modbusMasterFinishCycle a result now).Sound :=
      fun hr => .finish hdriven h.counted hactive hpending hinactive hr
    rw [if_pos hcomplete]
    split
    · rename_i hexception
      exact hfinish hexception
    · rename_i hexception
      split
      · rename_i hsuccess
        have hallowed := hdriven.allowed
        rw [hcomplete] at hallowed
        cases hr : a.transaction.result <;> simp_all [TransactionState.allows]
      · rename_i hsuccess
        have hsuccess := not_not.mp hsuccess
        split
        · rename_i hwrite
          exact (h.readback hactive hcomplete hwrite.2).start now x
        · rename_i hread
          have hstep : a.cycle.testStep = .request ∧
              modbusMasterTestIsWrite a.cycle.currentTest ≠ true ∨
              a.cycle.testStep = .verifyReadback ∧
                modbusMasterTestIsWrite a.cycle.currentTest = true := by
            have := hrunning.step
            tauto
          obtain ⟨b,hfinal,hcarries,hharness⟩ := hrunning.finalRead hstep
          obtain ⟨hok,hdecoded⟩ :=
            modbusMasterDecodeReadResponse_ok hdriven hsuccess hcarries hharness a.readings
          generalize modbusMasterDecodeReadResponse a.transaction a.readings = out at hok hdecoded ⊢
          obtain ⟨result,readings⟩ := out
          dsimp only at hok hdecoded ⊢
          rw [if_neg (not_not.mpr hok)]
          split
          · rename_i hverify
            have hwrite : modbusMasterTestIsWrite a.cycle.currentTest = true := by
              rcases hstep with ⟨hstep,-⟩ | ⟨-,hwrite⟩
              · rw [hverify] at hstep
                cases hstep
              · exact hwrite
            obtain ⟨⟨i,e,d,hc⟩,hequal,hdiffer⟩ := modbusMasterVerifyReadback_spec a.cycle readings
            generalize modbusMasterVerifyReadback a.cycle readings = out at hc hequal hdiffer ⊢
            obtain ⟨matched,c⟩ := out
            dsimp only at hc hequal hdiffer ⊢
            subst hc
            split
            · rename_i hno
              refine .finish hdriven (h.counted.test rfl ⟨rfl,rfl,rfl,rfl,rfl,rfl,rfl⟩) hactive
                hpending hinactive
                ⟨⟨hsuccess,⟨b,hfinal,hcarries⟩,hdecoded⟩,hwrite,hdiffer (by simpa using hno)⟩
            · rename_i hyes
              refine .finish hdriven (h.counted.test rfl ⟨rfl,rfl,rfl,rfl,rfl,rfl,rfl⟩) hactive
                hpending hinactive
                ⟨⟨hsuccess,⟨b,hfinal,hcarries⟩,hdecoded⟩,fun _ => hequal (by simpa using hyes)⟩
          · rename_i hverify
            refine .finish hdriven (h.counted.test rfl ⟨rfl,rfl,rfl,rfl,rfl,rfl,rfl⟩) hactive
              hpending hinactive
              ⟨⟨hsuccess,⟨b,hfinal,hcarries⟩,hdecoded⟩,fun hwrite => ?_⟩
            rcases hstep with ⟨-,hno⟩ | ⟨hstep,-⟩
            · exact absurd hwrite hno
            · exact absurd hstep hverify
  · rw [if_neg hcomplete]
    split
    · rename_i hfailed
      refine .finish hdriven h.counted hactive (h.idle_pending ?_) ?_
        (mapTerminalResult_reports hdriven hfailed)
      · rcases hfailed with h | h <;> simp [h]
      · rcases hfailed with h | h <;> rw [h] <;> rfl
    · exact h

theorem cycleStarted_cycles (a : MasterApp) (checked test : MasterTest) :
    (a.emit (.cycleStarted checked test)).cycles = a.cycles ++ [.cycleStarted checked test] := by
  simp [MasterApp.cycles,MasterApp.emit,MasterEvent.isCall]

theorem cycleFinished_cycles (a : MasterApp) (result : TestResult) :
    (a.emit (.cycleFinished result)).cycles = a.cycles ++ [.cycleFinished result] := by
  simp [MasterApp.cycles,MasterApp.emit,MasterEvent.isCall]

theorem MasterApp.Counted.begun (h : a.Counted) (hactive : a.cycle.active = 0#8) {a' : MasterApp}
    {checked test : MasterTest} (hcycles : a'.cycles = a.cycles ++ [.cycleStarted checked test])
    (hvalid : modbusMasterTestIsValid test = true) (hactive' : a'.cycle.active ≠ 0#8)
    (hstarted : a'.cycle.started = a.cycle.started+1)
    (hsame : a'.cycle.completed = a.cycle.completed ∧ a'.cycle.passed = a.cycle.passed ∧
      a'.cycle.failed = a.cycle.failed ∧ a'.cycle.buildErrors = a.cycle.buildErrors ∧
      a'.cycle.decodeErrors = a.cycle.decodeErrors) : a'.Counted := by
  obtain ⟨hcompleted,hpassed,hfailed,hbuild,hdecode⟩ := hsame
  obtain ⟨n,hpaired⟩ := h.paired
  rw [if_pos hactive,List.append_nil] at hpaired
  refine ⟨?_,?_,?_,?_,?_,hdecode.trans h.decodeErrors,n,?_⟩
  · simp [hcycles,hstarted,h.started,List.countP_append,MasterEvent.isStarted,BitVec.ofNat_add]
  · simp [hcycles,hcompleted,h.completed,List.countP_append,MasterEvent.isFinished]
  · simp [hcycles,hpassed,h.passed,List.countP_append,MasterEvent.isPassed]
  · simp [hcycles,hfailed,h.failed,List.countP_append,MasterEvent.isFailed,MasterEvent.isFinished]
  · simp [hcycles,hbuild,h.buildErrors,List.countP_append,MasterEvent.isSpoilt,hvalid]
  · rw [hcycles,List.map_append,hpaired,if_neg hactive']
    rfl

theorem MasterApp.Counted.refused (h : a.Counted) (hactive : a.cycle.active = 0#8) {a' : MasterApp}
    {checked test : MasterTest} {result : TestResult} (hresult : result ≠ .pass)
    (hcycles : a'.cycles =
      a.cycles ++ [.cycleStarted checked test] ++ [.cycleFinished result])
    (hactive' : a'.cycle.active = 0#8) (hstarted : a'.cycle.started = a.cycle.started+1)
    (hcompleted : a'.cycle.completed = a.cycle.completed+1)
    (hpassed : a'.cycle.passed = a.cycle.passed) (hfailed : a'.cycle.failed = a.cycle.failed+1)
    (hbuild : a'.cycle.buildErrors = a.cycle.buildErrors+
      if (MasterEvent.cycleStarted checked test).isSpoilt then 1 else 0)
    (hdecode : a'.cycle.decodeErrors = a.cycle.decodeErrors) : a'.Counted := by
  obtain ⟨n,hpaired⟩ := h.paired
  rw [if_pos hactive,List.append_nil] at hpaired
  refine ⟨?_,?_,?_,?_,?_,hdecode.trans h.decodeErrors,n+1,?_⟩
  · rw [hcycles,hstarted,h.started]
    simp [List.countP_append,List.countP_cons,MasterEvent.isStarted,BitVec.ofNat_add]
  · rw [hcycles,hcompleted,h.completed]
    simp [List.countP_append,List.countP_cons,MasterEvent.isFinished,BitVec.ofNat_add]
  · rw [hcycles,hpassed,h.passed]
    simp [List.countP_append,MasterEvent.isPassed,hresult]
  · rw [hcycles,hfailed,h.failed]
    simp [List.countP_append,MasterEvent.isFailed,MasterEvent.isFinished,MasterEvent.isPassed,
      hresult,BitVec.ofNat_add]
  · rw [hcycles,hbuild,h.buildErrors,List.countP_append,List.countP_append,List.countP_singleton,
      BitVec.ofNat_add]
    split <;> simp [MasterEvent.isSpoilt,BitVec.ofNat_add]
  · rw [hcycles,List.map_append,List.map_append,hpaired,if_pos hactive',List.append_nil,
      ← pairs_snoc]
    rfl

theorem takeSelectedTest_valid {checked : MasterTest}
    (hvalid : modbusMasterTestIsValid checked = true) (now : Word32) (x : StartHardware) :
    takeSelectedTest a checked now x = modbusMasterStartCurrentStep (beginTest a checked) now x :=
  if_neg (not_not.mpr hvalid)

theorem MasterApp.Sound.beginTest (h : a.Sound) (hactive : a.cycle.active = 0#8) (checked : MasterTest)
    (hvalid : modbusMasterTestIsValid a.settings.selectedTest = true) :
    (beginTest a checked).Poised := by
  obtain ⟨hstep,hinactive,-⟩ := h.resting hactive
  have hno : a.transaction.state ≠ .transmitting := by
    intro h
    simp [h,stateIsActive] at hinactive
  have ha : (1 : Byte) ≠ 0#8 := by decide
  exact ⟨h.transaction,h.idle_pending hno,
    h.counted.begun hactive (cycleStarted_cycles _ _ _) hvalid ha rfl ⟨rfl,rfl,rfl,rfl,rfl⟩,ha,
    hinactive,hvalid,.inl rfl,rfl⟩

theorem modbusMasterBuildRequest_invalid {c : TestCycle} (settings : MasterSettings)
    (hstep : c.testStep = .request) (hinvalid : modbusMasterTestIsValid c.currentTest = false) :
    modbusMasterBuildRequest c settings = c.storeBuilt (.refuse .errorFunction) := by
  have hno := of_decide_eq_false hinvalid
  simp only [not_or] at hno
  obtain ⟨h01,h02,h03,h04,h05,h06,h0F,h10⟩ := hno
  have hexpect : c.expect settings = c := by
    unfold TestCycle.expect
    rw [if_neg h05,if_neg h06,if_neg h0F,if_neg h10]
  have hcall : c.requestCall = none := by
    unfold TestCycle.requestCall
    rw [if_neg (by tauto),if_neg (by tauto),if_neg h05,if_neg h06,if_neg h0F,if_neg h10]
  unfold modbusMasterBuildRequest
  rw [if_neg (by simp [hstep]),hexpect]
  dsimp only
  rw [hcall]

def MasterApp.spoilt (a : MasterApp) (checked : MasterTest) (now : Word32) : MasterApp :=
  let c := ((beginTest a checked).cycle.storeBuilt (.refuse .errorFunction)).2
  modbusMasterFinishCycle
    (MasterApp.setProtocolResult
      { beginTest a checked with cycle := { c with buildErrors := c.buildErrors+1 } }
      (.master .errorFunction)) .buildError now

theorem takeSelectedTest_spoilt {checked : MasterTest}
    (hvalid : modbusMasterTestIsValid checked = true)
    (htest : modbusMasterTestIsValid a.settings.selectedTest = false) (now : Word32)
    (x : StartHardware) : takeSelectedTest a checked now x = a.spoilt checked now := by
  rw [takeSelectedTest_valid hvalid]
  unfold modbusMasterStartCurrentStep
  rw [modbusMasterBuildRequest_invalid (c := (beginTest a checked).cycle) _ rfl htest]
  exact if_pos (by decide)

theorem MasterApp.Sound.refused {a' : MasterApp} (h : a.Sound) (hactive : a.cycle.active = 0#8)
    (hcounted : a'.Counted) (htransaction : a'.transaction = a.transaction)
    (hpending : a'.uart.txCompletePending = a.uart.txCompletePending)
    (hactive' : a'.cycle.active = 0#8) (hstep : a'.cycle.testStep = .idle)
    (hreports : a'.Reports a'.cycle.lastResult) : a'.Sound := by
  refine ⟨?_,?_,hcounted,fun hno => absurd hactive' hno,fun _ => ⟨hstep,?_,hreports⟩⟩
  · rw [htransaction]
    exact h.transaction
  · rw [htransaction,hpending]
    exact h.transmitting
  · rw [htransaction]
    exact (h.resting hactive).inactive

theorem MasterApp.Sound.spoilt (h : a.Sound) (hactive : a.cycle.active = 0#8)
    {checked : MasterTest} (hvalid : modbusMasterTestIsValid checked = true)
    (htest : modbusMasterTestIsValid a.settings.selectedTest = false) (now : Word32) :
    (a.spoilt checked now).Sound := by
  have hcycles : (a.spoilt checked now).cycles = a.cycles ++
      [.cycleStarted checked a.settings.selectedTest] ++ [.cycleFinished .buildError] := by
    unfold MasterApp.spoilt
    rw [finishCycle_cycles]
    exact congrArg (· ++ _) (cycleStarted_cycles a checked a.settings.selectedTest)
  have hspoilt : (MasterEvent.cycleStarted checked a.settings.selectedTest).isSpoilt = true := by
    simp [MasterEvent.isSpoilt,hvalid,htest]
  refine h.refused hactive (h.counted.refused hactive (by simp) hcycles rfl rfl rfl rfl rfl ?_ rfl)
    rfl rfl rfl rfl ⟨checked,?_,hvalid,htest⟩
  · rw [if_pos hspoilt]
    rfl
  · unfold MasterApp.selections
    rw [hcycles]
    simp [MasterEvent.selection?]
    rfl

theorem MasterApp.Sound.refuseTest (h : a.Sound) (hactive : a.cycle.active = 0#8)
    {checked : MasterTest} (hinvalid : modbusMasterTestIsValid checked = false) (now : Word32) :
    (refuseTest a checked now).Sound := by
  have hcycles : (ModbusStack.refuseTest a checked now).cycles = a.cycles ++
      [.cycleStarted checked a.settings.selectedTest] ++ [.cycleFinished .invalidTest] := by
    unfold ModbusStack.refuseTest
    rw [cycleFinished_cycles,cycleStarted_cycles]
    rfl
  have hspoilt : ¬ (MasterEvent.cycleStarted checked a.settings.selectedTest).isSpoilt = true := by
    simp [MasterEvent.isSpoilt,hinvalid]
  refine h.refused hactive (h.counted.refused hactive (by simp) hcycles hactive rfl rfl rfl rfl ?_
    rfl) rfl rfl hactive (h.resting hactive).step ⟨checked,?_,hinvalid⟩
  · rw [if_neg hspoilt]
    exact (BitVec.add_zero _).symm
  · unfold MasterApp.selections
    rw [hcycles]
    simp [MasterEvent.selection?]
    rfl

theorem MasterApp.Sound.takeSelectedTest (h : a.Sound) (hactive : a.cycle.active = 0#8)
    (checked : MasterTest) (now : Word32) (x : StartHardware) :
    (takeSelectedTest a checked now x).Sound := by
  by_cases hvalid : modbusMasterTestIsValid checked = true
  · cases htest : modbusMasterTestIsValid a.settings.selectedTest with
    | true =>
      rw [takeSelectedTest_valid hvalid]
      exact (h.beginTest hactive checked htest).start now x
    | false =>
      rw [takeSelectedTest_spoilt hvalid htest]
      exact h.spoilt hactive hvalid htest now
  · have hinvalid : modbusMasterTestIsValid checked = false := by simpa using hvalid
    rw [show ModbusStack.takeSelectedTest a checked now x = ModbusStack.refuseTest a checked now from
      if_pos hvalid]
    exact h.refuseTest hactive hinvalid now

theorem startDueCycle_spec (a : MasterApp) (now : Word32) : startDueCycle a now = (none,a) ∨
    ∃ force, a.cycle.active = 0#8 ∧
      startDueCycle a now = (some a.settings.selectedTest,{ a with forceRequest := force }) := by
  by_cases hactive : a.cycle.active = 0#8
  · have hchecked : checkSelectedTest a = some a.settings.selectedTest :=
      if_neg (not_not.mpr hactive)
    unfold startDueCycle
    rw [hchecked,if_neg (not_not.mpr hactive)]
    split
    · exact .inr ⟨0,hactive,rfl⟩
    · split
      · exact .inr ⟨a.forceRequest,hactive,rfl⟩
      · exact .inl rfl
  · exact .inl (if_pos hactive)

/-- The invariant of the main loop: between the two readings of the selection no cycle is going
on. -/
structure MasterLoop.Sound (m : MasterLoop) : Prop where
  app : m.app.Sound
  taking : ∀ checked now, m.phase = .takeTest checked now → m.app.cycle.active = 0#8

theorem MasterLoop.Sound.process {m : MasterLoop} (h : m.Sound) (x : MasterHardware) :
    (modbusMasterProcessStep m x).Sound := by
  obtain ⟨a,phase⟩ := m
  have ha : a.Sound := h.app
  cases phase with
  | outside =>
    unfold modbusMasterProcessStep
    dsimp only
    split
    · exact h
    · exact ⟨ha.armed _ _,fun _ _ hp => by cases hp⟩
  | txComplete => exact ⟨ha.handleTxComplete.1,fun _ _ hp => by cases hp⟩
  | takeFrame =>
    have htaken := ha.takeFrame
    unfold modbusMasterProcessStep
    dsimp only
    generalize takePendingFrame a = out at htaken
    obtain ⟨f,a'⟩ := out
    cases f <;> exact ⟨htaken,fun _ _ hp => by cases hp⟩
  | handFrame f now => exact ⟨ha.handFrame _ _,fun _ _ hp => by cases hp⟩
  | uartError now =>
    have htaken := ha.takeUartError
    unfold modbusMasterProcessStep
    dsimp only
    generalize takeUartError a = out at htaken
    obtain ⟨noted,a'⟩ := out
    cases noted <;> exact ⟨htaken,fun _ _ hp => by cases hp⟩
  | resetReceiver now => exact ⟨ha.resetReceiver,fun _ _ hp => by cases hp⟩
  | reportError now => exact ⟨ha.reportUartError now,fun _ _ hp => by cases hp⟩
  | poll now => exact ⟨ha.poll _ _,fun _ _ hp => by cases hp⟩
  | txCompleteAgain now => exact ⟨ha.handleTxComplete.1,fun _ _ hp => by cases hp⟩
  | sync now => exact ⟨ha.sync,fun _ _ hp => by cases hp⟩
  | terminal now => exact ⟨ha.terminal _ _,fun _ _ hp => by cases hp⟩
  | syncAgain now => exact ⟨ha.sync,fun _ _ hp => by cases hp⟩
  | startDue now =>
    unfold modbusMasterProcessStep
    dsimp only
    rcases startDueCycle_spec a now with he | ⟨force,hactive,he⟩
    · rw [he]
      exact ⟨ha,fun _ _ hp => by cases hp⟩
    · rw [he]
      exact ⟨ha.still ⟨rfl,rfl,rfl⟩ rfl rfl,fun _ _ _ => hactive⟩
  | takeTest checked now =>
    exact ⟨ha.takeSelectedTest (h.taking checked now rfl) checked now x.start,
      fun _ _ hp => by cases hp⟩

theorem MasterLoop.Sound.step {m : MasterLoop} (h : m.Sound) (x : MasterInput) :
    (masterLoopStep m x).2.Sound := by
  cases x with
  | interrupt i => exact ⟨h.app.interrupted [i],h.taking⟩
  | edit settings => exact ⟨h.app.still ⟨rfl,rfl,rfl⟩ rfl rfl,h.taking⟩
  | requestNow => exact ⟨h.app.still ⟨rfl,rfl,rfl⟩ rfl rfl,h.taking⟩
  | process hardware => exact h.process hardware

/-! The selections. -/

theorem MasterApp.SameCycle.selections {a' : MasterApp} (h : a.SameCycle a') :
    a'.selections = a.selections := by
  unfold MasterApp.selections
  rw [h.cycles]

theorem startCurrentStep_selections (a : MasterApp) (now : Word32) (x : StartHardware) :
    (modbusMasterStartCurrentStep a now x).selections = a.selections := by
  unfold modbusMasterStartCurrentStep
  generalize modbusMasterBuildRequest a.cycle a.settings = built
  obtain ⟨result,c⟩ := built
  dsimp only
  have hcalled := (call_sameCycle { a with cycle := c } x.transmission
    (.start (some c.request) (some c.requestAdu) c.requestAduLength now)).selections
  split
  · exact finishCycle_selections _ _ _
  · split
    · exact (finishCycle_selections _ _ _).trans hcalled
    · rw [(sync_sameCycle _).1.selections,(interrupted_sameCycle _ _).selections,
        (handleTxComplete_sameCycle _).selections,(interrupted_sameCycle _ _).selections]
      exact hcalled

theorem terminal_selections (a : MasterApp) (now : Word32) (x : StartHardware) :
    (modbusMasterHandleTerminalTransaction a now x).selections = a.selections := by
  have h := terminal_handled a now x
  generalize modbusMasterHandleTerminalTransaction a now x = a' at h ⊢
  cases h with
  | kept => rfl
  | ended b result huart ht hlog =>
    rw [finishCycle_selections,MasterApp.selections,MasterApp.cycles,hlog]
    rfl
  | readback => exact startCurrentStep_selections _ _ _

theorem takeSelectedTest_selections (a : MasterApp) (checked : MasterTest) (now : Word32)
    (x : StartHardware) : (takeSelectedTest a checked now x).selections =
      a.selections ++ [(checked,a.settings.selectedTest)] := by
  have hbegun (a : MasterApp) (test : MasterTest) :
      (a.emit (.cycleStarted checked test)).selections = a.selections ++ [(checked,test)] := by
    unfold MasterApp.selections
    rw [cycleStarted_cycles,List.filterMap_append]
    rfl
  unfold takeSelectedTest
  split
  · have hrefused (a : MasterApp) : (a.emit (.cycleFinished .invalidTest)).selections =
        a.selections := by
      unfold MasterApp.selections
      rw [cycleFinished_cycles,List.filterMap_append]
      exact List.append_nil _
    exact (hrefused _).trans (hbegun _ _)
  · exact (startCurrentStep_selections _ _ _).trans (hbegun _ _)

/-- The two readings of every selection agree, as far as they have been made. -/
structure MasterLoop.Undisturbed (m : MasterLoop) : Prop where
  taken : ∀ p ∈ m.app.selections, p.1 = p.2
  taking : ∀ checked now, m.phase = .takeTest checked now →
    m.app.settings.selectedTest = checked

def SelectionKept (r : Record MasterLoop MasterInput (List MasterEvent)) : Prop :=
  ∀ checked now settings, r.before.phase = .takeTest checked now → r.input = .edit settings →
    settings.selectedTest = checked

theorem MasterLoop.Undisturbed.process {m : MasterLoop} (h : m.Undisturbed) (x : MasterHardware) :
    (modbusMasterProcessStep m x).Undisturbed := by
  obtain ⟨a,phase⟩ := m
  have htaken : ∀ p ∈ a.selections, p.1 = p.2 := h.taken
  -- a statement that begins no cycle
  have hsame {m' : MasterLoop} (hselections : m'.app.selections = a.selections)
      (hphase : ∀ checked now, m'.phase ≠ .takeTest checked now) : m'.Undisturbed :=
    ⟨by rw [hselections]; exact htaken,fun checked now hp => absurd hp (hphase checked now)⟩
  cases phase with
  | outside =>
    unfold modbusMasterProcessStep
    dsimp only
    split
    · exact h
    · exact hsame rfl fun _ _ hp => by cases hp
  | txComplete => exact hsame (handleTxComplete_sameCycle a).selections fun _ _ hp => by cases hp
  | takeFrame =>
    have hframe := (takeFrame_sameCycle a).selections
    unfold modbusMasterProcessStep
    dsimp only
    generalize takePendingFrame a = out at hframe
    obtain ⟨f,a'⟩ := out
    cases f <;> exact hsame hframe fun _ _ hp => by cases hp
  | handFrame f now => exact hsame (handFrame_sameCycle a f now).selections fun _ _ hp => by cases hp
  | uartError now =>
    have hnoted := (takeUartError_sameCycle a).selections
    unfold modbusMasterProcessStep
    dsimp only
    generalize takeUartError a = out at hnoted
    obtain ⟨noted,a'⟩ := out
    cases noted <;> exact hsame hnoted fun _ _ hp => by cases hp
  | resetReceiver now => exact hsame rfl fun _ _ hp => by cases hp
  | reportError now => exact hsame (reportUartError_sameCycle a now).selections fun _ _ hp => by cases hp
  | poll now => exact hsame (call_sameCycle a _ _).selections fun _ _ hp => by cases hp
  | txCompleteAgain now => exact hsame (handleTxComplete_sameCycle a).selections fun _ _ hp => by cases hp
  | sync now => exact hsame (sync_sameCycle a).1.selections fun _ _ hp => by cases hp
  | terminal now => exact hsame (terminal_selections a now x.start) fun _ _ hp => by cases hp
  | syncAgain now => exact hsame (sync_sameCycle a).1.selections fun _ _ hp => by cases hp
  | startDue now =>
    unfold modbusMasterProcessStep
    dsimp only
    rcases startDueCycle_spec a now with he | ⟨force,-,he⟩
    · rw [he]
      exact hsame rfl fun _ _ hp => by cases hp
    · rw [he]
      refine ⟨htaken,fun checked now' hp => ?_⟩
      cases hp
      rfl
  | takeTest checked now =>
    refine ⟨fun p hp => ?_,fun _ _ hp => by cases hp⟩
    have hp : p ∈ (takeSelectedTest a checked now x.start).selections := hp
    rw [takeSelectedTest_selections] at hp
    rcases List.mem_append.mp hp with hp | hp
    · exact htaken p hp
    · obtain rfl := List.mem_singleton.mp hp
      exact (h.taking checked now rfl).symm

theorem MasterLoop.Undisturbed.run {m : MasterLoop} (h : m.Undisturbed) (inputs : List MasterInput)
    (hkept : ∀ r ∈ records masterLoopStep m inputs, SelectionKept r) :
    (run masterLoopStep m inputs).Undisturbed := by
  induction inputs generalizing m with
  | nil => exact h
  | cons x inputs ih =>
    refine ih ?_ fun r hr => hkept r (List.mem_cons_of_mem _ hr)
    have hfirst := hkept _ List.mem_cons_self
    cases x with
    | interrupt i => exact ⟨h.taken,h.taking⟩
    | edit settings =>
      exact ⟨h.taken,fun checked now hp => hfirst checked now settings hp rfl⟩
    | requestNow => exact ⟨h.taken,h.taking⟩
    | process hardware => exact h.process hardware

/-- Every request is built, and a cycle is refused only for its own test. -/
structure MasterApp.Unspoilt (a : MasterApp) : Prop where
  buildErrors : a.cycle.buildErrors = 0#32
  built : a.cycle.lastResult ≠ .buildError
  refused : a.cycle.lastResult = .invalidTest →
    modbusMasterTestIsValid a.cycle.currentTest = false

theorem MasterApp.Sound.lastResult (h : a.Sound) {result : TestResult} (hresult : result ≠ .none)
    (hlast : a.cycle.lastResult = result) : a.Reports result := by
  by_cases hactive : a.cycle.active = 0#8
  · rw [← hlast]
    exact (h.resting hactive).reports
  · rw [(h.running hactive).unreported] at hlast
    exact absurd hlast.symm hresult

theorem MasterLoop.Undisturbed.unspoilt {m : MasterLoop} (h : m.Undisturbed) (hs : m.app.Sound) :
    m.app.Unspoilt := by
  have hlast {checked test : MasterTest} (hp : m.app.selections.getLast? = some (checked,test)) :
      checked = test := h.taken _ (List.mem_of_getLast? hp)
  refine ⟨?_,fun hbuild => ?_,fun hrefused => ?_⟩
  · have hnone : m.app.cycles.countP MasterEvent.isSpoilt = 0 := by
      refine List.countP_eq_zero.mpr fun e he => ?_
      cases e with
      | cycleStarted checked test =>
        have hagree : checked = test :=
          h.taken (checked,test) (List.mem_filterMap.mpr ⟨_,he,rfl⟩)
        simp [MasterEvent.isSpoilt,hagree]
      | _ => simp [MasterEvent.isSpoilt]
    rw [hs.counted.buildErrors,hnone]
  · obtain ⟨checked,hselected,hvalid,hinvalid⟩ := hs.lastResult (by simp) hbuild
    rw [hlast hselected,hinvalid] at hvalid
    cases hvalid
  · obtain ⟨checked,hselected,hinvalid⟩ := hs.lastResult (by simp) hrefused
    rwa [hlast hselected] at hinvalid

end Loop

/-! The main loop when nothing interrupts it. -/

def MasterLoop.LeadsTo (m : MasterLoop) (h : MasterHardware) (m' : MasterLoop) : Prop :=
  ∃ turns, run masterLoopStep m (List.replicate turns (.process h)) = m'

section Turns
variable {a : MasterApp} {h : MasterHardware} {m m' : MasterLoop}

theorem MasterLoop.LeadsTo.next (hl : (modbusMasterProcessStep m h).LeadsTo h m') :
    m.LeadsTo h m' := by
  obtain ⟨turns,he⟩ := hl
  exact ⟨turns+1,he⟩

theorem MasterLoop.LeadsTo.step {m₁ : MasterLoop} (hl : m₁.LeadsTo h m')
    (he : modbusMasterProcessStep m h = m₁) : m.LeadsTo h m' :=
  .next (by rw [he]; exact hl)

theorem uartError_leads {now : Word32}
    (hl : MasterLoop.LeadsTo ⟨modbusMasterProcessUartError a now,.poll now⟩ h m') :
    MasterLoop.LeadsTo ⟨a,.uartError now⟩ h m' := by
  refine .next ?_
  unfold modbusMasterProcessUartError at hl
  unfold modbusMasterProcessStep
  dsimp only
  generalize takeUartError a = out at hl
  obtain ⟨noted,a'⟩ := out
  cases noted with
  | true => exact .next (.next hl)
  | false => exact hl

theorem startCycle_leads {b : MasterApp} {now : Word32}
    (hdue : startDueCycle a now = (checkSelectedTest b,b)) : MasterLoop.LeadsTo ⟨a,.startDue now⟩ h
      ⟨modbusMasterStartCycle b now h.start,.outside⟩ := by
  refine .next ?_
  unfold modbusMasterProcessStep modbusMasterStartCycle
  dsimp only
  rw [hdue]
  cases checkSelectedTest b with
  | none => exact ⟨0,rfl⟩
  | some checked => exact .next ⟨0,rfl⟩

theorem startDue_leads (a : MasterApp) (h : MasterHardware) (now : Word32) :
    MasterLoop.LeadsTo ⟨a,.startDue now⟩ h ⟨startDue a now h.start,.outside⟩ := by
  have hover (he : startDueCycle a now = (none,a)) :
      MasterLoop.LeadsTo ⟨a,.startDue now⟩ h ⟨a,.outside⟩ := by
    refine .next ⟨0,?_⟩
    unfold modbusMasterProcessStep
    dsimp only
    rw [he]
    rfl
  unfold startDue
  split
  · rename_i hactive
    exact hover (if_pos hactive)
  · rename_i hactive
    split
    · rename_i hforced
      exact startCycle_leads ((if_neg hactive).trans (if_pos hforced))
    · rename_i hforced
      split
      · rename_i hdue
        exact startCycle_leads ((if_neg hactive).trans ((if_neg hforced).trans (if_pos hdue)))
      · rename_i hdue
        exact hover ((if_neg hactive).trans ((if_neg hforced).trans (if_neg hdue)))

theorem poll_leads (a : MasterApp) (h : MasterHardware) : MasterLoop.LeadsTo ⟨a,.poll h.now⟩ h
    ⟨startDue (modbusMasterSyncWatchState (modbusMasterHandleTerminalTransaction
      (modbusMasterSyncWatchState (modbusMasterHandleTxComplete
        (a.call h.start.transmission (.poll h.now)).2)) h.now h.start)) h.now h.start,.outside⟩ := by
  refine .step ?_ (show modbusMasterProcessStep ⟨a,.poll h.now⟩ h =
    ⟨(a.call h.start.transmission (.poll h.now)).2,.txCompleteAgain h.now⟩ from rfl)
  generalize (a.call h.start.transmission (.poll h.now)).2 = a
  refine .step ?_ (show modbusMasterProcessStep ⟨a,.txCompleteAgain h.now⟩ h =
    ⟨modbusMasterHandleTxComplete a,.sync h.now⟩ from rfl)
  generalize modbusMasterHandleTxComplete a = a
  refine .step ?_ (show modbusMasterProcessStep ⟨a,.sync h.now⟩ h =
    ⟨modbusMasterSyncWatchState a,.terminal h.now⟩ from rfl)
  generalize modbusMasterSyncWatchState a = a
  refine .step ?_ (show modbusMasterProcessStep ⟨a,.terminal h.now⟩ h =
    ⟨modbusMasterHandleTerminalTransaction a h.now h.start,.syncAgain h.now⟩ from rfl)
  generalize modbusMasterHandleTerminalTransaction a h.now h.start = a
  refine .step ?_ (show modbusMasterProcessStep ⟨a,.syncAgain h.now⟩ h =
    ⟨modbusMasterSyncWatchState a,.startDue h.now⟩ from rfl)
  exact startDue_leads _ h h.now

/-- The turns of the main loop are the function. -/
theorem modbusMasterProcess_turns (a : MasterApp) (h : MasterHardware)
    (hon : a.uart.initialized ≠ 0#8) :
    MasterLoop.LeadsTo ⟨a,.outside⟩ h ⟨modbusMasterProcess a h,.outside⟩ := by
  unfold modbusMasterProcess
  rw [if_neg hon]
  refine .step ?_ (show modbusMasterProcessStep ⟨a,.outside⟩ h =
    ⟨{ a with uart := modbusMasterEnsureReceiveArmed a.uart h.uartReady h.armed },.txComplete⟩ from
      if_neg hon)
  generalize ({ a with uart := modbusMasterEnsureReceiveArmed a.uart h.uartReady h.armed } :
    MasterApp) = a
  refine .step ?_ (show modbusMasterProcessStep ⟨a,.txComplete⟩ h =
    ⟨modbusMasterHandleTxComplete a,.takeFrame⟩ from rfl)
  dsimp only
  generalize modbusMasterHandleTxComplete a = a
  cases htaken : takePendingFrame a with
  | mk f a' =>
    cases f with
    | some f =>
      refine .step ?_ (show modbusMasterProcessStep ⟨a,.takeFrame⟩ h = ⟨a',.handFrame f h.now⟩ by
        simp only [modbusMasterProcessStep,htaken])
      refine .step ?_ (show modbusMasterProcessStep ⟨a',.handFrame f h.now⟩ h =
        ⟨handResponseFrame a' f h.now,.uartError h.now⟩ from rfl)
      exact uartError_leads (poll_leads _ h)
    | none =>
      refine .step ?_ (show modbusMasterProcessStep ⟨a,.takeFrame⟩ h = ⟨a',.uartError h.now⟩ by
        simp only [modbusMasterProcessStep,htaken])
      exact uartError_leads (poll_leads _ h)

end Turns

/-! The start of the program. -/

theorem MasterApp.ready_sound {timing : RtuTiming} {tick : Word32} {a a₀ : MasterApp}
    (hpower : a.Counted) (hactive : a.cycle.active = 0#8)
    (h : a.ready timing (.initialized modbusMasterConfig) tick true = (true,a₀)) :
    a₀.Sound ∧ a₀.log = a.log := by
  unfold MasterApp.ready at h
  dsimp only at h
  rw [if_neg (by simp)] at h
  obtain rfl := (Prod.mk.inj h).2
  refine ⟨MasterApp.Sound.sync ⟨⟨rfl,rfl,trivial,fun v hv => by cases hv⟩,?_,
    hpower.test rfl ⟨rfl,rfl,rfl,rfl,rfl,rfl,hactive.symm⟩,fun hn => absurd rfl hn,fun _ => ⟨rfl,rfl,rfl⟩⟩,sync_log _⟩
  exact ⟨fun h => (by cases h),fun h => absurd rfl h⟩

theorem modbusMasterInit_sound (tick : Word32) : (modbusMasterInit .powerOn tick true).1 = true ∧
    (modbusMasterInit .powerOn tick true).2.Sound ∧
      (modbusMasterInit .powerOn tick true).2.log = [] := by
  obtain ⟨timing,htiming⟩ : ∃ timing, mbrtuCalculateTiming 115200#32 8#8 0#8 1#8 = .ok timing :=
    ⟨_,rfl⟩
  have hobject : mbrtumTransactionInit (some modbusMasterConfig) true =
      .ok (.initialized modbusMasterConfig) := rfl
  unfold modbusMasterInit
  simp only [htiming,hobject]
  have hready : ∀ a : MasterApp, (a.ready timing (.initialized modbusMasterConfig) tick true).1 = true :=
    fun _ => rfl
  exact ⟨hready _,MasterApp.ready_sound ⟨rfl,rfl,rfl,rfl,rfl,rfl,0,rfl⟩ rfl (Prod.ext (hready _) rfl)⟩

def masterStart (tick : Word32) : MasterLoop := ⟨(modbusMasterInit .powerOn tick true).2,.outside⟩

theorem masterStart_sound (tick : Word32) : (masterStart tick).Sound :=
  ⟨(modbusMasterInit_sound tick).2.1,fun _ _ hp => by cases hp⟩

theorem masterLoop_sound (tick : Word32) (inputs : List MasterInput) :
    (run masterLoopStep (masterStart tick) inputs).Sound :=
  run_invariant MasterLoop.Sound (fun _ x h => h.step x) (masterStart_sound tick) inputs

/-- Whatever interrupts the main loop between its statements, whatever the line brings, and however
the settings are edited: every cycle is over before the next one begins, its result is true of it,
and the counters count the cycles. Only an edit between the two readings of the selection can make
a request that is not built, or refuse a test that is valid. -/
theorem masterLoop_cycles_sound (tick : Word32) (inputs : List MasterInput) :
    (modbusMasterInit .powerOn tick true).1 = true ∧
      (run masterLoopStep (masterStart tick) inputs).app.Sound ∧
      ((∀ r ∈ records masterLoopStep (masterStart tick) inputs, SelectionKept r) →
        (run masterLoopStep (masterStart tick) inputs).app.Unspoilt) := by
  have hsound := (masterLoop_sound tick inputs).app
  refine ⟨(modbusMasterInit_sound tick).1,hsound,fun hkept => ?_⟩
  have hstart : (masterStart tick).Undisturbed := by
    refine ⟨fun p hp => ?_,fun _ _ hp => by cases hp⟩
    unfold MasterApp.selections MasterApp.cycles at hp
    rw [show (masterStart tick).app.log = [] from (modbusMasterInit_sound tick).2.2] at hp
    cases hp
  exact (hstart.run inputs hkept).unspoilt hsound

end ModbusStack
