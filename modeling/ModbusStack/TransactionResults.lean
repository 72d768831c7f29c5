import ModbusStack.TransactionRuns

/-! What the result of a transaction says about the frames that were submitted. -/
set_option autoImplicit false

namespace ModbusStack
open ByteMemory Machine

namespace TransactionRecord
variable (r : TransactionRecord)

/-- A frame that was looked at: submitted while waiting and before the deadline. -/
def Considers (adu : Mem Byte) (length : Nat) : Prop :=
  ∃ now, r.input = .onResponse (some adu) length now ∧ r.before.state = .waitingResponse ∧
    deadlineReached now r.before.deadline = false

/-- Such a frame of impossible length, or one that the validator finds fault with. -/
def Malformed : Prop :=
  ∃ adu length, r.Considers adu length ∧
    (length = 0 ∨ 256 < length ∨ (r.before.validate adu length).1.isMalformed = true)

/-- The end of the transmission, from which the response deadline counts. -/
def SentAt (now : Word32) : Prop := r.input = .onTxComplete now ∧ r.output.1 = .ok

end TransactionRecord

/-- A frame of the current attempt was validated with this result against the descriptor
and the ADU of the transaction, and the object holds that frame and its view. -/
structure Validated (config : TransactionConfig) (t : Transaction)
    (history : List TransactionRecord) (result : MasterResult) (q : TransactionRecord)
    (adu : Mem Byte) (length : Nat) : Prop where
  submitted : q ∈ attemptOf history
  considered : q.Considers adu length
  deadline : ∃ p ∈ attemptOf history, ∃ now, p.SentAt now ∧
    q.before.deadline = now+config.responseTimeoutTicks
  fits : 0 < length ∧ length ≤ 256
  request : t.SameRequest q.before
  verdict : t.validate adu length = (result,t.response)
  stored : t.responseAduLength = length ∧ slice t.responseAdu 0 length = slice adu 0 length
  exceptionCode : t.exceptionCode = t.response.exceptionCode

def Outcome (config : TransactionConfig) (t : Transaction) (history : List TransactionRecord) :
    TransactionResult → Prop
  | .none => True
  | .success => t.request.expectsResponse ≠ 0#8 →
    ∃ q adu length, Validated config t history .ok q adu length
  | .modbusException => ∃ q adu length, Validated config t history .exceptionResponse q adu length
  | .timeout => (∃ q ∈ attemptOf history, q.timesOut = true) ∧
    ∀ q ∈ attemptOf history, ¬ q.Malformed
  | .responseError => (∃ q ∈ attemptOf history, q.timesOut = true) ∧
    ∃ q ∈ attemptOf history, q.Malformed
  | .transportError => ∃ q ∈ attemptOf history, q.transportFails = true
  | .cancelled => ∃ q ∈ attemptOf history, q.input = .cancel ∧ q.output.1 = .ok

structure Explained (config : TransactionConfig) (t : Transaction)
    (history : List TransactionRecord) : Prop where
  errors : t.sawResponseError ≠ 0#8 ↔ ∃ q ∈ attemptOf history, q.Malformed
  waiting : t.state = .waitingResponse → ∃ p ∈ attemptOf history, ∃ now, p.SentAt now ∧
    t.deadline = now+config.responseTimeoutTicks
  clear : t.state = .transmitting ∨ t.state = .waitingResponse → t.exceptionCode = 0#8
  running : stateIsActive t.state = true ∨ t.state = .idle → t.result = .none
  outcome : Outcome config t history t.result

section Verdicts

theorem checkNormalResponse_exceptionCode (request : Request) (requestAdu : Mem Byte)
    (requestAduLength : Nat) (adu : Mem Byte) (length : Nat) :
    (checkNormalResponse request requestAdu requestAduLength adu length).2.exceptionCode = 0#8 := by
  unfold checkNormalResponse checkReadBits checkReadFileRecord checkWriteFileRecord
    checkReadRegisters checkWriteAck checkMaskWriteAck checkExceptionStatus checkDiagnostics
    checkCommEventCounter checkCommEventLog checkServerId checkFifoQueue checkMei checkDeviceId
  dsimp only
  repeat' split
  all_goals rfl

theorem checkResponse_ok_exceptionCode (request : Request) (requestAdu : Mem Byte)
    (requestAduLength : Nat) (adu : Mem Byte) (length : Nat) :
    (checkResponse request requestAdu requestAduLength adu length).1 = .ok →
      (checkResponse request requestAdu requestAduLength adu length).2.exceptionCode = 0#8 := by
  unfold checkResponse
  repeat' split
  all_goals intro h
  all_goals first
    | exact checkNormalResponse_exceptionCode _ _ _ _ _
    | exact absurd h (by simp [reject])

theorem validate_ok_exceptionCode (t : Transaction) (adu : Mem Byte) (length : Nat) :
    (t.validate adu length).1 = .ok → (t.validate adu length).2.exceptionCode = 0#8 := by
  unfold Transaction.validate mbrtumProcessResponseWithRequestAdu
  dsimp only
  repeat' split
  · exact fun _ => rfl
  · exact checkResponse_ok_exceptionCode _ _ _ _ _
  · exact fun _ => rfl

end Verdicts

section Explaining
variable {config : TransactionConfig} {t t' : Transaction} {history : List TransactionRecord}
  {r : TransactionRecord}

theorem Validated.extend {result : MasterResult} {q : TransactionRecord} {adu : Mem Byte}
    {length : Nat} (h : Validated config t history result q adu length)
    (hr : r.transmits = false) : Validated config t (history ++ [r]) result q adu length := by
  obtain ⟨p,hp,hs⟩ := h.deadline
  exact { h with
    submitted := mem_since_snoc hr h.submitted
    deadline := ⟨p,mem_since_snoc hr hp,hs⟩ }

theorem malformed_snoc (history : List TransactionRecord) (hr : r.transmits = false)
    (hm : ¬ r.Malformed) :
    (∃ q ∈ attemptOf (history ++ [r]), q.Malformed) ↔ ∃ q ∈ attemptOf history, q.Malformed := by
  rw [attemptOf_snoc hr]
  constructor
  · rintro ⟨q,hq,hbad⟩
    rcases List.mem_append.mp hq with hq | hq
    · exact ⟨q,hq,hbad⟩
    · rw [List.mem_singleton.mp hq] at hbad
      exact absurd hbad hm
  · rintro ⟨q,hq,hbad⟩
    exact ⟨q,List.mem_append_left _ hq,hbad⟩

theorem Outcome.extend {result : TransactionResult} (h : Outcome config t history result)
    (hr : r.transmits = false) (hm : ¬ r.Malformed) : Outcome config t (history ++ [r]) result := by
  have hmem : ∀ {q : TransactionRecord}, q ∈ attemptOf history → q ∈ attemptOf (history ++ [r]) :=
    fun hq => mem_since_snoc hr hq
  cases result with
  | none => trivial
  | success =>
    intro he
    obtain ⟨q,adu,length,hv⟩ := h he
    exact ⟨q,adu,length,hv.extend hr⟩
  | modbusException =>
    obtain ⟨q,adu,length,hv⟩ := h
    exact ⟨q,adu,length,hv.extend hr⟩
  | timeout =>
    obtain ⟨⟨q,hq,ho⟩,hnone⟩ := h
    refine ⟨⟨q,hmem hq,ho⟩,fun p hp hbad => ?_⟩
    obtain ⟨p,hp,hbad⟩ := (malformed_snoc history hr hm).mp ⟨p,hp,hbad⟩
    exact hnone p hp hbad
  | responseError =>
    obtain ⟨⟨q,hq,ho⟩,hsome⟩ := h
    exact ⟨⟨q,hmem hq,ho⟩,(malformed_snoc history hr hm).mpr hsome⟩
  | transportError =>
    obtain ⟨q,hq,hf⟩ := h
    exact ⟨q,hmem hq,hf⟩
  | cancelled =>
    obtain ⟨q,hq,hc⟩ := h
    exact ⟨q,hmem hq,hc⟩

theorem Explained.quiet (hx : Explained config t history) (hr : r.transmits = false)
    (hm : ¬ r.Malformed) : Explained config t (history ++ [r]) where
  errors := hx.errors.trans (malformed_snoc history hr hm).symm
  waiting := by
    intro hw
    obtain ⟨p,hp,hs⟩ := hx.waiting hw
    exact ⟨p,mem_since_snoc hr hp,hs⟩
  clear := hx.clear
  running := hx.running
  outcome := hx.outcome.extend hr hm

theorem not_malformed_of_input (h : ∀ adu length now, r.input ≠ .onResponse (some adu) length now) :
    ¬ r.Malformed := by
  rintro ⟨adu,length,⟨now,hi,-⟩,-⟩
  exact h adu length now hi

theorem Explained.giveUp (hx : Explained config t history) (hr : r.transmits = false)
    (hm : ¬ r.Malformed) (hactive : stateIsActive t.state = true)
    {now : Word32} {finalResult : TransactionResult} (hkept : t.Kept t')
    (hgiven : t.GivenUp now finalResult t')
    (hfinal : ∀ t', Outcome config t' (history ++ [r]) finalResult) :
    Explained config t' (history ++ [r]) := by
  have herrors : t'.sawResponseError ≠ 0#8 ↔ ∃ q ∈ attemptOf (history ++ [r]), q.Malformed := by
    rw [hkept.sawResponseError,malformed_snoc history hr hm]
    exact hx.errors
  cases hgiven with
  | retry h state result deadline retries =>
    have hnone : t'.result = .none := result.trans (hx.running (.inl hactive))
    refine ⟨herrors,by simp [state],by simp [state],fun _ => hnone,?_⟩
    rw [hnone]
    trivial
  | fail state result retries =>
    refine ⟨herrors,by simp [state],by simp [state],by simp [state,stateIsActive],?_⟩
    rw [result]
    exact hfinal t'

theorem Explained.send {s : Transaction} {now : Word32} {answer : Int} (hr : r.transmits = true)
    (hm : ¬ r.Malformed) (hstate : s.state = .transmitting) (hsaw : s.sawResponseError = 0#8)
    (hcode : s.exceptionCode = 0#8) (hresult : s.result = .none)
    (hfails : r.transportFails = decide (answer ≠ 0)) :
    Explained config (if answer = 0 then s else s.transportFailed now) (history ++ [r]) := by
  have hattempt : attemptOf (history ++ [r]) = [r] := since_snoc_of_pos hr
  have hnone : ¬ ∃ q ∈ attemptOf (history ++ [r]), q.Malformed := by simpa [hattempt] using hm
  by_cases hz : answer = 0
  · simp only [hz,if_true]
    refine ⟨by simpa [hsaw] using hnone,by simp [hstate],fun _ => hcode,fun _ => hresult,?_⟩
    rw [hresult]
    trivial
  · simp only [hz,if_false]
    obtain ⟨hk,hg,-⟩ := s.transportFailed_spec now
    have herrors : (s.transportFailed now).sawResponseError ≠ 0#8 ↔
        ∃ q ∈ attemptOf (history ++ [r]), q.Malformed := by
      simpa [hk.sawResponseError,hsaw] using hnone
    cases hg with
    | retry h state result deadline retries =>
      refine ⟨herrors,by simp [state],by simp [state],fun _ => result.trans hresult,?_⟩
      rw [result,hresult]
      trivial
    | fail state result retries =>
      refine ⟨herrors,by simp [state],by simp [state],by simp [state,stateIsActive],?_⟩
      rw [result]
      exact ⟨r,last_mem_since,by simp [hfails,hz]⟩

section Frames
variable {adu : Mem Byte} {length : Nat} {now : Word32}

structure Submits (t : Transaction) (r : TransactionRecord) (adu : Mem Byte) (length : Nat)
    (now : Word32) : Prop where
  input : r.input = .onResponse (some adu) length now
  output : r.output = (.ok,[])
  before : r.before = t
  waiting : t.state = .waitingResponse
  early : deadlineReached now t.deadline = false

theorem Submits.transmits (h : Submits t r adu length now) : r.transmits = false := by
  simp [TransactionRecord.transmits,TransactionRecord.sent,h.output]

theorem Submits.considers (h : Submits t r adu length now) : r.Considers adu length :=
  ⟨now,h.input,by rw [h.before]; exact h.waiting,by rw [h.before]; exact h.early⟩

theorem Submits.malformed_iff (h : Submits t r adu length now) :
    r.Malformed ↔ (length = 0 ∨ 256 < length ∨ (t.validate adu length).1.isMalformed = true) := by
  constructor
  · rintro ⟨adu',length',⟨now',hi,-⟩,hbad⟩
    rw [h.input] at hi
    cases hi
    rw [h.before] at hbad
    exact hbad
  · intro hbad
    exact ⟨adu,length,h.considers,by rw [h.before]; exact hbad⟩

theorem Explained.accept (hx : Explained config t history) (hs : Submits t r adu length now)
    (hlength : ¬ (length = 0 ∨ 256 < length)) (hsame : t.SameRequest t') {result : MasterResult}
    (hv : t.validate adu length = (result,t'.response))
    (hstored : t'.responseAduLength = length ∧ slice t'.responseAdu 0 length = slice adu 0 length)
    (hcode : t'.exceptionCode = t'.response.exceptionCode) :
    Validated config t' (history ++ [r]) result r adu length := by
  obtain ⟨p,hp,hsent⟩ := hx.waiting hs.waiting
  refine ⟨last_mem_since,hs.considers,⟨p,mem_since_snoc hs.transmits hp,?_⟩,by omega,?_,?_,hstored,
    hcode⟩
  · rw [hs.before]
    exact hsent
  · rw [hs.before]
    exact ⟨hsame.config.symm,hsame.cookie.symm,hsame.request.symm,hsame.requestAdu.symm,
      hsame.requestAduLength.symm⟩
  · rw [Transaction.validate,hsame.request,hsame.requestAdu,hsame.requestAduLength]
    exact hv

theorem Explained.goOn (hx : Explained config t history) (hs : Submits t r adu length now)
    (hdeadline : t'.deadline = t.deadline)
    (hcode : t'.exceptionCode = t.exceptionCode) (hresult : t'.result = t.result)
    (hsaw : (r.Malformed ∧ t'.sawResponseError ≠ 0#8) ∨
      (¬ r.Malformed ∧ t'.sawResponseError = t.sawResponseError)) :
    Explained config t' (history ++ [r]) := by
  have hnone : t'.result = .none :=
    hresult.trans (hx.running (by simp [stateIsActive,hs.waiting]))
  refine ⟨?_,?_,?_,fun _ => hnone,by rw [hnone]; trivial⟩
  · rcases hsaw with ⟨hbad,hsaw⟩ | ⟨hfine,hsaw⟩
    · exact ⟨fun _ => ⟨r,last_mem_since,hbad⟩,fun _ => hsaw⟩
    · rw [hsaw]
      exact hx.errors.trans (malformed_snoc history hs.transmits hfine).symm
  · intro _
    obtain ⟨p,hp,hsent⟩ := hx.waiting hs.waiting
    exact ⟨p,mem_since_snoc hs.transmits hp,by rw [hdeadline]; exact hsent⟩
  · intro _
    exact hcode.trans (hx.clear (.inr hs.waiting))

theorem explained_judged (hx : Explained config t history) (hlength : ¬ (length = 0 ∨ 256 < length))
    (hs : Submits t r adu length now) :
    Explained config ((t.storeResponse adu length).judge (t.validate adu length).1)
      (history ++ [r]) := by
  have hcopy : slice (store t.responseAdu 0 (slice adu 0 length)) 0 length = slice adu 0 length := by
    have h := slice_store t.responseAdu 0 (slice adu 0 length)
    simpa using h
  have hmal := hs.malformed_iff
  have hzero := validate_ok_exceptionCode t adu length
  have hcode := hx.clear (.inr hs.waiting)
  rw [t.storeResponse_eq]
  generalize hv : t.validate adu length = v at hmal hzero ⊢
  obtain ⟨result,response⟩ := v
  have hiff : r.Malformed ↔ result.isMalformed = true := by
    rw [hmal]
    simp only [MasterResult.isMalformed] at *
    constructor
    · rintro (h | h | h)
      · exact absurd (.inl h) hlength
      · exact absurd (.inr h) hlength
      · exact h
    · exact fun h => .inr (.inr h)
  have hfine : result.isMalformed = false → ¬ r.Malformed := fun h hbad => by
    rw [hiff,h] at hbad
    cases hbad
  cases result with
  | ok =>
    have herrors := malformed_snoc history hs.transmits (hfine rfl)
    refine ⟨hx.errors.trans herrors.symm,by simp [Transaction.judge,Transaction.finish],
      by simp [Transaction.judge,Transaction.finish],
      by simp [Transaction.judge,Transaction.finish,stateIsActive],fun _ => ?_⟩
    refine ⟨r,adu,length,?_⟩
    apply hx.accept hs hlength
    · exact ⟨rfl,rfl,rfl,rfl,rfl⟩
    · exact hv
    · exact ⟨rfl,hcopy⟩
    · exact hcode.trans (hzero rfl).symm
  | exceptionResponse =>
    have herrors := malformed_snoc history hs.transmits (hfine rfl)
    refine ⟨hx.errors.trans herrors.symm,by simp [Transaction.judge,Transaction.finish],
      by simp [Transaction.judge,Transaction.finish],
      by simp [Transaction.judge,Transaction.finish,stateIsActive],?_⟩
    refine ⟨r,adu,length,?_⟩
    apply hx.accept hs hlength
    · exact ⟨rfl,rfl,rfl,rfl,rfl⟩
    · exact hv
    · exact ⟨rfl,hcopy⟩
    · rfl
  | errorAddressMismatch => exact hx.goOn hs rfl rfl rfl (.inr ⟨hfine rfl,rfl⟩)
  | errorFunctionMismatch => exact hx.goOn hs rfl rfl rfl (.inr ⟨hfine rfl,rfl⟩)
  | _ => exact hx.goOn hs rfl rfl rfl (.inl ⟨hiff.mpr rfl,by simp [Transaction.judge,
      Transaction.noteMalformed]⟩)

end Frames

theorem explained_step (hconfig : t.config = config) (hx : Explained config t history)
    {c : TransactionCall} {out : TransactionCode × List (List Byte)} (hm : Moves t c out t') :
    Explained config t' (history ++ [⟨t,c,out,t'⟩]) := by
  cases hm with
  | refused c code hcode hc =>
    refine hx.quiet rfl ?_
    rintro ⟨adu,length,⟨now,hi,hw,-⟩,-⟩
    exact hc adu length now hi hw
  | rested now answer hdue => exact hx.quiet rfl (not_malformed_of_input (by simp))
  | started request adu length now answer hidle hlength hmatch =>
    exact Explained.send rfl (not_malformed_of_input (by simp)) rfl rfl rfl rfl rfl
  | retried now answer hstate hdue =>
    exact Explained.send rfl (not_malformed_of_input (by simp)) rfl rfl rfl
      (hx.running (by simp [stateIsActive,hstate])) rfl
  | timedOut c now t' hc hstate hdue hkept hgiven =>
    have hr : TransactionRecord.timesOut ⟨t,c,(.ok,[]),t'⟩ = true ∧
        ¬ TransactionRecord.Malformed ⟨t,c,(.ok,[]),t'⟩ := by
      rcases hc with ⟨answer,rfl⟩ | ⟨adu,length,rfl⟩
      · exact ⟨by simp [TransactionRecord.timesOut,hstate,hdue],not_malformed_of_input (by simp)⟩
      · refine ⟨by simp [TransactionRecord.timesOut,hstate,hdue],?_⟩
        rintro ⟨adu',length',⟨now',hi,-,he⟩,-⟩
        cases hi
        rw [hdue] at he
        cases he
    obtain ⟨hout,hfine⟩ := hr
    refine hx.giveUp rfl hfine (by simp [stateIsActive,hstate]) hkept hgiven fun s => ?_
    have herrors := malformed_snoc history rfl hfine
    by_cases hsaw : t.sawResponseError ≠ 0#8
    · rw [Transaction.timeoutResult,if_pos hsaw]
      exact ⟨⟨_,last_mem_since,hout⟩,herrors.mpr (hx.errors.mp hsaw)⟩
    · rw [Transaction.timeoutResult,if_neg hsaw]
      exact ⟨⟨_,last_mem_since,hout⟩,fun q hq hbad => hsaw (hx.errors.mpr (herrors.mp ⟨q,hq,hbad⟩))⟩
  | sentUnanswered now t' hstate hnone hkept hdone hresult hretries =>
    have hfine := not_malformed_of_input (r := ⟨t,.onTxComplete now,(.ok,[]),t'⟩)
      (by simp)
    refine ⟨?_,by simp [hdone],by simp [hdone],by simp [hdone,stateIsActive],?_⟩
    · rw [hkept.sawResponseError]
      exact hx.errors.trans (malformed_snoc history rfl hfine).symm
    · rw [hresult]
      exact fun h => absurd (hkept.request ▸ hnone) h
  | sent now hstate hsome =>
    have hnone : t.result = .none := hx.running (by simp [stateIsActive,hstate])
    refine ⟨?_,fun _ => ⟨_,last_mem_since,now,⟨rfl,rfl⟩,by rw [hconfig]⟩,
      fun _ => hx.clear (.inl hstate),fun _ => hnone,by simp only [hnone]; trivial⟩
    have hfine := not_malformed_of_input (r := ⟨t,.onTxComplete now,(.ok,[]),{ t with
      deadline := now+t.config.responseTimeoutTicks
      state := .waitingResponse }⟩) (by simp)
    exact hx.errors.trans (malformed_snoc history rfl hfine).symm
  | failed now hstate =>
    obtain ⟨hk,hg,-⟩ := t.transportFailed_spec now
    exact hx.giveUp rfl (not_malformed_of_input (by simp)) (by simp [stateIsActive,hstate]) hk hg
      fun _ => ⟨_,last_mem_since,rfl⟩
  | wrongLength adu length now hstate hearly hlength =>
    have hs : Submits t ⟨t,.onResponse (some adu) length now,(.ok,[]),{ t.noteMalformed with
        protocolResult := .errorResponseLength }⟩ adu length now := ⟨rfl,rfl,rfl,hstate,hearly⟩
    refine hx.goOn hs rfl rfl rfl (.inl ⟨hs.malformed_iff.mpr ?_,by
      simp [Transaction.noteMalformed]⟩)
    exact hlength.imp_right .inl
  | judged adu length now hstate hearly hlength =>
    exact explained_judged hx hlength ⟨rfl,rfl,rfl,hstate,hearly⟩
  | cancelled t' hactive hkept hstate hresult hretries =>
    have hfine := not_malformed_of_input (r := ⟨t,.cancel,(.ok,[]),t'⟩) (by simp)
    refine ⟨?_,by simp [hstate],by simp [hstate],by simp [hstate,stateIsActive],?_⟩
    · rw [hkept.sawResponseError]
      exact hx.errors.trans (malformed_snoc history rfl hfine).symm
    · rw [hresult]
      exact ⟨_,last_mem_since,rfl,rfl⟩

end Explaining

theorem explained_run {config : TransactionConfig} {t₀ : Transaction}
    (hinit : mbrtumTransactionInit (some config) true = .ok t₀) (calls : List TransactionCall) :
    Explained config (run transactionStep t₀ calls) (records transactionStep t₀ calls) := by
  obtain ⟨hi,hc,hs,hres,-,hsaw,hcode⟩ := mbrtumTransactionInit_spec hinit
  suffices h : Accounted config (run transactionStep t₀ calls) (records transactionStep t₀ calls) ∧
      Explained config (run transactionStep t₀ calls) (records transactionStep t₀ calls) from h.2
  refine history_invariant
    (fun t history => Accounted config t history ∧ Explained config t history) ?_ ?_ calls
  · rintro t history c ⟨ha,hx⟩
    have hm := transactionStep_moves ha.initialized c
    exact ⟨accounted_step ha hm,explained_step ha.config_eq hx hm⟩
  · refine ⟨accounted_run hinit [],⟨by simp [hsaw,attemptOf],by simp [hs],by simp [hs],
      fun _ => hres,by simp only [hres]; trivial⟩⟩

structure NotAccepted (r : TransactionRecord) : Prop where
  response : r.after.response = r.before.response
  exceptionCode : r.after.exceptionCode = r.before.exceptionCode
  responseAdu : r.after.responseAdu = r.before.responseAdu ∧
    r.after.responseAduLength = r.before.responseAduLength
  result : r.after.state = .complete → r.after = r.before

theorem Moves.notAccepted {t t' : Transaction} {adu : Option (Mem Byte)} {length : Nat}
    {now : Word32} {out : TransactionCode × List (List Byte)}
    (hm : Moves t (.onResponse adu length now) out t')
    (h : t.state ≠ .waitingResponse ∨ deadlineReached now t.deadline = true) :
    NotAccepted ⟨t,.onResponse adu length now,out,t'⟩ := by
  cases hm with
  | refused c code hcode hc => exact ⟨rfl,rfl,⟨rfl,rfl⟩,fun _ => rfl⟩
  | timedOut c now t' hc hstate hdue hkept hgiven =>
    refine ⟨hkept.response,hkept.exceptionCode,⟨hkept.responseAdu,hkept.responseAduLength⟩,?_⟩
    cases hgiven with
    | retry h state result deadline retries => simp [state]
    | fail state result retries => simp [state]
  | wrongLength adu length now hstate hearly hlength =>
    rcases h with h | h
    · exact absurd hstate h
    · simp [hearly] at h
  | judged adu length now hstate hearly hlength =>
    rcases h with h | h
    · exact absurd hstate h
    · simp [hearly] at h

theorem TransactionRecord.timesOut_waiting {r : TransactionRecord} (h : r.timesOut = true) :
    r.before.state = .waitingResponse := by
  unfold TransactionRecord.timesOut at h
  split at h
  · exact (of_decide_eq_true h).1
  · exact (of_decide_eq_true h).1
  · cases h

/-- A timeout that finds no retry left names what it has seen of the attempt. -/
theorem Moves.timesOut_result {t t' : Transaction} {c : TransactionCall}
    {out : TransactionCode × List (List Byte)} (hm : Moves t c out t')
    (hout : TransactionRecord.timesOut ⟨t,c,out,t'⟩ = true) (hfailed : t'.state = .failed) :
    t'.result = t.timeoutResult := by
  have hw : t.state = .waitingResponse := TransactionRecord.timesOut_waiting hout
  cases hm with
  | refused c code hcode hc => simp [hw] at hfailed
  | rested now answer hdue => simp [hw] at hfailed
  | retried now answer hstate hdue => simp [hw] at hstate
  | timedOut c now t' hc hstate hdue hkept hgiven =>
    cases hgiven with
    | retry h state result deadline retries => simp [state] at hfailed
    | fail state result retries => exact result
  | wrongLength adu length now hstate hearly hlength =>
    simp [TransactionRecord.timesOut,hearly] at hout
  | judged adu length now hstate hearly hlength =>
    simp [TransactionRecord.timesOut,hearly] at hout
  | _ => cases hout

/-- The result is explained by what happened in the attempt that ended with it, the request
is the one of the last successful start, a frame that is late or unexpected is never taken,
and the final timeout reports a malformed candidate. -/
structure ResultSound (config : TransactionConfig) (t : Transaction)
    (history : List TransactionRecord) : Prop where
  outcome : Outcome config t history t.result
  request : t.result ≠ .none → ∃ q rest, transactionOf history = q :: rest ∧ OpenedBy t q
  unexpected : ∀ adu length now,
    t.state ≠ .waitingResponse ∨ deadlineReached now t.deadline = true →
      NotAccepted (transactionRecord t (.onResponse adu length now))
  timeout : ∀ c, (transactionRecord t c).timesOut = true →
    (transactionRecord t c).after.state = .failed →
      ((∃ q ∈ attemptOf history, q.Malformed) →
        (transactionRecord t c).after.result = .responseError) ∧
      ((¬ ∃ q ∈ attemptOf history, q.Malformed) → (transactionRecord t c).after.result = .timeout)

theorem transaction_result_sound (config : TransactionConfig) (t₀ : Transaction)
    (hinit : mbrtumTransactionInit (some config) true = .ok t₀) (calls : List TransactionCall) :
    ResultSound config (run transactionStep t₀ calls) (records transactionStep t₀ calls) := by
  have ha := accounted_run hinit calls
  have hx := explained_run hinit calls
  refine ⟨hx.outcome,fun hres => ha.opened fun hidle => hres (hx.running (.inr hidle)),
    fun adu length now h => (transactionStep_moves ha.initialized _).notAccepted h,?_⟩
  intro c hout hfailed
  have hresult := (transactionStep_moves ha.initialized c).timesOut_result hout hfailed
  refine ⟨fun hbad => hresult.trans ?_,fun hnone => hresult.trans ?_⟩
  · rw [Transaction.timeoutResult,if_pos (hx.errors.mpr hbad)]
  · rw [Transaction.timeoutResult,if_neg fun h => hnone (hx.errors.mp h)]

theorem transaction_result_sound_retry :
    (run transactionStep (.initialized retryOnce) answeredOnRetry).result = .success ∧
      ResultSound retryOnce (run transactionStep (.initialized retryOnce) answeredOnRetry)
        (records transactionStep (.initialized retryOnce) answeredOnRetry) := by
  refine ⟨by decide +kernel,?_⟩
  exact transaction_result_sound retryOnce (.initialized retryOnce) rfl answeredOnRetry

end ModbusStack
