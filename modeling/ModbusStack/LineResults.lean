import ModbusStack.LineTransactions

/-! What the results of the master are worth on a line that loses and damages frames. -/
set_option autoImplicit false

namespace ModbusStack
open ByteMemory Machine Retransmission

/-! The answer of the slave at the master. -/

/-- A built Restart Communications is one that the slave takes for one. -/
theorem WireRequest.arrival_restart {w : WireRequest} {a : Byte} (h : w.WellFormed a)
    (policy : DiagnosticsPolicy) (hstarts : (w.arrival a policy).startsLikeRestart = true) :
    (w.arrival a policy).isRestart = true := by
  have hf := arrival_framed (w := w) (a := a) policy
  have hrestart := hstarts
  simp only [RtuFrame.startsLikeRestart,isRestartCandidate,decide_eq_true_eq] at hrestart
  obtain ⟨hlen,h1,h2,h3⟩ := hrestart
  rw [hf.function] at h1
  have hbody := hf.body
  cases w with
  | read f start quantity =>
    obtain ⟨-,-,⟨hm,-⟩ | ⟨hm,-⟩⟩ := h
    all_goals
      obtain rfl : f = 0x08#8 := h1
      simp at hm
  | writeSingle f address value =>
    obtain rfl : f = 0x08#8 := h1
    obtain ⟨-,⟨hm,-⟩ | hm⟩ := h <;> simp at hm
  | status f =>
    obtain rfl : f = 0x08#8 := h1
    simpa using h.2
  | diagnostics subfunction data =>
    simp only [body,writeBe16,List.cons_append,List.nil_append,stored_cons,Nat.reduceAdd] at hbody
    obtain ⟨hhi,hlo,hdata⟩ := hbody
    have hsub : subfunction = 0x0001#16 := by
      rw [← be16_bytes subfunction,← hhi,← hlo,h2,h3]
      rfl
    subst hsub
    obtain ⟨hd,hvalid⟩ := h.2.2.2.2 (by decide)
    obtain ⟨x,y,rfl⟩ := List.length_eq_two.mp hd
    simp only [stored_cons,Nat.reduceAdd] at hdata
    have hword : (RtuFrame.restartData
        ((diagnostics 0x0001#16 [x,y]).arrival a policy)) = readBe16 (ofList [x,y]) := by
      simp only [RtuFrame.restartData,readBe16_off,Nat.reduceAdd,hdata.1,hdata.2.1]
      rfl
    have hsize : ((diagnostics 0x0001#16 [x,y]).arrival a policy).len = 8 := by
      rw [hf.length_eq]
      rfl
    simp only [RtuFrame.isRestart,decide_eq_true_eq]
    refine ⟨hstarts,hsize,?_⟩
    rw [hword]
    simpa [diagnosticDataIsValid] using hvalid
  | _ => cases h1

section Answered
variable {cfg : Platform} {l : SerialLine} {q r : LineRecord} {rest : List LineRecord}
  {b : BuiltCall}

theorem answering_awake {s : Slave} {policy : DiagnosticsPolicy} {answer : List Byte}
    (h : (rtuStep cfg b.address s (b.wire.arrival b.address policy)).1 = .responseReady answer) :
    s.isListenOnly = false := by
  cases hl : s.isListenOnly with
  | false => rfl
  | true =>
    have hready := (rtuStep_listening cfg b.address s (b.wire.arrival b.address policy) hl).ready
    rw [h] at hready
    have hmalformed := hready.symm
    simp only [RtuResult.isReady,RtuFrame.isMalformedRestart,decide_eq_true_eq] at hmalformed
    obtain ⟨-,-,-,-,hstarts,hno,-⟩ := hmalformed
    exact absurd (WireRequest.arrival_restart b.wellFormed policy hstarts) hno

theorem matchSubresponses_ne_exception {original adu : Mem Byte} {originalLength length : Nat}
    {e : MasterResult} (n requestOffset responseOffset : Nat)
    (h : matchSubresponses original originalLength adu length n requestOffset responseOffset =
      .error e) : e ≠ .exceptionResponse := by
  induction n generalizing requestOffset responseOffset with
  | zero => cases h
  | succ n ih =>
    unfold matchSubresponses at h
    dsimp only at h
    split_ifs at h
    all_goals first
      | exact ih _ _ h
      | (cases h; decide)

theorem checkObjects_ne_exception {request : Request} {adu : Mem Byte} {length : Nat}
    {readCode category previous : Byte} {e : MasterResult} (n i offset : Nat)
    (h : checkObjects request adu length readCode category n i offset previous = .error e) :
    e ≠ .exceptionResponse := by
  induction n generalizing i offset previous with
  | zero => cases h
  | succ n ih =>
    unfold checkObjects at h
    dsimp only at h
    split_ifs at h
    all_goals first
      | exact ih _ _ h
      | (cases h; decide)

theorem checkNormalResponse_ne_exception (request : Request) (original : Mem Byte)
    (originalLength : Nat) (adu : Mem Byte) (length : Nat) :
    (checkNormalResponse request original originalLength adu length).1 ≠ .exceptionResponse := by
  unfold checkNormalResponse checkReadBits checkReadFileRecord checkWriteFileRecord
    checkReadRegisters checkWriteAck checkMaskWriteAck checkExceptionStatus checkDiagnostics
    checkCommEventCounter checkCommEventLog checkServerId checkFifoQueue checkMei checkDeviceId
  dsimp only
  repeat' split
  all_goals intro h
  all_goals first
    | (cases h; done)
    | exact matchSubresponses_ne_exception _ _ _ ‹_› h
    | exact checkObjects_ne_exception _ _ _ ‹_› h

/-- The object judges a frame as the validator does with what was built. -/
theorem InTransaction.validate_eq (h : InTransaction cfg l q rest b) (adu : List Byte) :
    l.master.validate (ofList adu) adu.length = b.wire.verdict b.address adu := by
  have hcopy : AgreeUpTo b.adu.length l.master.requestAdu (ofList b.adu) := by
    have hagree := agreeUpTo_ofList_slice l.master.requestAdu b.adu.length
    rwa [h.adu] at hagree
  have hsame := processResponse_inBounds b.request (some l.master.requestAdu) (ofList b.adu)
    b.adu.length adu.length (fun m hm => Option.some.inj hm ▸ hcopy)
    (fun i hi => rfl : AgreeUpTo adu.length (ofList adu) (ofList adu))
  rw [Transaction.validate,h.request,h.length,hsame,WireRequest.verdict,← b.request_eq,← b.adu_eq]
  rfl

/-- Only a request that expects a response gets a verdict on one. -/
theorem verdict_answered {answer : List Byte} {v : MasterResult} {response : Response}
    (h : b.wire.verdict b.address answer = (v,response))
    (hv : v ≠ .errorResponseNotExpected) : b.wire.answered b.address = true := by
  cases ha : b.wire.answered b.address with
  | true => rfl
  | false =>
    have hdescriptor := WireRequest.validateRequestDescriptor_descriptor b.wellFormed
    simp only [ha,Bool.false_eq_true,if_false] at hdescriptor
    simp only [WireRequest.verdict,mbrtumProcessResponseWithRequestAdu,hdescriptor] at h
    exact absurd (congrArg Prod.fst h).symm hv

/-- A response that the master takes for an exception is the one that was sent. -/
theorem exception_answer {s : Slave} {policy : DiagnosticsPolicy} {answer : List Byte}
    {response : Response} (hs : s.Sound)
    (hstep : (rtuStep cfg b.address s (b.wire.arrival b.address policy)).1 = .responseReady answer)
    (hverdict : b.wire.verdict b.address answer = (.exceptionResponse,response)) :
    ∃ code, code ≠ 0#8 ∧ answer = appendCrc [b.address,b.wire.function ||| 0x80#8,code] ∧
      response = ⟨b.wire.function,code,none,0⟩ := by
  have ha := verdict_answered hverdict (by decide)
  have hresponse := (rtuStep_response cfg b.address s (b.wire.arrival b.address policy) hs).1 answer
    hstep
  obtain ⟨pdu,hadu,hpdu⟩ := hresponse.frame
  rw [(WireRequest.arrival_framed (w := b.wire) (a := b.address) policy).function] at hpdu
  rcases hpdu with ⟨-,tail,rfl⟩ | ⟨code,hcode,rfl⟩
  · subst hadu
    have hleast := hresponse.minimum
    have hmost := hresponse.maximum
    simp only [appendCrc_length,List.length_cons] at hleast hmost
    rw [WireRequest.verdict_normal b.wellFormed ha (by omega) (by omega)] at hverdict
    exact absurd (congrArg Prod.fst hverdict) (checkNormalResponse_ne_exception _ _ _ _ _)
  · subst hadu
    rw [WireRequest.verdict_exception b.wellFormed ha hcode] at hverdict
    exact ⟨code,hcode,rfl,(Prod.mk.inj hverdict).2.symm⟩

end Answered

/-! The results. -/

def OpenedLine (history : List LineRecord) (q : LineRecord) (rest : List LineRecord)
    (b : BuiltCall) : Prop :=
  lineTransaction history = q :: rest ∧ q.opens = true ∧
    ∃ now answer, q.input = .request b now answer

/-- In one step of the transaction the slave carried the request out and answered it; the object
holds this answer. -/
structure AnsweredIn (cfg : Platform) (l : SerialLine) (rest : List LineRecord) (b : BuiltCall)
    (r : LineRecord) (policy : DiagnosticsPolicy) (answer : List Byte) : Prop where
  within : r ∈ rest
  carried : r.carries = true
  step : rtuStep cfg b.address (r.before.slaves b.address) (b.wire.arrival b.address policy) =
    (.responseReady answer,r.after.slaves b.address)
  length : l.master.responseAduLength = answer.length
  stored : slice l.master.responseAdu 0 answer.length = answer

structure ResultsTrue (cfg : Platform) (l : SerialLine) (rest : List LineRecord) (b : BuiltCall) :
    Prop where
  success : l.master.result = .success → b.request.expectsResponse ≠ 0#8 →
    ∃ r policy answer, AnsweredIn cfg l rest b r policy answer ∧
      Delivered cfg (r.before.slaves b.address) b.wire b.address policy (ofList answer)
        l.master.response (r.after.slaves b.address) ∧
      (l.master.response.data.isSome = true →
        SameDecodings b.request l.master.response l.master.responseAdu (ofList answer))
  modbusException : l.master.result = .modbusException → l.master.exceptionCode ≠ 0#8 ∧
    ∃ r policy, AnsweredIn cfg l rest b r policy
      (appendCrc [b.address,b.wire.function ||| 0x80#8,l.master.exceptionCode])

/-- The data models are those after no or after one execution of the request; a slave whose own
program uses its data model in the meantime is left out. -/
structure EffectOnce (cfg : Platform) (config : TransactionConfig) (l : SerialLine)
    (q : LineRecord) (rest : List LineRecord) (b : BuiltCall) : Prop where
  once : ∀ a, (∀ r ∈ rest, r.serves a = false) →
    (l.slaves a).server.data = (q.before.slaves a).server.data ∨
      (l.slaves a).server.data = (b.effect cfg (q.before.slaves a).server.data).2
  others : ∀ a, (∀ r ∈ rest, r.serves a = false) → a ≠ b.address → b.address ≠ 0#8 →
    (l.slaves a).server.data = (q.before.slaves a).server.data
  success : l.master.result = .success → b.request.expectsResponse ≠ 0#8 →
    (∀ r ∈ rest, r.serves b.address = false) → (l.slaves b.address).server.data =
      (b.effect cfg (q.before.slaves b.address).server.data).2
  modbusException : l.master.result = .modbusException →
    (∀ r ∈ rest, r.serves b.address = false) →
    (l.slaves b.address).server.data = (q.before.slaves b.address).server.data
  carried : rest.countP LineRecord.carries ≤ config.maxRetries.toNat+1

section Results
variable {cfg : Platform} {config : TransactionConfig} {l : SerialLine} {history : List LineRecord}
  {q : LineRecord} {rest : List LineRecord} {b : BuiltCall}

theorem LineInvariant.inTransaction (h : LineInvariant cfg config l history)
    (ho : OpenedLine history q rest b) : InTransaction cfg l q rest b := by
  obtain ⟨hq,hopens,now,answer,hinput⟩ := ho
  have hidle : l.master.state ≠ .idle := by
    intro hidle
    have hfresh := (h.fresh hidle).2.2.2 q (mem_lineTransaction (by simp [hq]))
    rw [hopens] at hfresh
    cases hfresh
  obtain ⟨q',rest',b',hq',hi⟩ := h.current hidle
  obtain ⟨rfl,rfl⟩ := List.cons.inj (hq.symm.trans hq')
  obtain ⟨now',answer',hinput'⟩ := hi.opened
  obtain ⟨rfl,-,-⟩ := LineInput.request.inj (hinput.symm.trans hinput')
  exact hi

theorem InTransaction.accepted (h : InTransaction cfg l q rest b) {v : MasterResult}
    (hv : l.master.result.verdict = some v) (hsome : v = .ok → b.request.expectsResponse ≠ 0#8) :
    ∃ r policy answer, r.Answers cfg b answer ∧ AnsweredIn cfg l rest b r policy answer ∧
      (r.before.slaves b.address).Consistent ∧ l.master.Holds v answer ∧
      b.wire.verdict b.address answer = (v,l.master.response) := by
  rcases h.outcome v hv with ⟨hok,hnone⟩ | ⟨r,hr,answer,hanswers,hholds⟩
  · exact absurd hnone (hsome hok)
  · obtain ⟨hconsistent,-⟩ := h.answered r hr ⟨answer,hanswers⟩
    obtain ⟨reach,policy,-,-,-,hstep⟩ := id hanswers
    refine ⟨r,policy,answer,hanswers,⟨hr,hanswers.carries,hstep,hholds.length,hholds.stored⟩,
      hconsistent,hholds,?_⟩
    rw [← h.validate_eq]
    exact hholds.judged

theorem InTransaction.resultsTrue (h : InTransaction cfg l q rest b) :
    ResultsTrue cfg l rest b where
  success := by
    intro hresult hexpects
    obtain ⟨r,policy,answer,-,hin,hconsistent,hholds,hverdict⟩ := h.accepted (v := .ok)
      (by rw [hresult]; rfl) fun _ => hexpects
    refine ⟨r,policy,answer,hin,?_,fun hsome => ?_⟩
    · have hawake := answering_awake (congrArg Prod.fst hin.step)
      have hanswered := b.expectsResponse_iff.mp hexpects
      have hexpected := accepted_expectedOf b.wellFormed hanswered hawake hconsistent.sound
        (congrArg Prod.fst hin.step) hverdict
      obtain ⟨adu,after,hstep,hexchange⟩ := exchange_delivered policy b.wellFormed hanswered hawake
        hconsistent.sound hconsistent.deviceId hexpected
      rw [hin.step] at hstep
      obtain ⟨hadu,rfl⟩ := Prod.mk.inj hstep
      obtain rfl := RtuResult.responseReady.inj hadu
      rcases hexchange with ⟨code,-,-,hexception⟩ | ⟨response,hok,hdelivered⟩
      · rw [hverdict] at hexception
        cases congrArg Prod.fst hexception
      · rw [hverdict] at hok
        rw [(Prod.mk.inj hok).2]
        exact hdelivered
    · have hjudged := hholds.judged
      rw [Transaction.validate,h.request] at hjudged
      have hnormal := processResponse_normal hjudged
      obtain ⟨start,hstart⟩ := Option.isSome_iff_exists.mp hsome
      have hview := (checkNormalResponse_view hnormal.least hnormal.checked).view start hstart
      refine decoders_inBounds b.request l.master.response fun i hi => ?_
      have hagree := agreeUpTo_ofList_slice l.master.responseAdu answer.length
      rw [hin.stored] at hagree
      simp only [Response.bytes,hstart,Option.getD_some,Mem.off_apply]
      exact hagree _ (by omega)
  modbusException := by
    intro hresult
    obtain ⟨r,policy,answer,-,hin,hconsistent,hholds,hverdict⟩ := h.accepted (v := .exceptionResponse)
      (by rw [hresult]; rfl) fun hc => by cases hc
    obtain ⟨code,hcode,hadu,hresponse⟩ := exception_answer hconsistent.sound
      (congrArg Prod.fst hin.step) hverdict
    have hmaster : l.master.exceptionCode = code := by
      rw [hholds.exceptionCode rfl,hresponse]
    rw [hmaster,← hadu]
    exact ⟨hcode,r,policy,hin⟩

theorem InTransaction.effectOnce (h : InTransaction cfg l q rest b)
    (hretries : l.master.retriesUsed.toNat ≤ config.maxRetries.toNat) :
    EffectOnce cfg config l q rest b where
  once := by
    intro a hserves
    obtain ⟨n,-,hd,-⟩ := h.effect a hserves
    rcases Nat.eq_zero_or_pos n with rfl | hn
    · exact .inl hd
    · exact .inr (hd.trans (executed_of_pos (b.effect_repeatable cfg) hn _))
  others := by
    intro a hserves ha hb
    obtain ⟨n,-,hd,hreach,-⟩ := h.effect a hserves
    rcases Nat.eq_zero_or_pos n with rfl | hn
    · exact hd
    · exact ((hreach hn).elim ha hb).elim
  success := by
    intro hresult hexpects hserves
    obtain ⟨r,policy,answer,hanswers,hin,-⟩ := h.accepted (v := .ok) (by rw [hresult]; rfl)
      fun _ => hexpects
    obtain ⟨n,-,hd,-,hpos⟩ := h.effect b.address hserves
    have hn := hpos rfl ⟨r,hin.within,answer,hanswers⟩
    exact hd.trans (executed_of_pos (b.effect_repeatable cfg) hn _)
  modbusException := by
    intro hresult hserves
    obtain ⟨r,policy,answer,hanswers,hin,hconsistent,hholds,hverdict⟩ := h.accepted
      (v := .exceptionResponse) (by rw [hresult]; rfl) fun hc => by cases hc
    obtain ⟨code,-,hadu,-⟩ := exception_answer hconsistent.sound (congrArg Prod.fst hin.step) hverdict
    obtain ⟨-,hbefore⟩ := h.answered r hin.within ⟨answer,hanswers⟩
    obtain ⟨k,hk⟩ := hbefore hserves
    -- every execution is answered like this one, so the first one had no effect either
    have hfirst : (b.effect cfg (q.before.slaves b.address).server.data).2 =
        (q.before.slaves b.address).server.data := by
      refine b.refused (hadu ▸ congrArg Prod.fst hin.step) ?_
      rw [hk]
      exact (answer_executed (b.effect_repeatable cfg) k _).symm
    obtain ⟨n,-,hd,-⟩ := h.effect b.address hserves
    rcases Nat.eq_zero_or_pos n with rfl | hn
    · exact hd
    · rw [hd,executed_of_pos (b.effect_repeatable cfg) hn]
      exact hfirst
  carried := by
    have hattempts := h.attempts
    omega

end Results

/-! A run with a retry, as an instance. -/

theorem since_of_rest {α : Type} {p : α → Bool} {x : α} {l : List α} (h : ∀ y ∈ l, p y = false) :
    since p (x :: l) = x :: l := by
  induction l using List.reverseRecOn with
  | nil => cases hx : p x <;> simp [since,hx]
  | append_singleton l y ih =>
    rw [← List.cons_append,since_snoc_of_neg (h y (by simp)),
      ih fun z hz => h z (List.mem_append_left _ hz)]

def LineInput.isRequest : LineInput → Bool
  | .request .. => true
  | _ => false

theorem opens_of_rest {cfg : Platform} {l : SerialLine} {inputs : List LineInput}
    (hrest : ∀ x ∈ inputs, x.isRequest = false) (r : LineRecord)
    (hr : r ∈ records (lineStep cfg) l inputs) : r.opens = false := by
  obtain ⟨ys,zs,hx,-,-⟩ := mem_records hr
  have hno := hrest r.input (by simp [hx])
  unfold LineRecord.opens
  cases hi : r.input with
  | request =>
    rw [hi] at hno
    cases hno
  | _ => rfl

theorem single_transaction {cfg : Platform} {config : TransactionConfig} {l : SerialLine}
    {b : BuiltCall} {now : Word32} {answer : Int} {inputs : List LineInput}
    (hinit : l.Initial config) (hrest : ∀ x ∈ inputs, x.isRequest = false)
    (hok : (lineStep cfg l (.request b now answer)).1.1 = .ok) :
    (∀ r ∈ records (lineStep cfg) l (.request b now answer :: inputs), QuietStart r) ∧
    OpenedLine (records (lineStep cfg) l (.request b now answer :: inputs))
      ⟨l,.request b now answer,(lineStep cfg l (.request b now answer)).1,
        (lineStep cfg l (.request b now answer)).2⟩
      (records (lineStep cfg) (lineStep cfg l (.request b now answer)).2 inputs) b := by
  have hquiet := @opens_of_rest cfg (lineStep cfg l (.request b now answer)).2 _ hrest
  refine ⟨fun r hr => ?_,since_of_rest hquiet,decide_eq_true hok,now,answer,rfl⟩
  rcases List.mem_cons.mp hr with rfl | hr
  · exact fun _ => ⟨hinit.requests,hinit.answers⟩
  · intro hopens
    rw [hquiet r hr] at hopens
    cases hopens

def quietLine : SerialLine :=
  ⟨.initialized retryOnce,fun _ => .initial Server.zeroed.data false,[],[]⟩

theorem quietLine_initial : quietLine.Initial retryOnce :=
  ⟨rfl,fun _ => ⟨Server.zeroed.data,false,rfl,rfl⟩,rfl,rfl⟩

def lineWrite : BuiltCall :=
  ⟨.writeSingleRegister 0x11#8 0x0000#16 0x1234#16,wideBuffer,by decide +kernel⟩

def heardAt (a : Byte) : Byte → Reception := fun c => if c = a then .intact none else .lost

/-- The slave hears both attempts; its first answer is lost. -/
def answerLost : List LineInput :=
  [.onTxComplete 2,.transmit (heardAt 0x11#8),.reply (heardAt 0x11#8) false 50,.poll 102 0,
    .poll 112 0,.onTxComplete 114,.transmit (heardAt 0x11#8),.reply (heardAt 0x11#8) true 120]

/-- However frames are lost, damaged, repeated and delayed: a response that the master reports was
given by the slave to this very request, and the caller decodes what the slave held then. -/
theorem serialLine_results_true (cfg : Platform) (config : TransactionConfig) (l : SerialLine)
    (hinit : l.Initial config) (inputs : List LineInput)
    (hquiet : ∀ r ∈ records (lineStep cfg) l inputs, QuietStart r) (q : LineRecord)
    (rest : List LineRecord) (b : BuiltCall)
    (ho : OpenedLine (records (lineStep cfg) l inputs) q rest b) :
    ResultsTrue cfg (run (lineStep cfg) l inputs) rest b :=
  ((lineInvariant_run hinit inputs hquiet).inTransaction ho).resultsTrue

theorem serialLine_results_true_lost :
    (run (lineStep .standard) quietLine (.request lineWrite 0 0 :: answerLost)).master.result =
      .success ∧
    ResultsTrue .standard (run (lineStep .standard) quietLine (.request lineWrite 0 0 :: answerLost))
      (records (lineStep .standard) (lineStep .standard quietLine (.request lineWrite 0 0)).2
        answerLost) lineWrite := by
  have hone := @single_transaction .standard _ _ lineWrite 0 0 answerLost quietLine_initial
    (by decide) (by decide +kernel)
  exact ⟨by decide +kernel,serialLine_results_true .standard retryOnce quietLine quietLine_initial
    (.request lineWrite 0 0 :: answerLost) hone.1 _ _ lineWrite hone.2⟩

/-- However often a request is repeated, the data model of a slave stays as it was or becomes what
one execution makes it, and only a broadcast reaches another slave than the one it names. It is
what one execution makes it when the master reports success on a request that expects a response,
and as it was when it reports an exception. Left out are slaves whose own program uses the data
model meanwhile; MEI handlers are taken to answer alike every time and to leave it alone. At most
`max_retries + 1` frames pass the slaves. -/
theorem serialLine_effect_once (cfg : Platform) (config : TransactionConfig) (l : SerialLine)
    (hinit : l.Initial config) (inputs : List LineInput)
    (hquiet : ∀ r ∈ records (lineStep cfg) l inputs, QuietStart r) (q : LineRecord)
    (rest : List LineRecord) (b : BuiltCall)
    (ho : OpenedLine (records (lineStep cfg) l inputs) q rest b) :
    EffectOnce cfg config (run (lineStep cfg) l inputs) q rest b :=
  let h := lineInvariant_run hinit inputs hquiet
  (h.inTransaction ho).effectOnce h.retries

theorem serialLine_effect_once_lost :
    (run (lineStep .standard) quietLine (.request lineWrite 0 0 :: answerLost)).master.result =
      .success ∧
    EffectOnce .standard retryOnce
      (run (lineStep .standard) quietLine (.request lineWrite 0 0 :: answerLost))
      ⟨quietLine,.request lineWrite 0 0,(lineStep .standard quietLine (.request lineWrite 0 0)).1,
        (lineStep .standard quietLine (.request lineWrite 0 0)).2⟩
      (records (lineStep .standard) (lineStep .standard quietLine (.request lineWrite 0 0)).2
        answerLost) lineWrite := by
  have hone := @single_transaction .standard _ _ lineWrite 0 0 answerLost quietLine_initial
    (by decide) (by decide +kernel)
  exact ⟨by decide +kernel,serialLine_effect_once .standard retryOnce quietLine quietLine_initial
    (.request lineWrite 0 0 :: answerLost) hone.1 _ _ lineWrite hone.2⟩

end ModbusStack
