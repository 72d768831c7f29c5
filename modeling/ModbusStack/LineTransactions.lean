import ModbusStack.SerialLine

/-! Transactions on the serial line: what a result of the master says about the slave, and how
often the slave has carried the request out. -/
set_option autoImplicit false

namespace ModbusStack
open ByteMemory Machine Retransmission

/-! The calls of the master after the start of a transaction. -/

def TransactionResult.verdict : TransactionResult → Option MasterResult
  | .success => some .ok
  | .modbusException => some .exceptionResponse
  | _ => Option.none

structure Transaction.Holds (t : Transaction) (verdict : MasterResult) (answer : List Byte) : Prop where
  length : t.responseAduLength = answer.length
  stored : slice t.responseAdu 0 answer.length = answer
  judged : t.validate (ofList answer) answer.length = (verdict,t.response)
  exceptionCode : verdict = .exceptionResponse → t.exceptionCode = t.response.exceptionCode

/-- The retry that is scheduled counts before it is sent. -/
def Transaction.scheduled (t : Transaction) : Nat := if t.state = .retryDelay then 1 else 0

structure Continues (t t' : Transaction) (c : TransactionCall) (sent : List (List Byte)) : Prop where
  same : t.SameRequest t'
  frames : ∀ frame ∈ sent, frame = slice t.requestAdu 0 t.requestAduLength
  idle : t'.state = .idle ↔ t.state = .idle
  rests : t.state = .idle → sent = [] ∧ t' = t
  budget : sent.length+t.retriesUsed.toNat+t'.scheduled ≤ t'.retriesUsed.toNat+t.scheduled
  retries : t.retriesUsed.toNat ≤ t.config.maxRetries.toNat →
    t'.retriesUsed.toNat ≤ t.config.maxRetries.toNat
  running : stateIsActive t'.state = true → t'.result = .none
  outcome : ∀ v, t'.result.verdict = some v →
    (t'.result = t.result ∧ ∀ answer, t.Holds v answer → t'.Holds v answer) ∨
    (v = .ok ∧ t.request.expectsResponse = 0#8) ∨
    ∃ adu length now, c = .onResponse (some adu) length now ∧ t'.Holds v (slice adu 0 length)

section Continuing
variable {t t' : Transaction} {c : TransactionCall}

theorem Transaction.Kept.holds (h : t.Kept t') {v : MasterResult} {answer : List Byte}
    (hh : t.Holds v answer) : t'.Holds v answer where
  length := h.responseAduLength.trans hh.length
  stored := by
    rw [h.responseAdu]
    exact hh.stored
  judged := by
    have hj := hh.judged
    simp only [Transaction.validate] at hj ⊢
    rw [h.request,h.requestAdu,h.requestAduLength,h.response]
    exact hj
  exceptionCode := by
    rw [h.exceptionCode,h.response]
    exact hh.exceptionCode

theorem Continues.silent (hsame : t.SameRequest t') (hidle : t.state ≠ .idle)
    (hidle' : t'.state ≠ .idle)
    (hbudget : t.retriesUsed.toNat+t'.scheduled ≤ t'.retriesUsed.toNat+t.scheduled)
    (hretries : t.retriesUsed.toNat ≤ t.config.maxRetries.toNat →
      t'.retriesUsed.toNat ≤ t.config.maxRetries.toNat)
    (hrunning : stateIsActive t'.state = true → t'.result = .none)
    (hresult : t'.result.verdict = none) : Continues t t' c [] where
  same := hsame
  frames := by simp
  idle := by simp [hidle,hidle']
  rests := fun h => absurd h hidle
  budget := by simpa using hbudget
  retries := hretries
  running := hrunning
  outcome := by simp [hresult]

theorem Continues.givenUp {now : Word32} {finalResult : TransactionResult} {sent : List (List Byte)}
    {s : Transaction} (hsame : t.SameRequest s) (hretries : s.retriesUsed = t.retriesUsed)
    (hidle : t.state ≠ .idle)
    (hnone : s.result = .none) (hfinal : finalResult.verdict = none)
    (hframes : ∀ frame ∈ sent, frame = slice t.requestAdu 0 t.requestAduLength)
    (hsent : sent.length ≤ t.scheduled) (hkept : s.Kept t') (hgiven : s.GivenUp now finalResult t') :
    Continues t t' c sent := by
  have hsame' : t.SameRequest t' := ⟨hkept.config.trans hsame.config,hkept.cookie.trans hsame.cookie,
    hkept.request.trans hsame.request,hkept.requestAdu.trans hsame.requestAdu,
    hkept.requestAduLength.trans hsame.requestAduLength⟩
  cases hgiven with
  | retry h state result deadline retries =>
    rw [hretries] at h retries
    rw [hsame.config] at h
    refine ⟨hsame',hframes,by simp [state,hidle],fun h => absurd h hidle,?_,fun _ => by omega,
      fun _ => result.trans hnone,?_⟩
    · simp only [Transaction.scheduled,state,if_true] at hsent ⊢
      omega
    · rw [result,hnone]
      exact fun _ h => by cases h
  | fail state result retries =>
    rw [hretries] at retries
    refine ⟨hsame',hframes,by simp [state,hidle],fun h => absurd h hidle,?_,
      fun h => by rw [retries]; exact h,?_,?_⟩
    · have hzero : t'.scheduled = 0 := by simp [Transaction.scheduled,state]
      rw [hzero,retries]
      omega
    · simp [state,stateIsActive]
    · rw [result,hfinal]
      exact fun _ h => by cases h

theorem Transaction.timeoutResult_verdict (t : Transaction) : t.timeoutResult.verdict = none := by
  unfold timeoutResult
  split <;> rfl

/-- The copy is judged as the frame was, so the object holds it afterwards. -/
theorem Transaction.holds_slice {adu : Mem Byte} {length : Nat} {verdict : MasterResult}
    (hlength : t.responseAduLength = length)
    (hstored : slice t.responseAdu 0 length = slice adu 0 length)
    (hjudged : t.validate adu length = (verdict,t.response))
    (hcode : verdict = .exceptionResponse → t.exceptionCode = t.response.exceptionCode) :
    t.Holds verdict (slice adu 0 length) := by
  refine ⟨by simp [hlength],by simpa using hstored,?_,hcode⟩
  rw [slice_length]
  simp only [validate] at hjudged ⊢
  rw [← hjudged]
  exact mbrtumProcessResponseWithRequestAdu_congr t.request t.requestAduLength
    (fun i hi => (agreeUpTo_ofList_slice adu length i hi).symm) _

theorem continues_judged (hnone : t.result = .none) (hstate : t.state = .waitingResponse)
    (adu : Mem Byte) (length : Nat) (now : Word32) :
    Continues t ((t.storeResponse adu length).judge (t.validate adu length).1)
      (.onResponse (some adu) length now) [] := by
  have hcopy : slice (store t.responseAdu 0 (slice adu 0 length)) 0 length = slice adu 0 length := by
    have h := slice_store t.responseAdu 0 (slice adu 0 length)
    simpa using h
  rw [t.storeResponse_eq]
  generalize hv : t.validate adu length = v
  obtain ⟨verdict,response⟩ := v
  have hwait : ∀ t' : Transaction, t.SameRequest t' → t'.state = t.state → t'.result = t.result →
      t'.retriesUsed = t.retriesUsed → Continues t t' (.onResponse (some adu) length now) [] := by
    intro t' hsame hstate' hresult hretries
    refine .silent hsame (by simp [hstate]) (by simp [hstate',hstate]) ?_ (fun h => by rw [hretries]; exact h)
      (fun _ => hresult.trans hnone) ?_
    · simp only [Transaction.scheduled,hstate',hretries]
      exact le_refl _
    · rw [hresult,hnone]
      rfl
  have hdone : ∀ t' : Transaction, t.SameRequest t' → t'.state = .complete →
      t'.retriesUsed = t.retriesUsed → (∀ v, t'.result.verdict = some v →
        t'.Holds v (slice adu 0 length)) → Continues t t' (.onResponse (some adu) length now) [] := by
    intro t' hsame hstate' hretries hholds
    refine ⟨hsame,by simp,by simp [hstate',hstate],by simp [hstate],?_,
      fun h => by rw [hretries]; exact h,by simp [hstate',stateIsActive],
      fun v h => .inr (.inr ⟨adu,length,now,rfl,hholds v h⟩)⟩
    simp [Transaction.scheduled,hstate',hretries]
  cases verdict with
  | ok =>
    refine hdone _ ⟨rfl,rfl,rfl,rfl,rfl⟩ rfl rfl fun v h => ?_
    obtain rfl := Option.some.inj h
    exact Transaction.holds_slice rfl hcopy hv fun hc => by cases hc
  | exceptionResponse =>
    refine hdone _ ⟨rfl,rfl,rfl,rfl,rfl⟩ rfl rfl fun v h => ?_
    obtain rfl := Option.some.inj h
    exact Transaction.holds_slice rfl hcopy hv fun _ => rfl
  | _ => exact hwait _ ⟨rfl,rfl,rfl,rfl,rfl⟩ rfl rfl rfl

theorem Continues.refl (hrunning : stateIsActive t.state = true → t.result = .none) :
    Continues t t c [] :=
  ⟨⟨rfl,rfl,rfl,rfl,rfl⟩,by simp,Iff.rfl,fun _ => ⟨rfl,rfl⟩,by simp,id,hrunning,
    fun v _ => .inl ⟨rfl,fun _ h => h⟩⟩

theorem Moves.continues {out : TransactionCode × List (List Byte)} (hm : Moves t c out t')
    (hrunning : stateIsActive t.state = true → t.result = .none)
    (hopens : ∀ request adu length now answer, c = .start request adu length now answer →
      out.1 ≠ .ok) : Continues t t' c out.2 := by
  have hactive : ∀ {state : TransactionState}, t.state = state → stateIsActive state = true →
      t.result = .none := fun hs ha => hrunning (by rw [hs]; exact ha)
  cases hm with
  | refused c code hcode hc => exact .refl hrunning
  | rested now answer hdue => exact .refl hrunning
  | started request adu length now answer hidle hlength hmatch => exact absurd rfl (hopens _ _ _ _ _ rfl)
  | retried now answer hstate hdue =>
    have hnone := hactive hstate rfl
    by_cases hz : answer = 0
    · simp only [Transaction.beginTransmit,hz,if_true]
      refine ⟨⟨rfl,rfl,rfl,rfl,rfl⟩,fun frame h => List.mem_singleton.mp h,?_,by simp [hstate],?_,id,
        fun _ => hnone,?_⟩
      · simp [Transaction.sending,Transaction.count,hstate]
      · simp only [Transaction.scheduled,hstate,Transaction.sending,Transaction.count,
          Transaction.clearResponse]
        simp
        omega
      · rw [show t.sending.result = t.result from rfl,hnone]
        exact fun _ h => by cases h
    · obtain ⟨hk,hg,-⟩ := t.sending.transportFailed_spec now
      simp only [Transaction.beginTransmit,hz,if_false]
      refine .givenUp (s := t.sending) ⟨rfl,rfl,rfl,rfl,rfl⟩ rfl (by simp [hstate])
        hnone rfl (fun frame h => List.mem_singleton.mp h) ?_ hk hg
      simp [Transaction.scheduled,hstate]
  | timedOut c now t' hc hstate hdue hkept hgiven =>
    exact .givenUp ⟨rfl,rfl,rfl,rfl,rfl⟩ rfl (by simp [hstate]) (hactive hstate rfl)
      t.timeoutResult_verdict (by simp) (by simp) hkept hgiven
  | sentUnanswered now t' hstate hnone hkept hdone hresult hretries =>
    refine ⟨hkept.toSameRequest,by simp,by simp [hstate,hdone],by simp [hstate],?_,fun h => by rw [hretries]; exact h,
      by simp [hdone,stateIsActive],fun v h => .inr (.inl ⟨?_,hnone⟩)⟩
    · simp [Transaction.scheduled,hdone,hretries]
    · rw [hresult] at h
      exact (Option.some.inj h).symm
  | sent now hstate hsome =>
    refine .silent ⟨rfl,rfl,rfl,rfl,rfl⟩ (by simp [hstate]) (by simp) ?_ id (fun _ => hactive hstate rfl) ?_
    · simp [Transaction.scheduled,hstate]
    · simp [hactive hstate rfl,TransactionResult.verdict]
  | failed now hstate =>
    obtain ⟨hk,hg,-⟩ := t.transportFailed_spec now
    exact .givenUp ⟨rfl,rfl,rfl,rfl,rfl⟩ rfl (by simp [hstate]) (hactive hstate rfl)
      rfl (by simp) (by simp) hk hg
  | wrongLength adu length now hstate hearly hlength =>
    have hne : t.state ≠ .idle := by simp [hstate]
    refine .silent ⟨rfl,rfl,rfl,rfl,rfl⟩ hne hne (le_refl _) id (fun _ => hactive hstate rfl) ?_
    simp [Transaction.noteMalformed,Transaction.count,hactive hstate rfl,TransactionResult.verdict]
  | judged adu length now hstate hearly hlength =>
    exact continues_judged (hactive hstate rfl) hstate adu length now
  | cancelled t' hactive' hkept hstate hresult hretries =>
    have hne : t.state ≠ .idle := by
      intro h
      simp [h,stateIsActive] at hactive'
    refine .silent hkept.toSameRequest hne (by simp [hstate]) ?_ (fun h => by rw [hretries]; exact h)
      (by simp [hstate,stateIsActive]) (by simp [hresult,TransactionResult.verdict])
    simp [Transaction.scheduled,hstate,hretries]

structure OpenedWith (t t' : Transaction) (request : Request) (adu : List Byte) : Prop where
  config : t'.config = t.config
  cookie : t'.initializationCookie = t.initializationCookie
  request : t'.request = request
  length : t'.requestAduLength = adu.length
  adu : slice t'.requestAdu 0 adu.length = adu
  retries : t'.retriesUsed.toNat ≤ t.config.maxRetries.toNat
  budget : 1+t'.scheduled ≤ t'.retriesUsed.toNat+1
  state : t'.state ≠ .idle
  running : stateIsActive t'.state = true → t'.result = .none
  verdict : t'.result.verdict = none
  unalarmed : t'.sawResponseError = 0#8 ∧ t'.result ≠ .responseError

theorem Transaction.load_adu (t : Transaction) (request : Request) (adu : List Byte) :
    slice (t.load request (ofList adu) adu.length).requestAdu 0 adu.length = adu := by
  have h := slice_store t.requestAdu 0 (slice (ofList adu) 0 adu.length)
  rw [slice_length,slice_ofList] at h
  show slice (store t.requestAdu 0 (slice (ofList adu) 0 adu.length)) 0 adu.length = adu
  rw [slice_ofList]
  exact h

theorem Moves.opens {request : Request} {adu : List Byte} {now : Word32} {answer : Int}
    {out : TransactionCode × List (List Byte)}
    (hm : Moves t (.start (some request) (some (ofList adu)) adu.length now answer) out t')
    (hok : out.1 = .ok) : OpenedWith t t' request adu ∧ out.2 = [adu] := by
  cases hm with
  | refused _ _ hcode _ => exact absurd hok hcode
  | timedOut _ _ _ hc _ _ _ _ => rcases hc with ⟨_,hc⟩ | ⟨_,_,hc⟩ <;> cases hc
  | started _ _ _ _ _ hidle hlength hmatch =>
    have hadu := t.load_adu request adu
    refine ⟨?_,congrArg (fun frame => [frame]) hadu⟩
    by_cases hz : answer = 0
    · have he : ((t.load request (ofList adu) adu.length).beginTransmit answer now).2 =
          (t.load request (ofList adu) adu.length).sending := if_pos hz
      rw [he]
      exact ⟨rfl,rfl,rfl,rfl,hadu,Nat.zero_le _,le_refl _,TransactionState.noConfusion,fun _ => rfl,rfl,
        rfl,TransactionResult.noConfusion⟩
    · have he : ((t.load request (ofList adu) adu.length).beginTransmit answer now).2 =
          (t.load request (ofList adu) adu.length).sending.transportFailed now := if_neg hz
      rw [he]
      obtain ⟨hk,hg,-⟩ :=
        (t.load request (ofList adu) adu.length).sending.transportFailed_spec now
      have hadu' := (congrArg (slice · 0 adu.length) hk.requestAdu).trans hadu
      cases hg with
      | retry hlt state result deadline retries =>
        refine ⟨hk.config,hk.cookie,hk.request,hk.requestAduLength,hadu',?_,?_,by simp [state],
          fun _ => result,by rw [result]; rfl,hk.sawResponseError,?_⟩
        · rw [retries]
          exact hlt
        · rw [retries]
          simp [Transaction.scheduled,state]
        · rw [result]
          exact TransactionResult.noConfusion
      | fail state result retries =>
        refine ⟨hk.config,hk.cookie,hk.request,hk.requestAduLength,hadu',?_,?_,by simp [state],
          by simp [state,stateIsActive],by rw [result]; rfl,hk.sawResponseError,by simp [result]⟩
        · rw [retries]
          exact Nat.zero_le _
        · simp [Transaction.scheduled,state]

end Continuing

theorem validateRequestDescriptor_ne_exception (request : Request) :
    validateRequestDescriptor request ≠ .exceptionResponse := by
  unfold validateRequestDescriptor validateFunctionFields
  repeat' split
  all_goals exact fun h => by cases h

/-- A damaged frame is never the response. -/
theorem Transaction.validate_damaged (t : Transaction) (f : DamagedFrame) :
    (t.validate f.frame.request f.frame.len).1 ≠ .ok ∧
      (t.validate f.frame.request f.frame.len).1 ≠ .exceptionResponse := by
  have hcheck : ∀ request adu length, (checkResponse request adu length f.frame.request
      f.frame.len).1 = .errorResponseLength ∨
      (checkResponse request adu length f.frame.request f.frame.len).1 = .errorCrc := by
    intro request adu length
    unfold checkResponse
    split
    · exact .inl rfl
    · rename_i hlength
      rw [if_pos]
      · exact .inr rfl
      · intro hzero
        have hd := f.damaged
        obtain ⟨n,hn⟩ := Nat.exists_eq_add_of_le' (show 2 ≤ f.frame.len by omega)
        rw [hn,mbCrc16_eq_zero_iff,← crcMatches_iff,← hn] at hzero
        simp only [RtuFrame.isIntact,decide_eq_false_iff_not] at hd
        exact hd ⟨by omega,by omega,hzero⟩
  unfold validate mbrtumProcessResponseWithRequestAdu
  dsimp only
  split
  · split
    · exact ⟨by simp [reject],by simp [reject]⟩
    · rcases hcheck t.request (some t.requestAdu |>.getD fun _ => 0) t.requestAduLength with h | h
      · rw [h]
        simp
      · rw [h]
        simp
  · rename_i hnot
    exact ⟨fun h => hnot h,fun h => validateRequestDescriptor_ne_exception t.request h⟩

/-! The history of the line. -/

namespace LineRecord
variable (r : LineRecord)

def opens : Bool :=
  match r.input with
  | .request .. => r.output.1 = .ok
  | _ => false

/-- The program of this slave uses its data model. -/
def serves (a : Byte) : Bool :=
  match r.input with
  | .serve c _ => c = a
  | _ => false

def carries : Bool :=
  match r.input with
  | .transmit _ => !r.before.requests.isEmpty
  | _ => false

def Answers (cfg : Platform) (b : BuiltCall) (answer : List Byte) : Prop :=
  ∃ reach policy, r.input = .transmit reach ∧ r.before.requests.head? = some b.adu ∧
    reach b.address = .intact policy ∧ rtuStep cfg b.address (r.before.slaves b.address)
      (b.wire.arrival b.address policy) = (.responseReady answer,r.after.slaves b.address)

theorem Answers.carries {r : LineRecord} {cfg : Platform} {b : BuiltCall} {answer : List Byte}
    (h : r.Answers cfg b answer) : r.carries = true := by
  obtain ⟨reach,policy,hinput,hhead,-⟩ := h
  unfold LineRecord.carries
  rw [hinput]
  cases hrequests : r.before.requests with
  | nil => simp [hrequests] at hhead
  | cons adu queue => rfl

end LineRecord

def lineTransaction (history : List LineRecord) : List LineRecord :=
  since LineRecord.opens history

theorem mem_lineTransaction {r : LineRecord} {history : List LineRecord}
    (h : r ∈ lineTransaction history) : r ∈ history := by
  induction history using List.reverseRecOn with
  | nil => exact h
  | append_singleton history x ih =>
    cases hx : x.opens with
    | true =>
      rw [lineTransaction,since_snoc_of_pos hx] at h
      exact List.mem_append_right _ h
    | false =>
      rw [lineTransaction,since_snoc_of_neg hx] at h
      rcases List.mem_append.mp h with h | h
      · exact List.mem_append_left _ (ih h)
      · exact List.mem_append_right _ h

/-- How the slaves and the frames on the line stand to the request that opened the
transaction. -/
structure InTransaction (cfg : Platform) (l : SerialLine) (q : LineRecord) (rest : List LineRecord)
    (b : BuiltCall) : Prop where
  opened : ∃ now answer, q.input = .request b now answer
  request : l.master.request = b.request
  length : l.master.requestAduLength = b.adu.length
  adu : slice l.master.requestAdu 0 b.adu.length = b.adu
  requests : ∀ frame ∈ l.requests, frame = b.adu
  answers : ∀ p ∈ l.answers, p.1 = b.address ∧ ∃ r ∈ rest, r.Answers cfg b p.2
  attempts : rest.countP LineRecord.carries+l.requests.length+l.master.scheduled ≤
    l.master.retriesUsed.toNat+1
  effect : ∀ a, (∀ r ∈ rest, r.serves a = false) → ∃ n, n ≤ rest.countP LineRecord.carries ∧
    (l.slaves a).server.data = executed (b.effect cfg) n (q.before.slaves a).server.data ∧
    (0 < n → a = b.address ∨ b.address = 0#8) ∧
    (a = b.address → (∃ r ∈ rest, ∃ answer, r.Answers cfg b answer) → 0 < n)
  answered : ∀ r ∈ rest, (∃ answer, r.Answers cfg b answer) →
    (r.before.slaves b.address).Consistent ∧
    ((∀ r ∈ rest, r.serves b.address = false) → ∃ n, (r.before.slaves b.address).server.data =
      executed (b.effect cfg) n (q.before.slaves b.address).server.data)
  outcome : ∀ v, l.master.result.verdict = some v →
    (v = .ok ∧ b.request.expectsResponse = 0#8) ∨
    ∃ r ∈ rest, ∃ answer, r.Answers cfg b answer ∧ l.master.Holds v answer

section History
variable {cfg : Platform} {l l' : SerialLine} {q r : LineRecord} {rest : List LineRecord}
  {b : BuiltCall}

theorem InTransaction.next (h : InTransaction cfg l q rest b) {c : TransactionCall}
    {sent : List (List Byte)} (hcarries : r.carries = false)
    (hmaster : Continues l.master l'.master c sent) (hrequests : l'.requests = l.requests ++ sent)
    (hanswers : ∀ p ∈ l'.answers, p ∈ l.answers)
    (hdata : ∀ a, r.serves a = false → (l'.slaves a).server.data = (l.slaves a).server.data)
    (hresponse : ∀ v adu length now, c = .onResponse (some adu) length now →
      l'.master.Holds v (slice adu 0 length) → v = .ok ∨ v = .exceptionResponse →
      ∃ r ∈ rest, r.Answers cfg b (slice adu 0 length)) :
    InTransaction cfg l' q (rest ++ [r]) b := by
  have hno : ∀ answer, ¬ r.Answers cfg b answer := by
    intro answer ha
    rw [ha.carries] at hcarries
    cases hcarries
  have hcount : (rest ++ [r]).countP LineRecord.carries = rest.countP LineRecord.carries := by
    simp [List.countP_append,hcarries]
  have hmem : ∀ {answer : List Byte}, (∃ p ∈ rest ++ [r], p.Answers cfg b answer) →
      ∃ p ∈ rest, p.Answers cfg b answer := by
    rintro answer ⟨p,hp,ha⟩
    rcases List.mem_append.mp hp with hp | hp
    · exact ⟨p,hp,ha⟩
    · rw [List.mem_singleton.mp hp] at ha
      exact absurd ha (hno answer)
  have hgrow : ∀ {answer : List Byte}, (∃ p ∈ rest, p.Answers cfg b answer) →
      ∃ p ∈ rest ++ [r], p.Answers cfg b answer := by
    rintro answer ⟨p,hp,ha⟩
    exact ⟨p,List.mem_append_left _ hp,ha⟩
  have hframes : ∀ frame ∈ sent, frame = b.adu := by
    intro frame hf
    rw [hmaster.frames frame hf,h.length,h.adu]
  exact {
  opened := h.opened
  request := hmaster.same.request.trans h.request
  length := hmaster.same.requestAduLength.trans h.length
  adu := by
    rw [hmaster.same.requestAdu]
    exact h.adu
  requests := by
    intro frame hf
    rw [hrequests] at hf
    exact (List.mem_append.mp hf).elim (h.requests frame) (hframes frame)
  answers := by
    intro p hp
    obtain ⟨ha,hr⟩ := h.answers p (hanswers p hp)
    exact ⟨ha,hgrow hr⟩
  attempts := by
    have hbudget := hmaster.budget
    have hattempts := h.attempts
    rw [hcount,hrequests,List.length_append]
    omega
  effect := by
    intro a hserves
    obtain ⟨n,hn,hd,hreach,hpos⟩ := h.effect a fun p hp => hserves p (List.mem_append_left _ hp)
    refine ⟨n,by rw [hcount]; exact hn,?_,hreach,fun ha hanswered => hpos ha ?_⟩
    · rw [hdata a (hserves r (by simp)),hd]
    · obtain ⟨p,hp,answer,hanswer⟩ := hanswered
      obtain ⟨p,hp,hanswer⟩ := hmem ⟨p,hp,hanswer⟩
      exact ⟨p,hp,answer,hanswer⟩
  answered := by
    rintro p hp ⟨answer,hanswer⟩
    rcases List.mem_append.mp hp with hp | hp
    · obtain ⟨hc,hd⟩ := h.answered p hp ⟨answer,hanswer⟩
      exact ⟨hc,fun hserves => hd fun p hp => hserves p (List.mem_append_left _ hp)⟩
    · rw [List.mem_singleton.mp hp] at hanswer
      exact absurd hanswer (hno answer)
  outcome := by
    intro v hv
    rcases hmaster.outcome v hv with ⟨hsame,hkeeps⟩ | ⟨hok,hnone⟩ | ⟨adu,length,now,hc,hholds⟩
    · rw [hsame] at hv
      rcases h.outcome v hv with hnone | ⟨p,hp,answer,hanswer,hheld⟩
      · exact .inl hnone
      · exact .inr ⟨p,List.mem_append_left _ hp,answer,hanswer,hkeeps answer hheld⟩
    · exact .inl ⟨hok,by rw [← h.request]; exact hnone⟩
    · have hor : v = .ok ∨ v = .exceptionResponse := by
        unfold TransactionResult.verdict at hv
        split at hv
        · exact .inl (Option.some.inj hv).symm
        · exact .inr (Option.some.inj hv).symm
        · cases hv
      obtain ⟨p,hp,hanswer⟩ := hresponse v adu length now hc hholds hor
      exact .inr ⟨p,List.mem_append_left _ hp,_,hanswer,hholds⟩ }

theorem InTransaction.transmit (h : InTransaction cfg l q rest b) {reach : Byte → Reception}
    {adu : List Byte} {queue : List (List Byte)} (hqueue : l.requests = adu :: queue)
    (hsound : ∀ a, (l.slaves a).Consistent) :
    InTransaction cfg { l.carry cfg adu reach with requests := queue } q
      (rest ++ [⟨l,.transmit reach,(lineStep cfg l (.transmit reach)).1,
        { l.carry cfg adu reach with requests := queue }⟩]) b := by
  have hadu : adu = b.adu := h.requests adu (by simp [hqueue])
  subst hadu
  set r : LineRecord := ⟨l,.transmit reach,(lineStep cfg l (.transmit reach)).1,
    { l.carry cfg b.adu reach with requests := queue }⟩ with hr
  have hcarries : r.carries = true := by simp [LineRecord.carries,r,hqueue]
  have hcount : (rest ++ [r]).countP LineRecord.carries = rest.countP LineRecord.carries+1 := by
    simp [List.countP_append,hcarries]
  have hslave : ∀ a, r.after.slaves a = ((l.slaves a).receive cfg a b.adu (reach a)).2 :=
    fun a => rfl
  -- a ready result of the addressed slave is an answer in the sense of the history
  have hready : ∀ p ∈ l.answersTo cfg b.adu reach, p.1 = b.address ∧ r.Answers cfg b p.2 := by
    intro p hp
    obtain ⟨-,haddress,-,policy,hreach,hresult⟩ := mem_answersTo hp
    rw [b.adu_head] at haddress
    refine ⟨haddress,reach,policy,rfl,by simp [r,hqueue],haddress ▸ hreach,?_⟩
    rw [haddress] at hresult hreach
    refine Prod.ext ?_ ?_
    · rw [← b.lineFrame_eq]
      exact hresult
    · show _ = ((l.slaves b.address).receive cfg b.address b.adu (reach b.address)).2
      rw [hreach,← b.lineFrame_eq]
      rfl
  have hexecutes : ∀ answer, r.Answers cfg b answer →
      ((l.slaves b.address).receive cfg b.address b.adu (reach b.address)).1 =
        .responseReady answer := by
    rintro answer ⟨reach',policy,hinput,-,hreach,hstep⟩
    obtain rfl : reach = reach' := LineInput.transmit.inj hinput
    rw [hreach,Slave.receive,slaveStep,b.lineFrame_eq]
    exact congrArg Prod.fst hstep
  have hold : ∀ {answer : List Byte}, (∃ p ∈ rest, p.Answers cfg b answer) →
      ∃ p ∈ rest ++ [r], p.Answers cfg b answer := by
    rintro answer ⟨p,hp,ha⟩
    exact ⟨p,List.mem_append_left _ hp,ha⟩
  exact {
  opened := h.opened
  request := h.request
  length := h.length
  adu := h.adu
  requests := fun frame hf => h.requests frame (by rw [hqueue]; exact List.mem_cons_of_mem _ hf)
  answers := by
    intro p hp
    rcases List.mem_append.mp hp with hp | hp
    · obtain ⟨ha,hanswered⟩ := h.answers p hp
      exact ⟨ha,hold hanswered⟩
    · obtain ⟨ha,hanswer⟩ := hready p hp
      exact ⟨ha,r,by simp,hanswer⟩
  attempts := by
    have hattempts := h.attempts
    rw [hqueue,List.length_cons] at hattempts
    rw [hcount]
    show rest.countP LineRecord.carries+1+queue.length+l.master.scheduled ≤ _
    exact le_trans (by omega) hattempts
  effect := by
    intro a hserves
    obtain ⟨n,hn,hd,hreach,hpos⟩ := h.effect a fun p hp => hserves p (List.mem_append_left _ hp)
    show ∃ n, _ ∧ ((l.slaves a).receive cfg a b.adu (reach a)).2.server.data = _ ∧ _
    rcases (Slave.receive_request b : ((l.slaves a).receive cfg a b.adu (reach a)).2.server.data = _ ∧
        _ ∨ _) with
      ⟨hdata,hsilent⟩ | ⟨hdata,haddressed⟩
    · refine ⟨n,by rw [hcount]; omega,hdata.trans hd,hreach,?_⟩
      rintro rfl ⟨p,hp,answer,hanswer⟩
      rcases List.mem_append.mp hp with hp | hp
      · exact hpos rfl ⟨p,hp,answer,hanswer⟩
      · rw [List.mem_singleton.mp hp] at hanswer
        rw [hexecutes answer hanswer] at hsilent
        cases hsilent
    · refine ⟨n+1,by rw [hcount]; omega,?_,fun _ => haddressed,fun _ _ => Nat.succ_pos n⟩
      rw [hdata,hd,executed_succ]
  answered := by
    rintro p hp ⟨answer,hanswer⟩
    rcases List.mem_append.mp hp with hp | hp
    · obtain ⟨hc,hd⟩ := h.answered p hp ⟨answer,hanswer⟩
      exact ⟨hc,fun hserves => hd fun p hp => hserves p (List.mem_append_left _ hp)⟩
    · rw [List.mem_singleton.mp hp]
      refine ⟨hsound b.address,fun hserves => ?_⟩
      obtain ⟨n,-,hd,-⟩ := h.effect b.address fun p hp => hserves p (List.mem_append_left _ hp)
      exact ⟨n,hd⟩
  outcome := by
    intro v hv
    rcases h.outcome v hv with hnone | ⟨p,hp,answer,hanswer,hheld⟩
    · exact .inl hnone
    · exact .inr ⟨p,List.mem_append_left _ hp,answer,hanswer,hheld⟩ }

end History

/-! The invariant of the line. -/

/-- A transaction is started on a line that has gone quiet. -/
def QuietStart (r : LineRecord) : Prop :=
  r.opens = true → r.before.requests = [] ∧ r.before.answers = []

structure LineInvariant (cfg : Platform) (config : TransactionConfig) (l : SerialLine)
    (history : List LineRecord) : Prop where
  initialized : l.master.isInitialized = true
  config_eq : l.master.config = config
  retries : l.master.retriesUsed.toNat ≤ config.maxRetries.toNat
  running : stateIsActive l.master.state = true → l.master.result = .none
  consistent : ∀ a, (l.slaves a).Consistent
  fresh : l.master.state = .idle → l.requests = [] ∧ l.answers = [] ∧ l.master.result = .none ∧
    ∀ r ∈ history, r.opens = false
  current : l.master.state ≠ .idle → ∃ q rest b, lineTransaction history = q :: rest ∧
    InTransaction cfg l q rest b

section Steps
variable {cfg : Platform} {config : TransactionConfig} {l l' : SerialLine}
  {history : List LineRecord} {r : LineRecord}

theorem LineInvariant.next (h : LineInvariant cfg config l history) {c : TransactionCall}
    {sent : List (List Byte)} (hopens : r.opens = false)
    (hcarries : r.carries = false)
    (hmaster : Continues l.master l'.master c sent) (hrequests : l'.requests = l.requests ++ sent)
    (hanswers : ∀ p ∈ l'.answers, p ∈ l.answers)
    (hdata : ∀ a, r.serves a = false → (l'.slaves a).server.data = (l.slaves a).server.data)
    (hconsistent : ∀ a, (l'.slaves a).Consistent)
    (hresponse : ∀ q rest b, InTransaction cfg l q rest b → ∀ v adu length now,
      c = .onResponse (some adu) length now → l'.master.Holds v (slice adu 0 length) →
      v = .ok ∨ v = .exceptionResponse → ∃ r ∈ rest, r.Answers cfg b (slice adu 0 length)) :
    LineInvariant cfg config l' (history ++ [r]) where
  initialized := by
    have hinit := h.initialized
    simp only [Transaction.isInitialized] at hinit ⊢
    rw [hmaster.same.cookie]
    exact hinit
  config_eq := hmaster.same.config.trans h.config_eq
  retries := by
    have hretries := hmaster.retries
    rw [h.config_eq] at hretries
    exact hretries h.retries
  running := hmaster.running
  consistent := hconsistent
  fresh := by
    intro hidle
    have hidle' := hmaster.idle.mp hidle
    obtain ⟨hnone,hno,hresult,hhistory⟩ := h.fresh hidle'
    obtain ⟨hsent,hsame⟩ := hmaster.rests hidle'
    refine ⟨by rw [hrequests,hnone,hsent]; rfl,?_,by rw [hsame]; exact hresult,?_⟩
    · refine List.eq_nil_iff_forall_not_mem.mpr fun p hp => ?_
      have := hanswers p hp
      rw [hno] at this
      simp at this
    · intro p hp
      rcases List.mem_append.mp hp with hp | hp
      · exact hhistory p hp
      · rw [List.mem_singleton.mp hp]
        exact hopens
  current := by
    intro hidle
    obtain ⟨q,rest,b,hq,hi⟩ := h.current fun h => hidle (hmaster.idle.mpr h)
    refine ⟨q,rest ++ [r],b,?_,?_⟩
    · rw [lineTransaction,since_snoc_of_neg hopens]
      exact congrArg (· ++ [r]) hq
    · exact hi.next hcarries hmaster hrequests hanswers hdata (hresponse q rest b hi)

theorem LineInvariant.called (h : LineInvariant cfg config l history) {c : TransactionCall}
    (hopens : r.opens = false) (hcarries : r.carries = false)
    (hstart : ∀ request adu length now answer, c = .start request adu length now answer →
      (transactionStep l.master c).1.1 ≠ .ok)
    (hresponse : ∀ q rest b, InTransaction cfg l q rest b → ∀ v adu length now,
      c = .onResponse (some adu) length now → (l.call c).2.master.Holds v (slice adu 0 length) →
      v = .ok ∨ v = .exceptionResponse → ∃ r ∈ rest, r.Answers cfg b (slice adu 0 length)) :
    LineInvariant cfg config (l.call c).2 (history ++ [r]) :=
  h.next hopens hcarries ((transactionStep_moves h.initialized c).continues h.running hstart) rfl
    (fun _ hp => hp) (fun _ _ => rfl) h.consistent hresponse

theorem LineInvariant.polled (h : LineInvariant cfg config l history) {c : TransactionCall}
    (hopens : r.opens = false) (hcarries : r.carries = false)
    (hstart : ∀ request adu length now answer, c ≠ .start request adu length now answer)
    (hresponse : ∀ adu length now, c ≠ .onResponse adu length now) :
    LineInvariant cfg config (l.call c).2 (history ++ [r]) :=
  h.called hopens hcarries (fun _ _ _ _ _ hc => absurd hc (hstart _ _ _ _ _))
    fun _ _ _ _ _ _ _ _ hc => absurd hc (hresponse _ _ _)

theorem LineInvariant.rested (h : LineInvariant cfg config l history) (hopens : r.opens = false)
    (hcarries : r.carries = false) : LineInvariant cfg config l (history ++ [r]) :=
  h.next hopens hcarries (.refl (c := .cancel) h.running) (List.append_nil _).symm (fun _ hp => hp)
    (fun _ _ => rfl) h.consistent fun _ _ _ _ _ _ _ _ hc => by cases hc

theorem LineInvariant.updated (h : LineInvariant cfg config l history) {a : Byte} {x : SlaveInput}
    (hopens : r.opens = false) (hcarries : r.carries = false)
    (hdata : r.serves a = false →
      (slaveStep cfg a (l.slaves a) x).2.server.data = (l.slaves a).server.data) :
    LineInvariant cfg config (l.updateSlave cfg a x) (history ++ [r]) := by
  refine h.next hopens hcarries (.refl (c := .cancel) h.running) (List.append_nil _).symm
    (fun _ hp => hp) ?_ ?_ fun _ _ _ _ _ _ _ _ hc => by cases hc
  · intro c hserves
    show (if c = a then (slaveStep cfg a (l.slaves a) x).2 else l.slaves c).server.data = _
    split
    · rename_i hca
      subst hca
      exact hdata hserves
    · rfl
  · intro c
    show (if c = a then (slaveStep cfg a (l.slaves a) x).2 else l.slaves c).Consistent
    split
    · exact slaveStep_consistent x (h.consistent a)
    · exact h.consistent c

theorem LineInvariant.started (h : LineInvariant cfg config l history) {b : BuiltCall}
    {now : Word32} {answer : Int} {out : TransactionCode × List (List Byte)}
    (hquiet : l.requests = [] ∧ l.answers = []) (hr : r = ⟨l,.request b now answer,out,l'⟩)
    (hopens : r.opens = true) (hsent : out.2 = [b.adu]) (hrequests : l'.requests = l.requests ++ out.2)
    (hanswers : l'.answers = l.answers) (hslaves : l'.slaves = l.slaves)
    (ho : OpenedWith l.master l'.master b.request b.adu) :
    LineInvariant cfg config l' (history ++ [r]) := by
  have hopened : lineTransaction (history ++ [r]) = [r] := since_snoc_of_pos hopens
  have hbefore : r.before = l := by rw [hr]
  refine ⟨?_,ho.config.trans h.config_eq,h.config_eq ▸ ho.retries,ho.running,
    fun a => by rw [hslaves]; exact h.consistent a,fun hi => absurd hi ho.state,
    fun _ => ⟨r,[],b,hopened,?_⟩⟩
  · have hinit := h.initialized
    simp only [Transaction.isInitialized] at hinit ⊢
    rw [ho.cookie]
    exact hinit
  · exact {
    opened := ⟨now,answer,by rw [hr]⟩
    request := ho.request
    length := ho.length
    adu := ho.adu
    requests := by
      rw [hrequests,hquiet.1,hsent]
      exact fun frame hf => List.mem_singleton.mp hf
    answers := by
      rw [hanswers,hquiet.2]
      simp
    attempts := by
      rw [hrequests,hquiet.1,hsent]
      simpa using ho.budget
    effect := fun a _ => ⟨0,Nat.zero_le _,by rw [hslaves,hbefore]; rfl,
      fun hn => absurd hn (Nat.lt_irrefl 0),fun _ hr => by simp at hr⟩
    answered := by simp
    outcome := by
      rw [ho.verdict]
      exact fun _ hv => by cases hv }

theorem LineInvariant.transmitted (h : LineInvariant cfg config l history)
    {reach : Byte → Reception} :
    LineInvariant cfg config (lineStep cfg l (.transmit reach)).2
      (history ++ [⟨l,.transmit reach,(lineStep cfg l (.transmit reach)).1,
        (lineStep cfg l (.transmit reach)).2⟩]) := by
  cases hqueue : l.requests with
  | nil =>
    have hstep : lineStep cfg l (.transmit reach) = ((.ok,[]),l) := by simp [lineStep,hqueue]
    rw [hstep]
    exact h.rested rfl (by simp [LineRecord.carries,hqueue])
  | cons adu queue =>
    have hstep : lineStep cfg l (.transmit reach) = ((.ok,(l.answersTo cfg adu reach).map Prod.snd),
        { l.carry cfg adu reach with requests := queue }) := by simp [lineStep,hqueue]
    have hnidle : l.master.state ≠ .idle := by
      intro hidle
      have hnone := (h.fresh hidle).1
      rw [hqueue] at hnone
      cases hnone
    have hafter : (lineStep cfg l (.transmit reach)).2 =
        { l.carry cfg adu reach with requests := queue } := by rw [hstep]
    rw [hafter]
    refine ⟨h.initialized,h.config_eq,h.retries,h.running,
      fun a => Slave.receive_consistent (h.consistent a),fun hidle => absurd hidle hnidle,fun _ => ?_⟩
    obtain ⟨q,rest,b,hq,hi⟩ := h.current hnidle
    refine ⟨q,_,b,?_,hi.transmit hqueue h.consistent⟩
    rw [lineTransaction,since_snoc_of_neg rfl]
    exact congrArg (· ++ [_]) hq

theorem LineInvariant.replied (h : LineInvariant cfg config l history) {reach : Byte → Reception}
    {heard : Bool} {now : Word32} (hopens : r.opens = false)
    (hcarries : r.carries = false) :
    LineInvariant cfg config (lineStep cfg l (.reply reach heard now)).2 (history ++ [r]) := by
  cases hqueue : l.answers with
  | nil =>
    have hstep : lineStep cfg l (.reply reach heard now) = ((.ok,[]),l) := by simp [lineStep,hqueue]
    rw [hstep]
    exact h.rested hopens hcarries
  | cons p queue =>
    obtain ⟨a,adu⟩ := p
    have hnidle : l.master.state ≠ .idle := by
      intro hidle
      have hnone := (h.fresh hidle).2.1
      rw [hqueue] at hnone
      cases hnone
    -- the frame is the answer of a slave, so the others take it for somebody else's
    obtain ⟨q,rest,b,hq,hi⟩ := h.current hnidle
    obtain ⟨ha,p,hp,hanswers⟩ := hi.answers (a,adu) (by simp [hqueue])
    obtain ⟨-,policy,-,-,-,hready⟩ := id hanswers
    obtain ⟨-,hne,pdu,hpdu⟩ := rtuStep_ready rfl (congrArg Prod.fst hready)
    have ha' : a = b.address := ha
    have hadu : adu = appendCrc (a :: pdu) := by rw [ha']; exact hpdu
    set others := SerialLine.heardBy (some a) reach with hothers
    set l₁ : SerialLine := { l with answers := queue }.carry cfg adu others with hl₁
    have hanswers₁ : l₁.answers = queue := by
      rw [hl₁,hothers,hadu]
      exact overheard_answers
    have hsub : ∀ p ∈ l₁.answers, p ∈ l.answers := by
      intro p hp
      rw [hanswers₁] at hp
      rw [hqueue]
      exact List.mem_cons_of_mem _ hp
    have hdata : ∀ c, (l₁.slaves c).server = (l.slaves c).server := by
      rw [hl₁,hothers,hadu]
      exact overheard_server (ha' ▸ hne)
    have hconsistent : ∀ c, (l₁.slaves c).Consistent := fun c =>
      Slave.receive_consistent (h.consistent c)
    cases heard with
    | false =>
      have hstep : lineStep cfg l (.reply reach false now) = ((.ok,[]),l₁) := by
        simp [lineStep,hqueue,hl₁,hothers]
      rw [hstep]
      exact h.next hopens hcarries (.refl (c := .cancel) h.running) (List.append_nil _).symm hsub
        (fun c _ => by rw [hdata]) hconsistent fun _ _ _ _ _ _ _ _ hc => by cases hc
    | true =>
      have hstep : lineStep cfg l (.reply reach true now) =
          l₁.call (.onResponse (some (ofList adu)) adu.length now) := by
        simp [lineStep,hqueue,hl₁,hothers]
      rw [hstep]
      have hcontinues := (transactionStep_moves h.initialized
        (.onResponse (some (ofList adu)) adu.length now)).continues h.running
          fun _ _ _ _ _ hc => by cases hc
      refine h.next hopens hcarries hcontinues rfl hsub (fun c _ => by
        show (l₁.slaves c).server.data = _; rw [hdata]) hconsistent ?_
      intro q rest b hi v adu' length now' hc _ _
      obtain ⟨hadu',rfl,-⟩ := TransactionCall.onResponse.inj hc
      obtain rfl := Option.some.inj hadu'
      rw [slice_ofList]
      exact (hi.answers (a,adu) (by simp [hqueue])).2

theorem LineInvariant.step (h : LineInvariant cfg config l history) (x : LineInput)
    (hquiet : QuietStart ⟨l,x,(lineStep cfg l x).1,(lineStep cfg l x).2⟩) :
    LineInvariant cfg config (lineStep cfg l x).2
      (history ++ [⟨l,x,(lineStep cfg l x).1,(lineStep cfg l x).2⟩]) := by
  cases x with
  | request b now answer =>
    cases hopens : LineRecord.opens ⟨l,.request b now answer,
        (lineStep cfg l (.request b now answer)).1,(lineStep cfg l (.request b now answer)).2⟩ with
    | true =>
      obtain ⟨ho,hsent⟩ := (transactionStep_moves h.initialized
        (.start (some b.request) (some (ofList b.adu)) b.adu.length now answer)).opens
          (of_decide_eq_true hopens)
      exact h.started (hquiet hopens) rfl hopens hsent rfl rfl rfl ho
    | false =>
      have hcode := of_decide_eq_false hopens
      exact h.called hopens rfl (fun _ _ _ _ _ _ => hcode) fun _ _ _ _ _ _ _ _ hc => by cases hc
  | poll now answer =>
    exact h.polled rfl rfl (fun _ _ _ _ _ h => by cases h) (fun _ _ _ h => by cases h)
  | onTxComplete now =>
    exact h.polled rfl rfl (fun _ _ _ _ _ h => by cases h) (fun _ _ _ h => by cases h)
  | onTxError now =>
    exact h.polled rfl rfl (fun _ _ _ _ _ h => by cases h) (fun _ _ _ h => by cases h)
  | cancel => exact h.polled rfl rfl (fun _ _ _ _ _ h => by cases h) (fun _ _ _ h => by cases h)
  | transmit reach => exact h.transmitted
  | reply reach heard now => exact h.replied rfl rfl
  | noise a n =>
    exact h.updated (x := n.input) rfl rfl fun _ => congrArg Server.data (slaveStep_noise n)
  | masterNoise f now =>
    refine h.called (c := .onResponse (some f.frame.request) f.frame.len now) rfl rfl
      (fun _ _ _ _ _ hc => by cases hc) ?_
    intro q rest b hi v adu length now' hc hholds hv
    obtain ⟨hadu,rfl,-⟩ := TransactionCall.onResponse.inj hc
    obtain rfl := Option.some.inj hadu
    have hjudged := hholds.judged
    rw [slice_length] at hjudged
    have hsame : ((l.call (.onResponse (some f.frame.request) f.frame.len now)).2.master.validate
        f.frame.request f.frame.len).1 = v :=
      (congrArg Prod.fst (mbrtumProcessResponseWithRequestAdu_congr _ _
        (agreeUpTo_ofList_slice f.frame.request f.frame.len) _)).trans (congrArg Prod.fst hjudged)
    obtain ⟨hok,hexception⟩ := Transaction.validate_damaged
      (l.call (.onResponse (some f.frame.request) f.frame.len now)).2.master f
    rcases hv with rfl | rfl
    · exact absurd hsame hok
    · exact absurd hsame hexception
  | serve a c =>
    refine h.updated (x := .call c) rfl rfl fun hserves => ?_
    simp [LineRecord.serves] at hserves
  | diagnose a c => exact h.updated (x := .diagnosticsCall c) rfl rfl fun _ => rfl

end Steps

structure SerialLine.Initial (config : TransactionConfig) (l : SerialLine) : Prop where
  master : mbrtumTransactionInit (some config) true = .ok l.master
  slaves : ∀ a, ∃ data hasDiagnostics, data.deviceId = .cleared ∧
    l.slaves a = .initial data hasDiagnostics
  requests : l.requests = []
  answers : l.answers = []

theorem lineInvariant_run {cfg : Platform} {config : TransactionConfig} {l : SerialLine}
    (hinit : l.Initial config) (inputs : List LineInput)
    (hquiet : ∀ r ∈ records (lineStep cfg) l inputs, QuietStart r) :
    LineInvariant cfg config (run (lineStep cfg) l inputs) (records (lineStep cfg) l inputs) := by
  revert hquiet
  refine history_invariant
    (fun l history => (∀ r ∈ history, QuietStart r) → LineInvariant cfg config l history)
    ?_ ?_ inputs
  · intro l history x ih hquiet
    exact (ih fun r hr => hquiet r (List.mem_append_left _ hr)).step x (hquiet _ (by simp))
  · intro _
    obtain ⟨hi,hc,hs,hresult,hr,-⟩ := mbrtumTransactionInit_spec hinit.master
    refine ⟨hi,hc,by simp [hr],fun _ => hresult,fun a => ?_,fun _ => ?_,by simp [hs]⟩
    · obtain ⟨data,hasDiagnostics,hcleared,hslave⟩ := hinit.slaves a
      rw [hslave]
      exact ⟨Slave.initial_sound data hasDiagnostics,
        .inl (congrArg DeviceIdState.configured hcleared)⟩
    · exact ⟨hinit.requests,hinit.answers,hresult,by simp⟩

end ModbusStack
