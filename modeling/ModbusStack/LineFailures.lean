import ModbusStack.LineResults

/-! Who talks on the line, and what the failures of the master say: nothing was heard in time, or
something damaged was. -/
set_option autoImplicit false

namespace ModbusStack
open ByteMemory Machine Retransmission

/-! One talker at a time. -/

def SerialLine.AnswersFramed (l : SerialLine) : Prop :=
  ∀ p ∈ l.answers, p.1 ≠ 0#8 ∧ ∃ pdu, p.2 = appendCrc (p.1 :: pdu)

section Talkers
variable {cfg : Platform} {l : SerialLine}

theorem SerialLine.AnswersFramed.carry (h : l.AnswersFramed) (adu : List Byte)
    (reach : Byte → Reception) : (l.carry cfg adu reach).AnswersFramed := by
  intro p hp
  rcases List.mem_append.mp hp with hp | hp
  · exact h p hp
  · obtain ⟨-,-,hpdu,policy,-,hready⟩ := mem_answersTo hp
    exact ⟨(rtuStep_ready rfl hready).2.1,hpdu⟩

theorem lineStep_answersFramed (h : l.AnswersFramed) (x : LineInput) :
    (lineStep cfg l x).2.AnswersFramed := by
  cases x with
  | transmit reach =>
    cases hqueue : l.requests with
    | nil => simpa [lineStep,hqueue] using h
    | cons adu rest =>
      simp only [lineStep,hqueue]
      exact h.carry adu reach
  | reply reach heard now =>
    cases hqueue : l.answers with
    | nil => simpa [lineStep,hqueue] using h
    | cons p rest =>
      obtain ⟨a,adu⟩ := p
      have hrest : { l with answers := rest }.AnswersFramed := fun p hp =>
        h p (by rw [hqueue]; exact List.mem_cons_of_mem _ hp)
      simp only [lineStep,hqueue]
      split <;> exact hrest.carry adu _
  | _ => exact h

end Talkers

/-- What a step puts on the line besides the requests of the master: an answer is that of the slave
whose address the request names, and of no other. -/
structure SingleTalker (cfg : Platform) (r : LineRecord) : Prop where
  transmit : ∀ reach, r.input = .transmit reach → r.output.2.length ≤ 1 ∧
    ∀ answer ∈ r.output.2, ∃ request rest, r.before.requests = request :: rest ∧
      ofList request 0 ≠ 0#8 ∧ (∃ pdu, answer = appendCrc (ofList request 0 :: pdu)) ∧
      r.after.answers = r.before.answers ++ [(ofList request 0,answer)] ∧
      ∃ policy, (rtuStep cfg (ofList request 0) (r.before.slaves (ofList request 0))
        (lineFrame request policy)).1 = .responseReady answer
  reply : ∀ reach heard now, r.input = .reply reach heard now → r.output.2 = [] ∧
    r.after.answers = r.before.answers.tail ∧
    ∀ a, (r.after.slaves a).server = (r.before.slaves a).server

theorem lineStep_singleTalker {cfg : Platform} {l : SerialLine} (h : l.AnswersFramed)
    (x : LineInput) : SingleTalker cfg ⟨l,x,(lineStep cfg l x).1,(lineStep cfg l x).2⟩ where
  transmit := by
    rintro reach rfl
    cases hqueue : l.requests with
    | nil => simp [lineStep,hqueue]
    | cons request rest =>
      have hout : (lineStep cfg l (.transmit reach)).1.2 =
          (l.answersTo cfg request reach).map Prod.snd := by simp [lineStep,hqueue]
      have hafter : (lineStep cfg l (.transmit reach)).2.answers =
          l.answers ++ l.answersTo cfg request reach := by
        simp only [lineStep,hqueue]
        rfl
      have hone := @answersTo_length cfg request l reach
      refine ⟨by rw [hout,List.length_map]; exact hone,fun answer hanswer => ?_⟩
      rw [hout] at hanswer
      obtain ⟨p,hp,rfl⟩ := List.mem_map.mp hanswer
      obtain ⟨-,haddress,⟨pdu,hpdu⟩,policy,-,hready⟩ := mem_answersTo hp
      obtain ⟨-,hne,-⟩ := rtuStep_ready rfl hready
      have honly : l.answersTo cfg request reach = [p] := by
        obtain ⟨p',hp'⟩ := List.length_eq_one_iff.mp
          (Nat.le_antisymm hone (List.length_pos_of_mem hp))
        rw [hp',List.mem_singleton] at hp
        rw [hp',hp]
      rw [haddress] at hne hpdu hready
      refine ⟨request,rest,rfl,hne,⟨pdu,hpdu⟩,?_,policy,hready⟩
      rw [hafter,honly,← haddress]
  reply := by
    rintro reach heard now rfl
    cases hqueue : l.answers with
    | nil => simp [lineStep,hqueue]
    | cons p rest =>
      obtain ⟨a,adu⟩ := p
      have hhead : a ≠ 0#8 ∧ ∃ pdu, adu = appendCrc (a :: pdu) := h (a,adu) (by simp [hqueue])
      obtain ⟨hne,pdu,rfl⟩ := hhead
      have hanswers := @overheard_answers cfg { l with answers := rest } reach a pdu
      have hservers := @overheard_server cfg { l with answers := rest } reach a pdu hne
      cases heard with
      | false =>
        simp only [lineStep,hqueue,Bool.false_eq_true,if_false,List.tail_cons]
        exact ⟨trivial,hanswers,hservers⟩
      | true =>
        simp only [lineStep,hqueue,if_true,List.tail_cons]
        exact ⟨onResponse_silent _ _ _ _,hanswers,hservers⟩

/-- Two slaves never talk at once, a broadcast is never answered, and an answer is neither
answered nor taken for a request by the slaves that overhear it. -/
theorem serialLine_single_talker (cfg : Platform) (l : SerialLine) (hinit : l.answers = [])
    (inputs : List LineInput) : ∀ r ∈ records (lineStep cfg) l inputs, SingleTalker cfg r := by
  intro r hr
  obtain ⟨ys,zs,-,hbefore,hstep⟩ := mem_records hr
  have hframed : r.before.AnswersFramed := by
    rw [hbefore]
    refine run_invariant SerialLine.AnswersFramed (fun l x h => lineStep_answersFramed h x) ?_ ys
    simp [SerialLine.AnswersFramed,hinit]
  have htalker := @lineStep_singleTalker cfg _ hframed r.input
  rw [← hstep] at htalker
  exact htalker

theorem serialLine_single_talker_lost :
    quietLine.answers = [] ∧
    ∀ r ∈ records (lineStep .standard) quietLine (.request lineWrite 0 0 :: answerLost),
      SingleTalker .standard r :=
  ⟨rfl,serialLine_single_talker .standard quietLine rfl (.request lineWrite 0 0 :: answerLost)⟩

/-! What the failures say. -/

namespace LineRecord
variable (r : LineRecord)

def HearsAnswer : Prop :=
  ∃ reach now p rest, r.input = .reply reach true now ∧ r.before.answers = p :: rest ∧
    r.before.master.state = .waitingResponse ∧
    deadlineReached now r.before.master.deadline = false

def noises : Bool :=
  match r.input with
  | .masterNoise .. => true
  | _ => false

end LineRecord

/-- The expected length of FC11h was right whenever the slave answered. -/
def AnswersExpected (cfg : Platform) (rest : List LineRecord) (b : BuiltCall) : Prop :=
  ∀ r ∈ rest, ∀ answer, r.Answers cfg b answer →
    b.wire.ExpectedOf (r.before.slaves b.address).server.serverId

/-- An answer that is heard in time ends the transaction well, and only damage makes the object
remember a response error. -/
structure FailuresTrue (l : SerialLine) (rest : List LineRecord) : Prop where
  heard : (∃ r ∈ rest, r.HearsAnswer) →
    l.master.state = .complete ∧ l.master.result.verdict.isSome = true
  alarm : l.master.sawResponseError ≠ 0#8 ∨ l.master.result = .responseError →
    ∃ r ∈ rest, r.noises = true

section Master
variable {t t' : Transaction} {c : TransactionCall} {out : TransactionCode × List (List Byte)}

theorem Moves.completed (hm : Moves t c out t') (hstate : t.state = .complete)
    (hopens : ∀ request adu length now answer, c = .start request adu length now answer →
      out.1 ≠ .ok) : t' = t := by
  cases hm with
  | refused _ _ _ _ => rfl
  | rested _ _ _ => rfl
  | started _ _ _ _ _ _ _ _ => exact absurd rfl (hopens _ _ _ _ _ rfl)
  | cancelled _ hactive _ _ _ _ => simp [hstate,stateIsActive] at hactive
  | _ => simp_all

/-- No call but the submission of a frame raises the alarm. -/
theorem Moves.alarm (hm : Moves t c out t')
    (hopens : ∀ request adu length now answer, c = .start request adu length now answer →
      out.1 ≠ .ok)
    (hframe : ∀ adu length now, c = .onResponse (some adu) length now →
      t.state = .waitingResponse → deadlineReached now t.deadline = true)
    (h : t'.sawResponseError ≠ 0#8 ∨ t'.result = .responseError) :
    t.sawResponseError ≠ 0#8 ∨ t.result = .responseError := by
  have hgiven : ∀ {s : Transaction} {now : Word32} {finalResult : TransactionResult},
      s.Kept t' → s.GivenUp now finalResult t' →
      (finalResult = .responseError → s.sawResponseError ≠ 0#8) →
      s.sawResponseError ≠ 0#8 ∨ s.result = .responseError := by
    intro s now finalResult hkept hgiven hfinal
    rcases h with h | h
    · exact .inl (hkept.sawResponseError ▸ h)
    · cases hgiven with
      | retry _ _ result _ _ => exact .inr (result ▸ h)
      | fail _ result _ => exact .inl (hfinal (result.symm.trans h))
  cases hm with
  | refused _ _ _ _ => exact h
  | rested _ _ _ => exact h
  | started _ _ _ _ _ _ _ _ => exact absurd rfl (hopens _ _ _ _ _ rfl)
  | retried now answer hstate hdue =>
    by_cases hz : answer = 0
    · have he : (t.beginTransmit answer now).2 = t.sending := if_pos hz
      rw [he] at h
      exact .inr (h.resolve_left (not_not.mpr rfl))
    · have he : (t.beginTransmit answer now).2 = t.sending.transportFailed now := if_neg hz
      rw [he] at h hgiven
      obtain ⟨hk,hg,-⟩ := t.sending.transportFailed_spec now
      exact .inr ((hgiven hk hg fun hc => by cases hc).resolve_left (not_not.mpr rfl))
  | timedOut _ now _ hc hstate hdue hkept hg =>
    refine hgiven hkept hg fun hresult => ?_
    unfold Transaction.timeoutResult at hresult
    split at hresult
    · assumption
    · cases hresult
  | sentUnanswered now _ hstate hnone hkept hdone hresult hretries =>
    rw [hresult] at h
    exact .inl (hkept.sawResponseError ▸ h.resolve_right TransactionResult.noConfusion)
  | sent now hstate hsome => exact h
  | failed now hstate =>
    obtain ⟨hk,hg,-⟩ := t.transportFailed_spec now
    exact hgiven hk hg fun hc => by cases hc
  | wrongLength adu length now hstate hearly hlength =>
    rw [hframe adu length now rfl hstate] at hearly
    cases hearly
  | judged adu length now hstate hearly hlength =>
    rw [hframe adu length now rfl hstate] at hearly
    cases hearly
  | cancelled _ hactive hkept hstate hresult hretries =>
    rw [hresult] at h
    exact .inl (hkept.sawResponseError ▸ h.resolve_right TransactionResult.noConfusion)

theorem Moves.accepted {adu : Mem Byte} {length : Nat} {now : Word32}
    (hm : Moves t (.onResponse (some adu) length now) out t') (hstate : t.state = .waitingResponse)
    (hearly : deadlineReached now t.deadline = false) (hlength : 0 < length ∧ length ≤ 256)
    (hv : (t.validate adu length).1 = .ok ∨ (t.validate adu length).1 = .exceptionResponse) :
    t'.state = .complete ∧ t'.result.verdict.isSome = true ∧
      t'.sawResponseError = t.sawResponseError := by
  cases hm with
  | refused _ _ _ hc => exact absurd hstate (hc _ _ _ rfl)
  | timedOut _ _ _ hc _ hdue _ _ =>
    rcases hc with ⟨_,hc⟩ | ⟨_,_,hc⟩
    · cases hc
    · obtain ⟨-,-,rfl⟩ := TransactionCall.onResponse.inj hc
      rw [hearly] at hdue
      cases hdue
  | wrongLength _ _ _ _ _ hbad => omega
  | judged _ _ _ _ _ _ =>
    rw [t.storeResponse_eq]
    rcases hv with hv | hv <;> rw [hv] <;> exact ⟨rfl,rfl,rfl⟩

theorem Moves.waits (hm : Moves t c out t')
    (h : t.state = .waitingResponse → t.request.expectsResponse ≠ 0#8)
    (hstate' : t'.state = .waitingResponse) : t'.request.expectsResponse ≠ 0#8 := by
  have hgiven : ∀ {s : Transaction} {now : Word32} {finalResult : TransactionResult},
      s.GivenUp now finalResult t' → False := by
    intro s now finalResult hgiven
    cases hgiven with
    | retry _ state _ _ _ => simp [state] at hstate'
    | fail state _ _ => simp [state] at hstate'
  have hsending : ∀ {s : Transaction} {now : Word32} {answer : Int},
      t' = (s.beginTransmit answer now).2 → False := by
    intro s now answer ht
    by_cases hz : answer = 0
    · rw [ht,show (s.beginTransmit answer now).2 = s.sending from if_pos hz] at hstate'
      cases hstate'
    · rw [show (s.beginTransmit answer now).2 = s.sending.transportFailed now from if_neg hz] at ht
      exact hgiven (ht ▸ (s.sending.transportFailed_spec now).2.1)
  cases hm with
  | refused _ _ _ _ => exact h hstate'
  | rested _ _ _ => exact h hstate'
  | started _ _ _ _ _ _ _ _ => exact (hsending rfl).elim
  | retried _ _ _ _ => exact (hsending rfl).elim
  | timedOut _ _ _ _ _ _ _ hg => exact (hgiven hg).elim
  | sentUnanswered _ _ _ _ _ hdone _ _ => simp [hdone] at hstate'
  | sent _ _ hsome => exact hsome
  | failed now _ => exact (hgiven (t.transportFailed_spec now).2.1).elim
  | wrongLength _ _ _ hstate _ _ => exact h hstate
  | judged adu length now hstate _ _ =>
    rw [(judge_spec t adu length _).1.request]
    exact h hstate
  | cancelled _ _ _ hcancelled _ _ => simp [hcancelled] at hstate'

end Master

/-! The invariant. -/

structure FailureInvariant (cfg : Platform) (config : TransactionConfig) (l : SerialLine)
    (history : List LineRecord) : Prop extends LineInvariant cfg config l history where
  waits : l.master.state = .waitingResponse → l.master.request.expectsResponse ≠ 0#8
  failures : ∀ q rest b, OpenedLine history q rest b → AnswersExpected cfg rest b →
    FailuresTrue l rest

section Failures
variable {cfg : Platform} {config : TransactionConfig} {l l' : SerialLine}
  {history : List LineRecord} {q r : LineRecord} {rest : List LineRecord} {b : BuiltCall}

theorem OpenedLine.of_snoc (hopens : r.opens = false) (ho : OpenedLine (history ++ [r]) q rest b) :
    ∃ rest₀, rest = rest₀ ++ [r] ∧ OpenedLine history q rest₀ b := by
  obtain ⟨hq,hfirst,hinput⟩ := ho
  rw [lineTransaction,since_snoc_of_neg hopens] at hq
  cases hold : since LineRecord.opens history with
  | nil =>
    rw [hold] at hq
    obtain ⟨rfl,-⟩ := List.cons.inj hq
    rw [hopens] at hfirst
    cases hfirst
  | cons q' rest' =>
    rw [hold] at hq
    obtain ⟨rfl,rfl⟩ := List.cons.inj hq
    exact ⟨rest',rfl,hold,hfirst,hinput⟩

theorem AnswersExpected.of_snoc (h : AnswersExpected cfg (rest ++ [r]) b) :
    AnswersExpected cfg rest b := fun p hp => h p (List.mem_append_left _ hp)

theorem FailuresTrue.next (h : FailuresTrue l rest) (hhears : ¬ r.HearsAnswer)
    (hcompleted : l.master.state = .complete → l'.master = l.master)
    (halarm : l'.master.sawResponseError ≠ 0#8 ∨ l'.master.result = .responseError →
      (l.master.sawResponseError ≠ 0#8 ∨ l.master.result = .responseError) ∨ r.noises = true) :
    FailuresTrue l' (rest ++ [r]) where
  heard := by
    rintro ⟨p,hp,hears⟩
    rcases List.mem_append.mp hp with hp | hp
    · obtain ⟨hstate,hresult⟩ := h.heard ⟨p,hp,hears⟩
      rw [hcompleted hstate]
      exact ⟨hstate,hresult⟩
    · rw [List.mem_singleton.mp hp] at hears
      exact absurd hears hhears
  alarm := by
    intro hraised
    rcases halarm hraised with hold | hnoise
    · obtain ⟨p,hp,hnoise⟩ := h.alarm hold
      exact ⟨p,List.mem_append_left _ hp,hnoise⟩
    · exact ⟨r,by simp,hnoise⟩

theorem InTransaction.heard (h : InTransaction cfg l q rest b) (hexpected : AnswersExpected cfg rest b)
    (hexpects : b.request.expectsResponse ≠ 0#8) {p : Byte × List Byte} (hp : p ∈ l.answers) :
    (0 < p.2.length ∧ p.2.length ≤ 256) ∧
      ((l.master.validate (ofList p.2) p.2.length).1 = .ok ∨
        (l.master.validate (ofList p.2) p.2.length).1 = .exceptionResponse) := by
  obtain ⟨-,r,hr,hanswers⟩ := h.answers p hp
  obtain ⟨hconsistent,-⟩ := h.answered r hr ⟨p.2,hanswers⟩
  obtain ⟨reach,policy,-,-,-,hstep⟩ := id hanswers
  have hresponse := (rtuStep_response cfg b.address (r.before.slaves b.address)
    (b.wire.arrival b.address policy) hconsistent.sound).1 p.2 (congrArg Prod.fst hstep)
  have hleast := hresponse.minimum
  have hmost := hresponse.maximum
  refine ⟨by omega,?_⟩
  obtain ⟨adu,after,hstep',hexchange⟩ := exchange_delivered policy b.wellFormed
    (b.expectsResponse_iff.mp hexpects) (answering_awake (congrArg Prod.fst hstep))
    hconsistent.sound hconsistent.deviceId (hexpected r hr p.2 hanswers)
  rw [hstep] at hstep'
  have hadu := RtuResult.responseReady.inj (Prod.mk.inj hstep').1
  rw [h.validate_eq,hadu]
  rcases hexchange with ⟨code,-,-,hexception⟩ | ⟨response,hok,-⟩
  · exact .inr (congrArg Prod.fst hexception)
  · exact .inl (congrArg Prod.fst hok)

theorem FailureInvariant.unchanged (h : FailureInvariant cfg config l history)
    (hline : LineInvariant cfg config l' (history ++ [r])) (hmaster : l'.master = l.master)
    (hopens : r.opens = false) (hhears : ¬ r.HearsAnswer) :
    FailureInvariant cfg config l' (history ++ [r]) where
  toLineInvariant := hline
  waits := by
    rw [hmaster]
    exact h.waits
  failures := by
    intro q rest b ho hexpected
    obtain ⟨rest₀,rfl,hopened⟩ := ho.of_snoc hopens
    refine (h.failures q rest₀ b hopened hexpected.of_snoc).next hhears (fun _ => hmaster) fun halarm => ?_
    rw [hmaster] at halarm
    exact .inl halarm

theorem FailureInvariant.called (h : FailureInvariant cfg config l history)
    (hline : LineInvariant cfg config l' (history ++ [r])) {c : TransactionCall}
    {out : TransactionCode × List (List Byte)} (hm : Moves l.master c out l'.master)
    (hopens : r.opens = false) (hhears : ¬ r.HearsAnswer)
    (hstart : ∀ request adu length now answer, c = .start request adu length now answer →
      out.1 ≠ .ok)
    (hframe : r.noises = true ∨ ∀ adu length now, c = .onResponse (some adu) length now →
      l.master.state = .waitingResponse → deadlineReached now l.master.deadline = true) :
    FailureInvariant cfg config l' (history ++ [r]) where
  toLineInvariant := hline
  waits := hm.waits h.waits
  failures := by
    intro q rest b ho hexpected
    obtain ⟨rest₀,rfl,hopened⟩ := ho.of_snoc hopens
    refine (h.failures q rest₀ b hopened hexpected.of_snoc).next hhears
      (fun hstate => hm.completed hstate hstart) fun halarm => ?_
    rcases hframe with hnoise | hframe
    · exact .inr hnoise
    · exact .inl (hm.alarm hstart hframe halarm)

theorem FailureInvariant.replied (h : FailureInvariant cfg config l history)
    {reach : Byte → Reception} {heard : Bool} {now : Word32}
    (hr : r = ⟨l,.reply reach heard now,(lineStep cfg l (.reply reach heard now)).1,l'⟩)
    (hafter : l' = (lineStep cfg l (.reply reach heard now)).2)
    (hline : LineInvariant cfg config l' (history ++ [r])) :
    FailureInvariant cfg config l' (history ++ [r]) := by
  have hopens : r.opens = false := by
    rw [hr]
    rfl
  have hno : (heard = true → l.answers ≠ [] → l.master.state = .waitingResponse →
      deadlineReached now l.master.deadline = true) → ¬ r.HearsAnswer := by
    rintro hlate ⟨reach',now',p,rest,hinput,hanswers,hstate,hearly⟩
    rw [hr] at hinput hanswers hstate hearly
    obtain ⟨-,rfl,rfl⟩ := LineInput.reply.inj hinput
    rw [hlate rfl (by rw [show l.answers = p :: rest from hanswers]; simp) hstate] at hearly
    cases hearly
  cases hqueue : l.answers with
  | nil =>
    have hsame : l' = l := by
      rw [hafter]
      simp [lineStep,hqueue]
    exact h.unchanged hline (by rw [hsame]) hopens (hno fun _ hne => absurd hqueue hne)
  | cons p queue =>
    obtain ⟨a,adu⟩ := p
    cases heard with
    | false =>
      have hsame : l'.master = l.master := by
        rw [hafter]
        simp [lineStep,hqueue,SerialLine.carry]
      exact h.unchanged hline hsame hopens (hno fun hc => by cases hc)
    | true =>
      have hmaster : l'.master =
          (transactionStep l.master (.onResponse (some (ofList adu)) adu.length now)).2 := by
        rw [hafter]
        simp [lineStep,hqueue,SerialLine.carry,SerialLine.call]
      have hm := transactionStep_moves h.initialized
        (.onResponse (some (ofList adu)) adu.length now)
      rw [← hmaster] at hm
      by_cases hwait : l.master.state = .waitingResponse ∧
          deadlineReached now l.master.deadline = false
      · refine ⟨hline,hm.waits h.waits,fun q rest b ho hexpected => ?_⟩
        obtain ⟨rest₀,rfl,hopened⟩ := ho.of_snoc hopens
        have hi := h.toLineInvariant.inTransaction hopened
        have hexpects : b.request.expectsResponse ≠ 0#8 := hi.request ▸ h.waits hwait.1
        obtain ⟨hlength,hv⟩ := hi.heard hexpected.of_snoc hexpects (p := (a,adu)) (by simp [hqueue])
        obtain ⟨hstate,hresult,hsaw⟩ := hm.accepted hwait.1 hwait.2 hlength hv
        refine ⟨fun _ => ⟨hstate,hresult⟩,fun halarm => ?_⟩
        rcases halarm with halarm | halarm
        · obtain ⟨p,hp,hnoise⟩ := (h.failures q rest₀ b hopened hexpected.of_snoc).alarm
            (.inl (hsaw ▸ halarm))
          exact ⟨p,List.mem_append_left _ hp,hnoise⟩
        · rw [halarm] at hresult
          cases hresult
      · have hlate : l.master.state = .waitingResponse →
            deadlineReached now l.master.deadline = true := by
          intro hstate
          by_contra hne
          exact hwait ⟨hstate,by simpa using hne⟩
        refine h.called hline hm hopens (hno fun _ _ => hlate) (fun _ _ _ _ _ hc => by cases hc)
          (.inr fun adu' length' now' hc => ?_)
        obtain ⟨-,-,rfl⟩ := TransactionCall.onResponse.inj hc
        exact hlate

theorem FailureInvariant.step (h : FailureInvariant cfg config l history) (x : LineInput)
    (hquiet : QuietStart ⟨l,x,(lineStep cfg l x).1,(lineStep cfg l x).2⟩) :
    FailureInvariant cfg config (lineStep cfg l x).2
      (history ++ [⟨l,x,(lineStep cfg l x).1,(lineStep cfg l x).2⟩]) := by
  have hline := h.toLineInvariant.step x hquiet
  have hhears : (∀ reach heard now, x ≠ .reply reach heard now) →
      ¬ LineRecord.HearsAnswer ⟨l,x,(lineStep cfg l x).1,(lineStep cfg l x).2⟩ := by
    rintro hx ⟨reach,now,p,rest,hinput,-⟩
    exact hx reach true now hinput
  have hpoll : ∀ c, lineStep cfg l x = l.call c → (∀ reach heard now, x ≠ .reply reach heard now) →
      LineRecord.opens ⟨l,x,(lineStep cfg l x).1,(lineStep cfg l x).2⟩ = false →
      (∀ request adu length now answer, c ≠ .start request adu length now answer) →
      (∀ adu length now, c ≠ .onResponse adu length now) →
      FailureInvariant cfg config (lineStep cfg l x).2
        (history ++ [⟨l,x,(lineStep cfg l x).1,(lineStep cfg l x).2⟩]) := by
    intro c hc hx hopens hstart hframe
    have hm := transactionStep_moves h.initialized c
    have hmaster : (lineStep cfg l x).2.master = (transactionStep l.master c).2 := by rw [hc]; rfl
    rw [← hmaster] at hm
    exact h.called hline hm hopens (hhears hx) (fun _ _ _ _ _ he => absurd he (hstart _ _ _ _ _))
      (.inr fun _ _ _ he => absurd he (hframe _ _ _))
  cases x with
  | request b now answer =>
    have hm := transactionStep_moves h.initialized
      (.start (some b.request) (some (ofList b.adu)) b.adu.length now answer)
    cases hopens : LineRecord.opens ⟨l,.request b now answer,
        (lineStep cfg l (.request b now answer)).1,(lineStep cfg l (.request b now answer)).2⟩ with
    | true =>
      obtain ⟨ho,-⟩ := hm.opens (of_decide_eq_true hopens)
      refine ⟨hline,hm.waits h.waits,fun q rest b hopened _ => ?_⟩
      obtain ⟨hq,-⟩ := hopened
      rw [lineTransaction,since_snoc_of_pos hopens] at hq
      obtain ⟨-,rfl⟩ := List.cons.inj hq
      refine ⟨by simp,fun halarm => ?_⟩
      exact (halarm.elim (absurd ho.unalarmed.1) fun hr => absurd hr ho.unalarmed.2)
    | false =>
      exact h.called hline hm hopens (hhears fun _ _ _ hc => by cases hc)
        (fun _ _ _ _ _ _ => of_decide_eq_false hopens) (.inr fun _ _ _ hc => by cases hc)
  | poll now answer =>
    exact hpoll _ rfl (fun _ _ _ hc => by cases hc) rfl (fun _ _ _ _ _ hc => by cases hc)
      fun _ _ _ hc => by cases hc
  | onTxComplete now =>
    exact hpoll _ rfl (fun _ _ _ hc => by cases hc) rfl (fun _ _ _ _ _ hc => by cases hc)
      fun _ _ _ hc => by cases hc
  | onTxError now =>
    exact hpoll _ rfl (fun _ _ _ hc => by cases hc) rfl (fun _ _ _ _ _ hc => by cases hc)
      fun _ _ _ hc => by cases hc
  | cancel =>
    exact hpoll _ rfl (fun _ _ _ hc => by cases hc) rfl (fun _ _ _ _ _ hc => by cases hc)
      fun _ _ _ hc => by cases hc
  | transmit reach =>
    have hmaster : (lineStep cfg l (.transmit reach)).2.master = l.master := by
      cases hqueue : l.requests <;> simp [lineStep,hqueue,SerialLine.carry]
    exact h.unchanged hline hmaster rfl (hhears fun _ _ _ hc => by cases hc)
  | reply reach heard now => exact h.replied rfl rfl hline
  | noise a n => exact h.unchanged hline rfl rfl (hhears fun _ _ _ hc => by cases hc)
  | masterNoise f now =>
    exact h.called hline (transactionStep_moves h.initialized
      (.onResponse (some f.frame.request) f.frame.len now)) rfl (hhears fun _ _ _ hc => by cases hc)
      (fun _ _ _ _ _ hc => by cases hc) (.inl rfl)
  | serve a c => exact h.unchanged hline rfl rfl (hhears fun _ _ _ hc => by cases hc)
  | diagnose a c => exact h.unchanged hline rfl rfl (hhears fun _ _ _ hc => by cases hc)

end Failures

/-- In every run: an answer that the master hears in time completes its transaction, so that a
failure means that none was heard in time, and a response error means that something damaged
was heard. -/
theorem serialLine_failures_true (cfg : Platform) (config : TransactionConfig) (l : SerialLine)
    (hinit : l.Initial config) (inputs : List LineInput)
    (hquiet : ∀ r ∈ records (lineStep cfg) l inputs, QuietStart r) (q : LineRecord)
    (rest : List LineRecord) (b : BuiltCall)
    (ho : OpenedLine (records (lineStep cfg) l inputs) q rest b)
    (hexpected : AnswersExpected cfg rest b) :
    FailuresTrue (run (lineStep cfg) l inputs) rest := by
  have hinv : FailureInvariant cfg config (run (lineStep cfg) l inputs)
      (records (lineStep cfg) l inputs) := by
    revert hquiet
    refine history_invariant
      (fun l history => (∀ r ∈ history, QuietStart r) → FailureInvariant cfg config l history)
      ?_ ?_ inputs
    · intro l history x ih hquiet
      exact (ih fun r hr => hquiet r (List.mem_append_left _ hr)).step x (hquiet _ (by simp))
    · intro hquiet
      obtain ⟨-,-,hs,-⟩ := mbrtumTransactionInit_spec hinit.master
      refine ⟨lineInvariant_run hinit [] hquiet,fun hw => ?_,fun q rest b hopened => ?_⟩
      · rw [hs] at hw
        cases hw
      · cases hopened.1
  exact hinv.failures q rest b ho hexpected

def fiveBytes : DamagedFrame :=
  ⟨⟨ofList [0x11#8,0x06#8,0x00#8,0x00#8,0x12#8],5,none,256⟩,by decide +kernel⟩

def answersDamaged : List LineInput :=
  [.onTxComplete 2,.transmit (heardAt 0x11#8),.reply (heardAt 0x11#8) false 50,.masterNoise fiveBytes 50,
    .poll 102 0,.poll 112 0,.onTxComplete 114,.transmit (heardAt 0x11#8),
    .reply (heardAt 0x11#8) false 150,.masterNoise fiveBytes 150,.poll 214 0]

theorem serialLine_failures_true_damaged :
    (run (lineStep .standard) quietLine (.request lineWrite 0 0 :: answersDamaged)).master.result =
      .responseError ∧
    FailuresTrue (run (lineStep .standard) quietLine (.request lineWrite 0 0 :: answersDamaged))
      (records (lineStep .standard) (lineStep .standard quietLine (.request lineWrite 0 0)).2
        answersDamaged) := by
  have hone := @single_transaction .standard _ _ lineWrite 0 0 answersDamaged quietLine_initial
    (by decide) (by decide +kernel)
  refine ⟨by decide +kernel,serialLine_failures_true .standard retryOnce quietLine quietLine_initial
    (.request lineWrite 0 0 :: answersDamaged) hone.1 _ _ lineWrite hone.2 ?_⟩
  intro r _ answer _ expected hwire
  cases hwire

end ModbusStack
