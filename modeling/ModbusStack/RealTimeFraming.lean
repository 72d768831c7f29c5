import ModbusStack.RtuFraming
import ModbusStack.SerialTiming

/-! The receive path in real time: interrupts at real instants, in microseconds, with a tick
every 50 of them at any phase. -/
set_option autoImplicit false

namespace ModbusStack
open ByteMemory Machine TickCount

abbrev TimedEvent := ℝ × RtuEvent

def RtuEvent.isByte : RtuEvent → Bool
  | .rxByte _ => true
  | _ => false

def events (es : List TimedEvent) : List RtuEvent := es.map Prod.snd

/-- The ticks come at their instants, `start` of them before the run, and a byte finds every
tick counted that is due by then. -/
structure RealTime (inclusive : Bool) (phase : ℝ) (start : ℤ) (es : List TimedEvent) : Prop where
  ordered : (es.map Prod.fst).Pairwise (· ≤ ·)
  tick : ∀ before t rest, es = before ++ (t,.tick) :: rest →
    t = phase+(start+ticksOf (events before)+1)*50
  byte : ∀ before t b rest, es = before ++ (t,.rxByte b) :: rest →
    lastTickAt inclusive 50 phase t = start+ticksOf (events before)

structure BytePair (es : List TimedEvent) where
  before : List TimedEvent
  t1 : ℝ
  byte1 : Byte
  between : List TimedEvent
  t2 : ℝ
  byte2 : Byte
  rest : List TimedEvent
  split : es = before ++ (t1,.rxByte byte1) :: (between ++ (t2,.rxByte byte2) :: rest)
  silent : ∀ e ∈ events between, e.isByte = false

namespace BytePair
variable {es : List TimedEvent} (pair : BytePair es) (ctx : RtuContext)

def afterFirst : RtuContext := run rtuEventStep ctx (events pair.before ++ [.rxByte pair.byte1])

def beforeSecond : RtuContext := run rtuEventStep (pair.afterFirst ctx) (events pair.between)

def afterSecond : RtuContext := (rtuEventStep (pair.beforeSecond ctx) (.rxByte pair.byte2)).2

def SplitsBetween : Prop :=
  ∃ r ∈ records rtuEventStep (pair.afterFirst ctx) (events pair.between), r.output ≠ none

def Splits : Prop :=
  pair.SplitsBetween ctx ∨ (rtuEventStep (pair.beforeSecond ctx) (.rxByte pair.byte2)).1 ≠ none

end BytePair

section Silence
variable {t15 t35 capacity : Nat} {original : Mem (Mem Byte)} {ctx : RtuContext}
  {bytes : List TimedByte} {now : Nat}

theorem timedBytes_silent {e : RtuEvent} (h : e.isByte = false) : timedBytes now [e] = [] := by
  cases e with
  | rxByte byte => cases h
  | tick => rfl
  | poll cfg slave result => rfl

theorem Receiving.idle_silence (h : Receiving t15 t35 capacity original ctx [] now)
    (hpos : 0 < t35) {es : List RtuEvent} (hes : ∀ e ∈ es, e.isByte = false) :
    Receiving t15 t35 capacity original (run rtuEventStep ctx es) [] (now+ticksOf es) := by
  induction es generalizing ctx now with
  | nil => exact h
  | cons e es ih =>
    rcases h.step hpos e with ⟨-,hrec⟩ | ⟨a,hl,-⟩
    · rw [timedBytes_silent (hes e (by simp)),List.append_nil] at hrec
      rw [ticksOf_cons,← Nat.add_assoc]
      exact ih hrec fun x hx => hes x (by simp [hx])
    · cases hl

/-- Without bytes, the frame in progress is completed once T3.5 is over and not before. -/
theorem Receiving.silence (h : Receiving t15 t35 capacity original ctx bytes now) (hpos : 0 < t35)
    {a : TimedByte} (hl : bytes.getLast? = some a) {es : List RtuEvent}
    (hes : ∀ e ∈ es, e.isByte = false) :
    (now+ticksOf es < a.1+t35 ∧ (∀ r ∈ records rtuEventStep ctx es, r.output = none) ∧
      Receiving t15 t35 capacity original (run rtuEventStep ctx es) bytes (now+ticksOf es)) ∨
    (a.1+t35 ≤ now+ticksOf es ∧ (∃ r ∈ records rtuEventStep ctx es, r.output ≠ none) ∧
      Receiving t15 t35 capacity original (run rtuEventStep ctx es) [] (now+ticksOf es)) := by
  induction es generalizing ctx now with
  | nil =>
    left
    have hlast := h.last a hl
    refine ⟨?_,by simp [records],h⟩
    simp only [ticksOf,List.map_nil,List.sum_nil]
    omega
  | cons e es ih =>
    have hrest : ∀ x ∈ es, x.isByte = false := fun x hx => hes x (by simp [hx])
    rw [ticksOf_cons,← Nat.add_assoc]
    rcases h.step hpos e with ⟨hn,hrec⟩ | ⟨b,hb,rfl,ht,hf,hrec,-⟩
    · rw [timedBytes_silent (hes e (by simp)),List.append_nil] at hrec
      simp only [records,run,hn,List.mem_cons,forall_eq_or_imp,true_and,exists_eq_or_imp,ne_eq,
        not_true_eq_false,false_or]
      exact ih hrec hrest
    · obtain rfl : b = a := by
        rw [hl] at hb
        exact (Option.some.inj hb).symm
      right
      refine ⟨?_,⟨_,List.mem_cons_self,?_⟩,hrec.idle_silence hpos hrest⟩
      · simp only [RtuEvent.ticks]
        omega
      · simp [hf]

theorem Receiving.after_run (h : Receiving t15 t35 capacity original ctx [] 0) (hpos : 0 < t35)
    (es : List TimedEvent) :
    ∃ bytes, Receiving t15 t35 capacity original (run rtuEventStep ctx (events es)) bytes
        (ticksOf (events es)) ∧
      ∀ a, bytes.getLast? = some a → ∃ before t between,
        es = before ++ (t,.rxByte a.2) :: between ∧ (∀ e ∈ events between, e.isByte = false) ∧
          a.1 = ticksOf (events before) := by
  induction es using List.reverseRecOn with
  | nil => exact ⟨[],h,by simp⟩
  | append_singleton es e ih =>
    obtain ⟨bytes,hrec,hlast⟩ := ih
    have hticks : ticksOf (events (es ++ [e])) = ticksOf (events es)+e.2.ticks := by
      simp [events,ticksOf]
    have hrun : run rtuEventStep ctx (events (es ++ [e])) =
        (rtuEventStep (run rtuEventStep ctx (events es)) e.2).2 := by
      rw [events,List.map_append]
      exact run_snoc _ _ _
    rw [hticks,hrun]
    rcases hrec.step hpos e.2 with ⟨-,hstep⟩ | ⟨a,-,he,-,-,hstep,-⟩
    · refine ⟨_,hstep,?_⟩
      cases hbyte : e.2.isByte with
      | true =>
        obtain ⟨t,ev⟩ := e
        cases ev with
        | rxByte byte =>
          intro a ha
          obtain rfl : (ticksOf (events es),byte) = a := by simpa [timedBytes] using ha
          exact ⟨es,t,[],rfl,by simp [events],rfl⟩
        | tick => cases hbyte
        | poll cfg slave result => cases hbyte
      | false =>
        intro a ha
        rw [timedBytes_silent hbyte,List.append_nil] at ha
        obtain ⟨before,t,between,rfl,hsilent,ht⟩ := hlast a ha
        refine ⟨before,t,between ++ [e],by simp,?_,ht⟩
        intro x hx
        simp only [events,List.map_append,List.map_cons,List.map_nil,List.mem_append,
          List.mem_singleton] at hx
        rcases hx with hx | rfl
        · exact hsilent x hx
        · exact hbyte
    · have hone : e.2.ticks = 1 := by rw [he]; rfl
      rw [hone]
      exact ⟨[],hstep,by simp⟩

end Silence

section Deadlines
variable {baud bits : ℕ}

theorem deadlineT15_eq : deadlineT15 ℝ baud bits = silenceT15 ℝ baud bits+characterTime ℝ baud bits := by
  simp only [deadlineT15,silenceT15]
  split <;> ring

theorem deadlineT35_eq : deadlineT35 ℝ baud bits = silenceT35 ℝ baud bits+characterTime ℝ baud bits := by
  simp only [deadlineT35,silenceT35]
  split <;> ring

variable {timing : RtuTiming}

/-- Bytes no further apart than T1.5 and a character stay within the first deadline. -/
theorem ExactTicks.ticks_le_t15 (h : ExactTicks ℝ baud bits timing) {gap : ℝ} {n : ℕ}
    (hticks : (n : ℤ) ≤ ⌈gap/50⌉)
    (hgap : gap ≤ silenceT15 ℝ baud bits+characterTime ℝ baud bits) :
    n ≤ timing.byteCompleteT15Ticks.toNat := by
  rw [h.byteCompleteT15,deadlineT15_eq]
  have hceil : ⌈gap/50⌉ ≤ ⌈(silenceT15 ℝ baud bits+characterTime ℝ baud bits)/50⌉ := by
    apply Int.ceil_le_ceil
    linarith
  have hnat : ⌈(silenceT15 ℝ baud bits+characterTime ℝ baud bits)/50⌉ ≤
      (⌈(silenceT15 ℝ baud bits+characterTime ℝ baud bits)/50⌉₊ : ℤ) := by
    apply Int.ceil_le.mpr
    exact_mod_cast Nat.le_ceil _
  omega

/-- Two ticks more than that reach beyond the first deadline. -/
theorem ExactTicks.t15_lt_ticks (h : ExactTicks ℝ baud bits timing) {gap : ℝ} {n : ℕ}
    (hticks : ⌊gap/50⌋ ≤ (n : ℤ))
    (hgap : silenceT15 ℝ baud bits+characterTime ℝ baud bits+100 < gap) :
    timing.byteCompleteT15Ticks.toNat < n := by
  rw [h.byteCompleteT15,deadlineT15_eq]
  have hpos : (0 : ℝ) ≤ (silenceT15 ℝ baud bits+characterTime ℝ baud bits)/50 := by
    rw [← deadlineT15_eq]
    simp only [deadlineT15,characterTime]
    split <;> positivity
  have hceil := Nat.ceil_lt_add_one hpos
  have hfloor : (⌈(silenceT15 ℝ baud bits+characterTime ℝ baud bits)/50⌉₊ : ℤ)+1 ≤ ⌊gap/50⌋ := by
    apply Int.le_floor.mpr
    push_cast
    linarith
  omega

/-- One tick more than T3.5 and a character reaches the second deadline. -/
theorem ExactTicks.t35_le_ticks (h : ExactTicks ℝ baud bits timing) {gap : ℝ} {n : ℕ}
    (hticks : ⌊gap/50⌋ ≤ (n : ℤ))
    (hgap : silenceT35 ℝ baud bits+characterTime ℝ baud bits+50 ≤ gap) :
    timing.byteCompleteT35Ticks.toNat ≤ n := by
  rw [h.byteCompleteT35,deadlineT35_eq]
  have hpos : (0 : ℝ) ≤ (silenceT35 ℝ baud bits+characterTime ℝ baud bits)/50 := by
    rw [← deadlineT35_eq]
    simp only [deadlineT35,characterTime]
    split <;> positivity
  have hceil := Nat.ceil_lt_add_one hpos
  have hfloor : (⌈(silenceT35 ℝ baud bits+characterTime ℝ baud bits)/50⌉₊ : ℤ) ≤ ⌊gap/50⌋ := by
    apply Int.le_floor.mpr
    push_cast
    linarith
  omega

/-- One tick less than the second deadline is still T3.5: a character is longer than a tick
up to 19200 baud, and above that T3.5 is a whole number of ticks. -/
theorem ExactTicks.silenceT35_le (h : ExactTicks ℝ baud bits timing) (hbaud : 0 < baud)
    (hbits : 7 ≤ bits) :
    silenceT35 ℝ baud bits ≤ ((timing.byteCompleteT35Ticks.toNat : ℤ)-1)*50 := by
  have hb : (0 : ℝ) < baud := by exact_mod_cast hbaud
  have hc : (0 : ℝ) < characterTime ℝ baud bits := by
    have hbits' : (0 : ℝ) < bits := by
      have : 0 < bits := by omega
      exact_mod_cast this
    simp only [characterTime]
    positivity
  rw [h.byteCompleteT35]
  push_cast
  by_cases hfast : 19200 < baud
  · simp only [deadlineT35,silenceT35,hfast,if_true]
    have hceil : 36 ≤ ⌈(1750+characterTime ℝ baud bits)/50⌉₊ := by
      apply Nat.lt_ceil.mpr
      push_cast
      linarith
    have hcast : (36 : ℝ) ≤ ⌈(1750+characterTime ℝ baud bits)/50⌉₊ := by exact_mod_cast hceil
    linarith
  · have hslow : (50 : ℝ) ≤ characterTime ℝ baud bits := by
      have hle : (baud : ℝ) ≤ 19200 := by exact_mod_cast Nat.le_of_not_lt hfast
      have hbits' : (7 : ℝ) ≤ bits := by exact_mod_cast hbits
      rw [characterTime,le_div_iff₀ hb]
      linarith
    simp only [deadlineT35,silenceT35,hfast,if_false]
    have hceil := Nat.le_ceil (45/10*characterTime ℝ baud bits/50)
    linarith

end Deadlines

/-- What the receiver owes to the line, whatever the phase of the ticks. -/
structure SoundFraming (baud bits : ℕ) (ctx : RtuContext) (es : List TimedEvent) : Prop where
  close : ∀ pair : BytePair es,
    pair.t2-pair.t1 ≤ silenceT15 ℝ baud bits+characterTime ℝ baud bits →
    ¬ pair.Splits ctx ∧
      (pair.afterSecond ctx).activeInvalidGap = (pair.afterFirst ctx).activeInvalidGap
  apart : ∀ pair : BytePair es,
    silenceT15 ℝ baud bits+characterTime ℝ baud bits+100 < pair.t2-pair.t1 →
    pair.Splits ctx ∨ (pair.afterSecond ctx).activeInvalidGap ≠ 0#8
  different : ∀ pair : BytePair es,
    silenceT35 ℝ baud bits+characterTime ℝ baud bits+50 ≤ pair.t2-pair.t1 →
    pair.SplitsBetween ctx ∧ (pair.beforeSecond ctx).frameActive = 0#8
  complete : ∀ before t e rest f, es = before ++ (t,e) :: rest →
    (rtuEventStep (run rtuEventStep ctx (events before)) e).1 = some f →
    ∃ before' t' byte between, before = before' ++ (t',.rxByte byte) :: between ∧
      (∀ x ∈ events between, x.isByte = false) ∧ silenceT35 ℝ baud bits ≤ t-t'

theorem mbrtuInit_timing {config : RtuConfig} {ctx : RtuContext} (h : mbrtuInit config = .ok ctx) :
    mbrtuCalculateTiming config.baudRate config.dataBits config.parityBits config.stopBits =
      .ok ctx.timing := by
  simp only [mbrtuInit] at h
  repeat' split at h
  all_goals first
    | cases h; done
    | cases h; assumption

theorem mbrtuCalculateTiming_accepts {baudRate : Word32} {dataBits parityBits stopBits : Byte}
    {timing : RtuTiming}
    (h : mbrtuCalculateTiming baudRate dataBits parityBits stopBits = .ok timing) :
    0 < baudRate.toNat ∧ SerialFormat dataBits parityBits stopBits := by
  simp only [mbrtuCalculateTiming] at h
  split at h
  · cases h
  · rename_i hok
    push Not at hok
    obtain ⟨hbaud,hd,hd',hp,hs,hs'⟩ := hok
    refine ⟨Nat.pos_of_ne_zero fun h0 => hbaud (BitVec.eq_of_toNat_eq h0),⟨?_,?_,?_⟩⟩
    · omega
    · omega
    · omega

section Pairs
variable {inclusive : Bool} {phase : ℝ} {start : ℤ} {es : List TimedEvent}

theorem ticksOf_events_byte (before between : List TimedEvent) (t : ℝ) (byte : Byte) :
    ticksOf (events (before ++ (t,.rxByte byte) :: between)) =
      ticksOf (events before)+ticksOf (events between) := by
  simp [events,ticksOf,RtuEvent.ticks]

theorem RealTime.between (h : RealTime inclusive phase start es) (pair : BytePair es) :
    lastTickAt inclusive 50 phase pair.t2-lastTickAt inclusive 50 phase pair.t1 =
      ticksOf (events pair.between) := by
  have h1 := h.byte pair.before pair.t1 pair.byte1 _ pair.split
  have h2 := h.byte (pair.before ++ (pair.t1,.rxByte pair.byte1) :: pair.between) pair.t2 pair.byte2
    pair.rest (pair.split.trans (by simp))
  rw [ticksOf_events_byte] at h2
  rw [h1,h2]
  push_cast
  ring

theorem RealTime.between_le (h : RealTime inclusive phase start es) (pair : BytePair es) :
    (ticksOf (events pair.between) : ℤ) ≤ ⌈(pair.t2-pair.t1)/50⌉ := by
  rw [← h.between pair]
  exact lastTickAt_sub_le inclusive phase pair.t1 pair.t2

theorem RealTime.le_between (h : RealTime inclusive phase start es) (pair : BytePair es) :
    ⌊(pair.t2-pair.t1)/50⌋ ≤ (ticksOf (events pair.between) : ℤ) := by
  rw [← h.between pair]
  exact floor_le_lastTickAt_sub inclusive phase pair.t1 pair.t2

variable {t15 t35 capacity : Nat} {original : Mem (Mem Byte)} {ctx : RtuContext}

/-- Two bytes in a row: by the number of ticks between them, both in one frame, or the second
in a frame of its own. -/
theorem Receiving.pair (h : Receiving t15 t35 capacity original ctx [] 0) (hpos : 0 < t35)
    (pair : BytePair es) :
    (ticksOf (events pair.between) < t35 ∧ ¬ pair.Splits ctx ∧
      (pair.afterSecond ctx).activeInvalidGap =
        if ticksOf (events pair.between) ≤ t15 then (pair.afterFirst ctx).activeInvalidGap
        else 1#8) ∨
    (t35 ≤ ticksOf (events pair.between) ∧ pair.SplitsBetween ctx ∧
      (pair.beforeSecond ctx).frameActive = 0#8) := by
  obtain ⟨bytes,hrec,-⟩ := h.after_run hpos pair.before
  have hfirst : Receiving t15 t35 capacity original (pair.afterFirst ctx)
      (bytes ++ [(ticksOf (events pair.before),pair.byte1)]) (ticksOf (events pair.before)) := by
    rw [BytePair.afterFirst,run_snoc]
    rcases hrec.step hpos (.rxByte pair.byte1) with ⟨-,hstep⟩ | ⟨a,-,he,-⟩
    · exact hstep
    · cases he
  rcases hfirst.silence hpos List.getLast?_concat pair.silent with ⟨hlt,hnone,hrest⟩ | ⟨hle,hsome,hrest⟩
  · left
    obtain ⟨ho,hsecond⟩ :
        (rtuEventStep (pair.beforeSecond ctx) (.rxByte pair.byte2)).1 = none ∧
        Receiving t15 t35 capacity original (pair.afterSecond ctx) _ _ := by
      rcases hrest.step hpos (.rxByte pair.byte2) with hstep | ⟨a,-,he,-⟩
      · exact hstep
      · cases he
    refine ⟨by simpa using hlt,?_,?_⟩
    · rintro (⟨r,hr,hout⟩ | hout)
      · exact hout (hnone r hr)
      · exact hout ho
    · rw [hsecond.flags_eq.1,hfirst.flags_eq.1]
      simp only [timedBytes,continuous_snoc List.getLast?_concat,Nat.add_sub_cancel_left]
      by_cases hc : ticksOf (events pair.between) ≤ t15
      · simp only [hc,and_true,if_true]
      · simp only [hc,and_false,if_false]
  · exact Or.inr ⟨by simpa using hle,hsome,hrest.frameActive.mpr rfl⟩

end Pairs

/-- At every phase of the ticks, whichever side a tick is on that coincides with a byte. -/
theorem rtuFraming_realTime (config : RtuConfig) (ctx : RtuContext)
    (hinit : mbrtuInit config = .ok ctx) (inclusive : Bool) (phase : ℝ) (start : ℤ)
    (es : List TimedEvent) (hes : RealTime inclusive phase start es) :
    SoundFraming config.baudRate.toNat
      (characterBits config.dataBits config.parityBits config.stopBits) ctx es := by
  have htiming := mbrtuInit_timing hinit
  obtain ⟨hbaud,hformat⟩ := mbrtuCalculateTiming_accepts htiming
  obtain ⟨timing,heq,hexact,hordered⟩ := mbrtuCalculateTiming_exact ℝ hbaud hformat
  cases heq.symm.trans htiming
  have hlt := hordered.byteComplete_lt
  have hpos : 0 < ctx.timing.byteCompleteT35Ticks.toNat := by omega
  have hrec := (mbrtuInit_idle hinit).receiving
  constructor
  · intro pair hgap
    have hticks := hexact.ticks_le_t15 (hes.between_le pair) hgap
    rcases hrec.pair hpos pair with ⟨-,hsplit,hflag⟩ | ⟨hlong,-⟩
    · rw [if_pos hticks] at hflag
      exact ⟨hsplit,hflag⟩
    · omega
  · intro pair hgap
    have hticks := hexact.t15_lt_ticks (hes.le_between pair) hgap
    rcases hrec.pair hpos pair with ⟨-,-,hflag⟩ | ⟨-,hsplit,-⟩
    · rw [if_neg (by omega)] at hflag
      right
      simp [hflag]
    · exact Or.inl (Or.inl hsplit)
  · intro pair hgap
    have hticks := hexact.t35_le_ticks (hes.le_between pair) hgap
    rcases hrec.pair hpos pair with ⟨hshort,-⟩ | ⟨-,hsplit,hidle⟩
    · omega
    · exact ⟨hsplit,hidle⟩
  · intro before t e rest f hsplit hout
    obtain ⟨bytes,hbytes,hlast⟩ := hrec.after_run hpos before
    rcases hbytes.step hpos e with ⟨hnone,-⟩ | ⟨a,ha,rfl,hdue,-⟩
    · rw [hnone] at hout
      cases hout
    · obtain ⟨before',t',between,rfl,hsilent,hat⟩ := hlast a ha
      refine ⟨before',t',a.2,between,rfl,hsilent,?_⟩
      have hbyte := hes.byte before' t' a.2 (between ++ (t,.tick) :: rest) (by rw [hsplit]; simp)
      have htick := hes.tick _ t rest hsplit
      rw [hat] at hdue
      have helapsed := elapsed_of_ticks inclusive phase t' (by norm_num : (0 : ℝ) < 50)
        (n := ctx.timing.byteCompleteT35Ticks.toNat)
        (k := start+ticksOf (events (before' ++ (t',.rxByte a.2) :: between))+1)
        (by rw [hbyte]; omega)
      have hsilence := hexact.silenceT35_le hbaud hformat.bits.1
      push_cast at helapsed
      rw [htick]
      push_cast at hsilence ⊢
      linarith

/-! A frame in real time. -/

structure TimedTo (inclusive : Bool) (phase : ℝ) (start : ℤ) (es : List TimedEvent) (t : ℝ) :
    Prop where
  realTime : RealTime inclusive phase start es
  latest : ∀ e ∈ es, e.1 ≤ t

noncomputable def nextTicks (phase : ℝ) (start : ℤ) (k n : ℕ) : List TimedEvent :=
  (List.range n).map fun i => (phase+(start+(k+i : ℕ)+1)*50,.tick)

theorem events_nextTicks (phase : ℝ) (start : ℤ) (k n : ℕ) :
    events (nextTicks phase start k n) = List.replicate n .tick := by
  simp [events,nextTicks,Function.comp_def]

theorem ticksOf_nextTicks (phase : ℝ) (start : ℤ) (es : List TimedEvent) (k n : ℕ) :
    ticksOf (events (es ++ nextTicks phase start k n)) = ticksOf (events es)+n := by
  rw [events,List.map_append,← events,← events,events_nextTicks]
  simp [ticksOf,RtuEvent.ticks]

namespace TimedTo
variable {inclusive : Bool} {phase : ℝ} {start : ℤ} {es : List TimedEvent} {t t' : ℝ}

theorem nil : TimedTo inclusive phase start [] t where
  realTime := by constructor <;> simp
  latest := by simp

theorem snoc (h : TimedTo inclusive phase start es t) (hle : t ≤ t') {e : RtuEvent}
    (htick : e = .tick → t' = phase+(start+ticksOf (events es)+1)*50)
    (hbyte : e.isByte = true → lastTickAt inclusive 50 phase t' = start+ticksOf (events es)) :
    TimedTo inclusive phase start (es ++ [(t',e)]) t' := by
  have hlast : ∀ x ∈ es, x.1 ≤ t' := fun x hx => (h.latest x hx).trans hle
  -- an event of the longer run is the new one or one of the old run
  have hsplit : ∀ before x rest, es ++ [(t',e)] = before ++ x :: rest →
      (before = es ∧ x = (t',e)) ∨ ∃ rest', es = before ++ x :: rest' := by
    intro before x rest heq
    rcases List.eq_nil_or_concat rest with rfl | ⟨rest',y,rfl⟩
    · obtain ⟨hes,hx⟩ := List.append_inj' heq rfl
      exact .inl ⟨hes.symm,(List.singleton_inj.mp hx).symm⟩
    · rw [List.concat_eq_append,← List.cons_append,← List.append_assoc] at heq
      exact .inr ⟨rest',(List.append_inj' heq rfl).1⟩
  refine ⟨⟨?_,fun before u rest heq => ?_,fun before u b rest heq => ?_⟩,?_⟩
  · rw [List.map_append,List.pairwise_append]
    refine ⟨h.realTime.ordered,by simp,fun a ha b hb => ?_⟩
    obtain ⟨x,hx,rfl⟩ := List.mem_map.mp ha
    rw [List.map_singleton,List.mem_singleton] at hb
    rw [hb]
    exact hlast x hx
  · rcases hsplit _ _ _ heq with ⟨rfl,hx⟩ | ⟨rest',hes⟩
    · obtain ⟨rfl,rfl⟩ := Prod.mk.inj hx
      exact htick rfl
    · exact h.realTime.tick before u rest' hes
  · rcases hsplit _ _ _ heq with ⟨rfl,hx⟩ | ⟨rest',hes⟩
    · obtain ⟨rfl,rfl⟩ := Prod.mk.inj hx
      exact hbyte rfl
    · exact h.realTime.byte before u b rest' hes
  · intro x hx
    rcases List.mem_append.mp hx with hx | hx
    · exact hlast x hx
    · rw [List.mem_singleton.mp hx]

theorem tick (h : TimedTo inclusive phase start es t)
    (hle : t ≤ phase+(start+ticksOf (events es)+1)*50) :
    TimedTo inclusive phase start (es ++ [(phase+(start+ticksOf (events es)+1)*50,.tick)])
      (phase+(start+ticksOf (events es)+1)*50) :=
  h.snoc hle (fun _ => rfl) fun (hbyte : false = true) => by cases hbyte

theorem byte (h : TimedTo inclusive phase start es t) (hle : t ≤ t') (b : Byte)
    (hlast : lastTickAt inclusive 50 phase t' = start+ticksOf (events es)) :
    TimedTo inclusive phase start (es ++ [(t',.rxByte b)]) t' :=
  h.snoc hle (fun htick => by cases htick) fun _ => hlast

theorem ticks (h : TimedTo inclusive phase start es t)
    (hle : t ≤ phase+(start+ticksOf (events es)+1)*50) (n : ℕ) :
    TimedTo inclusive phase start (es ++ nextTicks phase start (ticksOf (events es)) (n+1))
      (phase+(start+ticksOf (events es)+n+1)*50) := by
  induction n with
  | zero =>
    have hone := h.tick hle
    simpa [nextTicks] using hone
  | succ n ih =>
    have hone := ih.tick (by rw [ticksOf_nextTicks]; push_cast; linarith)
    rw [ticksOf_nextTicks] at hone
    rw [nextTicks,List.range_succ,List.map_append,← nextTicks,← List.append_assoc]
    convert hone using 1 <;> push_cast
    · simp [add_assoc]
    · ring

end TimedTo

/-- A frame of two bytes at 9600 baud, one character apart, and the silence after it. -/
noncomputable def frameInTime : List TimedEvent :=
  (((10 : ℕ) : ℝ),.rxByte 0x11#8) ::
    (nextTicks 0 0 0 23 ++ (((1160 : ℕ) : ℝ),.rxByte 0x08#8) :: nextTicks 0 0 23 104)

theorem frameInTime_realTime : RealTime true 0 0 frameInTime := by
  have hfloor (t : ℝ) (n : ℤ) (hle : n*50 ≤ t) (hlt : t < (n+1)*50) : lastTickAt true 50 0 t = n := by
    rw [lastTickAt,if_pos rfl,Int.floor_eq_iff]
    constructor <;> linarith
  have hfirst : TimedTo true 0 0 [((10 : ℝ),.rxByte 0x11#8)] 10 :=
    (TimedTo.nil (t := 0)).byte (by norm_num) 0x11#8 (hfloor 10 0 (by norm_num) (by norm_num))
  have hgap : TimedTo true 0 0 ([((10 : ℝ),.rxByte 0x11#8)] ++ nextTicks 0 0 0 23) 1150 := by
    convert hfirst.ticks (by norm_num [events,ticksOf,RtuEvent.ticks]) 22 using 1 <;>
      norm_num [events,ticksOf,RtuEvent.ticks]
  have hlast : lastTickAt true 50 0 (1160 : ℝ) =
      0+ticksOf (events ([((10 : ℝ),.rxByte 0x11#8)] ++ nextTicks 0 0 0 23)) := by
    rw [ticksOf_nextTicks]
    exact hfloor 1160 23 (by norm_num) (by norm_num)
  have hsecond := hgap.byte (by norm_num) 0x08#8 hlast
  have hcount : ticksOf (events ([((10 : ℝ),.rxByte 0x11#8)] ++ nextTicks 0 0 0 23 ++
      [((1160 : ℝ),.rxByte 0x08#8)])) = 23 := by
    rw [ticksOf_events_byte,ticksOf_nextTicks]
    rfl
  have hend := hsecond.ticks (by rw [hcount]; norm_num) 103
  rw [hcount] at hend
  simpa [frameInTime] using hend.realTime

/-- The frame is complete on the last tick. -/
theorem rtuFraming_realTime_9600 :
    ∃ ctx, mbrtuInit serial9600 = .ok ctx ∧ SoundFraming 9600 11 ctx frameInTime ∧
      (records rtuEventStep ctx (events frameInTime)).filterMap Record.output =
        [⟨[0x11#8,0x08#8],0#8,0#8⟩] := by
  have hevents : events frameInTime = .rxByte 0x11#8 :: (List.replicate 23 .tick ++
      .rxByte 0x08#8 :: List.replicate 104 .tick) := by
    rw [frameInTime,events,List.map_cons,List.map_append,List.map_cons,← events,← events,
      events_nextTicks,events_nextTicks]
  have hframe : (mbrtuInit serial9600).toOption.map (fun ctx => (records rtuEventStep ctx
      (.rxByte 0x11#8 :: (List.replicate 23 .tick ++ .rxByte 0x08#8 ::
        List.replicate 104 .tick))).filterMap Record.output) =
      some [⟨[0x11#8,0x08#8],0#8,0#8⟩] := by decide +kernel
  cases h : mbrtuInit serial9600 with
  | error e =>
    rw [h] at hframe
    cases hframe
  | ok ctx =>
    rw [h] at hframe
    refine ⟨ctx,rfl,rtuFraming_realTime serial9600 ctx h true 0 0 frameInTime frameInTime_realTime,?_⟩
    rw [hevents]
    exact Option.some.inj hframe

end ModbusStack
