import ModbusStack.Machine
import ModbusStack.RtuReceiver

/-! The receive path against declarative framing: bytes carry the tick count at which they
arrive, and the frames are the maximal runs without a T3.5 silence. -/
set_option autoImplicit false

namespace ModbusStack
open ByteMemory Machine

abbrev TimedByte := Nat × Byte

section Runs
variable (t15 : Nat)

abbrev Continuous (run : List TimedByte) : Prop := run.IsChain fun a b => b.1-a.1 ≤ t15

/-- The bytes before the first gap longer than T1.5. -/
def bytesBeforeGap : List TimedByte → List TimedByte
  | [] => []
  | [a] => [a]
  | a :: b :: rest => if b.1-a.1 ≤ t15 then a :: bytesBeforeGap (b :: rest) else [a]

variable {t15}

theorem bytesBeforeGap_continuous {run : List TimedByte} (h : Continuous t15 run) :
    bytesBeforeGap t15 run = run := by
  induction run with
  | nil => rfl
  | cons a run ih =>
    cases run with
    | nil => rfl
    | cons b rest =>
      obtain ⟨hab,hc⟩ := List.isChain_cons_cons.mp h
      simp only [bytesBeforeGap,hab,if_true,ih hc]

theorem bytesBeforeGap_not_continuous {run : List TimedByte} (h : ¬ Continuous t15 run)
    (x : TimedByte) : bytesBeforeGap t15 (run ++ [x]) = bytesBeforeGap t15 run := by
  induction run with
  | nil => exact absurd List.isChain_nil h
  | cons a run ih =>
    cases run with
    | nil => exact absurd (List.isChain_singleton a) h
    | cons b rest =>
      simp only [List.cons_append,bytesBeforeGap]
      split
      · rename_i hab
        rw [← List.cons_append,ih fun hc => h (List.isChain_cons_cons.mpr ⟨hab,hc⟩)]
      · rfl

theorem bytesBeforeGap_long_gap {run : List TimedByte} {last : TimedByte}
    (h : Continuous t15 run) (hl : run.getLast? = some last) (x : TimedByte)
    (hx : ¬ x.1-last.1 ≤ t15) : bytesBeforeGap t15 (run ++ [x]) = run := by
  induction run with
  | nil => cases hl
  | cons a run ih =>
    cases run with
    | nil =>
      obtain rfl : a = last := by simpa using hl
      simp only [List.cons_append,List.nil_append,bytesBeforeGap,hx,if_false]
    | cons b rest =>
      obtain ⟨hab,hc⟩ := List.isChain_cons_cons.mp h
      rw [List.getLast?_cons_cons] at hl
      simp only [List.cons_append,bytesBeforeGap,hab,if_true]
      rw [← List.cons_append,ih hc hl]

theorem continuous_snoc {run : List TimedByte} {last : TimedByte} (hl : run.getLast? = some last)
    (x : TimedByte) : Continuous t15 (run ++ [x]) ↔ Continuous t15 run ∧ x.1-last.1 ≤ t15 := by
  simp [Continuous,List.isChain_append,hl]

end Runs

/-- What a frame made of these bytes should look like: a long gap is flagged, the bytes before
it are kept as far as the buffer goes, and the flag for more than that is set. -/
def expectedFrame (t15 capacity : Nat) (run : List TimedByte) : CompletedFrame :=
  ⟨((bytesBeforeGap t15 run).map Prod.snd).take capacity,
    if Continuous t15 run then 0#8 else 1#8,
    if capacity < (bytesBeforeGap t15 run).length then 1#8 else 0#8⟩

inductive RtuEvent where
  | rxByte : Byte → RtuEvent
  | tick : RtuEvent
  | poll : Platform → Slave → Int → RtuEvent

def RtuEvent.ticks : RtuEvent → Nat
  | .tick => 1
  | _ => 0

def rtuEventStep (ctx : RtuContext) : RtuEvent → Option CompletedFrame × RtuContext
  | .rxByte byte => mbrtuOnRxByteIsr ctx byte
  | .tick => mbrtuOn50usTickIsr ctx
  | .poll cfg slave transmitResult => (none,(mbrtuPoll cfg ctx slave transmitResult).2.1)

def timedBytes (now : Nat) : List RtuEvent → List TimedByte
  | [] => []
  | e :: es => match e with
    | .rxByte byte => (now,byte) :: timedBytes now es
    | e => timedBytes (now+e.ticks) es

def ticksOf (es : List RtuEvent) : Nat := (es.map RtuEvent.ticks).sum

def completions (ctx : RtuContext) (now : Nat) : List RtuEvent → List (Nat × CompletedFrame)
  | [] => []
  | e :: es =>
    ((rtuEventStep ctx e).1.map fun f => (now+e.ticks,f)).toList ++
      completions (rtuEventStep ctx e).2 (now+e.ticks) es

/-- The receiver holds the bytes of `run`, the last of which came less than T3.5 before `now`;
`original` is what the two buffers held at first. -/
structure Receiving (t15 t35 capacity : Nat) (original : Mem (Mem Byte)) (ctx : RtuContext)
    (run : List TimedByte) (now : Nat) : Prop where
  initialized : ctx.initialized ≠ 0#8
  deadline_t15 : ctx.timing.byteCompleteT15Ticks.toNat = t15
  deadline_t35 : ctx.timing.byteCompleteT35Ticks.toNat = t35
  room : ctx.receiveBufferCapacity = capacity
  within : run.IsChain fun a b => b.1-a.1 < t35
  frameActive : ctx.frameActive = 0#8 ↔ run = []
  last : ∀ a, run.getLast? = some a → a.1+ctx.gapTicks.toNat = now ∧ ctx.gapTicks.toNat < t35
  gap : run = [] → ctx.gapTicks = 0
  frame : ctx.activeFrame = expectedFrame t15 capacity run
  beyond : ∀ i k, capacity ≤ k → ctx.receiveBuffers i k = original i k

section Steps
variable {t15 t35 capacity : Nat} {original : Mem (Mem Byte)} {ctx : RtuContext}
  {run : List TimedByte} {now : Nat}

theorem Receiving.activeLength_eq (h : Receiving t15 t35 capacity original ctx run now) :
    ctx.activeLength = min capacity (bytesBeforeGap t15 run).length := by
  have := congrArg (fun f => f.bytes.length) h.frame
  simpa [RtuContext.activeFrame,expectedFrame] using this

theorem Receiving.flags_eq (h : Receiving t15 t35 capacity original ctx run now) :
    ctx.activeInvalidGap = (if Continuous t15 run then 0#8 else 1#8) ∧
    ctx.activeOverflow = (if capacity < (bytesBeforeGap t15 run).length then 1#8 else 0#8) :=
  ⟨congrArg CompletedFrame.invalidGap h.frame,congrArg CompletedFrame.overflow h.frame⟩

theorem storeByte_frame (c : RtuContext) (byte : Byte) (r : List TimedByte)
    (hcap : c.receiveBufferCapacity = capacity) (hr : Continuous t15 (r ++ [(now,byte)]))
    (hf : c.activeFrame = expectedFrame t15 capacity r) :
    (storeByte c byte).activeFrame = expectedFrame t15 capacity (r ++ [(now,byte)]) := by
  have hr' : Continuous t15 r := (List.isChain_append.mp hr).1
  simp only [expectedFrame,bytesBeforeGap_continuous hr,bytesBeforeGap_continuous hr',hr,hr',
    if_true] at hf ⊢
  simp only [RtuContext.activeFrame,CompletedFrame.mk.injEq] at hf
  obtain ⟨hbytes,hinv,hover⟩ := hf
  have hlen : c.activeLength = min capacity r.length := by
    have := congrArg List.length hbytes
    simpa using this
  by_cases hfull : capacity < r.length
  · have ho : c.activeOverflow = 1#8 := by simpa [hfull] using hover
    have hs : storeByte c byte = c := by simp [storeByte,ho]
    rw [hs]
    simp only [RtuContext.activeFrame,hbytes,hinv,ho,List.map_append,List.length_append]
    rw [List.take_append_of_le_length (by simp; omega),if_pos (by simp; omega)]
  · have ho : c.activeOverflow = 0#8 := by simpa [hfull] using hover
    by_cases hroom : capacity ≤ r.length
    · have hs : storeByte c byte = { c with
          activeOverflow := 1, overflowEvents := c.overflowEvents+1 } := by
        simp only [storeByte,ho,hinv,hcap,hlen]
        simp [hroom]
      rw [hs]
      simp only [RtuContext.activeFrame,hbytes,hinv,List.map_append,List.length_append]
      rw [List.take_append_of_le_length (by simp; omega),if_pos (by simp; omega)]
      rfl
    · have hl : c.activeLength = r.length := by omega
      have hs : storeByte c byte = { c with
          receiveBuffers := put c.receiveBuffers c.activeBufferIndex.toNat
            (put (c.receiveBuffers c.activeBufferIndex.toNat) c.activeLength byte)
          activeLength := c.activeLength+1 } := by
        simp only [storeByte,ho,hinv,hcap,hl]
        simp [hroom]
      rw [hs]
      simp only [RtuContext.activeFrame,put_same,slice_put_end,hbytes,hinv,ho,List.map_append,
        List.length_append]
      rw [List.take_of_length_le (by simp; omega),List.take_of_length_le (by simp; omega),
        if_neg (by simp; omega)]
      rfl

theorem storeByte_fields (c : RtuContext) (byte : Byte) :
    (storeByte c byte).initialized = c.initialized ∧ (storeByte c byte).timing = c.timing ∧
    (storeByte c byte).receiveBufferCapacity = c.receiveBufferCapacity ∧
    (storeByte c byte).frameActive = c.frameActive ∧ (storeByte c byte).gapTicks = c.gapTicks ∧
    (storeByte c byte).pendingReady = c.pendingReady ∧
    (∀ i k, c.receiveBufferCapacity ≤ k →
      (storeByte c byte).receiveBuffers i k = c.receiveBuffers i k) := by
  simp only [storeByte]
  split
  · exact ⟨rfl,rfl,rfl,rfl,rfl,rfl,fun _ _ _ => rfl⟩
  split
  · exact ⟨rfl,rfl,rfl,rfl,rfl,rfl,fun _ _ _ => rfl⟩
  rename_i hlen
  refine ⟨rfl,rfl,rfl,rfl,rfl,rfl,fun i k hk => ?_⟩
  by_cases hi : i = c.activeBufferIndex.toNat
  · subst hi
    dsimp only
    rw [put_same,put_other _ _ _ _ (by omega)]
  · dsimp only
    rw [put_other _ _ _ _ hi]

theorem storeByte_spoilt (c : RtuContext) (byte : Byte) (h : c.activeInvalidGap ≠ 0#8) :
    storeByte c byte = c := if_pos (Or.inl h)

theorem expectedFrame_long_gap {r : List TimedByte} {a : TimedByte} (hr : Continuous t15 r)
    (ha : r.getLast? = some a) (x : TimedByte) (hx : ¬ x.1-a.1 ≤ t15) :
    expectedFrame t15 capacity (r ++ [x]) = { expectedFrame t15 capacity r with invalidGap := 1#8 } := by
  have hn : ¬ Continuous t15 (r ++ [x]) := fun h => hx ((continuous_snoc ha x).mp h).2
  simp only [expectedFrame,bytesBeforeGap_long_gap hr ha x hx,bytesBeforeGap_continuous hr,hn,
    if_false]

theorem expectedFrame_not_continuous {r : List TimedByte} (hr : ¬ Continuous t15 r)
    (x : TimedByte) : expectedFrame t15 capacity (r ++ [x]) = expectedFrame t15 capacity r := by
  have hn : ¬ Continuous t15 (r ++ [x]) := fun h => hr (List.isChain_append.mp h).1
  simp only [expectedFrame,bytesBeforeGap_not_continuous hr x,hr,hn,if_false]

/-- What the byte handler does once the silent branch is ruled out. -/
def acceptByte (ctx : RtuContext) (byte : Byte) : RtuContext :=
  storeByte { ctx with
    receivedBytes := ctx.receivedBytes+1
    gapTicks := 0
    frameActive := 1
    activeInvalidGap := if ctx.frameActive ≠ 0#8 ∧
        ctx.timing.byteCompleteT15Ticks.toNat < ctx.gapTicks.toNat ∧ ctx.activeInvalidGap = 0#8 then 1
      else ctx.activeInvalidGap
    invalidGapEvents := if ctx.frameActive ≠ 0#8 ∧
        ctx.timing.byteCompleteT15Ticks.toNat < ctx.gapTicks.toNat ∧ ctx.activeInvalidGap = 0#8 then
        ctx.invalidGapEvents+1
      else ctx.invalidGapEvents } byte

/-- The T3.5 branch of the byte handler is never taken. -/
theorem Receiving.rxByte_eq (h : Receiving t15 t35 capacity original ctx run now) (byte : Byte) :
    mbrtuOnRxByteIsr ctx byte = (none,acceptByte ctx byte) := by
  simp only [mbrtuOnRxByteIsr,acceptByte,h.initialized,if_false]
  by_cases ha : ctx.frameActive = 0#8
  · simp [ha]
  · obtain ⟨a,hl⟩ : ∃ a, run.getLast? = some a := by
      rw [← Option.ne_none_iff_exists',ne_eq,List.getLast?_eq_none_iff]
      exact fun hr => ha (h.frameActive.mpr hr)
    have hgap := (h.last a hl).2
    have h35 : ¬ ctx.timing.byteCompleteT35Ticks.toNat ≤ ctx.gapTicks.toNat := by
      rw [h.deadline_t35]
      omega
    simp only [ha,ne_eq,not_false_eq_true,if_true,h35,if_false,true_and]
    split <;> rfl

theorem Receiving.accept_frame (h : Receiving t15 t35 capacity original ctx run now) (byte : Byte) :
    (acceptByte ctx byte).activeFrame = expectedFrame t15 capacity (run ++ [(now,byte)]) := by
  obtain ⟨hinv,-⟩ := h.flags_eq
  cases hl : run.getLast? with
  | none =>
    obtain rfl := List.getLast?_eq_none_iff.mp hl
    have ha : ctx.frameActive = 0#8 := h.frameActive.mpr rfl
    refine storeByte_frame _ byte [] h.room (List.isChain_singleton _) ?_
    simpa [RtuContext.activeFrame,ha] using h.frame
  | some a =>
    have ha : ctx.frameActive ≠ 0#8 := by
      rw [ne_eq,h.frameActive]
      rintro rfl
      cases hl
    obtain ⟨hnow,-⟩ := h.last a hl
    have hgap : now-a.1 = ctx.gapTicks.toNat := by omega
    by_cases hr : Continuous t15 run
    · have h0 : ctx.activeInvalidGap = 0#8 := by simpa [hr] using hinv
      by_cases hx : now-a.1 ≤ t15
      · have hn : ¬ ctx.timing.byteCompleteT15Ticks.toNat < ctx.gapTicks.toNat := by
          rw [h.deadline_t15]
          omega
        refine storeByte_frame _ byte run h.room ((continuous_snoc hl _).mpr ⟨hr,hx⟩) ?_
        simpa [RtuContext.activeFrame,hn] using h.frame
      · have hn : ctx.timing.byteCompleteT15Ticks.toNat < ctx.gapTicks.toNat := by
          rw [h.deadline_t15]
          omega
        rw [expectedFrame_long_gap hr hl (now,byte) hx,← h.frame,acceptByte,storeByte_spoilt]
        · simp [RtuContext.activeFrame,ha,hn,h0]
        · simp [ha,hn,h0]
    · have h1 : ctx.activeInvalidGap = 1#8 := by simpa [hr] using hinv
      rw [expectedFrame_not_continuous hr,← h.frame,acceptByte,storeByte_spoilt]
      · simp [RtuContext.activeFrame,h1]
      · simp [h1]

theorem Receiving.rxByte (h : Receiving t15 t35 capacity original ctx run now) (hpos : 0 < t35)
    (byte : Byte) :
    Receiving t15 t35 capacity original (acceptByte ctx byte) (run ++ [(now,byte)]) now := by
  obtain ⟨hi,ht,hc,ha,hg,-,hb⟩ := storeByte_fields { ctx with
    receivedBytes := ctx.receivedBytes+1
    gapTicks := 0
    frameActive := 1
    activeInvalidGap := if ctx.frameActive ≠ 0#8 ∧
        ctx.timing.byteCompleteT15Ticks.toNat < ctx.gapTicks.toNat ∧ ctx.activeInvalidGap = 0#8 then 1
      else ctx.activeInvalidGap
    invalidGapEvents := if ctx.frameActive ≠ 0#8 ∧
        ctx.timing.byteCompleteT15Ticks.toNat < ctx.gapTicks.toNat ∧ ctx.activeInvalidGap = 0#8 then
        ctx.invalidGapEvents+1
      else ctx.invalidGapEvents } byte
  refine ⟨fun h0 => h.initialized (hi ▸ h0),?_,?_,hc.trans h.room,?_,?_,?_,by simp,?_,?_⟩
  · rw [acceptByte,ht]
    exact h.deadline_t15
  · rw [acceptByte,ht]
    exact h.deadline_t35
  · refine List.isChain_append.mpr ⟨h.within,List.isChain_singleton _,fun a hl b hbm => ?_⟩
    obtain rfl : (now,byte) = b := by simpa using hbm
    have := h.last a hl
    simp only
    omega
  · rw [acceptByte,ha]
    simp
  · intro a hl
    obtain rfl : (now,byte) = a := by simpa using hl
    rw [acceptByte,hg]
    exact ⟨rfl,hpos⟩
  · exact h.accept_frame byte
  · intro i k hk
    rw [acceptByte,hb i k (by rw [← h.room] at hk; exact hk)]
    exact h.beyond i k hk

def Publishes (before after : RtuContext) (f : CompletedFrame) : Prop :=
  if before.pendingReady = 0#8 then
    after.pendingReady = 1#8 ∧ after.pendingFrame = f ∧
      after.queuedFrames = before.queuedFrames+1 ∧ after.overrunFrames = before.overrunFrames
  else
    after.pendingReady = before.pendingReady ∧ after.pendingFrame = before.pendingFrame ∧
      after.queuedFrames = before.queuedFrames ∧ after.overrunFrames = before.overrunFrames+1

theorem completeActiveFrameIsr_publishes (c : RtuContext) (ha : c.frameActive ≠ 0#8) :
    (completeActiveFrameIsr c).1 = some c.activeFrame ∧
      Publishes c (completeActiveFrameIsr c).2 c.activeFrame := by
  simp only [completeActiveFrameIsr,ha,if_false,Publishes,true_and]
  split <;> exact ⟨rfl,rfl,rfl,rfl⟩

theorem completeActiveFrameIsr_fields (c : RtuContext) (ha : c.frameActive ≠ 0#8) :
    (completeActiveFrameIsr c).2.initialized = c.initialized ∧
    (completeActiveFrameIsr c).2.timing = c.timing ∧
    (completeActiveFrameIsr c).2.receiveBufferCapacity = c.receiveBufferCapacity ∧
    (completeActiveFrameIsr c).2.receiveBuffers = c.receiveBuffers ∧
    (completeActiveFrameIsr c).2.frameActive = 0#8 ∧ (completeActiveFrameIsr c).2.gapTicks = 0 ∧
    (completeActiveFrameIsr c).2.activeFrame = ⟨[],0#8,0#8⟩ := by
  simp only [completeActiveFrameIsr,ha,if_false]
  split <;> exact ⟨rfl,rfl,rfl,rfl,rfl,rfl,rfl⟩

theorem Receiving.tick (h : Receiving t15 t35 capacity original ctx run now) :
    ((mbrtuOn50usTickIsr ctx).1 = none ∧
      Receiving t15 t35 capacity original (mbrtuOn50usTickIsr ctx).2 run (now+1)) ∨
    (∃ a, run.getLast? = some a ∧ a.1+t35 = now+1 ∧
      (mbrtuOn50usTickIsr ctx).1 = some (expectedFrame t15 capacity run) ∧
      Receiving t15 t35 capacity original (mbrtuOn50usTickIsr ctx).2 [] (now+1) ∧
      Publishes ctx (mbrtuOn50usTickIsr ctx).2 (expectedFrame t15 capacity run)) := by
  cases hl : run.getLast? with
  | none =>
    obtain rfl := List.getLast?_eq_none_iff.mp hl
    have ha : ctx.frameActive = 0#8 := h.frameActive.mpr rfl
    left
    simp only [mbrtuOn50usTickIsr,ha,or_true,if_true,true_and]
    exact ⟨h.initialized,h.deadline_t15,h.deadline_t35,h.room,h.within,h.frameActive,by simp,h.gap,
      h.frame,h.beyond⟩
  | some a =>
    have ha : ctx.frameActive ≠ 0#8 := by
      rw [ne_eq,h.frameActive]
      rintro rfl
      cases hl
    obtain ⟨hnow,hlt⟩ := h.last a hl
    have h35 := h.deadline_t35
    have hadd : (ctx.gapTicks+1).toNat = ctx.gapTicks.toNat+1 := by
      rw [BitVec.toNat_add]
      simp
      omega
    have hlt' : ctx.gapTicks.toNat < ctx.timing.byteCompleteT35Ticks.toNat := by omega
    simp only [mbrtuOn50usTickIsr,h.initialized,ha,or_self,if_false,hlt',if_true,hadd]
    split
    · rename_i hend
      right
      obtain ⟨hf,hp⟩ := completeActiveFrameIsr_publishes { ctx with gapTicks := ctx.gapTicks+1 } ha
      obtain ⟨h1,h2,h3,h4,h5,h6,h7⟩ :=
        completeActiveFrameIsr_fields { ctx with gapTicks := ctx.gapTicks+1 } ha
      have hframe : ({ ctx with gapTicks := ctx.gapTicks+1 } : RtuContext).activeFrame =
          expectedFrame t15 capacity run := h.frame
      rw [hframe] at hf hp
      refine ⟨a,rfl,by omega,hf,?_,hp⟩
      exact ⟨by rw [h1]; exact h.initialized,by rw [h2]; exact h.deadline_t15,
        by rw [h2]; exact h35,by rw [h3]; exact h.room,List.isChain_nil,⟨fun _ => rfl,fun _ => h5⟩,by simp,
        fun _ => h6,by rw [h7]; simp [expectedFrame,bytesBeforeGap],by rw [h4]; exact h.beyond⟩
    · rename_i hend
      left
      refine ⟨rfl,h.initialized,h.deadline_t15,h35,h.room,h.within,h.frameActive,?_,?_,h.frame,h.beyond⟩
      · intro b hb
        obtain rfl : a = b := by rw [hl] at hb; exact Option.some.inj hb
        simp only [hadd]
        omega
      · rintro rfl
        cases hl

theorem mbrtuPoll_fields (cfg : Platform) (c : RtuContext) (slave : Slave) (result : Int) :
    (mbrtuPoll cfg c slave result).2.1.initialized = c.initialized ∧
    (mbrtuPoll cfg c slave result).2.1.timing = c.timing ∧
    (mbrtuPoll cfg c slave result).2.1.receiveBufferCapacity = c.receiveBufferCapacity ∧
    (mbrtuPoll cfg c slave result).2.1.receiveBuffers = c.receiveBuffers ∧
    (mbrtuPoll cfg c slave result).2.1.frameActive = c.frameActive ∧
    (mbrtuPoll cfg c slave result).2.1.gapTicks = c.gapTicks ∧
    (mbrtuPoll cfg c slave result).2.1.activeFrame = c.activeFrame := by
  simp only [mbrtuPoll]
  repeat' split
  all_goals exact ⟨rfl,rfl,rfl,rfl,rfl,rfl,rfl⟩

theorem Receiving.poll (h : Receiving t15 t35 capacity original ctx run now) (cfg : Platform)
    (slave : Slave) (result : Int) :
    Receiving t15 t35 capacity original (mbrtuPoll cfg ctx slave result).2.1 run now := by
  obtain ⟨h1,h2,h3,h4,h5,h6,h7⟩ := mbrtuPoll_fields cfg ctx slave result
  exact ⟨by rw [h1]; exact h.initialized,by rw [h2]; exact h.deadline_t15,
    by rw [h2]; exact h.deadline_t35,by rw [h3]; exact h.room,h.within,by rw [h5]; exact h.frameActive,
    by rw [h6]; exact h.last,by rw [h6]; exact h.gap,by rw [h7]; exact h.frame,
    by rw [h4]; exact h.beyond⟩

/-- One event either extends the frame in progress or, on the tick that makes the silence
long enough, completes it. -/
theorem Receiving.step (h : Receiving t15 t35 capacity original ctx run now) (hpos : 0 < t35)
    (e : RtuEvent) :
    ((rtuEventStep ctx e).1 = none ∧ Receiving t15 t35 capacity original (rtuEventStep ctx e).2
      (run ++ timedBytes now [e]) (now+e.ticks)) ∨
    (∃ a, run.getLast? = some a ∧ e = .tick ∧ a.1+t35 = now+1 ∧
      (rtuEventStep ctx e).1 = some (expectedFrame t15 capacity run) ∧
      Receiving t15 t35 capacity original (rtuEventStep ctx e).2 [] (now+1) ∧
      Publishes ctx (rtuEventStep ctx e).2 (expectedFrame t15 capacity run)) := by
  cases e with
  | rxByte byte =>
    left
    simp only [rtuEventStep,h.rxByte_eq byte,true_and]
    exact h.rxByte hpos byte
  | tick =>
    rcases h.tick with ⟨hn,hr⟩ | ⟨a,hl,ht,hf,hr,hp⟩
    · left
      refine ⟨hn,?_⟩
      simpa [timedBytes,rtuEventStep,RtuEvent.ticks] using hr
    · exact Or.inr ⟨a,hl,rfl,ht,hf,hr,hp⟩
  | poll cfg slave result =>
    left
    refine ⟨rfl,?_⟩
    simpa [timedBytes,rtuEventStep,RtuEvent.ticks] using h.poll cfg slave result

end Steps

def lastTick (run : List TimedByte) : Nat := (run.getLast?.map Prod.fst).getD 0

/-- The maximal runs of bytes in which consecutive bytes are fewer than T3.5 ticks apart. -/
def framesOf (t35 : Nat) (bytes : List TimedByte) : List (List TimedByte) :=
  bytes.splitBy fun a b => decide (b.1-a.1 < t35)

/-- The frames that are complete `now` ticks in: each on the T3.5-th tick after its last byte. -/
def completedFrames (t15 t35 capacity : Nat) (bytes : List TimedByte) (now : Nat) :
    List (Nat × CompletedFrame) :=
  ((framesOf t35 bytes).filter fun run => decide (lastTick run+t35 ≤ now)).map fun run =>
    (lastTick run+t35,expectedFrame t15 capacity run)

theorem now_le_timedBytes (now : Nat) (es : List RtuEvent) : ∀ a ∈ timedBytes now es, now ≤ a.1 := by
  induction es generalizing now with
  | nil => simp [timedBytes]
  | cons e es ih =>
    cases e with
    | rxByte byte => simpa [timedBytes] using fun a b h => ih now (a,b) h
    | tick =>
      intro a ha
      have := ih (now+1) a ha
      omega
    | poll cfg slave result => exact fun a ha => ih now a ha

theorem timedBytes_cons (now : Nat) (e : RtuEvent) (es : List RtuEvent) :
    timedBytes now (e :: es) = timedBytes now [e] ++ timedBytes (now+e.ticks) es := by
  cases e <;> simp [timedBytes,RtuEvent.ticks]

theorem ticksOf_cons (e : RtuEvent) (es : List RtuEvent) :
    ticksOf (e :: es) = e.ticks+ticksOf es := by simp [ticksOf]

theorem Receiving.completions_eq {t15 t35 capacity : Nat} {original : Mem (Mem Byte)}
    {ctx : RtuContext} {run : List TimedByte} {now : Nat}
    (h : Receiving t15 t35 capacity original ctx run now) (hpos : 0 < t35) (es : List RtuEvent) :
    completions ctx now es =
      completedFrames t15 t35 capacity (run ++ timedBytes now es) (now+ticksOf es) := by
  induction es generalizing ctx run now with
  | nil =>
    simp only [completions,timedBytes,List.append_nil,completedFrames,framesOf]
    by_cases hr : run = []
    · simp [hr]
    · obtain ⟨a,hl⟩ : ∃ a, run.getLast? = some a := by
        rw [← Option.ne_none_iff_exists',ne_eq,List.getLast?_eq_none_iff]
        exact hr
      have hlast := h.last a hl
      rw [List.splitBy_of_isChain hr (by simpa using h.within)]
      simp [lastTick,hl,ticksOf]
      omega
  | cons e es ih =>
    rcases h.step hpos e with ⟨hn,hrec⟩ | ⟨a,hl,rfl,ht,hf,hrec,-⟩
    · rw [completions,hn,timedBytes_cons,← List.append_assoc,ticksOf_cons,← Nat.add_assoc]
      exact ih hrec
    · have hr : run ≠ [] := by
        rintro rfl
        cases hl
      have hsplit : framesOf t35 (run ++ timedBytes (now+1) es) =
          run :: framesOf t35 (timedBytes (now+1) es) := by
        rw [framesOf,List.splitBy_append,List.splitBy_of_isChain hr (by simpa using h.within)]
        · rfl
        · intro x hx y hy
          obtain rfl : a = x := by rw [hl] at hx; exact Option.some.inj hx
          have := now_le_timedBytes (now+1) es y (List.mem_of_mem_head? hy)
          simp
          omega
      have hrest := ih hrec
      simp only [List.nil_append] at hrest
      have htime : lastTick run+t35 = now+1 := by
        simpa [lastTick,hl] using ht
      have hdone : now+1 ≤ now+(1+ticksOf es) := by omega
      simp only [completions,RtuEvent.ticks,hf,hrest,timedBytes,completedFrames,hsplit,ticksOf_cons,
        List.filter_cons,htime,Nat.add_assoc,hdone,decide_true,if_true]
      simp [htime]

structure Idle (ctx : RtuContext) : Prop where
  initialized : ctx.initialized ≠ 0#8
  frameActive : ctx.frameActive = 0#8
  gapTicks : ctx.gapTicks = 0
  activeFrame : ctx.activeFrame = ⟨[],0#8,0#8⟩

theorem mbrtuInit_idle {config : RtuConfig} {ctx : RtuContext} (h : mbrtuInit config = .ok ctx) :
    Idle ctx := by
  simp only [mbrtuInit] at h
  repeat' split at h
  all_goals first
    | cases h; done
    | cases h; exact ⟨by simp,rfl,rfl,rfl⟩

theorem Idle.receiving {ctx : RtuContext} (h : Idle ctx) :
    Receiving ctx.timing.byteCompleteT15Ticks.toNat ctx.timing.byteCompleteT35Ticks.toNat
      ctx.receiveBufferCapacity ctx.receiveBuffers ctx [] 0 :=
  ⟨h.initialized,rfl,rfl,rfl,List.isChain_nil,⟨fun _ => rfl,fun _ => h.frameActive⟩,by simp,
    fun _ => h.gapTicks,by simp [h.activeFrame,expectedFrame,bytesBeforeGap],fun _ _ _ => rfl⟩

theorem Receiving.run_exists {t15 t35 capacity : Nat} {original : Mem (Mem Byte)}
    {ctx : RtuContext} (bytes : List TimedByte) (now : Nat)
    (h : Receiving t15 t35 capacity original ctx bytes now) (hpos : 0 < t35) (es : List RtuEvent) :
    ∃ bytes' now', Receiving t15 t35 capacity original (run rtuEventStep ctx es) bytes' now' := by
  refine run_invariant (fun c => ∃ bytes' now', Receiving t15 t35 capacity original c bytes' now')
    ?_ ⟨bytes,now,h⟩ es
  rintro c e ⟨bytes',now',hc⟩
  rcases hc.step hpos e with ⟨-,hr⟩ | ⟨a,-,-,-,-,hr,-⟩
  · exact ⟨_,_,hr⟩
  · exact ⟨_,_,hr⟩

theorem Receiving.bounds {t15 t35 capacity : Nat} {original : Mem (Mem Byte)} {ctx : RtuContext}
    {bytes : List TimedByte} {now : Nat}
    (h : Receiving t15 t35 capacity original ctx bytes now) :
    ctx.gapTicks.toNat ≤ t35 ∧ (ctx.frameActive ≠ 0#8 → ctx.gapTicks.toNat < t35) ∧
      ctx.activeLength ≤ capacity ∧ (∀ i k, capacity ≤ k → ctx.receiveBuffers i k = original i k) := by
  have hlen := h.activeLength_eq
  cases hl : bytes.getLast? with
  | none =>
    have hb := List.getLast?_eq_none_iff.mp hl
    refine ⟨?_,fun ha => absurd (h.frameActive.mpr hb) ha,by omega,h.beyond⟩
    rw [h.gap hb]
    simp
  | some a =>
    have := (h.last a hl).2
    exact ⟨by omega,fun _ => this,by omega,h.beyond⟩

/-- The receiver refines declarative framing, for every sequence of byte and tick interrupts
and every interleaving of polls with them. -/
theorem rtuReceiver_refines_framing (ctx : RtuContext) (hidle : Idle ctx)
    (htiming : ctx.timing.byteCompleteT15Ticks.toNat < ctx.timing.byteCompleteT35Ticks.toNat)
    (es : List RtuEvent) :
    completions ctx 0 es = completedFrames ctx.timing.byteCompleteT15Ticks.toNat
      ctx.timing.byteCompleteT35Ticks.toNat ctx.receiveBufferCapacity (timedBytes 0 es)
      (ticksOf es) ∧
    (∀ frame ∈ framesOf ctx.timing.byteCompleteT35Ticks.toNat (timedBytes 0 es),
      Continuous ctx.timing.byteCompleteT15Ticks.toNat frame →
      frame.length ≤ ctx.receiveBufferCapacity →
      expectedFrame ctx.timing.byteCompleteT15Ticks.toNat ctx.receiveBufferCapacity frame =
        ⟨frame.map Prod.snd,0#8,0#8⟩) ∧
    (∀ r ∈ records rtuEventStep ctx es, ∀ f, r.output = some f → Publishes r.before r.after f) ∧
    (run rtuEventStep ctx es).gapTicks.toNat ≤ ctx.timing.byteCompleteT35Ticks.toNat ∧
    ((run rtuEventStep ctx es).frameActive ≠ 0#8 →
      (run rtuEventStep ctx es).gapTicks.toNat < ctx.timing.byteCompleteT35Ticks.toNat) ∧
    (run rtuEventStep ctx es).activeLength ≤ ctx.receiveBufferCapacity ∧
    (∀ i k, ctx.receiveBufferCapacity ≤ k →
      (run rtuEventStep ctx es).receiveBuffers i k = ctx.receiveBuffers i k) := by
  have hpos : 0 < ctx.timing.byteCompleteT35Ticks.toNat := by omega
  have h0 := hidle.receiving
  obtain ⟨bytes,now,hrun⟩ := h0.run_exists [] 0 hpos es
  refine ⟨?_,fun frame _ hc hlen => ?_,fun r hr f hf => ?_,hrun.bounds⟩
  · simpa using h0.completions_eq hpos es
  · simp only [expectedFrame,bytesBeforeGap_continuous hc,hc,if_true]
    rw [List.take_of_length_le (by simpa using hlen),if_neg (by omega)]
  · obtain ⟨ys,zs,-,hbefore,hstep⟩ := mem_records hr
    obtain ⟨bytes',now',hrec⟩ := h0.run_exists [] 0 hpos ys
    rw [← hbefore] at hrec
    have ho : (rtuEventStep r.before r.input).1 = some f := by rw [← hstep]; exact hf
    have ha : (rtuEventStep r.before r.input).2 = r.after := by rw [← hstep]
    rcases hrec.step hpos r.input with ⟨hn,-⟩ | ⟨a,-,-,-,hf',-,hp⟩
    · rw [hn] at ho
      cases ho
    · rw [hf'] at ho
      cases ho
      rwa [ha] at hp

def serial9600 : RtuConfig :=
  ⟨0x11#8,9600,8,1,1,⟨1,fun _ => 0⟩,⟨2,fun _ => 0⟩,256,3,256,true⟩

theorem rtuReceiver_refines_framing_9600 :
    ∃ ctx, mbrtuInit serial9600 = .ok ctx ∧
      (run rtuEventStep ctx [.rxByte 0x11#8,.tick,.rxByte 0x08#8]).gapTicks.toNat ≤ 104 := by
  cases h : mbrtuInit serial9600 with
  | error e =>
    have hok : (mbrtuInit serial9600).isOk = true := by decide +kernel
    rw [h] at hok
    cases hok
  | ok ctx =>
    have ht : ctx.timing.byteCompleteT15Ticks = 58 ∧ ctx.timing.byteCompleteT35Ticks = 104 := by
      have hk : (match mbrtuInit serial9600 with
        | .ok c => decide (c.timing.byteCompleteT15Ticks = 58 ∧ c.timing.byteCompleteT35Ticks = 104)
        | .error _ => false) = true := by decide +kernel
      rw [h] at hk
      simpa using hk
    have hmain := rtuReceiver_refines_framing ctx (mbrtuInit_idle h)
      (by rw [ht.1,ht.2]; decide) [.rxByte 0x11#8,.tick,.rxByte 0x08#8]
    refine ⟨ctx,rfl,?_⟩
    have := hmain.2.2.2.1
    rwa [ht.2] at this

end ModbusStack
