import ModbusStack.MasterTransactions
import ModbusStack.RtuFraming
import ModbusStack.RtuOwnership

/-! The byte receiver of the board: inside a receive window it is the receiver of the library,
with the T3.5 deadline that its tick handler uses. -/
set_option autoImplicit false

namespace ModbusStack
open ByteMemory Machine

/-- The receiver as a context of the library. Outside a receive window it is switched off. -/
def MasterUart.receiver (u : MasterUart) : RtuContext where
  slaveAddress := 0
  receiveBuffers := u.rx.buffers
  receiveBufferCapacity := modbusMasterRxBufferCapacity
  responseBufferCapacity := 0
  timing := { u.rx.timing with byteCompleteT35Ticks := u.rx.timing.t35Ticks }
  gapTicks := u.rx.gapTicks
  activeLength := u.rx.activeLength
  pendingLength := u.rx.pendingLength
  activeBufferIndex := u.rx.activeBufferIndex
  pendingBufferIndex := u.rx.pendingBufferIndex
  frameActive := u.rx.frameActive
  activeInvalidGap := u.rx.activeInvalidGap
  activeOverflow := u.rx.activeOverflow
  pendingReady := u.rx.pendingReady
  pendingInvalidGap := u.rx.pendingInvalidGap
  pendingOverflow := u.rx.pendingOverflow
  initialized := if u.initialized = 0#8 ∨ u.receiveWindowOpen = 0#8 then 0 else 1
  receivedBytes := u.receivedBytes
  detectedFrameBoundaries := u.detectedFrames
  queuedFrames := u.detectedFrames-u.overrunFrames
  invalidGapEvents := u.invalidGapFrames
  overflowEvents := u.overflowFrames
  overrunFrames := u.overrunFrames
  noResponseFrames := 0
  responsesSent := 0
  processingErrors := 0
  transmitErrors := 0
  diagnosticsPolicy := none

def MasterInterrupt.event : MasterInterrupt → Option RtuEvent
  | .rxComplete byte _ => some (.rxByte byte)
  | .uartError => none
  | .tick => some .tick

/-- The tick handler completes a frame before the byte handler could. -/
structure MasterUart.Timely (u : MasterUart) : Prop where
  order : u.rx.timing.t35Ticks.toNat ≤ u.rx.timing.byteCompleteT35Ticks.toNat
  gap : u.rx.frameActive ≠ 0#8 → u.rx.gapTicks.toNat < u.rx.timing.t35Ticks.toNat

section Simulation
variable (u : MasterUart)

theorem completeFrame_receiver : ((modbusMasterRxCompleteFrameIsr u).1,
    (modbusMasterRxCompleteFrameIsr u).2.receiver) = completeActiveFrameIsr u.receiver := by
  have hqueued (a b : Word32) : a+1-b = a-b+1 := by bv_omega
  have hsame (a b : Word32) : a+1-(b+1) = a-b := by bv_omega
  unfold modbusMasterRxCompleteFrameIsr completeActiveFrameIsr
  by_cases ha : u.rx.frameActive = 0#8
  · rw [if_pos ha,if_pos (show u.receiver.frameActive = 0#8 from ha)]
  · rw [if_neg ha,if_neg (show u.receiver.frameActive ≠ 0#8 from ha)]
    dsimp only
    by_cases hp : u.rx.pendingReady = 0#8
    · simp only [hp,if_true,MasterUart.receiver,hqueued]
      rfl
    · simp only [hp,if_false,MasterUart.receiver,hsame]
      rfl

theorem storeByte_receiver (byte : Byte) : (u.storeByte byte).receiver = storeByte u.receiver byte := by
  unfold MasterUart.storeByte storeByte
  by_cases hs : u.rx.activeInvalidGap ≠ 0#8 ∨ u.rx.activeOverflow ≠ 0#8
  · rw [if_pos hs,if_pos (show u.receiver.activeInvalidGap ≠ 0#8 ∨
      u.receiver.activeOverflow ≠ 0#8 from hs)]
  · rw [if_neg hs,if_neg (show ¬ (u.receiver.activeInvalidGap ≠ 0#8 ∨
      u.receiver.activeOverflow ≠ 0#8) from hs)]
    by_cases hl : modbusMasterRxBufferCapacity ≤ u.rx.activeLength
    · rw [if_pos hl,if_pos (show u.receiver.receiveBufferCapacity ≤ u.receiver.activeLength from hl)]
      rfl
    · rw [if_neg hl,
        if_neg (show ¬ u.receiver.receiveBufferCapacity ≤ u.receiver.activeLength from hl)]
      rfl

variable {u}

theorem MasterUart.Timely.rxByte_receiver (h : u.Timely) (byte : Byte) :
    ((modbusMasterOnRxByteIsr u byte).1,(modbusMasterOnRxByteIsr u byte).2.receiver) =
      mbrtuOnRxByteIsr u.receiver byte := by
  unfold modbusMasterOnRxByteIsr mbrtuOnRxByteIsr
  by_cases hoff : u.initialized = 0#8 ∨ u.receiveWindowOpen = 0#8
  · have hi : u.receiver.initialized = 0#8 := if_pos hoff
    rw [if_pos hoff,if_pos hi]
    rfl
  · have hi : u.receiver.initialized ≠ 0#8 := by
      rw [show u.receiver.initialized = 1#8 from if_neg hoff]
      decide
    rw [if_neg hoff,if_neg hi]
    dsimp only
    by_cases ha : u.rx.frameActive = 0#8
    · rw [if_neg (not_not.mpr ha),if_neg (show ¬ u.receiver.frameActive ≠ 0#8 from not_not.mpr ha)]
      rw [storeByte_receiver]
      rfl
    · have hgap := h.gap ha
      have hboard : ¬ u.rx.timing.byteCompleteT35Ticks.toNat ≤ u.rx.gapTicks.toNat := by
        have := h.order
        omega
      have hlibrary : ¬ u.receiver.timing.byteCompleteT35Ticks.toNat ≤
          u.receiver.gapTicks.toNat := by
        show ¬ u.rx.timing.t35Ticks.toNat ≤ u.rx.gapTicks.toNat
        omega
      rw [if_pos ha,if_pos (show u.receiver.frameActive ≠ 0#8 from ha),if_neg hboard,
        if_neg hlibrary]
      by_cases hlong : u.rx.timing.byteCompleteT15Ticks.toNat < u.rx.gapTicks.toNat ∧
          u.rx.activeInvalidGap = 0#8
      · rw [if_pos hlong,if_pos (show u.receiver.timing.byteCompleteT15Ticks.toNat <
          u.receiver.gapTicks.toNat ∧ u.receiver.activeInvalidGap = 0#8 from hlong)]
        rw [storeByte_receiver]
        rfl
      · rw [if_neg hlong,if_neg (show ¬ (u.receiver.timing.byteCompleteT15Ticks.toNat <
          u.receiver.gapTicks.toNat ∧ u.receiver.activeInvalidGap = 0#8) from hlong)]
        rw [storeByte_receiver]
        rfl

theorem tick_receiver (u : MasterUart) :
    ((modbusMasterOn50usTickIsr u).1,(modbusMasterOn50usTickIsr u).2.receiver) =
      mbrtuOn50usTickIsr u.receiver := by
  unfold modbusMasterOn50usTickIsr mbrtuOn50usTickIsr
  by_cases hoff : u.initialized = 0#8 ∨ u.receiveWindowOpen = 0#8
  · have hi : u.receiver.initialized = 0#8 := if_pos hoff
    have hidle : u.initialized = 0#8 ∨ u.receiveWindowOpen = 0#8 ∨ u.rx.frameActive = 0#8 := by tauto
    rw [if_pos hidle,if_pos (.inl hi)]
  · have hi : u.receiver.initialized ≠ 0#8 := by
      rw [show u.receiver.initialized = 1#8 from if_neg hoff]
      decide
    by_cases ha : u.rx.frameActive = 0#8
    · rw [if_pos (.inr (.inr ha)),if_pos (.inr (show u.receiver.frameActive = 0#8 from ha))]
    · have hbusy : ¬ (u.initialized = 0#8 ∨ u.receiveWindowOpen = 0#8 ∨ u.rx.frameActive = 0#8) := by
        tauto
      have hbusy' : ¬ (u.receiver.initialized = 0#8 ∨ u.receiver.frameActive = 0#8) :=
        not_or.mpr ⟨hi,ha⟩
      rw [if_neg hbusy,if_neg hbusy']
      dsimp only
      by_cases hlt : u.rx.gapTicks.toNat < u.rx.timing.t35Ticks.toNat
      · rw [if_pos hlt,if_pos (show u.receiver.gapTicks.toNat <
          u.receiver.timing.byteCompleteT35Ticks.toNat from hlt)]
        by_cases hend : u.rx.timing.t35Ticks.toNat ≤ (u.rx.gapTicks+1).toNat
        · rw [if_pos hend,if_pos (show u.receiver.timing.byteCompleteT35Ticks.toNat ≤
            (u.receiver.gapTicks+1).toNat from hend)]
          exact completeFrame_receiver _
        · rw [if_neg hend,if_neg (show ¬ u.receiver.timing.byteCompleteT35Ticks.toNat ≤
            (u.receiver.gapTicks+1).toNat from hend)]
          rfl
      · rw [if_neg hlt,if_neg (show ¬ u.receiver.gapTicks.toNat <
          u.receiver.timing.byteCompleteT35Ticks.toNat from hlt)]
        have hend : u.rx.timing.t35Ticks.toNat ≤ u.rx.gapTicks.toNat := by omega
        rw [if_pos hend,if_pos (show u.receiver.timing.byteCompleteT35Ticks.toNat ≤
          u.receiver.gapTicks.toNat from hend)]
        exact completeFrame_receiver _

/-- Each interrupt is an event of the library receiver, or leaves it alone. -/
theorem MasterUart.Timely.interrupt_receiver (h : u.Timely) (i : MasterInterrupt) :
    ((u.interrupt i).1,(u.interrupt i).2.receiver) =
      i.event.elim (none,u.receiver) (rtuEventStep u.receiver) := by
  cases i with
  | rxComplete byte rearmed =>
    have hbyte := h.rxByte_receiver byte
    cases rearmed <;> exact hbyte
  | uartError => rfl
  | tick => exact tick_receiver u

/-- The frames that the receiver completes, each with the tick count at that moment. -/
def MasterUart.framesFrom (u : MasterUart) (now : Nat) : List MasterInterrupt →
    List (Nat × CompletedFrame)
  | [] => []
  | i :: is =>
    ((u.interrupt i).1.map fun f => (now+(i.event.elim 0 RtuEvent.ticks),f)).toList ++
      (u.interrupt i).2.framesFrom (now+i.event.elim 0 RtuEvent.ticks) is

end Simulation

/-! A receive window. -/

structure MasterRx.AtRest (rx : MasterRx) : Prop where
  frameActive : rx.frameActive = 0#8
  gapTicks : rx.gapTicks = 0
  activeLength : rx.activeLength = 0
  unspoilt : rx.activeInvalidGap = 0#8 ∧ rx.activeOverflow = 0#8
  pendingReady : rx.pendingReady = 0#8

theorem rxResetAll_atRest (u : MasterUart) : (modbusMasterRxResetAll u).rx.AtRest :=
  ⟨rfl,rfl,rfl,⟨rfl,rfl⟩,rfl⟩

/-- The T3.5 silence of the tick handler lies between the two deadlines of the byte handler. -/
structure RtuTiming.Ordered (timing : RtuTiming) : Prop where
  t15 : timing.byteCompleteT15Ticks.toNat < timing.t35Ticks.toNat
  t35 : timing.t35Ticks.toNat ≤ timing.byteCompleteT35Ticks.toNat

def MasterUart.waiting (u : MasterUart) : Option CompletedFrame :=
  if u.rx.pendingReady = 0#8 then none else some u.receiver.pendingFrame

/-- The receiver holds these bytes of a frame, and the main loop has a buffer of its own. -/
structure MasterUart.Hearing (t15 t35 : Nat) (original : Mem (Mem Byte)) (u : MasterUart)
    (bytes : List TimedByte) (now : Nat) : Prop where
  receiving : Receiving t15 t35 modbusMasterRxBufferCapacity original u.receiver bytes now
  order : t35 ≤ u.rx.timing.byteCompleteT35Ticks.toNat
  apart : u.rx.pendingReady ≠ 0#8 → u.rx.pendingBufferIndex = u.rx.activeBufferIndex ^^^ 1

section Window
variable {u : MasterUart} {t15 t35 : Nat} {original : Mem (Mem Byte)} {bytes : List TimedByte}
  {now : Nat}

theorem completeFrame_timing (u : MasterUart) :
    (modbusMasterRxCompleteFrameIsr u).2.rx.timing = u.rx.timing := by
  unfold modbusMasterRxCompleteFrameIsr
  dsimp only
  split
  · rfl
  · split <;> rfl

theorem storeByte_timing (u : MasterUart) (byte : Byte) :
    (u.storeByte byte).rx.timing = u.rx.timing := by
  unfold MasterUart.storeByte
  split
  · rfl
  · split <;> rfl

theorem interrupt_timing (u : MasterUart) (i : MasterInterrupt) :
    (u.interrupt i).2.rx.timing = u.rx.timing := by
  cases i with
  | rxComplete byte rearmed =>
    have hbyte : (modbusMasterOnRxByteIsr u byte).2.rx.timing = u.rx.timing := by
      unfold modbusMasterOnRxByteIsr
      split
      · rfl
      · dsimp only
        rw [storeByte_timing]
        split
        · split
          · exact completeFrame_timing _
          · split <;> rfl
        · rfl
    cases rearmed <;> exact hbyte
  | uartError => rfl
  | tick =>
    show (modbusMasterOn50usTickIsr u).2.rx.timing = u.rx.timing
    unfold modbusMasterOn50usTickIsr
    split
    · rfl
    · dsimp only
      split <;> split
      · exact completeFrame_timing _
      · rfl
      · exact completeFrame_timing _
      · rfl

theorem MasterUart.Hearing.timely (h : u.Hearing t15 t35 original bytes now) : u.Timely where
  order := by
    have h35 : u.rx.timing.t35Ticks.toNat = t35 := h.receiving.deadline_t35
    rw [h35]
    exact h.order
  gap ha := by
    have h35 : u.rx.timing.t35Ticks.toNat = t35 := h.receiving.deadline_t35
    rw [h35]
    exact h.receiving.bounds.2.1 ha

theorem rtuEventStep_effect (c : RtuContext) {i : MasterInterrupt} {e : RtuEvent}
    (he : i.event = some e) : IsrEffect c (rtuEventStep c e).1 (rtuEventStep c e).2 := by
  cases i with
  | rxComplete byte rearmed =>
    obtain rfl := Option.some.inj he
    exact mbrtuOnRxByteIsr_effect c byte
  | uartError => cases he
  | tick =>
    obtain rfl := Option.some.inj he
    exact mbrtuOn50usTickIsr_effect c

theorem MasterUart.Timely.interrupt_effect (h : u.Timely) (i : MasterInterrupt) :
    IsrEffect u.receiver (u.interrupt i).1 (u.interrupt i).2.receiver := by
  have hr := h.interrupt_receiver i
  cases he : i.event with
  | none =>
    rw [he] at hr
    obtain ⟨hf,hu⟩ := Prod.mk.inj hr
    rw [hf,hu]
    exact .goesOn ⟨rfl,rfl,rfl,rfl,rfl⟩ ⟨rfl,rfl,rfl,rfl,rfl,rfl,fun _ _ => rfl⟩ rfl rfl rfl
  | some e =>
    have heffect := rtuEventStep_effect u.receiver he
    rw [he] at hr
    rw [← show _ = rtuEventStep u.receiver e from hr] at heffect
    exact heffect

theorem IsrEffect.waiting {u' : MasterUart} {f : Option CompletedFrame}
    (he : IsrEffect u.receiver f u'.receiver)
    (hapart : u.rx.pendingReady ≠ 0#8 → u.rx.pendingBufferIndex = u.rx.activeBufferIndex ^^^ 1) :
    u'.waiting = u.waiting.or f ∧
    (u'.rx.pendingReady ≠ 0#8 → u'.rx.pendingBufferIndex = u'.rx.activeBufferIndex ^^^ 1) ∧
    u'.detectedFrames = u.detectedFrames+(if f.isSome then 1 else 0) ∧
    u'.overrunFrames = u.overrunFrames+(if f.isSome ∧ u.waiting.isSome then 1 else 0) := by
  have hkeep (hp : SamePending u.receiver u'.receiver) : u'.waiting = u.waiting ∧
      (u'.rx.pendingReady ≠ 0#8 →
        u'.rx.pendingBufferIndex = u'.rx.activeBufferIndex ^^^ 1) := by
    have hready : u'.rx.pendingReady = u.rx.pendingReady := hp.ready
    have hindex : u'.rx.pendingBufferIndex = u.rx.pendingBufferIndex := hp.bufferIndex
    have hactive : u'.rx.activeBufferIndex = u.rx.activeBufferIndex := hp.activeIndex
    refine ⟨?_,by rw [hready,hindex,hactive]; exact hapart⟩
    unfold MasterUart.waiting
    rw [hready]
    split
    · rfl
    · rename_i hbusy
      rw [hp.frame_eq]
      show u.rx.pendingBufferIndex.toNat ≠ u.rx.activeBufferIndex.toNat
      rw [hapart hbusy]
      exact xor_one_toNat_ne _
  cases he with
  | goesOn _ pending detected _ overrun =>
    obtain ⟨hwaiting,hapart'⟩ := hkeep pending
    exact ⟨by simp [hwaiting],hapart',detected.trans (BitVec.add_zero _).symm,
      overrun.trans (BitVec.add_zero _).symm⟩
  | publishes _ free ready frame pendingIndex activeIndex detected _ overrun =>
    have hnone : u.waiting = none := if_pos free
    have hsome : u'.waiting = some u'.receiver.pendingFrame :=
      if_neg (show ¬ u'.rx.pendingReady = 0#8 by
        rw [show u'.rx.pendingReady = 1#8 from ready]
        decide)
    refine ⟨by rw [hsome,hnone,frame]; rfl,fun _ => ?_,detected,?_⟩
    · show u'.receiver.pendingBufferIndex = u'.receiver.activeBufferIndex ^^^ 1
      rw [pendingIndex,activeIndex,BitVec.xor_assoc]
      exact BitVec.xor_zero.symm
    · rw [hnone]
      exact overrun.trans (BitVec.add_zero _).symm
  | loses _ busy pending detected _ overrun =>
    obtain ⟨hwaiting,hapart'⟩ := hkeep pending
    have hsome : u.waiting = some u.receiver.pendingFrame := if_neg busy
    refine ⟨by rw [hwaiting,hsome]; rfl,hapart',detected,?_⟩
    rw [hsome]
    exact overrun

theorem MasterUart.Hearing.interrupt (h : u.Hearing t15 t35 original bytes now) (hpos : 0 < t35)
    (i : MasterInterrupt) : ∃ bytes', (u.interrupt i).2.Hearing t15 t35 original bytes'
      (now+i.event.elim 0 RtuEvent.ticks) := by
  obtain ⟨-,hapart,-⟩ := (h.timely.interrupt_effect i).waiting h.apart
  have horder : t35 ≤ (u.interrupt i).2.rx.timing.byteCompleteT35Ticks.toNat := by
    rw [interrupt_timing]
    exact h.order
  have hr := h.timely.interrupt_receiver i
  cases he : i.event with
  | none =>
    rw [he] at hr
    have hu := (Prod.mk.inj hr).2
    exact ⟨bytes,by rw [hu]; exact h.receiving,horder,hapart⟩
  | some e =>
    rw [he] at hr
    have hu : (u.interrupt i).2.receiver = (rtuEventStep u.receiver e).2 := congrArg Prod.snd hr
    rcases h.receiving.step hpos e with ⟨-,hrec⟩ | ⟨a,-,rfl,-,-,hrec,-⟩
    · exact ⟨_,by rw [hu]; exact hrec,horder,hapart⟩
    · exact ⟨[],by rw [hu]; exact hrec,horder,hapart⟩

theorem MasterUart.Hearing.run_exists (h : u.Hearing t15 t35 original bytes now) (hpos : 0 < t35)
    (is : List MasterInterrupt) :
    ∃ bytes' now', (u.interrupts is).Hearing t15 t35 original bytes' now' := by
  induction is generalizing u bytes now with
  | nil => exact ⟨bytes,now,h⟩
  | cons i is ih =>
    obtain ⟨bytes',h'⟩ := h.interrupt hpos i
    exact ih h'

theorem MasterUart.Hearing.completions_eq (h : u.Hearing t15 t35 original bytes now)
    (hpos : 0 < t35) (is : List MasterInterrupt) :
    u.framesFrom now is = completions u.receiver now (is.filterMap MasterInterrupt.event) := by
  induction is generalizing u bytes now with
  | nil => rfl
  | cons i is ih =>
    obtain ⟨bytes',h'⟩ := h.interrupt hpos i
    have hr := h.timely.interrupt_receiver i
    rw [MasterUart.framesFrom,ih h']
    cases he : i.event with
    | none =>
      rw [he] at hr
      obtain ⟨hf,hu⟩ := Prod.mk.inj hr
      simp [he,hf,hu]
    | some e =>
      rw [he] at hr
      have hf : (u.interrupt i).1 = (rtuEventStep u.receiver e).1 := congrArg Prod.fst hr
      have hu : (u.interrupt i).2.receiver = (rtuEventStep u.receiver e).2 := congrArg Prod.snd hr
      simp only [List.filterMap_cons,he,completions,hf,hu,Option.elim_some]

/-- The frame that waits is the first that was complete; all others are counted as overruns. -/
theorem MasterUart.Hearing.waiting_run (h : u.Hearing t15 t35 original bytes now)
    (hpos : 0 < t35) (is : List MasterInterrupt) :
    (u.interrupts is).waiting = u.waiting.or ((u.framesFrom now is).head?.map Prod.snd) ∧
    (u.interrupts is).detectedFrames =
      u.detectedFrames+BitVec.ofNat 32 (u.framesFrom now is).length ∧
    (u.interrupts is).overrunFrames = u.overrunFrames+BitVec.ofNat 32
      ((u.framesFrom now is).length-if u.waiting.isSome then 0 else 1) := by
  induction is generalizing u bytes now with
  | nil =>
    refine ⟨by simp [MasterUart.interrupts,MasterUart.framesFrom],?_,?_⟩
    · exact (BitVec.add_zero _).symm
    · simp [MasterUart.interrupts,MasterUart.framesFrom]
  | cons i is ih =>
    obtain ⟨hwaiting,-,hdetected,hoverrun⟩ := (h.timely.interrupt_effect i).waiting h.apart
    obtain ⟨bytes',h'⟩ := h.interrupt hpos i
    obtain ⟨hw,hd,ho⟩ := ih h'
    have hrun : u.interrupts (i :: is) = (u.interrupt i).2.interrupts is := rfl
    rw [hrun,hw,hd,ho,hwaiting,hdetected,hoverrun]
    simp only [MasterUart.framesFrom]
    cases hf : (u.interrupt i).1 with
    | none => simp
    | some f =>
      cases hb : u.waiting with
      | none => simp [BitVec.ofNat_add,BitVec.add_assoc,BitVec.add_comm]
      | some g => simp [BitVec.ofNat_add,BitVec.add_assoc,BitVec.add_comm]

end Window

/-! The buffers. -/

structure MasterRx.Bounded (rx : MasterRx) : Prop where
  active : rx.activeLength ≤ modbusMasterRxBufferCapacity
  pending : rx.pendingLength ≤ modbusMasterRxBufferCapacity
  activeIndex : rx.activeBufferIndex = 0#8 ∨ rx.activeBufferIndex = 1#8
  pendingIndex : rx.pendingBufferIndex = 0#8 ∨ rx.pendingBufferIndex = 1#8

section Buffers
variable {u : MasterUart}

theorem rxResetAll_bounded (u : MasterUart) : (modbusMasterRxResetAll u).rx.Bounded :=
  ⟨Nat.zero_le _,Nat.zero_le _,.inl rfl,.inl rfl⟩

/-- A complete frame is not copied: the two buffers change places. -/
theorem completeFrame_confined (h : u.rx.Bounded) :
    (modbusMasterRxCompleteFrameIsr u).2.rx.Bounded ∧
      (modbusMasterRxCompleteFrameIsr u).2.rx.buffers = u.rx.buffers := by
  unfold modbusMasterRxCompleteFrameIsr
  dsimp only
  split
  · exact ⟨h,rfl⟩
  · split
    · refine ⟨⟨Nat.zero_le _,h.active,?_,h.activeIndex⟩,rfl⟩
      show u.rx.activeBufferIndex ^^^ 1 = 0#8 ∨ u.rx.activeBufferIndex ^^^ 1 = 1#8
      rcases h.activeIndex with h | h <;> rw [h] <;> decide
    · exact ⟨⟨Nat.zero_le _,h.pending,h.activeIndex,h.pendingIndex⟩,rfl⟩

theorem storeByte_confined {original : Mem (Mem Byte)}
    (h : u.rx.Bounded ∧ u.rx.buffers = original) (byte : Byte) :
    (u.storeByte byte).rx.Bounded ∧ ∀ j, 2 ≤ j → (u.storeByte byte).rx.buffers j = original j := by
  obtain ⟨h,rfl⟩ := h
  unfold MasterUart.storeByte
  split
  · exact ⟨h,fun _ _ => rfl⟩
  · split
    · exact ⟨⟨h.active,h.pending,h.activeIndex,h.pendingIndex⟩,fun _ _ => rfl⟩
    · rename_i hroom
      refine ⟨⟨Nat.lt_of_not_le hroom,h.pending,h.activeIndex,h.pendingIndex⟩,fun j hj => ?_⟩
      refine put_other _ _ _ _ ?_
      rcases h.activeIndex with h | h <;> rw [h] <;> simp <;> omega

theorem rxByte_confined (h : u.rx.Bounded) (byte : Byte) :
    (modbusMasterOnRxByteIsr u byte).2.rx.Bounded ∧
      ∀ j, 2 ≤ j → (modbusMasterOnRxByteIsr u byte).2.rx.buffers j = u.rx.buffers j := by
  unfold modbusMasterOnRxByteIsr
  split
  · exact ⟨h,fun _ _ => rfl⟩
  · refine storeByte_confined ?_ byte
    dsimp only
    have hcompleted := @completeFrame_confined { u with receivedBytes := u.receivedBytes+1 } h
    split
    · split
      · obtain ⟨hb,hsame⟩ := hcompleted
        exact ⟨⟨hb.active,hb.pending,hb.activeIndex,hb.pendingIndex⟩,hsame⟩
      · split <;> exact ⟨⟨h.active,h.pending,h.activeIndex,h.pendingIndex⟩,rfl⟩
    · exact ⟨⟨h.active,h.pending,h.activeIndex,h.pendingIndex⟩,rfl⟩

theorem interrupt_confined (h : u.rx.Bounded) (i : MasterInterrupt) :
    (u.interrupt i).2.rx.Bounded ∧
      ∀ j, 2 ≤ j → (u.interrupt i).2.rx.buffers j = u.rx.buffers j := by
  cases i with
  | rxComplete byte rearmed =>
    have hbyte := rxByte_confined h byte
    cases rearmed <;> exact hbyte
  | uartError => exact ⟨h,fun _ _ => rfl⟩
  | tick =>
    show (modbusMasterOn50usTickIsr u).2.rx.Bounded ∧
      ∀ j, 2 ≤ j → (modbusMasterOn50usTickIsr u).2.rx.buffers j = u.rx.buffers j
    have hticked : MasterRx.Bounded { u.rx with gapTicks := u.rx.gapTicks+1 } :=
      ⟨h.active,h.pending,h.activeIndex,h.pendingIndex⟩
    have hlater := @completeFrame_confined { u with rx := { u.rx with gapTicks := _ } } hticked
    have hnow := completeFrame_confined h
    unfold modbusMasterOn50usTickIsr
    split
    · exact ⟨h,fun _ _ => rfl⟩
    · dsimp only
      split <;> split
      · exact ⟨hlater.1,fun j _ => congrFun hlater.2 j⟩
      · exact ⟨hticked,fun _ _ => rfl⟩
      · exact ⟨hnow.1,fun j _ => congrFun hnow.2 j⟩
      · exact ⟨h,fun _ _ => rfl⟩

theorem interrupts_confined (h : u.rx.Bounded) (is : List MasterInterrupt) :
    (u.interrupts is).rx.Bounded ∧
      ∀ j, 2 ≤ j → (u.interrupts is).rx.buffers j = u.rx.buffers j := by
  induction is generalizing u with
  | nil => exact ⟨h,fun _ _ => rfl⟩
  | cons i is ih =>
    obtain ⟨hb,hrest⟩ := interrupt_confined h i
    obtain ⟨hb',hrest'⟩ := ih hb
    exact ⟨hb',fun j hj => (hrest' j hj).trans (hrest j hj)⟩

end Buffers

/-- Inside a receive window the board frames as the library does, with the deadlines of its own
timing: whatever bytes, ticks and errors come, the frames are the maximal runs without a T3.5
silence, complete on the tick that ends the silence; the first of them waits for the main loop
and the others are counted as overruns; nothing is written beyond a buffer, and into no other than
the two. -/
theorem masterReceiver_refines_framing (u : MasterUart) (hinitialized : u.initialized ≠ 0#8)
    (hopen : u.receiveWindowOpen ≠ 0#8) (hrest : u.rx.AtRest) (htiming : u.rx.timing.Ordered)
    (is : List MasterInterrupt) :
    let es := is.filterMap MasterInterrupt.event
    let frames := completedFrames u.rx.timing.byteCompleteT15Ticks.toNat
      u.rx.timing.t35Ticks.toNat modbusMasterRxBufferCapacity (timedBytes 0 es) (ticksOf es)
    u.framesFrom 0 is = frames ∧
      (u.interrupts is).waiting = frames.head?.map Prod.snd ∧
      (u.interrupts is).detectedFrames = u.detectedFrames+BitVec.ofNat 32 frames.length ∧
      (u.interrupts is).overrunFrames = u.overrunFrames+BitVec.ofNat 32 (frames.length-1) ∧
      (u.interrupts is).rx.activeLength ≤ modbusMasterRxBufferCapacity ∧
      (∀ i k, modbusMasterRxBufferCapacity ≤ k →
        (u.interrupts is).rx.buffers i k = u.rx.buffers i k) ∧
      (u.rx.Bounded → (u.interrupts is).rx.Bounded ∧
        ∀ i, 2 ≤ i → (u.interrupts is).rx.buffers i = u.rx.buffers i) := by
  intro es frames
  have hpos : 0 < u.rx.timing.t35Ticks.toNat := by
    have := htiming.t15
    omega
  have hidle : Idle u.receiver := by
    refine ⟨?_,hrest.frameActive,hrest.gapTicks,?_⟩
    · rw [show u.receiver.initialized = 1#8 from if_neg (not_or.mpr ⟨hinitialized,hopen⟩)]
      decide
    · show CompletedFrame.mk (slice _ 0 u.rx.activeLength) u.rx.activeInvalidGap
        u.rx.activeOverflow = _
      rw [hrest.activeLength,hrest.unspoilt.1,hrest.unspoilt.2]
      rfl
  have hhearing : u.Hearing u.rx.timing.byteCompleteT15Ticks.toNat u.rx.timing.t35Ticks.toNat
      u.rx.buffers [] 0 := ⟨hidle.receiving,htiming.t35,fun hp => absurd hrest.pendingReady hp⟩
  have hframes : u.framesFrom 0 is = frames := by
    have h := hhearing.receiving.completions_eq hpos es
    rw [hhearing.completions_eq hpos is,h]
    simp [frames]
  have hnone : u.waiting = none := if_pos hrest.pendingReady
  obtain ⟨hw,hd,ho⟩ := hhearing.waiting_run hpos is
  rw [hnone,hframes] at hw
  rw [hframes] at hd
  rw [hnone,hframes] at ho
  obtain ⟨bytes,now,hend⟩ := hhearing.run_exists hpos is
  exact ⟨hframes,by simpa using hw,hd,by simpa using ho,hend.receiving.bounds.2.2.1,
    hend.receiving.bounds.2.2.2,fun hbounded => interrupts_confined hbounded is⟩

def harnessWindow : MasterUart :=
  { (modbusMasterInit .powerOn 0 true).2.uart with receiveWindowOpen := 1 }

/-- A frame of two bytes, and one of one byte that nobody takes. -/
def twoFrames : List MasterInterrupt :=
  [.rxComplete 0x01#8 true,.tick,.rxComplete 0x83#8 true] ++ List.replicate 35 .tick ++
    .rxComplete 0x55#8 true :: List.replicate 35 .tick

theorem masterReceiver_refines_framing_two :
    (harnessWindow.interrupts twoFrames).waiting = some ⟨[0x01#8,0x83#8],0#8,0#8⟩ ∧
      (harnessWindow.interrupts twoFrames).overrunFrames = 1 := by
  have hmain := masterReceiver_refines_framing harnessWindow (by decide +kernel) (by decide)
    ⟨rfl,rfl,rfl,⟨rfl,rfl⟩,rfl⟩ ⟨by decide +kernel,by decide +kernel⟩ twoFrames
  have hframes : completedFrames harnessWindow.rx.timing.byteCompleteT15Ticks.toNat
      harnessWindow.rx.timing.t35Ticks.toNat modbusMasterRxBufferCapacity
      (timedBytes 0 (twoFrames.filterMap MasterInterrupt.event))
      (ticksOf (twoFrames.filterMap MasterInterrupt.event)) =
        [(36,⟨[0x01#8,0x83#8],0#8,0#8⟩),(71,⟨[0x55#8],0#8,0#8⟩)] := by decide +kernel
  obtain ⟨-,hwaiting,-,hoverrun,-⟩ := hmain
  rw [hframes] at hwaiting hoverrun
  have hstart : harnessWindow.overrunFrames = 0 := by decide +kernel
  rw [hstart] at hoverrun
  exact ⟨hwaiting,hoverrun⟩

end ModbusStack
