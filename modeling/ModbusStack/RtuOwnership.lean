import ModbusStack.RtuFraming

/-! The poll of the main loop, split into the steps between which an interrupt can come, and
who owns the two receive buffers meanwhile. -/
set_option autoImplicit false

namespace ModbusStack
open ByteMemory Machine

/-- Where the main loop is inside `mbrtu_poll`: outside, with the metadata read, with the
frame processed (`none` for a dropped one), or with `pending_ready` cleared. -/
inductive PollPhase where
  | outside
  | noted (index : Byte) (length : Nat) (invalidGap overflow : Byte)
  | processed (result : Option RtuResult)
  | cleared (result : RtuResult)

structure Receiver where
  ctx : RtuContext
  slave : Slave
  phase : PollPhase

inductive ReceiverInput where
  | rxByte (byte : Byte)
  | tick
  | poll (transmitResult : Int)

structure ReceiverOutput where
  completed : Option CompletedFrame
  delivered : Option CompletedFrame
  returned : Option PollResult

def ReceiverOutput.silent : ReceiverOutput := ⟨none,none,none⟩

def ReceiverOutput.returns (result : PollResult) : ReceiverOutput := ⟨none,none,some result⟩

/-- The branch of the poll that drops a frame. -/
def noteDroppedFrame (ctx : RtuContext) (slave : Slave) (request : Mem Byte) (length : Nat)
    (overflow : Byte) : Slave :=
  let broadcast := decide (0 < length ∧ request 0 = 0#8)
  slave.note fun d =>
    if overflow ≠ 0#8 then
      d.noteCharacterOverrun broadcast (decide (0 < length ∧ request 0 = ctx.slaveAddress))
    else d.noteCommunicationError broadcast false

/-- The end of the poll: the response is transmitted and the outcome counted. -/
def finishPoll (ctx : RtuContext) (result : RtuResult) (transmitResult : Int) :
    PollResult × RtuContext :=
  match result with
  | .responseReady _ =>
    if transmitResult ≠ 0 then
      (.errorTransmit,{ ctx with transmitErrors := ctx.transmitErrors+1 })
    else (.responseSent,{ ctx with responsesSent := ctx.responsesSent+1 })
  | .noResponse => (.noResponse,{ ctx with noResponseFrames := ctx.noResponseFrames+1 })
  | e => (.error e,{ ctx with processingErrors := ctx.processingErrors+1 })

def pollStep (cfg : Platform) (r : Receiver) (transmitResult : Int) : ReceiverOutput × Receiver :=
  match r.phase with
  | .outside =>
    if r.ctx.initialized = 0#8 then (.returns .errorArgument,r)
    else if r.ctx.pendingReady = 0#8 then (.returns .idle,r)
    else
      (.silent,{ r with
        phase := .noted r.ctx.pendingBufferIndex r.ctx.pendingLength r.ctx.pendingInvalidGap
          r.ctx.pendingOverflow })
  | .noted index length invalidGap overflow =>
    let request := r.ctx.receiveBuffers index.toNat
    let output : ReceiverOutput := ⟨none,some ⟨slice request 0 length,invalidGap,overflow⟩,none⟩
    if invalidGap ≠ 0#8 ∨ overflow ≠ 0#8 then
      (output,{ r with
        slave := noteDroppedFrame r.ctx r.slave request length overflow
        phase := .processed none })
    else
      let (result,slave) := mbrtuProcessAduWithDiagnostics cfg r.slave request r.ctx.slaveAddress
        r.ctx.diagnosticsPolicy length r.ctx.responseBufferCapacity
      (output,{ r with slave := slave, phase := .processed (some result) })
  | .processed result =>
    let ctx := { r.ctx with pendingReady := 0 }
    match result with
    | none => (.returns .frameDropped,{ r with ctx := ctx, phase := .outside })
    | some result => (.silent,{ r with ctx := ctx, phase := .cleared result })
  | .cleared result =>
    let (returned,ctx) := finishPoll r.ctx result transmitResult
    (.returns returned,{ r with ctx := ctx, phase := .outside })

def receiverStep (cfg : Platform) (r : Receiver) : ReceiverInput → ReceiverOutput × Receiver
  | .rxByte byte =>
    let (frame,ctx) := mbrtuOnRxByteIsr r.ctx byte
    (⟨frame,none,none⟩,{ r with ctx := ctx })
  | .tick =>
    let (frame,ctx) := mbrtuOn50usTickIsr r.ctx
    (⟨frame,none,none⟩,{ r with ctx := ctx })
  | .poll transmitResult => pollStep cfg r transmitResult

/-- Without an interrupt in between, the steps of a poll add up to `mbrtu_poll`. -/
theorem mbrtuPoll_eq_steps (cfg : Platform) (ctx : RtuContext) (slave : Slave)
    (transmitResult : Int) :
    ∃ n ≤ 3, run (receiverStep cfg) ⟨ctx,slave,.outside⟩ (List.replicate (n+1) (.poll transmitResult)) =
        ⟨(mbrtuPoll cfg ctx slave transmitResult).2.1,(mbrtuPoll cfg ctx slave transmitResult).2.2,
          .outside⟩ ∧
      (records (receiverStep cfg) ⟨ctx,slave,.outside⟩
        (List.replicate (n+1) (.poll transmitResult))).map (fun r => r.output.returned) =
        List.replicate n none ++ [some (mbrtuPoll cfg ctx slave transmitResult).1] := by
  unfold mbrtuPoll
  by_cases hi : ctx.initialized = 0#8
  · refine ⟨0,by omega,?_⟩
    simp [run,records,receiverStep,pollStep,hi,ReceiverOutput.returns]
  by_cases hp : ctx.pendingReady = 0#8
  · refine ⟨0,by omega,?_⟩
    simp [run,records,receiverStep,pollStep,hi,hp,ReceiverOutput.returns]
  by_cases hd : ctx.pendingInvalidGap ≠ 0#8 ∨ ctx.pendingOverflow ≠ 0#8
  · refine ⟨2,by omega,?_⟩
    simp only [List.replicate,run,records,receiverStep,pollStep,hi,hp,hd,if_false,if_true,
      List.map_cons,List.map_nil,ReceiverOutput.returns,ReceiverOutput.silent,noteDroppedFrame,
      List.cons_append,List.nil_append,and_self]
  · refine ⟨3,by omega,?_⟩
    simp only [List.replicate,run,records,receiverStep,pollStep,hi,hp,hd,if_false,
      List.map_cons,List.map_nil,ReceiverOutput.returns,ReceiverOutput.silent,
      List.cons_append,List.nil_append]
    generalize mbrtuProcessAduWithDiagnostics cfg slave _ _ _ _ _ = processed
    obtain ⟨result,slave'⟩ := processed
    cases result with
    | responseReady response =>
      simp only [finishPoll]
      split <;> exact ⟨rfl,rfl⟩
    | _ => exact ⟨rfl,rfl⟩

/-! What an interrupt can do to the part of the context that the main loop reads. -/

structure SameConsumer (c c' : RtuContext) : Prop where
  initialized : c'.initialized = c.initialized
  responsesSent : c'.responsesSent = c.responsesSent
  noResponseFrames : c'.noResponseFrames = c.noResponseFrames
  processingErrors : c'.processingErrors = c.processingErrors
  transmitErrors : c'.transmitErrors = c.transmitErrors

/-- The pending frame is as it was, its buffer included if it is not the active one. -/
structure SamePending (c c' : RtuContext) : Prop where
  ready : c'.pendingReady = c.pendingReady
  bufferIndex : c'.pendingBufferIndex = c.pendingBufferIndex
  length : c'.pendingLength = c.pendingLength
  invalidGap : c'.pendingInvalidGap = c.pendingInvalidGap
  overflow : c'.pendingOverflow = c.pendingOverflow
  activeIndex : c'.activeBufferIndex = c.activeBufferIndex
  buffers : ∀ i, i ≠ c.activeBufferIndex.toNat → c'.receiveBuffers i = c.receiveBuffers i

/-- The three things an interrupt can do: go on with the active frame, publish it, or lose it
because the pending one is still there. -/
inductive IsrEffect (c : RtuContext) : Option CompletedFrame → RtuContext → Prop where
  | goesOn {c' : RtuContext} (consumer : SameConsumer c c') (pending : SamePending c c')
      (detected : c'.detectedFrameBoundaries = c.detectedFrameBoundaries)
      (queued : c'.queuedFrames = c.queuedFrames)
      (overrun : c'.overrunFrames = c.overrunFrames) : IsrEffect c none c'
  | publishes {c' : RtuContext} {f : CompletedFrame} (consumer : SameConsumer c c')
      (free : c.pendingReady = 0#8) (ready : c'.pendingReady = 1#8) (frame : c'.pendingFrame = f)
      (pendingIndex : c'.pendingBufferIndex = c.activeBufferIndex)
      (activeIndex : c'.activeBufferIndex = c.activeBufferIndex ^^^ 1)
      (detected : c'.detectedFrameBoundaries = c.detectedFrameBoundaries+1)
      (queued : c'.queuedFrames = c.queuedFrames+1)
      (overrun : c'.overrunFrames = c.overrunFrames) : IsrEffect c (some f) c'
  | loses {c' : RtuContext} {f : CompletedFrame} (consumer : SameConsumer c c')
      (busy : c.pendingReady ≠ 0#8) (pending : SamePending c c')
      (detected : c'.detectedFrameBoundaries = c.detectedFrameBoundaries+1)
      (queued : c'.queuedFrames = c.queuedFrames)
      (overrun : c'.overrunFrames = c.overrunFrames+1) : IsrEffect c (some f) c'

section Interrupts
variable {c c' : RtuContext}

theorem xor_one_toNat_ne (i : Byte) : (i ^^^ 1).toNat ≠ i.toNat := by
  intro h
  have he := BitVec.eq_of_toNat_eq h
  have h1 : i ^^^ (i ^^^ 1) = i ^^^ i := congrArg (i ^^^ ·) he
  rw [← BitVec.xor_assoc,BitVec.xor_self,BitVec.zero_xor] at h1
  cases h1

theorem completeActiveFrameIsr_effect (ha : c.frameActive ≠ 0#8) :
    IsrEffect c (completeActiveFrameIsr c).1 (completeActiveFrameIsr c).2 := by
  simp only [completeActiveFrameIsr,ha,if_false]
  split
  · rename_i hfree
    exact .publishes ⟨rfl,rfl,rfl,rfl,rfl⟩ hfree rfl rfl rfl rfl rfl rfl rfl
  · rename_i hbusy
    exact .loses ⟨rfl,rfl,rfl,rfl,rfl⟩ hbusy ⟨rfl,rfl,rfl,rfl,rfl,rfl,fun _ _ => rfl⟩ rfl rfl rfl

theorem storeByte_effect (c : RtuContext) (byte : Byte) : IsrEffect c none (storeByte c byte) := by
  simp only [storeByte]
  split
  · exact .goesOn ⟨rfl,rfl,rfl,rfl,rfl⟩ ⟨rfl,rfl,rfl,rfl,rfl,rfl,fun _ _ => rfl⟩ rfl rfl rfl
  split
  · exact .goesOn ⟨rfl,rfl,rfl,rfl,rfl⟩ ⟨rfl,rfl,rfl,rfl,rfl,rfl,fun _ _ => rfl⟩ rfl rfl rfl
  · refine .goesOn ⟨rfl,rfl,rfl,rfl,rfl⟩ ⟨rfl,rfl,rfl,rfl,rfl,rfl,fun i hi => ?_⟩ rfl rfl rfl
    exact put_other _ _ _ _ hi

theorem SameConsumer.trans {c'' : RtuContext} (h : SameConsumer c c') (h' : SameConsumer c' c'') :
    SameConsumer c c'' :=
  ⟨h'.initialized.trans h.initialized,h'.responsesSent.trans h.responsesSent,
    h'.noResponseFrames.trans h.noResponseFrames,h'.processingErrors.trans h.processingErrors,
    h'.transmitErrors.trans h.transmitErrors⟩

theorem SamePending.trans {c'' : RtuContext} (h : SamePending c c') (h' : SamePending c' c'') :
    SamePending c c'' := by
  refine ⟨h'.ready.trans h.ready,h'.bufferIndex.trans h.bufferIndex,h'.length.trans h.length,
    h'.invalidGap.trans h.invalidGap,h'.overflow.trans h.overflow,
    h'.activeIndex.trans h.activeIndex,fun i hi => ?_⟩
  rw [h'.buffers i (by rw [h.activeIndex]; exact hi),h.buffers i hi]

/-- The pending frame survives as long as its buffer is not the active one. -/
theorem SamePending.frame_eq (h : SamePending c c')
    (hne : c.pendingBufferIndex.toNat ≠ c.activeBufferIndex.toNat) :
    c'.pendingFrame = c.pendingFrame := by
  simp only [RtuContext.pendingFrame,h.bufferIndex,h.length,h.invalidGap,h.overflow,
    h.buffers _ hne]

theorem IsrEffect.andGoesOn {f : Option CompletedFrame} {c'' : RtuContext}
    (h : IsrEffect c f c') (h' : IsrEffect c' none c'') : IsrEffect c f c'' := by
  cases h' with
  | goesOn consumer' pending' detected' queued' overrun' =>
    cases h with
    | goesOn consumer pending detected queued overrun =>
      exact .goesOn (consumer.trans consumer') (pending.trans pending')
        (detected'.trans detected) (queued'.trans queued) (overrun'.trans overrun)
    | publishes consumer free ready frame pendingIndex activeIndex detected queued overrun =>
      refine .publishes (consumer.trans consumer') free (pending'.ready.trans ready) ?_
        (pending'.bufferIndex.trans pendingIndex) (pending'.activeIndex.trans activeIndex)
        (detected'.trans detected) (queued'.trans queued) (overrun'.trans overrun)
      rw [← frame]
      apply pending'.frame_eq
      rw [pendingIndex,activeIndex]
      exact (xor_one_toNat_ne _).symm
    | loses consumer busy pending detected queued overrun =>
      exact .loses (consumer.trans consumer') busy (pending.trans pending')
        (detected'.trans detected) (queued'.trans queued) (overrun'.trans overrun)

theorem IsrEffect.afterGoesOn {f : Option CompletedFrame} {c'' : RtuContext}
    (h : IsrEffect c none c') (h' : IsrEffect c' f c'') : IsrEffect c f c'' := by
  cases h with
  | goesOn consumer pending detected queued overrun =>
    cases h' with
    | goesOn consumer' pending' detected' queued' overrun' =>
      exact .goesOn (consumer.trans consumer') (pending.trans pending')
        (detected'.trans detected) (queued'.trans queued) (overrun'.trans overrun)
    | publishes consumer' free ready frame pendingIndex activeIndex detected' queued' overrun' =>
      refine .publishes (consumer.trans consumer') (pending.ready ▸ free) ready frame
        (pendingIndex.trans pending.activeIndex) ?_ (by rw [detected',detected])
        (by rw [queued',queued]) (overrun'.trans overrun)
      rw [activeIndex,pending.activeIndex]
    | loses consumer' busy pending' detected' queued' overrun' =>
      exact .loses (consumer.trans consumer') (pending.ready ▸ busy) (pending.trans pending')
        (by rw [detected',detected]) (queued'.trans queued) (by rw [overrun',overrun])

theorem mbrtuOnRxByteIsr_effect (c : RtuContext) (byte : Byte) :
    IsrEffect c (mbrtuOnRxByteIsr c byte).1 (mbrtuOnRxByteIsr c byte).2 := by
  simp only [mbrtuOnRxByteIsr]
  split
  · exact .goesOn ⟨rfl,rfl,rfl,rfl,rfl⟩ ⟨rfl,rfl,rfl,rfl,rfl,rfl,fun _ _ => rfl⟩ rfl rfl rfl
  refine IsrEffect.andGoesOn ?_ (storeByte_effect _ byte)
  split
  · rename_i ha
    split
    · have hbyte : IsrEffect c none { c with receivedBytes := c.receivedBytes+1 } :=
        .goesOn ⟨rfl,rfl,rfl,rfl,rfl⟩ ⟨rfl,rfl,rfl,rfl,rfl,rfl,fun _ _ => rfl⟩ rfl rfl rfl
      exact (hbyte.afterGoesOn (completeActiveFrameIsr_effect ha)).andGoesOn
        (.goesOn ⟨rfl,rfl,rfl,rfl,rfl⟩ ⟨rfl,rfl,rfl,rfl,rfl,rfl,fun _ _ => rfl⟩ rfl rfl rfl)
    · split <;>
        exact .goesOn ⟨rfl,rfl,rfl,rfl,rfl⟩ ⟨rfl,rfl,rfl,rfl,rfl,rfl,fun _ _ => rfl⟩ rfl rfl rfl
  · exact .goesOn ⟨rfl,rfl,rfl,rfl,rfl⟩ ⟨rfl,rfl,rfl,rfl,rfl,rfl,fun _ _ => rfl⟩ rfl rfl rfl

theorem mbrtuOn50usTickIsr_effect (c : RtuContext) :
    IsrEffect c (mbrtuOn50usTickIsr c).1 (mbrtuOn50usTickIsr c).2 := by
  simp only [mbrtuOn50usTickIsr]
  split
  · exact .goesOn ⟨rfl,rfl,rfl,rfl,rfl⟩ ⟨rfl,rfl,rfl,rfl,rfl,rfl,fun _ _ => rfl⟩ rfl rfl rfl
  rename_i ha
  have ha : c.frameActive ≠ 0#8 := fun h => ha (.inr h)
  have hgap : IsrEffect c none (if c.gapTicks.toNat < c.timing.byteCompleteT35Ticks.toNat then
      { c with gapTicks := c.gapTicks+1 } else c) := by
    split <;>
      exact .goesOn ⟨rfl,rfl,rfl,rfl,rfl⟩ ⟨rfl,rfl,rfl,rfl,rfl,rfl,fun _ _ => rfl⟩ rfl rfl rfl
  have hactive : (if c.gapTicks.toNat < c.timing.byteCompleteT35Ticks.toNat then
      { c with gapTicks := c.gapTicks+1 } else c).frameActive ≠ 0#8 := by
    split <;> exact ha
  generalize (if c.gapTicks.toNat < c.timing.byteCompleteT35Ticks.toNat then
    { c with gapTicks := c.gapTicks+1 } else c) = ticked at hgap hactive ⊢
  split
  · exact hgap.afterGoesOn (completeActiveFrameIsr_effect hactive)
  · exact hgap

end Interrupts

/-! The history of a receiver. -/

abbrev ReceiverRecord := Record Receiver ReceiverInput ReceiverOutput

namespace ReceiverRecord
variable (r : ReceiverRecord)

def published : Option CompletedFrame :=
  if r.before.ctx.pendingReady = 0#8 then r.output.completed else none

def overran : Option CompletedFrame :=
  if r.before.ctx.pendingReady = 0#8 then none else r.output.completed

def consumes : Bool :=
  match r.before.phase, r.input with
  | .processed _, .poll _ => true
  | _, _ => false

def drops : Bool := r.output.returned = some .frameDropped

end ReceiverRecord

/-- Everything that has happened to frames so far, read off the records of a run. -/
structure FrameHistory where
  completed : List CompletedFrame
  published : List CompletedFrame
  overran : List CompletedFrame
  delivered : List CompletedFrame
  consumed : Nat
  dropped : Nat

def frameHistory (h : List ReceiverRecord) : FrameHistory where
  completed := h.filterMap fun r => r.output.completed
  published := h.filterMap ReceiverRecord.published
  overran := h.filterMap ReceiverRecord.overran
  delivered := h.filterMap fun r => r.output.delivered
  consumed := h.countP ReceiverRecord.consumes
  dropped := h.countP ReceiverRecord.drops

def Receiver.waiting (r : Receiver) : List CompletedFrame :=
  match r.phase with
  | .processed _ => []
  | _ => if r.ctx.pendingReady = 0#8 then [] else [r.ctx.pendingFrame]

def Receiver.held (r : Receiver) : Nat :=
  match r.phase with
  | .processed _ => 1
  | _ => 0

def Receiver.uncounted (r : Receiver) : Nat :=
  match r.phase with
  | .cleared _ => 1
  | _ => 0

def Receiver.PollReadsPending (r : Receiver) : Prop :=
  match r.phase with
  | .noted index length invalidGap overflow => r.ctx.pendingReady = 1#8 ∧
    index = r.ctx.pendingBufferIndex ∧ length = r.ctx.pendingLength ∧
    invalidGap = r.ctx.pendingInvalidGap ∧ overflow = r.ctx.pendingOverflow
  | .processed _ => r.ctx.pendingReady = 1#8
  | _ => True

structure Owned (r : Receiver) : Prop where
  ready : r.ctx.pendingReady = 0#8 ∨ r.ctx.pendingReady = 1#8
  index : r.ctx.activeBufferIndex = 0#8 ∨ r.ctx.activeBufferIndex = 1#8
  apart : r.ctx.pendingReady ≠ 0#8 → r.ctx.pendingBufferIndex = r.ctx.activeBufferIndex ^^^ 1
  reads : r.PollReadsPending

structure Counted (r : Receiver) (h : FrameHistory) : Prop where
  detected : r.ctx.detectedFrameBoundaries = BitVec.ofNat 32 h.completed.length
  queued : r.ctx.queuedFrames = BitVec.ofNat 32 h.published.length
  overrun : r.ctx.overrunFrames = BitVec.ofNat 32 h.overran.length
  split : h.completed.length = h.published.length+h.overran.length
  order : h.published = h.delivered ++ r.waiting
  consumed : h.delivered.length = h.consumed+r.held
  counted : BitVec.ofNat 32 h.consumed = BitVec.ofNat 32 (h.dropped+r.uncounted)+
    r.ctx.responsesSent+r.ctx.noResponseFrames+r.ctx.processingErrors+r.ctx.transmitErrors

theorem frameHistory_snoc (h : List ReceiverRecord) (r : ReceiverRecord) :
    frameHistory (h ++ [r]) = {
      completed := (frameHistory h).completed ++ r.output.completed.toList
      published := (frameHistory h).published ++ r.published.toList
      overran := (frameHistory h).overran ++ r.overran.toList
      delivered := (frameHistory h).delivered ++ r.output.delivered.toList
      consumed := (frameHistory h).consumed+(if r.consumes = true then 1 else 0)
      dropped := (frameHistory h).dropped+(if r.drops = true then 1 else 0) } := by
  have hmap (f : ReceiverRecord → Option CompletedFrame) : [r].filterMap f = (f r).toList := by
    cases hf : f r <;> simp [hf]
  simp only [frameHistory,List.filterMap_append,hmap,List.countP_append,List.countP_singleton]

section OwnershipSteps
variable {r : Receiver} {h : FrameHistory} {c' : RtuContext} {f : Option CompletedFrame}

theorem Owned.pending_ne (ho : Owned r) (hp : r.ctx.pendingReady ≠ 0#8) :
    r.ctx.pendingBufferIndex.toNat ≠ r.ctx.activeBufferIndex.toNat := by
  rw [ho.apart hp]
  exact xor_one_toNat_ne _

theorem Owned.keep (ho : Owned r) (pending : SamePending r.ctx c') :
    Owned { r with ctx := c' } := by
  refine ⟨pending.ready ▸ ho.ready,pending.activeIndex ▸ ho.index,fun hp => ?_,?_⟩
  · dsimp only at hp ⊢
    rw [pending.bufferIndex,pending.activeIndex]
    exact ho.apart (pending.ready ▸ hp)
  · have hr := ho.reads
    simp only [Receiver.PollReadsPending] at hr ⊢
    rwa [pending.ready,pending.bufferIndex,pending.length,pending.invalidGap,pending.overflow]

theorem Owned.isr (ho : Owned r) (he : IsrEffect r.ctx f c') : Owned { r with ctx := c' } := by
  cases he with
  | goesOn consumer pending detected queued overrun => exact ho.keep pending
  | loses consumer busy pending detected queued overrun => exact ho.keep pending
  | publishes consumer free ready frame pendingIndex activeIndex detected queued overrun =>
    refine ⟨.inr ready,?_,fun _ => ?_,?_⟩
    · dsimp only
      rw [activeIndex]
      rcases ho.index with h | h <;> rw [h] <;> decide
    · dsimp only
      rw [activeIndex,pendingIndex,BitVec.xor_assoc]
      exact (BitVec.xor_zero).symm
    · have hr := ho.reads
      cases hphase : r.phase <;> simp only [Receiver.PollReadsPending,hphase] at hr ⊢
      · rw [free] at hr
        cases hr.1
      · exact ready

theorem Owned.waiting_keep (ho : Owned r) (pending : SamePending r.ctx c') :
    ({ r with ctx := c' } : Receiver).waiting = r.waiting := by
  simp only [Receiver.waiting]
  split
  · rfl
  · rw [pending.ready]
    split
    · rfl
    · rename_i hp
      rw [pending.frame_eq (ho.pending_ne hp)]

theorem Owned.waiting_publish (ho : Owned r) {frame : CompletedFrame}
    (free : r.ctx.pendingReady = 0#8) (ready : c'.pendingReady = 1#8)
    (hframe : c'.pendingFrame = frame) :
    r.waiting = [] ∧ ({ r with ctx := c' } : Receiver).waiting = [frame] := by
  have hr := ho.reads
  simp only [Receiver.waiting,free,ready,hframe]
  cases hphase : r.phase <;> simp [Receiver.PollReadsPending,hphase,free] at hr ⊢

theorem count_snoc {count : Word32} {l : List CompletedFrame} (x : CompletedFrame)
    (h : count = BitVec.ofNat 32 l.length) : count+1 = BitVec.ofNat 32 (l ++ [x]).length := by
  rw [List.length_append,List.length_singleton,BitVec.ofNat_add,h]
  rfl

theorem Counted.isr (ho : Owned r) (hc : Counted r h) (he : IsrEffect r.ctx f c') :
    Counted { r with ctx := c' } { h with
      completed := h.completed ++ f.toList
      published := h.published ++
        (if r.ctx.pendingReady = 0#8 then f else none : Option CompletedFrame).toList
      overran := h.overran ++
        (if r.ctx.pendingReady = 0#8 then none else f : Option CompletedFrame).toList } := by
  have hcons : ∀ consumer : SameConsumer r.ctx c', BitVec.ofNat 32 h.consumed =
      BitVec.ofNat 32 (h.dropped+r.uncounted)+c'.responsesSent+c'.noResponseFrames+
        c'.processingErrors+c'.transmitErrors := by
    intro consumer
    rw [consumer.responsesSent,consumer.noResponseFrames,consumer.processingErrors,
      consumer.transmitErrors]
    exact hc.counted
  cases he with
  | goesOn consumer pending detected queued overrun =>
    have hnone : (if r.ctx.pendingReady = 0#8 then none else none : Option CompletedFrame) = none :=
      ite_self none
    simp only [hnone,Option.toList_none,List.append_nil]
    exact ⟨detected.trans hc.detected,queued.trans hc.queued,overrun.trans hc.overrun,hc.split,
      by rw [ho.waiting_keep pending]; exact hc.order,hc.consumed,hcons consumer⟩
  | publishes consumer free ready frame pendingIndex activeIndex detected queued overrun =>
    obtain ⟨hw,hw'⟩ := ho.waiting_publish free ready frame
    have hsplit := hc.split
    simp only [free,if_true,Option.toList_some,Option.toList_none,List.append_nil]
    refine ⟨?_,?_,overrun.trans hc.overrun,?_,?_,hc.consumed,hcons consumer⟩
    · exact detected.trans (count_snoc _ hc.detected)
    · exact queued.trans (count_snoc _ hc.queued)
    · simp only [List.length_append,List.length_singleton]
      omega
    · rw [hw',hc.order,hw,List.append_nil]
  | loses consumer busy pending detected queued overrun =>
    have hsplit := hc.split
    simp only [busy,if_false,Option.toList_some,Option.toList_none,List.append_nil]
    refine ⟨?_,queued.trans hc.queued,?_,?_,?_,hc.consumed,hcons consumer⟩
    · exact detected.trans (count_snoc _ hc.detected)
    · exact overrun.trans (count_snoc _ hc.overrun)
    · simp only [List.length_append,List.length_singleton]
      omega
    · rw [ho.waiting_keep pending]
      exact hc.order

/-- The end of the poll counts the frame once and leaves what the interrupts use alone. -/
theorem finishPoll_spec (c : RtuContext) (result : RtuResult) (transmitResult : Int) :
    SamePending c (finishPoll c result transmitResult).2 ∧
    (finishPoll c result transmitResult).1 ≠ .frameDropped ∧
    (finishPoll c result transmitResult).2.detectedFrameBoundaries = c.detectedFrameBoundaries ∧
    (finishPoll c result transmitResult).2.queuedFrames = c.queuedFrames ∧
    (finishPoll c result transmitResult).2.overrunFrames = c.overrunFrames ∧
    (finishPoll c result transmitResult).2.responsesSent+
        (finishPoll c result transmitResult).2.noResponseFrames+
        (finishPoll c result transmitResult).2.processingErrors+
        (finishPoll c result transmitResult).2.transmitErrors =
      c.responsesSent+c.noResponseFrames+c.processingErrors+c.transmitErrors+1 := by
  cases result with
  | responseReady response =>
    simp only [finishPoll]
    split
    · exact ⟨⟨rfl,rfl,rfl,rfl,rfl,rfl,fun _ _ => rfl⟩,by simp,rfl,rfl,rfl,by dsimp only; ring⟩
    · exact ⟨⟨rfl,rfl,rfl,rfl,rfl,rfl,fun _ _ => rfl⟩,by simp,rfl,rfl,rfl,by dsimp only; ring⟩
  | _ => exact ⟨⟨rfl,rfl,rfl,rfl,rfl,rfl,fun _ _ => rfl⟩,by simp [finishPoll],rfl,rfl,rfl,
      by simp only [finishPoll]; ring⟩

theorem frameHistory_poll (hs : List ReceiverRecord) (r r' : Receiver) (transmitResult : Int)
    (delivered : Option CompletedFrame) (returned : Option PollResult) :
    frameHistory (hs ++ [⟨r,.poll transmitResult,⟨none,delivered,returned⟩,r'⟩]) =
      { frameHistory hs with
        delivered := (frameHistory hs).delivered ++ delivered.toList
        consumed := (frameHistory hs).consumed+r.held
        dropped := (frameHistory hs).dropped+(if returned = some .frameDropped then 1 else 0) } := by
  rw [frameHistory_snoc]
  have hc : (if ReceiverRecord.consumes ⟨r,.poll transmitResult,⟨none,delivered,returned⟩,r'⟩ = true
      then 1 else 0) = r.held := by
    obtain ⟨ctx,slave,phase⟩ := r
    cases phase <;> rfl
  simp [ReceiverRecord.published,ReceiverRecord.overran,ReceiverRecord.drops,hc]

structure InOrder (r : Receiver) (hs : List ReceiverRecord) : Prop where
  owned : Owned r
  counted : Counted r (frameHistory hs)

section PollSteps
variable {hs : List ReceiverRecord} {transmitResult : Int}

theorem InOrder.note (hi : InOrder r hs) (hphase : r.phase = .outside)
    (hp : r.ctx.pendingReady ≠ 0#8) {r' : Receiver}
    (hr' : r' = { r with
      phase := .noted r.ctx.pendingBufferIndex r.ctx.pendingLength r.ctx.pendingInvalidGap
        r.ctx.pendingOverflow }) :
    InOrder r' (hs ++ [⟨r,.poll transmitResult,.silent,r'⟩]) := by
  obtain ⟨ho,hc⟩ := hi
  have hready := ho.ready.resolve_left hp
  have hh := frameHistory_poll hs r r' transmitResult none none
  subst hr'
  refine ⟨⟨ho.ready,ho.index,ho.apart,hready,rfl,rfl,rfl,rfl⟩,?_⟩
  rw [ReceiverOutput.silent,hh]
  simp only [Option.toList_none,List.append_nil,Receiver.held,hphase,reduceCtorEq,if_false,
    Nat.add_zero]
  refine ⟨hc.detected,hc.queued,hc.overrun,hc.split,?_,?_,?_⟩
  · simpa [Receiver.waiting,hphase] using hc.order
  · simpa [Receiver.held,hphase] using hc.consumed
  · simpa [Receiver.uncounted,hphase] using hc.counted

theorem InOrder.idle (hi : InOrder r hs) (hphase : r.phase = .outside) {result : PollResult}
    (hresult : result ≠ .frameDropped) :
    InOrder r (hs ++ [⟨r,.poll transmitResult,.returns result,r⟩]) := by
  obtain ⟨ho,hc⟩ := hi
  have hh := frameHistory_poll hs r r transmitResult none (some result)
  refine ⟨ho,?_⟩
  rw [ReceiverOutput.returns,hh]
  simpa [Receiver.held,hphase,hresult] using hc

theorem InOrder.process (hi : InOrder r hs) {index invalidGap overflow : Byte} {length : Nat}
    (hphase : r.phase = .noted index length invalidGap overflow) {r' : Receiver}
    (hctx : r'.ctx = r.ctx) {result : Option RtuResult} (hphase' : r'.phase = .processed result) :
    InOrder r' (hs ++ [⟨r,.poll transmitResult,
      ⟨none,some ⟨slice (r.ctx.receiveBuffers index.toNat) 0 length,invalidGap,overflow⟩,none⟩,r'⟩]) := by
  obtain ⟨ho,hc⟩ := hi
  have hr := ho.reads
  simp only [Receiver.PollReadsPending,hphase] at hr
  obtain ⟨hready,rfl,rfl,rfl,rfl⟩ := hr
  have hw : r.waiting = [r.ctx.pendingFrame] := by simp [Receiver.waiting,hphase,hready]
  refine ⟨⟨?_,?_,?_,?_⟩,?_⟩
  · rw [hctx]
    exact ho.ready
  · rw [hctx]
    exact ho.index
  · rw [hctx]
    exact ho.apart
  · rw [Receiver.PollReadsPending,hphase',hctx]
    exact hready
  · rw [frameHistory_poll]
    have hd := hc.consumed
    refine ⟨by rw [hctx]; exact hc.detected,by rw [hctx]; exact hc.queued,
      by rw [hctx]; exact hc.overrun,hc.split,?_,?_,?_⟩
    · have := hc.order
      rw [hw] at this
      simpa [Receiver.waiting,hphase',RtuContext.pendingFrame] using this
    · simp [Receiver.held,hphase,hphase'] at hd ⊢
      exact hd
    · have := hc.counted
      simpa [Receiver.uncounted,Receiver.held,hphase,hphase',hctx] using this

theorem InOrder.clear (hi : InOrder r hs) {result : Option RtuResult}
    (hphase : r.phase = .processed result) {r' : Receiver}
    (hctx : r'.ctx = { r.ctx with pendingReady := 0 }) {returned : Option PollResult}
    (hreturned : (returned = some .frameDropped ∧ r'.phase = .outside) ∨
      (returned = none ∧ ∃ result, r'.phase = .cleared result)) :
    InOrder r' (hs ++ [⟨r,.poll transmitResult,⟨none,none,returned⟩,r'⟩]) := by
  obtain ⟨ho,hc⟩ := hi
  have hreads : r'.PollReadsPending := by
    rcases hreturned with ⟨-,h⟩ | ⟨-,_,h⟩ <;> simp [Receiver.PollReadsPending,h]
  have hw : r'.waiting = [] := by
    rcases hreturned with ⟨-,h⟩ | ⟨-,_,h⟩ <;> simp [Receiver.waiting,h,hctx]
  have hh : r'.held = 0 := by
    rcases hreturned with ⟨-,h⟩ | ⟨-,_,h⟩ <;> simp [Receiver.held,h]
  have hu : (if returned = some PollResult.frameDropped then 1 else 0)+r'.uncounted = 1 := by
    rcases hreturned with ⟨rfl,h⟩ | ⟨rfl,_,h⟩ <;> simp [Receiver.uncounted,h]
  refine ⟨⟨?_,?_,?_,hreads⟩,?_⟩
  · rw [hctx]
    exact .inl rfl
  · rw [hctx]
    exact ho.index
  · rw [hctx]
    exact fun h => absurd rfl h
  · rw [frameHistory_poll]
    have ho' := hc.order
    have hd := hc.consumed
    have hk := hc.counted
    simp only [Receiver.waiting,Receiver.held,Receiver.uncounted,hphase,List.append_nil,
      Nat.add_zero] at ho' hd hk
    refine ⟨by rw [hctx]; exact hc.detected,by rw [hctx]; exact hc.queued,
      by rw [hctx]; exact hc.overrun,hc.split,?_,?_,?_⟩
    · rw [hw]
      simpa using ho'
    · rw [hh]
      simpa [Receiver.held,hphase] using hd
    · rw [Nat.add_assoc,hu,hctx]
      simp only [Receiver.held,hphase,BitVec.ofNat_add,hk]
      ring

theorem InOrder.finish (hi : InOrder r hs) {result : RtuResult} (hphase : r.phase = .cleared result) :
    InOrder { r with ctx := (finishPoll r.ctx result transmitResult).2, phase := .outside }
      (hs ++ [⟨r,.poll transmitResult,.returns (finishPoll r.ctx result transmitResult).1,
        { r with ctx := (finishPoll r.ctx result transmitResult).2, phase := .outside }⟩]) := by
  obtain ⟨ho,hc⟩ := hi
  obtain ⟨pending,hne,detected,queued,overrun,hsum⟩ := finishPoll_spec r.ctx result transmitResult
  have hkeep := ho.keep pending
  have hwait := ho.waiting_keep pending
  refine ⟨⟨hkeep.ready,hkeep.index,hkeep.apart,trivial⟩,?_⟩
  rw [ReceiverOutput.returns,frameHistory_poll]
  have hd := hc.consumed
  have hk := hc.counted
  simp only [Receiver.held,Receiver.uncounted,hphase,Nat.add_zero] at hd hk
  refine ⟨detected.trans hc.detected,queued.trans hc.queued,overrun.trans hc.overrun,hc.split,
    ?_,?_,?_⟩
  · have ho' := hc.order
    rw [← hwait] at ho'
    simpa [Receiver.waiting,hphase] using ho'
  · simpa [Receiver.held,hphase] using hd
  · simp only [Receiver.held,Receiver.uncounted,hphase,Option.some.injEq,hne,if_false,Nat.add_zero]
    have h1 : BitVec.ofNat 32 1 = (1 : Word32) := rfl
    rw [hk,BitVec.ofNat_add,h1]
    linear_combination -hsum

end PollSteps

end OwnershipSteps

theorem receiverStep_isr_effect (cfg : Platform) (r : Receiver) {x : ReceiverInput}
    (hx : ∀ transmitResult, x ≠ .poll transmitResult) :
    ∃ f c', receiverStep cfg r x = (⟨f,none,none⟩,{ r with ctx := c' }) ∧ IsrEffect r.ctx f c' := by
  cases x with
  | rxByte byte => exact ⟨_,_,rfl,mbrtuOnRxByteIsr_effect r.ctx byte⟩
  | tick => exact ⟨_,_,rfl,mbrtuOn50usTickIsr_effect r.ctx⟩
  | poll transmitResult => exact absurd rfl (hx transmitResult)

theorem InOrder.step (cfg : Platform) {r : Receiver} {hs : List ReceiverRecord}
    (hi : InOrder r hs) (x : ReceiverInput) :
    InOrder (receiverStep cfg r x).2
      (hs ++ [⟨r,x,(receiverStep cfg r x).1,(receiverStep cfg r x).2⟩]) := by
  by_cases hx : ∀ transmitResult, x ≠ .poll transmitResult
  · obtain ⟨f,c',hstep,he⟩ := receiverStep_isr_effect cfg r hx
    rw [hstep]
    refine ⟨hi.owned.isr he,?_⟩
    have hcons : ReceiverRecord.consumes ⟨r,x,⟨f,none,none⟩,{ r with ctx := c' }⟩ = false := by
      unfold ReceiverRecord.consumes
      split
      · rename_i heq
        exact absurd heq (hx _)
      · rfl
    rw [frameHistory_snoc,hcons]
    simpa [ReceiverRecord.published,ReceiverRecord.overran,ReceiverRecord.drops] using
      hi.counted.isr hi.owned he
  · simp only [not_forall,not_not] at hx
    obtain ⟨transmitResult,rfl⟩ := hx
    simp only [receiverStep,pollStep]
    cases hphase : r.phase with
    | outside =>
      dsimp only
      split_ifs with h1 h2
      · exact hi.idle hphase (by simp)
      · exact hi.idle hphase (by simp)
      · exact hi.note hphase h2 rfl
    | noted index length invalidGap overflow =>
      dsimp only
      split_ifs
      · exact hi.process hphase rfl rfl
      · exact hi.process hphase rfl rfl
    | processed result =>
      cases result with
      | none => exact hi.clear hphase rfl (.inl ⟨rfl,rfl⟩)
      | some result => exact hi.clear hphase rfl (.inr ⟨rfl,result,rfl⟩)
    | cleared result => exact hi.finish hphase

/-- A context fresh from its initialization, with any policy attached, outside of a poll. -/
def Receiver.initial (ctx : RtuContext) (policy : DiagnosticsPolicy) (slave : Slave) : Receiver :=
  ⟨{ ctx with diagnosticsPolicy := policy },slave,.outside⟩

theorem InOrder.initial {config : RtuConfig} {ctx : RtuContext} (h : mbrtuInit config = .ok ctx)
    (policy : DiagnosticsPolicy) (slave : Slave) : InOrder (.initial ctx policy slave) [] := by
  simp only [mbrtuInit] at h
  repeat' split at h
  all_goals first
    | cases h; done
    | cases h
      exact ⟨⟨.inl rfl,.inl rfl,fun h => absurd rfl h,trivial⟩,rfl,rfl,rfl,rfl,rfl,rfl,rfl⟩

structure Ownership (cfg : Platform) (r : Receiver) (h : FrameHistory) : Prop where
  /-- While a frame is pending, no interrupt touches it. -/
  kept : r.ctx.pendingReady ≠ 0#8 → ∀ x, (∀ transmitResult, x ≠ .poll transmitResult) →
    (receiverStep cfg r x).2.ctx.pendingReady = r.ctx.pendingReady ∧
    (receiverStep cfg r x).2.ctx.pendingBufferIndex = r.ctx.pendingBufferIndex ∧
    (receiverStep cfg r x).2.ctx.pendingLength = r.ctx.pendingLength ∧
    (receiverStep cfg r x).2.ctx.pendingInvalidGap = r.ctx.pendingInvalidGap ∧
    (receiverStep cfg r x).2.ctx.pendingOverflow = r.ctx.pendingOverflow ∧
    (receiverStep cfg r x).2.ctx.receiveBuffers r.ctx.pendingBufferIndex.toNat =
      r.ctx.receiveBuffers r.ctx.pendingBufferIndex.toNat
  apart : r.ctx.pendingReady ≠ 0#8 → r.ctx.activeBufferIndex ≠ r.ctx.pendingBufferIndex
  /-- The published frames are delivered in order, all but one that still waits. -/
  order : h.published = h.delivered ++ r.waiting
  split : h.completed.length = h.published.length+h.overran.length
  overran : r.ctx.overrunFrames = BitVec.ofNat 32 h.overran.length
  boundaries : r.ctx.detectedFrameBoundaries = r.ctx.queuedFrames+r.ctx.overrunFrames
  queued : r.ctx.queuedFrames = BitVec.ofNat 32 h.consumed+r.ctx.pendingReady.setWidth 32
  consumed : r.phase = .outside → BitVec.ofNat 32 h.consumed = BitVec.ofNat 32 h.dropped+
    r.ctx.responsesSent+r.ctx.noResponseFrames+r.ctx.processingErrors+r.ctx.transmitErrors

theorem InOrder.ownership (cfg : Platform) {r : Receiver} {hs : List ReceiverRecord}
    (hi : InOrder r hs) : Ownership cfg r (frameHistory hs) := by
  obtain ⟨ho,hc⟩ := hi
  refine ⟨fun hp x hx => ?_,fun hp he => ?_,hc.order,hc.split,hc.overrun,?_,?_,fun hphase => ?_⟩
  · obtain ⟨f,c',hstep,he⟩ := receiverStep_isr_effect cfg r hx
    have hpending : SamePending r.ctx c' := by
      cases he with
      | goesOn consumer pending detected queued overrun => exact pending
      | publishes consumer free => exact absurd free hp
      | loses consumer busy pending detected queued overrun => exact pending
    rw [hstep]
    exact ⟨hpending.ready,hpending.bufferIndex,hpending.length,hpending.invalidGap,
      hpending.overflow,hpending.buffers _ (ho.pending_ne hp)⟩
  · exact ho.pending_ne hp (congrArg BitVec.toNat he.symm)
  · rw [hc.detected,hc.queued,hc.overrun,hc.split,BitVec.ofNat_add]
  · rw [hc.queued,hc.order,List.length_append,hc.consumed,Nat.add_assoc,BitVec.ofNat_add]
    congr 1
    have hr := ho.reads
    simp only [Receiver.held,Receiver.waiting]
    cases hphase : r.phase <;> simp only [Receiver.PollReadsPending,hphase] at hr ⊢
    case processed => rw [hr]; rfl
    all_goals
      rcases ho.ready with h | h <;> rw [h] <;> rfl
  · have := hc.counted
    simpa [Receiver.uncounted,hphase] using this

/-- Two-buffer ownership, for every interleaving of interrupts with the steps of polls. -/
theorem rtuReceiver_ownership (cfg : Platform) (config : RtuConfig) (ctx : RtuContext)
    (hinit : mbrtuInit config = .ok ctx) (policy : DiagnosticsPolicy) (slave : Slave)
    (inputs : List ReceiverInput) :
    Ownership cfg (run (receiverStep cfg) (.initial ctx policy slave) inputs)
      (frameHistory (records (receiverStep cfg) (.initial ctx policy slave) inputs)) :=
  (history_invariant InOrder (fun _ _ x hi => hi.step cfg x)
    (InOrder.initial hinit policy slave) inputs).ownership cfg

/-- A byte, the silence that completes the frame, and a byte of the next one between the steps
of the poll. -/
def interleavedPoll : List ReceiverInput :=
  [ReceiverInput.rxByte 0x11#8] ++ List.replicate 104 ReceiverInput.tick ++
    [ReceiverInput.poll 0,ReceiverInput.rxByte 0x22#8,ReceiverInput.poll 0,ReceiverInput.tick,
      ReceiverInput.poll 0,ReceiverInput.poll 0]

theorem rtuReceiver_ownership_interleaved :
    ∃ ctx, mbrtuInit serial9600 = .ok ctx ∧
      Ownership .standard
        (run (receiverStep .standard) (.initial ctx none ⟨.zeroed,none,[]⟩) interleavedPoll)
        (frameHistory (records (receiverStep .standard) (.initial ctx none ⟨.zeroed,none,[]⟩)
          interleavedPoll)) := by
  cases h : mbrtuInit serial9600 with
  | error e =>
    have hok : (mbrtuInit serial9600).isOk = true := by decide +kernel
    rw [h] at hok
    cases hok
  | ok ctx => exact ⟨ctx,rfl,rtuReceiver_ownership .standard serial9600 ctx h none
      ⟨.zeroed,none,[]⟩ interleavedPoll⟩

end ModbusStack
