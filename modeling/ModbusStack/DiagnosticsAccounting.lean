import ModbusStack.PolicyGate
import ModbusStack.WellFormedResponses

/-! Diagnostics accounting: over every run the counters are the numbers of what they are named
after, since the last approved Restart or Clear Counters. -/
set_option autoImplicit false

namespace ModbusStack
open ByteMemory Machine

/-- The six counters whose meaning is a matter of the frames alone. -/
structure Tally where
  message : Word
  busCommunicationError : Word
  serverMessage : Word
  busExceptionError : Word
  serverNoResponse : Word
  event : Word
  deriving DecidableEq, Repr

def Tally.zero : Tally := ⟨0,0,0,0,0,0⟩

def Diagnostics.tally (d : Diagnostics) : Tally :=
  ⟨d.messageCount,d.busCommunicationErrorCount,d.serverMessageCount,d.busExceptionErrorCount,
    d.serverNoResponseCount,d.eventCounter⟩

structure Marks where
  message : Bool
  busCommunicationError : Bool
  serverMessage : Bool
  busExceptionError : Bool
  serverNoResponse : Bool
  event : Bool
  deriving DecidableEq, Repr

def Marks.none : Marks := ⟨false,false,false,false,false,false⟩

def bump (mark : Bool) (v : Word) : Word := if mark then incrementSaturating v else v

def Tally.add (t : Tally) (m : Marks) : Tally where
  message := bump m.message t.message
  busCommunicationError := bump m.busCommunicationError t.busCommunicationError
  serverMessage := bump m.serverMessage t.serverMessage
  busExceptionError := bump m.busExceptionError t.busExceptionError
  serverNoResponse := bump m.serverNoResponse t.serverNoResponse
  event := bump m.event t.event

structure Noted (m : Marks) (events : List Byte) (d d' : Diagnostics) : Prop where
  tally : d'.tally = d.tally.add m
  log : LogPushed d events d'

theorem Noted.trans {m m' m'' : Marks} {events events' : List Byte} {d d' d'' : Diagnostics}
    (h : Noted m events d d') (h' : Noted m' events' d' d'')
    (hm : ∀ t : Tally, (t.add m).add m' = t.add m'') : Noted m'' (events ++ events') d d'' :=
  ⟨by rw [h'.tally,h.tally,hm],h.log.trans h'.log⟩

section Notes
variable (d : Diagnostics)

theorem noteBusMessage_noted (broadcast : Bool) :
    Noted { Marks.none with message := true } [d.makeReceiveEvent broadcast false false] d
      (d.noteBusMessage broadcast) :=
  ⟨rfl,noteBusMessage_log d broadcast⟩

theorem noteServerMessage_noted :
    Noted { Marks.none with serverMessage := true } [] d d.noteServerMessage :=
  ⟨rfl,noteServerMessage_log d⟩

theorem noteNormalCompletion_noted (noResponse exclude : Bool) :
    Noted { Marks.none with serverNoResponse := noResponse, event := !exclude } [d.makeSendEvent 0] d
      (d.noteNormalCompletion noResponse exclude) := by
  refine ⟨?_,noteNormalCompletion_log d _ _⟩
  cases noResponse <;> cases exclude <;> rfl

theorem noteException_noted (code : Byte) :
    Noted { Marks.none with busExceptionError := true } [d.makeSendEvent code] d
      (d.noteException code) := by
  refine ⟨?_,noteException_log d code⟩
  unfold Diagnostics.noteException
  dsimp only
  split
  · rfl
  split <;> rfl

theorem noteCommunicationError_noted (broadcast overrun : Bool) :
    Noted { Marks.none with message := true, busCommunicationError := true }
      [d.makeReceiveEvent broadcast true overrun] d (d.noteCommunicationError broadcast overrun) := by
  refine ⟨?_,noteCommunicationError_log d _ _⟩
  cases overrun <;> rfl

theorem noteCharacterOverrun_noted (broadcast addressed : Bool) :
    Noted { Marks.none with message := true } [d.makeReceiveEvent broadcast false true] d
      (d.noteCharacterOverrun broadcast addressed) := by
  cases addressed <;> exact ⟨rfl,rfl,rfl,rfl⟩

end Notes

/-- A receive event has the top bit set; send events and the two fixed events do not. -/
def isReceiveEvent (event : Byte) : Bool := event &&& 0x80#8 ≠ 0#8

theorem makeReceiveEvent_isReceive (d : Diagnostics) (broadcast error overrun : Bool) :
    isReceiveEvent (d.makeReceiveEvent broadcast error overrun) = true := by
  unfold Diagnostics.makeReceiveEvent
  cases broadcast <;> cases error <;> cases overrun <;> cases d.isListenOnly <;> decide

theorem makeSendEvent_isReceive (d : Diagnostics) (code : Byte) :
    isReceiveEvent (d.makeSendEvent code) = false := by
  unfold Diagnostics.makeSendEvent
  cases d.isListenOnly <;> repeat' split
  all_goals decide

def RtuResult.isException : RtuResult → Bool
  | .responseReady adu => adu.length = 5 ∧ ofList adu 1 &&& 0x80#8 ≠ 0#8
  | _ => false

section Marking
variable (cfg : Platform) (slaveAddress : Byte) (s : Slave) (f : RtuFrame)

/-- The action that the policy is asked for and allows. A listening slave asks for Restart
only. -/
def approvedAction : Option (DiagnosticsAction × Word) :=
  if f.isIntact ∧ f.isAddressed slaveAddress then
    (requestedAction (f.request.off 1) (f.len-3)).filter fun a =>
      policyAllows f.policy a.1 a.2 && (!s.isListenOnly || decide (a.1 = .restartCommunications))
  else none

def approves (action : DiagnosticsAction) : Bool :=
  (approvedAction slaveAddress s f).any fun a => a.1 = action

/-- The frames after which the counters start again from zero. -/
def resetsCounters : Bool :=
  approves slaveAddress s f .restartCommunications ||
    approves slaveAddress s f .clearCountersAndRegister

def writes : Bool :=
  isSupportedWriteFunction (f.request 1) && !s.isListenOnly &&
    match (mbProcessPdu cfg s.server (f.request.off 1) (f.len-3) modbusPduMaxSize).1 with
    | .ok response => !isExceptionPdu response
    | .error _ => false

def frameMarks (result : RtuResult) : Marks where
  message := 0 < f.len
  busCommunicationError := 0 < f.len ∧ ¬ f.isIntact
  serverMessage := f.isIntact ∧ f.isAddressed slaveAddress
  busExceptionError := result.isException
  serverNoResponse := f.isIntact ∧ f.request 0 = slaveAddress ∧ result = .noResponse
  event :=
    (decide (f.isIntact ∧ f.request 0 = slaveAddress) && result.isReady && !result.isException &&
      !decide (f.request 1 = 0x0B#8 ∨ f.request 1 = 0x0C#8)) ||
    approves slaveAddress s f .forceListenOnly ||
    (decide (f.isIntact ∧ f.request 0 = 0#8) &&
      (writes cfg s f || approves slaveAddress s f .clearOverrunCounter))

def erasesLog : Bool :=
  approvedAction slaveAddress s f = some (.restartCommunications,0xFF00#16)

end Marking

def Diagnostics.eraseLog (d : Diagnostics) : Diagnostics :=
  { d with eventLogCount := 0, eventLogHead := 0 }

/-- One receive event is pushed, then other events only; between them the log may be emptied. -/
def OneReceiveEvent (erased : Bool) (d d' : Diagnostics) : Prop :=
  ∃ receive rest, isReceiveEvent receive = true ∧ (∀ e ∈ rest, isReceiveEvent e = false) ∧
    LogPushed (if erased then (d.pushEvent receive).eraseLog else d.pushEvent receive) rest d'

structure FrameAccounted (cfg : Platform) (slaveAddress : Byte) (s : Slave) (f : RtuFrame)
    (result : RtuResult) (d d' : Diagnostics) : Prop where
  tally : d'.tally = if resetsCounters slaveAddress s f then Tally.zero
    else d.tally.add (frameMarks cfg slaveAddress s f result)
  log : 0 < f.len → OneReceiveEvent (erasesLog slaveAddress s f) d d'

section Frames
variable {cfg : Platform} {slaveAddress : Byte} {s : Slave} {f : RtuFrame} {d : Diagnostics}

theorem approvedAction_unheard (h : ¬ (f.isIntact = true ∧ f.isAddressed slaveAddress = true)) :
    approvedAction slaveAddress s f = none := if_neg h

theorem Heard.approvedAction_eq (hh : Heard slaveAddress f) :
    approvedAction slaveAddress s f =
      (requestedAction (f.request.off 1) (f.len-3)).filter fun a =>
        policyAllows f.policy a.1 a.2 &&
          (!s.isListenOnly || decide (a.1 = .restartCommunications)) :=
  if_pos ⟨hh.intact,hh.addressed⟩

theorem approvedAction_other (h8 : f.request 1 ≠ 0x08#8) :
    approvedAction slaveAddress s f = none := by
  have hnone : requestedAction (f.request.off 1) (f.len-3) = none := if_neg fun h => h8 h.1
  simp [approvedAction,hnone]

theorem Heard.approvedAction_denied (hh : Heard slaveAddress f)
    (hd : Denied f.policy (f.request.off 1) (f.len-3)) :
    approvedAction slaveAddress s f = none := by
  rw [hh.approvedAction_eq]
  cases ha : requestedAction (f.request.off 1) (f.len-3) with
  | none => rfl
  | some a => simp [Option.filter,hd a.1 a.2 ha]

theorem startsLikeRestart_of_requested {data : Word}
    (h : requestedAction (f.request.off 1) (f.len-3) = some (.restartCommunications,data)) :
    f.startsLikeRestart = true := by
  obtain ⟨h8,h5,hsub,-,-⟩ := requestedAction_spec h
  have h1 : f.request 1 = 0x08#8 := h8
  have h2 : f.request 2 = 0x00#8 := by
    have h := hiByte_be16 ((f.request.off 1) 1) ((f.request.off 1) 2)
    rw [← readBe16_off,hsub] at h
    exact h.symm
  have h3 : f.request 3 = 0x01#8 := by
    have h := loByte_be16 ((f.request.off 1) 1) ((f.request.off 1) 2)
    rw [← readBe16_off,hsub] at h
    exact h.symm
  simp [RtuFrame.startsLikeRestart,isRestartCandidate,h1,h2,h3,h5]

theorem Heard.approvedAction_listening (hh : Heard slaveAddress f) (hl : s.isListenOnly = true)
    (hr : f.startsLikeRestart = false) : approvedAction slaveAddress s f = none := by
  rw [hh.approvedAction_eq]
  cases ha : requestedAction (f.request.off 1) (f.len-3) with
  | none => rfl
  | some a =>
    obtain ⟨action,data⟩ := a
    have hne : action ≠ .restartCommunications := by
      rintro rfl
      rw [startsLikeRestart_of_requested ha] at hr
      cases hr
    simp [Option.filter,hl,hne]

theorem Heard.approvedAction_allowed (hh : Heard slaveAddress f) {action : DiagnosticsAction}
    {data : Word} (ha : requestedAction (f.request.off 1) (f.len-3) = some (action,data))
    (hp : policyAllows f.policy action data = true)
    (hl : s.isListenOnly = true → action = .restartCommunications) :
    approvedAction slaveAddress s f = some (action,data) := by
  rw [hh.approvedAction_eq,ha]
  cases hlisten : s.isListenOnly with
  | false => simp [Option.filter,hp]
  | true =>
    obtain rfl := hl hlisten
    simp [Option.filter,hp]

theorem Heard.request_zero (hh : Heard slaveAddress f) :
    decide (f.request 0 = slaveAddress) = !isBroadcast (f.request 0) := by
  have ha := hh.addressed
  simp only [RtuFrame.isAddressed,decide_eq_true_eq] at ha
  have hne : slaveAddress ≠ 0#8 := by
    rintro rfl
    exact absurd hh.range.1 (by decide)
  rcases ha with h0 | h0
  · simp [isBroadcast,h0,hne.symm]
  · simp [isBroadcast,h0,hne]

theorem Heard.marks (hh : Heard slaveAddress f) (result : RtuResult) :
    frameMarks cfg slaveAddress s f result =
      { message := true
        busCommunicationError := false
        serverMessage := true
        busExceptionError := result.isException
        serverNoResponse := !isBroadcast (f.request 0) && decide (result = .noResponse)
        event :=
          (!isBroadcast (f.request 0) && result.isReady && !result.isException &&
            !decide (f.request 1 = 0x0B#8 ∨ f.request 1 = 0x0C#8)) ||
          approves slaveAddress s f .forceListenOnly ||
          (isBroadcast (f.request 0) &&
            (writes cfg s f || approves slaveAddress s f .clearOverrunCounter)) } := by
  have hi := hh.intact
  have ha := hh.addressed
  have hz := hh.request_zero
  have hlen : 0 < f.len := by
    simp only [RtuFrame.isIntact,decide_eq_true_eq] at hi
    omega
  simp only [frameMarks,hi,ha,hlen,hz.symm,Bool.decide_and,decide_true,Bool.true_and,not_true,
    decide_false,Bool.and_false]
  rfl

theorem erasesLog_of_resets (h : resetsCounters slaveAddress s f = false) :
    erasesLog slaveAddress s f = false := by
  cases he : erasesLog slaveAddress s f with
  | false => rfl
  | true =>
    have ha : approvedAction slaveAddress s f = some (.restartCommunications,0xFF00#16) := by
      simpa [erasesLog] using he
    simp [resetsCounters,approves,ha] at h

theorem resetsCounters_none (ha : approvedAction slaveAddress s f = none) :
    resetsCounters slaveAddress s f = false := by
  simp [resetsCounters,approves,ha]

theorem FrameAccounted.of_noted {result : RtuResult} {m : Marks} {receive : Byte}
    {rest : List Byte} {d' : Diagnostics} (hreset : resetsCounters slaveAddress s f = false)
    (h : Noted m (receive :: rest) d d') (hr : isReceiveEvent receive = true)
    (hrest : ∀ e ∈ rest, isReceiveEvent e = false)
    (hm : frameMarks cfg slaveAddress s f result = m) :
    FrameAccounted cfg slaveAddress s f result d d' := by
  refine ⟨?_,fun _ => ⟨receive,rest,hr,hrest,?_⟩⟩
  · rw [hreset,hm,h.tally]
    rfl
  · rw [erasesLog_of_resets hreset]
    exact h.log

theorem approves_none (ha : approvedAction slaveAddress s f = none) (action : DiagnosticsAction) :
    approves slaveAddress s f action = false := by
  simp [approves,ha]

theorem Heard.marks_plain (hh : Heard slaveAddress f) (result : RtuResult)
    (ha : approvedAction slaveAddress s f = none)
    (hw : (isBroadcast (f.request 0) && writes cfg s f) = false) :
    frameMarks cfg slaveAddress s f result =
      { message := true
        busCommunicationError := false
        serverMessage := true
        busExceptionError := result.isException
        serverNoResponse := !isBroadcast (f.request 0) && decide (result = .noResponse)
        event := !isBroadcast (f.request 0) && result.isReady && !result.isException &&
          !decide (f.request 1 = 0x0B#8 ∨ f.request 1 = 0x0C#8) } := by
  rw [hh.marks,approves_none ha,approves_none ha]
  simp only [Bool.or_false,hw]

theorem heard_noted (d : Diagnostics) (f : RtuFrame) :
    Noted { Marks.none with message := true, serverMessage := true }
      [d.makeReceiveEvent (isBroadcast (f.request 0)) false false] d
      (d.noteBusMessage (isBroadcast (f.request 0))).noteServerMessage :=
  (noteBusMessage_noted d _).trans (noteServerMessage_noted _) fun _ => rfl

theorem completed_noted (d : Diagnostics) (f : RtuFrame) (noResponse exclude : Bool) :
    Noted ⟨true,false,true,false,noResponse,!exclude⟩
      [d.makeReceiveEvent (isBroadcast (f.request 0)) false false,
        (d.noteBusMessage (isBroadcast (f.request 0))).noteServerMessage.makeSendEvent 0] d
      ((d.noteBusMessage (isBroadcast (f.request 0))).noteServerMessage.noteNormalCompletion
        noResponse exclude) :=
  (heard_noted d f).trans (noteNormalCompletion_noted _ noResponse exclude) fun _ => rfl

theorem excepted_noted (d : Diagnostics) (f : RtuFrame) (code : Byte) :
    Noted ⟨true,false,true,true,false,false⟩
      [d.makeReceiveEvent (isBroadcast (f.request 0)) false false,
        (d.noteBusMessage (isBroadcast (f.request 0))).noteServerMessage.makeSendEvent code] d
      ((d.noteBusMessage (isBroadcast (f.request 0))).noteServerMessage.noteException code) :=
  (heard_noted d f).trans (noteException_noted _ code) fun _ => rfl

theorem accounted_completed {result : RtuResult}
    {noResponse exclude : Bool} (ha : approvedAction slaveAddress s f = none)
    (hm : frameMarks cfg slaveAddress s f result = ⟨true,false,true,false,noResponse,!exclude⟩) :
    FrameAccounted cfg slaveAddress s f result d
      ((d.noteBusMessage (isBroadcast (f.request 0))).noteServerMessage.noteNormalCompletion
        noResponse exclude) :=
  .of_noted (resetsCounters_none ha) (completed_noted d f noResponse exclude) (makeReceiveEvent_isReceive d _ _ _)
    (by simp [makeSendEvent_isReceive]) hm

theorem isException_responseReady {function : Byte} {response : List Byte} (address : Byte)
    (h : AnswersFunction function response) :
    (RtuResult.responseReady (appendCrc (address :: response))).isException =
      decide (responseExceptionCode response ≠ 0#8) := by
  rcases h with ⟨hlow,tail,rfl⟩ | ⟨code,hcode,rfl⟩
  · have h1 : ofList (appendCrc (address :: function :: tail)) 1 = function := rfl
    have h0 : ofList (function :: tail) 0 = function := rfl
    simp [RtuResult.isException,responseExceptionCode,h1,h0,and_0x80_of_lt function hlow]
  · have h1 : ofList (appendCrc [address,function ||| 0x80#8,code]) 1 = function ||| 0x80#8 := rfl
    simp [RtuResult.isException,responseExceptionCode,h1,or_0x80_and,hcode]

theorem Heard.accounted_answered (hh : Heard slaveAddress f) {response : List Byte}
    (hb : isBroadcast (f.request 0) = false)
    (ha : approvedAction slaveAddress s f = none)
    (hr : AnswersFunction (f.request 1) response) :
    FrameAccounted cfg slaveAddress s f (.responseReady (appendCrc (f.request 0 :: response))) d
      (if responseExceptionCode response ≠ 0#8 then
        (d.noteBusMessage (isBroadcast (f.request 0))).noteServerMessage.noteException
          (responseExceptionCode response)
      else (d.noteBusMessage (isBroadcast (f.request 0))).noteServerMessage.noteNormalCompletion false
        (decide (f.request 1 = 0x0B#8 ∨ f.request 1 = 0x0C#8))) := by
  have hm : frameMarks cfg slaveAddress s f _ = _ :=
    hh.marks_plain (.responseReady (appendCrc (f.request 0 :: response))) ha (by simp [hb])
  rw [isException_responseReady _ hr,hb] at hm
  split
  · rename_i hcode
    refine .of_noted (resetsCounters_none ha) (excepted_noted d f _) (makeReceiveEvent_isReceive d _ _ _)
      (by simp [makeSendEvent_isReceive]) ?_
    rw [hm]
    simp [hcode]
  · rename_i hcode
    refine accounted_completed ha ?_
    rw [hm]
    simp [hcode,RtuResult.isReady]

theorem forceListenOnly_noted (d : Diagnostics) (broadcast : Bool) (data : Word) :
    Noted { Marks.none with serverNoResponse := !broadcast, event := true }
      [{ d with listenOnly := 1 }.makeSendEvent 0,0x04#8] d
      (DiagnosticsAction.settle broadcast data d .forceListenOnly) := by
  cases broadcast <;> exact ⟨rfl,rfl,rfl,rfl⟩

theorem clearOverrun_noted (d : Diagnostics) (broadcast : Bool) (data : Word) :
    Noted { Marks.none with event := true } [d.makeSendEvent 0] d
      (DiagnosticsAction.settle broadcast data d .clearOverrunCounter) :=
  ⟨rfl,rfl,rfl,rfl⟩

theorem resetting_settled {action : DiagnosticsAction} {data : Word} {result : RtuResult}
    (ha : approvedAction slaveAddress s f = some (action,data))
    (hreset : action = .restartCommunications ∨ action = .clearCountersAndRegister) :
    FrameAccounted cfg slaveAddress s f result d
      (action.settle (isBroadcast (f.request 0)) data
        (d.noteBusMessage (isBroadcast (f.request 0))).noteServerMessage) := by
  have hresets : resetsCounters slaveAddress s f = true := by
    rcases hreset with rfl | rfl <;> simp [resetsCounters,approves,ha]
  have herase : erasesLog slaveAddress s f =
      decide (action = .restartCommunications ∧ data = 0xFF00#16) := by
    simp [erasesLog,ha]
  have hreceive := makeReceiveEvent_isReceive d (isBroadcast (f.request 0)) false false
  rcases hreset with rfl | rfl
  · refine ⟨?_,fun _ => ⟨_,[0x00#8],hreceive,by decide,?_⟩⟩
    · rw [hresets]
      by_cases hd : data = 0xFF00#16 <;>
        simp only [DiagnosticsAction.settle,DiagnosticsAction.perform,hd,if_true,if_false] <;> rfl
    · rw [herase]
      by_cases hd : data = 0xFF00#16 <;>
        simp only [DiagnosticsAction.settle,DiagnosticsAction.perform,hd,if_true,if_false] <;>
        exact ⟨rfl,rfl,rfl⟩
  · refine ⟨?_,fun _ => ⟨_,[d.makeSendEvent 0],hreceive,?_,?_⟩⟩
    · rw [hresets]
      rfl
    · simp [makeSendEvent_isReceive]
    · rw [herase]
      exact ⟨rfl,rfl,rfl⟩

theorem Heard.accounted_settled (hh : Heard slaveAddress f) {action : DiagnosticsAction}
    {data : Word} {result : RtuResult} (h8 : f.request 1 = 0x08#8)
    (ha : approvedAction slaveAddress s f = some (action,data))
    (hexception : result.isException = false)
    (hsilent : action = .forceListenOnly → result = .noResponse)
    (hready : action = .clearOverrunCounter → result.isReady = !isBroadcast (f.request 0)) :
    FrameAccounted cfg slaveAddress s f result d
      (action.settle (isBroadcast (f.request 0)) data
        (d.noteBusMessage (isBroadcast (f.request 0))).noteServerMessage) := by
  have hm : frameMarks cfg slaveAddress s f result = _ := hh.marks result
  simp only [hexception,approves,ha,h8] at hm
  have hreceive := makeReceiveEvent_isReceive d (isBroadcast (f.request 0)) false false
  cases action with
  | restartCommunications => exact resetting_settled ha (.inl rfl)
  | clearCountersAndRegister => exact resetting_settled ha (.inr rfl)
  | forceListenOnly =>
    have hn : Noted ⟨true,false,true,false,!isBroadcast (f.request 0),true⟩ _ d _ :=
      (heard_noted d f).trans (forceListenOnly_noted _ _ data) fun _ => rfl
    refine .of_noted (by simp [resetsCounters,approves,ha]) hn hreceive ?_ ?_
    · simp [makeSendEvent_isReceive]
      decide
    · rw [hm,hsilent rfl]
      simp
  | clearOverrunCounter =>
    have hn : Noted ⟨true,false,true,false,false,true⟩ _ d _ :=
      (heard_noted d f).trans (clearOverrun_noted _ (isBroadcast (f.request 0)) data) fun _ => rfl
    refine .of_noted (by simp [resetsCounters,approves,ha]) hn hreceive ?_ ?_
    · simp [makeSendEvent_isReceive]
    · have hr := hready rfl
      have hno : (!isBroadcast (f.request 0) && decide (result = .noResponse)) = false := by
        cases hb : isBroadcast (f.request 0) with
        | true => rfl
        | false =>
          rw [hb] at hr
          cases result with
          | responseReady _ => rfl
          | _ => cases hr
      rw [hm,hno,hr]
      cases isBroadcast (f.request 0) <;> simp

theorem writes_diagnostics (hf : isDiagnosticsFunction (f.request 1) = true) :
    writes cfg s f = false := by
  simp only [isDiagnosticsFunction,decide_eq_true_eq] at hf
  rcases hf with h | h | h | h <;> simp [writes,h,isSupportedWriteFunction]

theorem heard_isListenOnly (f : RtuFrame) (hd : s.diagnostics = some d) :
    (d.noteBusMessage (isBroadcast (f.request 0))).noteServerMessage.isListenOnly =
      s.isListenOnly := by
  rw [Slave.isListenOnly,hd]
  rfl

theorem Heard.accounted_silently (hh : Heard slaveAddress f) (hd : s.diagnostics = some d)
    (hg : s.isListenOnly = true → f.startsLikeRestart = true) {d' : Diagnostics}
    {calls : List (DiagnosticsAction × Word)} {capacity : Nat}
    (h : DiagnosticsOutcome f.policy
      (d.noteBusMessage (isBroadcast (f.request 0))).noteServerMessage (f.request 0)
      (f.request.off 1) (f.len-3) capacity (.noResponse,d',calls)) :
    FrameAccounted cfg slaveAddress s f .noResponse d d' := by
  have hlisten := heard_isListenOnly f hd
  have hplain : Denied f.policy (f.request.off 1) (f.len-3) →
      isDiagnosticsFunction ((f.request.off 1) 0) = true →
      FrameAccounted cfg slaveAddress s f .noResponse d
        ((d.noteBusMessage (isBroadcast (f.request 0))).noteServerMessage.noteNormalCompletion
          (!isBroadcast (f.request 0)) true) := by
    intro hdenied hf
    have ha := hh.approvedAction_denied (s := s) hdenied
    refine accounted_completed ha ?_
    rw [hh.marks_plain _ ha (by rw [writes_diagnostics hf,Bool.and_false])]
    simp [RtuResult.isException,RtuResult.isReady]
  generalize hout : ((DiagnosticsPdu.noResponse,d',calls) : DiagnosticsStep) = out at h
  cases h with
  | notHandled _ => cases hout
  | unheard hf hl hr =>
    have hstart := hg (hlisten ▸ hl)
    simp only [RtuFrame.startsLikeRestart,isRestartCandidate,decide_eq_true_eq] at hstart
    obtain ⟨h5,h8,h2,h3⟩ := hstart
    have hsub : readBe16 ((f.request.off 1).off 1) = 0x0001#16 := by
      simp only [readBe16_off,Mem.off_apply,h2,h3]
      rfl
    simp [isRestartPdu,h8,hsub] at hr
    omega
  | ignored hf hb hdenied =>
    cases hout
    have h := hplain hdenied hf
    rwa [hb] at h ⊢
  | unanswered hf hb hl hdenied =>
    cases hout
    have h := hplain hdenied hf
    rwa [hb] at h ⊢
  | refused code hf hcode hb hdenied =>
    simp only [makeException] at hout
    split at hout <;> cases hout
  | returned response hf hb ha hhead hmin hmax hself =>
    simp only [Prod.mk.injEq] at hout
    have h1 := hout.1
    split at h1 <;> cases h1
  | approved action data ha hp hl =>
    have happroved := hh.approvedAction_allowed ha hp (s := s) (fun h => hl (hlisten.trans h))
    simp only [approvedStep] at hout
    split at hout
    · split at hout <;> cases hout
    · rename_i hans
      cases hout
      rw [silent_settle (by simpa using hans)]
      refine hh.accounted_settled (requestedAction_spec ha).1 happroved rfl (fun _ => rfl) ?_
      rintro rfl
      simpa [DiagnosticsAction.isAnswered,RtuResult.isReady] using hans

theorem selfAccounted_returned (hself : f.request 1 = 0x08#8 → 3 ≤ f.len-3 ∧
      readBe16 ((f.request.off 1).off 1) ≠ 0x0001#16 ∧
      readBe16 ((f.request.off 1).off 1) ≠ 0x000A#16) :
    selfAccounted f.request (f.len-3) = false := by
  cases hs : selfAccounted f.request (f.len-3) with
  | false => rfl
  | true =>
    simp only [selfAccounted,decide_eq_true_eq] at hs
    obtain ⟨h8,-,h2,h3⟩ := hs
    obtain ⟨-,h01,h0A⟩ := hself h8
    simp only [readBe16_off,Mem.off_apply,h2] at h01 h0A
    rcases h3 with h3 | h3
    · exact absurd (by rw [h3]; rfl) h01
    · exact absurd (by rw [h3]; rfl) h0A

theorem Heard.accounted_diagnosed (hh : Heard slaveAddress f) (hd : s.diagnostics = some d)
    {d' : Diagnostics} {calls : List (DiagnosticsAction × Word)} {response : List Byte}
    {capacity : Nat}
    (h : DiagnosticsOutcome f.policy
      (d.noteBusMessage (isBroadcast (f.request 0))).noteServerMessage (f.request 0)
      (f.request.off 1) (f.len-3) capacity (.response response,d',calls)) :
    FrameAccounted cfg slaveAddress s f (.responseReady (appendCrc (f.request 0 :: response))) d
      (if responseExceptionCode response ≠ 0#8 then d'.noteException (responseExceptionCode response)
      else if selfAccounted f.request (f.len-3) then d'
      else d'.noteNormalCompletion false (decide (f.request 1 = 0x0B#8 ∨ f.request 1 = 0x0C#8))) := by
  have hlisten := heard_isListenOnly f hd
  obtain ⟨hb,hanswers,-,-,-⟩ := h.response_spec response rfl
  have hplain : approvedAction slaveAddress s f = none →
      (responseExceptionCode response = 0#8 → selfAccounted f.request (f.len-3) = false) →
      FrameAccounted cfg slaveAddress s f (.responseReady (appendCrc (f.request 0 :: response))) d
        (if responseExceptionCode response ≠ 0#8 then
          (d.noteBusMessage (isBroadcast (f.request 0))).noteServerMessage.noteException
            (responseExceptionCode response)
        else if selfAccounted f.request (f.len-3) then
          (d.noteBusMessage (isBroadcast (f.request 0))).noteServerMessage
        else (d.noteBusMessage (isBroadcast (f.request 0))).noteServerMessage.noteNormalCompletion
          false (decide (f.request 1 = 0x0B#8 ∨ f.request 1 = 0x0C#8))) := by
    intro ha hself
    have h : FrameAccounted cfg slaveAddress s f _ d _ := hh.accounted_answered hb ha hanswers
    split
    · rename_i hcode
      rwa [if_pos hcode] at h
    · rename_i hcode
      rw [if_neg hcode] at h
      rw [hself (by simpa using hcode)]
      exact h
  generalize hout : ((DiagnosticsPdu.response response,d',calls) : DiagnosticsStep) = out at h
  cases h with
  | notHandled _ => cases hout
  | unheard _ _ _ => cases hout
  | ignored _ _ _ => cases hout
  | unanswered _ _ _ _ => cases hout
  | refused code hf hcode _ hdenied =>
    simp only [makeException] at hout
    split at hout
    · cases hout
    · cases hout
      refine hplain (hh.approvedAction_denied hdenied) fun hzero => ?_
      simp [responseExceptionCode,or_0x80_and] at hzero
      exact absurd hzero hcode
  | returned r hf _ ha _ _ _ hself =>
    split at hout
    · cases hout
    · cases hout
      refine hplain ?_ fun _ => selfAccounted_returned hself
      rw [hh.approvedAction_eq,ha]
      rfl
  | approved action data ha hp hl =>
    have happroved := hh.approvedAction_allowed ha hp (s := s) (fun h => hl (hlisten.trans h))
    simp only [approvedStep] at hout
    split at hout
    · rename_i hans
      split at hout
      · cases hout
      · cases hout
        rw [answered_settle ha rfl hans]
        refine hh.accounted_settled (requestedAction_spec ha).1 happroved ?_ ?_ fun _ => ?_
        · rw [isException_responseReady _ hanswers]
          rfl
        · rintro rfl
          cases hans
        · rw [hb]
          rfl
    · cases hout

theorem note_diagnostics {s : Slave} {g : Diagnostics → Diagnostics}
    (hd : s.diagnostics = some d) : (s.note g).diagnostics = some (g d) := by
  rw [Slave.note,hd]
  rfl

theorem Ordinary.other (slaveAddress : Byte) (ho : Ordinary s f) (hd : s.diagnostics = some d) :
    approvedAction slaveAddress s f = none ∧
      decide (f.request 1 = 0x0B#8 ∨ f.request 1 = 0x0C#8) = false := by
  rcases ho.function with h | h
  · rw [hd] at h
    cases h
  · simp only [isDiagnosticsFunction,decide_eq_false_iff_not,not_or] at h
    exact ⟨approvedAction_other h.2.1,by simp [h]⟩

theorem writes_eq {response : List Byte} {server : Server} (ho : Ordinary s f)
    (hw : isSupportedWriteFunction (f.request 1) = true)
    (hp : mbProcessPdu cfg s.server (f.request.off 1) (f.len-3) modbusPduMaxSize =
      (.ok response,server)) (hr : AnswersFunction (f.request 1) response) :
    writes cfg s f = !decide (responseExceptionCode response ≠ 0#8) := by
  have he : isExceptionPdu response = decide (responseExceptionCode response ≠ 0#8) := by
    rcases hr with ⟨hlow,tail,rfl⟩ | ⟨code,hcode,rfl⟩
    · rw [normal_response_not_exception _ tail hlow]
      simp [responseExceptionCode,and_0x80_of_lt _ hlow]
    · simp [isExceptionPdu,responseExceptionCode,or_0x80_and,hcode]
  simp only [writes,hw,ho.awake,hp,he,Bool.not_false,Bool.true_and]

theorem marks_apart (hi : f.isIntact = true → f.isAddressed slaveAddress = false) :
    frameMarks cfg slaveAddress s f .noResponse =
      { Marks.none with
        message := decide (0 < f.len)
        busCommunicationError := decide (0 < f.len) && !f.isIntact } := by
  have ha : approvedAction slaveAddress s f = none :=
    approvedAction_unheard fun h => (by simp [hi h.1] at h)
  cases hintact : f.isIntact with
  | false =>
    simp [frameMarks,hintact,approves_none ha,RtuResult.isException,Marks.none]
  | true =>
    have haddress := hi hintact
    simp only [RtuFrame.isAddressed,decide_eq_false_iff_not,not_or] at haddress
    simp [frameMarks,hintact,approves_none ha,haddress,RtuFrame.isAddressed,RtuResult.isException,
      Marks.none]

/-- The step lemma: every counter moves by what the frame counts for, or all are zeroed. -/
theorem rtuStep_accounted (cfg : Platform)
    (hrange : 1 ≤ slaveAddress.toNat ∧ slaveAddress.toNat ≤ 247) (hs : s.Sound)
    (hcap : 256 ≤ f.capacity) (hd : s.diagnostics = some d) :
    ∃ d', (rtuStep cfg slaveAddress s f).2.diagnostics = some d' ∧
      FrameAccounted cfg slaveAddress s f (rtuStep cfg slaveAddress s f).1 d d' := by
  have hresult := (rtuStep_response cfg slaveAddress s f hs).2 hcap hrange.1 hrange.2
  have ho := rtuStep_outcome cfg slaveAddress s f
  generalize rtuStep cfg slaveAddress s f = out at ho hresult
  have hheard : (s.heard f).diagnostics =
      some (d.noteBusMessage (isBroadcast (f.request 0))).noteServerMessage := by
    simp [Slave.heard,Slave.note,hd]
  cases ho with
  | badSlaveAddress h => omega
  | empty h =>
    have hi : f.isIntact = false := by simp [RtuFrame.isIntact,h]
    have hm : frameMarks cfg slaveAddress s f .noResponse = _ := marks_apart (by simp [hi])
    refine ⟨d,hd,?_,fun hpos => absurd hpos (by omega)⟩
    rw [resetsCounters_none (approvedAction_unheard (by simp [hi])),hm,h]
    rfl
  | damaged h hi =>
    refine ⟨_,note_diagnostics hd,
      .of_noted (resetsCounters_none (approvedAction_unheard (by simp [hi])))
        (noteCommunicationError_noted d _ _) (makeReceiveEvent_isReceive d _ _ _) (by simp) ?_⟩
    rw [marks_apart (by simp [hi]),hi]
    simp [h]
  | foreign hi ha =>
    have hlen : 0 < f.len := by
      simp only [RtuFrame.isIntact,decide_eq_true_eq] at hi
      omega
    refine ⟨_,note_diagnostics hd,
      .of_noted (resetsCounters_none (approvedAction_unheard (by simp [ha])))
        (noteBusMessage_noted d _) (makeReceiveEvent_isReceive d _ _ _) (by simp) ?_⟩
    rw [marks_apart fun _ => ha,hi]
    simp [hlen,Marks.none]
  | unheard hh hl hr =>
    have ha : approvedAction slaveAddress s f = none := hh.approvedAction_listening hl hr
    refine ⟨_,note_diagnostics hheard,accounted_completed ha ?_⟩
    rw [hh.marks_plain _ ha (by simp [writes,hl])]
    simp [RtuResult.isException,RtuResult.isReady]
  | diagnosedSilently d₀ d' calls hh hdiag =>
    obtain ⟨h₀,hg,h⟩ := hdiag
    rw [hheard] at h₀
    cases h₀
    exact ⟨d',rfl,hh.accounted_silently hd hg h⟩
  | diagnosticsFailed _ _ _ _ _ => rcases hresult with h | ⟨_,h⟩ <;> cases h
  | diagnosticsAnswered d₀ d' calls response hh hdiag =>
    obtain ⟨h₀,-,h⟩ := hdiag
    rw [hheard] at h₀
    cases h₀
    exact ⟨_,rfl,hh.accounted_diagnosed hd h⟩
  | serverIdAnswered response server hh ho hb h11 hp hroom =>
    obtain ⟨ha,hother⟩ := ho.other slaveAddress hd
    obtain ⟨hr,-,-,-⟩ := mbrtuServerIdProcessPdu_response s.server (f.request.off 1) (f.len-3)
      (pduCapacity f.capacity) response (by rw [hp])
    have h : FrameAccounted cfg slaveAddress s f _ d _ :=
      hh.accounted_answered hb ha (h11.symm ▸ hr)
    rw [hother] at h
    exact ⟨_,note_diagnostics hheard,h⟩
  | serverIdCapacity _ _ _ _ _ _ => rcases hresult with h | ⟨_,h⟩ <;> cases h
  | broadcastIgnored hh ho hb hw =>
    obtain ⟨ha,-⟩ := ho.other slaveAddress hd
    refine ⟨_,note_diagnostics hheard,accounted_completed ha ?_⟩
    rw [hh.marks_plain _ ha (by simp [writes,hw]),hb]
    rfl
  | broadcastWritten response server hh ho hb hw hp =>
    obtain ⟨ha,-⟩ := ho.other slaveAddress hd
    obtain ⟨r,hr,-,hanswers⟩ := mbProcessPdu_answers cfg s.server (f.request.off 1) (f.len-3)
      modbusPduMaxSize (RtuFrame.pduLen_bounds hh.intact) (by decide)
    rw [hp] at hr
    cases hr
    refine ⟨_,note_diagnostics hheard,accounted_completed ha ?_⟩
    rw [hh.marks,writes_eq ho hw hp hanswers,hb,approves_none ha,approves_none ha]
    simp [RtuResult.isException]
  | noRoom _ _ _ _ _ => rcases hresult with h | ⟨_,h⟩ <;> cases h
  | answered response server hh ho hb h11 hc hp =>
    obtain ⟨ha,hother⟩ := ho.other slaveAddress hd
    obtain ⟨r,hr,-,hanswers⟩ := mbProcessPdu_answers cfg s.server (f.request.off 1) (f.len-3)
      (f.capacity-3) (RtuFrame.pduLen_bounds hh.intact) (by omega)
    rw [hp] at hr
    cases hr
    have h : FrameAccounted cfg slaveAddress s f _ d _ := hh.accounted_answered hb ha hanswers
    rw [hother] at h
    exact ⟨_,note_diagnostics hheard,h⟩

end Frames

/-! Runs. -/

def SlaveInput.isNonempty : SlaveInput → Bool
  | .frame f => 0 < f.len
  | .dropped _ => true
  | _ => false

section Records
variable (cfg : Platform) (slaveAddress : Byte) (r : SlaveRecord)

def stepMarks : Marks :=
  match r.input with
  | .frame f => frameMarks cfg slaveAddress r.before f r.output
  | .dropped f => { Marks.none with message := true, busCommunicationError := !f.overflow }
  | _ => Marks.none

def isReset : Bool :=
  match r.input with
  | .frame f => resetsCounters slaveAddress r.before f
  | _ => false

def isErasure : Bool :=
  match r.input with
  | .frame f => erasesLog slaveAddress r.before f
  | _ => false

structure StepAccounted (d d' : Diagnostics) : Prop where
  tally : d'.tally = if isReset slaveAddress r then Tally.zero
    else d.tally.add (stepMarks cfg slaveAddress r)
  log : r.input.isNonempty = true → OneReceiveEvent (isErasure slaveAddress r) d d'

end Records

theorem slaveStep_accounted (cfg : Platform) {slaveAddress : Byte} {s : Slave} {d : Diagnostics}
    (hrange : 1 ≤ slaveAddress.toNat ∧ slaveAddress.toNat ≤ 247) (hs : s.Sound) (x : SlaveInput)
    (hcap : ∀ f, x = .frame f → 256 ≤ f.capacity) (hd : s.diagnostics = some d) :
    ∃ d', (slaveStep cfg slaveAddress s x).2.diagnostics = some d' ∧
      StepAccounted cfg slaveAddress
        ⟨s,x,(slaveStep cfg slaveAddress s x).1,(slaveStep cfg slaveAddress s x).2⟩ d d' := by
  cases x with
  | frame f =>
    obtain ⟨d',hd',h⟩ := rtuStep_accounted cfg hrange hs (hcap f rfl) hd
    exact ⟨d',hd',h.tally,fun hlen => h.log (of_decide_eq_true hlen)⟩
  | dropped f =>
    refine ⟨_,note_diagnostics hd,?_⟩
    cases hover : f.overflow with
    | true =>
      have h := noteCharacterOverrun_noted d (isBroadcast (f.request 0))
        (decide (f.request 0 = slaveAddress))
      refine ⟨?_,fun _ => ⟨_,[],makeReceiveEvent_isReceive d _ _ _,by simp,h.log⟩⟩
      simpa [isReset,stepMarks,hover,Marks.none] using h.tally
    | false =>
      have h := noteCommunicationError_noted d (isBroadcast (f.request 0)) false
      refine ⟨?_,fun _ => ⟨_,[],makeReceiveEvent_isReceive d _ _ _,by simp,h.log⟩⟩
      simpa [isReset,stepMarks,hover,Marks.none] using h.tally
  | call c => exact ⟨d,hd,rfl,fun h => (by cases h)⟩
  | diagnosticsCall c =>
    refine ⟨_,note_diagnostics hd,?_,fun h => (by cases h)⟩
    cases c <;> rfl

/-- A saturating count of the steps since the last reset. -/
def countSince (slaveAddress : Byte) (history : List SlaveRecord) (p : SlaveRecord → Bool) : Nat :=
  min 65535 ((afterLast (isReset slaveAddress) history).countP p)

structure Tallied (cfg : Platform) (slaveAddress : Byte) (history : List SlaveRecord)
    (d : Diagnostics) : Prop where
  message : d.messageCount.toNat =
    countSince slaveAddress history fun r => (stepMarks cfg slaveAddress r).message
  busCommunicationError : d.busCommunicationErrorCount.toNat =
    countSince slaveAddress history fun r => (stepMarks cfg slaveAddress r).busCommunicationError
  serverMessage : d.serverMessageCount.toNat =
    countSince slaveAddress history fun r => (stepMarks cfg slaveAddress r).serverMessage
  busExceptionError : d.busExceptionErrorCount.toNat =
    countSince slaveAddress history fun r => (stepMarks cfg slaveAddress r).busExceptionError
  serverNoResponse : d.serverNoResponseCount.toNat =
    countSince slaveAddress history fun r => (stepMarks cfg slaveAddress r).serverNoResponse
  event : d.eventCounter.toNat =
    countSince slaveAddress history fun r => (stepMarks cfg slaveAddress r).event

theorem incrementSaturating_toNat (v : Word) :
    (incrementSaturating v).toNat = min 65535 (v.toNat+1) := by
  have hlt := v.isLt
  unfold incrementSaturating
  split
  · rename_i h
    have hne : v.toNat ≠ 65535 := fun heq => h (BitVec.eq_of_toNat_eq heq)
    rw [BitVec.toNat_add_of_lt (by simp; omega)]
    simp
    omega
  · rename_i h
    rw [not_not.mp h]
    rfl

section Counting
variable {slaveAddress : Byte} {history : List SlaveRecord} {r : SlaveRecord}
  {p : SlaveRecord → Bool}

theorem countSince_reset (h : isReset slaveAddress r = true) :
    countSince slaveAddress (history ++ [r]) p = 0 := by
  rw [countSince,afterLast_snoc_of_pos h]
  rfl

theorem bump_countSince {v : Word} (h : isReset slaveAddress r = false)
    (hv : v.toNat = countSince slaveAddress history p) :
    (bump (p r) v).toNat = countSince slaveAddress (history ++ [r]) p := by
  rw [countSince,afterLast_snoc_of_neg h,List.countP_append,List.countP_singleton]
  rw [countSince] at hv
  cases hp : p r with
  | true =>
    simp only [bump,if_true,incrementSaturating_toNat]
    omega
  | false =>
    simp only [bump,Bool.false_eq_true,if_false]
    omega

theorem Tallied.step {cfg : Platform} {d d' : Diagnostics} (hc : Tallied cfg slaveAddress history d)
    (h : StepAccounted cfg slaveAddress r d d') : Tallied cfg slaveAddress (history ++ [r]) d' := by
  have ht := h.tally
  cases hr : isReset slaveAddress r with
  | true =>
    simp only [hr,if_true,Diagnostics.tally,Tally.zero,Tally.mk.injEq] at ht
    obtain ⟨h1,h2,h3,h4,h5,h6⟩ := ht
    constructor <;> rw [countSince_reset hr]
    · rw [h1]; rfl
    · rw [h2]; rfl
    · rw [h3]; rfl
    · rw [h4]; rfl
    · rw [h5]; rfl
    · rw [h6]; rfl
  | false =>
    simp only [hr,Bool.false_eq_true,if_false,Diagnostics.tally,Tally.add,Tally.mk.injEq] at ht
    obtain ⟨h1,h2,h3,h4,h5,h6⟩ := ht
    constructor
    · rw [h1]; exact bump_countSince hr hc.message
    · rw [h2]; exact bump_countSince hr hc.busCommunicationError
    · rw [h3]; exact bump_countSince hr hc.serverMessage
    · rw [h4]; exact bump_countSince hr hc.busExceptionError
    · rw [h5]; exact bump_countSince hr hc.serverNoResponse
    · rw [h6]; exact bump_countSince hr hc.event

end Counting

structure DiagnosticsAccounts (cfg : Platform) (slaveAddress : Byte) (s : Slave)
    (history : List SlaveRecord) : Prop where
  counters : ∃ d, s.diagnostics = some d ∧ Tallied cfg slaveAddress history d
  receiveEvents : ∀ r ∈ history, r.input.isNonempty = true →
    ∃ d d', r.before.diagnostics = some d ∧ r.after.diagnostics = some d' ∧
      OneReceiveEvent (isErasure slaveAddress r) d d'

theorem diagnostics_accounting (cfg : Platform) (slaveAddress : Byte) (data : DataModel)
    (inputs : List SlaveInput) (hrange : 1 ≤ slaveAddress.toNat ∧ slaveAddress.toNat ≤ 247)
    (hcap : ∀ f, .frame f ∈ inputs → 256 ≤ f.capacity) :
    DiagnosticsAccounts cfg slaveAddress
      (run (slaveStep cfg slaveAddress) (.initial data true) inputs)
      (records (slaveStep cfg slaveAddress) (.initial data true) inputs) := by
  induction inputs using List.reverseRecOn with
  | nil =>
    refine ⟨⟨mbrtuDiagnosticsInit,rfl,?_⟩,fun r hr => (by cases hr)⟩
    constructor <;> rfl
  | append_singleton inputs x ih =>
    obtain ⟨⟨d,hd,hc⟩,hevents⟩ := ih fun f hf => hcap f (List.mem_append_left _ hf)
    obtain ⟨d',hd',h⟩ := slaveStep_accounted cfg hrange
      (slaveRun_sound cfg slaveAddress data true inputs) x (fun f hf => hcap f (by simp [hf])) hd
    rw [run_snoc,records_snoc]
    refine ⟨⟨d',hd',hc.step h⟩,fun r hr hn => ?_⟩
    simp only [List.mem_append,List.mem_singleton] at hr
    rcases hr with hr | rfl
    · exact hevents r hr hn
    · exact ⟨d,d',hd,hd',h.log hn⟩

def threeInputs : List SlaveInput :=
  [.frame { broadcastWrite with capacity := 256 },.dropped ⟨fun _ => 0#8,7,false,by decide⟩,
    .frame ⟨fun _ => 0x11#8,1,none,256⟩]

theorem diagnostics_accounting_threeInputs :
    DiagnosticsAccounts .standard 0x11#8
      (run (slaveStep .standard 0x11#8) (.initial Server.zeroed.data true) threeInputs)
      (records (slaveStep .standard 0x11#8) (.initial Server.zeroed.data true) threeInputs) := by
  refine diagnostics_accounting .standard 0x11#8 _ threeInputs (by decide) fun f hf => ?_
  simp only [threeInputs,List.mem_cons,SlaveInput.frame.injEq,List.not_mem_nil,or_false,
    reduceCtorEq,false_or] at hf
  rcases hf with rfl | rfl <;> exact Nat.le_refl _

end ModbusStack
