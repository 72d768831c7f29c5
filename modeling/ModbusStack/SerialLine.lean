import ModbusStack.CrcErrors
import ModbusStack.RepeatedRequests
import ModbusStack.RequestCoherence
import ModbusStack.RoundTrip
import ModbusStack.TransactionRuns

/-! The master and the slaves on one serial line. The line carries the frames in order; any
receiver may miss any of them, and may hear noise that its CRC test rejects. -/
set_option autoImplicit false

namespace ModbusStack
open ByteMemory Machine Retransmission

/-! What one frame makes of the data model of a slave. -/

section Effects
variable {cfg : Platform} {a : Byte} {s : Slave} {f : RtuFrame}

theorem pduEffect_foreign {pdu : Mem Byte} {len capacity : Nat}
    (h : isDiagnosticsFunction (pdu 0) = true ∨ pdu 0 = 0x11#8) (d : DataModel) :
    (pduEffect cfg pdu len capacity d).2 = d := by
  have hout : (processPduFunction cfg ⟨d,.cleared,[]⟩ pdu len capacity).2 = ⟨d,.cleared,[]⟩ := by
    simp only [isDiagnosticsFunction,decide_eq_true_eq] at h
    unfold processPduFunction
    split
    · rfl
    · rcases h with (h | h | h | h) | h <;> rw [h] <;> rfl
  simp only [pduEffect,mbProcessPdu]
  split
  · rfl
  split
  · rfl
  generalize processPduFunction cfg ⟨d,.cleared,[]⟩ pdu len capacity = out at hout
  obtain ⟨answer,after⟩ := out
  obtain rfl : after = ⟨d,.cleared,[]⟩ := hout
  cases answer <;> rfl

theorem pduEffect_refusal {pdu : Mem Byte} {len capacity : Nat} {d : DataModel} {r : List Byte}
    (hr : (pduEffect cfg pdu len capacity d).1 = .ok r) (he : isExceptionPdu r = true) :
    (pduEffect cfg pdu len capacity d).2 = d :=
  (mbProcessPdu_refusal cfg ⟨d,.cleared,[]⟩ pdu len capacity r hr he).1

theorem mbrtuServerIdProcessPdu_data (s : Server) (pdu : Mem Byte) (len capacity : Nat) :
    (mbrtuServerIdProcessPdu s pdu len capacity).2.data = s.data := by
  simp only [mbrtuServerIdProcessPdu]
  repeat' split
  all_goals rfl

theorem DiagnosticsOutcome.response_function {policy : DiagnosticsPolicy} {d : Diagnostics}
    {address : Byte} {pdu : Mem Byte} {len capacity : Nat} {out : DiagnosticsStep}
    (h : DiagnosticsOutcome policy d address pdu len capacity out) {response : List Byte}
    (hr : out.1 = .response response) : isDiagnosticsFunction (pdu 0) = true := by
  cases h with
  | notHandled _ => cases hr
  | unheard _ _ _ => cases hr
  | ignored _ _ _ => cases hr
  | unanswered _ _ _ _ => cases hr
  | refused code hf _ _ _ => exact hf
  | returned r hf _ _ _ _ _ _ => exact hf
  | approved action data ha _ _ =>
    by_contra hno
    have h8 : pdu 0 ≠ 0x08#8 := by
      intro h8
      exact hno (by rw [h8]; rfl)
    simp [requestedAction,h8] at ha

/-- A frame passes without a trace in the data model, or its PDU is carried out; an answered
one is carried out. -/
inductive Performs (cfg : Platform) (a : Byte) (s : Slave) (f : RtuFrame) :
    RtuResult × Slave → Prop
  | passed (result : RtuResult) (after : Slave) (hdata : after.server.data = s.server.data)
      (hready : result.isReady = false) : Performs cfg a s f (result,after)
  | performed (result : RtuResult) (after : Slave) (hh : Heard a f)
      (hdata : after.server.data =
        (pduEffect cfg (f.request.off 1) (f.len-3) 253 s.server.data).2)
      (hanswer : ∀ adu, result = .responseReady adu → isBroadcast (f.request 0) = false ∧
        ∃ pdu, adu = appendCrc (f.request 0 :: pdu) ∧
          ((pduEffect cfg (f.request.off 1) (f.len-3) 253 s.server.data).1 = .ok pdu ∨
            ∀ d, (pduEffect cfg (f.request.off 1) (f.len-3) 253 d).2 = d)) :
      Performs cfg a s f (result,after)

theorem rtuStep_performs (cfg : Platform) (a : Byte) (s : Slave) (f : RtuFrame)
    (hcapacity : f.capacity = 256) : Performs cfg a s f (rtuStep cfg a s f) := by
  have ho := rtuStep_outcome cfg a s f
  generalize rtuStep cfg a s f = out at ho
  have heffect := mbProcessPdu_effect cfg (f.request.off 1) (f.len-3) 253 s.server
  cases ho with
  | diagnosticsAnswered d d' calls response hh hd =>
    have hforeign (d : DataModel) :
        (pduEffect cfg (f.request.off 1) (f.len-3) 253 d).2 = d :=
      pduEffect_foreign (.inl (hd.2.2.response_function rfl)) d
    refine .performed _ _ hh (hforeign _).symm fun adu h => ?_
    cases h
    exact ⟨(hd.2.2.response_spec response rfl).1,response,rfl,.inr hforeign⟩
  | serverIdAnswered response server hh ho hb h11 hp hroom =>
    have hforeign (d : DataModel) :
        (pduEffect cfg (f.request.off 1) (f.len-3) 253 d).2 = d :=
      pduEffect_foreign (.inr h11) d
    have hserver : server.data = s.server.data := by
      have h := mbrtuServerIdProcessPdu_data s.server (f.request.off 1) (f.len-3)
        (pduCapacity f.capacity)
      rwa [hp] at h
    refine .performed _ _ hh (hserver.trans (hforeign _).symm) fun adu h => ?_
    cases h
    exact ⟨hb,response,rfl,.inr hforeign⟩
  | serverIdCapacity server hh ho hb h11 hp =>
    have hserver : server.data = s.server.data := by
      have h := mbrtuServerIdProcessPdu_data s.server (f.request.off 1) (f.len-3)
        (pduCapacity f.capacity)
      rwa [hp] at h
    exact .passed _ _ hserver rfl
  | broadcastWritten response server hh ho hb hw hp =>
    rw [show modbusPduMaxSize = 253 from rfl] at hp
    rw [hp] at heffect
    exact .performed _ _ hh heffect.2 fun adu h => (by cases h)
  | answered response server hh ho hb h11 hc hp =>
    rw [hcapacity] at hp
    rw [hp] at heffect
    refine .performed _ _ hh heffect.2 fun adu h => ?_
    cases h
    exact ⟨hb,response,rfl,.inl heffect.1.symm⟩
  | _ => exact .passed _ _ rfl rfl

end Effects

/-! The line. -/

structure BuiltCall where
  call : BuildCall
  out : RequestBuffer
  built : (call.build out).result = .ok

namespace BuiltCall
variable (b : BuiltCall)

def request : Request := (b.call.build b.out).request
def adu : List Byte := (b.call.build b.out).adu
def address : Byte := b.call.slaveAddress
def wire : WireRequest := b.call.wire

def effect (cfg : Platform) : DataModel → Except PduError (List Byte) × DataModel :=
  pduEffect cfg ((ofList b.adu).off 1) (b.adu.length-3) 253

theorem wellFormed : b.wire.WellFormed b.address := (b.call.build_ok b.built).wellFormed

theorem request_eq : b.request = b.wire.descriptor b.address := by
  rw [request,(b.call.build_ok b.built).built]
  rfl

theorem adu_eq : b.adu = appendCrc (b.wire.frame b.address) := by
  rw [adu,(b.call.build_ok b.built).built]
  rfl

theorem expectsResponse_iff : b.request.expectsResponse ≠ 0#8 ↔ b.wire.answered b.address = true := by
  rw [request_eq,WireRequest.descriptor_expectsResponse]
  cases b.wire.answered b.address <;> simp

theorem effect_repeatable (cfg : Platform) : Repeatable (b.effect cfg) := pduEffect_repeatable _ _ _ _

end BuiltCall

/-- What a receiver gets of a frame. A frame that arrives damaged is lost, and noise is heard. -/
inductive Reception where
  | intact (policy : DiagnosticsPolicy)
  | lost

structure DamagedFrame where
  frame : RtuFrame
  damaged : frame.isIntact = false

def DamagedFrame.ofCorruption (f : RtuFrame) (hi : f.isIntact = true) (corrupted : Mem Byte)
    (h : Corruption f.request corrupted f.len) : DamagedFrame :=
  ⟨_,RtuFrame.isIntact_corrupted hi h⟩

inductive Noise where
  | damaged (f : DamagedFrame)
  | dropped (f : DroppedFrame)

def Noise.input : Noise → SlaveInput
  | .damaged f => .frame f.frame
  | .dropped f => .dropped f

/-- The master, the slaves by their addresses, and the frames on the line, oldest first; an
answer is known with the slave that sends it. -/
structure SerialLine where
  master : Transaction
  slaves : Byte → Slave
  requests : List (List Byte)
  answers : List (Byte × List Byte)

def stationAddresses : List Byte := (List.range 247).map fun i => BitVec.ofNat 8 (i+1)

def lineFrame (adu : List Byte) (policy : DiagnosticsPolicy) : RtuFrame :=
  ⟨ofList adu,adu.length,policy,256⟩

def Slave.receive (cfg : Platform) (a : Byte) (s : Slave) (adu : List Byte) :
    Reception → RtuResult × Slave
  | .intact policy => slaveStep cfg a s (.frame (lineFrame adu policy))
  | .lost => (.noResponse,s)

namespace SerialLine
variable (cfg : Platform) (l : SerialLine)

def heardBy (sender : Option Byte) (reach : Byte → Reception) (a : Byte) : Reception :=
  if sender = some a then .lost else reach a

def answersTo (adu : List Byte) (reach : Byte → Reception) : List (Byte × List Byte) :=
  stationAddresses.filterMap fun a =>
    match ((l.slaves a).receive cfg a adu (reach a)).1 with
    | .responseReady answer => some (a,answer)
    | _ => none

def carry (adu : List Byte) (reach : Byte → Reception) : SerialLine :=
  { l with
    slaves := fun a => ((l.slaves a).receive cfg a adu (reach a)).2
    answers := l.answers ++ l.answersTo cfg adu reach }

/-- A call of the transaction interface; what is handed to the transport goes on the line, even
if the transport then reports a failure. -/
def call (c : TransactionCall) : (TransactionCode × List (List Byte)) × SerialLine :=
  let out := transactionStep l.master c
  (out.1,{ l with master := out.2, requests := l.requests ++ out.1.2 })

def updateSlave (a : Byte) (x : SlaveInput) : SerialLine :=
  { l with slaves := fun c => if c = a then (slaveStep cfg a (l.slaves a) x).2 else l.slaves c }

end SerialLine

/-- `transmit` and `reply` carry the oldest request and the oldest answer. -/
inductive LineInput where
  | request (b : BuiltCall) (now : Word32) (answer : Int)
  | poll (now : Word32) (answer : Int)
  | onTxComplete (now : Word32)
  | onTxError (now : Word32)
  | cancel
  | transmit (reach : Byte → Reception)
  | reply (reach : Byte → Reception) (heard : Bool) (now : Word32)
  | noise (a : Byte) (n : Noise)
  | masterNoise (f : DamagedFrame) (now : Word32)
  | serve (a : Byte) (c : ApiCall)
  | diagnose (a : Byte) (c : DiagnosticsCall)

def lineStep (cfg : Platform) (l : SerialLine) :
    LineInput → (TransactionCode × List (List Byte)) × SerialLine
  | .request b now answer =>
    l.call (.start (some b.request) (some (ofList b.adu)) b.adu.length now answer)
  | .poll now answer => l.call (.poll now answer)
  | .onTxComplete now => l.call (.onTxComplete now)
  | .onTxError now => l.call (.onTxError now)
  | .cancel => l.call .cancel
  | .transmit reach =>
    match l.requests with
    | [] => ((.ok,[]),l)
    | adu :: rest =>
      ((.ok,(l.answersTo cfg adu reach).map Prod.snd),{ l.carry cfg adu reach with requests := rest })
  | .reply reach heard now =>
    match l.answers with
    | [] => ((.ok,[]),l)
    | (a,adu) :: rest =>
      let others := SerialLine.heardBy (some a) reach
      let l := { l with answers := rest }.carry cfg adu others
      if heard then l.call (.onResponse (some (ofList adu)) adu.length now)
      else ((.ok,[]),l)
  | .noise a n => ((.ok,[]),l.updateSlave cfg a n.input)
  | .masterNoise f now => l.call (.onResponse (some f.frame.request) f.frame.len now)
  | .serve a c => ((.ok,[]),l.updateSlave cfg a (.call c))
  | .diagnose a c => ((.ok,[]),l.updateSlave cfg a (.diagnosticsCall c))

abbrev LineRecord := Record SerialLine LineInput (TransactionCode × List (List Byte))

/-! Who answers, and what becomes of the slaves. -/

section Stations
variable {cfg : Platform} {a : Byte} {s : Slave} {adu : List Byte} {r : Reception}

/-- A ready result answers an intact frame that names the slave. -/
theorem rtuStep_ready {f : RtuFrame} {answer : List Byte} (hcapacity : f.capacity = 256)
    (h : (rtuStep cfg a s f).1 = .responseReady answer) :
    f.request 0 = a ∧ a ≠ 0#8 ∧ ∃ pdu, answer = appendCrc (a :: pdu) := by
  have hp := rtuStep_performs cfg a s f hcapacity
  generalize rtuStep cfg a s f = out at h hp
  cases hp with
  | passed result after hdata hready =>
    subst h
    cases hready
  | performed result after hh hdata hanswer =>
    obtain ⟨hb,pdu,hadu,-⟩ := hanswer answer h
    have haddress : f.request 0 = a := by
      have ha := hh.addressed
      simp only [RtuFrame.isAddressed,decide_eq_true_eq] at ha
      simp only [isBroadcast,decide_eq_false_iff_not] at hb
      tauto
    refine ⟨haddress,?_,pdu,haddress ▸ hadu⟩
    simpa [← haddress,isBroadcast] using hb

theorem Slave.receive_ready {answer : List Byte}
    (h : (s.receive cfg a adu r).1 = .responseReady answer) :
    ∃ policy, r = .intact policy ∧
      (rtuStep cfg a s (lineFrame adu policy)).1 = .responseReady answer := by
  cases r with
  | lost => cases h
  | intact policy => exact ⟨policy,rfl,h⟩

theorem FrameOutcome.server_unheard {f : RtuFrame} {out : RtuResult × Slave}
    (ho : FrameOutcome cfg a s f out) (hno : ¬ Heard a f) : out.2.server = s.server := by
  cases ho with
  | badSlaveAddress _ => rfl
  | empty _ => rfl
  | damaged _ _ => rfl
  | foreign _ _ => rfl
  | unheard hh _ _ => exact absurd hh hno
  | diagnosedSilently _ _ _ hh _ => exact absurd hh hno
  | diagnosticsFailed _ _ _ hh _ => exact absurd hh hno
  | diagnosticsAnswered _ _ _ _ hh _ => exact absurd hh hno
  | serverIdAnswered _ _ hh _ _ _ _ _ => exact absurd hh hno
  | serverIdCapacity _ hh _ _ _ _ => exact absurd hh hno
  | broadcastIgnored hh _ _ _ => exact absurd hh hno
  | broadcastWritten _ _ hh _ _ _ _ => exact absurd hh hno
  | noRoom hh _ _ _ _ => exact absurd hh hno
  | answered _ _ hh _ _ _ _ _ => exact absurd hh hno

theorem Slave.receive_foreign (h0 : ofList adu 0 ≠ 0#8) (ha : ofList adu 0 ≠ a) :
    (s.receive cfg a adu r).2.server = s.server := by
  cases r with
  | lost => rfl
  | intact policy =>
    have ho := rtuStep_outcome cfg a s (lineFrame adu policy)
    have hno : ¬ Heard a (lineFrame adu policy) := by
      intro hh
      have hd := hh.addressed
      simp only [RtuFrame.isAddressed,decide_eq_true_eq] at hd
      exact hd.elim h0 ha
    show (rtuStep cfg a s (lineFrame adu policy)).2.server = s.server
    generalize rtuStep cfg a s (lineFrame adu policy) = out at ho
    exact ho.server_unheard hno

variable {l : SerialLine} {reach : Byte → Reception}

theorem mem_answersTo {p : Byte × List Byte} (h : p ∈ l.answersTo cfg adu reach) :
    p.1 ∈ stationAddresses ∧ p.1 = ofList adu 0 ∧ (∃ pdu, p.2 = appendCrc (p.1 :: pdu)) ∧
      ∃ policy, reach p.1 = .intact policy ∧
        (rtuStep cfg p.1 (l.slaves p.1) (lineFrame adu policy)).1 = .responseReady p.2 := by
  obtain ⟨a,ha,hanswer⟩ := List.mem_filterMap.mp h
  cases hresult : ((l.slaves a).receive cfg a adu (reach a)).1 with
  | responseReady answer =>
    rw [hresult] at hanswer
    obtain rfl := Option.some.inj hanswer
    obtain ⟨policy,hr,hready⟩ := Slave.receive_ready hresult
    obtain ⟨haddress,-,pdu,hpdu⟩ := rtuStep_ready rfl hready
    exact ⟨ha,haddress.symm,⟨pdu,hpdu⟩,policy,hr,hready⟩
  | _ =>
    rw [hresult] at hanswer
    cases hanswer

theorem stationAddresses_nodup : stationAddresses.Nodup := by
  refine List.Nodup.map_on ?_ List.nodup_range
  intro i hi j hj h
  rw [List.mem_range] at hi hj
  have h' := congrArg BitVec.toNat h
  simp only [BitVec.toNat_ofNat] at h'
  omega

/-- Two slaves never talk at once. -/
theorem answersTo_length : (l.answersTo cfg adu reach).length ≤ 1 := by
  have hkeys : ((l.answersTo cfg adu reach).map Prod.fst).Sublist stationAddresses := by
    unfold SerialLine.answersTo
    generalize stationAddresses = addresses
    induction addresses with
    | nil => exact .slnil
    | cons a rest ih =>
      rw [List.filterMap_cons]
      split
      · exact ih.cons a
      · rename_i p hp
        have hfirst : p.1 = a := by
          split at hp
          · exact (congrArg Prod.fst (Option.some.inj hp)).symm
          · cases hp
        rw [List.map_cons,hfirst]
        exact ih.cons_cons a
  have hnodup := hkeys.nodup stationAddresses_nodup
  have hall : ∀ p ∈ l.answersTo cfg adu reach, p.1 = ofList adu 0 := fun p hp =>
    (mem_answersTo hp).2.1
  generalize l.answersTo cfg adu reach = answers at hnodup hall
  cases answers with
  | nil => simp
  | cons p rest =>
    cases rest with
    | nil => simp
    | cons p' rest =>
      have h := hall p (by simp)
      have h' := hall p' (by simp)
      simp [h,h'] at hnodup

/-- An answer is not answered. -/
theorem answersTo_answer {a : Byte} {pdu : List Byte} :
    l.answersTo cfg (appendCrc (a :: pdu)) (SerialLine.heardBy (some a) reach) = [] := by
  refine List.eq_nil_iff_forall_not_mem.mpr fun p hp => ?_
  obtain ⟨-,haddress,-,policy,hreach,-⟩ := mem_answersTo hp
  have ha : p.1 = a := haddress
  rw [SerialLine.heardBy,if_pos (by rw [ha])] at hreach
  cases hreach

theorem overheard_answers {a : Byte} {pdu : List Byte} :
    (l.carry cfg (appendCrc (a :: pdu)) (SerialLine.heardBy (some a) reach)).answers = l.answers := by
  rw [SerialLine.carry,answersTo_answer,List.append_nil]

theorem overheard_server {a : Byte} {pdu : List Byte} (ha : a ≠ 0#8) (c : Byte) :
    ((l.carry cfg (appendCrc (a :: pdu)) (SerialLine.heardBy (some a) reach)).slaves c).server =
      (l.slaves c).server := by
  by_cases hc : c = a
  · simp only [SerialLine.carry,SerialLine.heardBy,hc,if_true]
    rfl
  · exact Slave.receive_foreign ha fun h => hc h.symm

end Stations

structure Slave.Consistent (s : Slave) : Prop where
  sound : s.Sound
  deviceId : DeviceIdSound s.server.data.deviceId

theorem slaveStep_consistent {cfg : Platform} {a : Byte} {s : Slave} (x : SlaveInput)
    (h : s.Consistent) : (slaveStep cfg a s x).2.Consistent :=
  ⟨slaveStep_sound cfg a s x h.sound,slaveStep_deviceId s x h.deviceId⟩

theorem Slave.receive_consistent {cfg : Platform} {a : Byte} {s : Slave} {adu : List Byte}
    {r : Reception} (h : s.Consistent) : (s.receive cfg a adu r).2.Consistent := by
  cases r with
  | lost => exact h
  | intact policy => exact slaveStep_consistent _ h

theorem slaveStep_noise {cfg : Platform} {a : Byte} {s : Slave} (n : Noise) :
    (slaveStep cfg a s n.input).2.server = s.server := by
  cases n with
  | dropped f => rfl
  | damaged f =>
    have ho := rtuStep_outcome cfg a s f.frame
    have hno : ¬ Heard a f.frame := by
      intro hh
      have hi := hh.intact
      rw [f.damaged] at hi
      cases hi
    show (rtuStep cfg a s f.frame).2.server = s.server
    generalize rtuStep cfg a s f.frame = out at ho
    exact ho.server_unheard hno

/-! A request on the line. -/

section Requests
variable {cfg : Platform} {a : Byte} {s : Slave} {r : Reception} (b : BuiltCall)

theorem BuiltCall.lineFrame_eq (policy : DiagnosticsPolicy) :
    lineFrame b.adu policy = b.wire.arrival b.address policy := by
  rw [lineFrame,WireRequest.arrival,b.adu_eq]

theorem BuiltCall.adu_head : ofList b.adu 0 = b.address := by
  rw [b.adu_eq]
  rfl

/-- A slave carries the request out or takes no notice of it. -/
theorem Slave.receive_request :
    ((s.receive cfg a b.adu r).2.server.data = s.server.data ∧
      (s.receive cfg a b.adu r).1.isReady = false) ∨
    ((s.receive cfg a b.adu r).2.server.data = (b.effect cfg s.server.data).2 ∧
      (a = b.address ∨ b.address = 0#8)) := by
  cases r with
  | lost => exact .inl ⟨rfl,rfl⟩
  | intact policy =>
    have hp := rtuStep_performs cfg a s (lineFrame b.adu policy) rfl
    show ((rtuStep cfg a s (lineFrame b.adu policy)).2.server.data = _ ∧
      (rtuStep cfg a s (lineFrame b.adu policy)).1.isReady = false) ∨
      ((rtuStep cfg a s (lineFrame b.adu policy)).2.server.data = _ ∧ _)
    generalize rtuStep cfg a s (lineFrame b.adu policy) = out at hp
    cases hp with
    | passed result after hdata hready => exact .inl ⟨hdata,hready⟩
    | performed result after hh hdata hanswer =>
      have ha := hh.addressed
      simp only [RtuFrame.isAddressed,lineFrame,b.adu_head,decide_eq_true_eq] at ha
      exact .inr ⟨hdata,by tauto⟩

/-- A request that is answered with an exception has no effect, wherever the answer would be
the same. -/
theorem BuiltCall.refused {policy : DiagnosticsPolicy} {code : Byte} {d : DataModel}
    (h : (rtuStep cfg b.address s (b.wire.arrival b.address policy)).1 =
      .responseReady (appendCrc [b.address,b.wire.function ||| 0x80#8,code]))
    (hd : (b.effect cfg d).1 = (b.effect cfg s.server.data).1) : (b.effect cfg d).2 = d := by
  rw [← b.lineFrame_eq] at h
  have hp := rtuStep_performs cfg b.address s (lineFrame b.adu policy) rfl
  generalize rtuStep cfg b.address s (lineFrame b.adu policy) = out at h hp
  cases hp with
  | passed result after hdata hready =>
    subst h
    cases hready
  | performed result after hh hdata hanswer =>
    obtain ⟨-,pdu,hadu,hpdu⟩ := hanswer _ h
    rcases hpdu with hpdu | hquiet
    · have hlist := (List.cons.inj (appendCrc_injective hadu)).2
      refine pduEffect_refusal (hd.trans hpdu) ?_
      rw [← hlist]
      simp only [isExceptionPdu,decide_eq_true_eq]
      exact ⟨rfl,or_0x80_and _⟩
    · exact hquiet d

end Requests

end ModbusStack
