import ModbusStack.DecodableResponses
import ModbusStack.RegisterMap
import ModbusStack.RequestChecks
import ModbusStack.WellFormedResponses

/-! One exchange on the serial line: a built request at the slave that it names, and the
slave's answer at the master. -/
set_option autoImplicit false

namespace ModbusStack
open ByteMemory

namespace WireRequest
variable (w : WireRequest) (a : Byte)

/-- The built ADU as the slave gets it, with room for any response. -/
def arrival (policy : DiagnosticsPolicy) : RtuFrame :=
  ⟨ofList (appendCrc (w.frame a)),(appendCrc (w.frame a)).length,policy,256⟩

/-- What the master makes of a response, with the descriptor and the ADU that were built. -/
def verdict (adu : List Byte) : MasterResult × Response :=
  mbrtumProcessResponseWithRequestAdu (w.descriptor a) (some (ofList (appendCrc (w.frame a))))
    (appendCrc (w.frame a)).length (some (ofList adu)) adu.length

variable {w a} (policy : DiagnosticsPolicy)

theorem arrival_framed : w.Framed a (w.arrival a policy).request (w.arrival a policy).len := by
  apply framed
  exact slice_ofList (appendCrc (w.frame a))

theorem arrival_pdu : Stored ((w.arrival a policy).request.off 1) 0 w.pdu := by
  have hf := arrival_framed (w := w) (a := a) policy
  simp only [pdu,stored_off,stored_cons]
  exact ⟨hf.function,hf.body⟩

theorem arrival_len : (w.arrival a policy).len-3 = w.pdu.length := by
  have hf := (arrival_framed (w := w) (a := a) policy).length_eq
  simp only [pdu,List.length_cons]
  omega

theorem function_low (h : w.WellFormed a) : w.function.toNat < 0x80 := by
  cases w with
  | read f start quantity =>
    obtain ⟨-,-,⟨hf,-⟩ | ⟨hf,-⟩⟩ := h
    all_goals
      simp only [List.mem_cons,List.not_mem_nil,or_false] at hf
      rcases hf with rfl | rfl <;> simp [function]
  | writeSingle f address value =>
    obtain ⟨-,⟨rfl,-⟩ | rfl⟩ := h <;> simp [function]
  | status f =>
    have hf := h.2
    simp only [List.mem_cons,List.not_mem_nil,or_false] at hf
    rcases hf with rfl | rfl | rfl <;> simp [function]
  | _ => simp [function]

theorem function_ne_exception (h : w.WellFormed a) : w.function ≠ w.function ||| 0x80#8 := by
  have hlow := function_low h
  intro heq
  have hle : 0x80 ≤ (w.function ||| 0x80#8).toNat := by
    rw [BitVec.toNat_or]
    exact Nat.right_le_or
  rw [← heq] at hle
  omega

variable (h : w.WellFormed a) (ha : w.answered a = true)
include h ha

theorem arrival_heard : Heard a (w.arrival a policy) := by
  have hf := arrival_framed (w := w) (a := a) policy
  have hu := unicast_of_answered h ha
  have hb := body_length_le h
  have hl := hf.length_eq
  simp only [unicastAddressIsValid,decide_eq_true_eq] at hu
  refine ⟨hu,?_,?_⟩
  · simp only [RtuFrame.isIntact,decide_eq_true_eq]
    exact ⟨by omega,by omega,crcMatches_appendCrc (w.frame a)⟩
  · simp only [RtuFrame.isAddressed,decide_eq_true_eq]
    exact .inr hf.address

theorem arrival_unicast : isBroadcast ((w.arrival a policy).request 0) = false := by
  rw [(arrival_framed policy).address]
  simpa [isBroadcast] using unicast_ne_zero (unicast_of_answered h ha)

theorem verdict_frame {code : Byte} {tail : List Byte} (hleast : 1 ≤ tail.length)
    (hmost : tail.length ≤ 252) :
    w.verdict a (appendCrc (a :: code :: tail)) =
      if code = w.function ||| 0x80#8 then
        if tail.length+4 ≠ 5 then reject .errorResponseLength
        else if ofList tail 0 = 0#8 then reject .errorMalformedResponse
        else (.exceptionResponse,⟨w.function,ofList tail 0,none,0⟩)
      else if code ≠ w.function then reject .errorFunctionMismatch
      else checkNormalResponse (w.descriptor a) (ofList (appendCrc (w.frame a)))
        (appendCrc (w.frame a)).length (ofList (appendCrc (a :: code :: tail))) (tail.length+4) := by
  have hframed := framed (slice_ofList (appendCrc (w.frame a)))
  have horiginal := originalRequestAduIsValid_descriptor h hframed
  have hdescriptor : validateRequestDescriptor (w.descriptor a) = .ok := by
    rw [validateRequestDescriptor_descriptor h,if_pos ha]
  have hcrc : mbCrc16 (ofList (appendCrc (a :: code :: tail))) (tail.length+4) = 0#16 := by
    rw [show tail.length+4 = (a :: code :: tail).length+2 from rfl]
    exact mbCrc16_appendCrc (slice_ofList (appendCrc (a :: code :: tail)))
  have hlen : (appendCrc (a :: code :: tail)).length = tail.length+4 := by simp
  have h2 : ofList (appendCrc (a :: code :: tail)) 2 = ofList tail 0 := by
    have := ofList_append_left tail (writeCrcLe (mbCrc16 (ofList (a :: code :: tail))
      (a :: code :: tail).length)) 0 hleast
    exact this
  have h0 : ofList (appendCrc (a :: code :: tail)) 0 = a := rfl
  have h1 : ofList (appendCrc (a :: code :: tail)) 1 = code := rfl
  have hsize : ¬ (tail.length+4 < 5 ∨ 256 < tail.length+4) := by omega
  simp only [verdict,hlen,mbrtumProcessResponseWithRequestAdu,hdescriptor,horiginal,
    not_true_eq_false,and_false,if_false,checkResponse,hsize,hcrc,h0,h1,h2,ne_eq,
    descriptor_slaveAddress,descriptor_function,Option.getD_some]

theorem verdict_exception {code : Byte} (hcode : code ≠ 0#8) :
    w.verdict a (appendCrc [a,w.function ||| 0x80#8,code]) =
      (.exceptionResponse,⟨w.function,code,none,0⟩) := by
  rw [verdict_frame h ha (by simp) (by simp),if_pos rfl,if_neg (by simp)]
  exact if_neg hcode

theorem verdict_normal {tail : List Byte} (hleast : 1 ≤ tail.length) (hmost : tail.length ≤ 252) :
    w.verdict a (appendCrc (a :: w.function :: tail)) =
      checkNormalResponse (w.descriptor a) (ofList (appendCrc (w.frame a)))
        (appendCrc (w.frame a)).length (ofList (appendCrc (a :: w.function :: tail)))
        (tail.length+4) := by
  rw [verdict_frame h ha hleast hmost,if_neg (function_ne_exception h),if_neg (by simp)]

end WireRequest

@[simp] theorem Slave.noteResponse_server (s : Slave) (response : List Byte)
    (normal : Diagnostics → Diagnostics) : (s.noteResponse response normal).server = s.server := rfl

theorem reply_stored (a function : Byte) (tail : List Byte) :
    Stored (ofList (appendCrc (a :: function :: tail))) 2 tail := by
  have h := stored_ofList (a :: function :: tail) (writeCrcLe (mbCrc16 (ofList (a :: function :: tail))
    (a :: function :: tail).length))
  simp only [stored_cons] at h
  exact h.2.2

/-- The slave answers, and the master takes the answer for the exception that was sent or for
a normal response that is `Good`. -/
def Exchanges (cfg : Platform) (w : WireRequest) (a : Byte) (s : Slave) (policy : DiagnosticsPolicy)
    (Good : Mem Byte → Response → Slave → Prop) : Prop :=
  ∃ adu after, rtuStep cfg a s (w.arrival a policy) = (.responseReady adu,after) ∧
    ((∃ code, code ≠ 0#8 ∧ adu = appendCrc [a,w.function ||| 0x80#8,code] ∧
        w.verdict a adu = (.exceptionResponse,⟨w.function,code,none,0⟩)) ∨
      ∃ response, w.verdict a adu = (.ok,response) ∧ Good (ofList adu) response after)

theorem Exchanges.mono {cfg : Platform} {w : WireRequest} {a : Byte} {s : Slave}
    {policy : DiagnosticsPolicy} {Good Good' : Mem Byte → Response → Slave → Prop}
    (h : Exchanges cfg w a s policy Good)
    (himp : ∀ adu response after, Good adu response after → Good' adu response after) :
    Exchanges cfg w a s policy Good' := by
  obtain ⟨adu,after,hstep,hexception | ⟨response,hverdict,hgood⟩⟩ := h
  · exact ⟨adu,after,hstep,.inl hexception⟩
  · exact ⟨adu,after,hstep,.inr ⟨response,hverdict,himp _ _ _ hgood⟩⟩

theorem pduStep_normal {cfg : Platform} {s server : Server} {pdu : Mem Byte} {len : Nat}
    {function : Byte} {tail : List Byte} (hf : pdu 0 = function)
    (hne : function ≠ function ||| 0x80#8)
    (h : pduStep cfg s (pdu,len) = (.ok (function :: tail),server)) :
    processPduFunction cfg s pdu len 253 = (.ok (function :: tail),server) := by
  unfold pduStep mbProcessPdu at h
  dsimp only at h
  split at h
  · cases h
  rw [if_neg (by omega)] at h
  cases hout : processPduFunction cfg s pdu len 253 with
  | mk out s' =>
    rw [hout] at h
    cases out with
    | ok response =>
      obtain ⟨hresponse,hserver⟩ := Prod.mk.inj h
      rw [Except.ok.inj hresponse,hserver]
    | error e =>
      have hhead := congrArg List.head? (Except.ok.inj (Prod.mk.inj h).1)
      simp only [List.head?_cons,Option.some.injEq,hf] at hhead
      exact absurd hhead.symm hne

/-- A decoder that returns these values, and the index error after the last one. -/
def Yields {ι α : Type} (position : ι → Nat) (decode : ι → Except MasterResult α)
    (values : List α) : Prop :=
  ∀ index, decode index = (values[position index]?).elim (.error .errorIndex) .ok

theorem yields_of_eq {ι α : Type} {position : ι → Nat} {decode : ι → Except MasterResult α}
    {values : List α} (d : α)
    (h : ∀ index, decode index = if values.length ≤ position index then .error .errorIndex
      else .ok (values.getD (position index) d)) : Yields position decode values := by
  intro index
  rw [h]
  split
  · rename_i hout
    rw [List.getElem?_eq_none hout]
    rfl
  · rename_i hin
    simp [List.getElem?_eq_getElem (Nat.not_le.mp hin)]

def WireRequest.Accepts (w : WireRequest) (a : Byte) (tail : List Byte) (response : Response) : Prop :=
  checkNormalResponse (w.descriptor a) (ofList (appendCrc (w.frame a)))
    (appendCrc (w.frame a)).length (ofList (appendCrc (a :: w.function :: tail))) (tail.length+4) =
      (.ok,response)

section Answers
variable {cfg : Platform} {w : WireRequest} {a : Byte} {s : Slave} {policy : DiagnosticsPolicy}
variable {Good : Mem Byte → Response → Slave → Prop} (h : w.WellFormed a)
  (ha : w.answered a = true)
include h ha

theorem Exchanges.refused {code : Byte} {after : Slave} (hcode : code ≠ 0#8)
    (hstep : rtuStep cfg a s (w.arrival a policy) =
      (.responseReady (appendCrc [a,w.function ||| 0x80#8,code]),after)) :
    Exchanges cfg w a s policy Good :=
  ⟨_,after,hstep,.inl ⟨code,hcode,rfl,WireRequest.verdict_exception h ha hcode⟩⟩

theorem Exchanges.accepted {tail : List Byte} {response : Response} {after : Slave}
    (hstep : rtuStep cfg a s (w.arrival a policy) =
      (.responseReady (appendCrc (a :: w.function :: tail)),after))
    (hleast : 1 ≤ tail.length) (hmost : tail.length ≤ 252) (haccepts : w.Accepts a tail response)
    (hgood : Good (ofList (appendCrc (a :: w.function :: tail))) response after) :
    Exchanges cfg w a s policy Good :=
  ⟨_,after,hstep,.inr ⟨response,(WireRequest.verdict_normal h ha hleast hmost).trans haccepts,hgood⟩⟩

theorem Exchanges.answered {pdu : List Byte} {after : Slave}
    (hstep : rtuStep cfg a s (w.arrival a policy) = (.responseReady (appendCrc (a :: pdu)),after))
    (hpdu : AnswersFunction w.function pdu) (hfits : Fits 253 pdu)
    (hgood : ∀ tail, pdu = w.function :: tail → ∃ response, w.Accepts a tail response ∧
      Good (ofList (appendCrc (a :: w.function :: tail))) response after) :
    Exchanges cfg w a s policy Good := by
  rcases hpdu with ⟨-,tail,rfl⟩ | ⟨code,hcode,rfl⟩
  · obtain ⟨response,haccepts,hgood⟩ := hgood tail rfl
    obtain ⟨hleast,hmost,-⟩ := hfits
    rw [List.length_cons] at hleast hmost
    exact .accepted h ha hstep (by omega) (by omega) haccepts hgood
  · exact .refused h ha hcode hstep

theorem Exchanges.ordinary (ho : Ordinary s (w.arrival a policy)) (h11 : w.function ≠ 0x11#8)
    (hgood : ∀ tail server after,
      pduStep cfg s.server ((w.arrival a policy).request.off 1,w.pdu.length) =
        (.ok (w.function :: tail),server) → after.server = server →
      ∃ response, w.Accepts a tail response ∧
        Good (ofList (appendCrc (a :: w.function :: tail))) response after) :
    Exchanges cfg w a s policy Good := by
  have hheard := WireRequest.arrival_heard policy h ha
  have hunicast := WireRequest.arrival_unicast policy h ha
  have hframed := WireRequest.arrival_framed (w := w) (a := a) policy
  have hlen := RtuFrame.pduLen_bounds hheard.intact
  rw [WireRequest.arrival_len] at hlen
  obtain ⟨pdu,hpdu,hfits,hanswers⟩ := mbProcessPdu_answers cfg s.server
    ((w.arrival a policy).request.off 1) w.pdu.length 253 hlen (by omega)
  have hfunction : ((w.arrival a policy).request.off 1) 0 = w.function := hframed.function
  rw [hfunction] at hanswers
  cases hout : mbProcessPdu cfg s.server ((w.arrival a policy).request.off 1) w.pdu.length 253 with
  | mk out server =>
    rw [hout] at hpdu
    obtain rfl : out = .ok pdu := hpdu
    have hstep : rtuStep cfg a s (w.arrival a policy) = (.responseReady (appendCrc (a :: pdu)),
        ((s.heard (w.arrival a policy)).served server).noteResponse pdu
          fun d => d.noteNormalCompletion false false) := by
      rw [rtuStep_ordinary cfg hheard ho,WireRequest.arrival_len]
      simp only [processOrdinary,hframed.function,h11,if_false,hunicast,Bool.false_eq_true,
        processUnicast,Slave.heard_server]
      have hroom : ¬ (w.arrival a policy).capacity < 5 := Nat.not_lt.mpr (by decide : 5 ≤ 256)
      rw [if_neg hroom,show (w.arrival a policy).capacity-3 = 253 from rfl,hout,hframed.address]
      rfl
    exact .answered h ha hstep hanswers hfits fun tail htail =>
      hgood tail server _ (by rw [← htail]; exact hout) rfl

theorem Exchanges.handled (hawake : s.isListenOnly = false)
    (ho : s.diagnostics = none ∨ isDiagnosticsFunction w.function = false)
    (h11 : w.function ≠ 0x11#8)
    (hgood : ∀ tail server after,
      processPduFunction cfg s.server ((w.arrival a policy).request.off 1) w.pdu.length 253 =
        (.ok (w.function :: tail),server) → after.server = server →
      ∃ response, w.Accepts a tail response ∧
        Good (ofList (appendCrc (a :: w.function :: tail))) response after) :
    Exchanges cfg w a s policy Good := by
  have hframed := WireRequest.arrival_framed (w := w) (a := a) policy
  refine .ordinary h ha ⟨hawake,by rwa [hframed.function]⟩ h11
    fun tail server after hout hserver => ?_
  exact hgood tail server after
    (pduStep_normal hframed.function (WireRequest.function_ne_exception h) hout) hserver

end Answers

end ModbusStack
