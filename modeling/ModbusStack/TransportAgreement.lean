import ModbusStack.InBounds
import ModbusStack.RtuOutcome

/-! The three entry points are transparent: the same PDU gives the same response PDU and the
same data model over TCP, over the serial line and over the serial line with diagnostics. -/
set_option autoImplicit false

namespace ModbusStack
open ByteMemory

def mbapAdu (transactionId : Word) (unitId : Byte) (pdu : List Byte) : List Byte :=
  writeBe16 transactionId ++ [0#8,0#8] ++ writeBe16 (BitVec.ofNat 16 (1+pdu.length)) ++ [unitId] ++
    pdu

def rtuAdu (address : Byte) (pdu : List Byte) : List Byte := appendCrc (address :: pdu)

@[simp] theorem mbapAdu_length (transactionId : Word) (unitId : Byte) (pdu : List Byte) :
    (mbapAdu transactionId unitId pdu).length = 7+pdu.length := by
  simp [mbapAdu]
  omega

@[simp] theorem rtuAdu_length (address : Byte) (pdu : List Byte) :
    (rtuAdu address pdu).length = pdu.length+3 := by
  simp [rtuAdu]

theorem mbapAdu_pdu (transactionId : Word) (unitId : Byte) (pdu : List Byte) :
    (ofList (mbapAdu transactionId unitId pdu)).off 7 = ofList pdu := by
  funext i
  simp only [Mem.off_apply,mbapAdu]
  rw [show 7+i = (writeBe16 transactionId ++ [0#8,0#8] ++
    writeBe16 (BitVec.ofNat 16 (1+pdu.length)) ++ [unitId]).length+i from rfl]
  exact ofList_append_right _ _ i

theorem rtuAdu_pdu (address : Byte) (pdu : List Byte) :
    AgreeUpTo pdu.length ((ofList (rtuAdu address pdu)).off 1) (ofList pdu) := by
  intro i hi
  simp only [Mem.off_apply,rtuAdu,appendCrc]
  rw [Nat.add_comm 1 i,List.cons_append,ofList_cons_succ]
  exact ofList_append_left _ _ i hi

section Framing
variable (cfg : Platform) {pdu : List Byte}
  (hlen : 1 ≤ pdu.length ∧ pdu.length ≤ modbusPduMaxSize)
include hlen

theorem mbtcpProcessAdu_mbapAdu (s : Server) (transactionId : Word) (unitId : Byte) {response : List Byte}
    {s' : Server} (hp : mbProcessPdu cfg s (ofList pdu) pdu.length modbusPduMaxSize =
      (.ok response,s')) :
    mbtcpProcessAdu cfg s (ofList (mbapAdu transactionId unitId pdu)) (7+pdu.length) 260 =
      (.ok (mbapAdu transactionId unitId response),s') := by
  simp only [modbusPduMaxSize] at hlen
  have hfield : readBe16 ((ofList (mbapAdu transactionId unitId pdu)).off 4) =
      BitVec.ofNat 16 (1+pdu.length) := by
    rw [readBe16_off]
    exact be16_bytes _
  have hnat : (BitVec.ofNat 16 (1+pdu.length)).toNat = 1+pdu.length := by
    rw [BitVec.toNat_ofNat]
    omega
  have hsize : ¬ (7+pdu.length < 8 ∨ 260 < 7+pdu.length) := by omega
  have hprotocol : ¬ (ofList (mbapAdu transactionId unitId pdu) 2 ≠ 0#8 ∨
      ofList (mbapAdu transactionId unitId pdu) 3 ≠ 0#8) := by
    rintro (h | h) <;> exact h rfl
  have hlength : ¬ (1+pdu.length < 2 ∨ 6+(1+pdu.length) ≠ 7+pdu.length) := by omega
  simp only [mbtcpProcessAdu,hsize,hprotocol,hfield,hnat,hlength,if_false,mbapAdu_pdu,
    Nat.add_sub_cancel_left]
  rw [show (260 : Nat)-7 = modbusPduMaxSize from rfl,hp]
  rfl

theorem rtuStep_rtuAdu (slave : Slave) (slaveAddress : Byte) (policy : DiagnosticsPolicy)
    (hrange : 1 ≤ slaveAddress.toNat ∧ slaveAddress.toNat ≤ 247)
    (hawake : slave.isListenOnly = false)
    (hf : slave.diagnostics = none ∨ isDiagnosticsFunction (ofList pdu 0) = false)
    (h11 : ofList pdu 0 ≠ 0x11#8) {response : List Byte} {s' : Server}
    (hp : mbProcessPdu cfg slave.server (ofList pdu) pdu.length modbusPduMaxSize =
      (.ok response,s')) :
    ∃ slave', slave'.server = s' ∧
      rtuStep cfg slaveAddress slave
        ⟨ofList (rtuAdu slaveAddress pdu),pdu.length+3,policy,256⟩ =
        (.responseReady (rtuAdu slaveAddress response),slave') := by
  have hne : slaveAddress ≠ 0#8 := by
    rintro rfl
    simp at hrange
  have hfirst : ofList (rtuAdu slaveAddress pdu) 1 = ofList pdu 0 := rtuAdu_pdu slaveAddress pdu 0 hlen.1
  have haddress : ofList (rtuAdu slaveAddress pdu) 0 = slaveAddress := rfl
  have hb : isBroadcast slaveAddress = false := by simpa [isBroadcast] using hne
  simp only [modbusPduMaxSize] at hlen
  have hcrc : crcMatches (ofList (rtuAdu slaveAddress pdu)) (pdu.length+3) = true := by
    have h := crcMatches_appendCrc (slaveAddress :: pdu)
    rw [appendCrc_length] at h
    exact h
  have hh : Heard slaveAddress ⟨ofList (rtuAdu slaveAddress pdu),pdu.length+3,policy,256⟩ := by
    refine ⟨hrange,?_,?_⟩
    · simp only [RtuFrame.isIntact,hcrc,decide_eq_true_eq,and_true]
      omega
    · simp [RtuFrame.isAddressed,haddress]
  rw [← hfirst] at hf
  rw [rtuStep_ordinary cfg hh ⟨hawake,hf⟩]
  have hpdu : mbProcessPdu cfg slave.server ((ofList (rtuAdu slaveAddress pdu)).off 1) pdu.length 253 =
      (.ok response,s') := by
    rw [mbProcessPdu_congr cfg slave.server 253 (rtuAdu_pdu slaveAddress pdu)]
    exact hp
  simp only [processOrdinary,hfirst,h11,haddress,hb,if_false,Bool.false_eq_true,processUnicast,
    Slave.heard_server,Nat.add_sub_cancel]
  rw [hpdu]
  exact ⟨_,rfl,rfl⟩

end Framing

def isSerialOnlyFunction (function : Byte) : Bool :=
  function = 0x07#8 ∨ function = 0x08#8 ∨ function = 0x0B#8 ∨ function = 0x0C#8 ∨
    function = 0x11#8

theorem mbProcessPdu_serialOnly (cfg : Platform) (s : Server) (pdu : Mem Byte) (len capacity : Nat)
    (hlen : 1 ≤ len ∧ len ≤ modbusPduMaxSize) (hcap : 2 ≤ capacity)
    (hf : isSerialOnlyFunction (pdu 0) = true) :
    mbProcessPdu cfg s pdu len capacity = (.ok [pdu 0 ||| 0x80#8,exIllegalFunction],s) := by
  have h0 : ¬ (len = 0 ∨ modbusPduMaxSize < len) := by omega
  have hfunction : processPduFunction cfg s pdu len capacity = (.error exIllegalFunction,s) := by
    rw [processPduFunction,if_neg (by omega)]
    simp only [isSerialOnlyFunction,decide_eq_true_eq] at hf
    rcases hf with h | h | h | h | h <;> rw [h] <;> rfl
  simp only [mbProcessPdu,h0,Nat.not_lt.mpr hcap,if_false,hfunction]

/-- Over TCP and at both serial entry points the PDU gets the same response, and the same state is
left. -/
structure TransportsAgree (cfg : Platform) (s : Server) (pdu : List Byte) (transactionId : Word)
    (unitId slaveAddress : Byte) (d : Diagnostics) (policy : DiagnosticsPolicy)
    (calls : List (DiagnosticsAction × Word)) (response : List Byte) (s' : Server) : Prop where
  tcp : mbtcpProcessAdu cfg s (ofList (mbapAdu transactionId unitId pdu)) (7+pdu.length) 260 =
    (.ok (mbapAdu transactionId unitId response),s')
  rtu : mbrtuProcessAdu cfg (ofList (rtuAdu slaveAddress pdu)) s slaveAddress (pdu.length+3) 256 =
    (.responseReady (rtuAdu slaveAddress response),s')
  diagnostics : ∃ slave, slave.server = s' ∧
    mbrtuProcessAduWithDiagnostics cfg ⟨s,some d,calls⟩ (ofList (rtuAdu slaveAddress pdu))
      slaveAddress policy (pdu.length+3) 256 = (.responseReady (rtuAdu slaveAddress response),slave)

/-- Every PDU of a legal size, in every state: the three entry points agree unless the function
is serial-only, and then TCP answers exception 01 and leaves the server as it was. -/
theorem transports_agree (cfg : Platform) (s : Server) (pdu : List Byte) (transactionId : Word)
    (unitId slaveAddress : Byte) (d : Diagnostics) (policy : DiagnosticsPolicy)
    (calls : List (DiagnosticsAction × Word)) (hlen : 1 ≤ pdu.length ∧ pdu.length ≤ 253)
    (hrange : 1 ≤ slaveAddress.toNat ∧ slaveAddress.toNat ≤ 247)
    (hawake : d.isListenOnly = false) :
    (isSerialOnlyFunction (ofList pdu 0) = false → ∃ response s',
      TransportsAgree cfg s pdu transactionId unitId slaveAddress d policy calls response s') ∧
    (isSerialOnlyFunction (ofList pdu 0) = true →
      mbtcpProcessAdu cfg s (ofList (mbapAdu transactionId unitId pdu)) (7+pdu.length) 260 =
        (.ok (mbapAdu transactionId unitId [ofList pdu 0 ||| 0x80#8,0x01#8]),s)) := by
  refine ⟨fun hf => ?_,fun hf => ?_⟩
  · obtain ⟨response,s',hp⟩ := mbProcessPdu_ok cfg s (ofList pdu) pdu.length modbusPduMaxSize hlen
      (by decide)
    simp only [isSerialOnlyFunction,decide_eq_false_iff_not,not_or] at hf
    have h11 : ofList pdu 0 ≠ 0x11#8 := hf.2.2.2.2
    have hdiag : isDiagnosticsFunction (ofList pdu 0) = false := by
      simp only [isDiagnosticsFunction,decide_eq_false_iff_not]
      tauto
    refine ⟨response,s',mbtcpProcessAdu_mbapAdu cfg hlen s transactionId unitId hp,?_,?_⟩
    · obtain ⟨slave,hs,hr⟩ := rtuStep_rtuAdu cfg hlen ⟨s,none,[]⟩ slaveAddress none hrange rfl
        (.inl rfl) h11 hp
      simp only [mbrtuProcessAdu]
      rw [show mbrtuProcessAduWithDiagnostics cfg ⟨s,none,[]⟩ (ofList (rtuAdu slaveAddress pdu))
        slaveAddress none (pdu.length+3) 256 = _ from hr,hs]
    · exact rtuStep_rtuAdu cfg hlen ⟨s,some d,calls⟩ slaveAddress policy hrange hawake (.inr hdiag) h11 hp
  · exact mbtcpProcessAdu_mbapAdu cfg hlen s transactionId unitId
      (mbProcessPdu_serialOnly cfg s (ofList pdu) pdu.length modbusPduMaxSize hlen (by decide) hf)

def readTwoRegisters : List Byte := [0x03#8,0x00#8,0x00#8,0x00#8,0x02#8]

theorem transports_agree_readTwoRegisters :
    isSerialOnlyFunction (ofList readTwoRegisters 0) = false ∧ ∃ response s',
      TransportsAgree .standard .zeroed readTwoRegisters 0x1234#16 0x05#8 0x11#8 mbrtuDiagnosticsInit
        (some fun _ _ => 1) [] response s' := by
  refine ⟨rfl,?_⟩
  exact (transports_agree .standard .zeroed readTwoRegisters 0x1234#16 0x05#8 0x11#8
    mbrtuDiagnosticsInit (some fun _ _ => 1) [] (by decide) (by decide) rfl).1 rfl

end ModbusStack
