import ModbusStack.Exchange

/-! Exchanges of the functions on coils, inputs and registers. -/
set_option autoImplicit false

namespace ModbusStack
open ByteMemory RegisterBank

def WireRequest.access : WireRequest → Option Access
  | .read f start quantity =>
    if f = 0x01#8 then some (.readCoils start.toNat quantity.toNat)
    else if f = 0x02#8 then some (.readDiscreteInputs start.toNat quantity.toNat)
    else if f = 0x03#8 then some (.readHoldingRegisters start.toNat quantity.toNat)
    else some (.readInputRegisters start.toNat quantity.toNat)
  | .writeSingle f address value =>
    if f = 0x05#8 then some (.writeCoils address.toNat [decide (value = 0xFF00#16)])
    else some (.writeHoldingRegisters address.toNat [value])
  | .maskWriteRegister address andMask orMask =>
    some (.maskWriteRegister address.toNat andMask orMask)
  | .writeMultipleCoils start quantity packed =>
    some (.writeCoils start.toNat (unpackBits (ofList packed) 0 quantity.toNat))
  | .writeMultipleRegisters start _ values => some (.writeHoldingRegisters start.toNat values)
  | .readWriteMultipleRegisters readStart readQuantity writeStart _ values =>
    some (.readWriteRegisters readStart.toNat readQuantity.toNat writeStart.toNat values)
  | _ => none

theorem unpackWords_stored {m : Mem Byte} {k n : Nat} {values : List Word}
    (h : Stored m k (encodeWords values)) (hn : values.length = n) :
    unpackWords m k n = values := by
  subst hn
  apply List.ext_getElem
  · simp [unpackWords]
  · intro i _ hi
    have hread := stored_readWord h i hi
    simpa [unpackWords,hi] using hread

theorem unpackBits_stored {m : Mem Byte} {k n : Nat} {packed : List Byte} (h : Stored m k packed)
    (hn : (n+7)/8 ≤ packed.length) : unpackBits m k n = unpackBits (ofList packed) 0 n := by
  apply List.map_congr_left
  intro i hi
  have := List.mem_range.mp hi
  rw [h.ofList_eq (i/8) (by omega),Nat.zero_add]

theorem ofPdu_stored {w : WireRequest} {a : Byte} {pdu : Mem Byte} {x : Access}
    (h : w.WellFormed a) (hs : Stored pdu 0 w.pdu) (hx : w.access = some x) :
    Access.ofPdu pdu w.pdu.length = some x := by
  have hpos : ∀ start quantity : Word, addressRangeIsValid start quantity = true →
      1 ≤ quantity.toNat := by
    intro start quantity hr
    simp only [addressRangeIsValid,decide_eq_true_eq] at hr
    exact hr.1
  cases w with
  | read f start quantity =>
    obtain ⟨-,hr,hcase⟩ := h
    have h1 := hpos start quantity hr
    simp only [WireRequest.pdu,WireRequest.body,WireRequest.function,writeBe16,List.cons_append,
      List.nil_append,stored_cons,Nat.zero_add,Nat.reduceAdd] at hs
    obtain ⟨h0,hp1,hp2,hp3,hp4,-⟩ := hs
    have hlen : (WireRequest.read f start quantity).pdu.length = 5 := rfl
    simp only [List.mem_cons,List.not_mem_nil,or_false] at hcase
    rcases hcase with ⟨rfl | rfl,hq⟩ | ⟨rfl | rfl,hq⟩
    all_goals
      simp only [WireRequest.access,BitVec.reduceEq,if_true,if_false,Option.some.injEq] at hx
      simp [Access.ofPdu,h0,hp1,hp2,hp3,hp4,hlen,h1,hq,← hx]
  | writeSingle f address value =>
    obtain ⟨-,hcase⟩ := h
    simp only [WireRequest.pdu,WireRequest.body,WireRequest.function,writeBe16,List.cons_append,
      List.nil_append,stored_cons,Nat.zero_add,Nat.reduceAdd] at hs
    obtain ⟨h0,hp1,hp2,hp3,hp4,-⟩ := hs
    have hlen : (WireRequest.writeSingle f address value).pdu.length = 5 := rfl
    rcases hcase with ⟨rfl,hv⟩ | rfl
    · simp only [WireRequest.access,if_true,Option.some.injEq] at hx
      simp [Access.ofPdu,h0,hp1,hp2,hp3,hp4,hlen,hv.symm,← hx]
    · simp only [WireRequest.access,BitVec.reduceEq,if_false,Option.some.injEq] at hx
      simp [Access.ofPdu,h0,hp1,hp2,hp3,hp4,hlen,← hx]
  | maskWriteRegister address andMask orMask =>
    simp only [WireRequest.pdu,WireRequest.body,WireRequest.function,writeBe16,List.cons_append,
      List.nil_append,stored_cons,Nat.zero_add,Nat.reduceAdd] at hs
    obtain ⟨h0,hp1,hp2,hp3,hp4,hp5,hp6,-⟩ := hs
    have hlen : (WireRequest.maskWriteRegister address andMask orMask).pdu.length = 7 := rfl
    simp only [WireRequest.access,Option.some.injEq] at hx
    simp [Access.ofPdu,h0,hp1,hp2,hp3,hp4,hp5,hp6,hlen,← hx]
  | writeMultipleCoils start quantity packed =>
    obtain ⟨-,hr,hq,hp,-⟩ := h
    have h1 := hpos start quantity hr
    have hlen : (WireRequest.writeMultipleCoils start quantity packed).pdu.length =
        6+(quantity.toNat+7)/8 := by
      simp [WireRequest.pdu,WireRequest.body,hp]
      omega
    simp only [WireRequest.pdu,WireRequest.body,WireRequest.function,writeBe16,List.cons_append,
      List.nil_append,stored_cons,Nat.zero_add,Nat.reduceAdd] at hs
    obtain ⟨h0,hp1,hp2,hp3,hp4,hp5,hdata⟩ := hs
    have hbits := unpackBits_stored (n := quantity.toNat) hdata (by omega)
    have hcount : (quantity.toNat+7)/8%256 = (quantity.toNat+7)/8 := Nat.mod_eq_of_lt (by omega)
    simp only [WireRequest.access,Option.some.injEq] at hx
    simp [Access.ofPdu,h0,hp1,hp2,hp3,hp4,hp5,hlen,h1,hq,hcount,hbits,← hx]
  | writeMultipleRegisters start quantity values =>
    obtain ⟨-,hr,hq,hv⟩ := h
    have h1 := hpos start quantity hr
    have hlen : (WireRequest.writeMultipleRegisters start quantity values).pdu.length =
        6+2*quantity.toNat := by
      simp [WireRequest.pdu,WireRequest.body,hv]
      omega
    simp only [WireRequest.pdu,WireRequest.body,WireRequest.function,writeBe16,List.cons_append,
      List.nil_append,stored_cons,Nat.zero_add,Nat.reduceAdd] at hs
    obtain ⟨h0,hp1,hp2,hp3,hp4,hp5,hdata⟩ := hs
    have hwords := unpackWords_stored hdata hv
    have hcount : quantity.toNat*2%256 = 2*quantity.toNat := by omega
    simp only [WireRequest.access,Option.some.injEq] at hx
    simp [Access.ofPdu,h0,hp1,hp2,hp3,hp4,hp5,hlen,h1,hq,hcount,hwords,← hx]
  | readWriteMultipleRegisters readStart readQuantity writeStart writeQuantity values =>
    obtain ⟨-,hr,hrq,hw,hwq,hv⟩ := h
    have h1 := hpos readStart readQuantity hr
    have h2 := hpos writeStart writeQuantity hw
    have hlen : (WireRequest.readWriteMultipleRegisters readStart readQuantity writeStart
        writeQuantity values).pdu.length = 10+2*writeQuantity.toNat := by
      simp [WireRequest.pdu,WireRequest.body,hv]
      omega
    simp only [WireRequest.pdu,WireRequest.body,WireRequest.function,writeBe16,List.cons_append,
      List.nil_append,stored_cons,Nat.zero_add,Nat.reduceAdd] at hs
    obtain ⟨h0,hp1,hp2,hp3,hp4,hp5,hp6,hp7,hp8,hp9,hdata⟩ := hs
    have hwords := unpackWords_stored hdata hv
    have hcount : writeQuantity.toNat*2%256 = 2*writeQuantity.toNat := by omega
    simp only [WireRequest.access,Option.some.injEq] at hx
    simp [Access.ofPdu,h0,hp1,hp2,hp3,hp4,hp5,hp6,hp7,hp8,hp9,hlen,h1,h2,hrq,hwq,hcount,hwords,← hx]
  | _ => cases hx

/-! Bits as the slave packs them and the master takes them apart. -/

section Bits
variable {bits : List Bool}

theorem packLowestFirst_length (bits : List Bool) :
    (packLowestFirst bits).length = (bits.length+7)/8 := by
  simp [packLowestFirst]

theorem packLowestFirst_getLsbD {k j : Nat} (hk : k < (bits.length+7)/8) (hj : j < 8) :
    (ofList (packLowestFirst bits) k).getLsbD j = bits.getD (8*k+j) false := by
  simp [ofList,packLowestFirst,hk,hj]

theorem shifted_bit (b : Byte) (r : Nat) : (b >>> r) &&& 1#8 = if b.getLsbD r then 1#8 else 0#8 := by
  have h : ∀ b : Byte, b &&& 1#8 = if b.getLsbD 0 then 1#8 else 0#8 := by decide +kernel
  rw [h,BitVec.getLsbD_ushiftRight,Nat.add_zero]

theorem padding_zero {b : Byte} {r : Nat} (hr : r < 8)
    (h : ∀ j, r ≤ j → j < 8 → b.getLsbD j = false) : b &&& ~~~((1#8 <<< r)-1#8) = 0#8 := by
  have hmask : ∀ r < 8, ∀ j < r, ((1#8 <<< r)-1#8).getLsbD j = true := by decide +kernel
  apply BitVec.eq_of_getLsbD_eq
  intro j hj
  by_cases hle : r ≤ j
  · simp [h j hle hj]
  · simp [hmask r hr j (by omega)]

variable {request : Request} {adu : Mem Byte} (hbits : bits.length = request.quantity.toNat)
  (hstored : Stored adu 2
    (BitVec.ofNat 8 ((request.quantity.toNat+7)/8) :: packLowestFirst bits))
include hbits hstored

theorem packed_bit {i : Nat} (hi : i < request.quantity.toNat) :
    (adu (3+i/8) >>> (i%8)) &&& 1#8 = if bits.getD i false then 1#8 else 0#8 := by
  rw [stored_cons] at hstored
  have hbyte := hstored.2.ofList_eq (i/8) (by rw [packLowestFirst_length]; omega)
  have hindex : 8*(i/8)+i%8 = i := Nat.div_add_mod i 8
  rw [shifted_bit,hbyte,packLowestFirst_getLsbD (by omega) (by omega),hindex]

theorem checkReadBits_packed (hmost : request.quantity.toNat ≤ 2000) :
    checkReadBits request adu (5+(request.quantity.toNat+7)/8) =
      accept request (some 3) ((request.quantity.toNat+7)/8) := by
  have hcount : (adu 2).toNat = (request.quantity.toNat+7)/8 := by
    rw [(stored_cons adu 2 _ _).mp hstored |>.1,BitVec.toNat_ofNat]
    omega
  have hpadding : packedBitPaddingIsZero (adu.off 3) ((request.quantity.toNat+7)/8)
      request.quantity = true := by
    simp only [packedBitPaddingIsZero]
    split
    · rfl
    rename_i hrest
    rw [if_neg (by omega),decide_eq_true_eq,Mem.off_apply]
    refine padding_zero (by omega) fun j hle hj => ?_
    have hbyte := ((stored_cons adu 2 _ _).mp hstored).2.ofList_eq
      ((request.quantity.toNat+7)/8-1) (by rw [packLowestFirst_length]; omega)
    rw [hbyte,packLowestFirst_getLsbD (by omega) hj,List.getD_eq_getElem?_getD,
      List.getElem?_eq_none (by omega),Option.getD_none]
  simp [checkReadBits,hcount,hpadding]

end Bits

theorem checkReadRegisters_words {request : Request} {adu : Mem Byte} {words : List Word}
    (hwords : words.length = request.quantity.toNat) (hmost : request.quantity.toNat ≤ 125)
    (hstored : Stored adu 2 (BitVec.ofNat 8 (2*request.quantity.toNat) :: encodeWords words)) :
    checkReadRegisters request adu (5+request.quantity.toNat*2) =
      accept request (some 3) (request.quantity.toNat*2) := by
  have hcount : (adu 2).toNat = request.quantity.toNat*2 := by
    rw [(stored_cons adu 2 _ _).mp hstored |>.1,BitVec.toNat_ofNat]
    omega
  simp [checkReadRegisters,hcount]

section Exchanges
variable {cfg : Platform} {w : WireRequest} {a : Byte} {s : Slave} {policy : DiagnosticsPolicy}
variable {Good : Mem Byte → Response → Slave → Prop} (h : w.WellFormed a)
  (ha : w.answered a = true) (hawake : s.isListenOnly = false)
include h ha hawake

theorem Exchanges.data {x : Access} (hx : w.access = some x)
    (hgood : ∀ tail after, x.InRange cfg →
      after.server.data.registerMap cfg = x.apply (s.server.data.registerMap cfg) →
      w.function :: tail = x.response (after.server.data.registerMap cfg)
        ((w.arrival a policy).request.off 1) →
      ∃ response, w.Accepts a tail response ∧
        Good (ofList (appendCrc (a :: w.function :: tail))) response after) :
    Exchanges cfg w a s policy Good := by
  have hframed := WireRequest.arrival_framed (w := w) (a := a) policy
  have hfunction : ((w.arrival a policy).request.off 1) 0 = w.function := hframed.function
  have hkind : isDataFunction w.function = true ∧ isDiagnosticsFunction w.function = false ∧
      w.function ≠ 0x11#8 := by
    cases w with
    | read f start quantity =>
      obtain ⟨-,-,hcase⟩ := h
      simp only [List.mem_cons,List.not_mem_nil,or_false] at hcase
      rcases hcase with ⟨rfl | rfl,-⟩ | ⟨rfl | rfl,-⟩ <;>
        simp [WireRequest.function,isDataFunction,isDiagnosticsFunction]
    | writeSingle f address value =>
      obtain ⟨-,⟨rfl,-⟩ | rfl⟩ := h <;>
        simp [WireRequest.function,isDataFunction,isDiagnosticsFunction]
    | maskWriteRegister | writeMultipleCoils | writeMultipleRegisters
    | readWriteMultipleRegisters =>
      simp [WireRequest.function,isDataFunction,isDiagnosticsFunction]
    | _ => cases hx
  obtain ⟨hdata,hdiagnostics,h11⟩ := hkind
  refine .ordinary h ha ⟨hawake,.inr (by rw [hframed.function]; exact hdiagnostics)⟩ h11 ?_
  intro tail server after hout hserver
  have hr := pduStep_refines cfg s.server ((w.arrival a policy).request.off 1,w.pdu.length)
  rw [hout] at hr
  have hanswer := hr.answer (by dsimp only; rw [hfunction]; exact hdata)
  have hmap := hr.map
  simp only [registerStep,ofPdu_stored h (WireRequest.arrival_pdu policy) hx] at hanswer hmap
  by_cases hrange : x.InRange cfg
  · simp only [hrange,if_true] at hanswer hmap
    refine hgood tail after hrange (by rw [hserver]; exact hmap) ?_
    rw [hserver,hmap]
    exact Except.ok.inj hanswer
  · simp only [hrange,if_false] at hanswer
    rcases hanswer with ⟨code,-,heq⟩ | ⟨-,heq⟩
    · have hhead := congrArg List.head? (Except.ok.inj heq)
      simp only [List.head?_cons,Option.some.injEq,hfunction] at hhead
      exact absurd hhead (WireRequest.function_ne_exception h)
    · cases heq

end Exchanges

/-! The values. -/

def heldBits (cfg : Platform) (d : DataModel) (function : Byte) (start quantity : Word) :
    List Byte :=
  (List.range quantity.toNat).map fun i =>
    if function = 0x01#8 then mbGetCoil cfg d (elementAddress start i)
    else mbGetDinput cfg d (elementAddress start i)

def heldRegisters (cfg : Platform) (d : DataModel) (function : Byte) (start quantity : Word) :
    List Word :=
  (List.range quantity.toNat).map fun i =>
    if function = 0x04#8 then mbGetIreg cfg d (elementAddress start i)
    else mbGetHreg cfg d (elementAddress start i)

def bitByte (b : Bool) : Byte := if b then 1#8 else 0#8

theorem and_one_eq (b : Byte) : b &&& 1#8 = bitByte (bitOf b) := by
  have h := shifted_bit b 0
  simpa [bitByte,bitOf] using h

section Held
variable {cfg : Platform} {d : DataModel} {start quantity : Word}

theorem heldBits_coils (h : start.toNat+quantity.toNat ≤ cfg.maxCoils) :
    heldBits cfg d 0x01#8 start quantity =
      (read (d.registerMap cfg).coils start.toNat quantity.toNat).map bitByte := by
  have hmax := cfg.coils_bound.2
  simp only [DataModel.registerMap,read_of_array (fun i => bitOf (d.coils i)) h,List.map_map]
  apply List.map_congr_left
  intro i hi
  have hi := List.mem_range.mp hi
  have haddress : (elementAddress start i).toNat = start.toNat+i := elementAddress_toNat (by omega)
  simp [mbGetCoil,haddress,and_one_eq,
    show start.toNat+i < cfg.maxCoils by omega]

theorem heldBits_discreteInputs (h : start.toNat+quantity.toNat ≤ cfg.maxDiscreteInputs) :
    heldBits cfg d 0x02#8 start quantity =
      (read (d.registerMap cfg).discreteInputs start.toNat quantity.toNat).map bitByte := by
  have hmax := cfg.discreteInputs_bound.2
  simp only [DataModel.registerMap,read_of_array (fun i => bitOf (d.discreteInputs i)) h,
    List.map_map]
  apply List.map_congr_left
  intro i hi
  have hi := List.mem_range.mp hi
  have haddress : (elementAddress start i).toNat = start.toNat+i := elementAddress_toNat (by omega)
  simp [mbGetDinput,haddress,and_one_eq,
    show start.toNat+i < cfg.maxDiscreteInputs by omega]

theorem heldRegisters_holding {function : Byte} (hf : function ≠ 0x04#8)
    (h : start.toNat+quantity.toNat ≤ cfg.maxHregs) :
    heldRegisters cfg d function start quantity =
      read (d.registerMap cfg).holdingRegisters start.toNat quantity.toNat := by
  have hmax := cfg.hregs_bound.2
  simp only [DataModel.registerMap,read_of_array d.holdingRegisters h]
  apply List.map_congr_left
  intro i hi
  have hi := List.mem_range.mp hi
  have haddress : (elementAddress start i).toNat = start.toNat+i := elementAddress_toNat (by omega)
  simp [hf,mbGetHreg,haddress,
    show start.toNat+i < cfg.maxHregs by omega]

theorem heldRegisters_input (h : start.toNat+quantity.toNat ≤ cfg.maxIregs) :
    heldRegisters cfg d 0x04#8 start quantity =
      read (d.registerMap cfg).inputRegisters start.toNat quantity.toNat := by
  have hmax := cfg.iregs_bound.2
  simp only [DataModel.registerMap,read_of_array d.inputRegisters h]
  apply List.map_congr_left
  intro i hi
  have hi := List.mem_range.mp hi
  have haddress : (elementAddress start i).toNat = start.toNat+i := elementAddress_toNat (by omega)
  simp [mbGetIreg,haddress,
    show start.toNat+i < cfg.maxIregs by omega]

end Held

section Decoding
variable {request : Request} {adu : Mem Byte} {response : Response}

theorem yields_bits {bits : List Bool} (hf : request.function ∈ [0x01#8,0x02#8])
    (hresponse : response = ⟨request.function,0,some 3,(request.quantity.toNat+7)/8⟩)
    (hbits : bits.length = request.quantity.toNat)
    (hstored : Stored adu 2
      (BitVec.ofNat 8 ((request.quantity.toNat+7)/8) :: packLowestFirst bits)) :
    Yields BitVec.toNat (mbrtumGetBit request response adu) (bits.map bitByte) := by
  refine yields_of_eq 0#8 fun index => ?_
  rw [mbrtumGetBit_eq hf hresponse,List.length_map,hbits]
  split
  · rfl
  · rename_i hindex
    have hlt : index.toNat < bits.length := by omega
    rw [packed_bit hbits hstored (by omega)]
    simp [bitByte,hlt]

theorem yields_registers {words : List Word} (hf : request.function ∈ [0x03#8,0x04#8,0x17#8])
    (hresponse : response = ⟨request.function,0,some 3,request.quantity.toNat*2⟩)
    (hwords : words.length = request.quantity.toNat)
    (hstored : Stored adu 2 (BitVec.ofNat 8 (2*request.quantity.toNat) :: encodeWords words)) :
    Yields BitVec.toNat (mbrtumGetRegister request response adu) words := by
  refine yields_of_eq 0#16 fun index => ?_
  rw [mbrtumGetRegister_eq hf hresponse,hwords]
  split
  · rfl
  · rename_i hindex
    rw [Nat.mul_comm,stored_readWord ((stored_cons adu 2 _ _).mp hstored).2 index.toNat (by omega)]
    rfl

end Decoding

section Accepting
variable {a : Byte} {tail : List Byte}

theorem accepts_bits {f : Byte} {start quantity : Word} (hf : f ∈ [0x01#8,0x02#8])
    (hmost : quantity.toNat ≤ 2000) {bits : List Bool} (hbits : bits.length = quantity.toNat)
    (htail : tail = BitVec.ofNat 8 ((quantity.toNat+7)/8) :: packLowestFirst bits) :
    ∃ response, (WireRequest.read f start quantity).Accepts a tail response ∧
      Yields BitVec.toNat (mbrtumGetBit ((WireRequest.read f start quantity).descriptor a) response
        (ofList (appendCrc (a :: f :: tail)))) (bits.map bitByte) := by
  have hstored := reply_stored a f tail
  have hlen : tail.length+4 = 5+(quantity.toNat+7)/8 := by
    rw [htail,List.length_cons,packLowestFirst_length,hbits]
    omega
  nth_rewrite 2 [htail] at hstored
  have hcheck : checkReadBits ((WireRequest.read f start quantity).descriptor a)
      (ofList (appendCrc (a :: f :: tail))) (5+(quantity.toNat+7)/8) =
        (.ok,⟨f,0,some 3,(quantity.toNat+7)/8⟩) := checkReadBits_packed hbits hstored hmost
  refine ⟨⟨f,0,some 3,(quantity.toNat+7)/8⟩,?_,yields_bits hf rfl hbits hstored⟩
  rw [WireRequest.Accepts,hlen]
  simp only [List.mem_cons,List.not_mem_nil,or_false] at hf
  rcases hf with rfl | rfl
  · exact hcheck
  · exact hcheck

theorem accepts_registers {w : WireRequest} (hf : w.function ∈ [0x03#8,0x04#8,0x17#8])
    (hmost : (w.descriptor a).quantity.toNat ≤ 125) {words : List Word}
    (hwords : words.length = (w.descriptor a).quantity.toNat)
    (htail : tail = BitVec.ofNat 8 (2*(w.descriptor a).quantity.toNat) :: encodeWords words) :
    ∃ response, w.Accepts a tail response ∧
      Yields BitVec.toNat (mbrtumGetRegister (w.descriptor a) response
        (ofList (appendCrc (a :: w.function :: tail)))) words := by
  have hstored := reply_stored a w.function tail
  have hlen : tail.length+4 = 5+(w.descriptor a).quantity.toNat*2 := by
    rw [htail,List.length_cons,encodeWords_length,hwords]
    omega
  nth_rewrite 2 [htail] at hstored
  have hcheck := checkReadRegisters_words hwords hmost hstored
  have hfunction : (w.descriptor a).function = w.function := WireRequest.descriptor_function
  refine ⟨⟨w.function,0,some 3,(w.descriptor a).quantity.toNat*2⟩,?_,?_⟩
  · rw [WireRequest.Accepts,hlen]
    have hnormal : ∀ original n, checkNormalResponse (w.descriptor a) original n
        (ofList (appendCrc (a :: w.function :: tail))) (5+(w.descriptor a).quantity.toNat*2) =
          checkReadRegisters (w.descriptor a) (ofList (appendCrc (a :: w.function :: tail)))
            (5+(w.descriptor a).quantity.toNat*2) := by
      intro original n
      simp only [List.mem_cons,List.not_mem_nil,or_false] at hf
      rcases hf with hf | hf | hf
      · simp [checkNormalResponse,hf]
      · simp [checkNormalResponse,hf]
      · simp [checkNormalResponse,hf]
    rw [hnormal,hcheck,accept,hfunction]
  · rw [← hfunction] at hf
    exact yields_registers hf (by rw [hfunction]) hwords hstored

theorem accepts_writeAck {w : WireRequest} {echo : Word}
    (hcase : (w.function ∈ [0x05#8,0x06#8] ∧ echo = (w.descriptor a).value) ∨
      (w.function ∈ [0x0F#8,0x10#8] ∧ echo = (w.descriptor a).quantity))
    (htail : tail = writeBe16 (w.descriptor a).startAddress ++ writeBe16 echo) :
    ∃ response, w.Accepts a tail response := by
  have hstored := reply_stored a w.function tail
  have hlen : tail.length+4 = 8 := by rw [htail]; rfl
  nth_rewrite 2 [htail] at hstored
  simp only [writeBe16,List.cons_append,List.nil_append,stored_cons,Nat.reduceAdd] at hstored
  obtain ⟨h2,h3,h4,h5,-⟩ := hstored
  have hfunction : (w.descriptor a).function = w.function := WireRequest.descriptor_function
  have hcheck : checkWriteAck (w.descriptor a) (ofList (appendCrc (a :: w.function :: tail))) 8 echo =
      accept (w.descriptor a) none 0 := by
    simp [checkWriteAck,h2,h3,h4,h5]
  refine ⟨⟨w.function,0,none,0⟩,?_⟩
  rw [WireRequest.Accepts,hlen]
  simp only [List.mem_cons,List.not_mem_nil,or_false] at hcase
  rcases hcase with ⟨hf | hf,rfl⟩ | ⟨hf | hf,rfl⟩
  all_goals
    simp only [checkNormalResponse,hfunction,hf,BitVec.reduceToNat] at hcheck ⊢
    rw [hcheck,accept,hfunction,hf]

theorem accepts_maskAck {address andMask orMask : Word}
    (htail : tail = writeBe16 address ++ writeBe16 andMask ++ writeBe16 orMask) :
    ∃ response, (WireRequest.maskWriteRegister address andMask orMask).Accepts a tail response := by
  have hstored := reply_stored a 0x16#8 tail
  have hlen : tail.length+4 = 10 := by rw [htail]; rfl
  nth_rewrite 2 [htail] at hstored
  simp only [writeBe16,List.cons_append,List.nil_append,stored_cons,Nat.reduceAdd] at hstored
  obtain ⟨h2,h3,h4,h5,h6,h7,-⟩ := hstored
  refine ⟨⟨0x16#8,0,none,0⟩,?_⟩
  rw [WireRequest.Accepts,hlen]
  simp [checkNormalResponse,WireRequest.descriptor,finishRequest,WireRequest.function,
    checkMaskWriteAck,h2,h3,h4,h5,h6,h7,accept]

end Accepting

def Written (cfg : Platform) (s : Slave) (w : WireRequest) (after : Slave) : Prop :=
  ∃ x, w.access = some x ∧ x.InRange cfg ∧
    after.server.data.registerMap cfg = x.apply (s.server.data.registerMap cfg)

def ReadDelivered (cfg : Platform) (s : Slave) (function : Byte) (start quantity : Word)
    (request : Request) (adu : Mem Byte) (response : Response) : Prop :=
  if function = 0x01#8 ∨ function = 0x02#8 then
    Yields BitVec.toNat (mbrtumGetBit request response adu)
      (heldBits cfg s.server.data function start quantity)
  else
    Yields BitVec.toNat (mbrtumGetRegister request response adu)
      (heldRegisters cfg s.server.data function start quantity)

theorem arrival_head (w : WireRequest) (a : Byte) (policy : DiagnosticsPolicy) {n : Nat}
    (hn : n ≤ w.body.length) :
    slice ((w.arrival a policy).request.off 1) 0 (n+1) = w.function :: w.body.take n := by
  have hs : slice ((w.arrival a policy).request.off 1) 0 w.pdu.length = w.pdu :=
    WireRequest.arrival_pdu policy
  have hle : n+1 ≤ w.pdu.length := Nat.succ_le_succ hn
  rw [← slice_take _ 0 w.pdu.length (n+1) hle,hs,WireRequest.pdu,List.take_succ_cons]

section DataExchanges
variable {cfg : Platform} {a : Byte} {s : Slave} {policy : DiagnosticsPolicy}
  (hawake : s.isListenOnly = false)
include hawake

theorem exchange_bits {f : Byte} {start quantity : Word}
    (h : (WireRequest.read f start quantity).WellFormed a)
    (ha : (WireRequest.read f start quantity).answered a = true) {x : Access}
    (hx : (WireRequest.read f start quantity).access = some x) (hf : f ∈ [0x01#8,0x02#8])
    (hmost : quantity.toNat ≤ 2000) (hread : ∀ m : RegisterMap cfg, x.apply m = m)
    (bits : RegisterMap cfg → List Bool)
    (hbits : ∀ m, x.InRange cfg → (bits m).length = quantity.toNat)
    (hresponse : ∀ m pdu, x.response m pdu =
      f :: BitVec.ofNat 8 ((quantity.toNat+7)/8) :: packLowestFirst (bits m)) :
    Exchanges cfg (.read f start quantity) a s policy fun adu response _ => x.InRange cfg ∧
      Yields BitVec.toNat (mbrtumGetBit ((WireRequest.read f start quantity).descriptor a) response
        adu) ((bits (s.server.data.registerMap cfg)).map bitByte) := by
  refine .data h ha hawake hx fun tail after hrange hmap heq => ?_
  rw [hmap,hread,hresponse] at heq
  obtain ⟨response,haccepts,hyields⟩ :=
    accepts_bits (a := a) hf hmost (hbits _ hrange) (List.cons.inj heq).2
  exact ⟨response,haccepts,hrange,hyields⟩

theorem exchange_registers {w : WireRequest} (h : w.WellFormed a) (ha : w.answered a = true)
    {x : Access} (hx : w.access = some x) (hf : w.function ∈ [0x03#8,0x04#8,0x17#8])
    (hmost : (w.descriptor a).quantity.toNat ≤ 125) (words : RegisterMap cfg → List Word)
    (hwords : ∀ m, x.InRange cfg → (words m).length = (w.descriptor a).quantity.toNat)
    (hresponse : ∀ m pdu, x.response m pdu =
      w.function :: BitVec.ofNat 8 (2*(w.descriptor a).quantity.toNat) :: encodeWords (words m)) :
    Exchanges cfg w a s policy fun adu response after => x.InRange cfg ∧
      after.server.data.registerMap cfg = x.apply (s.server.data.registerMap cfg) ∧
      Yields BitVec.toNat (mbrtumGetRegister (w.descriptor a) response adu)
        (words (after.server.data.registerMap cfg)) := by
  refine .data h ha hawake hx fun tail after hrange hmap heq => ?_
  rw [hresponse] at heq
  obtain ⟨response,haccepts,hyields⟩ :=
    accepts_registers (a := a) hf hmost (hwords _ hrange) (List.cons.inj heq).2
  exact ⟨response,haccepts,hrange,hmap,hyields⟩

theorem exchange_read {f : Byte} {start quantity : Word}
    (h : (WireRequest.read f start quantity).WellFormed a)
    (ha : (WireRequest.read f start quantity).answered a = true) :
    Exchanges cfg (.read f start quantity) a s policy fun adu response _ =>
      ReadDelivered cfg s f start quantity ((WireRequest.read f start quantity).descriptor a) adu
        response := by
  have hcase := h.2.2
  simp only [List.mem_cons,List.not_mem_nil,or_false] at hcase
  rcases hcase with ⟨rfl | rfl,hmost⟩ | ⟨rfl | rfl,hmost⟩
  · refine (exchange_bits hawake h ha rfl (by simp) hmost (fun _ => rfl)
      (fun m => read m.coils start.toNat quantity.toNat) (fun m hr => read_length _ hr)
      fun _ _ => rfl).mono fun adu response _ hgood => ?_
    rw [ReadDelivered,if_pos (by simp),heldBits_coils hgood.1]
    exact hgood.2
  · refine (exchange_bits hawake h ha rfl (by simp) hmost (fun _ => rfl)
      (fun m => read m.discreteInputs start.toNat quantity.toNat) (fun m hr => read_length _ hr)
      fun _ _ => rfl).mono fun adu response _ hgood => ?_
    rw [ReadDelivered,if_pos (by simp),heldBits_discreteInputs hgood.1]
    exact hgood.2
  · refine (exchange_registers hawake h ha rfl (by simp [WireRequest.function]) hmost
      (fun m => read m.holdingRegisters start.toNat quantity.toNat) (fun m hr => read_length _ hr)
      fun _ _ => rfl).mono fun adu response after hgood => ?_
    rw [ReadDelivered,if_neg (by simp),heldRegisters_holding (by simp) hgood.1]
    rw [hgood.2.1] at hgood
    exact hgood.2.2
  · refine (exchange_registers hawake h ha rfl (by simp [WireRequest.function]) hmost
      (fun m => read m.inputRegisters start.toNat quantity.toNat) (fun m hr => read_length _ hr)
      fun _ _ => rfl).mono fun adu response after hgood => ?_
    rw [ReadDelivered,if_neg (by simp),heldRegisters_input hgood.1]
    rw [hgood.2.1] at hgood
    exact hgood.2.2

theorem exchange_write {w : WireRequest} (h : w.WellFormed a) (ha : w.answered a = true) {x : Access}
    (hx : w.access = some x) (hw : w.function ∈ [0x05#8,0x06#8,0x0F#8,0x10#8,0x16#8]) :
    Exchanges cfg w a s policy fun _ _ after => Written cfg s w after := by
  refine .data h ha hawake hx fun tail after hrange hmap hresponse => ?_
  suffices haccepts : ∃ response, w.Accepts a tail response by
    obtain ⟨response,haccepts⟩ := haccepts
    exact ⟨response,haccepts,x,hx,hrange,hmap⟩
  -- the acknowledgement is the head of the request
  have hack : ∀ n, n ≤ w.body.length → x.response (after.server.data.registerMap cfg)
      ((w.arrival a policy).request.off 1) =
        slice ((w.arrival a policy).request.off 1) 0 (n+1) → tail = w.body.take n := by
    intro n hn heq
    rw [heq,arrival_head w a policy hn] at hresponse
    exact (List.cons.inj hresponse).2
  cases w with
  | writeSingle f address value =>
    obtain ⟨-,⟨rfl,-⟩ | rfl⟩ := h
    · obtain rfl := Option.some.inj hx
      exact accepts_writeAck (.inl ⟨by simp [WireRequest.function],rfl⟩) (hack 4 (le_refl _) rfl)
    · obtain rfl := Option.some.inj hx
      exact accepts_writeAck (.inl ⟨by simp [WireRequest.function],rfl⟩) (hack 4 (le_refl _) rfl)
  | maskWriteRegister address andMask orMask =>
    obtain rfl := Option.some.inj hx
    exact accepts_maskAck (hack 6 (le_refl _) rfl)
  | writeMultipleCoils start quantity packed =>
    obtain rfl := Option.some.inj hx
    exact accepts_writeAck (.inr ⟨by simp [WireRequest.function],rfl⟩)
      (hack 4 (by simp [WireRequest.body]; omega) rfl)
  | writeMultipleRegisters start quantity values =>
    obtain rfl := Option.some.inj hx
    exact accepts_writeAck (.inr ⟨by simp [WireRequest.function],rfl⟩)
      (hack 4 (by simp [WireRequest.body]; omega) rfl)
  | read f start quantity =>
    obtain ⟨-,-,hcase⟩ := h
    simp only [List.mem_cons,List.not_mem_nil,or_false] at hcase
    rcases hcase with ⟨rfl | rfl,-⟩ | ⟨rfl | rfl,-⟩ <;> simp [WireRequest.function] at hw
  | readWriteMultipleRegisters readStart readQuantity writeStart writeQuantity values =>
    simp [WireRequest.function] at hw
  | _ => cases hx

/-- FC17h: the values are read after the write. -/
theorem exchange_readWrite {readStart readQuantity writeStart writeQuantity : Word}
    {values : List Word}
    (h : (WireRequest.readWriteMultipleRegisters readStart readQuantity writeStart writeQuantity
      values).WellFormed a)
    (ha : (WireRequest.readWriteMultipleRegisters readStart readQuantity writeStart writeQuantity
      values).answered a = true) :
    Exchanges cfg (.readWriteMultipleRegisters readStart readQuantity writeStart writeQuantity values)
      a s policy fun adu response after =>
        Yields BitVec.toNat (mbrtumGetRegister ((WireRequest.readWriteMultipleRegisters readStart
            readQuantity writeStart writeQuantity values).descriptor a) response adu)
          (heldRegisters cfg after.server.data 0x17#8 readStart readQuantity) ∧
        Written cfg s (.readWriteMultipleRegisters readStart readQuantity writeStart writeQuantity
          values) after := by
  refine (exchange_registers hawake h ha rfl (by simp [WireRequest.function]) h.2.2.1
    (fun m => read m.holdingRegisters readStart.toNat readQuantity.toNat)
    (fun m hr => read_length _ hr.1) fun _ _ => rfl).mono fun adu response after hgood => ?_
  rw [heldRegisters_holding (by simp) hgood.1.1]
  exact ⟨hgood.2.2,_,rfl,hgood.1,hgood.2.1⟩

end DataExchanges

end ModbusStack
