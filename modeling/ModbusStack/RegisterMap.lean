import ModbusStack.Machine
import ModbusStack.NoEffect
import ModbusStack.RegisterBank

/-! The functions 01 to 06, 0F, 10, 16h and 17h as operations on four finite banks. -/
set_option autoImplicit false

namespace ModbusStack
open ByteMemory Machine RegisterBank

@[ext] structure RegisterMap (cfg : Platform) where
  coils : Bank cfg.maxCoils Bool
  discreteInputs : Bank cfg.maxDiscreteInputs Bool
  holdingRegisters : Bank cfg.maxHregs Word
  inputRegisters : Bank cfg.maxIregs Word

/-- A stored bit is read back through its lowest bit. -/
def bitOf (b : Byte) : Bool := b.getLsbD 0

def DataModel.registerMap (cfg : Platform) (d : DataModel) : RegisterMap cfg where
  coils := fun i => bitOf (d.coils i.val)
  discreteInputs := fun i => bitOf (d.discreteInputs i.val)
  holdingRegisters := fun i => d.holdingRegisters i.val
  inputRegisters := fun i => d.inputRegisters i.val

inductive Access where
  | readCoils (start quantity : Nat)
  | readDiscreteInputs (start quantity : Nat)
  | readHoldingRegisters (start quantity : Nat)
  | readInputRegisters (start quantity : Nat)
  | writeCoils (start : Nat) (values : List Bool)
  | writeHoldingRegisters (start : Nat) (values : List Word)
  | maskWriteRegister (address : Nat) (andMask orMask : Word)
  | readWriteRegisters (readStart readQuantity writeStart : Nat) (values : List Word)

def isDataFunction (function : Byte) : Bool :=
  function.toNat ∈ [0x01,0x02,0x03,0x04,0x05,0x06,0x0F,0x10,0x16,0x17]

def unpackBits (pdu : Mem Byte) (offset quantity : Nat) : List Bool :=
  (List.range quantity).map fun i => (pdu (offset+i/8)).getLsbD (i%8)

def unpackWords (pdu : Mem Byte) (offset quantity : Nat) : List Word :=
  (List.range quantity).map fun i => readBe16 (pdu.off (offset+2*i))

/-- The requests of the ten functions that are well formed: length, quantity, byte count and
coil value. -/
def Access.ofPdu (pdu : Mem Byte) (len : Nat) : Option Access :=
  let address := (readBe16 (pdu.off 1)).toNat
  let word := readBe16 (pdu.off 3)
  let quantity := word.toNat
  match (pdu 0).toNat with
  | 0x01 => if len = 5 ∧ 1 ≤ quantity ∧ quantity ≤ 2000 then some (.readCoils address quantity)
    else none
  | 0x02 => if len = 5 ∧ 1 ≤ quantity ∧ quantity ≤ 2000 then
      some (.readDiscreteInputs address quantity) else none
  | 0x03 => if len = 5 ∧ 1 ≤ quantity ∧ quantity ≤ 125 then
      some (.readHoldingRegisters address quantity) else none
  | 0x04 => if len = 5 ∧ 1 ≤ quantity ∧ quantity ≤ 125 then
      some (.readInputRegisters address quantity) else none
  | 0x05 => if len = 5 ∧ (word = 0xFF00#16 ∨ word = 0x0000#16) then
      some (.writeCoils address [word = 0xFF00#16]) else none
  | 0x06 => if len = 5 then some (.writeHoldingRegisters address [word]) else none
  | 0x0F => if 1 ≤ quantity ∧ quantity ≤ 1968 ∧ (pdu 5).toNat = (quantity+7)/8 ∧
        len = 6+(quantity+7)/8 then some (.writeCoils address (unpackBits pdu 6 quantity)) else none
  | 0x10 => if 1 ≤ quantity ∧ quantity ≤ 123 ∧ (pdu 5).toNat = 2*quantity ∧
        len = 6+2*quantity then some (.writeHoldingRegisters address (unpackWords pdu 6 quantity))
    else none
  | 0x16 => if len = 7 then some (.maskWriteRegister address word (readBe16 (pdu.off 5))) else none
  | 0x17 =>
    let writeAddress := (readBe16 (pdu.off 5)).toNat
    let writeQuantity := (readBe16 (pdu.off 7)).toNat
    if 1 ≤ quantity ∧ quantity ≤ 125 ∧ 1 ≤ writeQuantity ∧ writeQuantity ≤ 121 ∧
        (pdu 9).toNat = 2*writeQuantity ∧ len = 10+2*writeQuantity then
      some (.readWriteRegisters address quantity writeAddress (unpackWords pdu 10 writeQuantity))
    else none
  | _ => none

def packLowestFirst (bits : List Bool) : List Byte :=
  (List.range ((bits.length+7)/8)).map fun k => BitVec.ofFnLE fun j : Fin 8 =>
    bits.getD (8*k+j.val) false

namespace Access
variable {cfg : Platform}

def InRange (cfg : Platform) : Access → Prop
  | .readCoils start quantity => start+quantity ≤ cfg.maxCoils
  | .readDiscreteInputs start quantity => start+quantity ≤ cfg.maxDiscreteInputs
  | .readHoldingRegisters start quantity => start+quantity ≤ cfg.maxHregs
  | .readInputRegisters start quantity => start+quantity ≤ cfg.maxIregs
  | .writeCoils start values => start+values.length ≤ cfg.maxCoils
  | .writeHoldingRegisters start values => start+values.length ≤ cfg.maxHregs
  | .maskWriteRegister address _ _ => address+1 ≤ cfg.maxHregs
  | .readWriteRegisters readStart readQuantity writeStart values =>
    readStart+readQuantity ≤ cfg.maxHregs ∧ writeStart+values.length ≤ cfg.maxHregs

instance (cfg : Platform) (a : Access) : Decidable (a.InRange cfg) :=
  match a with
  | .readWriteRegisters _ _ _ _ => inferInstanceAs (Decidable (_ ∧ _))
  | .readCoils _ _ | .readDiscreteInputs _ _ | .readHoldingRegisters _ _
  | .readInputRegisters _ _ | .writeCoils _ _ | .writeHoldingRegisters _ _
  | .maskWriteRegister _ _ _ => inferInstanceAs (Decidable (_ ≤ _))

def apply (m : RegisterMap cfg) : Access → RegisterMap cfg
  | .writeCoils start values => { m with coils := write m.coils start values }
  | .writeHoldingRegisters start values | .readWriteRegisters _ _ start values =>
    { m with holdingRegisters := write m.holdingRegisters start values }
  | .maskWriteRegister address andMask orMask => { m with
      holdingRegisters := write m.holdingRegisters address
        ((read m.holdingRegisters address 1).map fun old =>
          (old &&& andMask) ||| (orMask &&& ~~~andMask)) }
  | _ => m

def hooks (m : RegisterMap cfg) : Access → List Event
  | .writeCoils start values => values.mapIdx fun i v =>
    .onWriteCoil (BitVec.ofNat 16 (start+i)) (if v = true then 1#8 else 0#8)
  | .writeHoldingRegisters start values | .readWriteRegisters _ _ start values =>
    values.mapIdx fun i v => .onWriteHreg (BitVec.ofNat 16 (start+i)) v
  | .maskWriteRegister address andMask orMask => (read m.holdingRegisters address 1).map fun old =>
    .onWriteHreg (BitVec.ofNat 16 address) ((old &&& andMask) ||| (orMask &&& ~~~andMask))
  | _ => []

/-- The normal response, from the register map after the request; a write is acknowledged with
the head of the request. -/
def response (m : RegisterMap cfg) (pdu : Mem Byte) : Access → List Byte
  | .readCoils start quantity =>
    [0x01#8,BitVec.ofNat 8 ((quantity+7)/8)] ++ packLowestFirst (read m.coils start quantity)
  | .readDiscreteInputs start quantity =>
    [0x02#8,BitVec.ofNat 8 ((quantity+7)/8)] ++
      packLowestFirst (read m.discreteInputs start quantity)
  | .readHoldingRegisters start quantity =>
    [0x03#8,BitVec.ofNat 8 (2*quantity)] ++ encodeWords (read m.holdingRegisters start quantity)
  | .readInputRegisters start quantity =>
    [0x04#8,BitVec.ofNat 8 (2*quantity)] ++ encodeWords (read m.inputRegisters start quantity)
  | .writeCoils _ _ | .writeHoldingRegisters _ _ => slice pdu 0 5
  | .maskWriteRegister _ _ _ => slice pdu 0 7
  | .readWriteRegisters start quantity _ _ =>
    [0x17#8,BitVec.ofNat 8 (2*quantity)] ++ encodeWords (read m.holdingRegisters start quantity)

end Access

/-- A step of the abstract memory: the normal response if there is one, the hooks called, and
the memory afterwards. -/
def registerStep {cfg : Platform} (m : RegisterMap cfg) (request : Mem Byte × Nat) :
    (Option (List Byte) × List Event) × RegisterMap cfg :=
  match Access.ofPdu request.1 request.2 with
  | some a =>
    if a.InRange cfg then ((some (a.response (a.apply m) request.1),a.hooks m),a.apply m)
    else ((none,[]),m)
  | none => ((none,[]),m)

/-! The packing loop. -/

section Packing
variable (bit : Nat → Byte) (m : Nat)

def packedSoFar (n : Nat) : List Byte :=
  (List.range n).foldl
    (fun data i => data.modify (i/8) fun b => b ||| ((bit i &&& 1#8) <<< (i%8)))
    (List.replicate m 0#8)

theorem packedSoFar_succ (n : Nat) : packedSoFar bit m (n+1) = (packedSoFar bit m n).modify (n/8)
    fun b => b ||| ((bit n &&& 1#8) <<< (n%8)) := by
  simp [packedSoFar,List.range_succ]

@[simp] theorem packedSoFar_length (n : Nat) : (packedSoFar bit m n).length = m := by
  induction n with
  | zero => simp [packedSoFar]
  | succ n ih => rw [packedSoFar_succ,List.length_modify,ih]

theorem getLsbD_shifted (b : Byte) {r j : Nat} (hj : j < 8) :
    ((b &&& 1#8) <<< r).getLsbD j = (decide (j = r) && bitOf b) := by
  simp only [BitVec.getLsbD_shiftLeft,BitVec.getLsbD_and,bitOf]
  by_cases h : j = r
  · subst h
    simp [hj]
  · by_cases hlt : j < r
    · simp [hlt,h]
    · have hne : j-r ≠ 0 := by omega
      simp [h,hlt,BitVec.getLsbD_one,hne]

theorem packedSoFar_getLsbD (n k j : Nat) (hk : k < m) (hj : j < 8) :
    ((packedSoFar bit m n).getD k 0#8).getLsbD j =
      (decide (8*k+j < n) && bitOf (bit (8*k+j))) := by
  induction n with
  | zero => simp [packedSoFar,hk]
  | succ n ih =>
    rw [packedSoFar_succ,List.getD_eq_getElem?_getD,List.getElem?_modify]
    rw [List.getD_eq_getElem?_getD] at ih
    have hget : (packedSoFar bit m n)[k]? = some ((packedSoFar bit m n)[k]?.getD 0#8) := by
      rw [List.getElem?_eq_getElem (by simpa using hk)]
      rfl
    rw [hget,Option.map_eq_map,Option.map_some,Option.getD_some]
    by_cases hnk : n/8 = k
    · rw [if_pos hnk,BitVec.getLsbD_or,ih,getLsbD_shifted _ hj]
      by_cases hjr : j = n%8
      · have he : 8*k+j = n := by omega
        rw [he]
        simp [hjr]
      · have hlt : (8*k+j < n+1) = (8*k+j < n) := by
          apply propext
          omega
        simp [hjr,hlt]
    · rw [if_neg hnk]
      have hlt : (8*k+j < n+1) = (8*k+j < n) := by
        apply propext
        omega
      simp only [hlt]
      exact ih

/-- The packing loop computes what the format asks for. -/
theorem packBits_eq (n : Nat) :
    packBits bit n = packLowestFirst ((List.range n).map fun i => bitOf (bit i)) := by
  have hp : packBits bit n = packedSoFar bit ((n+7)/8) n := rfl
  rw [hp]
  apply List.ext_getElem
  · simp [packLowestFirst]
  · intro k h1 h2
    have hk : k < (n+7)/8 := by simpa using h1
    apply BitVec.eq_of_getLsbD_eq
    intro j hj
    have hs := packedSoFar_getLsbD bit ((n+7)/8) n k j hk hj
    rw [List.getD_eq_getElem _ _ h1] at hs
    rw [hs]
    simp only [packLowestFirst,List.getElem_map,List.getElem_range,BitVec.getLsbD_ofFnLE,hj,
      dif_pos]
    by_cases hlt : 8*k+j < n
    · simp [hlt]
    · simp [hlt]

end Packing

/-! The write loops. -/

theorem elementAddress_toNat {address : Word} {i : Nat} (h : address.toNat+i < 65536) :
    (elementAddress address i).toNat = address.toNat+i := by
  rw [elementAddress,BitVec.toNat_add,BitVec.toNat_ofNat]
  omega

theorem elementAddress_eq (address : Word) (i : Nat) :
    elementAddress address i = BitVec.ofNat 16 (address.toNat+i) := by
  rw [elementAddress,BitVec.ofNat_add,BitVec.ofNat_toNat,BitVec.setWidth_eq]

theorem rangeIsValid_iff {first quantity : Word} {limit : Nat} :
    rangeIsValid first quantity limit = true ↔
      0 < quantity.toNat ∧ first.toNat+quantity.toNat ≤ limit := by
  simp only [rangeIsValid,decide_eq_true_eq]
  omega

def normalizeCoil (value : Byte) : Byte := if value ≠ 0#8 then 1#8 else 0#8

section WriteLoops
variable (cfg : Platform) (address : Word)

theorem mbSetCoil_hooks {s : Server} {value : Byte} (h : address.toNat < cfg.maxCoils) :
    (mbSetCoil cfg s address value).hooks =
      s.hooks ++ [.onWriteCoil address (normalizeCoil value)] := by
  simp [mbSetCoil,Nat.not_le.mpr h,Server.hooks,Server.emit,Server.modify,Event.isWriteHook,
    normalizeCoil]

theorem mbSetHreg_hooks {s : Server} {value : Word} (h : address.toNat < cfg.maxHregs) :
    (mbSetHreg cfg s address value).hooks = s.hooks ++ [.onWriteHreg address value] := by
  simp [mbSetHreg,Nat.not_le.mpr h,Server.hooks,Server.emit,Server.modify,Event.isWriteHook]

theorem mbMaskWriteHreg_hooks {s : Server} {andMask orMask : Word}
    (h : address.toNat < cfg.maxHregs) :
    (mbMaskWriteHreg cfg s address andMask orMask).2.hooks = s.hooks ++
      [.onWriteHreg address ((s.data.holdingRegisters address.toNat &&& andMask) |||
        (orMask &&& ~~~andMask))] := by
  simp [mbMaskWriteHreg,Nat.not_le.mpr h,Server.hooks,Server.emit,Server.modify,Event.isWriteHook]

def overwrite {α : Type} (m : Mem α) (first count : Nat) (value : Nat → α) : Mem α :=
  fun k => if first ≤ k ∧ k < first+count then value (k-first) else m k

theorem overwrite_succ {α : Type} (m : Mem α) (first count : Nat) (value : Nat → α) :
    overwrite (put m first (value 0)) (first+1) count (fun i => value (i+1)) =
      overwrite m first (count+1) value := by
  funext k
  simp only [overwrite]
  by_cases h0 : k = first
  · subst h0
    simp
  · by_cases h1 : first+1 ≤ k ∧ k < first+1+count
    · have h2 : first ≤ k ∧ k < first+(count+1) := by omega
      have h3 : k-(first+1)+1 = k-first := by omega
      rw [if_pos h1,if_pos h2,h3]
    · have h2 : ¬ (first ≤ k ∧ k < first+(count+1)) := by omega
      rw [if_neg h1,if_neg h2,put_other _ _ _ _ h0]

@[simp] theorem overwrite_zero {α : Type} (m : Mem α) (first : Nat) (value : Nat → α) :
    overwrite m first 0 value = m := by
  funext k
  have h : ¬ (first ≤ k ∧ k < first+0) := by omega
  exact if_neg h

theorem setCoils_data (bit : Nat → Byte) (n i : Nat) (s : Server)
    (h : address.toNat+i+n ≤ cfg.maxCoils) :
    (setCoils cfg address bit n i s).data = { s.data with
      coils := overwrite s.data.coils (address.toNat+i) n fun j => normalizeCoil (bit (i+j)) } := by
  have hmax := cfg.coils_bound
  induction n generalizing i s with
  | zero => simp [setCoils]
  | succ n ih =>
    have ha : (elementAddress address i).toNat = address.toNat+i :=
      elementAddress_toNat (by omega)
    rw [setCoils,ih (i+1) _ (by omega),mbSetCoil_data cfg _ _ _ (by omega),ha]
    have ho := overwrite_succ s.data.coils (address.toNat+i) n fun j => normalizeCoil (bit (i+j))
    simp only [normalizeCoil,Nat.add_zero,Nat.add_assoc,Nat.add_comm 1] at ho ⊢
    rw [← ho]

theorem setHregs_data (value : Nat → Word) (n i : Nat) (s : Server)
    (h : address.toNat+i+n ≤ cfg.maxHregs) :
    (setHregs cfg address value n i s).data = { s.data with
      holdingRegisters := overwrite s.data.holdingRegisters (address.toNat+i) n
        fun j => value (i+j) } := by
  have hmax := cfg.hregs_bound
  induction n generalizing i s with
  | zero => simp [setHregs]
  | succ n ih =>
    have ha : (elementAddress address i).toNat = address.toNat+i :=
      elementAddress_toNat (by omega)
    rw [setHregs,ih (i+1) _ (by omega),mbSetHreg_data cfg _ _ _ (by omega),ha]
    have ho := overwrite_succ s.data.holdingRegisters (address.toNat+i) n fun j => value (i+j)
    simp only [Nat.add_zero,Nat.add_assoc,Nat.add_comm 1] at ho ⊢
    rw [← ho]

theorem setCoils_hooks (bit : Nat → Byte) (n i : Nat) (s : Server)
    (h : address.toNat+i+n ≤ cfg.maxCoils) :
    (setCoils cfg address bit n i s).hooks = s.hooks ++ (List.range n).map fun j =>
      .onWriteCoil (BitVec.ofNat 16 (address.toNat+(i+j))) (normalizeCoil (bit (i+j))) := by
  have hmax := cfg.coils_bound
  induction n generalizing i s with
  | zero => simp [setCoils]
  | succ n ih =>
    have ha : (elementAddress address i).toNat = address.toNat+i :=
      elementAddress_toNat (by omega)
    rw [setCoils,ih (i+1) _ (by omega),mbSetCoil_hooks cfg _ (by omega),List.range_succ_eq_map]
    simp [elementAddress_eq,Nat.add_assoc,Nat.add_comm 1,Function.comp_def]

theorem setHregs_hooks (value : Nat → Word) (n i : Nat) (s : Server)
    (h : address.toNat+i+n ≤ cfg.maxHregs) :
    (setHregs cfg address value n i s).hooks = s.hooks ++ (List.range n).map fun j =>
      .onWriteHreg (BitVec.ofNat 16 (address.toNat+(i+j))) (value (i+j)) := by
  have hmax := cfg.hregs_bound
  induction n generalizing i s with
  | zero => simp [setHregs]
  | succ n ih =>
    have ha : (elementAddress address i).toNat = address.toNat+i :=
      elementAddress_toNat (by omega)
    rw [setHregs,ih (i+1) _ (by omega),mbSetHreg_hooks cfg _ (by omega),List.range_succ_eq_map]
    simp [elementAddress_eq,Nat.add_assoc,Nat.add_comm 1,Function.comp_def]

end WriteLoops

/-! Each function against the abstract memory. -/

structure SameTables (d d' : DataModel) : Prop where
  deviceId : d'.deviceId = d.deviceId
  fileRecord : d'.fileRecord = d.fileRecord
  fifo : d'.fifo = d.fifo
  mei : d'.mei = d.mei
  memory : d'.memory = d.memory

structure RefinesAccess (cfg : Platform) (s : Server) (request : Mem Byte × Nat)
    (out : Except Byte (List Byte) × Server) : Prop where
  answer : out.1.toOption = (registerStep (s.data.registerMap cfg) request).1.1
  hooks : out.2.hooks = s.hooks ++ (registerStep (s.data.registerMap cfg) request).1.2
  map : out.2.data.registerMap cfg = (registerStep (s.data.registerMap cfg) request).2
  tables : SameTables s.data out.2.data

section Refinement
variable {cfg : Platform} {s : Server} {pdu : Mem Byte} {len : Nat}

theorem RefinesAccess.refuse {e : Byte}
    (h : ∀ a, Access.ofPdu pdu len = some a → ¬ a.InRange cfg) :
    RefinesAccess cfg s (pdu,len) (.error e,s) := by
  have hstep : registerStep (s.data.registerMap cfg) (pdu,len) =
      ((none,[]),s.data.registerMap cfg) := by
    unfold registerStep
    split
    · rename_i a ha
      exact if_neg (h a ha)
    · rfl
  refine ⟨?_,?_,?_,⟨rfl,rfl,rfl,rfl,rfl⟩⟩ <;> simp [hstep,Except.toOption]

theorem RefinesAccess.accept {a : Access} {s' : Server} {response : List Byte}
    (ha : Access.ofPdu pdu len = some a) (hr : a.InRange cfg)
    (hmap : s'.data.registerMap cfg = a.apply (s.data.registerMap cfg))
    (hresponse : response = a.response (s'.data.registerMap cfg) pdu)
    (hhooks : s'.hooks = s.hooks ++ a.hooks (s.data.registerMap cfg))
    (htables : SameTables s.data s'.data) :
    RefinesAccess cfg s (pdu,len) (.ok response,s') := by
  have hstep : registerStep (s.data.registerMap cfg) (pdu,len) =
      ((some (a.response (a.apply (s.data.registerMap cfg)) pdu),a.hooks (s.data.registerMap cfg)),
        a.apply (s.data.registerMap cfg)) := by
    unfold registerStep
    rw [ha]
    exact if_pos hr
  refine ⟨?_,?_,?_,htables⟩
  · simp [hstep,Except.toOption,hresponse,hmap]
  · simp [hstep,hhooks]
  · simp [hstep,hmap]

/-- A handler that checks the format and the range of its request, and refuses it otherwise. -/
theorem RefinesAccess.of_check {Format : Prop} [Decidable Format] {a : Access}
    {out : Except Byte (List Byte) × Server}
    (hof : Access.ofPdu pdu len = if Format then some a else none)
    (hok : Format → a.InRange cfg → RefinesAccess cfg s (pdu,len) out)
    (hno : ¬ (Format ∧ a.InRange cfg) → ∃ e, out = (.error e,s)) :
    RefinesAccess cfg s (pdu,len) out := by
  by_cases h : Format ∧ a.InRange cfg
  · exact hok h.1 h.2
  · obtain ⟨e,rfl⟩ := hno h
    refine .refuse fun b hb hin => h ?_
    rw [hof,Option.ite_none_right_eq_some] at hb
    obtain ⟨hformat,hab⟩ := hb
    cases hab
    exact ⟨hformat,hin⟩

section Reads
variable {function : Byte} {limit : Nat}

theorem readBits_refines {get : DataModel → Word → Byte} (a : Access) (bank : Mem Byte)
    (hget : ∀ address : Word, address.toNat < limit →
      bitOf (get s.data address) = bitOf (bank address.toNat))
    (hlimit : limit ≤ 65536)
    (hof : Access.ofPdu pdu len = if len = 5 ∧ 1 ≤ (readBe16 (pdu.off 3)).toNat ∧
      (readBe16 (pdu.off 3)).toNat ≤ 2000 then some a else none)
    (hrange : a.InRange cfg ↔ (readBe16 (pdu.off 1)).toNat+(readBe16 (pdu.off 3)).toNat ≤ limit)
    (happly : a.apply (s.data.registerMap cfg) = s.data.registerMap cfg)
    (hhooks : a.hooks (s.data.registerMap cfg) = [])
    (hresponse : a.response (s.data.registerMap cfg) pdu =
      [function,BitVec.ofNat 8 (((readBe16 (pdu.off 3)).toNat+7)/8)] ++
        packLowestFirst (read (fun i : Fin limit => bitOf (bank i.val)) (readBe16 (pdu.off 1)).toNat
          (readBe16 (pdu.off 3)).toNat)) :
    RefinesAccess cfg s (pdu,len) (readBits s function limit get pdu len 253) := by
  unfold readBits
  dsimp only
  generalize readBe16 (pdu.off 3) = quantity at hof hrange hresponse ⊢
  generalize readBe16 (pdu.off 1) = address at hrange hresponse ⊢
  refine .of_check hof (fun hv hin => ?_) fun hno => ?_
  · obtain ⟨rfl,hq,hq'⟩ := hv
    have hr := hrange.mp hin
    have h0 : ¬ (quantity.toNat = 0 ∨ 2000 < quantity.toNat) := by omega
    have hc : ¬ 253 < 2+(quantity.toNat+7)/8 := by omega
    simp only [ne_eq,not_true_eq_false,if_false,h0,hc,rangeIsValid_iff.mpr ⟨hq,hr⟩]
    refine .accept (hof.trans (if_pos ⟨rfl,hq,hq'⟩)) hin happly.symm ?_ (by simp [hhooks])
      ⟨rfl,rfl,rfl,rfl,rfl⟩
    rw [hresponse,packBits_eq,read_of_array (fun k => bitOf (bank k)) hr]
    congr 2
    apply List.map_congr_left
    intro i hi
    have hlt := List.mem_range.mp hi
    have ha : (elementAddress address i).toNat = address.toNat+i := elementAddress_toNat (by omega)
    rw [hget _ (by omega),ha]
  · rw [hrange] at hno
    simp only [rangeIsValid_iff]
    split_ifs
    any_goals exact ⟨_,rfl⟩
    omega

theorem readRegisters_refines {get : DataModel → Word → Word} (a : Access) (bank : Mem Word)
    (hget : ∀ address : Word, address.toNat < limit → get s.data address = bank address.toNat)
    (hlimit : limit ≤ 65536)
    (hof : Access.ofPdu pdu len = if len = 5 ∧ 1 ≤ (readBe16 (pdu.off 3)).toNat ∧
      (readBe16 (pdu.off 3)).toNat ≤ 125 then some a else none)
    (hrange : a.InRange cfg ↔ (readBe16 (pdu.off 1)).toNat+(readBe16 (pdu.off 3)).toNat ≤ limit)
    (happly : a.apply (s.data.registerMap cfg) = s.data.registerMap cfg)
    (hhooks : a.hooks (s.data.registerMap cfg) = [])
    (hresponse : a.response (s.data.registerMap cfg) pdu =
      [function,BitVec.ofNat 8 (2*(readBe16 (pdu.off 3)).toNat)] ++
        encodeWords (read (fun i : Fin limit => bank i.val) (readBe16 (pdu.off 1)).toNat
          (readBe16 (pdu.off 3)).toNat)) :
    RefinesAccess cfg s (pdu,len) (readRegisters s function limit get pdu len 253) := by
  unfold readRegisters
  dsimp only
  generalize readBe16 (pdu.off 3) = quantity at hof hrange hresponse ⊢
  generalize readBe16 (pdu.off 1) = address at hrange hresponse ⊢
  refine .of_check hof (fun hv hin => ?_) fun hno => ?_
  · obtain ⟨rfl,hq,hq'⟩ := hv
    have hr := hrange.mp hin
    have h0 : ¬ (quantity.toNat = 0 ∨ 125 < quantity.toNat) := by omega
    have hc : ¬ 253 < 2+quantity.toNat*2 := by omega
    simp only [ne_eq,not_true_eq_false,if_false,h0,hc,rangeIsValid_iff.mpr ⟨hq,hr⟩]
    refine .accept (hof.trans (if_pos ⟨rfl,hq,hq'⟩)) hin happly.symm ?_ (by simp [hhooks])
      ⟨rfl,rfl,rfl,rfl,rfl⟩
    rw [hresponse,read_of_array bank hr,Nat.mul_comm]
    congr 2
    apply List.map_congr_left
    intro i hi
    have hlt := List.mem_range.mp hi
    have ha : (elementAddress address i).toNat = address.toNat+i := elementAddress_toNat (by omega)
    rw [hget _ (by omega),ha]
  · rw [hrange] at hno
    simp only [rangeIsValid_iff]
    split_ifs
    any_goals exact ⟨_,rfl⟩
    omega

end Reads

/-! The banks after a write. -/

theorem bitOf_normalizeCoil (value : Byte) : bitOf (normalizeCoil value) = decide (value ≠ 0#8) := by
  unfold normalizeCoil
  by_cases h : value = 0#8 <;> simp [h,bitOf]

theorem bitOf_and_one (b : Byte) : bitOf (b &&& 1#8) = bitOf b := by
  simp [bitOf]

theorem and_one_ne_zero (b : Byte) : decide (b &&& 1#8 ≠ 0#8) = bitOf b := by
  have h : b &&& 1#8 = 0#8 ∨ b &&& 1#8 = 1#8 := by
    have : ∀ b : Byte, b &&& 1#8 = 0#8 ∨ b &&& 1#8 = 1#8 := by decide +kernel
    exact this b
  have hb := bitOf_and_one b
  rcases h with h | h <;> rw [h] at hb ⊢ <;> simp [bitOf] at hb ⊢ <;> simp [hb]

theorem coilBit_ne_zero (b : Byte) (r : Nat) :
    decide ((b >>> r) &&& 1#8 ≠ 0#8) = b.getLsbD r := by
  rw [and_one_ne_zero,bitOf,BitVec.getLsbD_ushiftRight,Nat.add_zero]

theorem normalizeCoil_bit (b : Byte) (r : Nat) :
    normalizeCoil ((b >>> r) &&& 1#8) = if b.getLsbD r = true then 1#8 else 0#8 := by
  rw [← coilBit_ne_zero]
  simp [normalizeCoil]

theorem registerMap_coils (d : DataModel) (first count : Nat) (value : Nat → Byte) :
    ({ d with coils := overwrite d.coils first count fun j => normalizeCoil (value j) } :
        DataModel).registerMap cfg =
      { d.registerMap cfg with
        coils := write (d.registerMap cfg).coils first
          ((List.range count).map fun j => decide (value j ≠ 0#8)) } := by
  refine RegisterMap.ext (funext fun i => ?_) rfl rfl rfl
  simp only [write_apply,DataModel.registerMap,overwrite]
  split
  · exact bitOf_normalizeCoil _
  · rfl

theorem registerMap_hregs (d : DataModel) (first count : Nat) (value : Nat → Word) :
    ({ d with holdingRegisters := overwrite d.holdingRegisters first count value } :
        DataModel).registerMap cfg =
      { d.registerMap cfg with
        holdingRegisters := write (d.registerMap cfg).holdingRegisters first
          ((List.range count).map value) } := by
  refine RegisterMap.ext rfl rfl (funext fun i => ?_) rfl
  simp only [write_apply]
  rfl

theorem put_eq_overwrite {α : Type} (m : Mem α) (k : Nat) (v : α) :
    put m k v = overwrite m k 1 fun _ => v := by
  have h := overwrite_succ m k 0 fun _ => v
  rw [overwrite_zero] at h
  exact h

theorem mapIdx_range {α β : Type} (n : Nat) (v : Nat → α) (f : Nat → α → β) :
    ((List.range n).map v).mapIdx f = (List.range n).map fun i => f i (v i) := by
  apply List.ext_getElem
  · simp
  · intro i h1 h2
    simp

theorem slice_head {function : Byte} (hf : pdu 0 = function) :
    slice pdu 0 5 = [function] ++ writeBe16 (readBe16 (pdu.off 1)) ++
      writeBe16 (readBe16 (pdu.off 3)) := by
  simp [slice,readBe16,hf,Mem.off,List.range_succ,writeBe16_be16]

theorem mbSetCoil_map (cfg : Platform) (address : Word) {value : Byte}
    (h : address.toNat < cfg.maxCoils) :
    (mbSetCoil cfg s address value).data.registerMap cfg = { s.data.registerMap cfg with
      coils := write (s.data.registerMap cfg).coils address.toNat [decide (value ≠ 0#8)] } := by
  rw [mbSetCoil_data cfg s address value h,put_eq_overwrite]
  exact registerMap_coils s.data address.toNat 1 fun _ => value

theorem mbSetHreg_map (cfg : Platform) (address : Word) {value : Word}
    (h : address.toNat < cfg.maxHregs) :
    (mbSetHreg cfg s address value).data.registerMap cfg = { s.data.registerMap cfg with
      holdingRegisters := write (s.data.registerMap cfg).holdingRegisters address.toNat [value] } := by
  rw [mbSetHreg_data cfg s address value h,put_eq_overwrite]
  exact registerMap_hregs s.data address.toNat 1 fun _ => value

/-! The ten functions. -/

section Functions
variable (cfg s pdu len)

theorem readCoils_refines (hf : (pdu 0).toNat = 0x01) :
    RefinesAccess cfg s (pdu,len) (readBits s 0x01#8 cfg.maxCoils (mbGetCoil cfg) pdu len 253) := by
  refine readBits_refines (.readCoils (readBe16 (pdu.off 1)).toNat (readBe16 (pdu.off 3)).toNat)
    s.data.coils (fun a h => ?_) cfg.coils_bound.2 (by simp only [Access.ofPdu,hf]) Iff.rfl rfl rfl
    rfl
  simp [mbGetCoil,h,bitOf_and_one]

theorem readDiscreteInputs_refines (hf : (pdu 0).toNat = 0x02) :
    RefinesAccess cfg s (pdu,len)
      (readBits s 0x02#8 cfg.maxDiscreteInputs (mbGetDinput cfg) pdu len 253) := by
  refine readBits_refines
    (.readDiscreteInputs (readBe16 (pdu.off 1)).toNat (readBe16 (pdu.off 3)).toNat)
    s.data.discreteInputs (fun a h => ?_) cfg.discreteInputs_bound.2
    (by simp only [Access.ofPdu,hf]) Iff.rfl rfl rfl rfl
  simp [mbGetDinput,h,bitOf_and_one]

theorem readHoldingRegisters_refines (hf : (pdu 0).toNat = 0x03) :
    RefinesAccess cfg s (pdu,len)
      (readRegisters s 0x03#8 cfg.maxHregs (mbGetHreg cfg) pdu len 253) := by
  refine readRegisters_refines
    (.readHoldingRegisters (readBe16 (pdu.off 1)).toNat (readBe16 (pdu.off 3)).toNat)
    s.data.holdingRegisters (fun a h => ?_) cfg.hregs_bound.2
    (by simp only [Access.ofPdu,hf]) Iff.rfl rfl rfl rfl
  simp [mbGetHreg,h]

theorem readInputRegisters_refines (hf : (pdu 0).toNat = 0x04) :
    RefinesAccess cfg s (pdu,len)
      (readRegisters s 0x04#8 cfg.maxIregs (mbGetIreg cfg) pdu len 253) := by
  refine readRegisters_refines
    (.readInputRegisters (readBe16 (pdu.off 1)).toNat (readBe16 (pdu.off 3)).toNat)
    s.data.inputRegisters (fun a h => ?_) cfg.iregs_bound.2
    (by simp only [Access.ofPdu,hf]) Iff.rfl rfl rfl rfl
  simp [mbGetIreg,h]

theorem writeSingleCoil_refines (hf : (pdu 0).toNat = 0x05) :
    RefinesAccess cfg s (pdu,len) (writeSingleCoil cfg s pdu len 253) := by
  have hof : Access.ofPdu pdu len = if len = 5 ∧ (readBe16 (pdu.off 3) = 0xFF00#16 ∨
      readBe16 (pdu.off 3) = 0x0000#16) then some (.writeCoils (readBe16 (pdu.off 1)).toNat
        [readBe16 (pdu.off 3) = 0xFF00#16]) else none := by
    simp only [Access.ofPdu,hf]
  unfold writeSingleCoil
  dsimp only
  generalize readBe16 (pdu.off 3) = value at hof ⊢
  generalize readBe16 (pdu.off 1) = address at hof ⊢
  have h1 : (1 : Word).toNat = 1 := rfl
  refine .of_check hof (fun hv hin => ?_) fun hno => ?_
  · obtain ⟨rfl,hvalue⟩ := hv
    have hin' : address.toNat+1 ≤ cfg.maxCoils := hin
    have hbad : ¬ (value ≠ 0xFF00#16 ∧ value ≠ 0x0000#16) := by
      rintro ⟨h1,h2⟩
      exact hvalue.elim h1 h2
    have hc : ¬ 253 < 5 := by omega
    have hbit : decide ((if value = 0xFF00#16 then 1#8 else 0#8) ≠ 0#8) =
        decide (value = 0xFF00#16) := by
      by_cases h : value = 0xFF00#16 <;> simp [h]
    simp only [ne_eq,not_true_eq_false,if_false,hbad,hc,
      rangeIsValid_iff.mpr (show 0 < (1 : Word).toNat ∧ _ from ⟨by decide,hin'⟩)]
    refine .accept (hof.trans (if_pos ⟨rfl,hvalue⟩)) hin ?_ rfl ?_ ?_
    · rw [mbSetCoil_map cfg address hin',hbit]
      rfl
    · rw [mbSetCoil_hooks cfg address hin']
      by_cases h : value = 0xFF00#16 <;> simp [Access.hooks,h,normalizeCoil]
    · rw [mbSetCoil_data cfg s address _ hin']
      exact ⟨rfl,rfl,rfl,rfl,rfl⟩
  · have hno' : ¬ ((len = 5 ∧ (value = 0xFF00#16 ∨ value = 0x0000#16)) ∧
        address.toNat+1 ≤ cfg.maxCoils) := hno
    simp only [rangeIsValid_iff,h1]
    split_ifs with h2 h3 h4
    any_goals exact ⟨_,rfl⟩
    all_goals exact absurd ⟨⟨by omega,by tauto⟩,by omega⟩ hno'

theorem writeSingleRegister_refines (hf : (pdu 0).toNat = 0x06) :
    RefinesAccess cfg s (pdu,len) (writeSingleRegister cfg s pdu len 253) := by
  have hof : Access.ofPdu pdu len = if len = 5 then
      some (.writeHoldingRegisters (readBe16 (pdu.off 1)).toNat [readBe16 (pdu.off 3)]) else none := by
    simp only [Access.ofPdu,hf]
  unfold writeSingleRegister
  dsimp only
  generalize readBe16 (pdu.off 3) = value at hof ⊢
  generalize readBe16 (pdu.off 1) = address at hof ⊢
  have h1 : (1 : Word).toNat = 1 := rfl
  refine .of_check hof (fun hv hin => ?_) fun hno => ?_
  · subst hv
    have hin' : address.toNat+1 ≤ cfg.maxHregs := hin
    have hc : ¬ 253 < 5 := by omega
    simp only [ne_eq,not_true_eq_false,if_false,hc,
      rangeIsValid_iff.mpr (show 0 < (1 : Word).toNat ∧ _ from ⟨by decide,hin'⟩)]
    refine .accept (hof.trans (if_pos rfl)) hin (mbSetHreg_map cfg address hin') rfl ?_ ?_
    · rw [mbSetHreg_hooks cfg address hin']
      simp [Access.hooks]
    · rw [mbSetHreg_data cfg s address _ hin']
      exact ⟨rfl,rfl,rfl,rfl,rfl⟩
  · have hno' : ¬ (len = 5 ∧ address.toNat+1 ≤ cfg.maxHregs) := hno
    simp only [rangeIsValid_iff,h1]
    split_ifs
    any_goals exact ⟨_,rfl⟩
    omega

theorem maskWriteRegister_refines (hf : (pdu 0).toNat = 0x16) :
    RefinesAccess cfg s (pdu,len) (maskWriteRegister cfg s pdu len 253) := by
  have hof : Access.ofPdu pdu len = if len = 7 then
      some (.maskWriteRegister (readBe16 (pdu.off 1)).toNat (readBe16 (pdu.off 3))
        (readBe16 (pdu.off 5))) else none := by
    simp only [Access.ofPdu,hf]
  unfold maskWriteRegister
  dsimp only
  generalize readBe16 (pdu.off 3) = andMask at hof ⊢
  generalize readBe16 (pdu.off 5) = orMask at hof ⊢
  generalize readBe16 (pdu.off 1) = address at hof ⊢
  have h1 : (1 : Word).toNat = 1 := rfl
  refine .of_check hof (fun hv hin => ?_) fun hno => ?_
  · subst hv
    have hin' : address.toNat+1 ≤ cfg.maxHregs := hin
    have hc : ¬ 253 < 7 := by omega
    have hread : read (s.data.registerMap cfg).holdingRegisters address.toNat 1 =
        [s.data.holdingRegisters address.toNat] :=
      read_of_array s.data.holdingRegisters hin'
    simp only [ne_eq,not_true_eq_false,if_false,hc,
      rangeIsValid_iff.mpr (show 0 < (1 : Word).toNat ∧ _ from ⟨by decide,hin'⟩)]
    refine .accept (hof.trans (if_pos rfl)) hin ?_ rfl ?_ ?_
    · rw [mbMaskWriteHreg_data cfg s address _ _ hin',put_eq_overwrite,Access.apply,hread]
      exact registerMap_hregs s.data address.toNat 1 _
    · rw [mbMaskWriteHreg_hooks cfg address hin',Access.hooks,hread]
      simp
    · rw [mbMaskWriteHreg_data cfg s address _ _ hin']
      exact ⟨rfl,rfl,rfl,rfl,rfl⟩
  · have hno' : ¬ (len = 7 ∧ address.toNat+1 ≤ cfg.maxHregs) := hno
    simp only [rangeIsValid_iff,h1]
    split_ifs
    any_goals exact ⟨_,rfl⟩
    omega

theorem writeMultipleCoils_refines (hf : (pdu 0).toNat = 0x0F) :
    RefinesAccess cfg s (pdu,len) (writeMultipleCoils cfg s pdu len 253) := by
  have hof : Access.ofPdu pdu len = if 1 ≤ (readBe16 (pdu.off 3)).toNat ∧
      (readBe16 (pdu.off 3)).toNat ≤ 1968 ∧ (pdu 5).toNat = ((readBe16 (pdu.off 3)).toNat+7)/8 ∧
      len = 6+((readBe16 (pdu.off 3)).toNat+7)/8 then
        some (.writeCoils (readBe16 (pdu.off 1)).toNat
          (unpackBits pdu 6 (readBe16 (pdu.off 3)).toNat)) else none := by
    simp only [Access.ofPdu,hf]
  have hhead : [0x0F#8] ++ writeBe16 (readBe16 (pdu.off 1)) ++ writeBe16 (readBe16 (pdu.off 3)) =
      slice pdu 0 5 := by
    exact (slice_head (BitVec.eq_of_toNat_eq (y := 0x0F#8) hf)).symm
  unfold writeMultipleCoils
  dsimp only
  generalize readBe16 (pdu.off 3) = quantity at hof hhead ⊢
  generalize readBe16 (pdu.off 1) = address at hof hhead ⊢
  refine .of_check hof (fun hv hin => ?_) fun hno => ?_
  · obtain ⟨hq,hq',hb,rfl⟩ := hv
    have hin' : address.toNat+0+quantity.toNat ≤ cfg.maxCoils := by
      simpa [Access.InRange,unpackBits] using hin
    have h6 : ¬ 6+(quantity.toNat+7)/8 < 6 := by omega
    have h0 : ¬ (quantity.toNat = 0 ∨ 1968 < quantity.toNat) := by omega
    have hc : ¬ 253 < 5 := by omega
    simp only [h6,h0,hb,hc,ne_eq,not_true_eq_false,or_self,if_false,
      rangeIsValid_iff.mpr ⟨hq,hin'⟩]
    refine .accept (hof.trans (if_pos ⟨hq,hq',hb,rfl⟩)) hin ?_ hhead ?_ ?_
    · rw [setCoils_data cfg address _ _ _ _ hin',registerMap_coils]
      simp only [Nat.zero_add,Nat.add_zero,coilBit_ne_zero]
      rfl
    · rw [setCoils_hooks cfg address _ _ _ _ hin',Access.hooks,unpackBits,mapIdx_range]
      simp only [Nat.zero_add,normalizeCoil_bit]
    · rw [setCoils_data cfg address _ _ _ _ hin']
      exact ⟨rfl,rfl,rfl,rfl,rfl⟩
  · simp only [Access.InRange,unpackBits,List.length_map,List.length_range] at hno
    simp only [rangeIsValid_iff]
    split_ifs
    any_goals exact ⟨_,rfl⟩
    omega

theorem writeMultipleRegisters_refines (hf : (pdu 0).toNat = 0x10) :
    RefinesAccess cfg s (pdu,len) (writeMultipleRegisters cfg s pdu len 253) := by
  have hof : Access.ofPdu pdu len = if 1 ≤ (readBe16 (pdu.off 3)).toNat ∧
      (readBe16 (pdu.off 3)).toNat ≤ 123 ∧ (pdu 5).toNat = 2*(readBe16 (pdu.off 3)).toNat ∧
      len = 6+2*(readBe16 (pdu.off 3)).toNat then
        some (.writeHoldingRegisters (readBe16 (pdu.off 1)).toNat
          (unpackWords pdu 6 (readBe16 (pdu.off 3)).toNat)) else none := by
    simp only [Access.ofPdu,hf]
  have hhead : [0x10#8] ++ writeBe16 (readBe16 (pdu.off 1)) ++ writeBe16 (readBe16 (pdu.off 3)) =
      slice pdu 0 5 := by
    exact (slice_head (BitVec.eq_of_toNat_eq (y := 0x10#8) hf)).symm
  unfold writeMultipleRegisters
  dsimp only
  generalize readBe16 (pdu.off 3) = quantity at hof hhead ⊢
  generalize readBe16 (pdu.off 1) = address at hof hhead ⊢
  rw [Nat.mul_comm]
  refine .of_check hof (fun hv hin => ?_) fun hno => ?_
  · obtain ⟨hq,hq',hb,rfl⟩ := hv
    have hin' : address.toNat+0+quantity.toNat ≤ cfg.maxHregs := by
      simpa [Access.InRange,unpackWords] using hin
    have h6 : ¬ 6+2*quantity.toNat < 6 := by omega
    have h0 : ¬ (quantity.toNat = 0 ∨ 123 < quantity.toNat) := by omega
    have hc : ¬ 253 < 5 := by omega
    simp only [h6,h0,hb,hc,ne_eq,not_true_eq_false,or_self,if_false,
      rangeIsValid_iff.mpr ⟨hq,hin'⟩]
    refine .accept (hof.trans (if_pos ⟨hq,hq',hb,rfl⟩)) hin ?_ hhead ?_ ?_
    · rw [setHregs_data cfg address _ _ _ _ hin',registerMap_hregs]
      simp only [Nat.zero_add,Nat.add_zero]
      rfl
    · rw [setHregs_hooks cfg address _ _ _ _ hin',Access.hooks,unpackWords,mapIdx_range]
      simp only [Nat.zero_add]
    · rw [setHregs_data cfg address _ _ _ _ hin']
      exact ⟨rfl,rfl,rfl,rfl,rfl⟩
  · simp only [Access.InRange,unpackWords,List.length_map,List.length_range] at hno
    simp only [rangeIsValid_iff]
    split_ifs
    any_goals exact ⟨_,rfl⟩
    omega

theorem readWriteMultipleRegisters_refines (hf : (pdu 0).toNat = 0x17) :
    RefinesAccess cfg s (pdu,len) (readWriteMultipleRegisters cfg s pdu len 253) := by
  have hof : Access.ofPdu pdu len = if 1 ≤ (readBe16 (pdu.off 3)).toNat ∧
      (readBe16 (pdu.off 3)).toNat ≤ 125 ∧ 1 ≤ (readBe16 (pdu.off 7)).toNat ∧
      (readBe16 (pdu.off 7)).toNat ≤ 121 ∧ (pdu 9).toNat = 2*(readBe16 (pdu.off 7)).toNat ∧
      len = 10+2*(readBe16 (pdu.off 7)).toNat then
        some (.readWriteRegisters (readBe16 (pdu.off 1)).toNat (readBe16 (pdu.off 3)).toNat
          (readBe16 (pdu.off 5)).toNat (unpackWords pdu 10 (readBe16 (pdu.off 7)).toNat)) else none := by
    simp only [Access.ofPdu,hf]
  have hmax := cfg.hregs_bound
  unfold readWriteMultipleRegisters
  dsimp only
  generalize readBe16 (pdu.off 3) = readQuantity at hof ⊢
  generalize readBe16 (pdu.off 1) = readAddress at hof ⊢
  generalize readBe16 (pdu.off 7) = writeQuantity at hof ⊢
  generalize readBe16 (pdu.off 5) = writeAddress at hof ⊢
  refine .of_check hof (fun hv hin => ?_) fun hno => ?_
  · obtain ⟨hr,hr',hw,hw',hb,rfl⟩ := hv
    have hin' : readAddress.toNat+readQuantity.toNat ≤ cfg.maxHregs ∧
        writeAddress.toNat+0+writeQuantity.toNat ≤ cfg.maxHregs := by
      simpa [Access.InRange,unpackWords] using hin
    have h10 : ¬ 10+2*writeQuantity.toNat < 10 := by omega
    have h0 : ¬ (readQuantity.toNat = 0 ∨ 125 < readQuantity.toNat ∨ writeQuantity.toNat = 0 ∨
        121 < writeQuantity.toNat) := by omega
    have hrange : ¬ (¬ rangeIsValid readAddress readQuantity cfg.maxHregs = true ∨
        ¬ rangeIsValid writeAddress writeQuantity cfg.maxHregs = true) := by
      rw [rangeIsValid_iff,rangeIsValid_iff]
      omega
    have hc : ¬ 253 < 2+readQuantity.toNat*2 := by omega
    have hlen : ¬ (2*writeQuantity.toNat ≠ writeQuantity.toNat*2 ∨
        10+2*writeQuantity.toNat ≠ 10+writeQuantity.toNat*2) := by omega
    have hwords : unpackWords pdu 10 writeQuantity.toNat =
        (List.range writeQuantity.toNat).map fun i => readBe16 (pdu.off (10+i*2)) := by
      simp only [unpackWords,Nat.mul_comm 2]
    simp only [h10,h0,hb,hc,hrange,hlen,if_false]
    refine .accept (hof.trans (if_pos ⟨hr,hr',hw,hw',hb,rfl⟩)) hin ?_ ?_ ?_ ?_
    · rw [setHregs_data cfg writeAddress _ _ _ _ hin'.2,registerMap_hregs]
      simp only [Nat.zero_add,Nat.add_zero,Access.apply,hwords]
    · generalize (setHregs cfg writeAddress _ _ 0 s).data = d
      have hread : read (d.registerMap cfg).holdingRegisters readAddress.toNat readQuantity.toNat =
          (List.range readQuantity.toNat).map fun i => d.holdingRegisters (readAddress.toNat+i) :=
        read_of_array d.holdingRegisters hin'.1
      rw [Access.response,hread,Nat.mul_comm]
      congr 2
      apply List.map_congr_left
      intro i hi
      have hlt := List.mem_range.mp hi
      have ha : (elementAddress readAddress i).toNat = readAddress.toNat+i :=
        elementAddress_toNat (by omega)
      have hbound : readAddress.toNat+i < cfg.maxHregs := by omega
      simp [mbGetHreg,ha,hbound]
    · rw [setHregs_hooks cfg writeAddress _ _ _ _ hin'.2,Access.hooks,hwords,mapIdx_range]
      simp only [Nat.zero_add]
    · rw [setHregs_data cfg writeAddress _ _ _ _ hin'.2]
      exact ⟨rfl,rfl,rfl,rfl,rfl⟩
  · simp only [Access.InRange,unpackWords,List.length_map,List.length_range] at hno
    simp only [rangeIsValid_iff]
    split_ifs
    any_goals exact ⟨_,rfl⟩
    omega

theorem processPduFunction_refines (hlen : len ≠ 0) (hf : isDataFunction (pdu 0) = true) :
    RefinesAccess cfg s (pdu,len) (processPduFunction cfg s pdu len 253) := by
  simp only [isDataFunction,List.mem_cons,List.not_mem_nil,or_false,decide_eq_true_eq] at hf
  unfold processPduFunction
  rw [if_neg hlen]
  rcases hf with hf | hf | hf | hf | hf | hf | hf | hf | hf | hf <;> simp only [hf]
  · exact readCoils_refines cfg s pdu len hf
  · exact readDiscreteInputs_refines cfg s pdu len hf
  · exact readHoldingRegisters_refines cfg s pdu len hf
  · exact readInputRegisters_refines cfg s pdu len hf
  · exact writeSingleCoil_refines cfg s pdu len hf
  · exact writeSingleRegister_refines cfg s pdu len hf
  · exact writeMultipleCoils_refines cfg s pdu len hf
  · exact writeMultipleRegisters_refines cfg s pdu len hf
  · exact maskWriteRegister_refines cfg s pdu len hf
  · exact readWriteMultipleRegisters_refines cfg s pdu len hf

end Functions

/-! The other functions do not touch the banks. -/

structure SameBanks (s s' : Server) : Prop where
  coils : s'.data.coils = s.data.coils
  discreteInputs : s'.data.discreteInputs = s.data.discreteInputs
  holdingRegisters : s'.data.holdingRegisters = s.data.holdingRegisters
  inputRegisters : s'.data.inputRegisters = s.data.inputRegisters
  hooks : s'.hooks = s.hooks

theorem SameBanks.of_quiet {s' : Server} (h : Quiet s s') : SameBanks s s' := by
  obtain ⟨hd,hh⟩ := h
  exact ⟨by rw [hd],by rw [hd],by rw [hd],by rw [hd],hh⟩

theorem SameBanks.trans {s' s'' : Server} (h : SameBanks s s') (h' : SameBanks s' s'') :
    SameBanks s s'' :=
  ⟨h'.coils.trans h.coils,h'.discreteInputs.trans h.discreteInputs,
    h'.holdingRegisters.trans h.holdingRegisters,h'.inputRegisters.trans h.inputRegisters,
    h'.hooks.trans h.hooks⟩

theorem SameBanks.map_eq {s' : Server} (h : SameBanks s s') :
    s'.data.registerMap cfg = s.data.registerMap cfg := by
  simp only [DataModel.registerMap,h.coils,h.discreteInputs,h.holdingRegisters,h.inputRegisters]

theorem writeRecord_sameBanks (s : Server) (address : Nat) (value : Word) :
    SameBanks s (writeRecord s address value) := by
  refine ⟨rfl,rfl,rfl,rfl,?_⟩
  simp [writeRecord,Server.hooks,Server.modify,Event.isWriteHook]

theorem writeRecords_sameBanks (base : Nat) (pdu : Mem Byte) (dataOffset n i : Nat) (s : Server) :
    SameBanks s (writeRecords base pdu dataOffset n i s) := by
  induction n generalizing i s with
  | zero => exact .of_quiet (.refl s)
  | succ n ih => exact (writeRecord_sameBanks s _ _).trans (ih (i+1) _)

theorem applyWriteSubrequests_sameBanks (pdu : Mem Byte) (len fuel offset : Nat) (s : Server) :
    SameBanks s (applyWriteSubrequests pdu len fuel offset s) := by
  induction fuel generalizing offset s with
  | zero => exact .of_quiet (.refl s)
  | succ fuel ih =>
    simp only [applyWriteSubrequests]
    split
    · refine SameBanks.trans ?_ (ih _ _)
      split
      · exact writeRecords_sameBanks _ _ _ _ _ _
      · exact .of_quiet (.refl s)
    · exact .of_quiet (.refl s)

theorem mbFileRecordProcessWriteRequest_sameBanks (s : Server) (pdu : Mem Byte) (len capacity : Nat) :
    SameBanks s (mbFileRecordProcessWriteRequest s pdu len capacity).2 := by
  simp only [mbFileRecordProcessWriteRequest]
  repeat' split
  all_goals first
    | exact .of_quiet (.refl s)
    | exact .of_quiet (.locked s)
    | refine (SameBanks.of_quiet ((Quiet.refl s).emit .lock rfl)).trans ?_
      refine (applyWriteSubrequests_sameBanks pdu len len 2 _).trans ?_
      exact .of_quiet ((Quiet.refl _).emit .unlock rfl)

theorem processPduFunction_sameBanks (cfg : Platform) (s : Server) (pdu : Mem Byte)
    (len capacity : Nat) (hf : isDataFunction (pdu 0) = false) :
    SameBanks s (processPduFunction cfg s pdu len capacity).2 := by
  unfold processPduFunction
  split
  · exact .of_quiet (.refl s)
  split
  case _ h => simp [isDataFunction,h] at hf
  case _ h => simp [isDataFunction,h] at hf
  case _ h => simp [isDataFunction,h] at hf
  case _ h => simp [isDataFunction,h] at hf
  case _ h => simp [isDataFunction,h] at hf
  case _ h => simp [isDataFunction,h] at hf
  case _ h => simp [isDataFunction,h] at hf
  case _ h => simp [isDataFunction,h] at hf
  case _ => exact .of_quiet (mbFileRecordProcessReadRequest_handles s pdu len capacity).2
  case _ => exact mbFileRecordProcessWriteRequest_sameBanks s pdu len capacity
  case _ h => simp [isDataFunction,h] at hf
  case _ h => simp [isDataFunction,h] at hf
  case _ => exact .of_quiet (mbFifoProcessReadRequest_handles s pdu len capacity).2
  case _ => exact .of_quiet (mbMeiProcessRequest_handles cfg s pdu len capacity).2
  case _ => exact .of_quiet (.refl s)

theorem ofPdu_other (hf : isDataFunction (pdu 0) = false) : Access.ofPdu pdu len = none := by
  simp only [isDataFunction,List.mem_cons,List.not_mem_nil,or_false,decide_eq_false_iff_not,
    not_or] at hf
  unfold Access.ofPdu
  split <;> first | rfl | omega

theorem ofPdu_size (h : len = 0 ∨ 253 < len) : Access.ofPdu pdu len = none := by
  unfold Access.ofPdu
  split
  all_goals first
    | rfl
    | exact if_neg (by omega)

end Refinement

/-- The processor as a machine, with the capacity that a full PDU needs. -/
def pduStep (cfg : Platform) (s : Server) (request : Mem Byte × Nat) :
    Except PduError (List Byte) × Server :=
  mbProcessPdu cfg s request.1 request.2 253

/-- What the processor answers when the abstract memory has `answer`: that normal response, or
an exception; a PDU of an impossible size is not answered at all. -/
def Answers (request : Mem Byte × Nat) (out : Except PduError (List Byte)) :
    Option (List Byte) → Prop
  | some response => out = .ok response
  | none => (∃ code ≠ 0#8, out = .ok [request.1 0 ||| 0x80#8,code]) ∨
    ((request.2 = 0 ∨ 253 < request.2) ∧ out = .error .size)

structure StepRefines (cfg : Platform) (s : Server) (request : Mem Byte × Nat)
    (out : Except PduError (List Byte)) (s' : Server) : Prop where
  map : s'.data.registerMap cfg = (registerStep (s.data.registerMap cfg) request).2
  hooks : s'.hooks = s.hooks ++ (registerStep (s.data.registerMap cfg) request).1.2
  answer : isDataFunction (request.1 0) = true →
    Answers request out (registerStep (s.data.registerMap cfg) request).1.1
  tables : isDataFunction (request.1 0) = true → SameTables s.data s'.data

theorem pduStep_refines (cfg : Platform) (s : Server) (request : Mem Byte × Nat) :
    StepRefines cfg s request (pduStep cfg s request).1 (pduStep cfg s request).2 := by
  obtain ⟨pdu,len⟩ := request
  have hnone (h : Access.ofPdu pdu len = none) : registerStep (s.data.registerMap cfg) (pdu,len) =
      ((none,[]),s.data.registerMap cfg) := by
    simp [registerStep,h]
  unfold pduStep mbProcessPdu
  dsimp only
  by_cases hsize : len = 0 ∨ modbusPduMaxSize < len
  · rw [if_pos hsize]
    have hstep := hnone (ofPdu_size hsize)
    refine ⟨by rw [hstep],by rw [hstep]; simp,fun _ => ?_,fun _ => ⟨rfl,rfl,rfl,rfl,rfl⟩⟩
    rw [hstep]
    exact .inr ⟨hsize,rfl⟩
  rw [if_neg hsize,if_neg (by omega)]
  cases hf : isDataFunction (pdu 0) with
  | false =>
    have hb := processPduFunction_sameBanks cfg s pdu len 253 hf
    have hstep := hnone (ofPdu_other hf)
    cases hout : processPduFunction cfg s pdu len 253 with
    | mk out s' =>
      rw [hout] at hb
      cases out <;> refine ⟨by rw [hstep]; exact hb.map_eq,by rw [hstep]; simp [hb.hooks],
        fun h => ?_,fun h => ?_⟩ <;> rw [hf] at h <;> cases h
  | true =>
    have hr := processPduFunction_refines cfg s pdu len (fun h => hsize (.inl h)) hf
    have hh := (processPduFunction_handles cfg s pdu len 253).1
    cases hout : processPduFunction cfg s pdu len 253 with
    | mk out s' =>
      rw [hout] at hr hh
      have ha := hr.answer
      cases out with
      | ok response =>
        refine ⟨hr.map,hr.hooks,fun _ => ?_,fun _ => hr.tables⟩
        rw [← ha]
        rfl
      | error e =>
        refine ⟨hr.map,hr.hooks,fun _ => ?_,fun _ => hr.tables⟩
        rw [← ha]
        exact .inl ⟨e,(hh.refusal e rfl).2,rfl⟩

/-- No element address that the loops compute wraps. -/
def NoAddressWraps (cfg : Platform) : Prop :=
  ∀ limit ∈ [cfg.maxCoils,cfg.maxDiscreteInputs,cfg.maxHregs,cfg.maxIregs],
    ∀ first quantity : Word, rangeIsValid first quantity limit = true →
      ∀ i < quantity.toNat, (elementAddress first i).toNat = first.toNat+i ∧ first.toNat+i < limit

theorem noAddressWraps (cfg : Platform) : NoAddressWraps cfg := by
  intro limit hlimit first quantity hr i hi
  have hbound : limit ≤ 65536 := by
    simp only [List.mem_cons,List.not_mem_nil,or_false] at hlimit
    rcases hlimit with rfl | rfl | rfl | rfl
    · exact cfg.coils_bound.2
    · exact cfg.discreteInputs_bound.2
    · exact cfg.hregs_bound.2
    · exact cfg.iregs_bound.2
  have hrange := (rangeIsValid_iff.mp hr).2
  exact ⟨elementAddress_toNat (by omega),by omega⟩

structure RefinesRegisterMap (cfg : Platform) (s : Server) (requests : List (Mem Byte × Nat)) :
    Prop where
  map : (run (pduStep cfg) s requests).data.registerMap cfg =
    run registerStep (s.data.registerMap cfg) requests
  hooks : (run (pduStep cfg) s requests).hooks = s.hooks ++
    (records registerStep (s.data.registerMap cfg) requests).flatMap fun r => r.output.2
  steps : ∀ r ∈ records (pduStep cfg) s requests,
    StepRefines cfg r.before r.input r.output r.after
  noWrap : NoAddressWraps cfg

theorem dataAccess_refines_registerMap (cfg : Platform) (s : Server)
    (requests : List (Mem Byte × Nat)) : RefinesRegisterMap cfg s requests := by
  refine ⟨?_,?_,fun r hr => ?_,noAddressWraps cfg⟩
  · induction requests generalizing s with
    | nil => rfl
    | cons x xs ih => rw [run,run,ih,(pduStep_refines cfg s x).map]
  · induction requests generalizing s with
    | nil => simp [run,records]
    | cons x xs ih =>
      have hx := pduStep_refines cfg s x
      rw [run,ih,hx.hooks,hx.map,records,List.flatMap_cons,List.append_assoc]
  · obtain ⟨ys,zs,-,-,hstep⟩ := mem_records hr
    have h := pduStep_refines cfg r.before r.input
    rw [← hstep] at h
    exact h

end ModbusStack
