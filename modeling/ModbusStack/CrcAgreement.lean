import ModbusStack.RtuAdu

/-! The residue test of the master and the comparison of the slave accept the same frames. -/
set_option autoImplicit false

namespace ModbusStack
open ByteMemory

theorem low_bit_eq (x : Word) : x &&& 1#16 = if x.getLsbD 0 then 1#16 else 0#16 := by
  rw [BitVec.and_one_eq_setWidth_ofBool_getLsbD]
  cases x.getLsbD 0 <;> rfl

theorem crcBit_eq (x : Word) :
    crcBit x = (x >>> 1) ^^^ if x.getLsbD 0 then 0xA001#16 else 0#16 := by
  rw [crcBit,low_bit_eq]
  cases x.getLsbD 0 <;> simp

theorem crcBit_xor (x y : Word) : crcBit (x ^^^ y) = crcBit x ^^^ crcBit y := by
  simp only [crcBit_eq,BitVec.getLsbD_xor,BitVec.ushiftRight_xor_distrib]
  have hmix : ∀ a b p q : Word, a ^^^ b ^^^ (p ^^^ q) = a ^^^ p ^^^ (b ^^^ q) := by
    intro a b p q
    ac_rfl
  cases x.getLsbD 0 <;> cases y.getLsbD 0 <;> simp only [Bool.xor_false,Bool.xor_true,
    Bool.not_false,Bool.not_true,Bool.false_eq_true,if_true,if_false] <;> rw [← hmix] <;> simp

theorem crcBits_xor (n : Nat) (x y : Word) :
    crcBits n (x ^^^ y) = crcBits n x ^^^ crcBits n y := by
  induction n generalizing x y with
  | zero => rfl
  | succ n ih => rw [crcBits,crcBit_xor,ih,crcBits,crcBits]

/-- The top bit of the polynomial shows which bit was shifted out. -/
theorem crcBit_eq_zero {x : Word} (h : crcBit x = 0#16) : x = 0#16 := by
  rw [crcBit_eq] at h
  cases h0 : x.getLsbD 0 with
  | false =>
    rw [h0] at h
    apply BitVec.eq_of_getLsbD_eq
    intro i hi
    cases i with
    | zero => simpa using h0
    | succ i =>
      have hb := congrArg (fun v : Word => v.getLsbD i) h
      simpa [Nat.add_comm] using hb
  | true =>
    rw [h0] at h
    have hb := congrArg (fun v : Word => v.getLsbD 15) h
    simp at hb

theorem crcBits_eq_zero {n : Nat} {x : Word} (h : crcBits n x = 0#16) : x = 0#16 := by
  induction n generalizing x with
  | zero => exact h
  | succ n ih => exact crcBit_eq_zero (ih h)

theorem crcBits_injective {n : Nat} {x y : Word} (h : crcBits n x = crcBits n y) : x = y := by
  have hz : crcBits n (x ^^^ y) = 0#16 := by rw [crcBits_xor,h,BitVec.xor_self]
  exact BitVec.xor_eq_zero_iff.mp (crcBits_eq_zero hz)

theorem crc_residue_iff (crc : Word) (a b : Byte) :
    crcByte (crcByte crc a) b = 0#16 ↔ a = loByte crc ∧ b = hiByte crc := by
  refine ⟨fun h => ?_,fun h => by rw [h.1,h.2]; exact crc_residue crc⟩
  have h1 : crcByte crc a = b.setWidth 16 := BitVec.xor_eq_zero_iff.mp (crcBits_eq_zero h)
  have h2 : crcByte (be16 b a) a = b.setWidth 16 := by
    rw [crcByte,be16_xor_low,crcBits_low_zero 8 _ (by rw [be16_toNat]; simp)]
    apply BitVec.eq_of_toNat_eq
    rw [BitVec.toNat_ushiftRight,be16_toNat,BitVec.toNat_setWidth,Nat.shiftRight_eq_div_pow]
    simp
    omega
  have h3 : crc = be16 b a := by
    have hsame := crcBits_injective (h1.trans h2.symm)
    exact (BitVec.xor_left_inj _).mp hsame
  rw [h3]
  simp

theorem mbCrc16_eq_zero_iff (m : Mem Byte) (n : Nat) :
    mbCrc16 m (n+2) = 0#16 ↔ m n = loByte (mbCrc16 m n) ∧ m (n+1) = hiByte (mbCrc16 m n) := by
  rw [mbCrc16,mbCrc16]
  exact crc_residue_iff _ _ _

theorem crcMatches_iff (m : Mem Byte) (n : Nat) :
    crcMatches m (n+2) = true ↔ m n = loByte (mbCrc16 m n) ∧ m (n+1) = hiByte (mbCrc16 m n) := by
  simp only [crcMatches,readCrcLe,Mem.off_apply,Nat.add_sub_cancel,Nat.add_zero,decide_eq_true_eq]
  constructor
  · intro h
    rw [← h]
    simp
  · rintro ⟨h0,h1⟩
    rw [h0,h1,be16_bytes]

structure CrcTestsAgree : Prop where
  slave : ∀ (m : Mem Byte) (length : Nat), 2 ≤ length →
    (mbCrc16 m length = 0#16 ↔ crcMatches m length = true)
  transaction : ∀ (m : Mem Byte) (length : Nat), 2 ≤ length →
    (mbCrc16 m length = 0#16 ↔ m (length-2) = loByte (mbCrc16 m (length-2)) ∧
      m (length-1) = hiByte (mbCrc16 m (length-2)))
  finished : ∀ (m : Mem Byte) (adu : List Byte), Stored m 0 (appendCrc adu) →
    mbCrc16 m (appendCrc adu).length = 0#16 ∧ crcMatches m (appendCrc adu).length = true
  onlyThese : ∀ (adu : List Byte) (lo hi : Byte),
    (mbCrc16 (ofList (adu ++ [lo,hi])) (adu.length+2) = 0#16 ↔ adu ++ [lo,hi] = appendCrc adu) ∧
    (crcMatches (ofList (adu ++ [lo,hi])) (adu.length+2) = true ↔
      adu ++ [lo,hi] = appendCrc adu)

theorem crcTests_agree : CrcTestsAgree where
  slave := by
    intro m length h
    obtain ⟨n,rfl⟩ := Nat.exists_eq_add_of_le' h
    rw [mbCrc16_eq_zero_iff,crcMatches_iff]
  transaction := by
    intro m length h
    obtain ⟨n,rfl⟩ := Nat.exists_eq_add_of_le' h
    exact mbCrc16_eq_zero_iff m n
  finished := by
    intro m adu h
    have hz := mbCrc16_appendCrc h
    rw [appendCrc_length]
    exact ⟨hz,(crcMatches_iff m _).mpr ((mbCrc16_eq_zero_iff m _).mp hz)⟩
  onlyThese := by
    intro adu lo hi
    have hcrc : mbCrc16 (ofList (adu ++ [lo,hi])) adu.length = mbCrc16 (ofList adu) adu.length :=
      mbCrc16_congr _ fun i hi => ofList_append_left adu _ i hi
    have h0 : ofList (adu ++ [lo,hi]) adu.length = lo := ofList_append_right adu [lo,hi] 0
    have h1 : ofList (adu ++ [lo,hi]) (adu.length+1) = hi := ofList_append_right adu [lo,hi] 1
    have hwrite : adu ++ [lo,hi] = appendCrc adu ↔
        lo = loByte (mbCrc16 (ofList adu) adu.length) ∧
          hi = hiByte (mbCrc16 (ofList adu) adu.length) := by
      simp [appendCrc,writeCrcLe]
    rw [mbCrc16_eq_zero_iff,crcMatches_iff,hcrc,h0,h1,hwrite]
    exact ⟨Iff.rfl,Iff.rfl⟩

end ModbusStack
