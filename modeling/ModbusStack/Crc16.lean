import ModbusStack.ByteMemory

/-! The serial-line CRC of `modbus_crc16.c` and the two ways in which the code tests it. -/
set_option autoImplicit false

namespace ModbusStack
open ByteMemory

def crcBit (crc : Word) : Word :=
  if crc &&& 1#16 ≠ 0#16 then (crc >>> 1) ^^^ 0xA001#16 else crc >>> 1

def crcBits : Nat → Word → Word
  | 0, crc => crc
  | n+1, crc => crcBits n (crcBit crc)

def crcByte (crc : Word) (byte : Byte) : Word := crcBits 8 (crc ^^^ byte.setWidth 16)

def mbCrc16 (data : Mem Byte) : Nat → Word
  | 0 => 0xFFFF#16
  | n+1 => crcByte (mbCrc16 data n) (data n)

def readCrcLe (p : Mem Byte) : Word := be16 (p 1) (p 0)

def writeCrcLe (crc : Word) : List Byte := [loByte crc,hiByte crc]

/-- `append_crc` of the master and the tail of every slave response. -/
def appendCrc (adu : List Byte) : List Byte :=
  adu ++ writeCrcLe (mbCrc16 (ofList adu) adu.length)

@[simp] theorem appendCrc_length (adu : List Byte) : (appendCrc adu).length = adu.length+2 := by
  simp [appendCrc,writeCrcLe]

theorem mbCrc16_congr {m m' : Mem Byte} (n : Nat) (h : ∀ i, i < n → m i = m' i) :
    mbCrc16 m n = mbCrc16 m' n := by
  induction n with
  | zero => rfl
  | succ n ih =>
    simp only [mbCrc16]
    rw [ih fun i hi => h i (by omega),h n (by omega)]

theorem mbCrc16_stored {m : Mem Byte} {adu : List Byte} (h : Stored m 0 adu) :
    mbCrc16 m adu.length = mbCrc16 (ofList adu) adu.length := by
  refine mbCrc16_congr _ fun i hi => ?_
  have hg := h.ofList_eq i hi
  rwa [Nat.zero_add] at hg

theorem stored_appendCrc {m : Mem Byte} {adu : List Byte} :
    Stored m 0 (appendCrc adu) ↔ Stored m 0 adu ∧ m adu.length = loByte (mbCrc16 m adu.length) ∧
      m (adu.length+1) = hiByte (mbCrc16 m adu.length) := by
  simp only [appendCrc,writeCrcLe,stored_append,stored_cons,stored_nil,Nat.zero_add,and_true]
  refine and_congr_right fun h => ?_
  rw [mbCrc16_stored h]

theorem crcBit_even (x : Word) (h : x.toNat%2 = 0) : crcBit x = x >>> 1 := by
  have hz : x &&& 1#16 = 0#16 := by
    apply BitVec.eq_of_toNat_eq
    simp only [BitVec.toNat_and,BitVec.toNat_ofNat]
    rw [show 1%2^16 = 1 from rfl,Nat.and_one_is_mod,h]
  simp [crcBit,hz]

/-- While the low bits are zero the polynomial is never mixed in. -/
theorem crcBits_low_zero (n : Nat) (x : Word) (h : x.toNat%2^n = 0) :
    crcBits n x = x >>> n := by
  induction n generalizing x with
  | zero => simp [crcBits]
  | succ n ih =>
    have h2 : x.toNat%2 = 0 := by
      have hd : 2 ∣ 2^(n+1) := Dvd.intro_left (2^n) rfl
      rw [← Nat.mod_mod_of_dvd _ hd,h]
    have hs : (x >>> 1).toNat%2^n = 0 := by
      rw [BitVec.toNat_ushiftRight,Nat.shiftRight_eq_div_pow,pow_one,← Nat.mod_mul_right_div_self,
        ← Nat.pow_succ',h,Nat.zero_div]
    rw [crcBits,crcBit_even x h2,ih _ hs,← BitVec.shiftRight_add,Nat.add_comm]

theorem crcBits_zero (n : Nat) : crcBits n 0#16 = 0#16 := by
  rw [crcBits_low_zero n 0#16 (by simp)]
  simp

theorem be16_xor_low (a b : Byte) : be16 a b ^^^ b.setWidth 16 = be16 a 0 := by
  apply BitVec.eq_of_getLsbD_eq
  intro i hi
  by_cases h8 : i < 8
  · simp [be16,h8]
  · simp [be16,h8,hi,BitVec.getLsbD_of_ge b i (by omega)]

theorem xor_loByte_toNat (x : Word) : (x ^^^ (loByte x).setWidth 16).toNat = x.toNat/256*256 := by
  have h := be16_xor_low (hiByte x) (loByte x)
  rw [be16_bytes] at h
  rw [h,be16_toNat,hiByte_toNat]
  simp

/-- Folding the two bytes of the register back in, low byte first, clears it. -/
theorem crc_residue (crc : Word) : crcByte (crcByte crc (loByte crc)) (hiByte crc) = 0#16 := by
  have h1 : crcByte crc (loByte crc) = (hiByte crc).setWidth 16 := by
    have hn := xor_loByte_toNat crc
    rw [crcByte,crcBits_low_zero 8 _ (by rw [hn]; omega)]
    apply BitVec.eq_of_toNat_eq
    rw [BitVec.toNat_ushiftRight,hn,BitVec.toNat_setWidth,hiByte_toNat,Nat.shiftRight_eq_div_pow]
    omega
  rw [h1,crcByte,BitVec.xor_self]
  exact crcBits_zero 8

theorem mbCrc16_appendCrc {m : Mem Byte} {adu : List Byte} (h : Stored m 0 (appendCrc adu)) :
    mbCrc16 m (adu.length+2) = 0#16 := by
  obtain ⟨-,h0,h1⟩ := stored_appendCrc.mp h
  rw [mbCrc16,mbCrc16,h0,h1]
  exact crc_residue _

theorem readCrcLe_appendCrc {m : Mem Byte} {adu : List Byte} (h : Stored m 0 (appendCrc adu)) :
    readCrcLe (m.off adu.length) = mbCrc16 m adu.length := by
  obtain ⟨-,h0,h1⟩ := stored_appendCrc.mp h
  simp only [readCrcLe,Mem.off_apply,Nat.add_zero]
  rw [h0,h1,be16_bytes]

end ModbusStack
