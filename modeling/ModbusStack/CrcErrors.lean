import ModbusStack.BroadcastFrames
import ModbusStack.CrcAgreement
import ModbusStack.MasterResponse
import ModbusStack.PolynomialCode

/-! The register of `mb_crc16` is the remainder of a polynomial division, and the errors that
the CRC test therefore detects. -/
set_option autoImplicit false

namespace ModbusStack
open ByteMemory PolynomialCode Polynomial

theorem crcBits_eq_shifts (n : Nat) (x : Word) : crcBits n x = shifts 0xA001#16 n x := by
  induction n generalizing x with
  | zero => rfl
  | succ n ih => rw [crcBits,ih,crcBit_eq,shifts,shift]

theorem mbCrc16_eq_digest (m : Mem Byte) (n : Nat) :
    mbCrc16 m n = digest 0xA001#16 0xFFFF#16 m n := by
  induction n with
  | zero => rfl
  | succ n ih => rw [mbCrc16,crcByte,crcBits_eq_shifts,ih,digest,absorb]

/-! The generator and its two factors. -/

noncomputable abbrev crcGenerator : (ZMod 2)[X] := generator 0xA001#16

theorem crcGenerator_eq : crcGenerator = X^16+X^15+X^2+1 := by
  have hbits : (Finset.range 16).filter (fun k => (0xA001#16).getLsbD k = true) = {0,13,15} := by
    decide
  rw [crcGenerator,generator,value,word_eq_sum,hbits,Finset.sum_insert (by decide),
    Finset.sum_pair (by decide)]
  norm_num
  ring

noncomputable abbrev crcFactor : (ZMod 2)[X] := X^15+X+1

theorem crcGenerator_factors : crcGenerator = (X+1)*crcFactor := by
  have htwo : (2 : (ZMod 2)[X]) = 0 := CharTwo.two_eq_zero
  rw [crcGenerator_eq,crcFactor]
  linear_combination -X*htwo

theorem crcGenerator_odd : crcGenerator.eval 1 = 0 := by
  rw [crcGenerator_factors,eval_mul,eval_add,eval_X,eval_one,CharTwo.add_self_eq_zero,zero_mul]

theorem crcGenerator_constant : crcGenerator.coeff 0 ≠ 0 := by
  rw [crcGenerator_eq]
  simp

theorem crcFactor_natDegree : crcFactor.natDegree = 15 := by
  rw [crcFactor]
  compute_degree!

theorem crcFactor_monic : crcFactor.Monic := by
  rw [crcFactor]
  monicity!

/-! The order of `X` modulo the second factor. -/

section Order
variable {R : Type} [CommRing R] [CharP R 2] {x : R} (h : x^15 = x+1)
include h

/-- Squaring doubles the exponents, so the powers of two stay short. -/
theorem pow_128 : x^16 = x^2+x ∧ x^32 = x^4+x^2 ∧ x^64 = x^8+x^4 ∧ x^128 = x^8+x^2+x := by
  have h2 : (2 : R) = 0 := CharTwo.two_eq_zero
  have h16 : x^16 = x^2+x := by linear_combination x*h
  have h32 : x^32 = x^4+x^2 := by linear_combination (x^16+x^2+x)*h16+x^3*h2
  have h64 : x^64 = x^8+x^4 := by linear_combination (x^32+x^4+x^2)*h32+x^6*h2
  have h128 : x^128 = x^8+x^2+x := by linear_combination (x^64+x^8+x^4)*h64+h16+x^12*h2
  exact ⟨h16,h32,h64,h128⟩

theorem pow_1024 : x^512 = x^8+x^2 ∧ x^1024 = x^4+x^2+x := by
  have h2 : (2 : R) = 0 := CharTwo.two_eq_zero
  obtain ⟨h16,-,-,h128⟩ := pow_128 h
  have h256 : x^256 = x^4+x := by
    linear_combination (x^128+x^8+x^2+x)*h128+h16+(x^10+x^9+x^3+x^2)*h2
  have h512 : x^512 = x^8+x^2 := by linear_combination (x^256+x^4+x)*h256+x^5*h2
  have h1024 : x^1024 = x^4+x^2+x := by linear_combination (x^512+x^8+x^2)*h512+h16+x^10*h2
  exact ⟨h512,h1024⟩

theorem pow_32768 : x^4096 = x^8+x^4+x^2+x ∧ x^32768 = x := by
  have h2 : (2 : R) = 0 := CharTwo.two_eq_zero
  obtain ⟨h16,-,-,-⟩ := pow_128 h
  obtain ⟨-,h1024⟩ := pow_1024 h
  have h2048 : x^2048 = x^8+x^4+x^2 := by
    linear_combination (x^1024+x^4+x^2+x)*h1024+(x^6+x^5+x^3)*h2
  have h4096 : x^4096 = x^8+x^4+x^2+x := by
    linear_combination (x^2048+x^8+x^4+x^2)*h2048+h16+(x^12+x^10+x^6)*h2
  have h8192 : x^8192 = x^8+x^4+x := by
    linear_combination (x^4096+x^8+x^4+x^2+x)*h4096+h16+(x^12+x^10+x^9+x^6+x^5+x^3+x^2)*h2
  have h16384 : x^16384 = x^8+x := by
    linear_combination (x^8192+x^8+x^4+x)*h8192+h16+(x^12+x^9+x^5+x^2)*h2
  have h32768 : x^32768 = x := by
    linear_combination (x^16384+x^8+x)*h16384+h16+(x^9+x^2)*h2
  exact ⟨h4096,h32768⟩

/-- `x` is a unit, so one of the factors `x` can go. -/
theorem pow_32767 : x^32767 = 1 := by
  obtain ⟨-,h32768⟩ := pow_32768 h
  have hunit : x*(x^14-1) = 1 := by linear_combination h
  calc x^32767 = x^32768*(x^14-1) := by linear_combination -x^32767*hunit
    _ = 1 := by rw [h32768,hunit]

theorem pow_217 : x^217 = x^13+x^11+x^9+x^6+x^5+x^4+x^3+x^2+x+1 := by
  have h2 : (2 : R) = 0 := CharTwo.two_eq_zero
  obtain ⟨h16,-,h64,h128⟩ := pow_128 h
  have hshort : x^217 = (x^8+x^2+x)*(x^8+x^4)*(x^2+x)*x^9 := by
    rw [← h128,← h64,← h16]
    ring
  linear_combination hshort+(x^12+x^11+x^8+x^7+x^6+x^4+x^2+1)*h+(x^20+x^16+x^12+x^8+x^7)*h2

theorem pow_1057 : x^1057 = x^9+x^6+x^5+x^4 := by
  have h2 : (2 : R) = 0 := CharTwo.two_eq_zero
  obtain ⟨-,h32,-,-⟩ := pow_128 h
  obtain ⟨-,h1024⟩ := pow_1024 h
  have hshort : x^1057 = (x^4+x^2+x)*(x^4+x^2)*x := by
    rw [← h1024,← h32]
    ring
  linear_combination hshort+x^7*h2

theorem pow_4681 : x^4681 = x^12+x^10+x^9+x^5+x^4+x := by
  have h2 : (2 : R) = 0 := CharTwo.two_eq_zero
  obtain ⟨-,-,h64,-⟩ := pow_128 h
  obtain ⟨h512,-⟩ := pow_1024 h
  obtain ⟨h4096,-⟩ := pow_32768 h
  have hshort : x^4681 = (x^8+x^4+x^2+x)*(x^8+x^2)*(x^8+x^4)*x^9 := by
    rw [← h4096,← h512,← h64]
    ring
  linear_combination hshort+(x^18+x^11+x^10+x^8+x^7+x^6+x^5+x^3+x^2+x)*h+
    (x^29+x^27+x^23+x^19+x^11+x^8+x^7+x^6+x^3+x^2)*h2

end Order

theorem crcFactor_charP : CharP (AdjoinRoot crcFactor) 2 := by
  have hdegree : crcFactor.degree ≠ 0 := by
    rw [degree_eq_natDegree crcFactor_monic.ne_zero,crcFactor_natDegree]
    decide
  have := AdjoinRoot.nontrivial crcFactor hdegree
  exact charP_of_injective_ringHom (AdjoinRoot.of crcFactor).injective 2

theorem crcFactor_root : (AdjoinRoot.root crcFactor)^15 = AdjoinRoot.root crcFactor+1 := by
  have := crcFactor_charP
  have h2 : (2 : AdjoinRoot crcFactor) = 0 := CharTwo.two_eq_zero
  have h : AdjoinRoot.mk crcFactor (X^15+X+1) = 0 := AdjoinRoot.mk_self
  simp only [map_add,map_pow,map_one,AdjoinRoot.mk_X] at h
  linear_combination h-(AdjoinRoot.root crcFactor+1)*h2

theorem mk_ne_one {p : (ZMod 2)[X]} {n : Nat} (hp : p.natDegree = n) (hn : 0 < n ∧ n < 15) :
    AdjoinRoot.mk crcFactor p ≠ 1 := by
  rw [← map_one (AdjoinRoot.mk crcFactor),Ne,AdjoinRoot.mk_eq_mk]
  have hdegree : (p-1).natDegree = n := (natDegree_sub_C (a := 1)).trans hp
  refine crcFactor_monic.not_dvd_of_natDegree_lt ?_ ?_
  · intro hzero
    rw [hzero,natDegree_zero] at hdegree
    omega
  · rw [hdegree,crcFactor_natDegree]
    exact hn.2

/-- The second factor is primitive. -/
theorem crcFactor_order : orderOf (AdjoinRoot.root crcFactor) = 32767 := by
  have hroot := crcFactor_root
  have := crcFactor_charP
  refine orderOf_eq_of_pow_and_pow_div_prime (by omega) (pow_32767 hroot) fun q hq hdvd => ?_
  have hfactors : q = 7 ∨ q = 31 ∨ q = 151 := by
    rw [show 32767 = 7*(31*151) from rfl,hq.dvd_mul,hq.dvd_mul] at hdvd
    rcases hdvd with h | h | h
    · exact .inl ((Nat.prime_dvd_prime_iff_eq hq (by norm_num)).mp h)
    · exact .inr (.inl ((Nat.prime_dvd_prime_iff_eq hq (by norm_num)).mp h))
    · exact .inr (.inr ((Nat.prime_dvd_prime_iff_eq hq (by norm_num)).mp h))
  rcases hfactors with rfl | rfl | rfl
  · have h := mk_ne_one (p := X^12+X^10+X^9+X^5+X^4+X) (n := 12) (by compute_degree!) (by omega)
    simp only [map_add,map_pow,AdjoinRoot.mk_X] at h
    rw [show 32767/7 = 4681 from rfl,pow_4681 hroot]
    exact h
  · have h := mk_ne_one (p := X^9+X^6+X^5+X^4) (n := 9) (by compute_degree!) (by omega)
    simp only [map_add,map_pow,AdjoinRoot.mk_X] at h
    rw [show 32767/31 = 1057 from rfl,pow_1057 hroot]
    exact h
  · have h := mk_ne_one (p := X^13+X^11+X^9+X^6+X^5+X^4+X^3+X^2+X+1) (n := 13)
      (by compute_degree!) (by omega)
    simp only [map_add,map_pow,map_one,AdjoinRoot.mk_X] at h
    rw [show 32767/151 = 217 from rfl,pow_217 hroot]
    exact h

theorem dvd_of_crcGenerator_dvd {d : Nat} (h : crcGenerator ∣ X^d+1) : 32767 ∣ d := by
  have := crcFactor_charP
  have hdvd : crcFactor ∣ X^d+1 := (Dvd.intro_left _ crcGenerator_factors.symm).trans h
  rw [← AdjoinRoot.mk_eq_zero,map_add,map_pow,map_one,AdjoinRoot.mk_X] at hdvd
  rw [← crcFactor_order,orderOf_dvd_iff_pow_eq_one]
  exact CharTwo.add_eq_zero.mp hdvd

/-! The frames. -/

/-- The bits in which two frames differ, in transmission order: bytes in order, the least
significant bit first. -/
def flippedBits (frame corrupted : Mem Byte) (length : Nat) : Finset Nat :=
  differences (sequenceBit frame) (sequenceBit corrupted) (8*length)

/-- The errors on the line that a CRC of 16 bits is meant to detect. -/
inductive Corruption (frame corrupted : Mem Byte) (length : Nat) : Prop
  | odd (h : Odd (flippedBits frame corrupted length).card) : Corruption frame corrupted length
  | burst (start : Nat) (hne : (flippedBits frame corrupted length).Nonempty)
      (h : ∀ k ∈ flippedBits frame corrupted length, start ≤ k ∧ k < start+16) :
      Corruption frame corrupted length
  | double (hlen : length ≤ 256) (h : (flippedBits frame corrupted length).card = 2) :
      Corruption frame corrupted length

theorem not_dvd_of_card_two {errors : Finset Nat} {n : Nat} (hn : n ≤ 32767)
    (hin : ∀ k ∈ errors, k < n) (h : errors.card = 2) :
    ¬ crcGenerator ∣ errorPolynomial errors n := by
  obtain ⟨i,j,hij,rfl⟩ : ∃ i j, i < j ∧ errors = {i,j} := by
    obtain ⟨i,j,hij,rfl⟩ := Finset.card_eq_two.mp h
    rcases Nat.lt_or_gt_of_ne hij with hlt | hgt
    · exact ⟨i,j,hlt,rfl⟩
    · exact ⟨j,i,hgt,Finset.pair_comm i j⟩
  have hj := hin j (by simp)
  refine not_dvd_of_pair crcGenerator_constant hij hj fun hdvd => ?_
  have := Nat.le_of_dvd (by omega) (dvd_of_crcGenerator_dvd hdvd)
  omega

theorem Corruption.not_dvd {frame corrupted : Mem Byte} {length : Nat}
    (h : Corruption frame corrupted length) :
    ¬ crcGenerator ∣ errorPolynomial (flippedBits frame corrupted length) (8*length) := by
  have hin : ∀ k ∈ flippedBits frame corrupted length, k < 8*length := fun k hk =>
    Finset.mem_range.mp (Finset.mem_filter.mp hk).1
  cases h with
  | odd hodd => exact not_dvd_of_odd crcGenerator_odd hodd
  | burst start hne hwindow =>
    have hdegree : crcGenerator.natDegree = 16 := generator_natDegree 0xA001#16
    refine not_dvd_of_window start crcGenerator_constant hne hin fun k hk => ?_
    rw [hdegree]
    exact hwindow k hk
  | double hlen hcard => exact not_dvd_of_card_two (by omega) hin hcard

theorem mbCrc16_corrupted {frame corrupted : Mem Byte} {length : Nat}
    (hpasses : mbCrc16 frame length = 0#16) (h : Corruption frame corrupted length) :
    mbCrc16 corrupted length ≠ 0#16 := by
  rw [mbCrc16_eq_digest] at hpasses ⊢
  intro hcorrupted
  exact h.not_dvd (generator_dvd_errors 0xA001#16 crcGenerator_constant (by omega) 0xFFFF#16
    hpasses hcorrupted)

def DetectsCorruption (passes : Mem Byte → Nat → Prop) : Prop :=
  ∀ (frame corrupted : Mem Byte) (length : Nat), passes frame length →
    Corruption frame corrupted length → ¬ passes corrupted length

/-- Both tests of the code: the residue of the master, and the comparison of the slave. -/
theorem crcTests_detectCorruption :
    DetectsCorruption (fun m length => mbCrc16 m length = 0#16) ∧
    DetectsCorruption (fun m length => 2 ≤ length ∧ crcMatches m length = true) := by
  refine ⟨fun frame corrupted length hpasses h => mbCrc16_corrupted hpasses h,?_⟩
  rintro frame corrupted length ⟨hlength,hpasses⟩ h ⟨-,hcorrupted⟩
  obtain ⟨n,rfl⟩ := Nat.exists_eq_add_of_le' hlength
  rw [crcMatches_iff,← mbCrc16_eq_zero_iff] at hpasses hcorrupted
  exact mbCrc16_corrupted hpasses h hcorrupted

/-! What the two ends of the line make of a corrupted frame. -/

theorem RtuFrame.isIntact_corrupted {f : RtuFrame} {corrupted : Mem Byte}
    (hi : f.isIntact = true) (h : Corruption f.request corrupted f.len) :
    RtuFrame.isIntact { f with request := corrupted } = false := by
  simp only [isIntact,decide_eq_true_eq] at hi
  obtain ⟨hleast,hmost,hpasses⟩ := hi
  obtain ⟨n,hn⟩ := Nat.exists_eq_add_of_le' (show 2 ≤ f.len by omega)
  rw [hn,crcMatches_iff,← mbCrc16_eq_zero_iff,← hn] at hpasses
  have hfails := mbCrc16_corrupted hpasses h
  rw [hn,Ne,mbCrc16_eq_zero_iff,← crcMatches_iff,← hn] at hfails
  simp only [isIntact,decide_eq_false_iff_not]
  exact fun hintact => hfails hintact.2.2

theorem rtuStep_corrupted (cfg : Platform) {slaveAddress : Byte} {s : Slave} {f : RtuFrame}
    {corrupted : Mem Byte} (hrange : 1 ≤ slaveAddress.toNat ∧ slaveAddress.toNat ≤ 247)
    (hi : f.isIntact = true) (h : Corruption f.request corrupted f.len) :
    (rtuStep cfg slaveAddress s { f with request := corrupted }).1 = .noResponse ∧
      (rtuStep cfg slaveAddress s { f with request := corrupted }).2.server = s.server := by
  obtain ⟨hresult,hserver,-⟩ := rtuStep_unreached cfg (s := s) hrange
    (.inl (RtuFrame.isIntact_corrupted hi h))
  exact ⟨hresult,hserver⟩

theorem checkResponse_corrupted {request : Request} {original response corrupted : Mem Byte}
    {originalLength length : Nat} (hlength : 5 ≤ length ∧ length ≤ 256)
    (hpasses : mbCrc16 response length = 0#16) (h : Corruption response corrupted length) :
    checkResponse request original originalLength corrupted length = reject .errorCrc := by
  rw [checkResponse,if_neg (by omega),if_pos (mbCrc16_corrupted hpasses h)]

end ModbusStack
