import Mathlib

/-! Binary words as polynomials over the field of two elements, and error detection by codes
whose words are the multiples of a generator. -/
set_option autoImplicit false

namespace PolynomialCode
open Polynomial

noncomputable def word (bits : Nat → Bool) : Nat → (ZMod 2)[X]
  | 0 => 0
  | n+1 => X*word bits n+if bits n then 1 else 0

@[simp] theorem word_zero (bits : Nat → Bool) : word bits 0 = 0 := rfl

theorem word_succ (bits : Nat → Bool) (n : Nat) :
    word bits (n+1) = X*word bits n+if bits n then 1 else 0 := rfl

theorem word_congr {bits bits' : Nat → Bool} (n : Nat) (h : ∀ k, k < n → bits k = bits' k) :
    word bits n = word bits' n := by
  induction n with
  | zero => rfl
  | succ n ih => rw [word_succ,word_succ,ih fun k hk => h k (by omega),h n (by omega)]

theorem word_append (bits : Nat → Bool) (n k : Nat) :
    word bits (n+k) = X^k*word bits n+word (fun i => bits (n+i)) k := by
  induction k with
  | zero => simp
  | succ k ih =>
    rw [← Nat.add_assoc,word_succ,ih,word_succ]
    ring

theorem word_xor (bits bits' : Nat → Bool) (n : Nat) :
    word (fun k => bits k ^^ bits' k) n = word bits n+word bits' n := by
  induction n with
  | zero => simp
  | succ n ih =>
    have hbit : (if bits n ^^ bits' n then 1 else 0 : (ZMod 2)[X]) =
        (if bits n then 1 else 0)+if bits' n then 1 else 0 := by
      cases bits n <;> cases bits' n <;> simp [CharTwo.add_self_eq_zero]
    rw [word_succ,word_succ,word_succ,ih,hbit]
    ring

theorem word_false (n : Nat) : word (fun _ => false) n = 0 := by
  induction n with
  | zero => rfl
  | succ n ih => simp [word_succ,ih]

theorem word_eq_sum (bits : Nat → Bool) (n : Nat) :
    word bits n = ∑ k ∈ (Finset.range n).filter (fun k => bits k = true), X^(n-1-k) := by
  rw [Finset.sum_filter]
  induction n with
  | zero => simp
  | succ n ih =>
    rw [word_succ,ih,Finset.sum_range_succ,Finset.mul_sum]
    congr 1
    · refine Finset.sum_congr rfl fun k hk => ?_
      have hk := Finset.mem_range.mp hk
      rw [show n+1-1-k = (n-1-k)+1 by omega,pow_succ']
      split <;> simp
    · simp

theorem word_degree_lt (bits : Nat → Bool) (n : Nat) : (word bits n).degree < n := by
  rw [word_eq_sum]
  refine (degree_sum_le _ _).trans_lt ?_
  rw [Finset.sup_lt_iff (by exact_mod_cast WithBot.bot_lt_coe n)]
  intro k hk
  have hk := Finset.mem_range.mp (Finset.mem_filter.mp hk).1
  rw [degree_X_pow]
  exact_mod_cast (by omega : n-1-k < n)

theorem word_eq_zero {bits : Nat → Bool} {n : Nat} (h : word bits n = 0) :
    ∀ k, k < n → bits k = false := by
  intro k hk
  have hcoeff := congrArg (fun p : (ZMod 2)[X] => p.coeff (n-1-k)) h
  simp only [word_eq_sum,finsetSum_coeff,coeff_X_pow,coeff_zero] at hcoeff
  rw [Finset.sum_filter] at hcoeff
  by_contra hbit
  rw [Finset.sum_eq_single k] at hcoeff
  · simp [hbit] at hcoeff
  · intro j hj hjk
    have hj := Finset.mem_range.mp hj
    rw [if_neg (show ¬ n-1-k = n-1-j by omega),ite_self]
  · intro hout
    exact absurd (Finset.mem_range.mpr hk) hout

/-! Which errors a generator detects. -/

section Errors
variable {g : (ZMod 2)[X]} {n : Nat}

def differences (bits bits' : Nat → Bool) (n : Nat) : Finset Nat :=
  (Finset.range n).filter fun k => bits k ≠ bits' k

noncomputable def errorPolynomial (errors : Finset Nat) (n : Nat) : (ZMod 2)[X] :=
  ∑ k ∈ errors, X^(n-1-k)

theorem word_add_word (bits bits' : Nat → Bool) (n : Nat) :
    word bits n+word bits' n = errorPolynomial (differences bits bits' n) n := by
  rw [← word_xor,word_eq_sum,errorPolynomial,differences]
  refine Finset.sum_congr (Finset.filter_congr fun k _ => ?_) fun _ _ => rfl
  rw [bne_iff_ne]

theorem isCoprime_X_pow (hg : g.coeff 0 ≠ 0) (n : Nat) : IsCoprime g (X^n) := by
  have hX : IsCoprime X g := irreducible_X.coprime_iff_not_dvd.mpr fun h => hg (X_dvd_iff.mp h)
  exact hX.symm.pow_right

theorem not_dvd_of_odd {errors : Finset Nat} (hg : g.eval 1 = 0) (hodd : Odd errors.card) :
    ¬ g ∣ errorPolynomial errors n := by
  rintro ⟨q,hq⟩
  have hone := congrArg (eval 1) hq
  simp only [errorPolynomial,eval_finsetSum,eval_pow,eval_X,one_pow,Finset.sum_const,
    nsmul_eq_mul,mul_one,eval_mul,hg,zero_mul] at hone
  rw [ZMod.natCast_eq_zero_iff_even] at hone
  exact Nat.not_even_iff_odd.mpr hodd hone

/-- Errors within a window no longer than the generator's degree. -/
theorem not_dvd_of_window {errors : Finset Nat} (start : Nat) (hg : g.coeff 0 ≠ 0)
    (hne : errors.Nonempty) (hin : ∀ k ∈ errors, k < n)
    (hwindow : ∀ k ∈ errors, start ≤ k ∧ k < start+g.natDegree) :
    ¬ g ∣ errorPolynomial errors n := by
  have hlast := errors.max'_mem hne
  generalize hmax : errors.max' hne = last at hlast
  have hle : ∀ k ∈ errors, k ≤ last := fun k hk => hmax ▸ errors.le_max' k hk
  let burst : (ZMod 2)[X] := ∑ k ∈ errors, X^(last-k)
  have hfactor : errorPolynomial errors n = X^(n-1-last)*burst := by
    rw [errorPolynomial,Finset.mul_sum]
    refine Finset.sum_congr rfl fun k hk => ?_
    have h1 := hle k hk
    have h2 := hin last hlast
    rw [← pow_add,show n-1-last+(last-k) = n-1-k by omega]
  have hburst : burst.eval 0 = 1 := by
    simp only [burst,eval_finsetSum,eval_pow,eval_X]
    rw [Finset.sum_eq_single last]
    · simp
    · intro k hk hkl
      have := hle k hk
      exact zero_pow (by omega)
    · exact fun hout => absurd hlast hout
  have hsize : burst.natDegree < g.natDegree := by
    have h1 := hwindow last hlast
    have h2 : burst.natDegree ≤ last-start := by
      refine natDegree_sum_le_of_forall_le _ _ fun k hk => ?_
      have h3 := hwindow k hk
      rw [natDegree_X_pow]
      omega
    omega
  have hzero : burst ≠ 0 := by
    rintro h
    rw [h] at hburst
    simp at hburst
  rw [hfactor]
  intro hdvd
  exact not_dvd_of_natDegree_lt hzero hsize ((isCoprime_X_pow hg _).dvd_of_dvd_mul_left hdvd)

theorem not_dvd_of_pair {i j : Nat} (hg : g.coeff 0 ≠ 0) (hij : i < j) (hj : j < n)
    (horder : ¬ g ∣ X^(j-i)+1) : ¬ g ∣ errorPolynomial {i,j} n := by
  have hfactor : errorPolynomial {i,j} n = X^(n-1-j)*(X^(j-i)+1) := by
    rw [errorPolynomial,Finset.sum_pair (by omega),mul_add,← pow_add,mul_one,
      show n-1-j+(j-i) = n-1-i by omega]
  rw [hfactor]
  intro hdvd
  exact horder ((isCoprime_X_pow hg _).dvd_of_dvd_mul_left hdvd)

end Errors

/-! Registers that shift towards their low end and mix a mask in. The register is a word of its
own, low bit first. -/

section Register
variable {w : Nat} (mask : BitVec w)

def shift (x : BitVec w) : BitVec w := (x >>> 1) ^^^ if x.getLsbD 0 then mask else 0#w

def shifts : Nat → BitVec w → BitVec w
  | 0, x => x
  | n+1, x => shifts n (shift mask x)

noncomputable def value (x : BitVec w) : (ZMod 2)[X] := word x.getLsbD w

/-- The polynomial that the mask is the lower part of. -/
noncomputable def generator : (ZMod 2)[X] := X^w+value mask

theorem value_xor (x y : BitVec w) : value (x ^^^ y) = value x+value y := by
  rw [value,value,value,← word_xor]
  exact word_congr w fun k _ => BitVec.getLsbD_xor

@[simp] theorem value_zero : value 0#w = 0 :=
  (word_congr w fun _ _ => BitVec.getLsbD_zero).trans (word_false w)

theorem value_degree_lt (x : BitVec w) : (value x).degree < w := word_degree_lt _ w

theorem value_eq_zero {x : BitVec w} (h : value x = 0) : x = 0#w := by
  apply BitVec.eq_of_getLsbD_eq
  intro i hi
  rw [word_eq_zero h i hi,BitVec.getLsbD_zero]

theorem generator_monic : (generator mask).Monic :=
  monic_X_pow_add (value_degree_lt mask)

theorem generator_degree : (generator mask).degree = w := by
  rw [generator,degree_add_eq_left_of_degree_lt,degree_X_pow]
  rw [degree_X_pow]
  exact value_degree_lt mask

theorem generator_natDegree : (generator mask).natDegree = w :=
  natDegree_eq_of_degree_eq_some (generator_degree mask)

/-- Shifting out the low bit multiplies by `X`, but for the leading term. -/
theorem value_ushiftRight (x : BitVec w) :
    value (x >>> 1) = X*value x+if x.getLsbD 0 then X^w else 0 := by
  have hsplit := word_append x.getLsbD 1 w
  have htop : x.getLsbD w = false := BitVec.getLsbD_of_ge x w le_rfl
  rw [Nat.add_comm 1 w,word_succ,htop,word_succ,word_zero] at hsplit
  have hlow : (X : (ZMod 2)[X])^w*(X*0+if x.getLsbD 0 then 1 else 0) =
      if x.getLsbD 0 then X^w else 0 := by
    split <;> simp
  rw [hlow] at hsplit
  have hshift : value (x >>> 1) = word (fun i => x.getLsbD (1+i)) w :=
    word_congr w fun k _ => BitVec.getLsbD_ushiftRight ..
  have htwice : ∀ p : (ZMod 2)[X], p+p = 0 := CharTwo.add_self_eq_zero
  rw [hshift,value]
  have hX : X*word x.getLsbD w = (if x.getLsbD 0 then X^w else 0)+
      word (fun i => x.getLsbD (1+i)) w := by simpa using hsplit
  rw [hX,add_comm _ (word _ w),add_assoc,htwice,add_zero]

theorem value_shift (x : BitVec w) :
    value (shift mask x) = X*value x+if x.getLsbD 0 then generator mask else 0 := by
  rw [shift,value_xor,value_ushiftRight,generator]
  split
  · ring
  · simp

theorem value_setWidth {v : Nat} (hv : v ≤ w) (b : BitVec v) :
    value (b.setWidth w) = X^(w-v)*word b.getLsbD v := by
  obtain ⟨k,rfl⟩ := Nat.exists_eq_add_of_le hv
  have hlow : word (b.setWidth (v+k)).getLsbD v = word b.getLsbD v := by
    refine word_congr v fun i hi => ?_
    rw [BitVec.getLsbD_setWidth]
    simp
    omega
  have hhigh : word (fun i => (b.setWidth (v+k)).getLsbD (v+i)) k = 0 := by
    rw [← word_false k]
    refine word_congr k fun i hi => ?_
    rw [BitVec.getLsbD_setWidth,BitVec.getLsbD_of_ge b _ (by omega),Bool.and_false]
  rw [value,word_append,hlow,hhigh,add_zero,Nat.add_sub_cancel_left]

/-! Data in symbols of `v` bits, each folded into the register and shifted out. -/

variable {v : Nat}

def absorb (x : BitVec w) (symbol : BitVec v) : BitVec w :=
  shifts mask v (x ^^^ symbol.setWidth w)

def digest (init : BitVec w) (data : Nat → BitVec v) : Nat → BitVec w
  | 0 => init
  | n+1 => absorb mask (digest init data n) (data n)

/-- The data as one sequence of bits, the low bit of each symbol first. -/
def sequenceBit (data : Nat → BitVec v) (k : Nat) : Bool := (data (k/v)).getLsbD (k%v)

theorem word_sequenceBit_succ (data : Nat → BitVec v) (n : Nat) :
    word (sequenceBit data) (v*(n+1)) =
      X^v*word (sequenceBit data) (v*n)+word (data n).getLsbD v := by
  rw [Nat.mul_succ,word_append]
  congr 1
  refine word_congr v fun k hk => ?_
  rw [sequenceBit,Nat.mul_add_div (by omega),Nat.div_eq_of_lt hk,Nat.add_zero,Nat.mul_add_mod,
    Nat.mod_eq_of_lt hk]

theorem mk_shift (x : BitVec w) : AdjoinRoot.mk (generator mask) (value (shift mask x)) =
    AdjoinRoot.root (generator mask)*AdjoinRoot.mk (generator mask) (value x) := by
  rw [value_shift,map_add,map_mul,AdjoinRoot.mk_X]
  split <;> simp

theorem mk_shifts (n : Nat) (x : BitVec w) :
    AdjoinRoot.mk (generator mask) (value (shifts mask n x)) =
      AdjoinRoot.root (generator mask)^n*AdjoinRoot.mk (generator mask) (value x) := by
  induction n generalizing x with
  | zero => simp [shifts]
  | succ n ih =>
    rw [shifts,ih,mk_shift]
    ring

/-- The run lemma: modulo the generator the register holds the data moved up by its width. -/
theorem mk_digest (hv : v ≤ w) (init : BitVec w) (data : Nat → BitVec v) (n : Nat) :
    AdjoinRoot.mk (generator mask) (value (digest mask init data n)) =
      AdjoinRoot.mk (generator mask) (X^(v*n)*value init+X^w*word (sequenceBit data) (v*n)) := by
  induction n with
  | zero => simp [digest]
  | succ n ih =>
    have hwidth : (X : (ZMod 2)[X])^v*X^(w-v) = X^w := by
      rw [← pow_add,Nat.add_sub_cancel' hv]
    have hnext : X^(v*(n+1))*value init+X^w*word (sequenceBit data) (v*(n+1)) =
        X^v*(X^(v*n)*value init+X^w*word (sequenceBit data) (v*n))+X^w*word (data n).getLsbD v := by
      rw [word_sequenceBit_succ,Nat.mul_succ,pow_add]
      ring
    rw [digest,absorb,mk_shifts,value_xor,value_setWidth hv,map_add,ih,hnext,← hwidth]
    simp only [map_add,map_mul,map_pow,AdjoinRoot.mk_X]
    ring

/-- The register is the remainder of a polynomial division. -/
theorem digest_eq_remainder (hv : v ≤ w) (init : BitVec w) (data : Nat → BitVec v) (n : Nat) :
    value (digest mask init data n) =
      (X^(v*n)*value init+X^w*word (sequenceBit data) (v*n)) %ₘ generator mask := by
  have hmk := mk_digest mask hv init data n
  rw [AdjoinRoot.mk_eq_mk] at hmk
  rw [← modByMonic_eq_of_dvd_sub (generator_monic mask) hmk,
    (modByMonic_eq_self_iff (generator_monic mask)).mpr]
  rw [generator_degree]
  exact value_degree_lt _

theorem digest_eq_zero_iff (hv : v ≤ w) (init : BitVec w) (data : Nat → BitVec v) (n : Nat) :
    digest mask init data n = 0#w ↔
      generator mask ∣ X^(v*n)*value init+X^w*word (sequenceBit data) (v*n) := by
  rw [← modByMonic_eq_zero_iff_dvd (generator_monic mask),← digest_eq_remainder mask hv]
  constructor
  · intro h
    rw [h,value_zero]
  · exact value_eq_zero

/-- Where two runs of a length both clear the register, the generator divides the errors. -/
theorem generator_dvd_errors (hg : (generator mask).coeff 0 ≠ 0) (hv : v ≤ w) (init : BitVec w)
    {data data' : Nat → BitVec v} {n : Nat} (h : digest mask init data n = 0#w)
    (h' : digest mask init data' n = 0#w) :
    generator mask ∣
      errorPolynomial (differences (sequenceBit data) (sequenceBit data') (v*n)) (v*n) := by
  rw [digest_eq_zero_iff mask hv] at h h'
  have hsum := dvd_add h h'
  have htwice : X^(v*n)*value init+X^(v*n)*value init = 0 := CharTwo.add_self_eq_zero _
  rw [add_add_add_comm,htwice,zero_add,← mul_add,word_add_word] at hsum
  exact (isCoprime_X_pow hg w).dvd_of_dvd_mul_left hsum

end Register

end PolynomialCode
