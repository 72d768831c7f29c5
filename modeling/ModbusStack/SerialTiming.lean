import ModbusStack.RtuReceiver
import ModbusStack.TickCount

/-! `mbrtu_calculate_timing` against exact durations. Times are in microseconds, and a tick is
50 of them. -/
set_option autoImplicit false

namespace ModbusStack
open ByteMemory TickCount

section Durations
variable (K : Type) [Field K] (baud bits : ℕ)

def characterTime : K := bits*1000000/baud

def silenceT15 : K := if 19200 < baud then 750 else 15/10*characterTime K baud bits

def silenceT35 : K := if 19200 < baud then 1750 else 35/10*characterTime K baud bits

def deadlineT15 : K :=
  if 19200 < baud then 750+characterTime K baud bits else 25/10*characterTime K baud bits

def deadlineT35 : K :=
  if 19200 < baud then 1750+characterTime K baud bits else 45/10*characterTime K baud bits

end Durations

def characterBits (dataBits parityBits stopBits : Byte) : ℕ :=
  1+dataBits.toNat+parityBits.toNat+stopBits.toNat

structure SerialFormat (dataBits parityBits stopBits : Byte) : Prop where
  data : 5 ≤ dataBits.toNat ∧ dataBits.toNat ≤ 9
  parity : parityBits.toNat ≤ 1
  stop : 1 ≤ stopBits.toNat ∧ stopBits.toNat ≤ 2

def timingDivisions (baud bits : ℕ) : List (ℕ × ℕ) :=
  (bits*1000000,baud*50) ::
    if 19200 < baud then
      [(750*baud+bits*1000000,baud*50),(1750*baud+bits*1000000,baud*50)]
    else
      [(15*bits*1000000,10*baud*50),(35*bits*1000000,10*baud*50),(25*bits*1000000,10*baud*50),
        (45*bits*1000000,10*baud*50)]

/-- Every field is its duration rounded up to whole ticks. -/
structure ExactTicks (K : Type) [Field K] [LinearOrder K] [IsStrictOrderedRing K] [FloorRing K]
    (baud bits : ℕ) (timing : RtuTiming) : Prop where
  character : timing.characterTicks.toNat = ⌈characterTime K baud bits/50⌉₊
  t15 : timing.t15Ticks.toNat = ⌈silenceT15 K baud bits/50⌉₊
  t35 : timing.t35Ticks.toNat = ⌈silenceT35 K baud bits/50⌉₊
  byteCompleteT15 : timing.byteCompleteT15Ticks.toNat = ⌈deadlineT15 K baud bits/50⌉₊
  byteCompleteT35 : timing.byteCompleteT35Ticks.toNat = ⌈deadlineT35 K baud bits/50⌉₊

structure OrderedTicks (timing : RtuTiming) : Prop where
  character : 0 < timing.characterTicks.toNat
  t15 : 0 < timing.t15Ticks.toNat
  byteCompleteT15 : 0 < timing.byteCompleteT15Ticks.toNat
  t15_lt_t35 : timing.t15Ticks.toNat < timing.t35Ticks.toNat
  byteComplete_lt : timing.byteCompleteT15Ticks.toNat < timing.byteCompleteT35Ticks.toNat

theorem ceilDivU64_toNat {n d : BitVec 64} (hd : 0 < d.toNat) (hsum : n.toNat+d.toNat < 2^64)
    (hfits : (n.toNat+d.toNat-1)/d.toNat < 2^32) :
    (ceilDivU64 n d).toNat = (n.toNat+d.toNat-1)/d.toNat := by
  have hsub : (n+d-1).toNat = n.toNat+d.toNat-1 := by
    have hadd : (n+d).toNat = n.toNat+d.toNat := by
      rw [BitVec.toNat_add,Nat.mod_eq_of_lt hsum]
    have hone : (1 : BitVec 64).toNat = 1 := rfl
    rw [BitVec.toNat_sub_of_le (by rw [BitVec.le_def,hadd,hone]; omega),hadd,hone]
  rw [ceilDivU64,BitVec.toNat_setWidth,BitVec.toNat_udiv,hsub,Nat.mod_eq_of_lt hfits]

def exactTiming (baud bits : ℕ) : RtuTiming :=
  let ticks := fun n d : ℕ => BitVec.ofNat 32 ((n+d-1)/d)
  if 19200 < baud then
    ⟨ticks (bits*1000000) (baud*50),15,35,ticks (750*baud+bits*1000000) (baud*50),
      ticks (1750*baud+bits*1000000) (baud*50)⟩
  else
    ⟨ticks (bits*1000000) (baud*50),ticks (15*bits*1000000) (10*baud*50),
      ticks (35*bits*1000000) (10*baud*50),ticks (25*bits*1000000) (10*baud*50),
      ticks (45*bits*1000000) (10*baud*50)⟩

section Ranges
variable {baud bits : ℕ}

/-- No sum wraps at 64 bits and no quotient at 32. -/
theorem timingDivisions_fit (hbaud : 0 < baud) (hmax : baud < 2^32) (hbits : bits ≤ 13)
    (n d : ℕ) (h : (n,d) ∈ timingDivisions baud bits) :
    0 < d ∧ n+d < 2^64 ∧ (n+d-1)/d < 2^32 := by
  have hquotient : ∀ n d : ℕ, 0 < d → n ≤ 4294967294*d → (n+d-1)/d < 2^32 := by
    intro n d hd hn
    rw [Nat.div_lt_iff_lt_mul hd]
    omega
  simp only [timingDivisions,List.mem_cons,Prod.mk.injEq] at h
  rcases h with ⟨rfl,rfl⟩ | h
  · exact ⟨by omega,by omega,hquotient _ _ (by omega) (by omega)⟩
  · split at h
    · simp only [List.mem_cons,Prod.mk.injEq,List.not_mem_nil,or_false] at h
      rcases h with ⟨rfl,rfl⟩ | ⟨rfl,rfl⟩ <;>
        exact ⟨by omega,by omega,hquotient _ _ (by omega) (by omega)⟩
    · simp only [List.mem_cons,Prod.mk.injEq,List.not_mem_nil,or_false] at h
      rcases h with ⟨rfl,rfl⟩ | ⟨rfl,rfl⟩ | ⟨rfl,rfl⟩ | ⟨rfl,rfl⟩ <;>
        exact ⟨by omega,by omega,hquotient _ _ (by omega) (by omega)⟩

theorem ceilDivU64_eq (hbaud : 0 < baud) (hmax : baud < 2^32) (hbits : bits ≤ 13)
    {a b : BitVec 64} {n d : ℕ} (ha : a.toNat = n) (hb : b.toNat = d)
    (h : (n,d) ∈ timingDivisions baud bits) :
    ceilDivU64 a b = BitVec.ofNat 32 ((n+d-1)/d) := by
  obtain ⟨hd,hsum,hfits⟩ := timingDivisions_fit hbaud hmax hbits n d h
  subst ha hb
  apply BitVec.eq_of_toNat_eq
  rw [ceilDivU64_toNat hd hsum hfits,BitVec.toNat_ofNat,Nat.mod_eq_of_lt hfits]

theorem ceilDiv_lt {n n' d : ℕ} (hd : 0 < d) (h : n+d ≤ n') : (n+d-1)/d < (n'+d-1)/d := by
  have hstep : (n+d-1)/d+1 = (n+d-1+d)/d := (Nat.add_div_right _ hd).symm
  have hle : (n+d-1+d)/d ≤ (n'+d-1)/d := Nat.div_le_div_right (by omega)
  omega

theorem ceilDiv_pos {n d : ℕ} (hd : 0 < d) (hn : 0 < n) : 0 < (n+d-1)/d :=
  Nat.div_pos (by omega) hd

theorem ofNat_ticks (hbaud : 0 < baud) (hmax : baud < 2^32) (hbits : bits ≤ 13) {n d : ℕ}
    (h : (n,d) ∈ timingDivisions baud bits) :
    (BitVec.ofNat 32 ((n+d-1)/d)).toNat = (n+d-1)/d := by
  rw [BitVec.toNat_ofNat]
  exact Nat.mod_eq_of_lt (timingDivisions_fit hbaud hmax hbits n d h).2.2

theorem exactTiming_ordered (hbaud : 0 < baud) (hmax : baud < 2^32) (hbits : bits ≤ 13)
    (hmin : 7 ≤ bits) : OrderedTicks (exactTiming baud bits) := by
  have hticks : ∀ n d, (n,d) ∈ timingDivisions baud bits →
      (BitVec.ofNat 32 ((n+d-1)/d)).toNat = (n+d-1)/d :=
    fun n d h => ofNat_ticks hbaud hmax hbits h
  unfold exactTiming
  by_cases hfast : 19200 < baud
  · simp only [hfast,if_true]
    refine ⟨?_,Nat.zero_lt_succ 14,?_,?_,?_⟩
    · rw [hticks _ _ (by simp [timingDivisions])]
      exact ceilDiv_pos (by omega) (by omega)
    · rw [hticks _ _ (by simp [timingDivisions,hfast])]
      exact ceilDiv_pos (by omega) (by omega)
    · show 15 < 35
      omega
    · rw [hticks _ _ (by simp [timingDivisions,hfast]),
        hticks _ _ (by simp [timingDivisions,hfast])]
      exact ceilDiv_lt (by omega) (by omega)
  · simp only [hfast,if_false]
    refine ⟨?_,?_,?_,?_,?_⟩
    · rw [hticks _ _ (by simp [timingDivisions])]
      exact ceilDiv_pos (by omega) (by omega)
    · rw [hticks _ _ (by simp [timingDivisions,hfast])]
      exact ceilDiv_pos (by omega) (by omega)
    · rw [hticks _ _ (by simp [timingDivisions,hfast])]
      exact ceilDiv_pos (by omega) (by omega)
    · rw [hticks _ _ (by simp [timingDivisions,hfast]),
        hticks _ _ (by simp [timingDivisions,hfast])]
      exact ceilDiv_lt (by omega) (by omega)
    · rw [hticks _ _ (by simp [timingDivisions,hfast]),
        hticks _ _ (by simp [timingDivisions,hfast])]
      exact ceilDiv_lt (by omega) (by omega)

theorem exactTiming_exact (K : Type) [Field K] [LinearOrder K] [IsStrictOrderedRing K]
    [FloorRing K] (hbaud : 0 < baud) (hmax : baud < 2^32) (hbits : bits ≤ 13) :
    ExactTicks K baud bits (exactTiming baud bits) := by
  have hb : (baud : K) ≠ 0 := by exact_mod_cast hbaud.ne'
  have hticks : ∀ (n d : ℕ) (duration : K), (n,d) ∈ timingDivisions baud bits →
      (n : K)/d = duration/50 →
      (BitVec.ofNat 32 ((n+d-1)/d)).toNat = ⌈duration/50⌉₊ := by
    intro n d duration h hquotient
    have hd := (timingDivisions_fit hbaud hmax hbits n d h).1
    rw [ofNat_ticks hbaud hmax hbits h,ceilDiv_eq_natCeil n d hd (K := K),hquotient]
  unfold exactTiming
  by_cases hfast : 19200 < baud
  · simp only [hfast,if_true]
    refine ⟨?_,?_,?_,?_,?_⟩
    · apply hticks _ _ _ (by simp [timingDivisions])
      simp only [characterTime]
      push_cast
      field_simp
    · simp only [silenceT15,hfast,if_true]
      norm_num
      rfl
    · simp only [silenceT35,hfast,if_true]
      norm_num
      rfl
    · apply hticks _ _ _ (by simp [timingDivisions,hfast])
      simp only [deadlineT15,hfast,if_true,characterTime]
      push_cast
      field_simp
    · apply hticks _ _ _ (by simp [timingDivisions,hfast])
      simp only [deadlineT35,hfast,if_true,characterTime]
      push_cast
      field_simp
  · simp only [hfast,if_false]
    refine ⟨?_,?_,?_,?_,?_⟩
    · apply hticks _ _ _ (by simp [timingDivisions])
      simp only [characterTime]
      push_cast
      field_simp
    · apply hticks _ _ _ (by simp [timingDivisions,hfast])
      simp only [silenceT15,hfast,if_false,characterTime]
      push_cast
      field_simp
    · apply hticks _ _ _ (by simp [timingDivisions,hfast])
      simp only [silenceT35,hfast,if_false,characterTime]
      push_cast
      field_simp
    · apply hticks _ _ _ (by simp [timingDivisions,hfast])
      simp only [deadlineT15,hfast,if_false,characterTime]
      push_cast
      field_simp
    · apply hticks _ _ _ (by simp [timingDivisions,hfast])
      simp only [deadlineT35,hfast,if_false,characterTime]
      push_cast
      field_simp

end Ranges

/-- The bits of a character and the rate as the source widens them. -/
def wideBits (dataBits parityBits stopBits : Byte) : BitVec 64 :=
  1+dataBits.setWidth 64+parityBits.setWidth 64+stopBits.setWidth 64

section Wide
variable (b64 c64 : BitVec 64)

/-- The five fields as the source computes them. -/
def wideTiming (baud : ℕ) : RtuTiming :=
  if 19200 < baud then
    ⟨ceilDivU64 (c64*1000000) (b64*50),15,35,ceilDivU64 (750*b64+c64*1000000) (b64*50),
      ceilDivU64 (1750*b64+c64*1000000) (b64*50)⟩
  else
    ⟨ceilDivU64 (c64*1000000) (b64*50),ceilDivU64 (15*c64*1000000) (10*b64*50),
      ceilDivU64 (35*c64*1000000) (10*b64*50),ceilDivU64 (25*c64*1000000) (10*b64*50),
      ceilDivU64 (45*c64*1000000) (10*b64*50)⟩

/-- The operands of every product that the source forms. -/
def wideProducts : List (BitVec 64 × BitVec 64) :=
  [(c64,1000000),(b64,50),(750,b64),(1750,b64),(10,b64),(10*b64,50),(15,c64),(15*c64,1000000),
    (35,c64),(35*c64,1000000),(25,c64),(25*c64,1000000),(45,c64),(45*c64,1000000)]

def wideSums : List (BitVec 64 × BitVec 64) :=
  [(750*b64,c64*1000000),(1750*b64,c64*1000000)]

def wideDivisions : List (BitVec 64 × BitVec 64) :=
  [(c64*1000000,b64*50),(750*b64+c64*1000000,b64*50),(1750*b64+c64*1000000,b64*50),
    (15*c64*1000000,10*b64*50),(35*c64*1000000,10*b64*50),(25*c64*1000000,10*b64*50),
    (45*c64*1000000,10*b64*50)]

/-- No 64-bit operation wraps, and the 32-bit cast drops nothing. -/
structure NoOverflow : Prop where
  products : ∀ x y, (x,y) ∈ wideProducts b64 c64 → x.toNat*y.toNat < 2^64
  sums : ∀ x y, (x,y) ∈ wideSums b64 c64 → x.toNat+y.toNat < 2^64
  divisions : ∀ n d, (n,d) ∈ wideDivisions b64 c64 →
    n.toNat+d.toNat < 2^64 ∧ 1 ≤ (n+d).toNat ∧ ((n+d-1)/d).toNat < 2^32

end Wide

section WideValues
variable {b64 c64 : BitVec 64} {baud bits : ℕ}

theorem wide_rate (hmax : baud < 2^32) (hb : b64.toNat = baud) : (b64*50).toNat = baud*50 := by
  rw [BitVec.toNat_mul,hb]
  exact Nat.mod_eq_of_lt (by change baud*50 < _; omega)

theorem wide_rate_tenths (hmax : baud < 2^32) (hb : b64.toNat = baud) :
    (10*b64*50).toNat = 10*baud*50 := by
  rw [BitVec.toNat_mul,BitVec.toNat_mul,hb]
  change 10*baud%2^64*50%2^64 = _
  omega

theorem wide_character (hbits : bits ≤ 13) (hc : c64.toNat = bits) :
    (c64*1000000).toNat = bits*1000000 := by
  rw [BitVec.toNat_mul,hc]
  exact Nat.mod_eq_of_lt (by change bits*1000000 < _; omega)

theorem wide_multiple (hbits : bits ≤ 13) (hc : c64.toNat = bits) (k : BitVec 64)
    (hk : k.toNat ≤ 45) : (k*c64*1000000).toNat = k.toNat*bits*1000000 := by
  have hproduct : k.toNat*bits ≤ 45*13 := Nat.mul_le_mul hk hbits
  rw [BitVec.toNat_mul,BitVec.toNat_mul,hc]
  change k.toNat*bits%2^64*1000000%2^64 = _
  omega

theorem wide_rate_multiple (hmax : baud < 2^32) (hb : b64.toNat = baud) (k : BitVec 64)
    (hk : k.toNat ≤ 1750) : (k*b64).toNat = k.toNat*baud := by
  have hproduct : k.toNat*baud ≤ 1750*2^32 := Nat.mul_le_mul hk hmax.le
  rw [BitVec.toNat_mul,hb]
  exact Nat.mod_eq_of_lt (by omega)

theorem wide_silence (hmax : baud < 2^32) (hbits : bits ≤ 13) (hb : b64.toNat = baud)
    (hc : c64.toNat = bits) (k : BitVec 64) (hk : k.toNat ≤ 1750) :
    (k*b64+c64*1000000).toNat = k.toNat*baud+bits*1000000 := by
  have hproduct : k.toNat*baud ≤ 1750*2^32 := Nat.mul_le_mul hk hmax.le
  rw [BitVec.toNat_add,wide_character hbits hc,wide_rate_multiple hmax hb k hk]
  omega

theorem wideTiming_eq (hbaud : 0 < baud) (hmax : baud < 2^32) (hbits : bits ≤ 13)
    (hb : b64.toNat = baud) (hc : c64.toNat = bits) :
    wideTiming b64 c64 baud = exactTiming baud bits := by
  have hrate := wide_rate hmax hb
  have htenths := wide_rate_tenths hmax hb
  have hmultiple := wide_multiple hbits hc
  have hsilence := wide_silence hmax hbits hb hc
  unfold wideTiming exactTiming
  by_cases hfast : 19200 < baud
  · simp only [hfast,if_true]
    rw [ceilDivU64_eq hbaud hmax hbits (wide_character hbits hc) hrate (by simp [timingDivisions]),
      ceilDivU64_eq hbaud hmax hbits (hsilence 750 (by decide)) hrate
        (by simp [timingDivisions,hfast]),
      ceilDivU64_eq hbaud hmax hbits (hsilence 1750 (by decide)) hrate
        (by simp [timingDivisions,hfast])]
    rfl
  · simp only [hfast,if_false]
    rw [ceilDivU64_eq hbaud hmax hbits (wide_character hbits hc) hrate (by simp [timingDivisions]),
      ceilDivU64_eq hbaud hmax hbits (hmultiple 15 (by decide)) htenths
        (by simp [timingDivisions,hfast]),
      ceilDivU64_eq hbaud hmax hbits (hmultiple 35 (by decide)) htenths
        (by simp [timingDivisions,hfast]),
      ceilDivU64_eq hbaud hmax hbits (hmultiple 25 (by decide)) htenths
        (by simp [timingDivisions,hfast]),
      ceilDivU64_eq hbaud hmax hbits (hmultiple 45 (by decide)) htenths
        (by simp [timingDivisions,hfast])]
    rfl

theorem wideProducts_fit (hmax : baud < 2^32) (hbits : bits ≤ 13) (hb : b64.toNat = baud)
    (hc : c64.toNat = bits) (x y : BitVec 64) (h : (x,y) ∈ wideProducts b64 c64) :
    x.toNat*y.toNat < 2^64 := by
  have hten := wide_rate_multiple hmax hb 10 (by decide)
  have hmultiple : ∀ k : BitVec 64, k.toNat ≤ 45 → (k*c64).toNat = k.toNat*bits := by
    intro k hk
    have hproduct : k.toNat*bits ≤ 45*13 := Nat.mul_le_mul hk hbits
    rw [BitVec.toNat_mul,hc]
    exact Nat.mod_eq_of_lt (by omega)
  have h15 := hmultiple 15 (by decide)
  have h25 := hmultiple 25 (by decide)
  have h35 := hmultiple 35 (by decide)
  have h45 := hmultiple 45 (by decide)
  simp only [wideProducts,List.mem_cons,Prod.mk.injEq,List.not_mem_nil,or_false] at h
  rcases h with ⟨rfl,rfl⟩ | ⟨rfl,rfl⟩ | ⟨rfl,rfl⟩ | ⟨rfl,rfl⟩ | ⟨rfl,rfl⟩ | ⟨rfl,rfl⟩ | ⟨rfl,rfl⟩ |
    ⟨rfl,rfl⟩ | ⟨rfl,rfl⟩ | ⟨rfl,rfl⟩ | ⟨rfl,rfl⟩ | ⟨rfl,rfl⟩ | ⟨rfl,rfl⟩ | ⟨rfl,rfl⟩ <;>
    simp only [hb,hc,hten,h15,h25,h35,h45,BitVec.reduceToNat] <;> omega

theorem wideSums_fit (hmax : baud < 2^32) (hbits : bits ≤ 13) (hb : b64.toNat = baud)
    (hc : c64.toNat = bits) (x y : BitVec 64) (h : (x,y) ∈ wideSums b64 c64) :
    x.toNat+y.toNat < 2^64 := by
  have hcharacter := wide_character hbits hc
  have h750 := wide_rate_multiple hmax hb 750 (by decide)
  have h1750 := wide_rate_multiple hmax hb 1750 (by decide)
  simp only [BitVec.reduceToNat] at h750 h1750
  simp only [wideSums,List.mem_cons,Prod.mk.injEq,List.not_mem_nil,or_false] at h
  rcases h with ⟨rfl,rfl⟩ | ⟨rfl,rfl⟩ <;> omega

theorem wideDivisions_fit (hbaud : 0 < baud) (hmax : baud < 2^32) (hbits : bits ≤ 13)
    (hb : b64.toNat = baud) (hc : c64.toNat = bits) (n d : BitVec 64)
    (h : (n,d) ∈ wideDivisions b64 c64) :
    n.toNat+d.toNat < 2^64 ∧ 1 ≤ (n+d).toNat ∧ ((n+d-1)/d).toNat < 2^32 := by
  have hrate := wide_rate hmax hb
  have htenths := wide_rate_tenths hmax hb
  have hcharacter := wide_character hbits hc
  have hmultiple := wide_multiple hbits hc
  have hsilence := wide_silence hmax hbits hb hc
  have hfits : 0 < d.toNat ∧ n.toNat+d.toNat < 2^64 ∧ n.toNat ≤ 4294967294*d.toNat := by
    have h15 := hmultiple 15 (by decide)
    have h25 := hmultiple 25 (by decide)
    have h35 := hmultiple 35 (by decide)
    have h45 := hmultiple 45 (by decide)
    have h750 := hsilence 750 (by decide)
    have h1750 := hsilence 1750 (by decide)
    simp only [BitVec.reduceToNat] at h15 h25 h35 h45 h750 h1750
    simp only [wideDivisions,List.mem_cons,Prod.mk.injEq,List.not_mem_nil,or_false] at h
    rcases h with ⟨rfl,rfl⟩ | ⟨rfl,rfl⟩ | ⟨rfl,rfl⟩ | ⟨rfl,rfl⟩ | ⟨rfl,rfl⟩ | ⟨rfl,rfl⟩ |
      ⟨rfl,rfl⟩ <;> omega
  obtain ⟨hd,hsum,hn⟩ := hfits
  have hadd : (n+d).toNat = n.toNat+d.toNat := by
    rw [BitVec.toNat_add,Nat.mod_eq_of_lt hsum]
  have hone : (1 : BitVec 64).toNat = 1 := rfl
  refine ⟨hsum,by omega,?_⟩
  rw [BitVec.toNat_udiv,BitVec.toNat_sub_of_le (by rw [BitVec.le_def]; omega),hadd,hone,
    Nat.div_lt_iff_lt_mul hd]
  omega

end WideValues

theorem OrderedTicks.consistent {timing : RtuTiming} (h : OrderedTicks timing) :
    ¬ (timing.characterTicks = 0 ∨ timing.t15Ticks = 0 ∨ timing.t35Ticks = 0 ∨
      timing.byteCompleteT15Ticks = 0 ∨ timing.byteCompleteT35Ticks = 0 ∨
      timing.t35Ticks.toNat ≤ timing.t15Ticks.toNat ∨
      timing.byteCompleteT35Ticks.toNat ≤ timing.byteCompleteT15Ticks.toNat) := by
  obtain ⟨hcharacter,ht15,hbyte,hlt,hbytes⟩ := h
  have hzero : (0 : Word32).toNat = 0 := rfl
  rintro (h | h | h | h | h | h | h)
  · rw [h] at hcharacter
    omega
  · rw [h] at ht15
    omega
  · rw [h] at hlt
    omega
  · rw [h] at hbyte
    omega
  · rw [h] at hbytes
    omega
  · omega
  · omega

section Accepted
variable {baudRate : Word32} {dataBits parityBits stopBits : Byte}

theorem SerialFormat.bits (h : SerialFormat dataBits parityBits stopBits) :
    7 ≤ characterBits dataBits parityBits stopBits ∧
      characterBits dataBits parityBits stopBits ≤ 13 := by
  obtain ⟨hdata,hparity,hstop⟩ := h
  simp only [characterBits]
  omega

theorem wideRate_toNat : (baudRate.setWidth 64).toNat = baudRate.toNat := by
  rw [BitVec.toNat_setWidth]
  omega

theorem wideBits_toNat :
    (wideBits dataBits parityBits stopBits).toNat = characterBits dataBits parityBits stopBits := by
  have hone : (1 : BitVec 64).toNat = 1 := rfl
  simp only [wideBits,characterBits,BitVec.toNat_add,BitVec.toNat_setWidth]
  omega

theorem noOverflow_of_format (hbaud : 0 < baudRate.toNat)
    (hformat : SerialFormat dataBits parityBits stopBits) :
    NoOverflow (baudRate.setWidth 64) (wideBits dataBits parityBits stopBits) where
  products := wideProducts_fit baudRate.isLt hformat.bits.2 wideRate_toNat wideBits_toNat
  sums := wideSums_fit baudRate.isLt hformat.bits.2 wideRate_toNat wideBits_toNat
  divisions :=
    wideDivisions_fit hbaud baudRate.isLt hformat.bits.2 wideRate_toNat wideBits_toNat

/-- On accepted arguments the wide integers are wide enough, and the last check passes. -/
theorem mbrtuCalculateTiming_eq (hbaud : 0 < baudRate.toNat)
    (hformat : SerialFormat dataBits parityBits stopBits) :
    mbrtuCalculateTiming baudRate dataBits parityBits stopBits =
      .ok (exactTiming baudRate.toNat (characterBits dataBits parityBits stopBits)) := by
  have hbits := hformat.bits
  have hok : ¬ (baudRate = 0 ∨ dataBits.toNat < 5 ∨ 9 < dataBits.toNat ∨ 1 < parityBits.toNat ∨
      stopBits.toNat < 1 ∨ 2 < stopBits.toNat) := by
    obtain ⟨hdata,hparity,hstop⟩ := hformat
    have hne : baudRate ≠ 0 := by
      rintro rfl
      exact absurd hbaud (by decide)
    simp only [hne,false_or]
    omega
  have htiming := wideTiming_eq hbaud baudRate.isLt hbits.2 wideRate_toNat
    (wideBits_toNat : (wideBits dataBits parityBits stopBits).toNat = _)
  have hordered := (exactTiming_ordered hbaud baudRate.isLt hbits.2 hbits.1).consistent
  rw [← htiming] at hordered ⊢
  rw [mbrtuCalculateTiming,if_neg hok]
  exact if_neg hordered

theorem mbrtuCalculateTiming_exact (K : Type) [Field K] [LinearOrder K] [IsStrictOrderedRing K]
    [FloorRing K] (hbaud : 0 < baudRate.toNat)
    (hformat : SerialFormat dataBits parityBits stopBits) :
    ∃ timing, mbrtuCalculateTiming baudRate dataBits parityBits stopBits = .ok timing ∧
      ExactTicks K baudRate.toNat (characterBits dataBits parityBits stopBits) timing ∧
      OrderedTicks timing :=
  ⟨_,mbrtuCalculateTiming_eq hbaud hformat,
    exactTiming_exact K hbaud baudRate.isLt hformat.bits.2,
    exactTiming_ordered hbaud baudRate.isLt hformat.bits.2 hformat.bits.1⟩

end Accepted

structure NoLonger (timing timing' : RtuTiming) : Prop where
  character : timing.characterTicks.toNat ≤ timing'.characterTicks.toNat
  t15 : timing.t15Ticks.toNat ≤ timing'.t15Ticks.toNat
  t35 : timing.t35Ticks.toNat ≤ timing'.t35Ticks.toNat
  byteCompleteT15 : timing.byteCompleteT15Ticks.toNat ≤ timing'.byteCompleteT15Ticks.toNat
  byteCompleteT35 : timing.byteCompleteT35Ticks.toNat ≤ timing'.byteCompleteT35Ticks.toNat

theorem characterTime_antitone {baud baud' : ℕ} (bits : ℕ) (hbaud : 0 < baud)
    (h : baud ≤ baud') : characterTime ℚ baud' bits ≤ characterTime ℚ baud bits := by
  have hpos : (0 : ℚ) < baud := by exact_mod_cast hbaud
  have hle : (baud : ℚ) ≤ baud' := by exact_mod_cast h
  exact div_le_div_of_nonneg_left (by positivity) hpos hle

/-- Within one of the two ranges a faster line has no longer field. -/
theorem ExactTicks.noLonger {baud baud' bits : ℕ} {timing timing' : RtuTiming}
    (hbaud : 0 < baud) (h : baud ≤ baud') (hrange : 19200 < baud ↔ 19200 < baud')
    (hexact : ExactTicks ℚ baud bits timing) (hexact' : ExactTicks ℚ baud' bits timing') :
    NoLonger timing' timing := by
  have hcharacter := characterTime_antitone bits hbaud h
  have hceil : ∀ x y : ℚ, x ≤ y → ⌈x/50⌉₊ ≤ ⌈y/50⌉₊ := fun x y hxy =>
    Nat.ceil_mono (div_le_div_of_nonneg_right hxy (by norm_num))
  constructor
  · rw [hexact.character,hexact'.character]
    exact hceil _ _ hcharacter
  · rw [hexact.t15,hexact'.t15]
    apply hceil
    simp only [silenceT15,hrange]
    split <;> linarith
  · rw [hexact.t35,hexact'.t35]
    apply hceil
    simp only [silenceT35,hrange]
    split <;> linarith
  · rw [hexact.byteCompleteT15,hexact'.byteCompleteT15]
    apply hceil
    simp only [deadlineT15,hrange]
    split <;> linarith
  · rw [hexact.byteCompleteT35,hexact'.byteCompleteT35]
    apply hceil
    simp only [deadlineT35,hrange]
    split <;> linarith

structure TimingIsExact : Prop where
  exact : ∀ (baudRate : Word32) (dataBits parityBits stopBits : Byte), 0 < baudRate.toNat →
    SerialFormat dataBits parityBits stopBits →
    ∃ timing, mbrtuCalculateTiming baudRate dataBits parityBits stopBits = .ok timing ∧
      ExactTicks ℚ baudRate.toNat (characterBits dataBits parityBits stopBits) timing ∧
      OrderedTicks timing
  noOverflow : ∀ (baudRate : Word32) (dataBits parityBits stopBits : Byte), 0 < baudRate.toNat →
    SerialFormat dataBits parityBits stopBits →
    NoOverflow (baudRate.setWidth 64) (wideBits dataBits parityBits stopBits)
  antitone : ∀ (baudRate baudRate' : Word32) (dataBits parityBits stopBits : Byte)
    (timing timing' : RtuTiming), SerialFormat dataBits parityBits stopBits →
    baudRate.toNat ≤ baudRate'.toNat → (19200 < baudRate.toNat ↔ 19200 < baudRate'.toNat) →
    mbrtuCalculateTiming baudRate dataBits parityBits stopBits = .ok timing →
    mbrtuCalculateTiming baudRate' dataBits parityBits stopBits = .ok timing' →
    NoLonger timing' timing

theorem mbrtuCalculateTiming_isExact : TimingIsExact := by
  constructor
  · intro baudRate dataBits parityBits stopBits hbaud hformat
    exact mbrtuCalculateTiming_exact ℚ hbaud hformat
  · intro baudRate dataBits parityBits stopBits hbaud hformat
    exact noOverflow_of_format hbaud hformat
  · intro baudRate baudRate' dataBits parityBits stopBits timing timing' hformat hle hrange h h'
    have hbaud : 0 < baudRate.toNat := by
      by_contra hzero
      have hz : baudRate = 0 := BitVec.eq_of_toNat_eq (by simpa using hzero)
      simp [mbrtuCalculateTiming,hz] at h
    obtain ⟨_,heq,hexact,_⟩ := mbrtuCalculateTiming_exact ℚ hbaud hformat
    obtain ⟨_,heq',hexact',_⟩ :=
      mbrtuCalculateTiming_exact ℚ (hbaud.trans_le hle) hformat
    cases heq.symm.trans h
    cases heq'.symm.trans h'
    exact hexact.noLonger hbaud hle hrange hexact'

end ModbusStack
