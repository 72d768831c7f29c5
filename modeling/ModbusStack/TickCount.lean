import Mathlib

/-! Counting the ticks of a periodic clock between two instants. The ticks are at
`phase + k * period` for every integer `k`. -/
set_option autoImplicit false

namespace TickCount
variable {K : Type} [Field K] [LinearOrder K] [IsStrictOrderedRing K] [FloorRing K]

/-- Division rounded up, as programs write it. -/
theorem ceilDiv_eq_natCeil (n d : ℕ) (h : 0 < d) : (n+d-1)/d = ⌈(n : K)/d⌉₊ := by
  have hd : (0 : K) < d := by exact_mod_cast h
  apply eq_of_forall_ge_iff
  intro k
  have hk : (n+d-1)/d ≤ k ↔ n ≤ d*k := by
    rw [← Nat.ceilDiv_eq_add_pred_div,ceilDiv_le_iff_le_mul h]
  rw [hk,Nat.ceil_le,div_le_iff₀ hd]
  constructor
  · intro hn
    rw [mul_comm]
    exact_mod_cast hn
  · intro hn
    rw [mul_comm]
    exact_mod_cast hn

/-- The number of the last tick at an instant; a tick at that very instant is counted if
`inclusive`. -/
def lastTickAt (inclusive : Bool) (period phase t : K) : ℤ :=
  if inclusive then ⌊(t-phase)/period⌋ else ⌈(t-phase)/period⌉-1

section Bounds
variable (inclusive : Bool) {period : K} (phase t t' : K)

omit [LinearOrder K] [IsStrictOrderedRing K] [FloorRing K] in
theorem phase_split : (t'-phase)/period = (t-phase)/period+(t'-t)/period := by
  rw [← add_div]
  congr 1
  ring

/-- At most one tick more than the periods that fit. -/
theorem lastTickAt_sub_le :
    lastTickAt inclusive period phase t'-lastTickAt inclusive period phase t ≤
      ⌈(t'-t)/period⌉ := by
  have hle : (t'-phase)/period ≤ (t-phase)/period+⌈(t'-t)/period⌉ := by
    rw [phase_split phase t t']
    exact add_le_add_right (Int.le_ceil _) _
  cases inclusive with
  | true =>
    have h := Int.floor_le_floor hle
    rw [Int.floor_add_intCast] at h
    simp only [lastTickAt,if_true]
    omega
  | false =>
    have h := Int.ceil_le_ceil hle
    rw [Int.ceil_add_intCast] at h
    simp only [lastTickAt,Bool.false_eq_true,if_false]
    omega

/-- At least as many ticks as whole periods. -/
theorem floor_le_lastTickAt_sub :
    ⌊(t'-t)/period⌋ ≤
      lastTickAt inclusive period phase t'-lastTickAt inclusive period phase t := by
  have hle : (t-phase)/period+⌊(t'-t)/period⌋ ≤ (t'-phase)/period := by
    rw [phase_split phase t t']
    exact add_le_add_right (Int.floor_le _) _
  cases inclusive with
  | true =>
    have h := Int.floor_le_floor hle
    rw [Int.floor_add_intCast] at h
    simp only [lastTickAt,if_true]
    omega
  | false =>
    have h := Int.ceil_le_ceil hle
    rw [Int.ceil_add_intCast] at h
    simp only [lastTickAt,Bool.false_eq_true,if_false]
    omega

/-- The `n`-th tick after an instant comes no sooner than `n - 1` periods after it. -/
theorem elapsed_of_ticks (hp : 0 < period) {n k : ℤ}
    (h : lastTickAt inclusive period phase t+n ≤ k) :
    ((n : K)-1)*period ≤ phase+k*period-t := by
  have hbound : (t-phase)/period ≤ (k : K)-n+1 := by
    cases inclusive with
    | true =>
      simp only [lastTickAt,if_true] at h
      have hlt := (Int.lt_floor_add_one ((t-phase)/period)).le
      have hk : (⌊(t-phase)/period⌋ : K)+n ≤ k := by exact_mod_cast h
      linarith
    | false =>
      simp only [lastTickAt,Bool.false_eq_true,if_false] at h
      have hle := Int.le_ceil ((t-phase)/period)
      have hk : (⌈(t-phase)/period⌉ : K)-1+n ≤ k := by exact_mod_cast h
      linarith
  rw [div_le_iff₀ hp] at hbound
  linarith

end Bounds

end TickCount
