import Mathlib

/-! Cutting a stream into delimited frames. Nothing depends on how the stream arrives. -/
set_option autoImplicit false

namespace StreamFraming
variable {β : Type}

/-- What the first bytes of a stream say: not enough yet, a frame of `n` bytes, or garbage. -/
inductive Verdict where
  | more
  | frame : Nat → Verdict
  | malformed
  deriving DecidableEq, Repr

/-- A frame format: a verdict once given does not change when more bytes arrive. -/
structure Delimiter (β : Type) where
  next : List β → Verdict
  next_frame : ∀ bs n, next bs = .frame n → 0 < n ∧ n ≤ bs.length
  next_append : ∀ bs cs, next bs ≠ .more → next (bs ++ cs) = next bs

structure Deframed (β : Type) where
  frames : List (List β)
  rest : List β
  failed : Bool

def Deframed.prepend (fs : List (List β)) (r : Deframed β) : Deframed β :=
  { r with frames := fs ++ r.frames }

variable (d : Delimiter β) (accepts : List β → Bool)

/-- Frames are cut off one after the other; a frame that is not accepted is the last one. -/
def deframe (bs : List β) : Deframed β :=
  match _h : d.next bs with
  | .more => ⟨[],bs,false⟩
  | .malformed => ⟨[],bs,true⟩
  | .frame n =>
    if accepts (bs.take n) then (deframe (bs.drop n)).prepend [bs.take n]
    else ⟨[bs.take n],bs.drop n,true⟩
termination_by bs.length
decreasing_by
  have := d.next_frame bs n _h
  rw [List.length_drop]
  omega

variable {d accepts}

theorem deframe_more {bs : List β} (h : d.next bs = .more) : deframe d accepts bs = ⟨[],bs,false⟩ := by
  rw [deframe]
  split <;> simp_all

theorem deframe_malformed {bs : List β} (h : d.next bs = .malformed) :
    deframe d accepts bs = ⟨[],bs,true⟩ := by
  rw [deframe]
  split <;> simp_all

theorem deframe_accepted {bs : List β} {n : Nat} (h : d.next bs = .frame n)
    (ha : accepts (bs.take n) = true) :
    deframe d accepts bs = (deframe d accepts (bs.drop n)).prepend [bs.take n] := by
  rw [deframe]
  split <;> simp_all

theorem deframe_rejected {bs : List β} {n : Nat} (h : d.next bs = .frame n)
    (ha : accepts (bs.take n) = false) :
    deframe d accepts bs = ⟨[bs.take n],bs.drop n,true⟩ := by
  rw [deframe]
  split <;> simp_all

/-- Unless the stream has been given up, what is left is an incomplete frame. -/
theorem next_rest (bs : List β) (h : (deframe d accepts bs).failed = false) :
    d.next (deframe d accepts bs).rest = .more := by
  induction hn : bs.length using Nat.strong_induction_on generalizing bs with
  | _ k ih =>
    cases hv : d.next bs with
    | more => simpa [deframe_more hv] using hv
    | malformed => simp [deframe_malformed hv] at h
    | frame n =>
      have hlen := d.next_frame bs n hv
      cases ha : accepts (bs.take n) with
      | false => simp [deframe_rejected hv ha] at h
      | true =>
        rw [deframe_accepted hv ha] at h ⊢
        exact ih (bs.drop n).length (by rw [List.length_drop]; omega) (bs.drop n) h rfl

/-- More bytes: the frames found stay, and deframing goes on with what was left. -/
theorem deframe_append (bs cs : List β) :
    deframe d accepts (bs ++ cs) =
      if (deframe d accepts bs).failed then
        { deframe d accepts bs with rest := (deframe d accepts bs).rest ++ cs }
      else (deframe d accepts ((deframe d accepts bs).rest ++ cs)).prepend
        (deframe d accepts bs).frames := by
  induction hn : bs.length using Nat.strong_induction_on generalizing bs with
  | _ k ih =>
    cases hv : d.next bs with
    | more =>
      rw [deframe_more hv]
      simp [Deframed.prepend]
    | malformed =>
      rw [deframe_malformed hv,deframe_malformed ((d.next_append bs cs (by simp [hv])).trans hv)]
      rfl
    | frame n =>
      have hlen := d.next_frame bs n hv
      have hv' := (d.next_append bs cs (by simp [hv])).trans hv
      have htake : (bs ++ cs).take n = bs.take n := List.take_append_of_le_length hlen.2
      have hdrop : (bs ++ cs).drop n = bs.drop n ++ cs := List.drop_append_of_le_length hlen.2
      cases ha : accepts (bs.take n) with
      | false =>
        rw [deframe_rejected hv ha,deframe_rejected hv' (by rw [htake,ha]),htake,hdrop]
        rfl
      | true =>
        rw [deframe_accepted hv ha,deframe_accepted hv' (by rw [htake,ha]),htake,hdrop,
          ih (bs.drop n).length (by rw [List.length_drop]; omega) (bs.drop n) rfl]
        cases hf : (deframe d accepts (bs.drop n)).failed <;> simp [Deframed.prepend,hf]

end StreamFraming
