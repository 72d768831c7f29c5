import Mathlib

/-! Requests that may be carried out more than once: a client that repeats what may not have
arrived, and a server for which the repetition makes no difference. -/
set_option autoImplicit false

namespace Retransmission
variable {σ ο : Type}

/-- Carrying a request out once more gives the same answer and leaves the same state. -/
def Repeatable (exec : σ → ο × σ) : Prop := ∀ s, exec (exec s).2 = exec s

def executed (exec : σ → ο × σ) (n : Nat) (s : σ) : σ := (fun s => (exec s).2)^[n] s

section Rules
variable {exec : σ → ο × σ}

@[simp] theorem executed_zero (s : σ) : executed exec 0 s = s := rfl

theorem executed_succ (n : Nat) (s : σ) : executed exec (n+1) s = (exec (executed exec n s)).2 :=
  Function.iterate_succ_apply' _ n s

/-- At least once is exactly once. -/
theorem executed_of_pos (h : Repeatable exec) {n : Nat} (hn : 0 < n) (s : σ) :
    executed exec n s = (exec s).2 := by
  induction n with
  | zero => omega
  | succ n ih =>
    rw [executed_succ]
    cases n with
    | zero => rfl
    | succ n => rw [ih (by omega),h]

/-- Every execution is answered like the first one. -/
theorem answer_executed (h : Repeatable exec) (n : Nat) (s : σ) :
    (exec (executed exec n s)).1 = (exec s).1 := by
  cases n with
  | zero => rfl
  | succ n => rw [executed_of_pos h (Nat.succ_pos n),h]

end Rules

end Retransmission
