import Mathlib

/-! Tables with ascending keys and the lookup that stops at the first larger key. -/
set_option autoImplicit false

namespace SortedTable
variable {α : Type} (key : α → Nat) (table : Nat → α)

def Ascending (n : Nat) : Prop := ∀ i j, i < j → j < n → key (table i) < key (table j)

/-- It is enough to compare each entry with the one before it. -/
theorem ascending_of_adjacent {n : Nat}
    (h : ∀ i, 0 < i → i < n → key (table (i-1)) < key (table i)) : Ascending key table n := by
  intro i j hij hj
  induction j with
  | zero => omega
  | succ j ih =>
    have hstep := h (j+1) (by omega) hj
    rw [Nat.add_sub_cancel] at hstep
    by_cases he : i = j
    · subst he
      exact hstep
    · exact (ih (by omega) (by omega)).trans hstep

def findFrom (k : Nat) : (n i : Nat) → Option α
  | 0, _ => none
  | n+1, i =>
    if key (table i) = k then some (table i)
    else if k < key (table i) then none
    else findFrom k n (i+1)

variable {key table}

theorem findFrom_sound {k n i : Nat} {e : α} (h : findFrom key table k n i = some e) :
    ∃ j, i ≤ j ∧ j < i+n ∧ table j = e ∧ key e = k := by
  induction n generalizing i with
  | zero => cases h
  | succ n ih =>
    unfold findFrom at h
    split at h
    · rename_i hk
      cases h
      exact ⟨i,by omega,by omega,rfl,hk⟩
    split at h
    · cases h
    · obtain ⟨j,hi,hj,he⟩ := ih h
      exact ⟨j,by omega,by omega,he⟩

/-- The early exit misses nothing when the keys ascend. -/
theorem findFrom_complete {n i j : Nat} (hasc : Ascending key table (i+n)) (hi : i ≤ j)
    (hj : j < i+n) : findFrom key table (key (table j)) n i = some (table j) := by
  induction n generalizing i with
  | zero => omega
  | succ n ih =>
    unfold findFrom
    by_cases hij : i = j
    · subst hij
      simp
    · have hlt := hasc i j (by omega) (by omega)
      rw [if_neg (by omega),if_neg (by omega)]
      exact ih (i := i+1) (by rw [Nat.add_assoc,Nat.add_comm 1 n]; exact hasc) (by omega) (by omega)

theorem findFrom_eq_some_iff {k n : Nat} {e : α} (hasc : Ascending key table n) :
    findFrom key table k n 0 = some e ↔ ∃ j, j < n ∧ table j = e ∧ key e = k := by
  constructor
  · intro h
    obtain ⟨j,-,hj,he⟩ := findFrom_sound h
    exact ⟨j,by omega,he⟩
  · rintro ⟨j,hj,rfl,rfl⟩
    exact findFrom_complete (by rw [Nat.zero_add]; exact hasc) (by omega) (by omega)

end SortedTable
