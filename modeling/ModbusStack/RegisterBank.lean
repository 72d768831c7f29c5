import Mathlib

/-! Finite banks of elements with block reads and block writes. -/
set_option autoImplicit false

namespace RegisterBank
variable {α : Type} {n : Nat}

abbrev Bank (n : Nat) (α : Type) := Fin n → α

def read (b : Bank n α) (start count : Nat) : List α :=
  (List.range count).filterMap fun i => if h : start+i < n then some (b ⟨start+i,h⟩) else none

def write (b : Bank n α) (start : Nat) (values : List α) : Bank n α :=
  fun i => if start ≤ i.val then (values[i.val-start]?).getD (b i) else b i

theorem read_of_array (f : Nat → α) {start count : Nat} (h : start+count ≤ n) :
    read (fun i : Fin n => f i.val) start count = (List.range count).map fun i => f (start+i) := by
  unfold read
  rw [← List.filterMap_eq_map]
  apply List.filterMap_congr
  intro i hi
  have hlt : start+i < n := by
    have := List.mem_range.mp hi
    omega
  simp [hlt]

theorem read_length (b : Bank n α) {start count : Nat} (h : start+count ≤ n) :
    (read b start count).length = count := by
  have hall : ∀ i ∈ List.range count,
      ((fun i => if h : start+i < n then some (b ⟨start+i,h⟩) else none) i).isSome = true := by
    intro i hi
    have := List.mem_range.mp hi
    simp [show start+i < n by omega]
  rw [read,List.filterMap_length_eq_length.mpr hall,List.length_range]

theorem write_apply (b : Bank n α) (start count : Nat) (v : Nat → α) (i : Fin n) :
    write b start ((List.range count).map v) i =
      if start ≤ i.val ∧ i.val < start+count then v (i.val-start) else b i := by
  unfold write
  by_cases hs : start ≤ i.val
  · by_cases hc : i.val < start+count
    · have hlt : i.val-start < count := by omega
      simp [hs,hc,hlt]
    · have hge : count ≤ i.val-start := by omega
      simp [hs,hc,hge]
  · simp [hs]

end RegisterBank
