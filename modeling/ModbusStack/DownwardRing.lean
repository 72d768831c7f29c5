import Mathlib

/-! A ring that grows downwards: the newest element is at the head, and a full ring overwrites
its oldest one. -/
set_option autoImplicit false

namespace DownwardRing
variable {α : Type}

structure RingLog (α : Type) where
  buffer : ℕ → α
  head : ℕ
  count : ℕ

def RingLog.next (capacity : ℕ) (r : RingLog α) : ℕ :=
  if r.count = 0 then 0 else if r.head = 0 then capacity-1 else r.head-1

def RingLog.push (capacity : ℕ) (r : RingLog α) (x : α) : RingLog α :=
  ⟨Function.update r.buffer (r.next capacity) x,r.next capacity,
    if r.count < capacity then r.count+1 else r.count⟩

def RingLog.get? (capacity : ℕ) (r : RingLog α) (i : ℕ) : Option α :=
  if i < r.count then some (r.buffer ((r.head+i)%capacity)) else none

/-- The ring holds the newest elements of `log`, which is newest first. -/
structure Represents (capacity : ℕ) (r : RingLog α) (log : List α) : Prop where
  head_lt : r.head < capacity
  count_eq : r.count = min capacity log.length
  element : ∀ i, i < r.count → log[i]? = some (r.buffer ((r.head+i)%capacity))

section Rules
variable {capacity : ℕ} {r : RingLog α} {log : List α}

theorem Represents.empty (h : r.head < capacity) (h0 : r.count = 0) :
    Represents capacity r [] :=
  ⟨h,by simp [h0],fun i hi => by omega⟩

theorem RingLog.next_lt (h : r.head < capacity) : r.next capacity < capacity := by
  simp only [RingLog.next]
  split
  · omega
  · split <;> omega

theorem RingLog.next_succ (h : r.head < capacity) (h0 : r.count ≠ 0) (i : ℕ) :
    (r.next capacity+(i+1))%capacity = (r.head+i)%capacity := by
  simp only [RingLog.next,h0,if_false]
  split
  · rename_i hz
    rw [hz,show capacity-1+(i+1) = 0+i+capacity by omega,Nat.add_mod_right]
  · congr 1
    omega

theorem RingLog.next_ne (h : r.head < capacity) {i : ℕ} (hi : i+1 < capacity) :
    (r.next capacity+(i+1))%capacity ≠ r.next capacity := by
  have hlt := RingLog.next_lt h
  by_cases hwrap : r.next capacity+(i+1) < capacity
  · rw [Nat.mod_eq_of_lt hwrap]
    omega
  · rw [Nat.mod_eq_sub_mod (by omega),Nat.mod_eq_of_lt (by omega)]
    omega

theorem Represents.push (h : Represents capacity r log) (x : α) :
    Represents capacity (r.push capacity x) (x :: log) := by
  have hnext := RingLog.next_lt h.head_lt
  have hcount := h.count_eq
  refine ⟨hnext,?_,?_⟩
  · simp only [RingLog.push,List.length_cons]
    split <;> omega
  · intro i hi
    simp only [RingLog.push] at hi ⊢
    cases i with
    | zero =>
      rw [Nat.add_zero,Nat.mod_eq_of_lt hnext]
      simp
    | succ i =>
      have hlt : i < r.count ∧ i+1 < capacity := by
        split at hi <;> omega
      rw [Function.update_of_ne (RingLog.next_ne h.head_lt hlt.2),
        RingLog.next_succ h.head_lt (by omega),List.getElem?_cons_succ]
      exact h.element i hlt.1

theorem Represents.get?_eq (h : Represents capacity r log) (i : ℕ) :
    r.get? capacity i = (log.take capacity)[i]? := by
  have hcount := h.count_eq
  simp only [RingLog.get?]
  split
  · rename_i hi
    rw [List.getElem?_take_of_lt (by omega),h.element i hi]
  · rename_i hi
    rw [eq_comm,List.getElem?_eq_none_iff,List.length_take]
    omega

end Rules

end DownwardRing
