import Mathlib

/-! Runs of a deterministic machine that takes an input and gives an output at each step. -/
set_option autoImplicit false

namespace Machine
variable {σ ι ο : Type}

structure Record (σ ι ο : Type) where
  before : σ
  input : ι
  output : ο
  after : σ

def run (step : σ → ι → ο × σ) (s : σ) : List ι → σ
  | [] => s
  | x :: xs => run step (step s x).2 xs

def records (step : σ → ι → ο × σ) (s : σ) : List ι → List (Record σ ι ο)
  | [] => []
  | x :: xs => ⟨s,x,(step s x).1,(step s x).2⟩ :: records step (step s x).2 xs

/-- The part of a history from the last element with property `p` on. -/
def since {α : Type} (p : α → Bool) (l : List α) : List α :=
  l.foldl (fun acc x => if p x then [x] else acc ++ [x]) []

section Since
variable {α : Type} {p : α → Bool} {l : List α} {x y : α}

@[simp] theorem since_nil : since p ([] : List α) = [] := rfl

theorem since_snoc_of_pos (h : p x = true) : since p (l ++ [x]) = [x] := by
  simp [since,h]

theorem since_snoc_of_neg (h : p x = false) : since p (l ++ [x]) = since p l ++ [x] := by
  simp [since,h]

theorem mem_since_snoc (hx : p x = false) (hy : y ∈ since p l) : y ∈ since p (l ++ [x]) := by
  rw [since_snoc_of_neg hx]
  exact List.mem_append_left _ hy

theorem last_mem_since : x ∈ since p (l ++ [x]) := by
  cases h : p x with
  | true => simp [since_snoc_of_pos h]
  | false => simp [since_snoc_of_neg h]

end Since

/-- The part of a history after the last element with property `p`. -/
def afterLast {α : Type} (p : α → Bool) (l : List α) : List α :=
  l.foldl (fun acc x => if p x then [] else acc ++ [x]) []

section AfterLast
variable {α : Type} {p : α → Bool} {l : List α} {x : α}

@[simp] theorem afterLast_nil : afterLast p ([] : List α) = [] := rfl

theorem afterLast_snoc_of_pos (h : p x = true) : afterLast p (l ++ [x]) = [] := by
  simp [afterLast,h]

theorem afterLast_snoc_of_neg (h : p x = false) :
    afterLast p (l ++ [x]) = afterLast p l ++ [x] := by
  simp [afterLast,h]

end AfterLast

section Rules
variable {step : σ → ι → ο × σ}

theorem run_append (s : σ) (xs ys : List ι) :
    run step s (xs ++ ys) = run step (run step s xs) ys := by
  induction xs generalizing s with
  | nil => rfl
  | cons x xs ih => exact ih _

theorem run_snoc (s : σ) (xs : List ι) (x : ι) :
    run step s (xs ++ [x]) = (step (run step s xs) x).2 := by
  rw [run_append]
  rfl

theorem records_append (s : σ) (xs ys : List ι) :
    records step s (xs ++ ys) = records step s xs ++ records step (run step s xs) ys := by
  induction xs generalizing s with
  | nil => rfl
  | cons x xs ih =>
    simp only [List.cons_append,records,run]
    rw [ih]

theorem records_snoc (s : σ) (xs : List ι) (x : ι) :
    records step s (xs ++ [x]) = records step s xs ++
      [⟨run step s xs,x,(step (run step s xs) x).1,(step (run step s xs) x).2⟩] := by
  rw [records_append]
  rfl

/-- A record is one step, taken in a state that the earlier inputs lead to. -/
theorem mem_records {s : σ} {xs : List ι} {r : Record σ ι ο} (h : r ∈ records step s xs) :
    ∃ ys zs, xs = ys ++ r.input :: zs ∧ r.before = run step s ys ∧
      (r.output,r.after) = step r.before r.input := by
  induction xs generalizing s with
  | nil => simp [records] at h
  | cons x xs ih =>
    simp only [records,List.mem_cons] at h
    rcases h with rfl | h
    · exact ⟨[],xs,rfl,rfl,rfl⟩
    · obtain ⟨ys,zs,rfl,hb,hs⟩ := ih h
      exact ⟨x :: ys,zs,rfl,hb,hs⟩

/-- The invariant rule: what holds initially and is kept by every step holds after
every run. -/
theorem run_invariant (Inv : σ → Prop) (hstep : ∀ s x, Inv s → Inv (step s x).2)
    {s : σ} (hs : Inv s) (xs : List ι) : Inv (run step s xs) := by
  induction xs generalizing s with
  | nil => exact hs
  | cons x xs ih => exact ih (hstep s x hs)

/-- The same rule for a property of the state together with the history that led to it. -/
theorem history_invariant (Inv : σ → List (Record σ ι ο) → Prop)
    (hstep : ∀ s h x, Inv s h → Inv (step s x).2 (h ++ [⟨s,x,(step s x).1,(step s x).2⟩]))
    {s : σ} (hs : Inv s []) (xs : List ι) : Inv (run step s xs) (records step s xs) := by
  induction xs using List.reverseRecOn with
  | nil => exact hs
  | append_singleton xs x ih =>
    rw [run_snoc,records_snoc]
    exact hstep _ _ x ih

end Rules

/-- Two machines in lockstep: as long as the inputs of the second are admissible in the
states it meets, both give the same outputs and stay related. -/
theorem records_simulation {τ κ : Type} {step : σ → ι → ο × σ} {step' : τ → κ → ο × τ}
    (f : κ → ι) (R : σ → τ → Prop) (Admissible : τ → κ → Prop)
    (hstep : ∀ s t x, R s t → Admissible t x →
      (step s (f x)).1 = (step' t x).1 ∧ R (step s (f x)).2 (step' t x).2)
    {s : σ} {t : τ} (hR : R s t) (xs : List κ)
    (hxs : ∀ r ∈ records step' t xs, Admissible r.before r.input) :
    List.Forall₂ (fun r r' => r.output = r'.output ∧ R r.after r'.after)
      (records step s (xs.map f)) (records step' t xs) := by
  induction xs generalizing s t with
  | nil => exact .nil
  | cons x xs ih =>
    simp only [records,List.mem_cons,forall_eq_or_imp] at hxs
    obtain ⟨ho,hR'⟩ := hstep s t x hR hxs.1
    exact .cons ⟨ho,hR'⟩ (ih hR' hxs.2)

end Machine
