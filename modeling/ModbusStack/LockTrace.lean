import Mathlib.Data.List.Basic

/-! Traces of one non-recursive lock: an automaton that follows a trace, and the shape of
the traces that it accepts. -/
set_option autoImplicit false

namespace LockTrace

/-- What a trace records: the two lock calls, a write of guarded state, and a call of
foreign code that may take the lock itself. -/
inductive Action where
  | lock | unlock | write | call
  deriving DecidableEq, Repr

/-- Whether the lock is held afterwards; `none` when the action is not allowed. -/
def next : Bool → Action → Option Bool
  | false, .lock => some true
  | true, .unlock => some false
  | true, .write => some true
  | false, .call => some false
  | _, _ => none

def scan (held : Bool) : List Action → Option Bool
  | [] => some held
  | a :: l => (next held a).bind fun held => scan held l

theorem scan_append (held : Bool) (l l' : List Action) :
    scan held (l ++ l') = (scan held l).bind fun held => scan held l' := by
  induction l generalizing held with
  | nil => rfl
  | cons a l ih =>
    simp only [List.cons_append,scan]
    cases next held a with
    | none => rfl
    | some held' => exact ih held'

/-- Non-nested pairs with nothing but writes inside and nothing but calls between them. -/
inductive Sections : List Action → Prop
  | nil : Sections []
  | call {l : List Action} (h : Sections l) : Sections (.call :: l)
  | pair (writes : Nat) {l : List Action} (h : Sections l) :
    Sections (.lock :: (List.replicate writes .write ++ .unlock :: l))

/-- The automaton ends unlocked exactly on such traces; with the lock held, the rest of the
trace is the rest of a pair. -/
theorem sections_of_scan (held : Bool) (l : List Action) (h : scan held l = some false) :
    if held then ∃ writes l', l = List.replicate writes .write ++ .unlock :: l' ∧ Sections l'
    else Sections l := by
  induction l generalizing held with
  | nil =>
    cases held with
    | true => simp [scan] at h
    | false => exact .nil
  | cons a l ih =>
    cases held <;> cases a <;> simp only [scan,next,Option.bind_none,Option.bind_some] at h
    case false.lock =>
      obtain ⟨writes,l',rfl,hl⟩ := ih true h
      exact .pair writes hl
    case false.call => exact .call (ih false h)
    case true.unlock => exact ⟨0,l,rfl,ih false h⟩
    case true.write =>
      obtain ⟨writes,l',rfl,hl⟩ := ih true h
      exact ⟨writes+1,l',rfl,hl⟩
    all_goals cases h

end LockTrace
