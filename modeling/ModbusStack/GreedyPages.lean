import Mathlib

/-! Splitting a list into pages of bounded size, each page taking as much as fits. -/
set_option autoImplicit false

namespace GreedyPages
variable {α : Type} (size : α → Nat)

def total (xs : List α) : Nat := (xs.map size).sum

@[simp] theorem total_nil : total size [] = 0 := rfl

@[simp] theorem total_cons (x : α) (xs : List α) : total size (x :: xs) = size x+total size xs := by
  simp [total]

def takeWithin : Nat → List α → List α
  | _, [] => []
  | room, x :: xs => if size x ≤ room then x :: takeWithin (room-size x) xs else []

def rest (room : Nat) (xs : List α) : List α := xs.drop (takeWithin size room xs).length

variable {size}

theorem takeWithin_cons_fits {room : Nat} {x : α} (xs : List α) (h : size x ≤ room) :
    takeWithin size room (x :: xs) = x :: takeWithin size (room-size x) xs := if_pos h

theorem rest_cons_fits {room : Nat} {x : α} (xs : List α) (h : size x ≤ room) :
    rest size room (x :: xs) = rest size (room-size x) xs := by
  simp [rest,takeWithin_cons_fits xs h]

variable (size) in
theorem takeWithin_append_rest (room : Nat) (xs : List α) :
    takeWithin size room xs ++ rest size room xs = xs := by
  induction xs generalizing room with
  | nil => rfl
  | cons x xs ih =>
    by_cases h : size x ≤ room
    · rw [takeWithin_cons_fits xs h,rest_cons_fits xs h,List.cons_append,ih]
    · simp [rest,takeWithin,h]

variable (size) in
theorem total_takeWithin_le (room : Nat) (xs : List α) :
    total size (takeWithin size room xs) ≤ room := by
  induction xs generalizing room with
  | nil => simp [takeWithin]
  | cons x xs ih =>
    by_cases h : size x ≤ room
    · rw [takeWithin_cons_fits xs h,total_cons]
      have := ih (room-size x)
      omega
    · simp [takeWithin,h]

theorem lt_total_of_rest {room : Nat} {xs ys : List α} {y : α}
    (h : rest size room xs = y :: ys) : room < total size (takeWithin size room xs)+size y := by
  induction xs generalizing room with
  | nil => cases h
  | cons x xs ih =>
    by_cases hx : size x ≤ room
    · rw [rest_cons_fits xs hx] at h
      rw [takeWithin_cons_fits xs hx,total_cons]
      have := ih h
      omega
    · simp only [rest,takeWithin,hx,if_false,List.length_nil,List.drop_zero] at h
      cases h
      simp only [takeWithin,hx,if_false,total_nil]
      omega

variable (size)

/-- `pages` cuts a list into greedy pages: none is empty or too large, and none could
have taken the first element of the next. -/
inductive Paginates (room : Nat) : List α → List (List α) → Prop
  | last (page : List α) : page ≠ [] → total size page ≤ room → Paginates room page [page]
  | more (page : List α) (y : α) (ys : List α) (pages : List (List α)) :
      page ≠ [] → total size page ≤ room → room < total size page+size y →
      Paginates room (y :: ys) pages → Paginates room (page ++ y :: ys) (page :: pages)

variable {size}

namespace Paginates
variable {room : Nat} {xs : List α} {pages : List (List α)}

theorem flatten_eq (h : Paginates size room xs pages) : pages.flatten = xs := by
  induction h with
  | last => simp
  | more page y ys pages _ _ _ _ ih => simp [ih]

theorem page_ne_nil (h : Paginates size room xs pages) : ∀ page ∈ pages, page ≠ [] := by
  induction h with
  | last page hne _ => simpa using hne
  | more page y ys pages hne _ _ _ ih => simpa [hne] using ih

theorem total_page_le (h : Paginates size room xs pages) :
    ∀ page ∈ pages, total size page ≤ room := by
  induction h with
  | last page _ hle => simpa using hle
  | more page y ys pages _ hle _ _ ih => simpa [hle] using ih

theorem head?_flatten (h : Paginates size room xs pages) :
    pages.head?.bind List.head? = xs.head? := by
  cases h with
  | last => rfl
  | more page y ys pages hne _ _ _ =>
    obtain ⟨x,page,rfl⟩ := List.exists_cons_of_ne_nil hne
    rfl

/-- A page stops only where the next element does not fit. -/
theorem page_maximal (h : Paginates size room xs pages) (before after : List (List α))
    (page next : List α) (hp : pages = before ++ page :: next :: after) :
    ∃ y, next.head? = some y ∧ room < total size page+size y := by
  induction h generalizing before with
  | last p _ _ =>
    have := congrArg List.length hp
    simp at this
    omega
  | more p y ys pages _ _ hlt hrest ih =>
    cases before with
    | nil =>
      simp only [List.nil_append,List.cons.injEq] at hp
      obtain ⟨rfl,rfl⟩ := hp
      exact ⟨y,by simpa using hrest.head?_flatten,hlt⟩
    | cons b before =>
      simp only [List.cons_append,List.cons.injEq] at hp
      exact ih before hp.2

end Paginates

end GreedyPages
