import Mathlib

/-! A table of slots, free or taken, as a partial map of bounded size. -/
set_option autoImplicit false

namespace SlotTable
variable {κ ν : Type}

/-- The entries of the first `n` slots are those of the map, each key in one slot. -/
structure Represents (n : ℕ) (slots : ℕ → Option (κ × ν)) (lookup : κ → Option ν) : Prop where
  unique : ∀ i j k v w, i < n → j < n → slots i = some (k,v) → slots j = some (k,w) → i = j
  lookup_iff : ∀ k v, lookup k = some v ↔ ∃ i < n, slots i = some (k,v)

noncomputable def size (lookup : κ → Option ν) : ℕ := {k | lookup k ≠ none}.ncard

def taken (n : ℕ) (slots : ℕ → Option (κ × ν)) : Finset ℕ :=
  (Finset.range n).filter fun i => (slots i).isSome

section Rules
variable {n i : ℕ} {slots : ℕ → Option (κ × ν)} {lookup : κ → Option ν} {k : κ} {v w : ν}

theorem Represents.empty : Represents n (fun _ => (none : Option (κ × ν))) fun _ => none :=
  ⟨by simp,by simp⟩

theorem Represents.lookup_slot (h : Represents n slots lookup) (hi : i < n)
    (hs : slots i = some (k,v)) : lookup k = some v :=
  (h.lookup_iff k v).mpr ⟨i,hi,hs⟩

theorem Represents.absent (h : Represents n slots lookup) :
    lookup k = none ↔ ∀ i < n, ∀ v, slots i ≠ some (k,v) := by
  rw [Option.eq_none_iff_forall_ne_some]
  constructor
  · intro hk i hi v hs
    exact hk v (h.lookup_slot hi hs)
  · intro hk v hv
    obtain ⟨i,hi,hs⟩ := (h.lookup_iff k v).mp hv
    exact hk i hi v hs

/-- The map has as many keys as slots are taken. -/
theorem Represents.size_eq (h : Represents n slots lookup) : size lookup = (taken n slots).card := by
  have himage : some '' {k | lookup k ≠ none} =
      (fun i => (slots i).map Prod.fst) '' (taken n slots : Set ℕ) := by
    ext x
    simp only [Set.mem_image,Set.mem_ofPred_eq,taken,Finset.coe_filter,Finset.mem_range]
    constructor
    · rintro ⟨k,hk,rfl⟩
      obtain ⟨v,hv⟩ := Option.ne_none_iff_exists'.mp hk
      obtain ⟨i,hi,hs⟩ := (h.lookup_iff k v).mp hv
      exact ⟨i,⟨hi,by simp [hs]⟩,by simp [hs]⟩
    · rintro ⟨i,⟨hi,hsome⟩,rfl⟩
      obtain ⟨⟨k,v⟩,hs⟩ := Option.isSome_iff_exists.mp hsome
      exact ⟨k,by simp [h.lookup_slot hi hs],by simp [hs]⟩
  have hinj : Set.InjOn (fun i => (slots i).map Prod.fst) (taken n slots : Set ℕ) := by
    intro i hi j hj hij
    simp only [taken,Finset.coe_filter,Finset.mem_range,Set.mem_ofPred_eq] at hi hj
    obtain ⟨⟨k,v⟩,hsi⟩ := Option.isSome_iff_exists.mp hi.2
    obtain ⟨⟨k',w⟩,hsj⟩ := Option.isSome_iff_exists.mp hj.2
    simp only [hsi,hsj,Option.map_some,Option.some.injEq] at hij
    subst hij
    exact h.unique i j k v w hi.1 hj.1 hsi hsj
  rw [size,← Set.ncard_image_of_injective _ (Option.some_injective κ),himage,
    hinj.ncard_image,Set.ncard_coe_finset]

theorem Represents.size_le (h : Represents n slots lookup) : size lookup ≤ n := by
  rw [h.size_eq]
  exact (Finset.card_filter_le _ _).trans (Finset.card_range n).le

theorem Represents.full_iff (h : Represents n slots lookup) :
    size lookup = n ↔ ∀ i < n, slots i ≠ none := by
  have hcard : (taken n slots).card = (Finset.range n).card ↔ taken n slots = Finset.range n :=
    ⟨Finset.eq_of_subset_of_card_le (Finset.filter_subset _ _) ∘ Eq.ge,congrArg Finset.card⟩
  rw [Finset.card_range] at hcard
  rw [h.size_eq,hcard,taken,Finset.filter_eq_self]
  simp only [Finset.mem_range,Option.isSome_iff_ne_none]

variable [DecidableEq κ]

theorem Represents.set (h : Represents n slots lookup) (hi : i < n)
    (hslot : (∃ v, slots i = some (k,v)) ∨ slots i = none ∧ lookup k = none) :
    Represents n (Function.update slots i (some (k,w))) (Function.update lookup k (some w)) := by
  have hother : ∀ j < n, j ≠ i → ∀ v, slots j ≠ some (k,v) := by
    intro j hj hne v hs
    rcases hslot with ⟨u,hu⟩ | ⟨-,hnone⟩
    · exact hne (h.unique j i k v u hj hi hs hu)
    · exact h.absent.mp hnone j hj v hs
  constructor
  · intro a b key x y ha hb hsa hsb
    rw [Function.update_apply] at hsa hsb
    split at hsa
    · split at hsb
      · omega
      · rename_i hb'
        cases hsa
        exact absurd hsb (hother b hb hb' y)
    · rename_i ha'
      split at hsb
      · cases hsb
        exact absurd hsa (hother a ha ha' x)
      · exact h.unique a b key x y ha hb hsa hsb
  · intro key x
    rw [Function.update_apply]
    split
    · rename_i hkey
      subst hkey
      constructor
      · intro hx
        cases hx
        exact ⟨i,hi,by simp⟩
      · rintro ⟨j,hj,hs⟩
        rw [Function.update_apply] at hs
        split at hs
        · cases hs
          rfl
        · rename_i hne
          exact absurd hs (hother j hj hne x)
    · rename_i hkey
      rw [h.lookup_iff]
      constructor
      · rintro ⟨j,hj,hs⟩
        refine ⟨j,hj,?_⟩
        rw [Function.update_of_ne,hs]
        rintro rfl
        rcases hslot with ⟨u,hu⟩ | ⟨hnone,-⟩
        · rw [hs] at hu
          cases hu
          exact hkey rfl
        · rw [hs] at hnone
          cases hnone
      · rintro ⟨j,hj,hs⟩
        rw [Function.update_apply] at hs
        split at hs
        · cases hs
          exact absurd rfl hkey
        · exact ⟨j,hj,hs⟩

theorem Represents.erase (h : Represents n slots lookup) (hi : i < n)
    (hslot : slots i = some (k,v)) :
    Represents n (Function.update slots i none) (Function.update lookup k none) := by
  constructor
  · intro a b key x y ha hb hsa hsb
    rw [Function.update_apply] at hsa hsb
    split at hsa
    · cases hsa
    split at hsb
    · cases hsb
    exact h.unique a b key x y ha hb hsa hsb
  · intro key x
    rw [Function.update_apply]
    split
    · rename_i hkey
      subst hkey
      simp only [reduceCtorEq,false_iff,not_exists,not_and]
      intro j hj hs
      rw [Function.update_apply] at hs
      split at hs
      · cases hs
      · rename_i hne
        exact hne (h.unique j i key x v hj hi hs hslot)
    · rename_i hkey
      rw [h.lookup_iff]
      constructor
      · rintro ⟨j,hj,hs⟩
        refine ⟨j,hj,?_⟩
        rw [Function.update_of_ne,hs]
        rintro rfl
        rw [hs] at hslot
        cases hslot
        exact hkey rfl
      · rintro ⟨j,hj,hs⟩
        rw [Function.update_apply] at hs
        split at hs
        · cases hs
        · exact ⟨j,hj,hs⟩

end Rules

end SlotTable
