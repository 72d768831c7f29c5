import Mathlib

/-! Byte-addressed memory behind a pointer, and the big-endian words stored in it.
Nothing here mentions a protocol. -/
set_option autoImplicit false

namespace ByteMemory

abbrev Byte := BitVec 8
abbrev Word := BitVec 16

/-- What a pointer gives access to: cell `i` is the `i`-th element after it. The
cells past the end of the object are there too, with arbitrary contents. -/
abbrev Mem (α : Type) := Nat → α

section Cells
variable {α : Type}

/-- Pointer arithmetic: `&m[k]`. -/
def Mem.off (m : Mem α) (k : Nat) : Mem α := fun i => m (k+i)

@[simp] theorem Mem.off_apply (m : Mem α) (k i : Nat) : m.off k i = m (k+i) := rfl

/-- The `n` cells from `k` on, as `memcpy` reads them. -/
def slice (m : Mem α) (k n : Nat) : List α := (List.range n).map fun i => m (k+i)

@[simp] theorem slice_length (m : Mem α) (k n : Nat) : (slice m k n).length = n := by
  simp [slice]

@[simp] theorem slice_zero (m : Mem α) (k : Nat) : slice m k 0 = [] := rfl

theorem slice_succ (m : Mem α) (k n : Nat) : slice m k (n+1) = slice m k n ++ [m (k+n)] := by
  simp [slice,List.range_succ]

theorem slice_cons (m : Mem α) (k n : Nat) : slice m k (n+1) = m k :: slice m (k+1) n := by
  simp only [slice,List.range_succ_eq_map,List.map_cons,List.map_map,Function.comp_def]
  congr 2
  funext i
  congr 1
  omega

theorem slice_add (m : Mem α) (k a b : Nat) :
    slice m k (a+b) = slice m k a ++ slice m (k+a) b := by
  simp [slice,List.range_add,Function.comp_def,Nat.add_assoc]

theorem slice_off (m : Mem α) (j k n : Nat) : slice (m.off j) k n = slice m (j+k) n := by
  simp [slice,Nat.add_assoc]

theorem slice_getElem? (m : Mem α) (k n i : Nat) :
    (slice m k n)[i]? = if i < n then some (m (k+i)) else none := by
  by_cases h : i < n
  · simp [slice,h]
  · simp [slice,h]

theorem slice_getD (m : Mem α) (k n i : Nat) (d : α) :
    (slice m k n).getD i d = if i < n then m (k+i) else d := by
  rw [List.getD_eq_getElem?_getD,slice_getElem?]
  split <;> rfl

theorem slice_congr {m m' : Mem α} {k n : Nat} (h : ∀ i, i < n → m (k+i) = m' (k+i)) :
    slice m k n = slice m' k n := by
  simp only [slice]
  exact List.map_congr_left fun i hi => h i (List.mem_range.mp hi)

theorem slice_drop (m : Mem α) (k n j : Nat) :
    (slice m k n).drop j = slice m (k+j) (n-j) := by
  apply List.ext_getElem?
  intro i
  simp only [List.getElem?_drop,slice_getElem?,Nat.add_assoc]
  congr 1
  simp; omega

theorem slice_take (m : Mem α) (k n j : Nat) (h : j ≤ n) :
    (slice m k n).take j = slice m k j := by
  obtain ⟨r,rfl⟩ := Nat.exists_eq_add_of_le h
  rw [slice_add,List.take_left' (by simp)]

/-- `memcpy(&m[k], xs, |xs|)`. -/
def store (m : Mem α) (k : Nat) (xs : List α) : Mem α :=
  fun i => if k ≤ i then xs.getD (i-k) (m i) else m i

theorem store_below (m : Mem α) (k : Nat) (xs : List α) (i : Nat) (h : i < k) :
    store m k xs i = m i := by
  simp [store,show ¬ k ≤ i by omega]

theorem store_above (m : Mem α) (k : Nat) (xs : List α) (i : Nat) (h : k+xs.length ≤ i) :
    store m k xs i = m i := by
  simp [store,show k ≤ i by omega,List.getElem?_eq_none (show xs.length ≤ i-k by omega)]

theorem store_inside (m : Mem α) (k : Nat) (xs : List α) (i : Nat) (h : i < xs.length) :
    store m k xs (k+i) = xs.get ⟨i,h⟩ := by
  simp [store,h]

theorem slice_store_before (m : Mem α) (k : Nat) (xs : List α) (n : Nat) (h : n ≤ k) :
    slice (store m k xs) 0 n = slice m 0 n :=
  slice_congr fun i hi => store_below m k xs (0+i) (by omega)

theorem slice_store (m : Mem α) (k : Nat) (xs : List α) :
    slice (store m k xs) k xs.length = xs := by
  apply List.ext_getElem?
  intro i
  rw [slice_getElem?]
  by_cases h : i < xs.length
  · simp [h,store_inside]
  · simp [h]

theorem slice_store_end (m : Mem α) (k : Nat) (xs : List α) :
    slice (store m k xs) 0 (k+xs.length) = slice m 0 k ++ xs := by
  rw [slice_add,slice_store_before m k xs k (le_refl k),Nat.zero_add,slice_store]

def put (m : Mem α) (k : Nat) (v : α) : Mem α := fun i => if i = k then v else m i

theorem store_cons (m : Mem α) (k : Nat) (x : α) (xs : List α) :
    store m k (x :: xs) = store (put m k x) (k+1) xs := by
  funext i
  rcases Nat.lt_trichotomy i k with h | rfl | h
  · rw [store_below m k _ i h,store_below _ _ xs i (by omega)]
    exact (if_neg (by omega)).symm
  · rw [store_below _ _ xs i (by omega)]
    simp [store,put]
  · have hi : i-k = i-(k+1)+1 := by omega
    simp [store,put,show k ≤ i by omega,show k+1 ≤ i by omega,show i ≠ k by omega,hi]

@[simp] theorem put_same (m : Mem α) (k : Nat) (v : α) : put m k v k = v := by simp [put]

theorem put_other (m : Mem α) (k : Nat) (v : α) (i : Nat) (h : i ≠ k) :
    put m k v i = m i := by simp [put,h]

theorem slice_put_end (m : Mem α) (n : Nat) (v : α) :
    slice (put m n v) 0 (n+1) = slice m 0 n ++ [v] := by
  rw [slice_succ,Nat.zero_add,put_same]
  congr 1
  exact slice_congr fun i hi => put_other m n v _ (by omega)

/-- The cells from `k` on hold the list. -/
def Stored (m : Mem α) (k : Nat) (xs : List α) : Prop := slice m k xs.length = xs

@[simp] theorem stored_nil (m : Mem α) (k : Nat) : Stored m k [] := rfl

@[simp] theorem stored_cons (m : Mem α) (k : Nat) (x : α) (xs : List α) :
    Stored m k (x :: xs) ↔ m k = x ∧ Stored m (k+1) xs := by
  simp only [Stored,List.length_cons,slice_cons,List.cons.injEq]

theorem stored_append (m : Mem α) (k : Nat) (xs ys : List α) :
    Stored m k (xs ++ ys) ↔ Stored m k xs ∧ Stored m (k+xs.length) ys := by
  simp only [Stored,List.length_append,slice_add]
  refine ⟨fun h => List.append_inj h (by simp),fun h => ?_⟩
  rw [h.1,h.2]

theorem Stored.slice_eq {m : Mem α} {k n : Nat} {xs : List α} (h : Stored m k xs)
    (hn : n = xs.length) : slice m k n = xs := by
  rw [hn]
  exact h

theorem Stored.get {m : Mem α} {k : Nat} {xs : List α} (h : Stored m k xs) (i : Nat)
    (hi : i < xs.length) : m (k+i) = xs.get ⟨i,hi⟩ := by
  have hg := congrArg (fun l => l[i]?) h
  simp only [slice_getElem?,hi,if_true,List.getElem?_eq_getElem hi] at hg
  simpa using hg

theorem stored_off (m : Mem α) (j k : Nat) (xs : List α) :
    Stored (m.off j) k xs ↔ Stored m (j+k) xs := by
  simp only [Stored,slice_off]

theorem stored_slice (m : Mem α) (k n : Nat) : Stored m k (slice m k n) := by
  simp [Stored]

end Cells

/-- A byte string at the start of a zeroed object. -/
def ofList (xs : List Byte) : Mem Byte := fun i => xs.getD i 0

@[simp] theorem ofList_cons_zero (a : Byte) (xs : List Byte) : ofList (a :: xs) 0 = a := rfl

@[simp] theorem ofList_cons_succ (a : Byte) (xs : List Byte) (i : Nat) :
    ofList (a :: xs) (i+1) = ofList xs i := rfl

theorem ofList_append_left (xs ys : List Byte) (i : Nat) (h : i < xs.length) :
    ofList (xs ++ ys) i = ofList xs i := by
  simp only [ofList,List.getD_eq_getElem?_getD]
  rw [List.getElem?_append_left h]

theorem ofList_append_right (xs ys : List Byte) (i : Nat) :
    ofList (xs ++ ys) (xs.length+i) = ofList ys i := by
  simp only [ofList,List.getD_eq_getElem?_getD]
  rw [List.getElem?_append_right (by omega)]
  simp

theorem slice_ofList (xs : List Byte) : slice (ofList xs) 0 xs.length = xs := by
  apply List.ext_getElem?
  intro i
  rw [slice_getElem?]
  by_cases h : i < xs.length
  · simp [h,ofList]
  · simp [h]

theorem Stored.ofList_eq {m : Mem Byte} {k : Nat} {xs : List Byte} (h : Stored m k xs) (i : Nat)
    (hi : i < xs.length) : m (k+i) = ofList xs i := by
  rw [h.get i hi]
  simp [ofList,hi]

theorem stored_ofList (xs ys : List Byte) : Stored (ofList (xs ++ ys)) 0 xs := by
  have h : slice (ofList (xs ++ ys)) 0 xs.length = slice (ofList xs) 0 xs.length :=
    slice_congr fun i hi => ofList_append_left xs ys (0+i) (by omega)
  exact h.trans (slice_ofList xs)

/-! Two bytes make a word, most significant byte first. -/

def be16 (a b : Byte) : Word := (a.setWidth 16 <<< 8) ||| b.setWidth 16

def hiByte (v : Word) : Byte := (v >>> 8).setWidth 8

def loByte (v : Word) : Byte := v.setWidth 8

def readBe16 (p : Mem Byte) : Word := be16 (p 0) (p 1)

def writeBe16 (v : Word) : List Byte := [hiByte v,loByte v]

@[simp] theorem readBe16_off (m : Mem Byte) (k : Nat) :
    readBe16 (m.off k) = be16 (m k) (m (k+1)) := rfl

theorem be16_toNat (a b : Byte) : (be16 a b).toNat = a.toNat*256+b.toNat := by
  have h := Nat.shiftLeft_add_eq_or_of_lt (i := 8) (b := b.toNat) (by omega) a.toNat
  have hs : a.toNat <<< 8 = a.toNat*256 := by rw [Nat.shiftLeft_eq]
  simp only [be16,BitVec.toNat_or,BitVec.toNat_shiftLeft,BitVec.toNat_setWidth]
  rw [Nat.mod_eq_of_lt (a := a.toNat) (by omega),Nat.mod_eq_of_lt (a := b.toNat) (by omega),
    Nat.mod_eq_of_lt (by omega),← h]
  omega

theorem hiByte_toNat (v : Word) : (hiByte v).toNat = v.toNat/256 := by
  simp only [hiByte,BitVec.toNat_setWidth,BitVec.toNat_ushiftRight,Nat.shiftRight_eq_div_pow]
  omega

theorem loByte_toNat (v : Word) : (loByte v).toNat = v.toNat%256 := by
  simp [loByte]

@[simp] theorem be16_bytes (v : Word) : be16 (hiByte v) (loByte v) = v := by
  apply BitVec.eq_of_toNat_eq
  rw [be16_toNat,hiByte_toNat,loByte_toNat]
  omega

@[simp] theorem hiByte_be16 (a b : Byte) : hiByte (be16 a b) = a := by
  apply BitVec.eq_of_toNat_eq
  rw [hiByte_toNat,be16_toNat]
  omega

@[simp] theorem loByte_be16 (a b : Byte) : loByte (be16 a b) = b := by
  apply BitVec.eq_of_toNat_eq
  rw [loByte_toNat,be16_toNat]
  omega

@[simp] theorem writeBe16_length (v : Word) : (writeBe16 v).length = 2 := rfl

theorem writeBe16_be16 (a b : Byte) : writeBe16 (be16 a b) = [a,b] := by simp [writeBe16]

theorem stored_writeBe16 (m : Mem Byte) (k : Nat) (v : Word) (xs : List Byte) :
    Stored m k (writeBe16 v ++ xs) ↔ readBe16 (m.off k) = v ∧ Stored m (k+2) xs := by
  simp only [writeBe16,List.cons_append,List.nil_append,stored_cons,readBe16_off,← and_assoc]
  refine and_congr_left fun _ => ⟨?_,?_⟩
  · rintro ⟨h0,h1⟩
    rw [h0,h1,be16_bytes]
  · rintro rfl
    simp

def encodeWords (vs : List Word) : List Byte := vs.flatMap writeBe16

@[simp] theorem encodeWords_length (vs : List Word) : (encodeWords vs).length = 2*vs.length := by
  induction vs with
  | nil => rfl
  | cons v vs ih =>
    simp only [encodeWords,List.flatMap_cons,List.length_append,writeBe16_length,
      List.length_cons] at ih ⊢
    omega

/-- The words that lie in memory from `k` on. -/
def wordsAt (m : Mem Byte) : (k n : Nat) → List Word
  | _, 0 => []
  | k, n+1 => readBe16 (m.off k) :: wordsAt m (k+2) n

@[simp] theorem wordsAt_length (m : Mem Byte) (k n : Nat) : (wordsAt m k n).length = n := by
  induction n generalizing k with
  | zero => rfl
  | succ n ih => simp [wordsAt,ih]

theorem stored_wordsAt (m : Mem Byte) (k n : Nat) : Stored m k (encodeWords (wordsAt m k n)) := by
  induction n generalizing k with
  | zero => exact stored_nil m k
  | succ n ih =>
    have h : encodeWords (wordsAt m k (n+1)) =
        m k :: m (k+1) :: encodeWords (wordsAt m (k+2) n) := by
      simp [wordsAt,encodeWords,writeBe16]
    rw [h,stored_cons,stored_cons]
    exact ⟨rfl,rfl,ih (k+2)⟩

theorem Stored.wordsAt_eq {m : Mem Byte} {k : Nat} {vs : List Word}
    (h : Stored m k (encodeWords vs)) : wordsAt m k vs.length = vs := by
  induction vs generalizing k with
  | nil => rfl
  | cons v vs ih =>
    have hcons : encodeWords (v :: vs) = hiByte v :: loByte v :: encodeWords vs := by
      simp [encodeWords,writeBe16]
    rw [hcons,stored_cons,stored_cons] at h
    rw [List.length_cons,wordsAt,ih h.2.2,readBe16_off,h.1,h.2.1,be16_bytes]

theorem wordsAt_getD (m : Mem Byte) (k n i : Nat) (hi : i < n) :
    (wordsAt m k n).getD i 0 = readBe16 (m.off (k+2*i)) := by
  induction n generalizing k i with
  | zero => omega
  | succ n ih =>
    cases i with
    | zero => rfl
    | succ i =>
      rw [wordsAt,List.getD_cons_succ,ih (k+2) i (by omega)]
      congr 2
      omega

theorem stored_readWord {m : Mem Byte} {k : Nat} {vs : List Word}
    (h : Stored m k (encodeWords vs)) (i : Nat) (hi : i < vs.length) :
    readBe16 (m.off (k+2*i)) = vs.getD i 0 := by
  rw [← wordsAt_getD m k vs.length i hi,h.wordsAt_eq]

/-! Partial functions laid over a total one; a later one hides an earlier one. -/

section Overlays
variable {ι α : Type}

def overlay (m : ι → α) (f : ι → Option α) : ι → α := fun i => (f i).getD (m i)

/-- The value of the last overlay that has one. -/
def lastValue : List (ι → Option α) → ι → Option α
  | [], _ => none
  | f :: fs, i => (lastValue fs i).or (f i)

theorem foldl_overlay (fs : List (ι → Option α)) (m : ι → α) (i : ι) :
    fs.foldl overlay m i = (lastValue fs i).getD (m i) := by
  induction fs generalizing m with
  | nil => rfl
  | cons f fs ih =>
    rw [List.foldl_cons,ih,lastValue]
    cases lastValue fs i with
    | none => rfl
    | some v => rfl

end Overlays

end ByteMemory
