import Mathlib.Data.List.Basic
import Mathlib.Order.Nat
import Mathlib.Data.Nat.Init
import Parlance.Similarity

/-!
The table of edit distances. Main statements: `costs_table`, that its entries follow the recurrence of
the distances, `editDistance_eq_zero_iff`, that only equal texts have no distance, and
`editDistance_le`, that no distance exceeds the longer length.
-/

namespace Parlance

namespace EditDistance

variable {a b : Array Char} {cost cost' : Nat → Nat → Nat} {i j m n : Nat}

/-! The recurrence. -/

theorem lastPlace_le (l : Array Char) (c : Char) (n : Nat) : lastPlace l c n ≤ n := by
  induction n with
  | zero => exact Nat.le_refl 0
  | succ n ih =>
    rw [lastPlace]
    split
    · exact Nat.le_refl _
    · exact Nat.le_succ_of_le ih

/-- A step looks at the costs of shorter beginnings only. -/
theorem step_congr
    (h : ∀ i' j', i' ≤ i + 1 → j' ≤ j + 1 → i' ≤ i ∨ j' ≤ j → cost i' j' = cost' i' j') :
    step cost a b i j = step cost' a b i j := by
  have hk := lastPlace_le a (b.getD j '\x00') i
  have hl := lastPlace_le b (a.getD i '\x00') j
  unfold step
  dsimp only
  rw [h i j (by omega) (by omega) (by omega), h i (j + 1) (by omega) (by omega) (by omega),
    h (i + 1) j (by omega) (by omega) (by omega),
    h (lastPlace a (b.getD j '\x00') i - 1) (lastPlace b (a.getD i '\x00') j - 1) (by omega) (by omega)
      (by omega)]

/-- Costs of the first `m` characters of one text that follow the recurrence. -/
structure Costs (a b : Array Char) (cost : Nat → Nat → Nat) (m : Nat) : Prop where
  left : ∀ j ≤ b.size, cost 0 j = j
  right : ∀ i ≤ m, cost i 0 = i
  step : ∀ i < m, ∀ j < b.size, cost (i + 1) (j + 1) = step cost a b i j

/-! The rows of the table. -/

theorem getD_push_of_lt {α : Type} {l : Array α} (h : i < l.size) (x d : α) :
    (l.push x).getD i d = l.getD i d := by
  rw [Array.getD_eq_getD_getElem?, Array.getD_eq_getD_getElem?, Array.getElem?_push, if_neg h.ne]

theorem getD_push_size {α : Type} (l : Array α) (x d : α) : (l.push x).getD l.size d = x := by
  rw [Array.getD_eq_getD_getElem?, Array.getElem?_push, if_pos rfl, Option.getD_some]

/-- The first `n + 1` entries of row `i + 1`. -/
def rowTo (a b : Array Char) (rows : Array (Array Nat)) (i n : Nat) : Array Nat :=
  (List.range n).foldl (fun row j => row.push (step (entry (rows.push row)) a b i j)) #[i + 1]

variable {rows : Array (Array Nat)} {row : Array Nat}

theorem rowTo_succ (a b : Array Char) (rows : Array (Array Nat)) (i n : Nat) :
    rowTo a b rows i (n + 1) =
      (rowTo a b rows i n).push (step (entry (rows.push (rowTo a b rows i n))) a b i n) := by
  rw [rowTo, List.range_succ, List.foldl_append]
  rfl

theorem size_rowTo (a b : Array Char) (rows : Array (Array Nat)) (i n : Nat) :
    (rowTo a b rows i n).size = n + 1 := by
  induction n with
  | zero => rfl
  | succ n ih => rw [rowTo_succ, Array.size_push, ih]

/-- An entry of a row stays when the row grows. -/
theorem getD_rowTo (hj : j ≤ m) (hm : m ≤ n) :
    (rowTo a b rows i n).getD j 0 = (rowTo a b rows i m).getD j 0 := by
  induction n, hm using Nat.le_induction with
  | base => rfl
  | succ n hmn ih => rw [rowTo_succ, getD_push_of_lt (by rw [size_rowTo]; omega), ih]

theorem entry_push_of_lt (h : i < rows.size) : entry (rows.push row) i j = entry rows i j := by
  rw [entry, entry, getD_push_of_lt h]

theorem entry_push_size (h : rows.size = i) : entry (rows.push row) i j = row.getD j 0 := by
  rw [entry, ← h, getD_push_size]

/-- Each entry of the next row is a step from the entries before it. -/
theorem entry_push_nextRow (hsize : rows.size = i + 1) (hj : j < b.size) :
    let cost := entry (rows.push (nextRow a b rows i))
    cost (i + 1) (j + 1) = step cost a b i j := by
  intro cost
  have hgiven : cost (i + 1) (j + 1) = step (entry (rows.push (rowTo a b rows i j))) a b i j := by
    change entry (rows.push (rowTo a b rows i b.size)) (i + 1) (j + 1) = _
    have hlast := getD_push_size (rowTo a b rows i j)
      (step (entry (rows.push (rowTo a b rows i j))) a b i j) 0
    rw [size_rowTo] at hlast
    rw [entry_push_size hsize, getD_rowTo (Nat.le_refl _) hj, rowTo_succ, hlast]
  rw [hgiven]
  apply step_congr
  intro i' j' hi' hj' hbefore
  change _ = entry (rows.push (rowTo a b rows i b.size)) i' j'
  rcases hi'.lt_or_eq with hlt | rfl
  · rw [entry_push_of_lt (by omega), entry_push_of_lt (by omega)]
  · rw [entry_push_size hsize, entry_push_size hsize, getD_rowTo (show j' ≤ j by omega) hj.le]

/-- The first `n + 1` rows. -/
def rowsTo (a b : Array Char) (n : Nat) : Array (Array Nat) :=
  (List.range n).foldl (fun rows i => rows.push (nextRow a b rows i)) #[Array.range (b.size + 1)]

theorem rowsTo_succ (a b : Array Char) (n : Nat) :
    rowsTo a b (n + 1) = (rowsTo a b n).push (nextRow a b (rowsTo a b n) n) := by
  rw [rowsTo, List.range_succ, List.foldl_append]
  rfl

theorem size_rowsTo (a b : Array Char) (n : Nat) : (rowsTo a b n).size = n + 1 := by
  induction n with
  | zero => rfl
  | succ n ih => rw [rowsTo_succ, Array.size_push, ih]

theorem costs_rowsTo (a b : Array Char) (n : Nat) : Costs a b (entry (rowsTo a b n)) n := by
  induction n with
  | zero =>
    have hfirst : ∀ j ≤ b.size, entry (rowsTo a b 0) 0 j = j := by
      intro j hj
      change (Array.range (b.size + 1)).getD j 0 = j
      rw [Array.getD_eq_getD_getElem?, Array.getElem?_range, if_pos (by omega), Option.getD_some]
    refine ⟨hfirst, fun i hi => ?_, fun i hi => absurd hi (Nat.not_lt_zero i)⟩
    obtain rfl : i = 0 := by omega
    exact hfirst 0 (Nat.zero_le _)
  | succ n ih =>
    have hsize := size_rowsTo a b n
    have hold : ∀ i ≤ n, ∀ j, entry (rowsTo a b (n + 1)) i j = entry (rowsTo a b n) i j := by
      intro i hi j
      rw [rowsTo_succ, entry_push_of_lt (by omega)]
    constructor
    · intro j hj
      rw [hold 0 (Nat.zero_le n), ih.left j hj]
    · intro i hi
      rcases hi.lt_or_eq with hlt | rfl
      · rw [hold i (by omega), ih.right i (by omega)]
      · rw [rowsTo_succ, entry_push_size hsize]
        change (rowTo a b (rowsTo a b n) n b.size).getD 0 0 = n + 1
        rw [getD_rowTo (Nat.le_refl 0) (Nat.zero_le _)]
        rfl
    · intro i hi j hj
      rcases Nat.lt_succ_iff_lt_or_eq.1 hi with hlt | rfl
      · rw [hold (i + 1) (by omega), ih.step i (by omega) j hj]
        apply step_congr
        intro i' j' hi' _ _
        rw [hold i' (by omega)]
      · rw [rowsTo_succ]
        exact entry_push_nextRow hsize hj

theorem costs_table (a b : Array Char) : Costs a b (entry (table a b)) a.size :=
  costs_rowsTo a b a.size

/-! What follows from the recurrence. -/

theorem step_le_replaced (cost : Nat → Nat → Nat) (a b : Array Char) (i j : Nat) :
    step cost a b i j ≤ cost i j + if a.getD i '\x00' = b.getD j '\x00' then 0 else 1 := by
  unfold step
  dsimp only
  split <;> omega

/-- Only replacing a character by itself costs nothing. -/
theorem step_eq_zero_iff (cost : Nat → Nat → Nat) (a b : Array Char) (i j : Nat) :
    step cost a b i j = 0 ↔ cost i j = 0 ∧ a.getD i '\x00' = b.getD j '\x00' := by
  unfold step
  dsimp only
  constructor
  · intro h
    split at h <;> split at h <;> first | exact ⟨by omega, ‹_›⟩ | omega
  · rintro ⟨hcost, hsame⟩
    rw [hcost, if_pos hsame]
    split <;> omega

theorem Costs.le_max (h : Costs a b cost m) (hi : i ≤ m) (hj : j ≤ b.size) :
    cost i j ≤ max i j := by
  induction i generalizing j with
  | zero => rw [h.left j hj, Nat.zero_max]
  | succ i ih =>
    cases j with
    | zero => rw [h.right _ hi, Nat.max_zero]
    | succ j =>
      have hshorter := ih (by omega) (show j ≤ b.size by omega)
      have hstep := step_le_replaced cost a b i j
      rw [h.step i hi j hj]
      split at hstep <;> omega

/-- Beginnings without cost are equal. -/
theorem Costs.eq_of_eq_zero (h : Costs a b cost m) (hi : i ≤ m) (hj : j ≤ b.size)
    (hzero : cost i j = 0) : i = j ∧ ∀ k < i, a.getD k '\x00' = b.getD k '\x00' := by
  induction i generalizing j with
  | zero =>
    rw [h.left j hj] at hzero
    exact ⟨hzero.symm, fun k hk => absurd hk (Nat.not_lt_zero k)⟩
  | succ i ih =>
    cases j with
    | zero =>
      rw [h.right _ hi] at hzero
      cases hzero
    | succ j =>
      rw [h.step i hi j hj, step_eq_zero_iff] at hzero
      obtain ⟨rfl, hsame⟩ := ih (by omega) (by omega) hzero.1
      refine ⟨rfl, fun k hk => ?_⟩
      rcases (Nat.le_of_lt_succ hk).lt_or_eq with hlt | rfl
      · exact hsame k hlt
      · exact hzero.2

theorem Costs.eq_zero_of_same (h : Costs a b cost m) (hi : i ≤ m) (hi' : i ≤ b.size)
    (hsame : ∀ k < i, a.getD k '\x00' = b.getD k '\x00') : cost i i = 0 := by
  induction i with
  | zero => exact h.left 0 (Nat.zero_le _)
  | succ i ih =>
    rw [h.step i hi i hi', step_eq_zero_iff]
    exact ⟨ih (by omega) (by omega) fun k hk => hsame k (by omega), hsame i (Nat.lt_succ_self i)⟩

end EditDistance

open EditDistance

theorem editDistance_le (a b : List Char) : editDistance a b ≤ max a.length b.length :=
  (costs_table a.toArray b.toArray).le_max (Nat.le_refl _) (Nat.le_refl _)

/-- Only equal texts have no distance. -/
theorem editDistance_eq_zero_iff {a b : List Char} : editDistance a b = 0 ↔ a = b := by
  have hcosts := costs_table a.toArray b.toArray
  constructor
  · intro h
    obtain ⟨hlength, hsame⟩ := hcosts.eq_of_eq_zero (Nat.le_refl _) (Nat.le_refl _) h
    apply List.ext_getElem hlength
    intro k hk hk'
    have hchar := hsame k hk
    rwa [Array.getD_eq_getD_getElem?, Array.getD_eq_getD_getElem?, List.getElem?_toArray,
      List.getElem?_toArray, List.getElem?_eq_getElem hk, List.getElem?_eq_getElem hk'] at hchar
  · rintro rfl
    exact hcosts.eq_zero_of_same (Nat.le_refl _) (Nat.le_refl _) fun k _ => rfl

end Parlance
