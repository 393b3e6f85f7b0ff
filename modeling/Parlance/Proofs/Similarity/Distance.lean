import Mathlib.Order.Bounds.Basic
import Parlance.Proofs.Similarity.Edits
import Parlance.Proofs.Similarity.Table

/-!
What the table of edit distances counts. Main statements: `Costs.le_iff`, that an entry is the least cost
of taking two beginnings apart, and `isLeast_editDistance`, that the distance of two texts is the least
number of edits that turn one into the other.
-/

namespace Parlance

namespace EditDistance

variable {a b l : Array Char} {cost : Nat → Nat → Nat} {p r : List Char} {x : Char} {i j k m n : Nat}

/-! Beginnings of texts. -/

/-- The first characters of a text, the last one of them first. -/
def front (l : Array Char) (n : Nat) : List Char :=
  (l.toList.take n).reverse

theorem front_zero (l : Array Char) : front l 0 = [] :=
  rfl

theorem front_size (l : Array Char) : front l l.size = l.toList.reverse := by
  rw [front, ← Array.length_toList, List.take_length]

theorem getD_eq_getElem (h : n < l.size) : l.getD n '\x00' = l[n] := by
  rw [Array.getD_eq_getD_getElem?, Array.getElem?_eq_getElem h, Option.getD_some]

theorem front_succ (h : n < l.size) : front l (n + 1) = l.getD n '\x00' :: front l n := by
  rw [front, List.take_succ_eq_append_getElem (by simpa using h), List.reverse_append, getD_eq_getElem h]
  rfl

theorem length_front (h : n ≤ l.size) : (front l n).length = n := by
  rw [front, List.length_reverse, List.length_take, Array.length_toList, min_eq_left h]

theorem exists_of_front_eq_cons (hn : n ≤ l.size) (h : front l n = x :: r) :
    ∃ k, n = k + 1 ∧ l.getD k '\x00' = x ∧ front l k = r := by
  cases n with
  | zero => cases h
  | succ k =>
    rw [front_succ hn] at h
    cases h
    exact ⟨k, rfl, rfl, rfl⟩

theorem exists_of_front_eq_append (hn : n ≤ l.size) (h : front l n = p ++ r) :
    ∃ k, n = k + p.length ∧ front l k = r := by
  induction p generalizing n with
  | nil => exact ⟨n, rfl, h⟩
  | cons x p ih =>
    obtain ⟨k, rfl, -, hk⟩ := exists_of_front_eq_cons hn h
    obtain ⟨k', rfl, hk'⟩ := ih (by omega) hk
    exact ⟨k', rfl, hk'⟩

/-- No place of a character comes behind its last place. -/
theorem lt_lastPlace (hk : k < n) (hn : n ≤ l.size) : k < lastPlace l (l.getD k '\x00') n := by
  induction n with
  | zero => exact absurd hk (Nat.not_lt_zero k)
  | succ n ih =>
    rw [lastPlace]
    split
    · exact hk
    · rename_i hne
      rcases (Nat.le_of_lt_succ hk).lt_or_eq with hlt | rfl
      · exact ih hlt (by omega)
      · rw [getD_eq_getElem hn, Array.getElem?_eq_getElem hn] at hne
        exact absurd rfl hne

/-- A beginning taken apart at the last place of a character. -/
theorem exists_front_lastPlace (hn : n ≤ l.size) (h : lastPlace l x n ≠ 0) :
    ∃ p, front l n = p ++ x :: front l (lastPlace l x n - 1) ∧ p.length = n - lastPlace l x n := by
  induction n with
  | zero => exact absurd rfl h
  | succ n ih =>
    rw [front_succ hn]
    rw [lastPlace] at h ⊢
    split
    · rename_i heq
      rw [Array.getElem?_eq_getElem hn, Option.some_inj] at heq
      rw [getD_eq_getElem hn, heq]
      exact ⟨[], rfl, (Nat.sub_self _).symm⟩
    · rename_i hne
      rw [if_neg hne] at h
      obtain ⟨p, hp, hlength⟩ := ih (by omega) h
      have hle := lastPlace_le l x n
      refine ⟨l.getD n '\x00' :: p, ?_, ?_⟩
      · rw [hp]
        rfl
      · rw [List.length_cons]
        omega

/-! What a step may cost. -/

theorem step_le_deleted (cost : Nat → Nat → Nat) (a b : Array Char) (i j : Nat) :
    step cost a b i j ≤ cost i (j + 1) + 1 := by
  unfold step
  dsimp only
  split <;> omega

theorem step_le_inserted (cost : Nat → Nat → Nat) (a b : Array Char) (i j : Nat) :
    step cost a b i j ≤ cost (i + 1) j + 1 := by
  unfold step
  dsimp only
  split <;> omega

theorem step_le_crossed (cost : Nat → Nat → Nat)
    (hk : lastPlace a (b.getD j '\x00') i ≠ 0) (hl : lastPlace b (a.getD i '\x00') j ≠ 0) :
    step cost a b i j ≤
      cost (lastPlace a (b.getD j '\x00') i - 1) (lastPlace b (a.getD i '\x00') j - 1) +
        (i - lastPlace a (b.getD j '\x00') i) + 1 + (j - lastPlace b (a.getD i '\x00') j) := by
  unfold step
  dsimp only
  rw [if_neg (not_or.2 ⟨hk, hl⟩)]
  exact min_le_right _ _

/-- A step deletes, inserts, replaces or crosses. -/
theorem step_cases (cost : Nat → Nat → Nat) (a b : Array Char) (i j : Nat) :
    step cost a b i j = cost i (j + 1) + 1 ∨ step cost a b i j = cost (i + 1) j + 1 ∨
      step cost a b i j = cost i j + (if a.getD i '\x00' = b.getD j '\x00' then 0 else 1) ∨
      (lastPlace a (b.getD j '\x00') i ≠ 0 ∧ lastPlace b (a.getD i '\x00') j ≠ 0 ∧
        step cost a b i j =
          cost (lastPlace a (b.getD j '\x00') i - 1) (lastPlace b (a.getD i '\x00') j - 1) +
            (i - lastPlace a (b.getD j '\x00') i) + 1 + (j - lastPlace b (a.getD i '\x00') j)) := by
  unfold step
  dsimp only
  generalize (if a.getD i '\x00' = b.getD j '\x00' then 0 else 1) = replaced
  split
  · omega
  · rename_i hplaces
    obtain ⟨hk, hl⟩ := not_or.1 hplaces
    simp only [hk, hl, ne_eq, not_false_eq_true, true_and]
    omega

/-! The table and alignments. -/

namespace Costs

variable (h : Costs a b cost m)

include h

theorem le_deleted (hi : i < m) (hj : j ≤ b.size) : cost (i + 1) j ≤ cost i j + 1 := by
  cases j with
  | zero => rw [h.right (i + 1) hi, h.right i (by omega)]
  | succ j =>
    rw [h.step i hi j hj]
    exact step_le_deleted cost a b i j

theorem le_inserted (hi : i ≤ m) (hj : j < b.size) : cost i (j + 1) ≤ cost i j + 1 := by
  cases i with
  | zero => rw [h.left (j + 1) hj, h.left j (by omega)]
  | succ i =>
    rw [h.step i hi j hj]
    exact step_le_inserted cost a b i j

theorem le_grown (hi : i + k ≤ m) (hj : j + n ≤ b.size) : cost (i + k) (j + n) ≤ cost i j + k + n := by
  induction k with
  | zero =>
    induction n with
    | zero => exact Nat.le_refl _
    | succ n ih =>
      have hprevious := ih (by omega)
      have hstep := h.le_inserted hi (show j + n < b.size by omega)
      rw [← Nat.add_assoc j]
      omega
  | succ k ih =>
    have hprevious := ih (by omega)
    have hstep := h.le_deleted (show i + k < m by omega) hj
    rw [← Nat.add_assoc i]
    omega

theorem le_replaced (hi : i < m) (hj : j < b.size) :
    cost (i + 1) (j + 1) ≤ cost i j + if a.getD i '\x00' = b.getD j '\x00' then 0 else 1 := by
  rw [h.step i hi j hj]
  exact step_le_replaced cost a b i j

/-- The table crosses at the last places of two characters, which come no sooner than others. -/
theorem le_crossed (hm : m ≤ a.size) (hi : i < m) (hj : j < b.size) (hk : k < i) (hn : n < j)
    (hleft : a.getD i '\x00' = b.getD n '\x00') (hright : b.getD j '\x00' = a.getD k '\x00') :
    cost (i + 1) (j + 1) ≤ cost k n + (i - k - 1) + (j - n - 1) + 1 := by
  have hplace := lt_lastPlace (l := a) hk (by omega)
  have hplace' := lt_lastPlace (l := b) hn hj.le
  rw [← hright] at hplace
  rw [← hleft] at hplace'
  have hki := lastPlace_le a (b.getD j '\x00') i
  have hlj := lastPlace_le b (a.getD i '\x00') j
  have hstep := step_le_crossed (a := a) (b := b) (i := i) (j := j) cost (by omega) (by omega)
  have hgrown := h.le_grown (i := k) (j := n) (k := lastPlace a (b.getD j '\x00') i - 1 - k)
    (n := lastPlace b (a.getD i '\x00') j - 1 - n) (by omega) (by omega)
  rw [Nat.add_sub_cancel' (by omega), Nat.add_sub_cancel' (by omega)] at hgrown
  rw [h.step i hi j hj]
  omega

/-- Two beginnings can be taken apart at the cost that the table has for them. -/
theorem aligned (hm : m ≤ a.size) (hi : i ≤ m) (hj : j ≤ b.size) :
    Aligned (cost i j) (front a i) (front b j) := by
  induction hsum : i + j using Nat.strong_induction_on generalizing i j with
  | h s ih =>
    subst hsum
    rcases i with _ | i
    · have hinsert := (Aligned.nil 0).insertAll (front b j)
      rw [length_front hj, Nat.zero_add, List.append_nil] at hinsert
      rw [h.left j hj]
      exact hinsert
    rcases j with _ | j
    · have hdelete := (Aligned.nil 0).deleteAll (front a (i + 1))
      rw [length_front (hi.trans hm), Nat.zero_add, List.append_nil] at hdelete
      rw [h.right (i + 1) hi]
      exact hdelete
    rw [h.step i hi j hj]
    rcases step_cases cost a b i j with heq | heq | heq | ⟨hk, hl, heq⟩
    · rw [heq, front_succ (by omega)]
      exact .delete _ (ih _ (by omega) (by omega) hj rfl)
    · rw [heq, front_succ hj]
      exact .insert _ (ih _ (by omega) hi (by omega) rfl)
    · have hshorter := ih _ (by omega) (show i ≤ m by omega) (show j ≤ b.size by omega) rfl
      rw [heq, front_succ (by omega), front_succ hj]
      split
      · rename_i hsame
        rw [hsame]
        exact .keep _ hshorter
      · exact .replace _ _ hshorter
    · have hki := lastPlace_le a (b.getD j '\x00') i
      have hlj := lastPlace_le b (a.getD i '\x00') j
      obtain ⟨p, hp, hplength⟩ := exists_front_lastPlace (show i ≤ a.size by omega) hk
      obtain ⟨q, hq, hqlength⟩ := exists_front_lastPlace (show j ≤ b.size by omega) hl
      have hcross := Aligned.cross (a.getD i '\x00') (b.getD j '\x00') p q
        (ih _ (by omega) (show lastPlace a (b.getD j '\x00') i - 1 ≤ m by omega)
          (show lastPlace b (a.getD i '\x00') j - 1 ≤ b.size by omega) rfl)
      rw [heq, front_succ (show i < a.size by omega), front_succ hj, hp, hq]
      exact hcross.mono (by omega)

/-- No alignment of two beginnings costs less than the table has for them. -/
theorem le_of_aligned (hm : m ≤ a.size) (hi : i ≤ m) (hj : j ≤ b.size)
    (haligned : Aligned n (front a i) (front b j)) : cost i j ≤ n := by
  generalize hleft : front a i = left at haligned
  generalize hright : front b j = right at haligned
  induction haligned generalizing i j with
  | nil n =>
    have hzero := length_front (hi.trans hm)
    have hzero' := length_front hj
    rw [hleft] at hzero
    rw [hright] at hzero'
    obtain rfl : i = 0 := hzero.symm
    obtain rfl : j = 0 := hzero'.symm
    rw [h.left 0 (Nat.zero_le _)]
    exact Nat.zero_le n
  | delete x _ ih =>
    obtain ⟨i, rfl, -, hrest⟩ := exists_of_front_eq_cons (hi.trans hm) hleft
    exact (h.le_deleted hi hj).trans (Nat.succ_le_succ (ih (by omega) hj hrest hright))
  | insert y _ ih =>
    obtain ⟨j, rfl, -, hrest⟩ := exists_of_front_eq_cons hj hright
    exact (h.le_inserted hi hj).trans (Nat.succ_le_succ (ih hi (by omega) hleft hrest))
  | keep x _ ih =>
    obtain ⟨i, rfl, hx, hrest⟩ := exists_of_front_eq_cons (hi.trans hm) hleft
    obtain ⟨j, rfl, hx', hrest'⟩ := exists_of_front_eq_cons hj hright
    have hshorter := ih (by omega) (by omega) hrest hrest'
    have hreplaced := h.le_replaced hi hj
    rw [if_pos (hx.trans hx'.symm)] at hreplaced
    exact hreplaced.trans hshorter
  | replace x y _ ih =>
    obtain ⟨i, rfl, -, hrest⟩ := exists_of_front_eq_cons (hi.trans hm) hleft
    obtain ⟨j, rfl, -, hrest'⟩ := exists_of_front_eq_cons hj hright
    have hshorter := ih (by omega) (by omega) hrest hrest'
    have hreplaced := h.le_replaced hi hj
    split at hreplaced <;> omega
  | cross x y p q _ ih =>
    obtain ⟨i, rfl, hx, hrest⟩ := exists_of_front_eq_cons (hi.trans hm) hleft
    obtain ⟨j, rfl, hy, hrest'⟩ := exists_of_front_eq_cons hj hright
    obtain ⟨k, hk, hyk⟩ := exists_of_front_eq_append (show i ≤ a.size by omega) hrest
    obtain ⟨l, hl, hxl⟩ := exists_of_front_eq_append (show j ≤ b.size by omega) hrest'
    obtain ⟨k, rfl, hky, hka⟩ := exists_of_front_eq_cons (show k ≤ a.size by omega) hyk
    obtain ⟨l, rfl, hlx, hlb⟩ := exists_of_front_eq_cons (show l ≤ b.size by omega) hxl
    have hshorter := ih (show k ≤ m by omega) (show l ≤ b.size by omega) hka hlb
    have hcrossed := h.le_crossed hm hi hj (show k < i by omega) (show l < j by omega)
      (hx.trans hlx.symm) (hy.trans hky.symm)
    omega

theorem le_iff (hm : m ≤ a.size) (hi : i ≤ m) (hj : j ≤ b.size) :
    cost i j ≤ n ↔ Aligned n (front a i) (front b j) :=
  ⟨(h.aligned hm hi hj).mono, h.le_of_aligned hm hi hj⟩

end Costs

end EditDistance

open EditDistance

variable {a b : List Char} {n : Nat}

theorem editDistance_le_iff : editDistance a b ≤ n ↔ ∃ m ≤ n, Edits m a b := by
  have hcosts := costs_table a.toArray b.toArray
  have hle := hcosts.le_iff (n := n) le_rfl le_rfl le_rfl
  rw [front_size, front_size, aligned_iff] at hle
  apply hle.trans
  constructor
  · rintro ⟨m, hm, hs⟩
    have hreverse := hs.reverse
    rw [List.reverse_reverse, List.reverse_reverse] at hreverse
    exact ⟨m, hm, hreverse⟩
  · rintro ⟨m, hm, hs⟩
    exact ⟨m, hm, hs.reverse⟩

/-- The distance is the least number of edits, one after another, that turn one text into the other. -/
theorem isLeast_editDistance (a b : List Char) : IsLeast {n | Edits n a b} (editDistance a b) := by
  have hleast : ∀ n, Edits n a b → editDistance a b ≤ n :=
    fun n hs => editDistance_le_iff.2 ⟨n, le_rfl, hs⟩
  obtain ⟨m, hm, hs⟩ := editDistance_le_iff.1 (le_refl (editDistance a b))
  rw [le_antisymm hm (hleast m hs)] at hs
  exact ⟨hs, hleast⟩

theorem editDistance_comm (a b : List Char) : editDistance a b = editDistance b a := by
  apply eq_of_forall_ge_iff
  intro n
  rw [editDistance_le_iff, editDistance_le_iff]
  exact exists_congr fun m => and_congr_right fun _ => ⟨Edits.symm, Edits.symm⟩

end Parlance
