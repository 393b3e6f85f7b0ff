import Mathlib.Data.List.Basic

/-!
Edits one after another, and two texts taken apart side by side. Main statement: `aligned_iff`, that taking
two texts apart, where each character is met once, costs no more than edits in a row, which may come back
to what others have left.
-/

namespace Parlance.EditDistance

variable {a b c d p : List Char} {x y : Char} {n m : Nat}

/-- A character inserted, deleted or replaced, or two neighbours swapped. -/
inductive Edit : List Char → List Char → Prop
  | insert (x : Char) (a : List Char) : Edit a (x :: a)
  | delete (x : Char) (a : List Char) : Edit (x :: a) a
  | replace (x y : Char) (a : List Char) : Edit (x :: a) (y :: a)
  | swap (x y : Char) (a : List Char) : Edit (x :: y :: a) (y :: x :: a)
  | behind (x : Char) {a b : List Char} (h : Edit a b) : Edit (x :: a) (x :: b)

/-- So many edits in a row. -/
inductive Edits : Nat → List Char → List Char → Prop
  | refl (a : List Char) : Edits 0 a a
  | head {n : Nat} {a b c : List Char} (h : Edit a b) (hs : Edits n b c) : Edits (n + 1) a c

/-- Two texts taken apart from their heads at no more than a cost. Where two pairs of equal characters
cross, what stands between them is edited away. -/
inductive Aligned : Nat → List Char → List Char → Prop
  | nil (n : Nat) : Aligned n [] []
  | delete (x : Char) {n : Nat} {a b : List Char} (h : Aligned n a b) : Aligned (n + 1) (x :: a) b
  | insert (y : Char) {n : Nat} {a b : List Char} (h : Aligned n a b) : Aligned (n + 1) a (y :: b)
  | keep (x : Char) {n : Nat} {a b : List Char} (h : Aligned n a b) : Aligned n (x :: a) (x :: b)
  | replace (x y : Char) {n : Nat} {a b : List Char} (h : Aligned n a b) :
      Aligned (n + 1) (x :: a) (y :: b)
  | cross (x y : Char) (p q : List Char) {n : Nat} {a b : List Char} (h : Aligned n a b) :
      Aligned (n + p.length + q.length + 1) (x :: (p ++ y :: a)) (y :: (q ++ x :: b))

/-! Edits. -/

namespace Edit

theorem symm (h : Edit a b) : Edit b a := by
  induction h with
  | insert x a => exact .delete x a
  | delete x a => exact .insert x a
  | replace x y a => exact .replace y x a
  | swap x y a => exact .swap y x a
  | behind x _ ih => exact .behind x ih

theorem prepend (h : Edit a b) (p : List Char) : Edit (p ++ a) (p ++ b) := by
  induction p with
  | nil => exact h
  | cons x p ih => exact .behind x ih

theorem append (h : Edit a b) (p : List Char) : Edit (a ++ p) (b ++ p) := by
  induction h with
  | insert x a => exact .insert x (a ++ p)
  | delete x a => exact .delete x (a ++ p)
  | replace x y a => exact .replace x y (a ++ p)
  | swap x y a => exact .swap x y (a ++ p)
  | behind x _ ih => exact .behind x ih

theorem reverse (h : Edit a b) : Edit a.reverse b.reverse := by
  induction h with
  | insert x a => simpa using (Edit.insert x []).prepend a.reverse
  | delete x a => simpa using (Edit.delete x []).prepend a.reverse
  | replace x y a => simpa using (Edit.replace x y []).prepend a.reverse
  | swap x y a => simpa using (Edit.swap y x []).prepend a.reverse
  | behind x _ ih => simpa using ih.append [x]

theorem length_le (h : Edit a b) : b.length ≤ a.length + 1 := by
  induction h with
  | insert | replace | swap => simp
  | delete =>
    rw [List.length_cons]
    omega
  | behind x _ ih => simpa using ih

/-- What an edit makes of a text in which a character stands between two parts. -/
inductive Around (p : List Char) (y : Char) (a : List Char) : List Char → Prop
  | before {p' : List Char} (h : Edit p p') : Around p y a (p' ++ y :: a)
  | after {a' : List Char} (h : Edit a a') : Around p y a (p ++ y :: a')
  | deleted : Around p y a (p ++ a)
  | replaced (z : Char) : Around p y a (p ++ z :: a)
  | earlier (p' : List Char) (z : Char) (h : p = p' ++ [z]) : Around p y a (p' ++ y :: z :: a)
  | later (a' : List Char) (z : Char) (h : a = z :: a') : Around p y a (p ++ z :: y :: a')

theorem around (h : Edit (p ++ y :: a) b) : Around p y a b := by
  induction p generalizing b with
  | nil =>
    cases h with
    | insert z => exact .before (.insert z [])
    | delete => exact .deleted
    | replace _ z => exact .replaced z
    | swap => exact .later _ _ rfl
    | behind _ h => exact .after h
  | cons x p ih =>
    change Edit (x :: (p ++ y :: a)) b at h
    generalize hl : p ++ y :: a = l at h
    cases h with
    | insert z =>
      rw [← hl]
      exact .before (.insert z (x :: p))
    | delete =>
      rw [← hl]
      exact .before (.delete x p)
    | replace _ z =>
      rw [← hl]
      exact .before (.replace x z p)
    | swap _ z =>
      cases p with
      | nil =>
        cases hl
        exact .earlier [] _ rfl
      | cons u p =>
        cases hl
        exact .before (.swap x _ p)
    | behind _ he =>
      cases ih (hl ▸ he) with
      | before h => exact .before (.behind x h)
      | after h => exact .after (p := x :: p) h
      | deleted => exact .deleted (p := x :: p)
      | replaced z => exact .replaced (p := x :: p) z
      | earlier p' z h => exact .earlier (x :: p') z (congrArg (x :: ·) h)
      | later a' z h => exact .later (p := x :: p) a' z h

end Edit

namespace Edits

theorem single (h : Edit a b) : Edits 1 a b :=
  .head h (.refl b)

theorem trans (h : Edits n a b) (h' : Edits m b c) : Edits (n + m) a c := by
  induction h with
  | refl a =>
    rw [Nat.zero_add]
    exact h'
  | head he _ ih =>
    rw [Nat.succ_add]
    exact .head he (ih h')

theorem symm (h : Edits n a b) : Edits n b a := by
  induction h with
  | refl a => exact .refl a
  | head he _ ih => exact ih.trans (.single he.symm)

theorem map (h : Edits n a b) {f : List Char → List Char}
    (hf : ∀ {a b}, Edit a b → Edit (f a) (f b)) : Edits n (f a) (f b) := by
  induction h with
  | refl a => exact .refl (f a)
  | head he _ ih => exact .head (hf he) ih

theorem behind (x : Char) (h : Edits n a b) : Edits n (x :: a) (x :: b) :=
  h.map (.behind x)

theorem reverse (h : Edits n a b) : Edits n a.reverse b.reverse :=
  h.map Edit.reverse

theorem deleteAll (p a : List Char) : Edits p.length (p ++ a) a := by
  induction p with
  | nil => exact .refl a
  | cons x p ih => exact .head (.delete x (p ++ a)) ih

end Edits

/-! Alignments. -/

namespace Aligned

theorem refl (a : List Char) : Aligned 0 a a := by
  induction a with
  | nil => exact .nil 0
  | cons x a ih => exact .keep x ih

theorem symm (h : Aligned n a b) : Aligned n b a := by
  induction h with
  | nil n => exact .nil n
  | delete x _ ih => exact .insert x ih
  | insert y _ ih => exact .delete y ih
  | keep x _ ih => exact .keep x ih
  | replace x y _ ih => exact .replace y x ih
  | cross x y p q _ ih =>
    rw [Nat.add_right_comm _ p.length]
    exact .cross y x q p ih

theorem mono (h : Aligned n a b) (hle : n ≤ m) : Aligned m a b := by
  obtain ⟨k, rfl⟩ := Nat.exists_eq_add_of_le hle
  clear hle
  induction h with
  | nil n => exact .nil (n + k)
  | delete x _ ih =>
    rw [Nat.add_right_comm]
    exact .delete x ih
  | insert y _ ih =>
    rw [Nat.add_right_comm]
    exact .insert y ih
  | keep x _ ih => exact .keep x ih
  | replace x y _ ih =>
    rw [Nat.add_right_comm]
    exact .replace x y ih
  | @cross x y p q n a b _ ih =>
    have hcost : n + p.length + q.length + 1 + k = n + k + p.length + q.length + 1 := by omega
    rw [hcost]
    exact .cross x y p q ih

theorem deleteAll (p : List Char) (h : Aligned n a b) : Aligned (n + p.length) (p ++ a) b := by
  induction p with
  | nil => exact h
  | cons x p ih => exact .delete x ih

theorem insertAll (q : List Char) (h : Aligned n a b) : Aligned (n + q.length) a (q ++ b) :=
  (h.symm.deleteAll q).symm

/-- Of two pairs that would cross only the one that comes last in the first text is kept. -/
theorem keepLast (h : Aligned n a b) (x y : Char) (p q : List Char) :
    Aligned (n + p.length + q.length + 1) (p ++ y :: a) (y :: (q ++ x :: b)) := by
  have hkept := (((h.insert x).insertAll q).keep y).deleteAll p
  exact hkept.mono (by omega)

/-- Of two pairs that would cross only the one that comes first in the first text is kept. -/
theorem keepFirst (h : Aligned n a b) (x y : Char) (p q : List Char) :
    Aligned (n + p.length + q.length + 1) (x :: (p ++ a)) (y :: (q ++ x :: b)) :=
  (((h.deleteAll p).keep x).insertAll q).insert y

/-- A character behind the first one costs no more than its deletion, even between two pairs that cross. -/
theorem insertSecond (h : Aligned n (y :: a) b) (x : Char) : Aligned (n + 1) (y :: x :: a) b := by
  generalize hl : y :: a = l at h
  induction h with
  | nil => cases hl
  | delete z h =>
    cases hl
    exact .delete y (.delete x h)
  | insert z _ ih => exact .insert z (ih hl)
  | keep z h =>
    cases hl
    exact .keep y (.delete x h)
  | replace z w h =>
    cases hl
    exact .replace y w (.delete x h)
  | @cross z w p q n a b h =>
    cases hl
    have hcost : n + p.length + q.length + 1 + 1 = n + (x :: p).length + q.length + 1 := by
      rw [List.length_cons]
      omega
    rw [hcost]
    exact .cross y w (x :: p) q h

/-- A character that comes first in both texts may as well have been second in one of them. -/
theorem swapKept (h : Aligned n (x :: a) b) (y : Char) : Aligned (n + 1) (x :: y :: a) (y :: b) := by
  generalize hl : x :: a = l at h
  induction h with
  | nil => cases hl
  | delete z h =>
    cases hl
    exact .delete x (.mono (.keep y h) (Nat.le_succ _))
  | insert z _ ih =>
    exact (((ih hl).symm).insertSecond z).symm
  | keep z h =>
    cases hl
    exact .cross x y [] [] h
  | replace z w h =>
    cases hl
    exact .replace x y (.replace y w h)
  | @cross z w p q n a b h =>
    cases hl
    exact ((h.keepLast x w p q).keep y).delete x

/-- An edit behind the head of a text whose head is in one of two pairs that cross. -/
theorem editCrossed {q : List Char} (h : Aligned n a b) (ih : ∀ {c}, Edit a c → Aligned (n + 1) c b)
    (he : Edit (p ++ y :: a) c) :
    Aligned (n + p.length + q.length + 1 + 1) (x :: c) (y :: (q ++ x :: b)) := by
  cases he.around with
  | before hp =>
    have hlength := hp.length_le
    exact .mono (.cross x y _ q h) (by omega)
  | after ha => exact .mono (.cross x y p q (ih ha)) (by omega)
  | deleted => exact (h.keepFirst x y p q).mono (Nat.le_succ _)
  | replaced z => exact ((h.delete z).keepFirst x y p q).mono (by omega)
  | earlier p' z hp =>
    rw [hp, List.length_append, List.length_singleton]
    exact .mono (.cross x y p' q (h.delete z)) (by omega)
  | later a' z ha =>
    subst ha
    have hkept := (h.insertSecond y).keepFirst x y p q
    exact hkept.mono (by omega)

theorem editCross {q : List Char} (h : Aligned n a b) (ih : ∀ {c}, Edit a c → Aligned (n + 1) c b)
    (he : Edit (x :: (p ++ y :: a)) c) :
    Aligned (n + p.length + q.length + 1 + 1) c (y :: (q ++ x :: b)) := by
  generalize hl : p ++ y :: a = l at he
  cases he with
  | insert z =>
    rw [← hl]
    exact .delete z (.cross x y p q h)
  | delete =>
    rw [← hl]
    exact (h.keepLast x y p q).mono (Nat.le_succ _)
  | replace _ z =>
    rw [← hl]
    exact .delete z (h.keepLast x y p q)
  | swap _ z =>
    cases p with
    | nil =>
      cases hl
      exact .keep y (((h.keep x).insertAll q).mono (by rw [List.length_nil]; omega))
    | cons u p =>
      cases hl
      refine .mono (.delete z (.cross x y p q h)) ?_
      rw [List.length_cons]
      omega
  | behind _ he => exact h.editCrossed ih (hl ▸ he)

/-- An edit of a text changes what it costs to take it apart with another text by no more than one. -/
theorem edit (h : Aligned n a b) (he : Edit a c) : Aligned (n + 1) c b := by
  induction h generalizing c with
  | nil n =>
    cases he with
    | insert z => exact .delete z (.nil n)
  | insert y _ ih => exact .insert y (ih he)
  | @delete x n a b h ih =>
    cases he with
    | insert z => exact .delete z (.delete x h)
    | delete => exact h.mono (by omega)
    | replace _ z => exact .mono (.delete z h) (Nat.le_succ _)
    | swap _ z => exact h.insertSecond x |>.mono (Nat.le_succ _)
    | behind _ he => exact .delete x (ih he)
  | @keep x n a b h ih =>
    cases he with
    | insert z => exact .delete z (.keep x h)
    | delete => exact .insert x h
    | replace _ z => exact .replace z x h
    | swap _ z => exact h.swapKept x
    | behind _ he => exact .keep x (ih he)
  | @replace x y n a b h ih =>
    cases he with
    | insert z => exact .delete z (.replace x y h)
    | delete => exact .mono (.insert y h) (Nat.le_succ _)
    | replace _ z => exact .mono (.replace z y h) (Nat.le_succ _)
    | swap _ z => exact .insert y (h.insertSecond x)
    | behind _ he => exact .replace x y (ih he)
  | cross x y p q h ih => exact h.editCross ih he

theorem exists_edits (h : Aligned n a b) : ∃ m ≤ n, Edits m a b := by
  induction h with
  | nil n => exact ⟨0, Nat.zero_le n, .refl []⟩
  | delete x _ ih =>
    obtain ⟨m, hm, hs⟩ := ih
    exact ⟨m + 1, Nat.succ_le_succ hm, .head (.delete x _) hs⟩
  | @insert y n a b _ ih =>
    obtain ⟨m, hm, hs⟩ := ih
    exact ⟨m + 1, Nat.succ_le_succ hm, hs.trans (.single (.insert y b))⟩
  | keep x _ ih =>
    obtain ⟨m, hm, hs⟩ := ih
    exact ⟨m, hm, hs.behind x⟩
  | replace x y _ ih =>
    obtain ⟨m, hm, hs⟩ := ih
    exact ⟨m + 1, Nat.succ_le_succ hm, .head (.replace x y _) (hs.behind y)⟩
  | @cross x y p q n a b _ ih =>
    obtain ⟨m, hm, hs⟩ := ih
    have hdelete : Edits p.length (x :: (p ++ y :: a)) (x :: y :: a) :=
      (Edits.deleteAll p (y :: a)).behind x
    have hinsert : Edits q.length (y :: x :: a) (y :: (q ++ x :: a)) :=
      ((Edits.deleteAll q (x :: a)).symm).behind y
    have hrest : Edits m (y :: (q ++ x :: a)) (y :: (q ++ x :: b)) :=
      hs.map fun he => ((he.behind x).prepend q).behind y
    exact ⟨_, by omega, hdelete.trans (.head (.swap x y a) (hinsert.trans hrest))⟩

end Aligned

theorem Edits.aligned (h : Edits n a b) : Aligned n a b := by
  induction h with
  | refl a => exact .refl a
  | head he _ ih => exact ih.edit he.symm

/-- Taking two texts apart costs no more than any edits in a row. -/
theorem aligned_iff : Aligned n a b ↔ ∃ m ≤ n, Edits m a b := by
  constructor
  · exact Aligned.exists_edits
  · rintro ⟨m, hm, hs⟩
    exact hs.aligned.mono hm

end Parlance.EditDistance
