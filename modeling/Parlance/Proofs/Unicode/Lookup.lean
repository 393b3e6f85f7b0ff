import Parlance.Unicode.Table

/-!
What a look-up in a table finds. Main statements: `floor?_eq_some`, that it finds an entry whose key is
not above the code point, and from it `shift?_eq_some` and `mem_of_at?`; and `testBit_of_shift?`, which
collects what a table of stretches maps, and what it maps to, as the bits of two numbers, so that one
operation on these tells that the table has nothing to do with other code points.
-/

namespace Parlance.Unicode

universe u

variable {α : Type u} {t : Table α} {c : Nat}

/-- Counting ends behind an entry whose key is not above `c`, where it started behind one. -/
theorem countUpTo_le {steps lo hi : Nat} (h : lo = 0 ∨ ∃ e, t[lo - 1]? = some e ∧ e.1 ≤ c) :
    t.countUpTo c steps lo hi = 0 ∨
      ∃ e, t[t.countUpTo c steps lo hi - 1]? = some e ∧ e.1 ≤ c := by
  induction steps generalizing lo hi with
  | zero => exact h
  | succ steps ih =>
    rw [Table.countUpTo]
    split
    · dsimp only
      split
      · rename_i e he
        split
        · exact ih (.inr ⟨e, he, ‹_›⟩)
        · exact ih h
      · exact h
    · exact h

theorem floor?_eq_some {e : Nat × α} (h : t.floor? c = some e) : e ∈ t.toList ∧ e.1 ≤ c := by
  have hcount : t.countUpTo c t.size 0 t.size = 0 ∨
      ∃ e, t[t.countUpTo c t.size 0 t.size - 1]? = some e ∧ e.1 ≤ c := countUpTo_le (.inl rfl)
  unfold Table.floor? at h
  cases hn : t.countUpTo c t.size 0 t.size with
  | zero =>
    rw [hn] at h
    cases h
  | succ n =>
    rw [hn] at h hcount
    obtain hzero | ⟨d, hd, hle⟩ := hcount
    · cases hzero
    · obtain rfl : e = d := Option.some.inj (h.symm.trans hd)
      exact ⟨Array.mem_toList_iff.2 (Array.mem_of_getElem? h), hle⟩

theorem shift?_eq_some {t : Table Shift} {n : Nat} (h : t.shift? c = some n) :
    ∃ e ∈ t.toList, e.1 ≤ c ∧ c ≤ e.2.last ∧ (c - e.1) % e.2.step = 0 ∧
      n = e.2.image + (c - e.1) := by
  unfold Table.shift? at h
  split at h
  · rename_i first s he
    obtain ⟨hmem, hle⟩ := floor?_eq_some he
    split at h
    · rename_i hc
      cases h
      exact ⟨(first, s), hmem, hle, hc.1, hc.2, rfl⟩
    · cases h
  · cases h

theorem mem_of_at? {x : α} (h : t.at? c = some x) : (c, x) ∈ t.toList := by
  unfold Table.at? at h
  split at h
  · rename_i k y hfloor
    split at h
    · rename_i hk
      obtain rfl := Option.some.inj h
      exact hk ▸ (floor?_eq_some hfloor).1
    · cases h
  · cases h

/-! Sets of code points as the bits of a number. -/

theorem testBit_one_shiftLeft_self (n : Nat) : (1 <<< n).testBit n := by
  rw [Nat.one_shiftLeft]
  exact Nat.testBit_two_pow_self

/-- The code points from `first` on in steps, `count` of them. -/
def stretchBits (first step : Nat) : (count : Nat) → Nat
  | 0 => 0
  | n + 1 => 1 <<< (first + step * n) ||| stretchBits first step n

theorem testBit_stretchBits {first step count k : Nat} (h : k < count) :
    (stretchBits first step count).testBit (first + step * k) := by
  induction count with
  | zero => exact absurd h (Nat.not_lt_zero k)
  | succ count ih =>
    rw [stretchBits, Nat.testBit_or, Bool.or_eq_true]
    obtain hlt | rfl := Nat.lt_succ_iff_lt_or_eq.1 h
    · exact .inr (ih hlt)
    · exact .inl (testBit_one_shiftLeft_self _)

def unionBits (f : α → Nat) (l : List α) : Nat :=
  l.foldr (fun x bits => f x ||| bits) 0

theorem testBit_unionBits {f : α → Nat} {l : List α} {x : α} (hx : x ∈ l) (h : (f x).testBit c) :
    (unionBits f l).testBit c := by
  induction l with
  | nil => cases hx
  | cons y l ih =>
    rw [unionBits, List.foldr_cons, Nat.testBit_or, Bool.or_eq_true]
    obtain rfl | hx := List.mem_cons.1 hx
    · exact .inl h
    · exact .inr (ih hx)

theorem not_testBit_of_and_eq_zero {a b : Nat} (h : a &&& b = 0) (ha : a.testBit c) :
    ¬b.testBit c := by
  intro hb
  have hboth : (a &&& b).testBit c := by rw [Nat.testBit_and, ha, hb, Bool.and_self]
  rw [h, Nat.zero_testBit] at hboth
  cases hboth

theorem testBit_of_and_eq_left {a b : Nat} (h : a &&& b = a) (ha : a.testBit c) : b.testBit c := by
  rw [← h, Nat.testBit_and, Bool.and_eq_true] at ha
  exact ha.2

/-- How many code points a stretch has that starts at `first`. -/
def Shift.count (s : Shift) (first : Nat) : Nat :=
  (s.last - first) / s.step + 1

/-- The code points that a table maps. -/
def Table.sources (t : Table Shift) : Nat :=
  unionBits (fun e => stretchBits e.1 e.2.step (e.2.count e.1)) t.toList

/-- The code points that a table maps others to. -/
def Table.images (t : Table Shift) : Nat :=
  unionBits (fun e => stretchBits e.2.image e.2.step (e.2.count e.1)) t.toList

theorem testBit_of_shift? {t : Table Shift} {n : Nat} (h : t.shift? c = some n) :
    t.sources.testBit c ∧ t.images.testBit n := by
  obtain ⟨e, he, hfirst, hlast, hstep, rfl⟩ := shift?_eq_some h
  have hk : (c - e.1) / e.2.step < e.2.count e.1 :=
    Nat.lt_succ_of_le (Nat.div_le_div_right (Nat.sub_le_sub_right hlast e.1))
  have hsteps : e.2.step * ((c - e.1) / e.2.step) = c - e.1 :=
    Nat.mul_div_cancel' (Nat.dvd_of_mod_eq_zero hstep)
  have hbits (first : Nat) : (stretchBits first e.2.step (e.2.count e.1)).testBit
      (first + (c - e.1)) := by
    have hbit : (stretchBits first e.2.step (e.2.count e.1)).testBit
        (first + e.2.step * ((c - e.1) / e.2.step)) := testBit_stretchBits hk
    rwa [hsteps] at hbit
  have hsource := hbits e.1
  rw [Nat.add_sub_cancel' hfirst] at hsource
  exact ⟨testBit_unionBits he hsource, testBit_unionBits he (hbits e.2.image)⟩

theorem shift?_eq_none {t : Table Shift} (h : ¬t.sources.testBit c) : t.shift? c = none := by
  rw [Option.eq_none_iff_forall_ne_some]
  intro n hn
  exact h (testBit_of_shift? hn).1

/-- A table maps nothing of a class that its sources keep apart from. -/
theorem shift?_eq_none_of_testBit {t : Table Shift} {bits : Nat} (h : t.sources &&& bits = 0)
    (hc : bits.testBit c) : t.shift? c = none :=
  shift?_eq_none fun hsource => not_testBit_of_and_eq_zero h hsource hc

end Parlance.Unicode
