import Parlance.Proofs.Unicode.Folding
import Parlance.Unicode.Property

/-!
Classes of characters as the bits of a number. Main statements: `floor?_eq_getLast?`, that a look-up in a
sorted table finds the last entry not above the code point; and from it `testBit_categoryBits` and
`testBit_wordBits`, that the bits of a class are its characters.
-/

namespace Parlance.Unicode

universe u

variable {α : Type u} {t : Table α} {c m : Nat}

/-! Look-ups in sorted tables. -/

/-- Keys increase from each entry to the next. -/
abbrev Increasing (l : List (Nat × α)) : Prop :=
  l.IsChain fun x y => x.1 < y.1

/-- Checks from the front that keys increase. -/
def increases : List (Nat × α) → Bool
  | e :: d :: rest => decide (e.1 < d.1) && increases (d :: rest)
  | _ => true

theorem increasing_of_increases {l : List (Nat × α)} (h : increases l) : Increasing l := by
  induction l with
  | nil => exact .nil
  | cons e rest ih =>
    cases rest with
    | nil => exact .singleton e
    | cons d rest =>
      rw [increases, Bool.and_eq_true, decide_eq_true_eq] at h
      exact .cons_cons h.1 (ih h.2)

/-- The entries up to a code point. -/
def upTo (c : Nat) (l : List (Nat × α)) : List (Nat × α) :=
  l.takeWhile (·.1 ≤ c)

/-- Counting finds the place where the keys exceed the code point, if it is between the bounds. -/
theorem countUpTo_eq (hbelow : ∀ k e, t[k]? = some e → k < m → e.1 ≤ c)
    (habove : ∀ k e, t[k]? = some e → m ≤ k → c < e.1) {steps lo hi : Nat} (hlo : lo ≤ m) (hhi : m ≤ hi)
    (hsize : hi ≤ t.size) (hsteps : hi - lo < 2 ^ steps) : t.countUpTo c steps lo hi = m := by
  induction steps generalizing lo hi with
  | zero =>
    rw [Table.countUpTo]
    omega
  | succ steps ih =>
    rw [Nat.pow_succ] at hsteps
    rw [Table.countUpTo]
    split
    · have hmid : (lo + hi) / 2 < t.size := by omega
      simp only [Array.getElem?_eq_getElem hmid]
      have hget : t[(lo + hi) / 2]? = some t[(lo + hi) / 2] := Array.getElem?_eq_getElem hmid
      split
      · rename_i hle
        have hless : (lo + hi) / 2 < m := by
          by_contra hge
          have hgt := habove _ _ hget (Nat.le_of_not_lt hge)
          omega
        exact ih hless hhi hsize (by omega)
      · rename_i hgt
        have hge : m ≤ (lo + hi) / 2 := by
          by_contra hless
          exact hgt (hbelow _ _ hget (Nat.lt_of_not_le hless))
        exact ih hlo hge (by omega) (by omega)
    · omega

theorem lt_of_mem_dropWhile {l : List (Nat × α)} (h : Increasing l) {e : Nat × α}
    (he : e ∈ l.dropWhile (·.1 ≤ c)) : c < e.1 := by
  have hpairwise : l.Pairwise fun x y => x.1 < y.1 := List.isChain_iff_pairwise.1 h
  have hrest := hpairwise.sublist (List.dropWhile_sublist (·.1 ≤ c))
  cases hdrop : l.dropWhile (·.1 ≤ c) with
  | nil =>
    rw [hdrop] at he
    cases he
  | cons d rest =>
    have hfirst : ¬d.1 ≤ c := by
      have hhead := List.head?_dropWhile_not (fun e : Nat × α => e.1 ≤ c) l
      simpa [hdrop] using hhead
    rw [hdrop] at he hrest
    rcases List.mem_cons.1 he with rfl | he
    · omega
    · have hlt := (List.pairwise_cons.1 hrest).1 e he
      omega

theorem floor?_eq_getLast? (h : Increasing t.toList) (c : Nat) :
    t.floor? c = (upTo c t.toList).getLast? := by
  have hsplit : upTo c t.toList ++ t.toList.dropWhile (·.1 ≤ c) = t.toList :=
    List.takeWhile_append_dropWhile
  have hlength : (upTo c t.toList).length ≤ t.size :=
    (List.takeWhile_sublist _).length_le
  have hcount : t.countUpTo c t.size 0 t.size = (upTo c t.toList).length := by
    refine countUpTo_eq (fun k e hk hlt => ?_) (fun k e hk hle => ?_) (Nat.zero_le _) hlength le_rfl
      Nat.lt_two_pow_self
    · rw [← Array.getElem?_toList, ← hsplit, List.getElem?_append_left hlt] at hk
      simpa using List.mem_takeWhile_imp (List.mem_of_getElem? hk)
    · rw [← Array.getElem?_toList, ← hsplit, List.getElem?_append_right hle] at hk
      exact lt_of_mem_dropWhile h (List.mem_of_getElem? hk)
  rw [Table.floor?, hcount]
  cases hn : (upTo c t.toList).length with
  | zero =>
    rw [List.length_eq_zero_iff.1 hn]
    rfl
  | succ n =>
    dsimp only
    rw [List.getLast?_eq_getElem?, hn, ← Array.getElem?_toList, Nat.add_sub_cancel]
    conv => lhs; rw [← hsplit]
    exact List.getElem?_append_left (by omega)

/-- A look-up in a sorted table finds the last entry up to the code point. -/
theorem floor?_eq_find? (h : Increasing t.toList) (c : Nat) :
    t.floor? c = t.toList.reverse.find? (·.1 ≤ c) := by
  have hsplit : t.toList = upTo c t.toList ++ t.toList.dropWhile (·.1 ≤ c) :=
    List.takeWhile_append_dropWhile.symm
  have hbehind : (t.toList.dropWhile (·.1 ≤ c)).reverse.find? (·.1 ≤ c) = none := by
    rw [List.find?_eq_none]
    intro e he
    simpa using lt_of_mem_dropWhile h (List.mem_reverse.1 he)
  have hbefore : ∀ e ∈ upTo c t.toList, e.1 ≤ c := by
    intro e he
    simpa using List.mem_takeWhile_imp he
  rw [floor?_eq_getLast? h]
  conv => rhs; rw [hsplit]
  rw [List.reverse_append, List.find?_append, hbehind, Option.none_or, List.getLast?_eq_head?_reverse]
  cases hr : (upTo c t.toList).reverse with
  | nil => rfl
  | cons e r =>
    have he : e.1 ≤ c := hbefore e (List.mem_reverse.1 (hr ▸ List.mem_cons_self))
    simp [he]

/-- A sorted table has one entry at most for a code point, and a look-up finds it. -/
theorem at?_of_mem (h : Increasing t.toList) {x : α} (hx : (c, x) ∈ t.toList) : t.at? c = some x := by
  obtain ⟨before, behind, hsplit⟩ := List.append_of_mem hx
  have hpairwise : t.toList.Pairwise fun x y => x.1 < y.1 := List.isChain_iff_pairwise.1 h
  rw [hsplit, List.pairwise_append, List.pairwise_cons] at hpairwise
  have hnone : behind.reverse.find? (·.1 ≤ c) = none := by
    rw [List.find?_eq_none]
    intro e he
    simpa using hpairwise.2.1.1 e (List.mem_reverse.1 he)
  have hfloor : t.floor? c = some (c, x) := by
    rw [floor?_eq_find? h, hsplit, List.reverse_append, List.reverse_cons, List.append_assoc,
      List.find?_append, hnone, Option.none_or, List.singleton_append, List.find?_cons_of_pos]
    simp
  rw [Table.at?, hfloor]
  exact if_pos rfl

/-! Runs as bits. -/

/-- The code points from one on to before another. -/
def intervalBits (start stop : Nat) : Nat :=
  (1 <<< (stop - start) - 1) <<< start

theorem testBit_intervalBits {start stop : Nat} :
    (intervalBits start stop).testBit c ↔ start ≤ c ∧ c < stop := by
  rw [intervalBits, Nat.testBit_shiftLeft, Nat.one_shiftLeft, Nat.testBit_two_pow_sub_one,
    Bool.and_eq_true, decide_eq_true_eq, decide_eq_true_eq]
  omega

/-- The code points from each entry on, up to where the one behind it starts and before `stop`, when
the entries come in reverse order and the first of them ends at `limit`. -/
def runBits (stop : Nat × α → Nat) : (limit : Nat) → List (Nat × α) → Nat
  | _, [] => 0
  | limit, e :: rest => intervalBits e.1 (min (stop e) limit) ||| runBits stop e.1 rest

section

variable {stop : Nat × α → Nat} {limit : Nat} {r : List (Nat × α)}

theorem not_testBit_runBits (h : r.Pairwise fun x y => y.1 < x.1) (hlimit : ∀ e ∈ r.head?, e.1 < limit)
    (hc : limit ≤ c) : ¬(runBits stop limit r).testBit c := by
  induction r generalizing limit with
  | nil => simp [runBits]
  | cons e rest ih =>
    obtain ⟨hbelow, hrest⟩ := List.pairwise_cons.1 h
    have hlt : e.1 < limit := hlimit e rfl
    rw [runBits, Nat.testBit_or, Bool.or_eq_true, testBit_intervalBits, lt_min_iff, not_or]
    exact ⟨by omega, ih hrest (fun d hd => hbelow d (List.mem_of_mem_head? hd)) (by omega)⟩

theorem testBit_runBits (h : r.Pairwise fun x y => y.1 < x.1) (hc : c < limit) :
    (runBits stop limit r).testBit c ↔ ∃ e ∈ r.find? (·.1 ≤ c), c < stop e := by
  induction r generalizing limit with
  | nil => simp [runBits]
  | cons e rest ih =>
    obtain ⟨hbelow, hrest⟩ := List.pairwise_cons.1 h
    rw [runBits, Nat.testBit_or, Bool.or_eq_true, testBit_intervalBits, lt_min_iff]
    by_cases he : e.1 ≤ c
    · have hrestBits : ¬(runBits stop e.1 rest).testBit c :=
        not_testBit_runBits hrest (fun d hd => hbelow d (List.mem_of_mem_head? hd)) he
      simp [he, hc, hrestBits]
    · rw [ih hrest (by omega)]
      simp [he]

end

theorem Increasing.reverse {l : List (Nat × α)} (h : Increasing l) :
    l.reverse.Pairwise fun x y => y.1 < x.1 :=
  List.pairwise_reverse.2 (List.isChain_iff_pairwise.1 h)

/-! Categories and properties. -/

theorem toNat_lt (c : Char) : c.toNat < 0x110000 := by
  have hvalid : c.toNat < 0xD800 ∨ 0xDFFF < c.toNat ∧ c.toNat < 0x110000 := c.valid
  omega

/-- What is checked of the tables of categories and of alphabetic characters. -/
structure TableChecks : Prop where
  categories : increases categoryRuns.toList
  /-- The table tells the categories of ASCII too. -/
  ascii : ∀ n ∈ List.range 0x80,
    asciiCategory n = ((upTo n categoryRuns.toList).getLast?.map Prod.snd).getD .cn
  alphabetic : increases otherAlphabetic.toList

theorem tableChecks : TableChecks := by
  constructor <;> decide +kernel

theorem increasing_categoryRuns : Increasing categoryRuns.toList :=
  increasing_of_increases tableChecks.categories

theorem category_eq (c : Char) :
    category c = ((categoryRuns.floor? c.toNat).map Prod.snd).getD .cn := by
  unfold category
  split
  · rename_i hc
    rw [floor?_eq_getLast? increasing_categoryRuns]
    exact tableChecks.ascii c.toNat (List.mem_range.2 hc)
  · cases categoryRuns.floor? c.toNat <;> rfl

example : category '5' = .nd := by
  decide +kernel

/-- The code points of some categories. -/
def categoryBits (p : Category → Bool) : Nat :=
  runBits (fun e => if p e.2 then 0x110000 else 0) 0x110000 categoryRuns.toList.reverse

theorem testBit_categoryBits {p : Category → Bool} (hp : p .cn = false) (c : Char) :
    (categoryBits p).testBit c.toNat ↔ p (category c) := by
  rw [categoryBits, testBit_runBits increasing_categoryRuns.reverse (toNat_lt c), category_eq,
    floor?_eq_find? increasing_categoryRuns]
  cases categoryRuns.toList.reverse.find? (·.1 ≤ c.toNat) with
  | none => simp [hp]
  | some e => cases h : p e.2 <;> simp [h, toNat_lt c]

/-- The code points of sorted ranges. -/
def Ranges.bits (r : Ranges) : Nat :=
  runBits (fun e => e.2 + 1) 0x110000 r.toList.reverse

theorem testBit_rangesBits {r : Ranges} (h : Increasing r.toList) (c : Char) :
    r.bits.testBit c.toNat ↔ r.contains c.toNat := by
  rw [Ranges.bits, testBit_runBits h.reverse (toNat_lt c), Ranges.contains, floor?_eq_find? h]
  cases r.toList.reverse.find? (·.1 ≤ c.toNat) with
  | none => simp
  | some e => simp

theorem testBit_unionBits_iff {f : α → Nat} {l : List α} :
    (unionBits f l).testBit c ↔ ∃ x ∈ l, (f x).testBit c := by
  induction l with
  | nil => simp [unionBits]
  | cons x l ih =>
    have hcons : unionBits f (x :: l) = f x ||| unionBits f l := rfl
    rw [hcons, Nat.testBit_or, Bool.or_eq_true, ih]
    simp

/-- The code points of some characters. -/
def charBits (l : List Char) : Nat :=
  unionBits (fun c => 1 <<< c.toNat) l

theorem testBit_charBits {l : List Char} {c : Char} : (charBits l).testBit c.toNat ↔ c ∈ l := by
  rw [charBits, testBit_unionBits_iff]
  simp only [Nat.one_shiftLeft, Nat.testBit_two_pow, decide_eq_true_eq, Char.toNat_inj]
  simp

/-- The blanks as an interval each. -/
def spaceBits : Nat :=
  unionBits (fun r => intervalBits r.1 (r.2 + 1)) blankRanges

theorem testBit_spaceBits (c : Char) : spaceBits.testBit c.toNat ↔ isWhiteSpace c := by
  simp only [spaceBits, testBit_unionBits_iff, testBit_intervalBits, isWhiteSpace_iff, Nat.lt_succ_iff]

def markBits : Nat :=
  categoryBits Category.isMark

theorem testBit_markBits (c : Char) : markBits.testBit c.toNat ↔ isMark c :=
  testBit_categoryBits rfl c

def digitBits : Nat :=
  categoryBits (· == .nd)

theorem testBit_digitBits (c : Char) : digitBits.testBit c.toNat ↔ isDecimalDigit c :=
  testBit_categoryBits rfl c

/-- The categories whose characters all belong to words. -/
def isWordCategory (k : Category) : Bool :=
  k.isLetter || k == .nl || k.isMark || k == .nd || k == .pc

def wordBits : Nat :=
  categoryBits isWordCategory ||| otherAlphabetic.bits ||| charBits ['\u200C', '\u200D']

theorem testBit_wordBits (c : Char) : wordBits.testBit c.toNat ↔ isWordChar c := by
  have hranges : Increasing otherAlphabetic.toList := increasing_of_increases tableChecks.alphabetic
  have hjoiners : c ∈ ['\u200C', '\u200D'] ↔ c.toNat = 0x200C ∨ c.toNat = 0x200D := by
    rw [List.mem_pair, ← Char.toNat_inj, ← Char.toNat_inj]
    rfl
  rw [wordBits, Nat.testBit_or, Nat.testBit_or, Bool.or_eq_true, Bool.or_eq_true,
    testBit_categoryBits rfl, testBit_rangesBits hranges, testBit_charBits, hjoiners]
  simp only [isWordCategory, isWordChar, isAlphabetic, isMark, isDecimalDigit, Bool.or_eq_true,
    decide_eq_true_eq, or_assoc, or_comm, or_left_comm]

end Parlance.Unicode
