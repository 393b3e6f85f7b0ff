import Parlance.Proofs.Text.Bare

/-!
Folding and normal forms. A `Normalization` puts the marks of a decomposed text in order and composes a text
by the whole table of decompositions, where folding joins Hangul and nothing else. Main statements:
`Normalization.fold_eq`, that neither makes a difference to a text that loses its marks in between; and
`projection_fold`, that folding is a projection to texts without marks.
-/

namespace Parlance.Unicode

open Text

-- the table is too long to be looked into
attribute [local irreducible] decompositionSteps

variable {a b c : Char} {l : List Char}

/-- What normal forms go by besides the decompositions. -/
structure Normalization where
  /-- The combining class of a mark; that of other characters is zero. -/
  markClass : Char → Nat
  /-- The composites that no text is composed to. -/
  isExcluded : Char → Bool

namespace Normalization

variable (t : Normalization)

def classOf (c : Char) : Nat :=
  if isMark c then t.markClass c else 0

/-- Puts a character in front of a text, behind those first marks of it that are of lower classes. -/
def place (c : Char) : List Char → List Char
  | [] => [c]
  | d :: rest =>
    if 0 < t.classOf d ∧ t.classOf d < t.classOf c then d :: place c rest else c :: d :: rest

/-- The canonical decomposition of a text: marks that stand together are in the order of their classes,
and those of one class in the order they had. -/
def decompose (l : List Char) : List Char :=
  (l.flatMap decomposeChar).foldr t.place []

/-- The composite, Hangul apart, that decomposes to two characters in one step. -/
def pair? (a b : Char) : Option Char :=
  (decompositionSteps.toList.find? fun e =>
    e.2 == [a.toNat, b.toNat] && !t.isExcluded (Char.ofNat e.1)).map fun e => Char.ofNat e.1

def compose? (a b : Char) : Option Char :=
  ((Hangul.compose? a.toNat b.toNat).map Char.ofNat).or (t.pair? a b)

/-- Composes a text behind `k` and the marks `held`, which stand behind `k` and are not composed with it.
The last of these keeps a character from `k` that is not of a higher class. -/
def composeFrom (k : Char) (held : List Char) : List Char → List Char
  | [] => k :: held
  | c :: rest =>
    match if held.getLast?.any fun m => t.classOf c ≤ t.classOf m then none else t.compose? k c with
    | some d => composeFrom d held rest
    | none =>
      if t.classOf c = 0 then k :: held ++ composeFrom c [] rest
      else composeFrom k (held ++ [c]) rest

/-- Composes characters of class zero with what stands behind them. -/
def compose : List Char → List Char
  | [] => []
  | c :: rest => if t.classOf c = 0 then t.composeFrom c [] rest else c :: compose rest

-- the dot below comes before the circumflex, and both are composed with the letter
example : let t : Normalization := ⟨fun c => if c = '\u0323' then 220 else 230, fun _ => false⟩
    t.compose (t.decompose ['o', '\u0302', '\u0323']) = ['\u1ED9'] := by
  decide +kernel

/-- Decomposes a text, drops its marks, composes what is left and turns it to lower case. -/
def fold (s : String) : String :=
  let letters := (t.decompose s.toList).filter fun c => !isMark c
  String.ofList (Unicode.lowercase (t.compose (t.decompose letters)))

variable {t : Normalization}

/-! Order. -/

theorem classOf_of_not_isMark (h : ¬isMark c) : t.classOf c = 0 :=
  if_neg h

theorem isMark_of_classOf_pos (h : 0 < t.classOf c) : isMark c := by
  by_contra hmark
  rw [classOf_of_not_isMark hmark] at h
  exact Nat.lt_irrefl 0 h

/-- Only marks are put behind others, and only behind marks. -/
theorem filter_place (c : Char) (l : List Char) :
    (t.place c l).filter (fun d => !isMark d) = (c :: l).filter fun d => !isMark d := by
  induction l with
  | nil => rfl
  | cons d l ih =>
    rw [place]
    split
    · rename_i hclass
      have hd : isMark d := isMark_of_classOf_pos hclass.1
      have hc : isMark c := isMark_of_classOf_pos (Nat.zero_lt_of_lt hclass.2)
      rw [List.filter_cons_of_neg (by simp [hd]), ih, List.filter_cons_of_neg (by simp [hc]),
        List.filter_cons_of_neg (by simp [hc]), List.filter_cons_of_neg (by simp [hd])]
    · rfl

theorem filter_foldr_place (l : List Char) :
    (l.foldr t.place []).filter (fun d => !isMark d) = l.filter fun d => !isMark d := by
  induction l with
  | nil => rfl
  | cons c l ih => rw [List.foldr_cons, filter_place, List.filter_cons, List.filter_cons, ih]

theorem place_of_not_isMark (h : ∀ d ∈ l, ¬isMark d) (c : Char) : t.place c l = c :: l := by
  cases l with
  | nil => rfl
  | cons d l =>
    have hd : t.classOf d = 0 := classOf_of_not_isMark (h d List.mem_cons_self)
    rw [place, hd, if_neg fun hclass => Nat.lt_irrefl 0 hclass.1]

/-- Without marks there is nothing to put in order. -/
theorem foldr_place_of_not_isMark (h : ∀ d ∈ l, ¬isMark d) : l.foldr t.place [] = l := by
  induction l with
  | nil => rfl
  | cons c l ih =>
    obtain ⟨-, hl⟩ := List.forall_mem_cons.1 h
    rw [List.foldr_cons, ih hl, place_of_not_isMark hl]

/-! Composites. -/

/-- The code points that stand behind another one in what some code point decomposes to. -/
def behindBits : Nat :=
  unionBits (fun e => unionBits (1 <<< ·) e.2.tail) decompositionSteps.toList

theorem behindBits_marks : behindBits &&& markBits = behindBits := by
  decide +kernel

/-- Hangul apart, composites end in marks. -/
theorem isMark_of_pair? (h : t.pair? a b = some c) : isMark b := by
  rw [pair?, Option.map_eq_some_iff] at h
  obtain ⟨e, hfind, -⟩ := h
  have hparts := List.find?_some hfind
  rw [Bool.and_eq_true, beq_iff_eq] at hparts
  have htail : b.toNat ∈ e.2.tail := by
    rw [hparts.1]
    exact List.mem_singleton_self _
  have hbehind : behindBits.testBit b.toNat :=
    testBit_unionBits (List.mem_of_find?_eq_some hfind)
      (testBit_unionBits htail (testBit_one_shiftLeft_self _))
  exact (testBit_markBits b).1 (testBit_of_and_eq_left behindBits_marks hbehind)

theorem compose?_of_not_isMark (h : ¬isMark b) (a : Char) :
    t.compose? a b = (Hangul.compose? a.toNat b.toNat).map Char.ofNat := by
  have hpair : t.pair? a b = none := by
    rw [Option.eq_none_iff_forall_ne_some]
    intro c hc
    exact h (isMark_of_pair? hc)
  rw [compose?, hpair, Option.or_none]

theorem composeFrom_of_not_isMark (h : ∀ c ∈ l, ¬isMark c) (k : Char) :
    t.composeFrom k [] l = composeHangul.go k l := by
  induction l generalizing k with
  | nil => rfl
  | cons c l ih =>
    obtain ⟨hc, hl⟩ := List.forall_mem_cons.1 h
    have hfree : ([] : List Char).getLast?.any (fun m => t.classOf c ≤ t.classOf m) = false := rfl
    rw [composeFrom, composeHangul.go, hfree, if_neg Bool.false_ne_true, compose?_of_not_isMark hc,
      if_pos (classOf_of_not_isMark hc)]
    cases Hangul.compose? k.toNat c.toNat with
    | some n => exact ih hl (Char.ofNat n)
    | none => exact congrArg (k :: ·) (ih hl c)

/-- Without marks there is nothing to compose but Hangul. -/
theorem compose_of_not_isMark (h : ∀ c ∈ l, ¬isMark c) : t.compose l = composeHangul l := by
  cases l with
  | nil => rfl
  | cons c l =>
    obtain ⟨hc, hl⟩ := List.forall_mem_cons.1 h
    rw [compose, if_pos (classOf_of_not_isMark hc), composeFrom_of_not_isMark hl, composeHangul]

/-! Folding. -/

/-- Whatever the classes of the marks and the excluded composites, folding is to decompose a text, to drop
its marks, to compose what is left and to turn it to lower case. -/
theorem fold_eq (t : Normalization) (s : String) : t.fold s = Text.fold s := by
  have hletters : (t.decompose s.toList).filter (fun c => !isMark c) =
      (s.toList.flatMap decomposeChar).filter fun c => !isMark c := filter_foldr_place _
  rw [fold, Text.fold, stripMarks, hletters]
  generalize hkept : (s.toList.flatMap decomposeChar).filter (fun c => !isMark c) = letters
  have hsettled : ∀ c ∈ letters, Settled c := fun c hc => settled_of_mem_filter (hkept ▸ hc)
  have hunmarked : ∀ d ∈ letters.flatMap decomposeChar, ¬isMark d := by
    intro d hd
    obtain ⟨c, hc, hd⟩ := List.mem_flatMap.1 hd
    exact (hsettled c hc).not_isMark_of_mem hd
  have hcomposed : t.compose (t.decompose letters) = composeHangul letters := by
    rw [decompose, foldr_place_of_not_isMark hunmarked, compose_of_not_isMark hunmarked,
      composeHangul_flatMap hsettled]
  exact congrArg (fun l => String.ofList (Unicode.lowercase l)) hcomposed

end Normalization

/-- Folding is a projection to texts without marks: what every normalization folds a text to is folded
to itself, and no mark is in it. -/
theorem projection_fold (s : String) : (∀ t : Normalization, t.fold s = fold s) ∧
    fold (fold s) = fold s ∧ ∀ c ∈ (fold s).toList, ¬isMark c :=
  ⟨fun t => t.fold_eq s, fold_fold s, fun c hc => ((bare_fold s).settled c hc).unmarked⟩

end Parlance.Unicode
