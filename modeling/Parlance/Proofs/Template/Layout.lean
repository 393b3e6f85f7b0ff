import Parlance.Proofs.Pattern.Spans
import Parlance.Proofs.Template.Compilation
import Parlance.Proofs.Template.Parsing
import Parlance.Proofs.Text.Words
import Parlance.Proofs.Unicode.Folding

/-!
What the pattern of a template covers. Main statements: `traced_of_covers`, that a covered text is the
template written out up to letter case, blanks and words that may be left out, and `Traced.words`, that
it has the words of the template and of its slots where all are kept apart by blanks.
-/

namespace Parlance.Template

open Pattern Unicode Text Intent

variable {t : List Char} {i j : Nat}

/-! Stretches. -/

theorem drop_eq_stretch (t : List Char) (h : i ≤ j) : t.drop i = stretch t (i, j) ++ t.drop j := by
  have hdrop : t.drop j = (t.drop i).drop (j - i) := by rw [List.drop_drop, Nat.add_sub_cancel' h]
  rw [hdrop, stretch, List.take_append_drop]

theorem take_eq_stretch (t : List Char) (h : i ≤ j) : t.take j = t.take i ++ stretch t (i, j) := by
  rw [stretch, ← List.take_add, Nat.add_sub_cancel' h]

theorem stretch_self (t : List Char) (i : Nat) : stretch t (i, i) = [] := by
  simp [stretch]

theorem stretch_succ {c : Char} (h : t[i]? = some c) (hj : i < j) :
    stretch t (i, j) = c :: stretch t (i + 1, j) := by
  obtain ⟨hi, hc⟩ := List.getElem?_eq_some_iff.1 h
  obtain ⟨k, rfl⟩ := Nat.exists_eq_add_of_lt hj
  have hlen : i + k + 1 - i = k + 1 := by omega
  have hlen' : i + k + 1 - (i + 1) = k := by omega
  rw [stretch, stretch, List.drop_eq_getElem_cons hi, hc]
  simp only [hlen, hlen', List.take_succ_cons]

theorem length_stretch (hj : j ≤ t.length) : (stretch t (i, j)).length = j - i := by
  rw [stretch, List.length_take, List.length_drop]
  omega

/-! What the patterns of words and blanks match. -/

theorem map_simpleFold_of_spans {l : List Char}
    (h : Spans t.toArray (.all (l.map fun c => .one (CharSet.letter c))) i j) :
    (stretch t (i, j)).map simpleFold = l.map simpleFold := by
  induction l generalizing i with
  | nil =>
    cases h
    rw [stretch_self]
  | cons c l ih =>
    obtain ⟨k, hc, hl⟩ := spans_all_cons.1 h
    cases hc with
    | one hd hfold =>
      rw [List.getElem?_toArray] at hd
      rw [stretch_succ hd hl.le, List.map_cons, List.map_cons, ih hl]
      congr 1
      simpa [CharSet.letter] using hfold

theorem forall_of_spans_plus {p : Char → Bool} {greedy : Bool}
    (h : Spans t.toArray (.plus greedy (.one p)) i j) :
    i < j ∧ j ≤ t.length ∧ ∀ c ∈ stretch t (i, j), p c := by
  generalize hn : Node.plus greedy (.one p) = n at h
  have hone : ∀ {k l : Nat}, Spans t.toArray (.one p) k l →
      l = k + 1 ∧ ∃ c, t[k]? = some c ∧ p c := by
    intro k l h
    cases h with
    | one hc hp => exact ⟨rfl, _, by simpa using hc, hp⟩
  induction h with
  | once h =>
    cases hn
    obtain ⟨rfl, c, hc, hp⟩ := hone h
    refine ⟨Nat.lt_succ_self _, (List.getElem?_eq_some_iff.1 hc).1, ?_⟩
    rw [stretch_succ hc (Nat.lt_succ_self _), stretch_self]
    simpa using hp
  | more h _ _ ih =>
    cases hn
    obtain ⟨rfl, c, hc, hp⟩ := hone h
    obtain ⟨hlt, hle, hall⟩ := ih rfl
    refine ⟨by omega, hle, ?_⟩
    rw [stretch_succ hc (by omega)]
    simpa [hp] using hall
  | _ => cases hn

theorem blank_of_spans_gapIf {space : Bool} (h : Spans t.toArray (gapIf space) i j) :
    i ≤ j ∧ (∀ c ∈ stretch t (i, j), isWhiteSpace c) ∧ (space → stretch t (i, j) ≠ []) := by
  cases space with
  | false =>
    cases h
    exact ⟨le_rfl, by simp [stretch_self], by simp⟩
  | true =>
    obtain ⟨hlt, hle, hall⟩ := forall_of_spans_plus h
    refine ⟨hlt.le, hall, fun _ hnil => ?_⟩
    have hlen := length_stretch (i := i) hle
    rw [hnil, List.length_nil] at hlen
    omega

theorem blank_of_spans_blanks (h : Spans t.toArray blanks i j) :
    i ≤ j ∧ ∀ c ∈ stretch t (i, j), isWhiteSpace c := by
  cases h with
  | skip => exact ⟨le_rfl, by simp [stretch_self]⟩
  | take h =>
    obtain ⟨hlt, -, hall⟩ := forall_of_spans_plus h
    exact ⟨hlt.le, hall⟩

/-! Units written out. -/

/-- A text behind another is units written out: words up to letter case, of which some may be left out,
and for slots what tells them between what is before and behind. Between them stands nothing but
blanks, and there are blanks where the units tell. -/
inductive Traced (optional : String → Bool)
    (tells : String → List Char → List Char → List Char → Prop) :
    (before : List Char) → List Unit → List Char → Prop
  | nil : (∀ c ∈ b, isWhiteSpace c) → Traced optional tells before [] b
  | word {space : Bool} : (∀ c ∈ b, isWhiteSpace c) → (space → before = [] ∨ b ≠ []) →
      x.map simpleFold = text.toList.map simpleFold →
      Traced optional tells (before ++ b ++ x) us l →
      Traced optional tells before (⟨.word text, space⟩ :: us) (b ++ x ++ l)
  | slot {space : Bool} : (∀ c ∈ b, isWhiteSpace c) → (space → before = [] ∨ b ≠ []) →
      tells name (before ++ b) y l →
      Traced optional tells (before ++ b ++ y) us l →
      Traced optional tells before (⟨.slot name, space⟩ :: us) (b ++ y ++ l)
  | skip : optional text → Traced optional tells before us l →
      Traced optional tells before (⟨.word text, space⟩ :: us) l

variable {spec : Spec} {optional : String → Bool}
  {tells : String → List Char → List Char → List Char → Prop} {us : List Unit} {k : Nat}
  {ss : List (Nat × Nat)} {l : List Char}

theorem Traced.word_at {text : String} {space : Bool} (hki : k ≤ i)
    (hblank : ∀ c ∈ stretch t (k, i), isWhiteSpace c)
    (hspace : space → t.take k = [] ∨ stretch t (k, i) ≠ [])
    (hword : Spans t.toArray (literal text) i j)
    (h : Traced optional tells (t.take j) us (t.drop j)) :
    Traced optional tells (t.take k) (⟨.word text, space⟩ :: us) (t.drop k) := by
  rw [take_eq_stretch t hword.le, take_eq_stretch t hki] at h
  rw [drop_eq_stretch t hki, drop_eq_stretch t hword.le, ← List.append_assoc]
  exact .word hblank hspace (map_simpleFold_of_spans hword) h

theorem Traced.slot_at {name : String} {space : Bool} (hki : k ≤ i)
    (hblank : ∀ c ∈ stretch t (k, i), isWhiteSpace c)
    (hspace : space → t.take k = [] ∨ stretch t (k, i) ≠ []) (hij : i ≤ j)
    (htells : tells name (t.take i) (stretch t (i, j)) (t.drop j))
    (h : Traced optional tells (t.take j) us (t.drop j)) :
    Traced optional tells (t.take k) (⟨.slot name, space⟩ :: us) (t.drop k) := by
  rw [take_eq_stretch t hki] at htells
  rw [take_eq_stretch t hij, take_eq_stretch t hki] at h
  rw [drop_eq_stretch t hki, drop_eq_stretch t hij, ← List.append_assoc]
  exact .slot hblank hspace htells h

theorem Traced.nil_at (h : Covers t.toArray [.fixed blanks] i ss) (hki : k ≤ i)
    (hblank : ∀ c ∈ stretch t (k, i), isWhiteSpace c) :
    Traced optional tells (t.take k) [] (t.drop k) := by
  cases h with
  | fixed hb hnil =>
    cases hnil
    rw [List.size_toArray] at hb
    obtain ⟨hle, hall⟩ := blank_of_spans_blanks hb
    refine .nil fun c hc => ?_
    rw [drop_eq_stretch t hki, drop_eq_stretch t hle, List.drop_length, List.append_nil] at hc
    exact (List.mem_append.1 hc).elim (hblank c) (hall c)

theorem traced_of_covers_behind
    (h : Covers t.toArray (layout false (us.map (elementOf spec optional))) k ss)
    (htells : ∀ name s, (name, s) ∈ (slotNames us).zip ss →
      Spans t.toArray (nodeOf spec name) s.1 s.2 →
        tells name (t.take s.1) (stretch t s) (t.drop s.2)) :
    Traced optional tells (t.take k) us (t.drop k) := by
  induction us generalizing k ss with
  | nil => exact .nil_at h le_rfl (by simp [stretch_self])
  | cons u us ih =>
    obtain ⟨part, space⟩ := u
    cases part with
    | word text =>
      by_cases htext : optional text
      · rw [List.map_cons, layout, elementOf, if_pos htext] at h
        cases h with
        | fixed hopt hrest =>
          cases hopt with
          | skip => exact .skip htext (ih hrest htells)
          | take hseq =>
            cases hseq with
            | seq hgap hword =>
              obtain ⟨hle, hblank, hne⟩ := blank_of_spans_gapIf hgap
              exact .word_at hle hblank (fun hs => .inr (hne hs)) hword (ih hrest htells)
      · rw [List.map_cons, layout, elementOf, if_neg htext] at h
        cases h with
        | fixed hgap hrest =>
          cases hrest with
          | fixed hword hrest =>
            obtain ⟨hle, hblank, hne⟩ := blank_of_spans_gapIf hgap
            exact .word_at hle hblank (fun hs => .inr (hne hs)) hword (ih hrest htells)
    | slot name =>
      cases h with
      | fixed hgap hrest =>
        cases hrest with
        | slot hslot hrest =>
          obtain ⟨hle, hblank, hne⟩ := blank_of_spans_gapIf hgap
          exact .slot_at hle hblank (fun hs => .inr (hne hs)) hslot.le
            (htells _ _ List.mem_cons_self hslot) (ih hrest fun name s hs => htells name s (.tail _ hs))

/-- Behind a word that takes along the space behind it, there is that space, or else a slot without one. -/
theorem spaced_of_keepsApart (spec : Spec) (optional : String → Bool) {u : Unit} (hu : u.part.IsWord)
    (h : ∀ v ∈ us.head?, KeepsApart u v) :
    ((us.map (elementOf spec optional)).head?.map Element.spaceBefore).getD false = true ∨
      ∀ v ∈ us.head?, ¬v.part.IsWord ∧ ¬v.spaceBefore := by
  cases us with
  | nil => exact .inr fun v hv => by cases hv
  | cons v us =>
    rw [List.map_cons, List.head?_cons, Option.map_some, Option.getD_some, spaceBefore_elementOf]
    by_cases hspace : v.spaceBefore
    · exact .inl hspace
    · refine .inr fun w hw => ?_
      obtain rfl : v = w := Option.some.inj hw
      exact ⟨fun hword => hspace (h v rfl hu hword), hspace⟩

/-- What units cover behind blanks is them written out. Only a slot that has no blanks before it in the
template may come behind a word without them: words are kept apart. -/
theorem traced_of_covers_first (hapart : Apart us)
    (h : Covers t.toArray (layout true (us.map (elementOf spec optional))) i ss)
    (htells : ∀ name s, (name, s) ∈ (slotNames us).zip ss →
      Spans t.toArray (nodeOf spec name) s.1 s.2 →
        tells name (t.take s.1) (stretch t s) (t.drop s.2))
    (hki : k ≤ i) (hblank : ∀ c ∈ stretch t (k, i), isWhiteSpace c)
    (hspace : (t.take k = [] ∨ stretch t (k, i) ≠ []) ∨
      ∀ u ∈ us.head?, ¬u.part.IsWord ∧ ¬u.spaceBefore) :
    Traced optional tells (t.take k) us (t.drop k) := by
  induction us generalizing i k ss with
  | nil => exact .nil_at h hki hblank
  | cons u us ih =>
    obtain ⟨part, space⟩ := u
    obtain ⟨hfirst, hrestApart⟩ := List.isChain_cons.1 hapart
    cases part with
    | word text =>
      have hspace := hspace.resolve_right fun hhead => (hhead _ rfl).1 trivial
      by_cases htext : optional text
      · rw [List.map_cons, layout, elementOf, if_pos htext] at h
        cases h with
        | fixed hopt hrest =>
          cases hopt with
          | skip => exact .skip htext (ih hrestApart hrest htells hki hblank (.inl hspace))
          | take hseq =>
            cases hseq with
            | seq hword hgap =>
              refine .word_at hki hblank (fun _ => hspace) hword ?_
              obtain ⟨hle, hblank', hne⟩ := blank_of_spans_gapIf hgap
              have hbehind := spaced_of_keepsApart spec optional (u := ⟨.word text, space⟩) trivial hfirst
              exact ih hrestApart hrest htells hle hblank' (hbehind.imp_left fun hs => .inr (hne hs))
      · rw [List.map_cons, layout, elementOf, if_neg htext] at h
        cases h with
        | fixed hword hrest =>
          exact .word_at hki hblank (fun _ => hspace) hword (traced_of_covers_behind hrest htells)
    | slot name =>
      have hspace : space → t.take k = [] ∨ stretch t (k, i) ≠ [] := fun hs =>
        hspace.resolve_right fun hhead => (hhead _ rfl).2 hs
      cases h with
      | slot hslot hrest =>
        exact .slot_at hki hblank hspace hslot.le (htells _ _ List.mem_cons_self hslot)
          (traced_of_covers_behind hrest fun name s hs => htells name s (.tail _ hs))

/-- What a template covers is its units written out. -/
theorem traced_of_covers (hapart : Apart us)
    (h : Covers t.toArray (pieces (us.map (elementOf spec optional))) 0 ss)
    (htells : ∀ name s, (name, s) ∈ (slotNames us).zip ss →
      Spans t.toArray (nodeOf spec name) s.1 s.2 →
        tells name (t.take s.1) (stretch t s) (t.drop s.2)) :
    Traced optional tells [] us t := by
  cases h with
  | fixed hb hrest =>
    obtain ⟨hle, hblank⟩ := blank_of_spans_blanks hb
    exact traced_of_covers_first hapart hrest htells hle hblank (.inl (.inl rfl))

/-! Words up to letter case and optional words. -/

/-- Words up to letter case, without those that are optional. -/
def erased (optional : String → Bool) (ws : List (List Char)) : List (List Char) :=
  (ws.map (List.map simpleFold)).filter fun w => !optional (String.ofList w)

theorem erased_append (optional : String → Bool) (ws ws' : List (List Char)) :
    erased optional (ws ++ ws') = erased optional ws ++ erased optional ws' := by
  simp [erased]

theorem erased_never (ws : List (List Char)) : erased never ws = ws.map (List.map simpleFold) := by
  simp [erased, never]

theorem erased_wordsOf_congr (optional : String → Bool) {x y : List Char}
    (h : x.map simpleFold = y.map simpleFold) :
    erased optional (wordsOf x) = erased optional (wordsOf y) := by
  rw [erased, erased, ← wordsOf_map isWhiteSpace_simpleFold, ← wordsOf_map isWhiteSpace_simpleFold, h]

/-- Words that may be left out do not count. -/
def Skips (optional : String → Bool) : Prop :=
  ∀ text, optional text → erased optional (wordsOf text.toList) = []

/-- The words of a part, where the words for slots are given. -/
def Part.words (slotWords : String → List (List Char)) : Part → List (List Char)
  | .word text => wordsOf text.toList
  | .slot name => slotWords name

/-- Units that all have blanks before them, except for the first where nothing is before it. -/
def Spaced (before : List Char) (us : List Unit) : Prop :=
  before = [] ∧ (∀ u ∈ us.tail, u.spaceBefore) ∨ ∀ u ∈ us, u.spaceBefore

theorem Spaced.tail {before before' : List Char} {u : Unit} (h : Spaced before (u :: us)) :
    Spaced before' us :=
  .inr (h.elim (fun h => h.2) fun h v hv => h v (.tail _ hv))

theorem Spaced.blank {before b : List Char} {u : Unit} (h : Spaced before (u :: us))
    (hspace : u.spaceBefore → before = [] ∨ b ≠ []) : before = [] ∨ b ≠ [] :=
  h.elim (fun h => .inl h.1) fun h => hspace (h u List.mem_cons_self)

theorem Traced.head_blank {before : List Char} (h : Traced optional tells before us l)
    (hspaced : Spaced before us) (hbefore : before ≠ []) : ∀ c ∈ l.head?, isWhiteSpace c := by
  induction h with
  | nil hb => exact fun c hc => hb c (List.mem_of_mem_head? hc)
  | word hb hspace _ _ _ | slot hb hspace _ _ _ =>
    intro c hc
    have hne := (hspaced.blank hspace).resolve_left hbefore
    rw [List.append_assoc, List.head?_append, Option.or_of_isSome (by simpa using hne)] at hc
    exact hb c (List.mem_of_mem_head? hc)
  | skip _ _ ih => exact ih hspaced.tail hbefore

theorem Traced.wordsOf_append {before b x : List Char} (hb : ∀ c ∈ b, isWhiteSpace c)
    (h : Traced optional tells (before ++ b ++ x) us l) (hspaced : Spaced (before ++ b ++ x) us) :
    wordsOf (b ++ x ++ l) = wordsOf x ++ wordsOf l := by
  rw [List.append_assoc, wordsOf_blank_append hb]
  by_cases hx : x = []
  · simp [hx]
  · exact wordsOf_append_of_head (h.head_blank hspaced (by simp [hx])) x

/-- Units written out with blanks between have the words of the units. -/
theorem Traced.words (hskip : Skips optional) (slotWords : String → List (List Char))
    {before : List Char} (h : Traced optional tells before us l) (hspaced : Spaced before us)
    (hslot : ∀ name x y z, tells name x y z → before ++ l = x ++ y ++ z →
      (∀ c ∈ x.getLast?, isWhiteSpace c) → (y ≠ [] → ∀ c ∈ z.head?, isWhiteSpace c) →
        wordsOf y = slotWords name) :
    erased optional (wordsOf l) =
      erased optional (us.flatMap fun u => u.part.words slotWords) := by
  induction h with
  | nil hb => rw [wordsOf_blank hb, List.flatMap_nil]
  | word hb _ hx h ih =>
    rw [h.wordsOf_append hb hspaced.tail, erased_append, ih hspaced.tail (by simpa using hslot),
      List.flatMap_cons, erased_append, erased_wordsOf_congr optional hx]
    rfl
  | @slot b before name y l us space hb hspace htells h ih =>
    have hlast : ∀ c ∈ (before ++ b).getLast?, isWhiteSpace c := by
      intro c hc
      rw [List.getLast?_append] at hc
      rcases Option.or_eq_some_iff.1 hc with hc | ⟨hnil, hc⟩
      · exact hb c (List.mem_of_getLast? hc)
      · rcases hspaced.blank hspace with rfl | hne
        · cases hc
        · exact absurd (List.getLast?_eq_none_iff.1 hnil) hne
    have hwords := hslot name (before ++ b) y l htells (by simp) hlast fun hne =>
      h.head_blank hspaced.tail (by simp [hne])
    rw [h.wordsOf_append hb hspaced.tail, erased_append, ih hspaced.tail (by simpa using hslot),
      List.flatMap_cons, erased_append, hwords]
    rfl
  | skip htext _ ih =>
    rw [ih hspaced.tail hslot, List.flatMap_cons, erased_append]
    exact (congrArg (· ++ _) (hskip _ htext)).symm

theorem Traced.mono {optional' : String → Bool}
    {tells' : String → List Char → List Char → List Char → Prop} {before : List Char}
    (h : Traced optional tells before us l) (hoptional : ∀ text, optional text → optional' text)
    (htells : ∀ name x y z, tells name x y z → tells' name x y z) :
    Traced optional' tells' before us l := by
  induction h with
  | nil hb => exact .nil hb
  | word hb hspace hx _ ih => exact .word hb hspace hx ih
  | slot hb hspace hs _ ih => exact .slot hb hspace (htells _ _ _ _ hs) ih
  | skip htext _ ih => exact .skip (hoptional _ htext) ih

end Parlance.Template
