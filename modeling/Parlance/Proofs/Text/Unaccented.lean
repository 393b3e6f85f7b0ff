import Parlance.Proofs.Lexicon.LetterCase
import Parlance.Proofs.Text.Bare
import Parlance.Proofs.Text.Normalized

/-!
Words without their accents. Main statement: `normalText_fold_iff`, that a word and its folded form are
normalized to one text whatever the lexicon holds only where the word has no accents, and that else it takes
a lexicon whose term for the accented word is that for the folded one.
-/

namespace Parlance.Text

open Unicode

/-- A word in lower case without the punctuation around it. -/
def surfaceOf (w : String) : String :=
  lowercase (trimWhere isEdgePunctuation w)

/-- The text that a word is normalized to. -/
def normalText (lex : Lexicon) (locale w : String) : Option String :=
  (normalizeWord lex locale w).map NormalizedWord.text

/-- What the term for a spelling is folded to, or a given text where there is no such term or where
nothing is left of it. -/
def said (lex : Lexicon) (locale spelling text : String) : String :=
  (((lex.canonical? locale spelling).map fold).filter (· ≠ "")).getD text

variable {lex : Lexicon} {locale w a s : String}

theorem said_of_none (h : lex.canonical? locale a = none) (s : String) : said lex locale a s = s := by
  rw [said, h]
  rfl

/-- The term for the word in lower case counts, and where there is none that for its folded form. -/
theorem normalText_eq (lex : Lexicon) (locale w : String) : normalText lex locale w =
    if surfaceOf w = "" then none
    else if lex.canonical? locale (surfaceOf w) = none
      then some (said lex locale (fold (surfaceOf w)) (fold (surfaceOf w)))
      else some (said lex locale (surfaceOf w) (fold (surfaceOf w))) := by
  have hempty : surfaceOf w = "" ↔ trimWhere isEdgePunctuation w = "" := lowercase_eq_empty_iff
  unfold normalText normalizeWord said
  dsimp only
  by_cases hcore : trimWhere isEdgePunctuation w = ""
  · rw [if_pos (by simpa using hcore), if_pos (hempty.2 hcore), Option.map_none]
  · rw [if_neg (by simpa using hcore), if_neg (mt hempty.1 hcore)]
    rw [← surfaceOf]
    generalize fold (surfaceOf w) = s
    cases lex.canonical? locale (surfaceOf w) with
    | none =>
      rw [Option.none_or, if_pos rfl]
      generalize ((lex.canonical? locale s).map fold).filter (· ≠ "") = known
      cases known <;> rfl
    | some canonical =>
      rw [Option.some_or, if_neg (Option.some_ne_none canonical)]
      generalize ((some canonical).map fold).filter (· ≠ "") = known
      cases known <;> rfl

theorem normalText_congr {v : String} (h : surfaceOf v = surfaceOf w) :
    normalText lex locale v = normalText lex locale w := by
  rw [normalText_eq, normalText_eq, h]

theorem canonical?_empty (locale term : String) : Lexicon.empty.canonical? locale term = none := by
  unfold Lexicon.canonical? Lexicon.sense?
  dsimp only
  split
  · rfl
  · split
    · rename_i hsense
      cases hsense
    · split <;> rfl

/-! Folded words. -/

theorem exists_toList_fold (p : Char → Bool) (w : String) : ∃ x y,
    (fold w).toList = x ++ (trimWhere p (fold w)).toList ++ y := by
  obtain ⟨y, hsplit, -⟩ := exists_trimList p (fold w).toList
  rw [trimWhere, String.toList_ofList]
  exact ⟨_, y, hsplit⟩

theorem lowercase_trimWhere_fold (p : Char → Bool) (w : String) :
    lowercase (trimWhere p (fold w)) = trimWhere p (fold w) := by
  obtain ⟨x, y, hsplit⟩ := exists_toList_fold p w
  have hlowered := lowered_fold w
  rw [hsplit] at hlowered
  rw [lowercase, lowercase_of_lowered fun c hc => hlowered c (by simp [hc]), String.ofList_toList]

theorem fold_trimWhere_fold (p : Char → Bool) (w : String) :
    fold (trimWhere p (fold w)) = trimWhere p (fold w) := by
  obtain ⟨x, y, hsplit⟩ := exists_toList_fold p w
  have hfold := fold_of_append hsplit
  rwa [String.ofList_toList] at hfold

theorem fold_surfaceOf_fold (w : String) : fold (surfaceOf (fold w)) = surfaceOf (fold w) := by
  rw [surfaceOf, lowercase_trimWhere_fold, fold_trimWhere_fold]

/-- The text of a folded word is that of the term for it, if there is one. -/
theorem normalText_fold (lex : Lexicon) (locale w : String) : normalText lex locale (fold w) =
    if surfaceOf (fold w) = "" then none
    else some (said lex locale (surfaceOf (fold w)) (surfaceOf (fold w))) := by
  rw [normalText_eq, fold_surfaceOf_fold]
  split
  · rfl
  · split <;> rfl

theorem normalText_empty (locale w : String) :
    normalText .empty locale w = if surfaceOf w = "" then none else some (fold (surfaceOf w)) := by
  rw [normalText_eq, if_pos (canonical?_empty _ _), said_of_none (canonical?_empty _ _)]

theorem fold_empty : fold "" = "" := by
  decide

/-- Without a lexicon a word and its folded form are normalized to one text where, the punctuation around
them aside, the one is folded to the other. -/
theorem normalText_empty_fold_iff : normalText .empty locale (fold w) = normalText .empty locale w ↔
    surfaceOf (fold w) = fold (surfaceOf w) ∧ (surfaceOf (fold w) = "" → surfaceOf w = "") := by
  rw [normalText_empty, normalText_empty, fold_surfaceOf_fold]
  by_cases hw : surfaceOf w = ""
  · by_cases hfold : surfaceOf (fold w) = "" <;> simp [hw, hfold, fold_empty]
  · by_cases hfold : surfaceOf (fold w) = "" <;> simp [hw, hfold]

/-! Lexicons. -/

/-- A word without blanks is filed as it is, in lower case. -/
theorem key_surfaceOf (hw : ∀ c ∈ w.toList, ¬isWhiteSpace c) :
    Lexicon.key (surfaceOf w) = surfaceOf w := by
  have hcore : trim (trimWhere isEdgePunctuation w) = trimWhere isEdgePunctuation w := by
    apply trim_of_solid
    intro c hc
    obtain ⟨b, hsplit, -⟩ := exists_trimList isEdgePunctuation w.toList
    rw [trimWhere, String.toList_ofList] at hc
    apply hw
    rw [hsplit]
    simp [hc]
  have htrim := trim_lowercase_trim (trimWhere isEdgePunctuation w)
  rw [hcore] at htrim
  rw [Lexicon.key, surfaceOf, htrim, lowercase_lowercase]

/-- What a folded text is filed as is folded too. -/
theorem fold_key_fold (a : String) : fold (Lexicon.key (fold a)) = Lexicon.key (fold a) := by
  rw [Lexicon.key, trim, lowercase_trimWhere_fold, fold_trimWhere_fold]

theorem canonical?_of_empty (lex : Lexicon) (locale : String) : lex.canonical? locale "" = none := by
  have hkey : Lexicon.key "" = "" := by decide
  rw [Lexicon.canonical?, Lexicon.sense?, hkey]
  rfl

/-- A text other than a given one that lexicons may map to and that is folded already. -/
theorem exists_folded_ne (s : String) : ∃ v, v ≠ s ∧ v ≠ "" ∧ trim v = v ∧ fold v = v := by
  by_cases hs : s = "x"
  · rw [hs]
    exact ⟨"y", by decide, by decide, by decide +kernel, by decide +kernel⟩
  · exact ⟨"x", Ne.symm hs, by decide, by decide +kernel, by decide +kernel⟩

/-- A lexicon with a term for a word with accents tells it from its folded form. -/
theorem exists_normalText_ne (hw : ∀ c ∈ w.toList, ¬isWhiteSpace c)
    (hfold : surfaceOf (fold w) = fold (surfaceOf w)) (hempty : surfaceOf (fold w) ≠ "")
    (hne : fold (surfaceOf w) ≠ surfaceOf w) :
    ∃ lex locale, normalText lex locale (fold w) ≠ normalText lex locale w := by
  obtain ⟨v, hv, hvEmpty, htrim, hvFold⟩ := exists_folded_ne (fold (surfaceOf w))
  have hkey := key_surfaceOf hw
  have hwEmpty : surfaceOf w ≠ "" := by
    intro h
    rw [hfold, h, fold_empty] at hempty
    exact hempty rfl
  have hblank : ¬isBlank (surfaceOf w) := by
    rw [← Lexicon.key_eq_empty_iff, hkey]
    exact hwEmpty
  have hapart : Lexicon.key (fold (surfaceOf w)) ≠ Lexicon.key (surfaceOf w) := by
    intro h
    have hsame := fold_key_fold (surfaceOf w)
    rw [h, hkey] at hsame
    exact hne hsame
  let lex := Lexicon.after [.register "es" (surfaceOf w) v]
  have hfound : lex.canonical? "es" (surfaceOf w) = some v := by
    rw [Lexicon.canonical?, Lexicon.sense?_register hblank, if_pos rfl, Option.map_some, htrim]
  have hmissing : lex.canonical? "es" (fold (surfaceOf w)) = none := by
    rw [Lexicon.canonical?, Lexicon.sense?_register hblank, if_neg hapart, Option.map_none]
  have hplain : normalText lex "es" (fold w) = some (fold (surfaceOf w)) := by
    rw [normalText_fold, if_neg hempty, hfold, said_of_none hmissing]
  have haccented : normalText lex "es" w = some v := by
    rw [normalText_eq, if_neg hwEmpty, hfound, if_neg (Option.some_ne_none v), said, hfound,
      Option.map_some, hvFold, Option.filter_some, if_pos (by simpa using hvEmpty)]
    rfl
  refine ⟨lex, "es", ?_⟩
  rw [hplain, haccented]
  exact fun h => hv (Option.some.inj h).symm

/-- A word and its folded form are normalized to one text whatever the lexicon holds exactly where the word
has no accents: in lower case it is its folded form, the punctuation around them aside. Where the two are
told apart by a lexicon alone, they are so exactly where it has a term for the accented word and this is
folded to another text than the folded word stands for. -/
theorem normalText_fold_iff (hw : ∀ c ∈ w.toList, ¬isWhiteSpace c) :
    ((∀ lex locale, normalText lex locale (fold w) = normalText lex locale w) ↔
        surfaceOf (fold w) = surfaceOf w) ∧
      ∀ lex locale, normalText .empty locale (fold w) = normalText .empty locale w →
        (normalText lex locale (fold w) = normalText lex locale w ↔
          lex.canonical? locale (surfaceOf w) = none ∨
            said lex locale (surfaceOf w) (fold (surfaceOf w)) =
              said lex locale (fold (surfaceOf w)) (fold (surfaceOf w))) := by
  constructor
  · constructor
    · intro h
      by_contra hne
      obtain ⟨hfold, hempty⟩ := normalText_empty_fold_iff.1 (h .empty "es")
      have hfilled : surfaceOf (fold w) ≠ "" := by
        intro hnone
        rw [hnone, hempty hnone] at hne
        exact hne rfl
      obtain ⟨lex, locale, happart⟩ := exists_normalText_ne hw hfold hfilled (hfold ▸ hne)
      exact happart (h lex locale)
    · intro h lex locale
      exact normalText_congr h
  · intro lex locale h
    obtain ⟨hfold, hempty⟩ := normalText_empty_fold_iff.1 h
    rw [normalText_fold, normalText_eq, hfold]
    by_cases hw : surfaceOf w = ""
    · rw [hw, fold_empty, if_pos rfl, if_pos rfl]
      exact ⟨fun _ => .inl (canonical?_of_empty lex locale), fun _ => rfl⟩
    · rw [if_neg (fun hnone => hw (hempty (hfold.trans hnone))), if_neg hw]
      by_cases hnone : lex.canonical? locale (surfaceOf w) = none
      · rw [if_pos hnone]
        exact ⟨fun _ => .inl hnone, fun _ => rfl⟩
      · rw [if_neg hnone, Option.some_inj, or_iff_right hnone, eq_comm]

/-- A Spanish word with an accent is told from the one without by a lexicon that has only the former. -/
theorem normalText_fold_iff_accented : (∀ c ∈ "añade".toList, ¬isWhiteSpace c) ∧
    ¬∀ lex locale, normalText lex locale (fold "añade") = normalText lex locale "añade" :=
  have hw : ∀ c ∈ "añade".toList, ¬isWhiteSpace c := by
    intro c hc
    simp at hc
    obtain rfl | rfl | rfl | rfl | rfl := hc <;> decide
  ⟨hw, mt (normalText_fold_iff hw).1.1 (by decide +kernel)⟩

/-- There are words, not bare punctuation and not of marks alone, that are not normalized to the text of
their folded forms: a term with an accent is not met without it. -/
theorem exists_normalText_fold_ne : ∃ edits locale w, trimWhere isEdgePunctuation w ≠ "" ∧
    (∃ c ∈ w.toList, ¬isMark c) ∧
      normalText (Lexicon.after edits) locale (fold w) ≠ normalText (Lexicon.after edits) locale w :=
  ⟨[.register "es" "añade" "crear"], "es", "añade", by decide +kernel,
    ⟨'d', by simp, by decide⟩, by decide +kernel⟩

end Parlance.Text
