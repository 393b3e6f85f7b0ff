import Parlance.Proofs.Lexicon.Log

/-!
Look-ups of words in upper case. Main statements: `canonical?_uppercase_iff`, that a word in upper case
is looked up like the word itself, whatever the lexicon holds, exactly when each of its characters comes
back from upper case; and `exists_canonical?_uppercase_ne`, that there are words of which this is not so.
-/

namespace Parlance.Lexicon

variable {term : String}

theorem key_uppercase (term : String) :
    key (Text.uppercase term) = Text.lowercase (Text.uppercase (Text.trim term)) := by
  rw [key, Text.trim_uppercase]

theorem key_uppercase_eq_iff : key (Text.uppercase term) = key term ↔
    ∀ before c behind, (Text.trim term).toList = before ++ c :: behind →
      Unicode.ComesBack before c behind := by
  rw [key_uppercase, key, ← Unicode.lowercase_uppercase_iff, Text.lowercase, Text.lowercase,
    String.ofList_inj, Text.uppercase, String.toList_ofList]

/-- Look-ups go by the key of a word alone. -/
theorem canonical?_of_key_eq {term' : String} (h : key term = key term') (lex : Lexicon)
    (locale : String) : lex.canonical? locale term = lex.canonical? locale term' := by
  rw [canonical?, canonical?, sense?, sense?, h]

/-- Where one word is all that was filed, nothing is found but under its key. -/
theorem sense?_register (h : ¬Text.isBlank term) (canonical term' : String) :
    (after [.register "es" term canonical]).sense? "es" term' =
      if key term' = key term then some ⟨Text.trim canonical, 1.0⟩ else none := by
  have hpack : ((after [.register "es" term canonical]).pack "es").get? (key term') =
      (filing "es" term canonical 1.0).foldl (Entry.settle "es" (key term')) none :=
    get?_pack_edit empty (.register "es" term canonical) "es" (key term')
  have hbase : Locale.baseLanguage "es" = "es" := by decide
  rw [sense?_after, hpack, if_pos hbase, Option.or_none, filing, if_neg h, List.foldl_cons,
    List.foldl_nil, Entry.settle]
  by_cases hkey : key term' = key term
  · rw [if_pos hkey, if_pos ⟨rfl, hkey.symm⟩]
  · rw [if_neg hkey, if_neg fun hconcerns => hkey hconcerns.2.symm]

theorem key_uppercase_of_isBlank (h : Text.isBlank term) : key (Text.uppercase term) = key term := by
  rw [key_uppercase, key, Text.isBlank_iff.1 h]
  rfl

/-- A word in upper case is looked up like the word itself, whatever the lexicon holds, exactly when
each of its characters comes back from upper case where it stands. -/
theorem canonical?_uppercase_iff (term : String) :
    (∀ edits locale, (after edits).canonical? locale (Text.uppercase term) =
        (after edits).canonical? locale term) ↔
      ∀ before c behind, (Text.trim term).toList = before ++ c :: behind →
        Unicode.ComesBack before c behind := by
  rw [← key_uppercase_eq_iff]
  constructor
  · intro h
    by_cases hblank : Text.isBlank term
    · exact key_uppercase_of_isBlank hblank
    · -- a lexicon that holds the word alone tells the keys apart
      have hfound := h [.register "es" term ""] "es"
      rw [canonical?, canonical?, sense?_register hblank, sense?_register hblank, if_pos rfl] at hfound
      by_contra hkey
      rw [if_neg hkey] at hfound
      cases hfound
  · intro h edits locale
    exact canonical?_of_key_eq h _ locale

/-- A word of characters that come back wherever they stand is looked up like itself in upper case. -/
theorem canonical?_uppercase_of_returns (h : ∀ c ∈ (Text.trim term).toList, Unicode.Returns c)
    (lex : Lexicon) (locale : String) :
    lex.canonical? locale (Text.uppercase term) = lex.canonical? locale term := by
  refine canonical?_of_key_eq (key_uppercase_eq_iff.2 fun before c behind hterm => ?_) lex locale
  exact (h c (by simp [hterm])).comesBack before behind

/-- There are words that are not found in upper case: the upper case of `ß` is two letters. -/
theorem exists_canonical?_uppercase_ne : ∃ edits locale term,
    (after edits).canonical? locale (Text.uppercase term) ≠ (after edits).canonical? locale term :=
  ⟨[.register "de" "straße" "calle"], "de", "straße", by decide +kernel⟩

end Parlance.Lexicon
