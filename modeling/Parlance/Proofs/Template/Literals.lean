import Parlance.Proofs.Template.Filled
import Parlance.Proofs.Template.FilledWords
import Parlance.Proofs.Text.Unwords

/-!
Templates without slots, and the same phrases as utterances. Main statements: `words_of_parse`, that
such a template has a unit for each word of the phrase; `text_normalize`, that a normalized text is its
tokens with spaces between once those that are empty are dropped at its beginning; and
`normalizedPhrase_eq_text_iff`, that compiling and normalizing make the same words of a phrase, and the
same text unless the first word becomes the empty one.
-/

namespace Parlance.Text

variable {lex : Lexicon} {locale : String}

/-- What normalizing makes of words, word by word. -/
def normalTexts (lex : Lexicon) (locale : String) (ws : List String) : List String :=
  ws.filterMap fun w => (normalizeWord lex locale w).map NormalizedWord.text

theorem map_text_tokensFrom (length : Nat) (ws : List Word) :
    (tokensFrom lex locale length ws).map Token.text =
      normalTexts lex locale (ws.map Word.text) := by
  induction ws generalizing length with
  | nil => rfl
  | cons w ws ih =>
    rw [tokensFrom, List.map_cons, normalTexts, List.filterMap_cons]
    cases hn : normalizeWord lex locale w.text with
    | none => exact ih length
    | some n => exact congrArg (n.text :: ·) (ih _)

theorem map_text_tokens (lex : Lexicon) (locale input : String) :
    (normalize lex locale input).tokens.map Token.text = normalTexts lex locale (words input) :=
  map_text_tokensFrom 0 (placedWords input)

theorem foldl_appendWord_of_ne {text : String} (h : ¬text.isEmpty) (xs : List String) :
    xs.foldl appendWord text = unwords (text :: xs) := by
  induction xs generalizing text with
  | nil => exact String.intercalate_singleton.symm
  | cons x xs ih =>
    have hne : ¬(text ++ " " ++ x).isEmpty := by simp
    calc (x :: xs).foldl appendWord text
        = xs.foldl appendWord (text ++ " " ++ x) := by rw [List.foldl_cons, appendWord, if_neg h]
      _ = unwords ((text ++ " " ++ x) :: xs) := ih hne
      _ = text ++ " " ++ unwords (x :: xs) := String.intercalate_cons_append
      _ = unwords (text :: x :: xs) := (unwords_cons_cons _ _ _).symm

/-- A word added to a text that is still empty leaves no trace when it is empty itself. -/
theorem foldl_appendWord_empty (xs : List String) :
    xs.foldl appendWord "" = unwords (xs.dropWhile (·.isEmpty)) := by
  induction xs with
  | nil => rfl
  | cons x xs ih =>
    have hfirst : appendWord "" x = x := rfl
    rw [List.foldl_cons, hfirst]
    by_cases hx : x.isEmpty
    · obtain rfl : x = "" := by simpa using hx
      rw [ih, List.dropWhile_cons_of_pos hx]
    · rw [List.dropWhile_cons_of_neg hx, foldl_appendWord_of_ne hx]

theorem text_normalize (lex : Lexicon) (locale input : String) :
    (normalize lex locale input).text =
      unwords (((normalize lex locale input).tokens.map Token.text).dropWhile (·.isEmpty)) :=
  foldl_appendWord_empty _

theorem length_unwords_dropWhile_le (xs : List String) :
    (unwords (xs.dropWhile (·.isEmpty))).length ≤ (unwords xs).length := by
  induction xs with
  | nil => exact le_rfl
  | cons x xs ih =>
    by_cases hx : x.isEmpty
    · rw [List.dropWhile_cons_of_pos hx]
      refine ih.trans ?_
      cases xs with
      | nil => exact Nat.zero_le _
      | cons y ys =>
        rw [unwords_cons_cons, String.length_append]
        exact Nat.le_add_left _ _
    · rw [List.dropWhile_cons_of_neg hx]

/-- Words of which empty ones are dropped at the beginning stay the same text only where none is
dropped, or there is no other word. -/
theorem unwords_eq_unwords_dropWhile_iff (xs : List String) :
    unwords xs = unwords (xs.dropWhile (·.isEmpty)) ↔ xs.head? ≠ some "" ∨ xs = [""] := by
  cases xs with
  | nil => simp
  | cons x xs =>
    by_cases hx : x.isEmpty
    · obtain rfl : x = "" := by simpa using hx
      rw [List.dropWhile_cons_of_pos hx]
      cases xs with
      | nil => exact iff_of_true String.intercalate_singleton (.inr rfl)
      | cons y ys =>
        refine iff_of_false (fun h => ?_) (by simp)
        have hlonger : (unwords ("" :: y :: ys)).length = (unwords (y :: ys)).length + 1 := by
          rw [unwords_cons_cons, String.length_append, Nat.add_comm]
          rfl
        have hdropped := length_unwords_dropWhile_le (y :: ys)
        rw [← h, hlonger] at hdropped
        exact Nat.not_succ_le_self _ hdropped
    · rw [List.dropWhile_cons_of_neg hx]
      exact iff_of_true rfl (.inl (by simpa using hx))

end Parlance.Text

namespace Parlance

open Unicode Text

namespace Template

variable {spec : Spec} {lex : Lexicon} {locale : String} {us : List Unit}

/-! The words of a template. -/

/-- A text that is read to its end from inside of braces on has a slot. -/
theorem slotNames_ne_nil_of_readName {units : List Unit} {space : Bool} {name l : List Char}
    (h : readName units space name l = .ok us) : slotNames us ≠ [] := by
  induction l generalizing name with
  | nil =>
    rw [readName] at h
    cases h
  | cons c l ih =>
    rw [readName] at h
    split at h
    · dsimp only at h
      split at h
      · cases h
      · obtain ⟨more, rfl, -⟩ := (laid_of_read (f := id) l).1 _ _ _ _ (List.forall_mem_nil _) h
        simp [addPart, slotNames]
    · split at h
      · cases h
      · exact ih h

theorem fillText_of_readText {f : String → String} {units : List Unit} {word l : List Char}
    {space : Bool} (h : readText units word space l = .ok us) (hslots : slotNames us = []) :
    fillText f l = l := by
  induction l generalizing units word space with
  | nil => rw [fillText]
  | cons c l ih =>
    rw [readText] at h
    rw [fillText]
    split at h
    · rename_i hc
      have hbrace : c ≠ '\x7b' := by
        rintro rfl
        revert hc
        decide
      rw [if_neg hbrace, ih h]
    · split at h
      · exact absurd hslots (slotNames_ne_nil_of_readName h)
      · rename_i hbrace
        split at h
        · cases h
        · rw [if_neg hbrace, ih h]

theorem fill_of_parse {f : String → String} {phrase : String} (h : parse phrase = .ok us)
    (hslots : slotNames us = []) : fill f phrase = phrase := by
  rw [fill, fillText_of_readText (units_of_parse h).2 hslots, String.ofList_toList]

theorem exists_word_of_slotNames (h : slotNames us = []) {u : Unit} (hu : u ∈ us) :
    ∃ text, u.part = .word text := by
  have hnone := List.filterMap_eq_nil_iff.1 h u hu
  cases hpart : u.part with
  | word text => exact ⟨text, rfl⟩
  | slot name =>
    rw [hpart] at hnone
    cases hnone

theorem spaceBefore_of_apart (hapart : Apart us) (hslots : slotNames us = []) :
    ∀ u ∈ us.tail, u.spaceBefore := by
  have hword : ∀ u ∈ us, u.part.IsWord := by
    intro u hu
    obtain ⟨text, htext⟩ := exists_word_of_slotNames hslots hu
    rw [htext]
    trivial
  clear hslots
  induction us with
  | nil => exact List.forall_mem_nil _
  | cons u us ih =>
    obtain ⟨hfirst, hrest⟩ := List.isChain_cons.1 hapart
    obtain ⟨hu, hus⟩ := List.forall_mem_cons.1 hword
    cases us with
    | nil => exact List.forall_mem_nil _
    | cons v us =>
      exact List.forall_mem_cons.2 ⟨hfirst v rfl hu (hus v List.mem_cons_self), ih hrest hus⟩

/-- A template without slots has a unit for each word of the phrase. -/
theorem words_of_parse {phrase : String} (h : parse phrase = .ok us) (hslots : slotNames us = []) :
    words phrase = us.map fun u => u.part.text := by
  obtain ⟨-, hlaid⟩ := laid_of_parse h id
  have hwords := hlaid.words (spaceBefore_of_apart (apart_of_parse h) hslots)
  rw [fill_of_parse h hslots] at hwords
  rw [words_eq, hwords, List.map_flatMap, List.map_eq_flatMap]
  refine List.flatMap_congr fun u hu => ?_
  obtain ⟨text, htext⟩ := exists_word_of_slotNames hslots hu
  have hsolid := hlaid.solid u hu
  rw [htext] at hsolid ⊢
  rw [Part.words, wordsOf_of_solid hsolid.1 hsolid.2, List.map_singleton, String.ofList_toList]
  rfl

/-! The literals of a template. -/

/-- The literals of units: their normalized words. -/
def literalsOf (lex : Lexicon) (locale : String) (us : List Unit) : List String :=
  us.filterMap fun u =>
    match u.part with
    | .word text => (normalizeWord lex locale text).map NormalizedWord.text
    | .slot _ => none

theorem Draft.literals_add {d d' : Draft} {u : Unit} (h : d.add spec lex locale u = .ok d') :
    d'.literals = d.literals ++ literalsOf lex locale [u] := by
  obtain ⟨part, space⟩ := u
  cases part with
  | word text =>
    obtain rfl : d.addWord lex locale text space = d' := Except.ok.inj h
    rw [Draft.addWord]
    cases hn : normalizeWord lex locale text <;> simp [literalsOf, hn]
  | slot name =>
    change d.addSlot spec name space = _ at h
    rw [Draft.addSlot_eq] at h
    split at h
    · cases h
    · split at h
      · cases h
      · rename_i slot _ _
        cases hp : slotPattern slot with
        | error fault => rw [hp] at h; cases h
        | ok p =>
          rw [hp] at h
          cases h
          exact (List.append_nil _).symm

theorem Draft.literals_foldlM {d d' : Draft} (h : us.foldlM (Draft.add spec lex locale) d = .ok d') :
    d'.literals = d.literals ++ literalsOf lex locale us := by
  induction us generalizing d with
  | nil =>
    cases h
    exact (List.append_nil _).symm
  | cons u us ih =>
    rw [List.foldlM_cons] at h
    cases hu : d.add spec lex locale u with
    | error fault => rw [hu] at h; cases h
    | ok e =>
      rw [hu] at h
      have hstep := literals_add hu
      rw [ih h, hstep, List.append_assoc, literalsOf, literalsOf, ← List.filterMap_append]
      rfl

theorem literalsOf_of_parse {phrase : String} (h : parse phrase = .ok us)
    (hslots : slotNames us = []) : literalsOf lex locale us = normalTexts lex locale (words phrase) := by
  rw [words_of_parse h hslots, normalTexts, List.filterMap_map, literalsOf]
  refine List.filterMap_congr fun u hu => ?_
  obtain ⟨text, htext⟩ := exists_word_of_slotNames hslots hu
  rw [Function.comp, htext]
  rfl

end Template

namespace Intent

open Template

variable {spec : Spec} {phrase locale : String} {kind : PhraseKind} {lex : Lexicon} {i : Intent}

theorem literals_of_compile (h : compile spec phrase kind locale lex = .ok i)
    (hslots : i.hasSlots = false) :
    i.literals = (normalize lex locale phrase).tokens.map Token.text := by
  obtain ⟨us, hparse, -, -, hcompiled⟩ := compiled_of_compile h
  have hnames : slotNames us = [] := by
    have hnil : i.slots = [] := by simpa [hasSlots] using hslots
    rw [← hcompiled.names, hnil, List.map_nil]
  obtain ⟨us', d, hparse', hd, -, rfl⟩ := exists_draft_of_compile h
  obtain rfl : us = us' := Except.ok.inj (hparse.symm.trans hparse')
  have hliterals : d.literals = literalsOf lex locale us := Draft.literals_foldlM hd
  rw [map_text_tokens, ← literalsOf_of_parse hparse hnames, ← hliterals]
  rfl

/-- Compiling a phrase without slots makes the same words of it as normalizing it. The texts of these
words differ where the first becomes the empty word and others follow: a normalized phrase keeps the
space behind it, a normalized text does not. -/
theorem normalizedPhrase_eq_text_iff (h : compile spec phrase kind locale lex = .ok i)
    (hslots : i.hasSlots = false) :
    i.literals = (normalize lex locale phrase).tokens.map Token.text ∧
      (i.normalizedPhrase = (normalize lex locale phrase).text ↔
        i.literals.head? ≠ some "" ∨ i.literals = [""]) := by
  have hliterals := literals_of_compile h hslots
  refine ⟨hliterals, ?_⟩
  rw [normalizedPhrase, text_normalize, ← hliterals]
  exact unwords_eq_unwords_dropWhile_iff i.literals

/-- Punctuation around words and between them is dropped either way. -/
theorem normalizedPhrase_eq_text_iff_punctuated :
    ∃ i, compile (.spoken "¡Abre - ya!" []) "¡Abre - ya!" .canonical "es" {} = .ok i ∧
      i.hasSlots = false ∧ i.literals.head? ≠ some "" ∧
        i.literals = (normalize {} "es" "¡Abre - ya!").tokens.map Token.text ∧
        (i.normalizedPhrase = (normalize {} "es" "¡Abre - ya!").text ↔
          i.literals.head? ≠ some "" ∨ i.literals = [""]) := by
  obtain ⟨i, hcompile, hslots, hfirst⟩ :
      ∃ i ∈ (compile (.spoken "¡Abre - ya!" []) "¡Abre - ya!" .canonical "es"
        {}).toOption, i.hasSlots = false ∧ i.literals.head? ≠ some "" := by
    decide +kernel
  have hcompile := eq_ok_of_mem_toOption hcompile
  exact ⟨i, hcompile, hslots, hfirst, normalizedPhrase_eq_text_iff hcompile hslots⟩

/-- A mark that stands alone becomes the empty word, and the normalized phrase starts with a space. -/
theorem exists_normalizedPhrase_ne_text :
    ¬∀ (spec : Spec) (phrase : String) (kind : PhraseKind) (locale : String) (lex : Lexicon)
      (i : Intent), compile spec phrase kind locale lex = .ok i → i.hasSlots = false →
        i.normalizedPhrase = (normalize lex locale phrase).text ∧
          i.literals = (normalize lex locale phrase).tokens.map Token.text := by
  intro h
  obtain ⟨i, hcompile, hslots, hne⟩ :
      ∃ i ∈ (compile (.spoken "\u0301 abre" []) "\u0301 abre" .canonical "es" {}).toOption,
        i.hasSlots = false ∧ i.normalizedPhrase ≠ (normalize {} "es" "\u0301 abre").text := by
    decide +kernel
  exact hne (h _ _ _ _ _ i (eq_ok_of_mem_toOption hcompile) hslots).1

end Intent

end Parlance
