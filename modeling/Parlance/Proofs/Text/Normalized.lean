import Parlance.Proofs.Text.Words
import Parlance.Text.Normalized

/-!
Normalized texts and their tokens. Main statements: `wordsOf_normalize`, that the words of a normalized
text are those of its normalized words; `exists_window`, that from one token to another a normalized text
is what the tokens between are joined to; and `exists_ends`, that each stretch between blanks starts and
stops with tokens where no token has a blank in it.
-/

namespace Parlance.Text

open Unicode

/-- The words that normalizing makes of one word: none of a word that is nothing but punctuation,
several where the lexicon has a term of several words for it. -/
def normalWords (lex : Lexicon) (locale : String) (w : List Char) : List (List Char) :=
  match normalizeWord lex locale (String.ofList w) with
  | none => []
  | some n => wordsOf n.text.toList

/-- The words that normalizing makes of a text. -/
def normalWordsOf (lex : Lexicon) (locale : String) (l : List Char) : List (List Char) :=
  (wordsOf l).flatMap (normalWords lex locale)

/-- What normalizing makes of one word: nothing of a word that is nothing but punctuation. -/
def normalForms (lex : Lexicon) (locale : String) (w : List Char) : List (List Char) :=
  match normalizeWord lex locale (String.ofList w) with
  | none => []
  | some n => [n.text.toList]

/-- What normalizing makes of the words of a text, word by word. -/
def normalFormsOf (lex : Lexicon) (locale : String) (l : List Char) : List (List Char) :=
  (wordsOf l).flatMap (normalForms lex locale)

variable {lex : Lexicon} {locale : String}

theorem normalWords_eq (lex : Lexicon) (locale : String) (w : List Char) :
    normalWords lex locale w = (normalForms lex locale w).flatMap wordsOf := by
  unfold normalWords normalForms
  split
  · rfl
  · rw [List.flatMap_singleton]

theorem normalWordsOf_eq (lex : Lexicon) (locale : String) (l : List Char) :
    normalWordsOf lex locale l = (normalFormsOf lex locale l).flatMap wordsOf := by
  rw [normalWordsOf, normalFormsOf, List.flatMap_assoc, funext (normalWords_eq lex locale)]

theorem normalFormsOf_append_of_head {r : List Char} (hr : ∀ c ∈ r.head?, isWhiteSpace c)
    (l : List Char) : normalFormsOf lex locale (l ++ r) =
      normalFormsOf lex locale l ++ normalFormsOf lex locale r := by
  rw [normalFormsOf, wordsOf_append_of_head hr, List.flatMap_append]
  rfl

theorem normalFormsOf_append_of_last {l : List Char} (hl : ∀ c ∈ l.getLast?, isWhiteSpace c)
    (r : List Char) : normalFormsOf lex locale (l ++ r) =
      normalFormsOf lex locale l ++ normalFormsOf lex locale r := by
  rw [normalFormsOf, wordsOf_append_of_last hl, List.flatMap_append]
  rfl

theorem normalWordsOf_append_of_last {l : List Char} (hl : ∀ c ∈ l.getLast?, isWhiteSpace c)
    (r : List Char) : normalWordsOf lex locale (l ++ r) =
      normalWordsOf lex locale l ++ normalWordsOf lex locale r := by
  simp only [normalWordsOf_eq, normalFormsOf_append_of_last hl, List.flatMap_append]

theorem normalizeWord_trimList (lex : Lexicon) (locale : String) (w : List Char) :
    normalizeWord lex locale (String.ofList (trimList isEdgePunctuation w)) =
      normalizeWord lex locale (String.ofList w) := by
  simp only [normalizeWord, trimWhere, String.toList_ofList, trimList_trimList]

theorem normalForms_congr {w w' : List Char}
    (h : trimList isEdgePunctuation w = trimList isEdgePunctuation w') :
    normalForms lex locale w = normalForms lex locale w' := by
  have hsame : normalizeWord lex locale (String.ofList w) =
      normalizeWord lex locale (String.ofList w') := by
    rw [← normalizeWord_trimList, h, normalizeWord_trimList]
  rw [normalForms, normalForms, hsame]

theorem normalizeWord_eq_none_iff {word : String} :
    normalizeWord lex locale word = none ↔ ∀ c ∈ word.toList, isEdgePunctuation c := by
  unfold normalizeWord trimWhere
  dsimp only
  constructor
  · intro h
    split at h
    · rename_i hempty
      exact forall_of_trimList_eq_nil (by simpa using hempty)
    · split at h <;> cases h
  · intro h
    have hnil := trimList_append (p := isEdgePunctuation) (a := word.toList) (b := []) h (by simp) []
    rw [List.append_nil, List.append_nil] at hnil
    rw [hnil]
    rfl

theorem normalForms_of_none {w : List Char}
    (h : normalizeWord lex locale (String.ofList w) = none) : normalForms lex locale w = [] := by
  rw [normalForms, h]

theorem normalForms_of_some {w : List Char} {n : NormalizedWord}
    (h : normalizeWord lex locale (String.ofList w) = some n) :
    normalForms lex locale w = [n.text.toList] := by
  rw [normalForms, h]

theorem normalWords_of_some {w : List Char} {n : NormalizedWord}
    (h : normalizeWord lex locale (String.ofList w) = some n) :
    normalWords lex locale w = wordsOf n.text.toList := by
  rw [normalWords, h]

theorem normalFormsOf_of_solid {w : List Char} (h : ∀ c ∈ w, ¬isWhiteSpace c) :
    normalFormsOf lex locale w = normalForms lex locale w := by
  by_cases hnil : w = []
  · have hnone : normalizeWord lex locale (String.ofList []) = none :=
      normalizeWord_eq_none_iff.2 (by simp)
    rw [hnil, normalForms_of_none hnone]
    rfl
  · rw [normalFormsOf, wordsOf_of_solid hnil h, List.flatMap_singleton]

theorem not_isWhiteSpace_of_isEdgePunctuation {c : Char} (h : isEdgePunctuation c) :
    ¬isWhiteSpace c := by
  have hall : ".,;:!?¡¿\"'()".toList.all (!isWhiteSpace ·) := by decide
  simpa using List.all_eq_true.1 hall c (by simpa [isEdgePunctuation] using h)

theorem normalFormsOf_around {a p q : List Char} (hp : ∀ c ∈ p, isEdgePunctuation c)
    (hq : ∀ c ∈ q, isEdgePunctuation c) (ha : ∀ c ∈ a, ¬isWhiteSpace c) :
    normalFormsOf lex locale (p ++ a ++ q) = normalFormsOf lex locale a := by
  have hsolid : ∀ c ∈ p ++ a ++ q, ¬isWhiteSpace c := by
    simp only [List.mem_append]
    rintro c ((hc | hc) | hc)
    · exact not_isWhiteSpace_of_isEdgePunctuation (hp c hc)
    · exact ha c hc
    · exact not_isWhiteSpace_of_isEdgePunctuation (hq c hc)
  rw [normalFormsOf_of_solid hsolid, normalFormsOf_of_solid ha,
    normalForms_congr (trimList_append hp hq a)]

theorem normalFormsOf_punctuation_append {p : List Char} (hp : ∀ c ∈ p, isEdgePunctuation c)
    (l : List Char) : normalFormsOf lex locale (p ++ l) = normalFormsOf lex locale l := by
  obtain ⟨a, r, rfl, ha, hr⟩ := exists_first_word l
  have haround : normalFormsOf lex locale (p ++ a ++ []) = normalFormsOf lex locale a :=
    normalFormsOf_around hp (by simp) ha
  rw [List.append_nil] at haround
  rw [← List.append_assoc, normalFormsOf_append_of_head hr, normalFormsOf_append_of_head hr, haround]

theorem normalFormsOf_append_punctuation {p : List Char} (hp : ∀ c ∈ p, isEdgePunctuation c)
    (l : List Char) : normalFormsOf lex locale (l ++ p) = normalFormsOf lex locale l := by
  obtain ⟨r, a, rfl, hr, ha⟩ := exists_last_word l
  have haround : normalFormsOf lex locale ([] ++ a ++ p) = normalFormsOf lex locale a :=
    normalFormsOf_around (by simp) hp ha
  rw [List.nil_append] at haround
  rw [List.append_assoc, normalFormsOf_append_of_last hr, normalFormsOf_append_of_last hr, haround]

theorem normalFormsOf_append_blank {b : List Char} (hb : ∀ c ∈ b, isWhiteSpace c) (l : List Char) :
    normalFormsOf lex locale (l ++ b) = normalFormsOf lex locale l := by
  rw [normalFormsOf, wordsOf_append_blank hb]
  rfl

theorem normalWordsOf_punctuation_append {p : List Char} (hp : ∀ c ∈ p, isEdgePunctuation c)
    (l : List Char) : normalWordsOf lex locale (p ++ l) = normalWordsOf lex locale l := by
  rw [normalWordsOf_eq, normalFormsOf_punctuation_append hp, normalWordsOf_eq]

theorem normalWordsOf_append_punctuation {p : List Char} (hp : ∀ c ∈ p, isEdgePunctuation c)
    (l : List Char) : normalWordsOf lex locale (l ++ p) = normalWordsOf lex locale l := by
  rw [normalWordsOf_eq, normalFormsOf_append_punctuation hp, normalWordsOf_eq]

theorem normalWordsOf_append_blank {b : List Char} (hb : ∀ c ∈ b, isWhiteSpace c) (l : List Char) :
    normalWordsOf lex locale (l ++ b) = normalWordsOf lex locale l := by
  rw [normalWordsOf_eq, normalFormsOf_append_blank hb, normalWordsOf_eq]

/-- Characters that stand between words and belong to none. -/
def isGapChar (c : Char) : Bool :=
  isWhiteSpace c || isEdgePunctuation c

theorem isGapChar_of_isWhiteSpace {c : Char} (h : isWhiteSpace c) : isGapChar c := by
  simp [isGapChar, h]

theorem isGapChar_of_isEdgePunctuation {c : Char} (h : isEdgePunctuation c) : isGapChar c := by
  simp [isGapChar, h]

theorem normalFormsOf_gap_append {g : List Char} (hg : ∀ c ∈ g, isGapChar c) (l : List Char) :
    normalFormsOf lex locale (g ++ l) = normalFormsOf lex locale l := by
  induction g with
  | nil => rfl
  | cons c g ih =>
    obtain ⟨hc, hg⟩ := List.forall_mem_cons.1 hg
    rw [← ih hg]
    rcases Bool.or_eq_true _ _ ▸ hc with hblank | hedge
    · rw [List.cons_append, normalFormsOf, wordsOf_cons_blank hblank]
      rfl
    · exact normalFormsOf_punctuation_append (p := [c]) (by simpa using hedge) (g ++ l)

theorem normalFormsOf_append_gap {g : List Char} (hg : ∀ c ∈ g, isGapChar c) (l : List Char) :
    normalFormsOf lex locale (l ++ g) = normalFormsOf lex locale l := by
  induction g generalizing l with
  | nil => rw [List.append_nil]
  | cons c g ih =>
    obtain ⟨hc, hg⟩ := List.forall_mem_cons.1 hg
    rw [List.append_cons, ih hg]
    rcases Bool.or_eq_true _ _ ▸ hc with hblank | hedge
    · exact normalFormsOf_append_blank (by simpa using hblank) l
    · exact normalFormsOf_append_punctuation (by simpa using hedge) l

/-- Words put behind a text of `length` bytes, each behind a space unless the text is empty. -/
def joined (length : Nat) : List (List Char) → List Char
  | [] => []
  | x :: xs =>
    (if length = 0 then [] else [' ']) ++ x ++ joined (nextStart length + byteLength x) xs

theorem head?_joined {length : Nat} (h : length ≠ 0) (xs : List (List Char)) :
    ∀ c ∈ (joined length xs).head?, isWhiteSpace c := by
  cases xs with
  | nil => simp [joined]
  | cons x xs =>
    intro c hc
    rw [joined, if_neg h] at hc
    cases hc
    decide

theorem wordsOf_append_joined (n : Nat) (x : List Char) (xs : List (List Char)) :
    wordsOf (x ++ joined (n + byteLength x) xs) = wordsOf x ++ xs.flatMap wordsOf := by
  have hsplit : ∀ xs, wordsOf (x ++ joined (n + byteLength x) xs) =
      wordsOf x ++ wordsOf (joined (n + byteLength x) xs) := by
    intro xs
    by_cases hx : x = []
    · simp [hx]
    · refine wordsOf_append_of_head (head?_joined ?_ xs) x
      have := byteLength_eq_zero.not.2 hx
      omega
  rw [hsplit]
  congr 1
  generalize n + byteLength x = length
  clear hsplit
  induction xs generalizing length with
  | nil => rfl
  | cons y ys ih =>
    have hsep : wordsOf (joined length (y :: ys)) =
        wordsOf (y ++ joined (nextStart length + byteLength y) ys) := by
      rw [joined]
      split
      · rfl
      · exact wordsOf_cons_blank (by decide) _
    rw [hsep, List.flatMap_cons, ← ih (nextStart length + byteLength y)]
    by_cases hy : y = []
    · simp [hy]
    · refine wordsOf_append_of_head (head?_joined ?_ ys) y
      have := byteLength_eq_zero.not.2 hy
      omega

theorem toList_foldl_appendWord (text : String) (xs : List String) :
    (xs.foldl appendWord text).toList =
      text.toList ++ joined (byteLength text.toList) (xs.map String.toList) := by
  induction xs generalizing text with
  | nil => simp [joined]
  | cons x xs ih =>
    rw [List.foldl_cons, ih, List.map_cons, joined]
    by_cases ht : text.isEmpty
    · have hnil : text.toList = [] := by simpa using ht
      simp [appendWord, ht, hnil, nextStart]
    · have hnil : ¬byteLength text.toList = 0 := by
        rw [byteLength_eq_zero]
        simpa using ht
      have hlen : byteLength (text ++ " " ++ x).toList =
          byteLength text.toList + 1 + byteLength x.toList := by
        have hspace : (' ').utf8Size = 1 := by decide
        simp [hspace, Nat.add_assoc]
      simp only [appendWord, ht, Bool.false_eq_true, ↓reduceIte, hlen, nextStart, hnil]
      simp

def textsOf (tokens : List Token) : List (List Char) :=
  tokens.map fun t => t.text.toList

theorem toList_text_normalize (lex : Lexicon) (locale input : String) :
    (normalize lex locale input).text.toList =
      joined 0 (textsOf (normalize lex locale input).tokens) := by
  rw [normalize, toList_foldl_appendWord, List.map_map]
  rfl

theorem textsOf_tokensFrom (lex : Lexicon) (locale : String) (length : Nat) (ws : List Word) :
    textsOf (tokensFrom lex locale length ws) =
      (ws.map Word.chars).flatMap (normalForms lex locale) := by
  induction ws generalizing length with
  | nil => rfl
  | cons w ws ih =>
    rw [tokensFrom, List.map_cons, List.flatMap_cons]
    cases hn : normalizeWord lex locale w.text with
    | none =>
      rw [normalForms_of_none hn]
      exact ih length
    | some n =>
      rw [normalForms_of_some hn, ← ih (tokenOf length w n).normalized.stop]
      rfl

/-- The tokens of a text say what normalizing makes of its words. -/
theorem textsOf_normalize (lex : Lexicon) (locale input : String) :
    textsOf (normalize lex locale input).tokens = normalFormsOf lex locale input.toList :=
  textsOf_tokensFrom lex locale 0 (placedWords input)

/-- The words of a normalized text are what normalizing makes of the words. -/
theorem wordsOf_normalize (lex : Lexicon) (locale input : String) :
    wordsOf (normalize lex locale input).text.toList = normalWordsOf lex locale input.toList := by
  have h := wordsOf_append_joined 0 [] (textsOf (normalize lex locale input).tokens)
  rw [toList_text_normalize, normalWordsOf_eq, ← textsOf_normalize]
  exact h

/-! Where tokens stand. -/

theorem nextStart_eq (length : Nat) :
    nextStart length = length + byteLength (if length = 0 then [] else [' ']) := by
  have hspace : byteLength [' '] = 1 := by decide
  unfold nextStart
  split
  · rename_i h
    rw [h]
    rfl
  · rw [hspace]

/-- Tokens are those of words, and each stands behind those before it. -/
theorem exists_split_of_tokensFrom {length : Nat} {ws : List Word} {ts ts' : List Token} {t : Token}
    (h : tokensFrom lex locale length ws = ts ++ t :: ts') :
    ∃ us w us' n length' x, ws = us ++ w :: us' ∧ normalizeWord lex locale w.text = some n ∧
      t = tokenOf length' w n ∧ ts = tokensFrom lex locale length us ∧
      ts' = tokensFrom lex locale t.normalized.stop us' ∧
      (∀ us, joined length (textsOf (ts ++ t :: us)) =
        x ++ t.text.toList ++ joined t.normalized.stop (textsOf us)) ∧
      t.normalized.start = length + byteLength x := by
  induction ws generalizing length ts with
  | nil => simp [tokensFrom] at h
  | cons w ws ih =>
    rw [tokensFrom] at h
    cases hn : normalizeWord lex locale w.text with
    | none =>
      rw [hn] at h
      obtain ⟨us, v, us', n, length', x, rfl, hv, ht, rfl, hrest⟩ := ih h
      refine ⟨w :: us, v, us', n, length', x, rfl, hv, ht, ?_, hrest⟩
      rw [tokensFrom, hn]
    | some n =>
      rw [hn] at h
      dsimp only at h
      cases ts with
      | nil =>
        obtain ⟨rfl, rfl⟩ := List.cons.inj h
        refine ⟨[], w, ws, n, length, if length = 0 then [] else [' '], rfl, hn, rfl, rfl, rfl,
          fun _ => rfl, ?_⟩
        exact nextStart_eq length
      | cons t₀ ts =>
        obtain ⟨rfl, htail⟩ := List.cons.inj h
        obtain ⟨us, v, us', n', length', x, rfl, hv, ht, hts, hts', hjoined, hstart⟩ := ih htail
        refine ⟨w :: us, v, us', n', length',
          (if length = 0 then [] else [' ']) ++ n.text.toList ++ x, rfl, hv, ht, ?_, hts', ?_, ?_⟩
        · rw [tokensFrom, hn, hts]
        · intro us
          have hcons : joined length (textsOf (tokenOf length w n :: ts ++ t :: us)) =
              (if length = 0 then [] else [' ']) ++ n.text.toList ++
                joined (tokenOf length w n).normalized.stop (textsOf (ts ++ t :: us)) := rfl
          rw [hcons, hjoined]
          simp only [List.append_assoc]
        · have hstop : (tokenOf length w n).normalized.stop =
              nextStart length + byteLength n.text.toList := rfl
          rw [hstart, hstop, nextStart_eq, byteLength_append, byteLength_append]
          omega

theorem le_start_of_mem_tokensFrom {length : Nat} {ws : List Word} {t : Token}
    (h : t ∈ tokensFrom lex locale length ws) : length ≤ t.normalized.start := by
  obtain ⟨ts, ts', hts⟩ := List.append_of_mem h
  obtain ⟨_, _, _, _, _, x, -, -, -, -, -, -, hstart⟩ := exists_split_of_tokensFrom hts
  omega

/-- Between the start of one token and the stop of another, a normalized text is what the tokens from the
one to the other are joined to. -/
theorem exists_window {input : String} {x y z : List Char} (hy : y ≠ [])
    (h : (normalize lex locale input).text.toList = x ++ y ++ z) {t t' : Token}
    (ht : t ∈ (normalize lex locale input).tokens) (ht' : t' ∈ (normalize lex locale input).tokens)
    (hstart : t.normalized.start = byteLength x)
    (hstop : t'.normalized.stop = byteLength (x ++ y)) :
    ∃ ts rest ts', (normalize lex locale input).tokens = ts ++ t :: (rest ++ ts') ∧
      t' ∈ (t :: rest).getLast? ∧ y = t.text.toList ++
        joined (t.normalized.start + byteLength t.text.toList) (textsOf rest) := by
  have hlen := byteLength_eq_zero.not.2 hy
  rw [byteLength_append] at hstop
  obtain ⟨ts, ts', hts⟩ := List.append_of_mem ht
  have htokens : tokensFrom lex locale 0 (placedWords input) = ts ++ t :: ts' := hts
  obtain ⟨us, w, us', n, length, x', -, -, htoken, -, hts', hjoined, hx'⟩ :=
    exists_split_of_tokensFrom htokens
  have hstop' : t.normalized.stop = t.normalized.start + byteLength t.text.toList := by
    rw [htoken]
    rfl
  rw [← hstop']
  rw [toList_text_normalize, hts, hjoined, List.append_assoc, List.append_assoc] at h
  obtain rfl : x' = x := eq_of_byteLength_eq h (by omega)
  have h := List.append_cancel_left h
  rw [hts] at ht'
  rcases List.mem_append.1 ht' with ht' | ht'
  · -- a token before `t` stops before `t` starts
    obtain ⟨a, b, rfl⟩ := List.append_of_mem ht'
    rw [List.append_assoc, List.cons_append] at htokens
    obtain ⟨_, _, _, _, _, _, -, -, -, -, hrest, -, -⟩ := exists_split_of_tokensFrom htokens
    have hle := le_start_of_mem_tokensFrom (hrest ▸ List.mem_append_right b List.mem_cons_self)
    omega
  · rcases List.mem_cons.1 ht' with rfl | ht'
    · refine ⟨ts, [], ts', hts, rfl, ?_⟩
      rw [textsOf, List.map_nil, joined, List.append_nil]
      exact (eq_of_byteLength_eq h (by omega)).symm
    · obtain ⟨mid, rest, rfl⟩ := List.append_of_mem ht'
      obtain ⟨_, _, _, _, _, x₂, -, -, htoken', -, -, hjoined', hx₂⟩ :=
        exists_split_of_tokensFrom hts'.symm
      have hstop₂ : t'.normalized.stop = t'.normalized.start + byteLength t'.text.toList := by
        rw [htoken']
        rfl
      refine ⟨ts, mid ++ [t'], rest, by simp [hts], by simp [List.getLast?_cons], ?_⟩
      have hnil : joined t'.normalized.stop (textsOf []) = [] := rfl
      rw [hjoined' [], hnil, List.append_nil]
      rw [hjoined', ← List.append_assoc] at h
      refine (eq_of_byteLength_eq h ?_).symm
      rw [byteLength_append, byteLength_append]
      omega

theorem exists_append_of_getLast? {a b x y : List Char} (h : a ++ b = x ++ y)
    (ha : ∀ c ∈ a, ¬isWhiteSpace c) {c : Char} (hc : c ∈ x.getLast?) (hblank : isWhiteSpace c) :
    ∃ x', x = a ++ x' ∧ b = x' ++ y ∧ c ∈ x'.getLast? := by
  rcases List.append_eq_append_iff.1 h with ⟨x', rfl, rfl⟩ | ⟨a', rfl, rfl⟩
  · refine ⟨x', rfl, rfl, ?_⟩
    rcases x' with _ | ⟨d, x'⟩
    · exact absurd hblank (ha c (List.mem_of_getLast? (by simpa using hc)))
    · simpa [List.getLast?_append] using hc
  · exact absurd hblank (ha c (List.mem_append_left _ (List.mem_of_getLast? hc)))

theorem exists_append_of_head? {a b x y : List Char} (h : a ++ b = x ++ y)
    (ha : ∀ c ∈ a, ¬isWhiteSpace c) (hy : ∀ c ∈ y.head?, isWhiteSpace c) :
    ∃ x', x = a ++ x' ∧ b = x' ++ y := by
  rcases List.append_eq_append_iff.1 h with ⟨x', rfl, rfl⟩ | ⟨a', rfl, rfl⟩
  · exact ⟨x', rfl, rfl⟩
  · cases a' with
    | nil => exact ⟨[], by simp, by simp⟩
    | cons d a' => exact absurd (hy d rfl) (ha d (by simp))

theorem exists_append_of_separator {length : Nat} {l x y : List Char}
    (h : (if length = 0 then [] else [' ']) ++ l = x ++ y) (hx : x ≠ []) :
    ∃ x', x = (if length = 0 then [] else [' ']) ++ x' ∧ l = x' ++ y := by
  by_cases hlength : length = 0
  · rw [if_pos hlength] at h ⊢
    exact ⟨x, rfl, h⟩
  · rw [if_neg hlength] at h ⊢
    cases x with
    | nil => exact absurd rfl hx
    | cons c x' =>
      obtain ⟨rfl, hl⟩ := List.cons.inj h
      exact ⟨x', rfl, hl⟩

theorem start_of_head?_tokensFrom {length : Nat} {ws : List Word} {t : Token}
    (h : t ∈ (tokensFrom lex locale length ws).head?) : t.normalized.start = nextStart length := by
  induction ws with
  | nil => cases h
  | cons w ws ih =>
    rw [tokensFrom] at h
    cases hn : normalizeWord lex locale w.text with
    | none =>
      rw [hn] at h
      exact ih h
    | some n =>
      rw [hn] at h
      cases h
      rfl

/-- Where the words put behind a text have no blanks, one starts at each place behind a blank. -/
theorem exists_start {length : Nat} {ws : List Word}
    (hsolid : ∀ t ∈ tokensFrom lex locale length ws, ∀ c ∈ t.text.toList, ¬isWhiteSpace c)
    {x y : List Char} (h : joined length (textsOf (tokensFrom lex locale length ws)) = x ++ y)
    {c : Char} (hc : c ∈ x.getLast?) (hblank : isWhiteSpace c) :
    ∃ t ∈ tokensFrom lex locale length ws, t.normalized.start = length + byteLength x := by
  have hx : x ≠ [] := by
    rintro rfl
    cases hc
  induction ws generalizing length x with
  | nil => exact absurd (List.append_eq_nil_iff.1 h.symm).1 hx
  | cons w ws ih =>
    rw [tokensFrom] at h hsolid ⊢
    cases hn : normalizeWord lex locale w.text with
    | none =>
      rw [hn] at h hsolid
      exact ih hsolid h hc hx
    | some n =>
      rw [hn] at h hsolid
      dsimp only at h hsolid ⊢
      rw [textsOf, List.map_cons, joined, List.append_assoc] at h
      obtain ⟨x', rfl, h'⟩ := exists_append_of_separator h hx
      by_cases hx' : x' = []
      · refine ⟨_, List.mem_cons_self, ?_⟩
        rw [hx', List.append_nil, ← nextStart_eq]
        rfl
      · have hc' : c ∈ x'.getLast? := by
          rwa [List.getLast?_append, Option.or_of_isSome (by simpa using hx')] at hc
        obtain ⟨x₂, rfl, h₂, hc₂⟩ :=
          exists_append_of_getLast? h' (hsolid _ List.mem_cons_self) hc' hblank
        obtain ⟨t, ht, hstart⟩ := ih (fun t ht => hsolid t (List.mem_cons_of_mem _ ht)) h₂ hc₂
          (by rintro rfl; cases hc₂)
        refine ⟨t, List.mem_cons_of_mem _ ht, hstart.trans ?_⟩
        rw [byteLength_append, byteLength_append, ← Nat.add_assoc, ← Nat.add_assoc, ← nextStart_eq]
        rfl

/-- Where the words put behind a text have no blanks, one stops at each place before a blank. -/
theorem exists_stop {length : Nat} {ws : List Word}
    (hsolid : ∀ t ∈ tokensFrom lex locale length ws, ∀ c ∈ t.text.toList, ¬isWhiteSpace c)
    {x y : List Char} (h : joined length (textsOf (tokensFrom lex locale length ws)) = x ++ y)
    (hx : x ≠ []) (hy : ∀ c ∈ y.head?, isWhiteSpace c) :
    ∃ t ∈ tokensFrom lex locale length ws, t.normalized.stop = length + byteLength x := by
  induction ws generalizing length x with
  | nil => exact absurd (List.append_eq_nil_iff.1 h.symm).1 hx
  | cons w ws ih =>
    rw [tokensFrom] at h hsolid ⊢
    cases hn : normalizeWord lex locale w.text with
    | none =>
      rw [hn] at h hsolid
      exact ih hsolid h hx
    | some n =>
      rw [hn] at h hsolid
      dsimp only at h hsolid ⊢
      rw [textsOf, List.map_cons, joined, List.append_assoc] at h
      obtain ⟨x', rfl, h'⟩ := exists_append_of_separator h hx
      obtain ⟨x₂, rfl, h₂⟩ := exists_append_of_head? h' (hsolid _ List.mem_cons_self) hy
      by_cases hx₂ : x₂ = []
      · refine ⟨_, List.mem_cons_self, ?_⟩
        rw [hx₂, List.append_nil, byteLength_append, ← Nat.add_assoc, ← nextStart_eq]
        rfl
      · obtain ⟨t, ht, hstop⟩ := ih (fun t ht => hsolid t (List.mem_cons_of_mem _ ht)) h₂ hx₂
        refine ⟨t, List.mem_cons_of_mem _ ht, hstop.trans ?_⟩
        rw [byteLength_append, byteLength_append, ← Nat.add_assoc, ← Nat.add_assoc, ← nextStart_eq]
        rfl

/-- Where no token has a blank in it, a stretch of a normalized text between blanks starts with a token and
stops with one. -/
theorem exists_ends {input : String}
    (hsolid : ∀ t ∈ (normalize lex locale input).tokens, ∀ c ∈ t.text.toList, ¬isWhiteSpace c)
    {x y z : List Char} (hy : y ≠ [])
    (h : (normalize lex locale input).text.toList = x ++ y ++ z)
    (hx : ∀ c ∈ x.getLast?, isWhiteSpace c) (hz : ∀ c ∈ z.head?, isWhiteSpace c) :
    ∃ t ∈ (normalize lex locale input).tokens, ∃ t' ∈ (normalize lex locale input).tokens,
      t.normalized.start = byteLength x ∧ t'.normalized.stop = byteLength (x ++ y) := by
  have hjoined := toList_text_normalize lex locale input
  rw [h] at hjoined
  have hne : x ++ y ≠ [] := by simp [hy]
  obtain ⟨t', ht', hstop⟩ := exists_stop hsolid hjoined.symm hne hz
  obtain ⟨t, ht, hstart⟩ : ∃ t ∈ (normalize lex locale input).tokens,
      t.normalized.start = byteLength x := by
    cases hlast : x.getLast? with
    | some c =>
      rw [List.append_assoc] at hjoined
      obtain ⟨t, ht, hstart⟩ := exists_start hsolid hjoined.symm hlast (hx c hlast)
      exact ⟨t, ht, by simpa using hstart⟩
    | none =>
      obtain rfl := List.getLast?_eq_none_iff.1 hlast
      obtain ⟨t, ts, hts⟩ := List.exists_cons_of_ne_nil (List.ne_nil_of_mem ht')
      have hhead : t ∈ (tokensFrom lex locale 0 (placedWords input)).head? := congrArg List.head? hts
      exact ⟨t, (hts ▸ List.mem_cons_self :), start_of_head?_tokensFrom hhead⟩
  exact ⟨t, ht, t', ht', hstart, by simpa using hstop⟩

end Parlance.Text
