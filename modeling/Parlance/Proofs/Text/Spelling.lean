import Mathlib.Data.List.Basic
import Parlance.Proofs.Text.Normalized

/-!
How tokens are spelled in the text as given. Main statements: `spelled_between`, that the text as given from
one token to a later one is made of the words of these tokens, with blanks and punctuation between them;
`normalWordsOf_originalSpan`, that it has the words of the tokens; and `isSome_originalSpan`, that there is
such a text for each stretch between blanks where no token has a blank in it.
-/

namespace Parlance.Text

open Unicode

/-- A stretch of characters between blanks, without punctuation around it, is the word of a token. -/
structure Spells (lex : Lexicon) (locale : String) (t : Token) (core : List Char) : Prop where
  solid : ∀ c ∈ core, ¬isWhiteSpace c
  bare : trimList isEdgePunctuation core = core
  normalized : normalizeWord lex locale (String.ofList core) = some ⟨t.text, t.substituted⟩

/-- A text from byte `pos` on has the words of tokens in it, at their places. Behind another word (`behind`)
a blank stands before the first of them. -/
inductive Placed (lex : Lexicon) (locale : String) :
    (behind : Bool) → (pos : Nat) → List Char → List Token → Prop
  | nil {behind : Bool} : (∀ c ∈ gap, isGapChar c) → Placed lex locale behind pos gap []
  | cons {behind : Bool} {gap core l : List Char} :
      (∀ c ∈ gap, isGapChar c) → (behind → ∃ c ∈ gap, isWhiteSpace c) → Spells lex locale t core →
      t.original = ⟨pos + byteLength gap, pos + byteLength (gap ++ core)⟩ →
      Placed lex locale true (pos + byteLength (gap ++ core)) l ts →
      Placed lex locale behind pos (gap ++ core ++ l) (t :: ts)

/-- A text is made of the words of tokens, with a blank at least between any two. -/
inductive Spelled (lex : Lexicon) (locale : String) : List Token → List Char → Prop
  | one : Spells lex locale t core → Spelled lex locale [t] core
  | cons : Spells lex locale t core → (∀ c ∈ gap, isGapChar c) → (∃ c ∈ gap, isWhiteSpace c) →
      Spelled lex locale ts l →
      Spelled lex locale (t :: ts) (core ++ gap ++ l)

variable {lex : Lexicon} {locale : String} {t t' : Token} {ts ts' : List Token} {l gap : List Char}
  {pos : Nat} {behind : Bool}

/-! Tokens in their place. -/

theorem spells_tokenOf {length : Nat} {w : Word} {n : NormalizedWord}
    (h : normalizeWord lex locale w.text = some n) (hw : ∀ c ∈ w.chars, ¬isWhiteSpace c) :
    Spells lex locale (tokenOf length w n) (trimList isEdgePunctuation w.chars) := by
  refine ⟨fun c hc => ?_, trimList_trimList _ _, ?_⟩
  · obtain ⟨b, hcut, -⟩ := exists_trimList isEdgePunctuation w.chars
    exact hw c (hcut ▸ List.mem_append_left _ (List.mem_append_right _ hc))
  · rw [normalizeWord_trimList]
    exact h

namespace Spells

variable {core : List Char}

theorem ne_nil (h : Spells lex locale t core) : core ≠ [] := by
  rintro rfl
  have hnone : normalizeWord lex locale (String.ofList []) = none :=
    normalizeWord_eq_none_iff.2 (by simp)
  have hsome := h.normalized
  rw [hnone] at hsome
  cases hsome

/-- Unless the lexicon made another word of it, the text of a token is what folding makes of its word. -/
theorem text (h : Spells lex locale t core) (ht : ¬t.substituted) :
    t.text = fold (lowercase (String.ofList core)) := by
  have hsome := h.normalized
  unfold normalizeWord at hsome
  rw [trimWhere, String.toList_ofList, h.bare] at hsome
  dsimp only at hsome
  split at hsome
  · cases hsome
  · split at hsome
    · obtain ⟨rfl, hsame⟩ := NormalizedWord.mk.inj (Option.some.inj hsome)
      simpa [← hsame] using ht
    · exact (NormalizedWord.mk.inj (Option.some.inj hsome)).1.symm

theorem normalFormsOf (h : Spells lex locale t core) : normalFormsOf lex locale core = [t.text.toList] := by
  rw [normalFormsOf_of_solid h.solid, normalForms_of_some h.normalized]

end Spells

theorem blank_of_wordsFrom_eq_nil {start : Nat} {current : List Char}
    (h : wordsFrom pos start current l = []) : current = [] ∧ ∀ c ∈ l, isWhiteSpace c := by
  induction l generalizing pos start current with
  | nil =>
    rw [wordsFrom] at h
    exact ⟨by simpa using h, List.forall_mem_nil _⟩
  | cons c l ih =>
    rw [wordsFrom] at h
    split at h
    · rename_i hc
      split at h
      · rename_i hcurrent
        exact ⟨List.isEmpty_iff.1 hcurrent, List.forall_mem_cons.2 ⟨hc, (ih h).2⟩⟩
      · cases h
    · cases (ih h).1

theorem blank_of_wordsOf_eq_nil (h : wordsOf l = []) : ∀ c ∈ l, isWhiteSpace c :=
  (blank_of_wordsFrom_eq_nil (List.map_eq_nil_iff.1 h)).2

/-- Blanks and punctuation before a text belong to none of its words. -/
theorem Placed.prepend (h : Placed lex locale true (pos + byteLength gap) l ts) (hgap : ∀ c ∈ gap, isGapChar c)
    (behind : Bool) : Placed lex locale behind pos (gap ++ l) ts := by
  cases h with
  | nil hl => exact .nil (List.forall_mem_append.2 ⟨hgap, hl⟩)
  | @cons _ _ _ _ gap' core l hgap' hblank hspells horiginal hrest =>
    obtain ⟨c, hc, hwhite⟩ := hblank rfl
    have hsplit : gap ++ (gap' ++ core ++ l) = (gap ++ gap') ++ core ++ l := by
      simp only [List.append_assoc]
    rw [hsplit]
    refine .cons (List.forall_mem_append.2 ⟨hgap, hgap'⟩)
      (fun _ => ⟨c, List.mem_append_right _ hc, hwhite⟩) hspells ?_ ?_
    · simp only [horiginal, byteLength_append, Nat.add_assoc]
    · simpa only [byteLength_append, Nat.add_assoc] using hrest

theorem placed_of_words {length : Nat} {ws : List Word} (h : wordsFrom pos pos [] l = ws)
    (hbehind : behind → ∀ c ∈ l.head?, isWhiteSpace c) :
    Placed lex locale behind pos l (tokensFrom lex locale length ws) := by
  induction ws generalizing pos l length behind with
  | nil =>
    exact .nil fun c hc => isGapChar_of_isWhiteSpace ((blank_of_wordsFrom_eq_nil h).2 c hc)
  | cons w ws ih =>
    obtain ⟨x, y, hl, hstart, hx, -, hy, hhead⟩ :=
      exists_split_of_wordsFrom (List.forall_mem_nil _) rfl (h.trans (List.nil_append _).symm)
    obtain ⟨hne, hsolid⟩ :=
      solid_of_mem_wordsFrom_nil (h ▸ List.mem_cons_self : w ∈ wordsFrom pos pos [] l)
    have hblank : ∀ c ∈ x, isWhiteSpace c := blank_of_wordsOf_eq_nil hx
    have hrest : ∀ length, Placed lex locale true w.stop y (tokensFrom lex locale length ws) :=
      fun length => ih hy.symm fun _ => hhead
    obtain rfl : l = x ++ w.chars ++ y := hl
    rw [tokensFrom]
    cases hn : normalizeWord lex locale w.text with
    | none =>
      -- the word is punctuation like what stands before it
      have hedge := normalizeWord_eq_none_iff.1 hn
      rw [Word.text, String.toList_ofList] at hedge
      refine Placed.prepend ?_ (List.forall_mem_append.2
        ⟨fun c hc => isGapChar_of_isWhiteSpace (hblank c hc),
          fun c hc => isGapChar_of_isEdgePunctuation (hedge c hc)⟩) behind
      rw [byteLength_append, ← Nat.add_assoc, ← hstart]
      exact hrest length
    | some n =>
      obtain ⟨b, hw, hb⟩ := exists_trimList isEdgePunctuation w.chars
      have hsplit : x ++ w.chars ++ y = (x ++ w.chars.takeWhile isEdgePunctuation) ++
          trimList isEdgePunctuation w.chars ++ (b ++ y) := by
        refine (congrArg (x ++ · ++ y) hw).trans ?_
        simp only [List.append_assoc]
      have hstop : w.stop = pos + byteLength ((x ++ w.chars.takeWhile isEdgePunctuation) ++
          trimList isEdgePunctuation w.chars) + byteLength b := by
        have hlen := congrArg byteLength hw
        simp only [byteLength_append] at hlen ⊢
        rw [Word.stop, hlen, hstart]
        omega
      rw [hsplit]
      refine .cons ?_ (fun hafter => ?_) (spells_tokenOf hn hsolid) ?_
        (Placed.prepend (hstop ▸ hrest _) (fun c hc => isGapChar_of_isEdgePunctuation (hb c hc)) true)
      · exact List.forall_mem_append.2 ⟨fun c hc => isGapChar_of_isWhiteSpace (hblank c hc),
          fun c hc => isGapChar_of_isEdgePunctuation (List.mem_takeWhile_imp hc)⟩
      · cases x with
        | nil =>
          obtain ⟨c, cs, hc⟩ := List.exists_cons_of_ne_nil hne
          exact absurd (hbehind hafter c (by simp [hc])) (hsolid c (hc ▸ List.mem_cons_self))
        | cons c x => exact ⟨c, List.mem_cons_self, hblank c List.mem_cons_self⟩
      · simp only [tokenOf, hstart, byteLength_append, Nat.add_assoc]

/-- Every token stands in its place in the text as given. -/
theorem placed_normalize (lex : Lexicon) (locale input : String) :
    Placed lex locale false 0 input.toList (normalize lex locale input).tokens :=
  placed_of_words rfl (by simp)

/-! The text from token to token. -/

theorem Placed.drop (h : Placed lex locale behind pos l (ts ++ ts')) :
    ∃ behind x r, l = x ++ r ∧ Placed lex locale behind (pos + byteLength x) r ts' := by
  induction ts generalizing behind pos l with
  | nil => exact ⟨behind, [], l, rfl, h⟩
  | cons t ts ih =>
    cases h with
    | @cons _ _ _ _ gap core l hgap hblank hspells horiginal hrest =>
      obtain ⟨behind, x, r, rfl, hr⟩ := ih hrest
      refine ⟨behind, gap ++ core ++ x, r, by simp only [List.append_assoc], ?_⟩
      simpa only [byteLength_append, Nat.add_assoc] using hr

theorem Placed.spelled (h : Placed lex locale behind pos l (t :: (ts ++ ts'))) :
    ∃ gap y z, l = gap ++ y ++ z ∧ (∀ c ∈ gap, isGapChar c) ∧ (behind → ∃ c ∈ gap, isWhiteSpace c) ∧
      Spelled lex locale (t :: ts) y ∧ t.original.start = pos + byteLength gap ∧
      ∀ t' ∈ (t :: ts).getLast?, t'.original.stop = pos + byteLength (gap ++ y) := by
  induction ts generalizing behind pos l t with
  | nil =>
    cases h with
    | cons hgap hblank hspells horiginal =>
      refine ⟨_, _, _, rfl, hgap, hblank, .one hspells, by rw [horiginal], fun t' ht' => ?_⟩
      obtain rfl : t = t' := Option.some.inj ht'
      rw [horiginal]
  | cons u ts ih =>
    cases h with
    | @cons _ _ _ _ gap core _ hgap hblank hspells horiginal hrest =>
      obtain ⟨gap', y, z, rfl, hgap', hblank', hy, -, hstop⟩ := ih hrest
      refine ⟨gap, core ++ gap' ++ y, z, by simp only [List.append_assoc], hgap, hblank,
        .cons hspells hgap' (hblank' rfl) hy, by rw [horiginal], fun t' ht' => ?_⟩
      rw [List.getLast?_cons_cons] at ht'
      rw [hstop t' ht']
      simp only [byteLength_append, Nat.add_assoc]

/-- The text as given from one token to a later one is made of the words of these tokens. -/
theorem spelled_between {input : String}
    (h : (normalize lex locale input).tokens = ts ++ t :: (ts' ++ us)) (hlast : t' ∈ (t :: ts').getLast?) :
    ∃ s, (normalize lex locale input).between t t' = some s ∧ Spelled lex locale (t :: ts') s.toList := by
  have hplaced := placed_normalize lex locale input
  rw [h] at hplaced
  obtain ⟨_, x, r, hinput, hr⟩ := hplaced.drop
  obtain ⟨gap, y, z, rfl, -, -, hy, hstart, hstop⟩ := hr.spelled
  have hslice := slice?_append (s := input) (x := x ++ gap) (y := y) (z := z)
    (by rw [hinput]; simp only [List.append_assoc])
  refine ⟨String.ofList y, ?_, by rwa [String.toList_ofList]⟩
  change slice? input t.original.start t'.original.stop = _
  rw [hstart, hstop t' hlast, ← hslice]
  simp only [byteLength_append, Nat.zero_add, Nat.add_assoc]

/-- A text is what a normalized text has from the first to the last of some tokens, and `v` is how the text
as given spells it. -/
structure MapsBack (u : Normalized) (window : List Token) (m v : String) : Prop where
  inside : window <:+: u.tokens
  ends : ∃ first ∈ window.head?, ∃ last ∈ window.getLast?,
    slice? u.text first.normalized.start last.normalized.stop = some m ∧ u.between first last = some v

/-- A stretch of a normalized text that is mapped back has tokens, which the text as given spells. -/
theorem exists_mapsBack {input : String} {x y z : List Char} (hy : y ≠ [])
    (h : (normalize lex locale input).text.toList = x ++ y ++ z) {v : String}
    (hv : (normalize lex locale input).originalSpan ⟨byteLength x, byteLength (x ++ y)⟩ = some v) :
    ∃ t rest, MapsBack (normalize lex locale input) (t :: rest) (String.ofList y) v ∧
      y = t.text.toList ++ joined (t.normalized.start + byteLength t.text.toList) (textsOf rest) ∧
        Spelled lex locale (t :: rest) v.toList := by
  obtain ⟨t, ht, hv⟩ := Option.bind_eq_some_iff.1 hv
  obtain ⟨t', ht', hv⟩ := Option.bind_eq_some_iff.1 hv
  have hstart : t.normalized.start = byteLength x := by simpa using List.find?_some ht
  have hstop : t'.normalized.stop = byteLength (x ++ y) := by simpa using List.find?_some ht'
  obtain ⟨ts, rest, ts', hts, hlast, hwindow⟩ := exists_window hy h (List.mem_of_find?_eq_some ht)
    (List.mem_of_find?_eq_some ht') hstart hstop
  obtain ⟨s, hs, hspelled⟩ := spelled_between hts hlast
  obtain rfl : s = v := Option.some.inj (hs.symm.trans hv)
  refine ⟨t, rest, ⟨⟨ts, ts', by simp [hts]⟩, t, rfl, t', hlast, ?_, hv⟩, hwindow, hspelled⟩
  rw [hstart, hstop, byteLength_append]
  exact slice?_append h

/-! What is made of words. -/

namespace Spelled

variable {p : Char → Bool}

theorem forall_of_words (h : Spelled lex locale ts l) (hgap : ∀ c ∈ l, isGapChar c → p c)
    (hwords : ∀ t ∈ ts, ∀ core, Spells lex locale t core → (∀ c ∈ core, c ∈ l) → ∀ c ∈ core, p c) :
    ∀ c ∈ l, p c := by
  induction h with
  | one hspells => exact hwords _ List.mem_cons_self _ hspells fun _ hc => hc
  | @cons _ core gap ts l hspells hgaps _ _ ih =>
    simp only [List.forall_mem_append] at hgap ⊢
    refine ⟨⟨?_, fun c hc => hgap.1.2 c hc (hgaps c hc)⟩, ih hgap.2 fun t ht core hcore hsub => ?_⟩
    · exact hwords _ List.mem_cons_self _ hspells fun c hc => by simp [hc]
    · exact hwords t (List.mem_cons_of_mem _ ht) core hcore fun c hc => by simp [hsub c hc]

theorem ne_nil (h : Spelled lex locale ts l) : l ≠ [] := by
  cases h with
  | one hspells => exact hspells.ne_nil
  | cons hspells => simp [hspells.ne_nil]

theorem head_solid (h : Spelled lex locale ts l) : ∀ c ∈ l.head?, ¬isWhiteSpace c := by
  have hcore : ∀ {t : Token} {core : List Char} (r : List Char), Spells lex locale t core →
      ∀ c ∈ (core ++ r).head?, ¬isWhiteSpace c := by
    intro t core r hspells c hc
    rw [List.head?_append_of_ne_nil _ hspells.ne_nil] at hc
    exact hspells.solid c (List.mem_of_mem_head? hc)
  cases h with
  | one hspells => simpa using hcore [] hspells
  | cons hspells =>
    rw [List.append_assoc]
    exact hcore _ hspells

theorem last_solid (h : Spelled lex locale ts l) : ∀ c ∈ l.getLast?, ¬isWhiteSpace c := by
  induction h with
  | one hspells => exact fun c hc => hspells.solid c (List.mem_of_getLast? hc)
  | cons _ _ _ hrest ih =>
    intro c hc
    rw [List.getLast?_append, Option.or_of_isSome (by simpa using hrest.ne_nil)] at hc
    exact ih c hc

theorem spells (h : Spelled lex locale [t] l) : Spells lex locale t l := by
  cases h with
  | one hspells => exact hspells
  | cons _ _ _ hrest => cases hrest

/-- A text without blanks is made of one word. -/
theorem exists_spells (h : Spelled lex locale ts l) (hl : ∀ c ∈ l, ¬isWhiteSpace c) :
    ∃ t, ts = [t] ∧ Spells lex locale t l := by
  cases h with
  | one hspells => exact ⟨_, rfl, hspells⟩
  | cons _ _ hblank =>
    obtain ⟨c, hc, hwhite⟩ := hblank
    exact absurd hwhite (hl c (List.mem_append_left _ (List.mem_append_right _ hc)))

/-- What is made of the words of tokens says in normal form what the tokens say. -/
theorem normalFormsOf (h : Spelled lex locale ts l) : normalFormsOf lex locale l = textsOf ts := by
  induction h with
  | one hspells => exact hspells.normalFormsOf
  | @cons t core gap ts l hspells hgap hblank _ ih =>
    -- the text is cut at a blank in the gap, and what is left of the gap on both sides has no words
    obtain ⟨c, hc, hwhite⟩ := hblank
    obtain ⟨g, g', rfl⟩ := List.append_of_mem hc
    obtain ⟨hbefore, hbehind⟩ := List.forall_mem_append.1 hgap
    have hsplit : core ++ (g ++ c :: g') ++ l = (core ++ g) ++ (c :: g' ++ l) := by
      simp only [List.append_assoc]
    rw [hsplit, normalFormsOf_append_of_head (by simpa using hwhite), normalFormsOf_append_gap hbefore,
      normalFormsOf_gap_append hbehind, hspells.normalFormsOf, ih]
    rfl

theorem normalWordsOf (h : Spelled lex locale ts l) :
    normalWordsOf lex locale l = (textsOf ts).flatMap wordsOf := by
  rw [normalWordsOf_eq, h.normalFormsOf]

end Spelled

/-- What was given where a stretch of a normalized text stands has the words of the stretch. -/
theorem normalWordsOf_originalSpan {input : String} {x y z : List Char} (hy : y ≠ [])
    (h : (normalize lex locale input).text.toList = x ++ y ++ z) {s : String}
    (hs : (normalize lex locale input).originalSpan ⟨byteLength x, byteLength (x ++ y)⟩ = some s) :
    normalWordsOf lex locale s.toList = wordsOf y := by
  obtain ⟨t, rest, -, rfl, hspelled⟩ := exists_mapsBack hy h hs
  rw [hspelled.normalWordsOf, wordsOf_append_joined]
  rfl

/-- Where no token has a blank in it, a stretch of a normalized text between blanks covers whole
tokens. -/
theorem isSome_originalSpan {input : String}
    (hsolid : ∀ t ∈ (normalize lex locale input).tokens, ∀ c ∈ t.text.toList, ¬isWhiteSpace c)
    {x y z : List Char} (hy : y ≠ [])
    (h : (normalize lex locale input).text.toList = x ++ y ++ z)
    (hx : ∀ c ∈ x.getLast?, isWhiteSpace c) (hz : ∀ c ∈ z.head?, isWhiteSpace c) :
    ((normalize lex locale input).originalSpan ⟨byteLength x, byteLength (x ++ y)⟩).isSome := by
  obtain ⟨t, ht, t', ht', hstart, hstop⟩ := exists_ends hsolid hy h hx hz
  have hfirst : ((normalize lex locale input).tokens.find?
      (·.normalized.start = byteLength x)).isSome :=
    List.find?_isSome.2 ⟨t, ht, by simpa using hstart⟩
  have hlast : ((normalize lex locale input).tokens.find?
      (·.normalized.stop = byteLength (x ++ y))).isSome :=
    List.find?_isSome.2 ⟨t', ht', by simpa using hstop⟩
  obtain ⟨first, hfirst⟩ := Option.isSome_iff_exists.1 hfirst
  obtain ⟨last, hlast⟩ := Option.isSome_iff_exists.1 hlast
  obtain ⟨ts, rest, ts', hts, hend, -⟩ := exists_window hy h (List.mem_of_find?_eq_some hfirst)
    (List.mem_of_find?_eq_some hlast) (by simpa using List.find?_some hfirst)
    (by simpa using List.find?_some hlast)
  obtain ⟨s, hs, -⟩ := spelled_between hts hend
  refine Option.isSome_iff_exists.2 ⟨s, ?_⟩
  unfold Normalized.originalSpan
  rw [hfirst, hlast]
  exact hs

end Parlance.Text
