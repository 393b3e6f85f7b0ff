import Parlance.Proofs.Template.Layout
import Parlance.Proofs.Text.Normalized

/-!
The words of filled-in templates. Main statements: `apart_normalUnits`, that normalizing keeps words
apart, and `Laid.normalWords`, that normalizing a filled-in template normalizes its words and the texts
of its slots.
-/

namespace Parlance.Template

open Unicode Text

variable {lex : Lexicon} {locale : String} {f : String → String} {us : List Unit}
  {l : List Char}

theorem Part.words_written (f : String → String) (part : Part) :
    (part.words fun name => wordsOf (f name).toList) = wordsOf (part.written f) := by
  cases part <;> rfl

theorem Laid.words_behind (hspace : ∀ u ∈ us, u.spaceBefore) (h : Laid f false false us l) :
    (∀ c ∈ l.head?, isWhiteSpace c) ∧
      wordsOf l = us.flatMap fun u => u.part.words fun name => wordsOf (f name).toList := by
  induction us generalizing l with
  | nil =>
    cases h with
    | nil hb => exact ⟨fun c hc => hb c (List.mem_of_mem_head? hc), by rw [wordsOf_blank hb]; rfl⟩
  | cons u us ih =>
    cases h with
    | @cons b _ _ _ l _ hb _ hgap hl =>
      obtain ⟨hfirst, htail⟩ := List.forall_mem_cons.1 hspace
      obtain ⟨hhead, hwords⟩ := ih htail hl
      have hne : b ≠ [] := by
        rintro rfl
        rw [hgap] at hfirst
        cases hfirst
      refine ⟨fun c hc => ?_, ?_⟩
      · rw [List.append_assoc, List.head?_append, Option.or_of_isSome (by simpa using hne)] at hc
        exact hb c (List.mem_of_mem_head? hc)
      · rw [wordsOf_between hb hhead, hwords, List.flatMap_cons, Part.words_written]

/-- A template whose parts are kept apart by blanks has the words of its parts. -/
theorem Laid.words (hspace : ∀ u ∈ us.tail, u.spaceBefore) (h : Laid f true false us l) :
    wordsOf l = us.flatMap fun u => u.part.words fun name => wordsOf (f name).toList := by
  cases h with
  | nil hb => rw [wordsOf_blank hb]; rfl
  | cons hb _ _ hl =>
    rw [List.tail_cons] at hspace
    obtain ⟨hhead, hwords⟩ := hl.words_behind hspace
    rw [wordsOf_between hb hhead, hwords, List.flatMap_cons, Part.words_written]

theorem head_normalUnits_carried :
    ∀ u ∈ (normalUnits lex locale true us).head?, u.spaceBefore := by
  induction us with
  | nil => simp [normalUnits]
  | cons u us ih =>
    obtain ⟨part, space⟩ := u
    cases part with
    | word text =>
      rw [normalUnits]
      split
      · exact ih
      · simp
    | slot name => simp [normalUnits]

/-- A word behind another word is kept apart also when words between them are dropped. -/
theorem head_normalUnits {u : Unit} (hword : u.part.IsWord) (h : Apart (u :: us)) :
    ∀ v ∈ (normalUnits lex locale false us).head?, v.part.IsWord → v.spaceBefore := by
  cases us with
  | nil => simp [normalUnits]
  | cons v us =>
    obtain ⟨part, space⟩ := v
    cases part with
    | word text =>
      obtain rfl : space = true := (List.isChain_cons.1 h).1 _ rfl hword trivial
      rw [normalUnits]
      split
      · exact fun w hw _ => head_normalUnits_carried w hw
      · simp
    | slot name =>
      intro w hw hslot
      cases hw
      exact hslot.elim

theorem apart_normalUnits {carried : Bool} (h : Apart us) :
    Apart (normalUnits lex locale carried us) := by
  induction us generalizing carried with
  | nil => exact .nil
  | cons u us ih =>
    obtain ⟨part, space⟩ := u
    have hus := (List.isChain_cons.1 h).2
    cases part with
    | word text =>
      rw [normalUnits]
      split
      · exact ih hus
      · exact List.isChain_cons.2 ⟨fun v hv _ => head_normalUnits (u := ⟨.word text, space⟩) trivial h v hv,
          ih hus⟩
    | slot name => exact List.isChain_cons.2 ⟨fun v _ hslot => hslot.elim, ih hus⟩

/-- No word reaches from a text into what stands behind it. -/
def Cut (lex : Lexicon) (locale : String) (x : List Char) : Prop :=
  ∀ r, normalWordsOf lex locale (x ++ r) = normalWordsOf lex locale x ++ normalWordsOf lex locale r

theorem Cut.punctuation {x p : List Char} (h : Cut lex locale x)
    (hp : ∀ c ∈ p, isEdgePunctuation c) : Cut lex locale (x ++ p) := by
  intro r
  rw [normalWordsOf_append_punctuation hp, List.append_assoc, h, normalWordsOf_punctuation_append hp]

theorem cut_of_last {x : List Char} (hx : ∀ c ∈ x.getLast?, isWhiteSpace c) : Cut lex locale x :=
  fun r => normalWordsOf_append_of_last hx r

theorem Cut.blank {x b : List Char} (h : Cut lex locale x ∨ b ≠ []) (hb : ∀ c ∈ b, isWhiteSpace c) :
    Cut lex locale (x ++ b) := by
  by_cases hne : b = []
  · rw [hne, List.append_nil]
    exact h.resolve_right (not_not_intro hne)
  · refine cut_of_last fun c hc => hb c (List.mem_of_getLast? ?_)
    rwa [List.getLast?_append, Option.or_of_isSome (by simpa using hne)] at hc

/-- The words of units that are filled in, slot by slot. -/
def filledWords (lex : Lexicon) (locale : String) (f : String → String) (us : List Unit) :
    List (List Char) :=
  us.flatMap fun u => u.part.words fun name => normalWordsOf lex locale (f name).toList

/-- Normalizing drops a unit, which then is punctuation, or keeps it. -/
theorem normalUnits_cons (lex : Lexicon) (locale : String) (f : String → String) (us : List Unit)
    {u : Unit} (hsolid : u.part.Solid) :
    ((∀ c ∈ u.part.written f, isEdgePunctuation c) ∧ ∀ carried,
      normalUnits lex locale carried (u :: us) =
        normalUnits lex locale (carried || u.spaceBefore) us) ∨
    ∃ part, (part.words fun name => normalWordsOf lex locale (f name).toList) =
        normalWordsOf lex locale (u.part.written f) ∧ ∀ carried,
      normalUnits lex locale carried (u :: us) =
        ⟨part, u.spaceBefore || carried⟩ :: normalUnits lex locale false us := by
  obtain ⟨part, space⟩ := u
  cases part with
  | word text =>
    cases hn : normalizeWord lex locale text with
    | none =>
      refine .inl ⟨normalizeWord_eq_none_iff.1 hn, fun carried => ?_⟩
      rw [normalUnits, hn]
    | some w =>
      refine .inr ⟨.word w.text, ?_, fun carried => ?_⟩
      · have hsome : Text.normalWords lex locale text.toList = wordsOf w.text.toList :=
          normalWords_of_some (by rwa [String.ofList_toList])
        rw [normalWordsOf, Part.written, wordsOf_of_solid hsolid.1 hsolid.2, List.flatMap_singleton,
          hsome]
        rfl
      · rw [normalUnits, hn]
  | slot name => exact .inr ⟨.slot name, rfl, fun _ => rfl⟩

/-- Behind a text that they are kept apart from, units written out have the words of the normalized
units. The text is all that is written before: punctuation at its end is no word, but may be written
together with the next one. -/
theorem Laid.normalWords_behind {x : List Char} (h : Laid f false false us l) :
    (∀ carried, Cut lex locale x → (∀ u ∈ (normalUnits lex locale carried us).tail, u.spaceBefore) →
      normalWordsOf lex locale (x ++ l) = normalWordsOf lex locale x ++
        filledWords lex locale f (normalUnits lex locale carried us)) ∧
    ((∀ u ∈ normalUnits lex locale false us, u.spaceBefore) →
      normalWordsOf lex locale (x ++ l) = normalWordsOf lex locale x ++
        filledWords lex locale f (normalUnits lex locale false us)) := by
  induction us generalizing l x with
  | nil =>
    cases h with
    | nil hb => simp [normalWordsOf_append_blank hb, normalUnits, filledWords]
  | cons u us ih =>
    cases h with
    | @cons b _ _ _ l _ hb hsolid hgap hl =>
      have hgap : u.spaceBefore = !b.isEmpty := by simpa using hgap
      have hassoc : x ++ (b ++ u.part.written f ++ l) = x ++ b ++ u.part.written f ++ l := by simp
      rw [hassoc]
      rcases normalUnits_cons lex locale f us hsolid with ⟨hpunct, hdrop⟩ | ⟨part, hpart, hkeep⟩
      · have hbefore : normalWordsOf lex locale (x ++ b ++ u.part.written f) =
            normalWordsOf lex locale x := by
          rw [normalWordsOf_append_punctuation hpunct, normalWordsOf_append_blank hb]
        obtain ⟨ihCut, ihSpaced⟩ := ih hl (x := x ++ b ++ u.part.written f)
        rw [hbefore] at ihCut ihSpaced
        refine ⟨fun carried hx hspace => ?_, fun hspace => ?_⟩
        · rw [hdrop] at hspace ⊢
          exact ihCut _ ((Cut.blank (.inl hx) hb).punctuation hpunct) hspace
        · rw [hdrop, Bool.false_or] at hspace ⊢
          by_cases hne : b = []
          · subst hne
            rw [hgap] at hspace ⊢
            exact ihSpaced hspace
          · exact ihCut _ ((Cut.blank (.inr hne) hb).punctuation hpunct) fun v hv =>
              hspace v (List.mem_of_mem_tail hv)
      · have hkept : ∀ carried, Cut lex locale x ∨ b ≠ [] →
            (∀ v ∈ normalUnits lex locale false us, v.spaceBefore) →
            normalWordsOf lex locale (x ++ b ++ u.part.written f ++ l) = normalWordsOf lex locale x ++
              filledWords lex locale f (normalUnits lex locale carried (u :: us)) := by
          intro carried hx hspace
          rw [List.append_assoc, Cut.blank hx hb, normalWordsOf_append_blank hb, (ih hl).2 hspace, hkeep,
            ← hpart]
          rfl
        refine ⟨fun carried hx hspace => ?_, fun hspace => ?_⟩
        · rw [hkeep, List.tail_cons] at hspace
          exact hkept carried (.inl hx) hspace
        · rw [hkeep, List.forall_mem_cons, hgap] at hspace
          exact hkept false (.inr (by simpa using hspace.1)) hspace.2

/-- Normalizing a filled-in template normalizes its words and the texts of its slots, where blanks keep
apart what is not dropped. -/
theorem Laid.normalWords (h : Laid f true false us l)
    (hspace : ∀ u ∈ (normalUnits lex locale false us).tail, u.spaceBefore) :
    normalWordsOf lex locale l = filledWords lex locale f (normalUnits lex locale false us) := by
  cases h with
  | nil hb =>
    rw [normalWordsOf, wordsOf_blank hb]
    rfl
  | @cons b _ _ us l u hb hsolid hfirst hl =>
    have hbehind : Laid f false false (u :: us) ([] ++ u.part.written f ++ l) :=
      .cons (by simp) hsolid (by simpa using hfirst) hl
    have hcut : Cut lex locale b := cut_of_last fun c hc => hb c (List.mem_of_getLast? hc)
    have hblank : normalWordsOf lex locale b = [] := by
      rw [normalWordsOf, wordsOf_blank hb]
      rfl
    have hwords := hbehind.normalWords_behind.1 false hcut hspace
    rw [hblank, List.nil_append, List.nil_append, ← List.append_assoc] at hwords
    exact hwords

end Parlance.Template
