import Mathlib.Data.List.Basic
import Parlance.Proofs.Template.Filled
import Parlance.Proofs.Template.FilledWords
import Parlance.Proofs.Text.Spelling

/-!
What the captured values of a match tell. Main statement: `faithful_of_matchText`, that an utterance
which is matched is the template filled in with the captured values, up to letter case, blanks and
articles; word for word where the template keeps its parts apart by blanks.
-/

namespace Parlance

open Pattern Unicode Text

namespace Template

/-- What is the same but for some words is the same but for articles. -/
theorem erased_optionalArticles {optional : String → Bool}
    (hoptional : optional = never ∨ optional = optionalArticles.contains) {ws ws' : List (List Char)}
    (h : erased optional ws = erased optional ws') :
    erased optionalArticles.contains ws = erased optionalArticles.contains ws' := by
  rcases hoptional with rfl | rfl
  · rw [erased_never, erased_never] at h
    rw [erased, erased, h]
  · exact h

theorem skips_never : Skips never := nofun

theorem skips_optionalArticles : Skips optionalArticles.contains := by
  have hall : ∀ text ∈ optionalArticles,
      erased optionalArticles.contains (wordsOf text.toList) = [] := by
    decide +kernel
  exact fun text htext => hall text (by simpa using htext)

end Template

namespace Intent

open Template

/-! What matches tell. -/

/-- The text captured for a slot. -/
def textOf (c : Captures) (name : String) : String :=
  (c.get? name).getD ""

/-- A text captured for a stretch of a normalized text: the stretch itself, or a text whose words
normalizing makes those of the stretch. -/
def Tells (lex : Lexicon) (locale : String) (y : List Char) (text : String) : Prop :=
  text = trim (String.ofList y) ∨ normalWordsOf lex locale text.toList = wordsOf y

/-- No word of a normalized text has blanks in it, or none changes when it is normalized again. -/
def Settled (lex : Lexicon) (locale : String) (u : Normalized) : Prop :=
  (∀ t ∈ u.tokens, ∀ c ∈ t.text.toList, ¬isWhiteSpace c) ∨
    ∀ w ∈ wordsOf u.text.toList, normalWords lex locale w = [w]

/-- The words of a text up to letter case, without articles. -/
def essence (s : String) : List (List Char) :=
  erased optionalArticles.contains (wordsOf s.toList)

variable {spec : Spec} {phrase locale input : String} {kind : PhraseKind} {lex : Lexicon} {i : Intent}
  {us : List Template.Unit} {c : Captures}

/-- The captured values written back into the template normalize to the words of the normalized
utterance, articles aside. -/
def Restores (i : Intent) (lex : Lexicon) (input : String) (c : Captures) : Prop :=
  essence (normalize lex i.locale (fill (textOf c) i.phrase)).text =
    essence (normalize lex i.locale input).text

instance (i : Intent) (lex : Lexicon) (input : String) (c : Captures) :
    Decidable (i.Restores lex input c) :=
  inferInstanceAs (Decidable (_ = _))

/-- What a match of the normalized form tells. -/
structure FaithfulNormalized (i : Intent) (lex : Lexicon) (us : List Template.Unit) (input : String)
    (c : Captures) : Prop where
  matched :
    (Piece.search (normalize lex i.locale input).text.toList.toArray i.normalizedPieces 0).isSome
  /-- The normalized form has all parts of the normalized template in order, articles aside. -/
  traced : Traced optionalArticles.contains (fun name _ y _ => Tells lex i.locale y (textOf c name))
    [] (normalUnits lex i.locale false us) (normalize lex i.locale input).text.toList
  words : (∀ u ∈ (normalUnits lex i.locale false us).tail, u.spaceBefore) →
    Settled lex i.locale (normalize lex i.locale input) → i.Restores lex input c

/-- What a match of the utterance as given tells. -/
structure FaithfulAsGiven (i : Intent) (lex : Lexicon) (us : List Template.Unit) (input : String)
    (c : Captures) : Prop where
  unmatched :
    Piece.search (normalize lex i.locale input).text.toList.toArray i.normalizedPieces 0 = none
  /-- The utterance has all parts of the template in order. -/
  traced : Traced never (fun name _ y _ => textOf c name = trim (String.ofList y)) [] us
    (trim input).toList
  words : (∀ u ∈ us.tail, u.spaceBefore) →
    (wordsOf (fill (textOf c) i.phrase).toList).map (List.map simpleFold) =
      (wordsOf input.toList).map (List.map simpleFold)

theorem map_fst_zip_sublist {α β : Type} (xs : List α) (ys : List β) :
    ((xs.zip ys).map Prod.fst).Sublist xs := by
  induction xs generalizing ys with
  | nil => exact .slnil
  | cons x xs ih =>
    cases ys with
    | nil => exact List.nil_sublist _
    | cons y ys => exact (ih ys).cons_cons x

theorem capture_eq (h : Compiled spec lex us i) (ss : List (Nat × Nat)) (text : Nat × Nat → String) :
    i.capture ss text = .ofList (((slotNames us).zip ss).map fun e => (e.1, trim (text e.2))) := by
  rw [← h.names, List.zip_map_left, List.map_map]
  rfl

theorem get?_capture (h : Compiled spec lex us i) (text : Nat × Nat → String)
    {ss : List (Nat × Nat)} {name : String} {s : Nat × Nat} (hs : (name, s) ∈ (slotNames us).zip ss) :
    (i.capture ss text).get? name = some (trim (text s)) := by
  have hnodup : ((((slotNames us).zip ss).map fun e => (e.1, trim (text e.2))).map Prod.fst).Nodup := by
    rw [List.map_map]
    exact h.nodup.sublist (map_fst_zip_sublist _ _)
  rw [capture_eq h, OrderedMap.get?_ofList hnodup (List.mem_map.2 ⟨_, hs, rfl⟩)]

theorem textOf_capture (h : Compiled spec lex us i) (text : Nat × Nat → String)
    {ss : List (Nat × Nat)} {name : String} {s : Nat × Nat} (hs : (name, s) ∈ (slotNames us).zip ss) :
    textOf (i.capture ss text) name = trim (text s) := by
  rw [textOf, get?_capture h text hs]
  rfl

theorem stretch_ne_nil_of_spans {t : List Char} {name : String} {j k : Nat}
    (h : Compiled spec lex us i) (hdefault : i.HasDefaultSlots) (hname : name ∈ slotNames us)
    (hspans : Spans t.toArray (nodeOf spec name) j k) : stretch t (j, k) ≠ [] := by
  obtain ⟨p, hp, -, hslot, -⟩ := h.exists_slot hname
  rw [nodeOf_of_default hslot (hdefault p hp)] at hspans
  have hlt := hspans.lt (moves_kindPattern _)
  have hsize : k ≤ t.length := by simpa using hspans.le_size.resolve_left hlt.ne
  intro hnil
  have hlen := length_stretch (i := j) hsize
  rw [hnil, List.length_nil] at hlen
  omega

/-- A text was captured of a normalized text for the stretch between two others. -/
structure Captured (u : Normalized) (text : String) (x y z : List Char) : Prop where
  around : u.text.toList = x ++ y ++ z
  ne_nil : y ≠ []
  text : text = trim ((u.originalSpan ⟨byteLength x, byteLength (x ++ y)⟩).getD (String.ofList y))

variable {text : String} {x y z : List Char}

theorem Captured.normalWords_of_some (h : Captured (normalize lex locale input) text x y z)
    {given : String} (hs : (normalize lex locale input).originalSpan
      ⟨byteLength x, byteLength (x ++ y)⟩ = some given) :
    normalWordsOf lex locale text.toList = wordsOf y := by
  rw [h.text, hs, Option.getD_some, normalWordsOf, wordsOf_trim]
  exact normalWordsOf_originalSpan h.ne_nil h.around hs

theorem Captured.tells (h : Captured (normalize lex locale input) text x y z) :
    Tells lex locale y text := by
  cases hs : (normalize lex locale input).originalSpan ⟨byteLength x, byteLength (x ++ y)⟩ with
  | none => exact .inl (by rw [h.text, hs, Option.getD_none])
  | some given => exact .inr (h.normalWords_of_some hs)

/-- Between blanks of a settled text, what is captured has the words of the stretch. -/
theorem Captured.normalWords (h : Captured (normalize lex locale input) text x y z)
    (hsettled : Settled lex locale (normalize lex locale input))
    (hx : ∀ c ∈ x.getLast?, isWhiteSpace c) (hz : ∀ c ∈ z.head?, isWhiteSpace c) :
    normalWordsOf lex locale text.toList = wordsOf y := by
  cases hs : (normalize lex locale input).originalSpan ⟨byteLength x, byteLength (x ++ y)⟩ with
  | some given => exact h.normalWords_of_some hs
  | none =>
    rcases hsettled with hsolid | hstable
    · have hsome := isSome_originalSpan hsolid h.ne_nil h.around hx hz
      rw [hs] at hsome
      cases hsome
    · have hwords : wordsOf (x ++ y ++ z) = wordsOf x ++ wordsOf y ++ wordsOf z := by
        rw [wordsOf_append_of_head hz, wordsOf_append_of_last hx]
      have hsame : ∀ w ∈ wordsOf y, Text.normalWords lex locale w = [w] := by
        intro w hw
        refine hstable w ?_
        rw [h.around, hwords]
        exact List.mem_append_left _ (List.mem_append_right _ hw)
      rw [h.text, hs, Option.getD_none, normalWordsOf, wordsOf_trim, String.toList_ofList,
        List.flatMap_congr hsame, List.flatMap_singleton']

theorem captured_of_spans {u : Normalized} {ss : List (Nat × Nat)} {name : String} {s : Nat × Nat}
    (h : Compiled spec lex us i) (hdefault : i.HasDefaultSlots)
    (hs : (name, s) ∈ (slotNames us).zip ss)
    (hspans : Spans u.text.toList.toArray (nodeOf spec name) s.1 s.2) :
    Captured u
      (textOf (i.capture ss fun s =>
        (u.originalSpan (byteSpan u.text.toList s)).getD (String.ofList (stretch u.text.toList s)))
        name)
      (u.text.toList.take s.1) (stretch u.text.toList s) (u.text.toList.drop s.2) := by
  refine ⟨?_, stretch_ne_nil_of_spans h hdefault (List.of_mem_zip hs).1 hspans, ?_⟩
  · rw [← take_eq_stretch _ hspans.le, List.take_append_drop]
  · rw [← take_eq_stretch _ hspans.le]
    exact textOf_capture h _ hs

theorem faithfulNormalized (h : Compiled spec lex us i) (hparse : Template.parse i.phrase = .ok us)
    (hdefault : i.HasDefaultSlots) {ss : List (Nat × Nat)}
    (hsearch : Piece.search (normalize lex i.locale input).text.toList.toArray
      i.normalizedPieces 0 = some ss) :
    FaithfulNormalized i lex us input (i.capture ss fun s =>
      ((normalize lex i.locale input).originalSpan
        (byteSpan (normalize lex i.locale input).text.toList s)).getD
          (String.ofList (stretch (normalize lex i.locale input).text.toList s))) := by
  generalize hc : i.capture ss _ = c
  obtain ⟨optional, hoptional, hpieces⟩ := h.normalizedPieces
  have hcovers := covers_of_search hsearch
  rw [hpieces] at hcovers
  have htraced : Traced optional
      (fun name => Captured (normalize lex i.locale input) (textOf c name)) []
      (normalUnits lex i.locale false us) (normalize lex i.locale input).text.toList := by
    refine traced_of_covers (apart_normalUnits (apart_of_parse hparse)) hcovers
      fun name s hs hspans => ?_
    rw [slotNames_normalUnits] at hs
    exact hc ▸ captured_of_spans h hdefault hs hspans
  refine ⟨by rw [hsearch]; rfl, ?_, fun hspace hsettled => ?_⟩
  · refine htraced.mono (fun text htext => ?_) fun name x y z hs => hs.tells
    rcases hoptional with rfl | rfl
    · cases htext
    · exact htext
  · have hskip : Skips optional := by
      rcases hoptional with rfl | rfl
      · exact skips_never
      · exact skips_optionalArticles
    have hwords := htraced.words hskip
      (fun name => normalWordsOf lex i.locale (textOf c name).toList) (.inl ⟨rfl, hspace⟩)
      fun name x y z hs _ hx hz => (hs.normalWords hsettled hx (hz hs.ne_nil)).symm
    have hfilled := (laid_of_parse hparse (textOf c)).2.normalWords hspace
    rw [filledWords, ← wordsOf_normalize] at hfilled
    rw [← hfilled] at hwords
    exact (erased_optionalArticles hoptional hwords).symm

theorem faithfulAsGiven (h : Compiled spec lex us i) (hparse : Template.parse i.phrase = .ok us)
    (hunmatched : Piece.search (normalize lex i.locale input).text.toList.toArray
      i.normalizedPieces 0 = none) {ss : List (Nat × Nat)}
    (hsearch : Piece.search (trim input).toList.toArray i.pieces 0 = some ss) :
    FaithfulAsGiven i lex us input
      (i.capture ss fun s => String.ofList (stretch (trim input).toList s)) := by
  generalize hc : i.capture ss _ = c
  have hcovers := covers_of_search hsearch
  rw [h.pieces] at hcovers
  have htells : ∀ name s, (name, s) ∈ (slotNames us).zip ss →
      Spans (trim input).toList.toArray (nodeOf spec name) s.1 s.2 →
        textOf c name = trim (String.ofList (stretch (trim input).toList s)) :=
    fun name s hs _ => hc ▸ textOf_capture h _ hs
  have htraced : Traced never (fun name _ y _ => textOf c name = trim (String.ofList y)) [] us
      (trim input).toList := traced_of_covers (apart_of_parse hparse) hcovers htells
  refine ⟨hunmatched, htraced, fun hspace => ?_⟩
  have hwords := htraced.words skips_never (fun name => wordsOf (textOf c name).toList)
    (.inl ⟨rfl, hspace⟩)
    fun name x y z hs _ _ _ => by
      rw [hs, wordsOf_trim, String.toList_ofList]
  rw [← (laid_of_parse hparse (textOf c)).2.words hspace, erased_never, erased_never] at hwords
  rw [← hwords, wordsOf_trim]

/-- What is matched is the template filled in with the captured values. -/
theorem faithful_of_matchText (h : compile spec phrase kind locale lex = .ok i)
    (hparse : Template.parse phrase = .ok us) (hdefault : i.HasDefaultSlots)
    (hmatch : i.matchText (normalize lex i.locale input) = some c) :
    FaithfulNormalized i lex us input c ∨ FaithfulAsGiven i lex us input c := by
  obtain ⟨us', hparse', -, rfl, hcompiled⟩ := compiled_of_compile h
  obtain rfl : us = us' := Except.ok.inj (hparse.symm.trans hparse')
  unfold matchText at hmatch
  dsimp only at hmatch
  split at hmatch
  · rename_i ss hsearch
    cases hmatch
    exact .inl (faithfulNormalized hcompiled hparse hdefault hsearch)
  · rename_i hsearch
    split at hmatch
    · cases hmatch
    · obtain ⟨ss, hraw, rfl⟩ := Option.map_eq_some_iff.1 hmatch
      exact .inr (faithfulAsGiven hcompiled hparse hsearch hraw)

/-- A phrase whose article is left out, with punctuation in the phrase and in the utterance. -/
theorem faithful_of_matchText_article :
    ∃ i us c, compile (.spoken "pon la \x7bx\x7d." [("x", .text)]) "pon la \x7bx\x7d." .canonical "es"
        {} = .ok i ∧ Template.parse "pon la \x7bx\x7d." = .ok us ∧ i.HasDefaultSlots ∧
      i.matchText (normalize {} i.locale "¡Pon Música!") = some c ∧ textOf c "x" = "Música" ∧
      i.Restores {} "¡Pon Música!" c := by
  obtain ⟨us, hparse, i, hcompile, hdefault, hspace, hsolid, hsome, c, hmatch, htext⟩ :
      ∃ us ∈ (Template.parse "pon la \x7bx\x7d.").toOption,
      ∃ i ∈ (compile (.spoken "pon la \x7bx\x7d." [("x", .text)]) "pon la \x7bx\x7d." .canonical "es"
        {}).toOption, i.HasDefaultSlots ∧
      (∀ u ∈ (normalUnits {} i.locale false us).tail, u.spaceBefore) ∧
      (normalize {} i.locale "¡Pon Música!").tokens.all (·.text.toList.all (!isWhiteSpace ·)) ∧
      (Piece.search (normalize {} i.locale "¡Pon Música!").text.toList.toArray
        i.normalizedPieces 0).isSome ∧
      ∃ c ∈ i.matchText (normalize {} i.locale "¡Pon Música!"), textOf c "x" = "Música" := by
    decide +kernel
  have hcompile := eq_ok_of_mem_toOption hcompile
  have hparse := eq_ok_of_mem_toOption hparse
  refine ⟨i, us, c, hcompile, hparse, hdefault, hmatch, htext, ?_⟩
  rcases faithful_of_matchText hcompile hparse hdefault hmatch with hnormalized | hgiven
  · exact hnormalized.words hspace (.inl (by simpa using hsolid))
  · rw [hgiven.unmatched] at hsome
    cases hsome

/-- An utterance that a phrase of a spec matches although the values do not restore it. -/
def Strays (spec : Spec) (phrase : String) (lex : Lexicon) (input : String) : Prop :=
  ∃ i ∈ (compile spec phrase .canonical "es" lex).toOption, i.HasDefaultSlots ∧
    ∃ c ∈ i.matchText (normalize lex i.locale input), ¬i.Restores lex input c

instance (spec : Spec) (phrase : String) (lex : Lexicon) (input : String) :
    Decidable (Strays spec phrase lex input) :=
  inferInstanceAs (Decidable (∃ i ∈ (compile spec phrase .canonical "es" lex).toOption,
    i.HasDefaultSlots ∧ ∃ c ∈ i.matchText (normalize lex i.locale input), ¬i.Restores lex input c))

/-- Values do not restore an utterance where the template keeps parts apart by punctuation, leaves out an
article without blanks behind it, or has none around a captured text, also when only the utterance as
given is matched; where the lexicon knows a word of another word's term; and where letters that are the
same up to case are normalized differently. -/
theorem exists_strays :
    Strays .clock "\x7bh\x7d:\x7bm\x7d" {} "1030" ∧
    Strays (.spoken "la\x7bx\x7d" [("x", .number)]) "la\x7bx\x7d" {} "5" ∧
    Strays (.spoken "#\x7bx\x7d" [("x", .text)]) "#\x7bx\x7d" {} "# hola" ∧
    Strays (.spoken "\x7bn\x7dab\x7bx\x7d" [("n", .number), ("x", .text)]) "\x7bn\x7dab\x7bx\x7d"
      (Lexicon.empty.register "es" "ab" "z") "5AB hola" ∧
    Strays (.spoken "b \x7bx\x7d" [("x", .text)]) "b \x7bx\x7d"
      ((Lexicon.empty.register "es" "foo" "b c").register "es" "c" "d") "foo" ∧
    Strays (.spoken "ι \x7bx\x7d" [("x", .number)]) "ι \x7bx\x7d" {} "\u0345 5" := by
  decide +kernel

end Intent

end Parlance
