import Parlance.Proofs.Ranking.Windows
import Parlance.Proofs.Slot.Numeral
import Parlance.Proofs.Template.Captures

/-!
Numbers that are matched and numbers that are read. Main statement: `numbers_extractPayload`, which of the
texts that the pattern of numbers accepts have a number, and which matches bring it to the payload.
-/

namespace Parlance.Template

open Pattern Unicode Slot Double Intent

variable {s : String} {i j : Nat} {c : Char} {l : List Char}

/-! Accepted texts. -/

/-- How a text is written that the pattern of numbers accepts, in digits of any script. -/
structure Written (l : List Char) (sign : Option Char) (whole : List Char) (mark : Option Char)
    (fraction : List Char) : Prop where
  sign_mem : ∀ c ∈ sign, c = '-'
  mark_mem : ∀ c ∈ mark, c = '.' ∨ c = ','
  isDecimalDigit : ∀ c ∈ whole ++ fraction, isDecimalDigit c
  fraction_eq_nil : mark = none → fraction = []
  eq : l = sign.toList ++ (whole ++ (mark.toList ++ fraction))

theorem exists_stretch_one {p : Char → Bool} (h : Spans l.toArray (.one p) i j) :
    ∃ c, p c ∧ stretch l (i, j) = [c] := by
  cases h with
  | @one _ c _ hc hp =>
    rw [List.getElem?_toArray] at hc
    exact ⟨c, hp, by rw [stretch_succ hc (Nat.lt_succ_self i), stretch_self]⟩

theorem isDecimalDigit_of_spans_digits (h : Spans l.toArray digits i j) :
    ∀ c ∈ stretch l (i, j), isDecimalDigit c :=
  h.forall_stretch fun _ hc => hc

theorem exists_written_of_fits (h : (kindPattern .number).fits s) :
    ∃ sign whole mark fraction, Written s.toList sign whole mark fraction := by
  have hspans := fits_iff.1 h
  have hall : stretch s.toList (0, s.toList.length) = s.toList := by simp [stretch]
  cases hspans with
  | @seq _ _ j _ _ hsign hrest =>
    cases hrest with
    | @seq _ _ k _ _ hwhole hfraction =>
      rw [stretch_append _ hsign.le (hwhole.le.trans hfraction.le),
        stretch_append _ hwhole.le hfraction.le] at hall
      obtain ⟨sign, hmem, hsign⟩ : ∃ sign : Option Char, (∀ c ∈ sign, c = '-') ∧
          stretch s.toList (0, j) = sign.toList := by
        cases hsign with
        | skip => exact ⟨none, by simp, stretch_self _ _⟩
        | take h =>
          obtain ⟨c, hc, hone⟩ := exists_stretch_one h
          exact ⟨some c, by simpa using hc, hone⟩
      obtain ⟨mark, fraction, hmark, hdigits, hnil, hfraction⟩ :
          ∃ (mark : Option Char) (fraction : List Char), (∀ c ∈ mark, c = '.' ∨ c = ',') ∧
            (∀ c ∈ fraction, isDecimalDigit c) ∧ (mark = none → fraction = []) ∧
            stretch s.toList (k, s.toList.length) = mark.toList ++ fraction := by
        cases hfraction with
        | skip => exact ⟨none, [], by simp, by simp, fun _ => rfl, stretch_self _ _⟩
        | take h =>
          cases h with
          | seq hmark hdigits =>
            obtain ⟨c, hc, hone⟩ := exists_stretch_one hmark
            refine ⟨some c, _, by simpa using hc, isDecimalDigit_of_spans_digits hdigits, by simp, ?_⟩
            rw [stretch_append _ hmark.le hdigits.le, hone]
            rfl
      refine ⟨sign, _, mark, fraction, hmem, hmark,
        List.forall_mem_append.2 ⟨isDecimalDigit_of_spans_digits hwhole, hdigits⟩, hnil, ?_⟩
      rw [← hsign, ← hfraction, hall]

theorem fits_digits (hne : l ≠ []) (h : ∀ c ∈ l, isDecimalDigit c) :
    (kindPattern .number).fits (String.ofList l) := by
  rw [fits_iff, String.toList_ofList]
  exact .seq .skip (.seq (spans_plus hne h) .skip)

/-- What a text writes in ASCII digits is a number that is not too large for a double. -/
structure HasNumber (s : String) : Prop where
  exists_digit : ∃ c ∈ s.toList, c.isDigit
  lt_overflow : ∀ n : Numeral, n.chars = s.toList.filter isNumeral → n.amount < overflow

theorem isDigit_of_isDecimalDigit (h : isDecimalDigit c) (hc : isNumeral c) : c.isDigit := by
  simp only [isNumeral, Bool.or_eq_true, decide_eq_true_eq] at hc
  rcases hc with (((hc | rfl) | rfl) | rfl) | rfl
  · exact hc
  all_goals exact absurd h (by decide +kernel)

variable {sign mark : Option Char} {whole fraction : List Char}

/-- A written number with an ASCII digit has a numeral among its characters. -/
theorem Written.exists_numeral (h : Written l sign whole mark fraction) (hdigit : ∃ c ∈ l, c.isDigit) :
    ∃ n : Numeral, n.chars = l.filter isNumeral := by
  have hsign : sign.toList.filter isNumeral = sign.toList := by
    rw [List.filter_eq_self]
    intro c hc
    rw [h.sign_mem c (Option.mem_toList.1 hc)]
    decide
  have hmark : mark.toList.filter isNumeral = mark.toList := by
    rw [List.filter_eq_self]
    intro c hc
    rcases h.mark_mem c (Option.mem_toList.1 hc) with rfl | rfl <;> decide
  have hkept : ∀ c ∈ (whole ++ fraction).filter isNumeral, c.isDigit := by
    intro c hc
    obtain ⟨hmem, hnumeral⟩ := List.mem_filter.1 hc
    exact isDigit_of_isDecimalDigit (h.isDecimalDigit c hmem) hnumeral
  have hne : (whole ++ fraction).filter isNumeral ≠ [] := by
    obtain ⟨c, hc, hcdigit⟩ := hdigit
    apply List.ne_nil_of_mem (a := c)
    refine List.mem_filter.2 ⟨?_, by simp [isNumeral, hcdigit]⟩
    rw [h.eq] at hc
    simp only [List.mem_append, Option.mem_toList] at hc ⊢
    rcases hc with hc | hc | hc | hc
    · rw [h.sign_mem c hc] at hcdigit
      exact absurd hcdigit (by decide)
    · exact .inl hc
    · rcases h.mark_mem c hc with rfl | rfl <;> exact absurd hcdigit (by decide)
    · exact .inr hc
  have hkeeps : l.filter isNumeral =
      sign.toList ++ (whole.filter isNumeral ++ (mark.toList ++ fraction.filter isNumeral)) := by
    rw [h.eq, List.filter_append, List.filter_append, List.filter_append, hsign, hmark]
  have hnil (hnone : mark = none) : fraction.filter isNumeral = [] := by
    rw [h.fraction_eq_nil hnone, List.filter_nil]
  rw [List.filter_append] at hkept hne
  exact ⟨⟨sign, _, mark, _, fun c hc => .inl (h.sign_mem c hc), h.mark_mem, hkept, hne, hnil⟩,
    hkeeps.symm⟩

/-- Of the texts that the pattern of numbers accepts, those have a number that write one in ASCII digits. -/
theorem isSome_readNumber_of_fits (h : (kindPattern .number).fits s) :
    (readNumber s).isSome ↔ HasNumber s := by
  obtain ⟨sign, whole, mark, fraction, hwritten⟩ := exists_written_of_fits h
  constructor
  · intro hsome
    refine ⟨?_, fun n hn => (Numeral.isSome_readNumber_iff hn.symm).1 hsome⟩
    by_contra hdigit
    push Not at hdigit
    rw [readNumber_eq_none hdigit] at hsome
    cases hsome
  · intro hnumber
    obtain ⟨n, hn⟩ := hwritten.exists_numeral hnumber.exists_digit
    exact (Numeral.isSome_readNumber_iff hn.symm).2 (hnumber.lt_overflow n hn)

end Parlance.Template

namespace Parlance.Ranking

open Pattern Template Intent Slot Text Unicode

variable {spec : Spec} {phrase locale input : String} {kind : PhraseKind} {lex lex₀ : Lexicon} {i : Intent}
  {us : List Template.Unit} {u : Normalized} {c : Captures} {p : SlotPattern} {l : List Char}
  {s : Nat × Nat} {m v : String}

/-! Matched numbers. -/

/-- What is told for a number reads as what was matched, unless the lexicon made that of another word or
nothing is left of the first word that is told. -/
def KeepsNumber (u : Normalized) (m v : String) : Prop :=
  readNumber v = readNumber m ∨ ∃ window, MapsBack u window m v ∧
    ((∃ t ∈ window.head?, t.text = "") ∨ ∃ t, window = [t] ∧ t.substituted)

theorem keepsNumber_stretch (hspans : Spans l.toArray (kindPattern .number) s.1 s.2) :
    KeepsNumber u (String.ofList (stretch l s)) (trim (String.ofList (stretch l s))) := by
  have hfree : ¬Slot.Kind.number.IsFree := by simp [Slot.Kind.IsFree]
  left
  rw [trim_of_fits (fits_of_spans hspans) (startsIn_kindPattern hfree) (endsIn_kindPattern hfree)]

theorem keepsNumber_normalized
    (hspans : Spans (normalize lex locale input).text.toList.toArray (kindPattern .number) s.1 s.2) :
    KeepsNumber (normalize lex locale input)
      (String.ofList (stretch (normalize lex locale input).text.toList s))
      (trim (((normalize lex locale input).originalSpan
        (byteSpan (normalize lex locale input).text.toList s)).getD
          (String.ofList (stretch (normalize lex locale input).text.toList s)))) := by
  cases hv : (normalize lex locale input).originalSpan _ with
  | none =>
    rw [Option.getD_none]
    exact keepsNumber_stretch hspans
  | some v =>
    obtain ⟨htrim, t, rest, hmaps, hwindow, hspelled⟩ :=
      exists_mapsBack_of_spans (moves_kindPattern _) hspans hv
    rw [Option.getD_some, htrim]
    by_cases hempty : t.text = ""
    · exact .inr ⟨_, hmaps, .inl ⟨t, rfl, hempty⟩⟩
    · obtain rfl : rest = [] := by
        -- a word behind the first would stand behind a blank, and there is none in a number
        have hsolid : ∀ c ∈ stretch (normalize lex locale input).text.toList s, ¬isWhiteSpace c := by
          intro c hc
          apply not_isWhiteSpace_of_admits_number
          exact admits_of_fits (fits_of_spans hspans) c (by rwa [String.toList_ofList])
        have hlength : t.normalized.start + byteLength t.text.toList ≠ 0 := by
          rw [ne_eq, Nat.add_eq_zero_iff, byteLength_eq_zero, String.toList_eq_nil_iff]
          exact fun hzero => hempty hzero.2
        cases rest with
        | nil => rfl
        | cons t' rest =>
          rw [hwindow, textsOf, List.map_cons, joined, if_neg hlength] at hsolid
          exact absurd (by decide) (hsolid ' ' (by simp))
      by_cases hsub : t.substituted
      · exact .inr ⟨_, hmaps, .inr ⟨t, rfl, hsub⟩⟩
      · have htext : t.text = fold (lowercase v) := by
          rw [hspelled.spells.text hsub, String.ofList_toList]
        have hmatched : String.ofList (stretch (normalize lex locale input).text.toList s) = t.text := by
          rw [hwindow]
          simp [textsOf, joined]
        left
        rw [hmatched, htext, readNumber_fold_lowercase]

/-- Matched slots have their stretches in the normalized text, or in the text as given. -/
theorem exists_capture_of_matchText (h : Compiled spec lex₀ us i) (hmatch : i.matchText u = some c) :
    (∃ ss, List.Forall₂ (fun name s => Spans u.text.toList.toArray (nodeOf spec name) s.1 s.2)
        (slotNames us) ss ∧
      c = i.capture ss fun s =>
        (u.originalSpan (byteSpan u.text.toList s)).getD (String.ofList (stretch u.text.toList s))) ∨
    ∃ ss, List.Forall₂ (fun name s => Spans (trim u.original).toList.toArray (nodeOf spec name) s.1 s.2)
        (slotNames us) ss ∧
      c = i.capture ss fun s => String.ofList (stretch (trim u.original).toList s) := by
  unfold matchText at hmatch
  dsimp only at hmatch
  split at hmatch
  · rename_i ss hsearch
    obtain ⟨optional, -, hpieces⟩ := h.normalizedPieces
    have hss := forall₂_of_covers (hpieces ▸ covers_of_search hsearch)
    rw [slotNames_normalUnits] at hss
    exact .inl ⟨ss, hss, (Option.some.inj hmatch).symm⟩
  · split at hmatch
    · cases hmatch
    · obtain ⟨ss, hsearch, rfl⟩ := Option.map_eq_some_iff.1 hmatch
      exact .inr ⟨ss, forall₂_of_covers (h.pieces ▸ covers_of_search hsearch), rfl⟩

/-- A slot of a spec with the pattern of numbers and their reading. -/
structure IsNumber (p : SlotPattern) : Prop where
  kind : p.slot.kind = .number
  pattern : p.slot.pattern = none
  reader : p.slot.reader = none

theorem exists_number_of_matchText (h : Compiled spec lex₀ us i) (hp : p ∈ i.slots)
    (hnode : p.node = kindPattern .number)
    (hmatch : i.matchText (normalize lex locale input) = some c) :
    ∃ m v, c.get? p.name = some v ∧ p.accepts m ∧ KeepsNumber (normalize lex locale input) m v := by
  have haccepts {l : List Char} {s : Nat × Nat}
      (hspans : Spans l.toArray (kindPattern .number) s.1 s.2) : p.accepts (String.ofList (stretch l s)) := by
    rw [SlotPattern.accepts, hnode]
    exact fits_of_spans hspans
  rcases exists_capture_of_matchText h hmatch with ⟨ss, hss, rfl⟩ | ⟨ss, hss, rfl⟩
  · obtain ⟨s, hspans, hget⟩ := exists_get?_capture h hss _ hp
    rw [hnode] at hspans
    exact ⟨_, _, hget, haccepts hspans, keepsNumber_normalized hspans⟩
  · obtain ⟨s, hspans, hget⟩ := exists_get?_capture h hss _ hp
    rw [hnode] at hspans
    exact ⟨_, _, hget, haccepts hspans, keepsNumber_stretch hspans⟩

theorem mem_keys_extractPayload_iff (hnames : (i.slots.map SlotPattern.name).Nodup) (hp : p ∈ i.slots)
    (hv : c.get? p.name = some v) (context : Slot.Context) :
    p.name ∈ (extractPayload i c context).keys ↔ (p.slot.read context v).isSome := by
  have hextracted := extracted_extractPayload hnames context c p.name
  rw [OrderedMap.mem_keys_iff, Option.isSome_iff_exists]
  constructor
  · rintro ⟨value, hvalue⟩
    obtain ⟨q, hq, hname, raw, hraw, hread⟩ := (hextracted value).1 hvalue
    obtain rfl : q = p := List.inj_on_of_nodup_map hnames hq hp hname
    obtain rfl := Option.some.inj (hv.symm.trans hraw)
    exact ⟨value, hread⟩
  · rintro ⟨value, hvalue⟩
    exact ⟨value, (hextracted value).2 ⟨p, hp, rfl, v, hv, hvalue⟩⟩

/-- Of the texts that the pattern of numbers accepts those are read that have a number. A match brings the
number to the payload if it is read of the text that is told, and so, but for words that normalizing does
not keep, if it is read of the text that was matched. -/
theorem numbers_extractPayload (h : compile spec phrase kind locale lex₀ = .ok i) (hp : p ∈ i.slots)
    (hnumber : IsNumber p) :
    (∀ s, p.accepts s → ((readNumber s).isSome ↔ HasNumber s)) ∧
      ∀ lex locale' input c, i.matchText (normalize lex locale' input) = some c →
        ∃ m v, c.get? p.name = some v ∧ p.accepts m ∧ KeepsNumber (normalize lex locale' input) m v ∧
          ∀ context, p.name ∈ (extractPayload i c context).keys ↔ (readNumber v).isSome := by
  obtain ⟨us, -, -, -, hcompiled⟩ := compiled_of_compile h
  obtain ⟨hslot, hnode⟩ := mem_slotsOf (hcompiled.slots ▸ hp)
  rw [nodeOf_of_default hslot hnumber.pattern, hnumber.kind] at hnode
  constructor
  · intro s hs
    rw [SlotPattern.accepts, hnode] at hs
    exact isSome_readNumber_of_fits hs
  · intro lex locale' input c hmatch
    obtain ⟨m, v, hv, hm, hkeeps⟩ := exists_number_of_matchText hcompiled hp hnode hmatch
    refine ⟨m, v, hv, hm, hkeeps, fun context => ?_⟩
    rw [mem_keys_extractPayload_iff (nodup_names_of_compile h) hp hv, Slot.read, hnumber.reader, hnumber.kind]
    exact iff_of_eq (congrArg (· = true) Option.isSome_map)

/-- A number that is told with punctuation behind it reaches the payload. -/
theorem numbers_extractPayload_fortyTwo :
    ∃ i p, compile (.spoken "borra {n}" [("n", .number)]) "borra {n}" .canonical "es" {} = .ok i ∧
      p ∈ i.slots ∧ IsNumber p ∧ HasNumber "42" ∧
      ∃ c, i.matchText (normalize {} "es" "¡Borra 42!") = some c ∧
        ∀ context, p.name ∈ (extractPayload i c context).keys := by
  obtain ⟨i, hcompile, p, hp, ⟨hkind, hpattern, hreader⟩, haccepts, c, hmatch, hget⟩ :
      ∃ i ∈ (compile (.spoken "borra {n}" [("n", .number)]) "borra {n}" .canonical "es" {}).toOption,
      ∃ p ∈ i.slots, (p.slot.kind = .number ∧ p.slot.pattern = none ∧ p.slot.reader.isNone) ∧
        p.accepts "42" ∧
      ∃ c ∈ i.matchText (normalize {} "es" "¡Borra 42!"), c.get? p.name = some "42" := by
    decide +kernel
  have hcompile := eq_ok_of_mem_toOption hcompile
  have hnumber : IsNumber p := ⟨hkind, hpattern, by simpa using hreader⟩
  have hread : (readNumber "42").isSome := by decide +kernel
  obtain ⟨hnumbers, hmatches⟩ := numbers_extractPayload hcompile hp hnumber
  refine ⟨i, p, hcompile, hp, hnumber, (hnumbers "42" haccepts).1 hread, c, hmatch, fun context => ?_⟩
  obtain ⟨m, v, hv, -, -, hkeys⟩ := hmatches {} "es" "¡Borra 42!" c hmatch
  obtain rfl := Option.some.inj (hget.symm.trans hv)
  exact (hkeys context).2 hread

/-- A number in other digits is accepted and matched, and one of too many digits accepted, but neither is
read; and a number that only the lexicon made one does not reach the payload. -/
theorem exists_number_not_mem_keys :
    (∃ i ∈ (compile (.spoken "borra {n}" [("n", .number)]) "borra {n}" .canonical "es" {}).toOption,
      ∃ p ∈ i.slots, (p.slot.kind = .number ∧ p.slot.pattern = none ∧ p.slot.reader.isNone) ∧
        (p.accepts "\u0663" ∧ readNumber "\u0663" = none) ∧
        (∃ c ∈ i.matchText (normalize {} "es" "borra \u0663"),
          p.name ∉ (extractPayload i c ⟨"es", ⟨2024, 5, 10, by decide⟩⟩).keys) ∧
        ∃ c ∈ i.matchText (normalize (Lexicon.empty.register "es" "dos" "2") "es" "borra dos"),
          p.name ∉ (extractPayload i c ⟨"es", ⟨2024, 5, 10, by decide⟩⟩).keys) ∧
      (kindPattern .number).fits (String.ofList (List.replicate 309 '9')) ∧
        readNumber (String.ofList (List.replicate 309 '9')) = none := by
  refine ⟨by decide +kernel, fits_digits (List.cons_ne_nil _ _) fun c hc => ?_, ?_⟩
  · rw [List.eq_of_mem_replicate hc]
    decide +kernel
  · rw [readNumber, String.toList_ofList]
    decide +kernel

end Parlance.Ranking
