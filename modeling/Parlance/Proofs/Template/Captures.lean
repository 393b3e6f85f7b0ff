import Mathlib.Data.List.Forall2
import Parlance.Proofs.Template.Accepted
import Parlance.Proofs.Template.Faithful

/-!
Captured values and the slots they are captured for. Main statement: `accepts_of_matchText`, that a match
has a value for each slot and no other, and which values the patterns of the slots accept: all that are
matched, and of those that are told in the spelling of the utterance the ones that have no characters in
them which normalizing passes over.
-/

namespace Parlance

open Pattern Unicode Text Intent

namespace Pattern

variable {t : Array Char} {i : Nat} {ps : List Piece} {ss : List (Nat × Nat)}

/-- The patterns of the slots among pieces. -/
def Piece.slotNodes (ps : List Piece) : List Node :=
  ps.filterMap fun p =>
    match p with
    | .fixed _ => none
    | .slot a => some a

theorem Covers.forall₂ (h : Covers t ps i ss) :
    List.Forall₂ (fun a s => Spans t a s.1 s.2) (Piece.slotNodes ps) ss := by
  induction h with
  | nil => exact .nil
  | fixed _ _ ih => exact ih
  | slot ha _ ih => exact .cons ha ih

end Pattern

namespace Template

variable {spec : Spec} {lex : Lexicon} {locale : String} {us : List Unit} {kind : Slot.Kind}

theorem slotNodes_layout (spec : Spec) (optional : String → Bool) (leading : Bool) (us : List Unit) :
    Piece.slotNodes (layout leading (us.map (elementOf spec optional))) =
      (slotNames us).map (nodeOf spec) := by
  induction us generalizing leading with
  | nil => rfl
  | cons u us ih =>
    obtain ⟨part, space⟩ := u
    rw [List.map_cons, layout]
    cases part with
    | word text =>
      -- a word is a fixed piece wherever it stands and whether it may be left out or not
      have hnames : slotNames (⟨.word text, space⟩ :: us) = slotNames us := rfl
      rw [hnames]
      split
      · split
        · exact ih true
        · exact ih false
      · split
        · exact ih false
        · exact ih false
    | slot name =>
      have hnames : slotNames (⟨.slot name, space⟩ :: us) = name :: slotNames us := rfl
      rw [hnames, List.map_cons, ← ih false]
      cases leading <;> rfl

/-! Values in the spelling of an utterance. -/

/-- Characters that normalizing passes over: those between words, and combining marks. -/
def isPassedOver (c : Char) : Bool :=
  isGapChar c || isMark c

theorem mem_joined {ts : List Token} {t : Token} (ht : t ∈ ts) (length : Nat) :
    ∀ c ∈ t.text.toList, c ∈ joined length (textsOf ts) := by
  induction ts generalizing length with
  | nil => cases ht
  | cons u ts ih =>
    intro c hc
    rw [textsOf, List.map_cons, joined]
    rcases List.mem_cons.1 ht with rfl | ht
    · exact List.mem_append_left _ (List.mem_append_right _ hc)
    · exact List.mem_append_right _ (ih ht _ c hc)

variable {ts rest : List Token} {t : Token} {y l : List Char} {n : Nat}

/-- Characters of a kind, and marks, are what words are spelled with whose normalized forms fit the kind. -/
theorem forall_of_spelled (hkind : ¬kind.IsFree) (hts : ∀ t ∈ ts, ¬t.substituted)
    (htexts : ∀ t ∈ ts, ∀ c ∈ t.text.toList, kind.admits c) (h : Spelled lex locale ts l)
    (hpassed : ∀ c ∈ l, isPassedOver c → kind.admits c) : ∀ c ∈ l, kind.admits c := by
  obtain ⟨bits, hreflected⟩ := reflected_admits hkind
  refine h.forall_of_words (fun c hc hgap => hpassed c hc (by simp [isPassedOver, hgap]))
    fun t ht core hcore hsub c hc => ?_
  have htext := htexts t ht
  rw [hcore.text (hts t ht)] at htext
  have hspelled : kind.admits c || isMark c :=
    hreflected.of_fold_lowercase (s := String.ofList core)
      (fun d hd => by simp [htext d hd]) c (by simpa using hc)
  rcases Bool.or_eq_true _ _ ▸ hspelled with hc' | hmark
  · exact hc'
  · exact hpassed c (hsub c hc) (by simp [isPassedOver, hmark])

theorem not_isWhiteSpace_of_admits_number {c : Char} (h : Slot.Kind.number.admits c) :
    ¬isWhiteSpace c := by
  simp only [Slot.Kind.admits, Bool.or_eq_true, decide_eq_true_eq] at h
  rcases h with ((hdigit | rfl) | rfl) | rfl
  · simpa using solidClasses.digit c hdigit
  · decide
  · decide
  · decide

/-- A number is spelled as it is matched. -/
theorem eq_of_spelled_number (hts : ∀ t ∈ ts, ¬t.substituted) (h : Spelled lex locale ts l)
    (hall : ∀ c ∈ l, Slot.Kind.number.admits c) : ∃ t, ts = [t] ∧ t.text = String.ofList l := by
  have hbits : ∀ c ∈ l, numberBits.testBit c.toNat := fun c hc => (testBit_numberBits c).2 (hall c hc)
  obtain ⟨t, rfl, hspells⟩ := h.exists_spells fun c hc =>
    not_isWhiteSpace_of_admits_number (hall c hc)
  refine ⟨t, rfl, ?_⟩
  rw [hspells.text (hts t List.mem_cons_self)]
  exact kindChecks.fixed.fold_lowercase (by simpa using hbits)

/-- A kind accepts what a text that fits it is spelled with, if all that normalizing passes over are
characters of the kind; a free one whatever the lexicon made of the words. -/
theorem fits_iff_of_spelled (hfits : (kindPattern kind).fits (String.ofList y))
    (hy : y = t.text.toList ++ joined n (textsOf rest)) (h : Spelled lex locale (t :: rest) l)
    (hkind : kind.IsFree ∨ ∀ u ∈ t :: rest, ¬u.substituted) :
    (kindPattern kind).fits (String.ofList l) ↔ ∀ c ∈ l, isPassedOver c → kind.admits c := by
  refine ⟨fun hl c hc _ => admits_of_fits hl c (by simpa using hc), fun hpassed => ?_⟩
  by_cases hfree : kind.IsFree
  · have hall : ∀ c ∈ l, c ≠ '\n' := by
      rintro c hc rfl
      have hbreak := hpassed _ hc (by decide)
      rcases hfree with rfl | rfl <;> cases hbreak
    rcases hfree with rfl | rfl <;> exact fits_plus h.ne_nil (by simpa using hall)
  · have hts := hkind.resolve_left hfree
    have hadmits : ∀ c ∈ y, kind.admits c := by simpa using admits_of_fits hfits
    have htexts : ∀ u ∈ t :: rest, ∀ c ∈ u.text.toList, kind.admits c := by
      intro u hu c hc
      apply hadmits
      rw [hy]
      rcases List.mem_cons.1 hu with rfl | hu
      · exact List.mem_append_left _ hc
      · exact List.mem_append_right _ (mem_joined hu n c hc)
    have hall := forall_of_spelled hfree hts htexts h hpassed
    by_cases hnumber : kind = .number
    · subst hnumber
      obtain ⟨u, hwindow, htext⟩ := eq_of_spelled_number hts h hall
      obtain ⟨rfl, rfl⟩ := List.cons.inj hwindow
      have hmatched : y = l := by simpa [htext, textsOf, joined] using hy
      exact hmatched ▸ hfits
    · exact fits_of_admits hnumber h.ne_nil hall h.head_solid h.last_solid

/-- What a pattern accepts it accepts without the blanks around, unless nothing is left. -/
theorem fits_trim_iff {m : String} (hfits : (kindPattern kind).fits m) :
    (kindPattern kind).fits (trim m) ↔ trim m ≠ "" := by
  refine ⟨ne_empty_of_fits, fun hne => ?_⟩
  by_cases hfree : kind.IsFree
  · have hall : ∀ c ∈ (trim m).toList, c ≠ '\n' := by
      intro c hc
      obtain ⟨b, hm, -⟩ := exists_trimList isWhiteSpace m.toList
      rw [toList_trim] at hc
      have hmem : c ∈ m.toList := hm ▸ List.mem_append_left _ (List.mem_append_right _ hc)
      have hadmits := admits_of_fits hfits c hmem
      rcases hfree with rfl | rfl <;> simpa [Slot.Kind.admits] using hadmits
    have hne : (trim m).toList ≠ [] := String.toList_eq_nil_iff.not.2 hne
    have hplus := fits_plus (p := (· ≠ '\n')) hne (by simpa using hall)
    rw [String.ofList_toList] at hplus
    rcases hfree with rfl | rfl <;> exact hplus
  · rwa [trim_of_fits hfits (startsIn_kindPattern hfree) (endsIn_kindPattern hfree)]

end Template

namespace Intent

open Template

variable {spec : Spec} {lex lex₀ : Lexicon} {i : Intent} {us units : List Template.Unit}
  {phrase locale input : String} {kind : PhraseKind} {c : Captures} {p : SlotPattern} {t : Array Char}
  {l : List Char} {ss : List (Nat × Nat)} {s : Nat × Nat}

/-! Stretches of slots. -/

theorem forall₂_of_covers {optional : String → Bool}
    (h : Covers t (Template.pieces (units.map (elementOf spec optional))) 0 ss) :
    List.Forall₂ (fun name s => Spans t (nodeOf spec name) s.1 s.2) (slotNames units) ss := by
  have hslots := h.forall₂
  have hblanks : Piece.slotNodes (Template.pieces (units.map (elementOf spec optional))) =
      Piece.slotNodes (layout true (units.map (elementOf spec optional))) := rfl
  rwa [hblanks, slotNodes_layout, List.forall₂_map_left_iff] at hslots

theorem mem_keys_capture (h : Compiled spec lex us i) (hlength : (slotNames us).length = ss.length)
    (text : Nat × Nat → String) {k : String} : k ∈ (i.capture ss text).keys ↔ k ∈ slotNames us := by
  rw [capture_eq h, OrderedMap.mem_keys_ofList, List.map_map]
  exact iff_of_eq (congrArg (k ∈ ·) (List.map_fst_zip hlength.le))

theorem exists_get?_capture (h : Compiled spec lex us i)
    (hss : List.Forall₂ (fun name s => Spans t (nodeOf spec name) s.1 s.2) (slotNames us) ss)
    (text : Nat × Nat → String) (hp : p ∈ i.slots) :
    ∃ s, Spans t p.node s.1 s.2 ∧ (i.capture ss text).get? p.name = some (trim (text s)) := by
  have hname : p.name ∈ slotNames us := h.names ▸ List.mem_map_of_mem hp
  have hzip : ((slotNames us).zip ss).map Prod.fst = slotNames us := List.map_fst_zip hss.length_eq.le
  obtain ⟨⟨name, s⟩, hs, hname⟩ := List.mem_map.1 (hzip ▸ hname)
  obtain rfl : name = p.name := hname
  refine ⟨s, ?_, get?_capture h text hs⟩
  rw [(mem_slotsOf (h.slots ▸ hp)).2]
  exact List.forall₂_zip hss hs

theorem infix_stretch (l : List Char) (s : Nat × Nat) : stretch l s <:+: l :=
  (List.take_prefix _ _).isInfix.trans (List.drop_suffix _ _).isInfix

theorem Compiled.node_eq (h : Compiled spec lex us i) (hdefault : i.HasDefaultSlots) (hp : p ∈ i.slots) :
    p.node = kindPattern p.slot.kind := by
  obtain ⟨hslot, hnode⟩ := mem_slotsOf (h.slots ▸ hp)
  rw [hnode, nodeOf_of_default hslot (hdefault p hp)]

theorem fits_of_spans {kind : Slot.Kind} (h : Spans l.toArray (kindPattern kind) s.1 s.2) :
    (kindPattern kind).fits (String.ofList (stretch l s)) := by
  have hlt := h.lt (moves_kindPattern kind)
  exact fits_stretch h (plain_kindPattern kind) (by simpa using h.le_size.resolve_left hlt.ne)

/-! Values. -/

/-- A value is a stretch of a normalized text, or of the utterance, without the blanks around it. -/
structure AsMatched (u : Normalized) (m v : String) : Prop where
  stretch : m.toList <:+: u.text.toList ∨ m.toList <:+: (trim u.original).toList
  value : v = trim m

/-- The value `v` of a slot comes from a text `m` that its pattern matched: as matched, and then the pattern
accepts it if anything is left; or in the spelling of the utterance, and then the pattern accepts it if it
has the characters which normalizing passes over, provided the lexicon left the words alone. -/
def Yields (u : Normalized) (p : SlotPattern) (m v : String) : Prop :=
  AsMatched u m v ∧ (p.accepts v ↔ v ≠ "") ∨
    ∃ window, MapsBack u window m v ∧ ((p.slot.kind.IsFree ∨ ∀ t ∈ window, ¬t.substituted) →
      (p.accepts v ↔ ∀ c ∈ v.toList, isPassedOver c → p.slot.kind.admits c))

theorem yields_stretch {u : Normalized} (hnode : p.node = kindPattern p.slot.kind)
    (hspans : Spans l.toArray p.node s.1 s.2)
    (hl : l = u.text.toList ∨ l = (trim u.original).toList) :
    Yields u p (String.ofList (stretch l s)) (trim (String.ofList (stretch l s))) := by
  have hinfix := infix_stretch l s
  rw [hnode] at hspans
  refine .inl ⟨⟨?_, rfl⟩, ?_⟩
  · rw [String.toList_ofList]
    rcases hl with rfl | rfl
    · exact .inl hinfix
    · exact .inr hinfix
  · rw [SlotPattern.accepts, hnode]
    exact fits_trim_iff (fits_of_spans hspans)

/-- What a pattern matched is made of the words of tokens, if the text as given is told for it. -/
theorem exists_mapsBack_of_spans {a : Node} (ha : a.Moves)
    (hspans : Spans (normalize lex locale input).text.toList.toArray a s.1 s.2) {v : String}
    (hv : (normalize lex locale input).originalSpan
      (byteSpan (normalize lex locale input).text.toList s) = some v) :
    trim v = v ∧ ∃ t rest, MapsBack (normalize lex locale input) (t :: rest)
        (String.ofList (stretch (normalize lex locale input).text.toList s)) v ∧
      stretch (normalize lex locale input).text.toList s =
        t.text.toList ++ joined (t.normalized.start + byteLength t.text.toList) (textsOf rest) ∧
      Spelled lex locale (t :: rest) v.toList := by
  generalize hu : normalize lex locale input = u at hspans hv
  have hlt := hspans.lt ha
  have hsize : s.2 ≤ u.text.toList.length := by simpa using hspans.le_size.resolve_left hlt.ne
  have hne : stretch u.text.toList s ≠ [] := by
    rw [← List.length_pos_iff, length_stretch hsize]
    omega
  have htake : u.text.toList.take s.2 = u.text.toList.take s.1 ++ stretch u.text.toList s :=
    take_eq_stretch _ hspans.le
  have htext : u.text.toList =
      u.text.toList.take s.1 ++ stretch u.text.toList s ++ u.text.toList.drop s.2 := by
    rw [← htake, List.take_append_drop]
  rw [byteSpan, htake] at hv
  subst hu
  obtain ⟨t, rest, hmaps, hwindow, hspelled⟩ := exists_mapsBack hne htext hv
  refine ⟨?_, t, rest, hmaps, hwindow, hspelled⟩
  apply String.toList_injective
  rw [toList_trim, trimList_eq_self hspelled.head_solid hspelled.last_solid]

theorem yields_normalized (hnode : p.node = kindPattern p.slot.kind)
    (hspans : Spans (normalize lex locale input).text.toList.toArray p.node s.1 s.2) :
    Yields (normalize lex locale input) p
      (String.ofList (stretch (normalize lex locale input).text.toList s))
      (trim (((normalize lex locale input).originalSpan
        (byteSpan (normalize lex locale input).text.toList s)).getD
          (String.ofList (stretch (normalize lex locale input).text.toList s)))) := by
  cases hv : (normalize lex locale input).originalSpan _ with
  | none =>
    rw [Option.getD_none]
    exact yields_stretch hnode hspans (.inl rfl)
  | some v =>
    have hmoves : p.node.Moves := hnode ▸ moves_kindPattern _
    obtain ⟨htrim, t, rest, hmaps, hwindow, hspelled⟩ := exists_mapsBack_of_spans hmoves hspans hv
    rw [Option.getD_some, htrim]
    refine .inr ⟨t :: rest, hmaps, fun hkind => ?_⟩
    rw [SlotPattern.accepts, hnode, ← String.ofList_toList (s := v)]
    have hfits := fits_of_spans (hnode ▸ hspans)
    simpa using fits_iff_of_spelled hfits hwindow hspelled hkind

/-- Captured stretches yield a value for each slot and no other, if their texts do. -/
theorem yields_capture {u : Normalized} {text : Nat × Nat → String} (h : Compiled spec lex us i)
    (hdefault : i.HasDefaultSlots)
    (hss : List.Forall₂ (fun name s => Spans l.toArray (nodeOf spec name) s.1 s.2) (slotNames us) ss)
    (hyields : ∀ p s, p.node = kindPattern p.slot.kind → Spans l.toArray p.node s.1 s.2 →
      Yields u p (String.ofList (stretch l s)) (trim (text s))) :
    (∀ k, k ∈ (i.capture ss text).keys ↔ k ∈ slotNames us) ∧
      ∀ p ∈ i.slots, ∃ m v, (i.capture ss text).get? p.name = some v ∧ p.accepts m ∧ Yields u p m v := by
  refine ⟨fun k => mem_keys_capture h hss.length_eq text, fun p hp => ?_⟩
  have hnode := h.node_eq hdefault hp
  obtain ⟨s, hspans, hget⟩ := exists_get?_capture h hss text hp
  refine ⟨_, _, hget, ?_, hyields p s hnode hspans⟩
  rw [SlotPattern.accepts, hnode]
  exact fits_of_spans (hnode ▸ hspans)

/-- A match has a value for each slot and no other. What the slot's pattern matched it accepts, and the
value comes from that. -/
theorem accepts_of_matchText (h : compile spec phrase kind locale lex₀ = .ok i)
    (hparse : Template.parse phrase = .ok us) (hdefault : i.HasDefaultSlots)
    (hmatch : i.matchText (normalize lex i.locale input) = some c) :
    (∀ k, k ∈ c.keys ↔ k ∈ slotNames us) ∧ i.slots.map SlotPattern.name = slotNames us ∧
      ∀ p ∈ i.slots, ∃ m v, c.get? p.name = some v ∧ p.accepts m ∧
        Yields (normalize lex i.locale input) p m v := by
  obtain ⟨us', hparse', -, rfl, hcompiled⟩ := compiled_of_compile h
  obtain rfl : us = us' := Except.ok.inj (hparse.symm.trans hparse')
  refine and_left_comm.2 ⟨hcompiled.names, ?_⟩
  unfold matchText at hmatch
  dsimp only at hmatch
  split at hmatch
  · rename_i ss hsearch
    obtain rfl := Option.some.inj hmatch
    obtain ⟨optional, -, hpieces⟩ := hcompiled.normalizedPieces
    have hss := forall₂_of_covers (hpieces ▸ covers_of_search hsearch)
    rw [slotNames_normalUnits] at hss
    exact yields_capture hcompiled hdefault hss fun p s hnode hspans => yields_normalized hnode hspans
  · split at hmatch
    · cases hmatch
    · obtain ⟨ss, hsearch, rfl⟩ := Option.map_eq_some_iff.1 hmatch
      have hss := forall₂_of_covers (hcompiled.pieces ▸ covers_of_search hsearch)
      exact yields_capture hcompiled hdefault hss fun p s hnode hspans =>
        yields_stretch hnode hspans (.inr rfl)

/-- A range of three words, with punctuation around it in the utterance. -/
theorem accepts_of_matchText_range :
    ∃ i us c, compile (.spoken "pon \x7br\x7d" [("r", .range)]) "pon \x7br\x7d" .canonical "es" {} = .ok i ∧
      Template.parse "pon \x7br\x7d" = .ok us ∧ i.HasDefaultSlots ∧
      i.matchText (normalize {} i.locale "¡Pon, 10 A 20!") = some c ∧ c.get? "r" = some "10 A 20" ∧
      c.keys = ["r"] ∧ ∀ p ∈ i.slots, ∃ v, c.get? p.name = some v ∧ p.accepts v := by
  obtain ⟨us, hparse, i, hcompile, hdefault, hslots, hlexicon, c, hmatch, hkeys, hget⟩ :
      ∃ us ∈ (Template.parse "pon \x7br\x7d").toOption,
      ∃ i ∈ (compile (.spoken "pon \x7br\x7d" [("r", .range)]) "pon \x7br\x7d" .canonical "es"
        {}).toOption, i.HasDefaultSlots ∧
      (∀ p ∈ i.slots, p.name = "r" ∧ p.slot.kind = .range) ∧
      (∀ t ∈ (normalize {} i.locale "¡Pon, 10 A 20!").tokens, ¬t.substituted) ∧
      ∃ c ∈ i.matchText (normalize {} i.locale "¡Pon, 10 A 20!"), c.keys = ["r"] ∧
        c.get? "r" = some "10 A 20" := by
    decide +kernel
  have hcompile := eq_ok_of_mem_toOption hcompile
  have hparse := eq_ok_of_mem_toOption hparse
  refine ⟨i, us, c, hcompile, hparse, hdefault, hmatch, hget, hkeys, fun p hp => ?_⟩
  obtain ⟨hname, hkind⟩ := hslots p hp
  obtain ⟨-, -, hvalues⟩ := accepts_of_matchText hcompile hparse hdefault hmatch
  obtain ⟨m, v, hv, -, hyields⟩ := hvalues p hp
  refine ⟨v, hv, ?_⟩
  rw [hname, hget] at hv
  obtain rfl := Option.some.inj hv
  rcases hyields with ⟨-, hiff⟩ | ⟨window, hmaps, hiff⟩
  · exact hiff.2 (by decide)
  · refine (hiff (.inr fun t ht => hlexicon t (hmaps.inside.subset ht))).2 ?_
    have hall : "10 A 20".toList.all fun d => !isPassedOver d || Slot.Kind.range.admits d := by
      decide +kernel
    intro d hd hpassed
    simpa [hkind, hpassed] using List.all_eq_true.1 hall d hd

/-- An utterance that a phrase of a spec matches although a slot's pattern does not accept the value. -/
def Misfits (spec : Spec) (phrase : String) (lex : Lexicon) (input : String) : Prop :=
  ∃ i ∈ (compile spec phrase .canonical "es" lex).toOption, i.HasDefaultSlots ∧
    ∃ c ∈ i.matchText (normalize lex i.locale input), ∃ p ∈ i.slots, ∃ v ∈ c.get? p.name, ¬p.accepts v

instance (spec : Spec) (phrase : String) (lex : Lexicon) (input : String) :
    Decidable (Misfits spec phrase lex input) :=
  inferInstanceAs (Decidable (∃ i ∈ (compile spec phrase .canonical "es" lex).toOption,
    i.HasDefaultSlots ∧ ∃ c ∈ i.matchText (normalize lex i.locale input), ∃ p ∈ i.slots,
      ∃ v ∈ c.get? p.name, ¬p.accepts v))

/-- Values do not fit their slots where the lexicon knows a word for them; where punctuation, a line break or
a mark is told that the pattern never saw; and where nothing but a blank was matched. -/
theorem exists_misfits :
    Misfits (.spoken "borra \x7bn\x7d" [("n", .number)]) "borra \x7bn\x7d"
      (Lexicon.empty.register "es" "dos" "2") "borra dos" ∧
    Misfits (.spoken "pon \x7br\x7d" [("r", .range)]) "pon \x7br\x7d" {} "pon 10! 20" ∧
    Misfits (.spoken "di \x7bx\x7d" [("x", .text)]) "di \x7bx\x7d" {} "di a\nb" ∧
    Misfits (.spoken "pon \x7bn\x7d" [("n", .number)]) "pon \x7bn\x7d" {} "pon 4\u0301" ∧
    Misfits (.spoken "a\x7bx\x7db" [("x", .text)]) "a\x7bx\x7db" {} "a b" := by
  decide +kernel

end Intent

end Parlance
