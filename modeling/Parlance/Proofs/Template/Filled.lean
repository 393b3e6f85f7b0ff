import Parlance.Proofs.Template.Layout
import Parlance.Proofs.Template.Parsing

/-!
Templates filled in with texts that their slots accept. Main statement: `matchText_fill_eq_none_iff`,
that such a text is lost only where it is its own normalized form and the normalized pattern fails.
-/

namespace Parlance

open Pattern Unicode Text

/-- A spec with one phrase, and slots with the patterns of their kinds. -/
def Spec.spoken (phrase : String) (slots : List (String × Slot.Kind)) : Spec where
  name := "spoken"
  action := .typed "spoken" none
  phrases := .ofList [("es", { canonical := [phrase] })]
  slots := slots.map fun s => { name := s.1, kind := s.2 }

/-- A time of day, of two numbers with a colon between. -/
def Spec.clock : Spec :=
  .spoken "\x7bh\x7d:\x7bm\x7d" [("h", .number), ("m", .number)]

namespace Template

/-! Patterns and the texts they are made of. -/

theorem spans_between {a : Node} {l : List Char} (h : Spans l.toArray a 0 l.length) (ha : a.Plain)
    (before after : List Char) :
    Spans (before ++ l ++ after).toArray a before.length (before ++ l).length := by
  simpa using h.embed ha before after

theorem spans_behind {a : Node} {l : List Char} (h : Spans l.toArray a 0 l.length) (ha : a.Plain)
    (c : Char) : Spans (c :: l).toArray a 1 (c :: l).length := by
  simpa using spans_between h ha [c] []

theorem spans_plus {p : Char → Bool} {greedy : Bool} {b : List Char} (hne : b ≠ [])
    (h : ∀ c ∈ b, p c) : Spans b.toArray (.plus greedy (.one p)) 0 b.length := by
  induction b with
  | nil => exact absurd rfl hne
  | cons c b ih =>
    obtain ⟨hc, hb⟩ := List.forall_mem_cons.1 h
    have hfirst : Spans (c :: b).toArray (.one p) 0 1 := .one (by simp) hc
    cases b with
    | nil => exact .once hfirst
    | cons d b => exact .more hfirst (spans_behind (ih (by simp) hb) trivial c)

theorem plain_literal (l : List Char) : (Node.all (l.map fun c => .one (CharSet.letter c))).Plain := by
  induction l with
  | nil => trivial
  | cons c l ih =>
    cases l with
    | nil => trivial
    | cons d l => exact ⟨trivial, ih⟩

/-- The letters of a word match it in any case. -/
theorem spans_letters {x y : List Char} (h : x.map simpleFold = y.map simpleFold) :
    Spans x.toArray (.all (y.map fun c => .one (CharSet.letter c))) 0 x.length := by
  induction x generalizing y with
  | nil =>
    obtain rfl : y = [] := by simpa using h.symm
    exact .empty
  | cons c x ih =>
    cases y with
    | nil => cases h
    | cons d y =>
      obtain ⟨hcd, hxy⟩ := List.cons.inj h
      have hfirst : Spans (c :: x).toArray (.one (CharSet.letter d)) 0 1 :=
        .one (c := c) (by simp) (by simpa [CharSet.letter] using hcd)
      exact spans_all_cons.2 ⟨1, hfirst, spans_behind (ih hxy) (plain_literal y) c⟩

theorem spans_gapIf {b : List Char} (h : ∀ c ∈ b, isWhiteSpace c) (before after : List Char) :
    Spans (before ++ b ++ after).toArray (gapIf !b.isEmpty) before.length (before ++ b).length := by
  cases b with
  | nil =>
    rw [List.append_nil]
    exact .empty
  | cons c b => exact spans_between (spans_plus (by simp) h) trivial before after

theorem spans_blanks {b : List Char} (h : ∀ c ∈ b, isWhiteSpace c) (before after : List Char) :
    Spans (before ++ b ++ after).toArray blanks before.length (before ++ b).length := by
  cases b with
  | nil =>
    rw [List.append_nil]
    exact .skip
  | cons c b => exact .take (spans_between (spans_plus (by simp) h) trivial before after)

theorem plain_kindPattern (kind : Slot.Kind) : (kindPattern kind).Plain := by
  cases kind <;> simp [kindPattern, Node.Plain, digits, Node.star, gap, blank]

theorem moves_kindPattern (kind : Slot.Kind) : (kindPattern kind).Moves := by
  cases kind <;> simp [kindPattern, Node.Moves, digits]

/-! Texts that fit. -/

/-- Each slot of units has a pattern that fits the text for it. -/
def Fit (spec : Spec) (f : String → String) (us : List Unit) : Prop :=
  ∀ name ∈ slotNames us, (nodeOf spec name).Plain ∧ (nodeOf spec name).fits (f name)

variable {spec : Spec} {f : String → String} {us : List Unit} {l : List Char}

theorem Fit.tail {u : Unit} (h : Fit spec f (u :: us)) : Fit spec f us := by
  intro name hname
  refine h name ?_
  rw [slotNames, List.filterMap_cons]
  split
  · exact hname
  · exact List.mem_cons_of_mem _ hname

/-- The piece of a unit covers what is written of it, and the rest is covered as before. -/
theorem covers_written {u : Unit} (hfit : Fit spec f (u :: us)) {before after : List Char}
    {ps : List Piece} {ss : List (Nat × Nat)}
    (h : Covers (before ++ u.part.written f ++ after).toArray ps
      (before ++ u.part.written f).length ss) :
    ∃ ss, Covers (before ++ u.part.written f ++ after).toArray ((elementOf spec never u).piece :: ps)
      before.length ss := by
  obtain ⟨part, space⟩ := u
  cases part with
  | word text =>
    exact ⟨ss, .fixed (spans_between (spans_letters rfl) (plain_literal _) before after) h⟩
  | slot name =>
    obtain ⟨hplain, hfits⟩ := hfit name (by simp [slotNames])
    exact ⟨_, .slot (spans_between (fits_iff.1 hfits) hplain before after) h⟩

theorem layout_never (leading : Bool) (u : Unit) (us : List Unit) :
    layout leading ((u :: us).map (elementOf spec never)) =
      (if leading then [] else [.fixed (gapIf u.spaceBefore)]) ++
        (elementOf spec never u).piece :: layout false (us.map (elementOf spec never)) := by
  obtain ⟨part, space⟩ := u
  cases part <;> cases leading <;> rfl

theorem covers_of_laid_behind (hfit : Fit spec f us) (h : Laid f false false us l)
    (before : List Char) :
    ∃ ss, Covers (before ++ l).toArray (layout false (us.map (elementOf spec never)))
      before.length ss := by
  induction us generalizing l before with
  | nil =>
    cases h with
    | nil hb =>
      have hblanks := spans_blanks hb before []
      rw [List.append_nil] at hblanks
      exact ⟨[], .fixed hblanks (by simpa using Covers.nil (t := (before ++ l).toArray))⟩
  | cons u us ih =>
    cases h with
    | @cons b _ _ _ l _ hb _ hspace hl =>
      obtain ⟨ss, hrest⟩ := ih hfit.tail hl (before ++ b ++ u.part.written f)
      obtain ⟨ss, hpiece⟩ := covers_written hfit hrest
      have hgap := spans_gapIf hb before (u.part.written f ++ l)
      have hspace : u.spaceBefore = !b.isEmpty := by simpa using hspace
      rw [← hspace, ← List.append_assoc] at hgap
      rw [layout_never]
      exact ⟨ss, .fixed (by simpa using hgap) (by simpa using hpiece)⟩

/-- The pattern of a template as given covers the template filled in with texts that fit. -/
theorem covers_of_laid (hfit : Fit spec f us) (hne : us ≠ []) (h : Laid f true false us l) :
    ∃ ss, Covers l.toArray (pieces (us.map (elementOf spec never))) 0 ss := by
  cases h with
  | nil => exact absurd rfl hne
  | @cons b _ _ us l u hb _ _ hl =>
    obtain ⟨ss, hrest⟩ := covers_of_laid_behind hfit.tail hl (b ++ u.part.written f)
    obtain ⟨ss, hpiece⟩ := covers_written hfit hrest
    have hblanks := spans_blanks hb [] (u.part.written f ++ l)
    rw [pieces, layout_never]
    exact ⟨ss, .fixed (by simpa using hblanks) hpiece⟩

/-! Trimming. -/

/-- What is written of each unit is not empty and has no blanks around it. -/
def Bare (f : String → String) (us : List Unit) : Prop :=
  ∀ u ∈ us, u.part.written f ≠ [] ∧ trimList isWhiteSpace (u.part.written f) = u.part.written f

theorem Laid.exists_core (hbare : Bare f us) (h : Laid f false false us l) :
    ∃ core e, l = core ++ e ∧ (∀ c ∈ e, isWhiteSpace c) ∧ Laid f false false us core ∧
      ∀ c ∈ core.getLast?, ¬isWhiteSpace c := by
  induction us generalizing l with
  | nil =>
    cases h with
    | nil hb => exact ⟨[], l, rfl, hb, .nil (by simp), by simp⟩
  | cons u us ih =>
    cases h with
    | @cons b _ _ _ l _ hb hsolid hspace hl =>
      obtain ⟨hne, hlast⟩ := hbare u List.mem_cons_self
      obtain ⟨core, e, rfl, he, hcore, hcoreLast⟩ := ih (fun v hv => hbare v (.tail _ hv)) hl
      refine ⟨b ++ u.part.written f ++ core, e, by simp, he, .cons hb hsolid hspace hcore, ?_⟩
      intro c hc
      rw [List.append_assoc, List.getLast?_append, Option.or_of_isSome (by simp [hne]),
        List.getLast?_append] at hc
      rcases Option.or_eq_some_iff.1 hc with hc | ⟨-, hc⟩
      · exact hcoreLast c hc
      · exact (trimList_eq_self_iff.1 hlast).2 c hc

/-- A template written out stays one when it is trimmed. -/
theorem Laid.trim (hbare : Bare f us) (hne : us ≠ []) (h : Laid f true false us l) :
    Laid f true false us (trimList isWhiteSpace l) := by
  cases h with
  | nil => exact absurd rfl hne
  | @cons b _ _ us l u hb hsolid hspace hl =>
    obtain ⟨hwritten, hends⟩ := hbare u List.mem_cons_self
    obtain ⟨core, e, rfl, he, hcore, hlast⟩ := hl.exists_core fun v hv => hbare v (.tail _ hv)
    have htrim : trimList isWhiteSpace (b ++ u.part.written f ++ (core ++ e)) =
        u.part.written f ++ core := by
      rw [← List.append_assoc, List.append_assoc b, trimList_append hb he, trimList_eq_self_iff]
      refine ⟨fun c hc => ?_, fun c hc => ?_⟩
      · rw [List.head?_append, Option.or_of_isSome (by simp [hwritten])] at hc
        exact (trimList_eq_self_iff.1 hends).1 c hc
      · rw [List.getLast?_append] at hc
        rcases Option.or_eq_some_iff.1 hc with hc | ⟨-, hc⟩
        · exact hlast c hc
        · exact (trimList_eq_self_iff.1 hends).2 c hc
    rw [htrim]
    exact .cons (b := []) (by simp) hsolid (by simpa using hspace) hcore

end Template

namespace Intent

open Template

variable {spec : Spec} {phrase locale : String} {kind : PhraseKind} {lex : Lexicon} {i : Intent}

theorem matchText_eq_none_iff (i : Intent) (u : Normalized) :
    i.matchText u = none ↔ Piece.search u.text.toList.toArray i.normalizedPieces 0 = none ∧
      (trim u.original = u.text ∨
        Piece.search (trim u.original).toList.toArray i.pieces 0 = none) := by
  unfold matchText
  dsimp only
  split
  · simp [*]
  · split <;> simp [*]

/-- Texts that the slots of an intent accept and that have no blanks around them. -/
def Accepts (i : Intent) (f : String → String) : Prop :=
  ∀ p ∈ i.slots, p.accepts (f p.name) ∧ trim (f p.name) = f p.name

instance (i : Intent) (f : String → String) : Decidable (i.Accepts f) :=
  inferInstanceAs (Decidable (∀ p ∈ i.slots, p.accepts (f p.name) ∧ trim (f p.name) = f p.name))

/-- Each slot has the pattern of its kind. -/
def HasDefaultSlots (i : Intent) : Prop :=
  ∀ p ∈ i.slots, p.slot.pattern = none

instance (i : Intent) : Decidable i.HasDefaultSlots :=
  inferInstanceAs (Decidable (∀ p ∈ i.slots, p.slot.pattern = none))

theorem fit_of_accepts {us : List Template.Unit} {f : String → String} (h : Compiled spec lex us i)
    (hdefault : i.HasDefaultSlots) (hf : i.Accepts f) : Fit spec f us := by
  intro name hname
  obtain ⟨p, hp, rfl, hslot, hnode⟩ := h.exists_slot hname
  refine ⟨?_, hnode ▸ (hf p hp).1⟩
  rw [nodeOf_of_default hslot (hdefault p hp)]
  exact plain_kindPattern _

theorem bare_of_accepts {us : List Template.Unit} {f : String → String} (h : Compiled spec lex us i)
    (hdefault : i.HasDefaultSlots) (hf : i.Accepts f) (hsolid : ∀ u ∈ us, u.part.Solid) :
    Bare f us := by
  intro u hu
  have hpart := hsolid u hu
  obtain ⟨part, space⟩ := u
  cases part with
  | word text =>
    obtain ⟨hne, hall⟩ := hpart
    exact ⟨hne, trimList_eq_self (fun c hc => hall c (List.mem_of_mem_head? hc))
      fun c hc => hall c (List.mem_of_getLast? hc)⟩
  | slot name =>
    have hname : name ∈ slotNames us := List.mem_filterMap.2 ⟨_, hu, rfl⟩
    obtain ⟨p, hp, rfl, hslot, hnode⟩ := h.exists_slot hname
    obtain ⟨hfits, htrim⟩ := hf p hp
    refine ⟨fun hnil => ?_, by simpa [Part.written] using congrArg String.toList htrim⟩
    have hmoves : p.node.Moves := by
      rw [hnode, nodeOf_of_default hslot (hdefault p hp)]
      exact moves_kindPattern _
    have hlt := (fits_iff.1 hfits).lt hmoves
    have hnil : (f p.name).toList = [] := hnil
    rw [hnil] at hlt
    cases hlt

/-- The pattern of a template as given matches the template filled in. -/
theorem isSome_search_pieces_fill {f : String → String} (h : compile spec phrase kind locale lex = .ok i)
    (hdefault : i.HasDefaultSlots) (hf : i.Accepts f) :
    (Piece.search (trim (fill f phrase)).toList.toArray i.pieces 0).isSome := by
  obtain ⟨us, hparse, -, -, hcompiled⟩ := compiled_of_compile h
  obtain ⟨hne, hlaid⟩ := laid_of_parse hparse f
  have hbare := bare_of_accepts hcompiled hdefault hf hlaid.solid
  have hcore := hlaid.trim hbare hne
  obtain ⟨ss, hcovers⟩ := covers_of_laid (fit_of_accepts hcompiled hdefault hf) hne hcore
  rw [hcompiled.pieces, toList_trim]
  exact hcovers.isSome_search

/-- A template filled in with texts that its slots accept is lost only where nothing is left of it but
its normalized form, and the normalized pattern does not match that. -/
theorem matchText_fill_eq_none_iff {f : String → String}
    (h : compile spec phrase kind locale lex = .ok i) (hdefault : i.HasDefaultSlots)
    (hf : i.Accepts f) :
    i.matchText (normalize lex i.locale (fill f phrase)) = none ↔
      trim (fill f phrase) = (normalize lex i.locale (fill f phrase)).text ∧
        Piece.search (trim (fill f phrase)).toList.toArray i.normalizedPieces 0 = none := by
  have hraw : Piece.search (trim (fill f phrase)).toList.toArray i.pieces 0 ≠ none :=
    Option.isSome_iff_ne_none.1 (isSome_search_pieces_fill h hdefault hf)
  have horiginal : (normalize lex i.locale (fill f phrase)).original = fill f phrase := rfl
  rw [matchText_eq_none_iff, horiginal, or_iff_left hraw, and_comm]
  refine and_congr_right fun htext => ?_
  rw [htext]

def halfPastTen (name : String) : String :=
  if name = "h" then "10" else "30"

/-- The time of day is accepted and lost: normalizing drops the colon of the template but not that of
the utterance. -/
theorem matchText_fill_eq_none_iff_clock :
    ∃ i, compile .clock "\x7bh\x7d:\x7bm\x7d" .canonical "es" {} = .ok i ∧ i.HasDefaultSlots ∧
      i.Accepts halfPastTen ∧
        (i.matchText (normalize {} i.locale (fill halfPastTen "\x7bh\x7d:\x7bm\x7d")) = none ↔
          trim (fill halfPastTen "\x7bh\x7d:\x7bm\x7d") =
              (normalize {} i.locale (fill halfPastTen "\x7bh\x7d:\x7bm\x7d")).text ∧
            Piece.search (trim (fill halfPastTen "\x7bh\x7d:\x7bm\x7d")).toList.toArray
              i.normalizedPieces 0 = none) := by
  refine ⟨_, rfl, by decide, by decide +kernel, ?_⟩
  exact matchText_fill_eq_none_iff
    (h := (rfl : compile .clock "\x7bh\x7d:\x7bm\x7d" .canonical "es" {} = .ok _)) (by decide)
    (by decide +kernel)

/-- Not every template filled in with texts that its slots accept is matched. -/
theorem exists_matchText_fill_eq_none :
    ¬∀ (spec : Spec) (phrase : String) (kind : PhraseKind) (locale : String) (lex : Lexicon)
      (i : Intent) (f : String → String), compile spec phrase kind locale lex = .ok i →
      i.HasDefaultSlots → i.Accepts f →
        (i.matchText (normalize lex i.locale (fill f phrase))).isSome := by
  intro h
  have hsome := h .clock "\x7bh\x7d:\x7bm\x7d" .canonical "es" {} _ halfPastTen rfl (by decide)
    (by decide +kernel)
  revert hsome
  decide +kernel

end Intent

end Parlance
