import Parlance.Proofs.Template.Literals

/-!
Articles that may be left out. Main statement: `isSome_search_normalizedPieces_iff`, that the normalized
pattern of a template without slots matches the words of the template and what is left of them without
some of the articles, and nothing else.
-/

namespace Parlance

open Pattern Unicode Text

namespace Template

/-- Some of the words that may be left out are left out of words. -/
inductive LeavesOut (optional : String → Bool) : List String → List String → Prop
  | nil : LeavesOut optional [] []
  | keep : LeavesOut optional ws kept → LeavesOut optional (w :: ws) (w :: kept)
  | skip : optional w → LeavesOut optional ws kept → LeavesOut optional (w :: ws) kept

/-- Whether a word may be left out of words: articles may unless there is nothing else. -/
def omissible (ws : List String) (w : String) : Bool :=
  optionalArticles.contains w && !ws.all optionalArticles.contains

/-- Not all words may be left out. -/
theorem exists_not_omissible (ws : List String) : ws = [] ∨ ∃ w ∈ ws, ¬omissible ws w := by
  by_cases harticles : ws.all optionalArticles.contains
  · cases ws with
    | nil => exact .inl rfl
    | cons w ws =>
      refine .inr ⟨w, List.mem_cons_self, ?_⟩
      rw [omissible, harticles, Bool.not_true, Bool.and_false]
      exact Bool.false_ne_true
  · obtain ⟨w, hw, hneeded⟩ := List.all_eq_false.1 (Bool.eq_false_of_not_eq_true harticles)
    refine .inr ⟨w, hw, fun homissible => hneeded ?_⟩
    rw [omissible, Bool.and_eq_true] at homissible
    exact homissible.1

/-- A word regardless of the case of its letters. -/
def caseless (w : String) : List Char :=
  w.toList.map simpleFold

variable {spec : Spec} {lex : Lexicon} {locale : String} {optional : String → Bool} {us : List Unit}
  {t : List Char} {kept ws : List String}

def texts (us : List Unit) : List String :=
  us.map fun u => u.part.text

/-! What is matched. -/

/-- Words written out one by one, some of them left out. -/
theorem Traced.exists_leavesOut {tells : String → List Char → List Char → List Char → Prop}
    {before : List Char} (h : Traced optional tells before us t) (hslots : slotNames us = [])
    (hspaced : Spaced before us) (hsolid : ∀ w ∈ texts us, Solid w) :
    ∃ kept, LeavesOut optional (texts us) kept ∧
      (wordsOf t).map (List.map simpleFold) = kept.map caseless := by
  induction h with
  | nil hb => exact ⟨[], .nil, by rw [wordsOf_blank hb]; rfl⟩
  | @word b before x us l text space hb _ hx hrest ih =>
    obtain ⟨hfirst, hsolid⟩ := List.forall_mem_cons.1 hsolid
    obtain ⟨kept, hkept, hwords⟩ := ih hslots hspaced.tail hsolid
    have hword : (wordsOf x).map (List.map simpleFold) = [caseless text] := by
      rw [← wordsOf_map isWhiteSpace_simpleFold, hx, wordsOf_map isWhiteSpace_simpleFold]
      have htext : wordsOf text.toList = [text.toList] :=
        wordsOf_of_solid hfirst.nonempty hfirst.solid
      rw [htext]
      rfl
    refine ⟨text :: kept, .keep hkept, ?_⟩
    rw [hrest.wordsOf_append hb hspaced.tail, List.map_append, hword, hwords]
    rfl
  | slot => cases hslots
  | skip htext _ ih =>
    obtain ⟨-, hsolid⟩ := List.forall_mem_cons.1 hsolid
    obtain ⟨kept, hkept, hwords⟩ := ih hslots hspaced.tail hsolid
    exact ⟨kept, .skip htext hkept, hwords⟩

/-! What has a match. -/

theorem spans_word {w v : String} (h : caseless v = caseless w) (before after : List Char) :
    Spans (before ++ v.toList ++ after).toArray (literal w) before.length
      (before ++ v.toList).length :=
  spans_between (spans_letters h) (plain_literal _) before after

theorem spans_space (before after : List Char) :
    Spans (before ++ [' '] ++ after).toArray (gapIf true) before.length (before ++ [' ']).length :=
  spans_gapIf (List.forall_mem_singleton.2 (by decide)) before after

/-- A text is covered to its end where only blanks may follow. -/
theorem covers_end (t : List Char) : Covers t.toArray [.fixed blanks] t.length [] :=
  .fixed .skip .nil

theorem LeavesOut.mem {w : String} (h : LeavesOut optional ws kept) (hw : w ∈ ws)
    (hneeded : ¬optional w) : w ∈ kept := by
  induction h with
  | nil => cases hw
  | keep _ ih =>
    rcases List.mem_cons.1 hw with rfl | hw
    · exact List.mem_cons_self
    · exact .tail _ (ih hw)
  | skip hskip _ ih =>
    rcases List.mem_cons.1 hw with rfl | hw
    · exact absurd hskip hneeded
    · exact ih hw

/-- Words with a space before each. -/
def spaced (ws : List String) : List Char :=
  ws.flatMap fun w => ' ' :: w.toList

theorem toList_unwords_cons (w : String) (ws : List String) :
    (unwords (w :: ws)).toList = w.toList ++ spaced ws := by
  induction ws generalizing w with
  | nil =>
    rw [spaced, List.flatMap_nil, List.append_nil]
    exact congrArg String.toList String.intercalate_singleton
  | cons v ws ih =>
    rw [unwords_cons_cons, String.toList_append, String.toList_append, ih, List.append_assoc]
    rfl

/-- Behind a word that stays, each word takes along the space before it. -/
theorem covers_behind (hslots : slotNames us = []) (hspace : ∀ u ∈ us, u.spaceBefore)
    (h : LeavesOut optional (texts us) kept) (hwords : ws.map caseless = kept.map caseless)
    (before : List Char) :
    Covers (before ++ spaced ws).toArray (layout false (us.map (elementOf spec optional)))
      before.length [] := by
  induction us generalizing kept ws before with
  | nil =>
    cases h
    obtain rfl : ws = [] := by simpa using hwords
    rw [spaced, List.flatMap_nil, List.append_nil]
    exact covers_end before
  | cons u us ih =>
    obtain ⟨part, space⟩ := u
    obtain ⟨hfirst, hbehind⟩ := List.forall_mem_cons.1 hspace
    obtain rfl : space = true := hfirst
    cases part with
    | slot => cases hslots
    | word text =>
      cases h with
      | @keep _ kept _ h =>
        obtain ⟨v, ws, rfl, hv, hwords⟩ := List.map_eq_cons_iff.1 hwords
        have hgap := spans_space before (v.toList ++ spaced ws)
        have hword := spans_word hv (before ++ [' ']) (spaced ws)
        have hrest := ih hslots hbehind h hwords (before ++ [' '] ++ v.toList)
        have htext : before ++ spaced (v :: ws) = before ++ [' '] ++ v.toList ++ spaced ws := by
          simp [spaced]
        rw [← List.append_assoc] at hgap
        rw [htext, List.map_cons, layout, elementOf]
        by_cases hoptional : optional text
        · rw [if_pos hoptional]
          exact .fixed (.take (.seq hgap hword)) hrest
        · rw [if_neg hoptional]
          exact .fixed hgap (.fixed hword hrest)
      | skip hoptional h =>
        have hoptional : optional text := hoptional
        rw [List.map_cons, layout, elementOf, if_pos hoptional]
        exact .fixed .skip (ih hslots hbehind h hwords before)

theorem toList_unwords_cons_of_ne_nil (w : String) (h : ws ≠ []) :
    (unwords (w :: ws)).toList = w.toList ++ [' '] ++ (unwords ws).toList := by
  obtain ⟨v, ws, rfl⟩ := List.exists_cons_of_ne_nil h
  rw [unwords_cons_cons, String.toList_append, String.toList_append]
  rfl

theorem spaceBefore_head (hne : us ≠ []) (hspace : ∀ u ∈ us, u.spaceBefore) :
    ((us.map (elementOf spec optional)).head?.map Element.spaceBefore).getD false = true := by
  obtain ⟨u, us, rfl⟩ := List.exists_cons_of_ne_nil hne
  exact (spaceBefore_elementOf spec optional u).trans (hspace u List.mem_cons_self)

/-- Ahead of the first word that stays, a word takes along the space behind it. -/
theorem covers_cons_ahead {text v : String} {space : Bool} {before : List Char}
    (hoptional : optional text) (hv : caseless v = caseless text) (hus : us ≠ [])
    (hspace : ∀ u ∈ us, u.spaceBefore) (hws : ws ≠ [])
    (h : Covers (before ++ v.toList ++ [' '] ++ (unwords ws).toList).toArray
      (layout true (us.map (elementOf spec optional))) (before ++ v.toList ++ [' ']).length []) :
    Covers (before ++ (unwords (v :: ws)).toList).toArray
      (layout true ((⟨.word text, space⟩ :: us).map (elementOf spec optional))) before.length [] := by
  have hword := spans_word hv before ([' '] ++ (unwords ws).toList)
  have hgap := spans_space (before ++ v.toList) (unwords ws).toList
  have htext : before ++ (unwords (v :: ws)).toList =
      before ++ v.toList ++ [' '] ++ (unwords ws).toList := by
    rw [toList_unwords_cons_of_ne_nil v hws]
    simp
  rw [← List.append_assoc] at hword
  rw [htext, List.map_cons, layout, elementOf, if_pos hoptional]
  dsimp only
  rw [spaceBefore_head hus hspace]
  exact .fixed (.take (.seq hword hgap)) h

/-- Some word has to follow the words ahead, so that there is a space behind each of them. -/
theorem covers_ahead (hslots : slotNames us = []) (hspace : ∀ u ∈ us.tail, u.spaceBefore)
    (hneeded : us = [] ∨ ∃ w ∈ texts us, ¬optional w) (h : LeavesOut optional (texts us) kept)
    (hwords : ws.map caseless = kept.map caseless) (before : List Char) :
    Covers (before ++ (unwords ws).toList).toArray (layout true (us.map (elementOf spec optional)))
      before.length [] := by
  induction us generalizing kept ws before with
  | nil =>
    cases h
    obtain rfl : ws = [] := by simpa using hwords
    have hnil : (unwords []).toList = [] := rfl
    rw [hnil, List.append_nil]
    exact covers_end before
  | cons u us ih =>
    obtain ⟨part, space⟩ := u
    have hspace' : ∀ v ∈ us.tail, v.spaceBefore := fun v hv => hspace v (List.mem_of_mem_tail hv)
    obtain ⟨w, hw, hstays⟩ := hneeded.resolve_left (List.cons_ne_nil _ _)
    cases part with
    | slot => cases hslots
    | word text =>
      by_cases hoptional : optional text
      · have hw : w ∈ texts us := by
          rcases List.mem_cons.1 hw with rfl | hw
          · exact absurd hoptional hstays
          · exact hw
        cases h with
        | @keep _ kept _ h =>
          obtain ⟨v, ws, rfl, hv, hwords⟩ := List.map_eq_cons_iff.1 hwords
          have hus : us ≠ [] := by
            rintro rfl
            cases hw
          have hws : ws ≠ [] := by
            rintro rfl
            have hnone : kept = [] := by simpa using hwords.symm
            exact absurd (h.mem hw hstays) (by simp [hnone])
          exact covers_cons_ahead hoptional hv hus hspace hws
            (ih hslots hspace' (.inr ⟨w, hw, hstays⟩) h hwords (before ++ v.toList ++ [' ']))
        | skip _ h =>
          rw [List.map_cons, layout, elementOf, if_pos hoptional]
          exact .fixed .skip (ih hslots hspace' (.inr ⟨w, hw, hstays⟩) h hwords before)
      · rw [List.map_cons, layout, elementOf, if_neg hoptional]
        cases h with
        | @keep _ kept _ h =>
          obtain ⟨v, ws, rfl, hv, hwords⟩ := List.map_eq_cons_iff.1 hwords
          have hword := spans_word hv before (spaced ws)
          have hslots : slotNames us = [] := hslots
          have hspace : ∀ v ∈ us, v.spaceBefore := hspace
          have hrest : Covers _ (layout false (us.map (elementOf spec optional))) _ _ :=
            covers_behind hslots hspace h hwords (before ++ v.toList)
          rw [toList_unwords_cons, ← List.append_assoc]
          exact .fixed hword hrest
        | skip hskip => exact absurd hskip hoptional

/-! Templates without slots. -/

theorem texts_normalUnits (lex : Lexicon) (locale : String) (carried : Bool)
    (hslots : slotNames us = []) :
    texts (normalUnits lex locale carried us) = literalsOf lex locale us := by
  induction us generalizing carried with
  | nil => rfl
  | cons u us ih =>
    obtain ⟨part, space⟩ := u
    cases part with
    | slot => cases hslots
    | word text =>
      rw [normalUnits, literalsOf, List.filterMap_cons]
      dsimp only
      cases normalizeWord lex locale text with
      | none => exact ih _ hslots
      | some w => exact congrArg (w.text :: ·) (ih false hslots)

theorem elementOf_congr {optional' : String → Bool} (hslots : slotNames us = [])
    (h : ∀ w ∈ texts us, optional w = optional' w) :
    us.map (elementOf spec optional) = us.map (elementOf spec optional') := by
  refine List.map_congr_left fun u hu => ?_
  obtain ⟨text, htext⟩ := exists_word_of_slotNames hslots hu
  have hw : text ∈ texts us := List.mem_map.2 ⟨u, hu, by rw [htext]; rfl⟩
  rw [elementOf, elementOf, htext]
  dsimp only
  rw [h text hw]

theorem keepLoneArticles_eq (spec : Spec) (hslots : slotNames us = []) :
    keepLoneArticles (us.map (elementOf spec optionalArticles.contains)) =
      us.map (elementOf spec (omissible (texts us))) := by
  have hall : (us.map (elementOf spec optionalArticles.contains)).all Element.optional =
      (texts us).all optionalArticles.contains := by
    induction us with
    | nil => rfl
    | cons u us ih =>
      obtain ⟨part, space⟩ := u
      cases part with
      | slot => cases hslots
      | word text => exact congrArg (optionalArticles.contains text && ·) (ih hslots)
  unfold keepLoneArticles
  rw [hall]
  split
  · rename_i harticles
    have hnever : us.map (elementOf spec (omissible (texts us))) = us.map (elementOf spec never) :=
      elementOf_congr hslots fun w _ => by rw [omissible, harticles, never, Bool.not_true, Bool.and_false]
    rw [hnever, List.map_map]
    refine List.map_congr_left fun u _ => ?_
    rw [Function.comp, elementOf, elementOf]
    split <;> rfl
  · rename_i harticles
    refine elementOf_congr hslots fun w _ => ?_
    rw [omissible, Bool.eq_false_of_not_eq_true harticles, Bool.not_false, Bool.and_true]

end Template

namespace Intent

open Template

variable {spec : Spec} {phrase locale : String} {kind : PhraseKind} {lex : Lexicon} {i : Intent}

theorem exists_units_of_compile (h : compile spec phrase kind locale lex = .ok i)
    (hslots : i.hasSlots = false) :
    ∃ us, slotNames us = [] ∧ Apart us ∧ texts us = i.literals ∧
      i.normalizedPieces = Template.pieces (us.map (elementOf spec (omissible i.literals))) := by
  obtain ⟨us, d, hparse, hd, -, rfl⟩ := exists_draft_of_compile h
  have hadds := Draft.adds_of_foldlM hd
  have hnil : d.slots = [] := by simpa [hasSlots, Draft.intent] using hslots
  have hnames : slotNames us = [] := by
    have hslots' : d.slots = slotsOf spec us := hadds.slots
    rw [← hadds.names, ← hslots', hnil, List.map_nil]
  have hliterals : d.literals = literalsOf lex locale us := Draft.literals_foldlM hd
  have htexts : texts (normalUnits lex locale false us) = d.literals :=
    (texts_normalUnits lex locale false hnames).trans hliterals.symm
  have hnormal : slotNames (normalUnits lex locale false us) = [] :=
    (slotNames_normalUnits lex locale false us).trans hnames
  have hnormalized : d.normalized =
      (normalUnits lex locale false us).map (elementOf spec optionalArticles.contains) :=
    hadds.normalized
  refine ⟨normalUnits lex locale false us, hnormal, apart_normalUnits (apart_of_parse hparse), htexts, ?_⟩
  change Template.pieces (keepLoneArticles d.normalized) = Template.pieces (_ : List Element)
  rw [hnormalized, keepLoneArticles_eq spec hnormal, htexts]
  rfl

theorem map_caseless_tokens {input : String}
    (h : ∀ t ∈ (normalize lex locale input).tokens, Solid t.text) :
    (normalize lex locale input).text = unwords ((normalize lex locale input).tokens.map Token.text) ∧
      (wordsOf (normalize lex locale input).text.toList).map (List.map simpleFold) =
        ((normalize lex locale input).tokens.map Token.text).map caseless := by
  have hsolid : ∀ w ∈ (normalize lex locale input).tokens.map Token.text, Solid w :=
    List.forall_mem_map.2 h
  have htext := text_normalize lex locale input
  rw [List.dropWhile_eq_self_iff.2] at htext
  · refine ⟨htext, ?_⟩
    conv_rhs => rw [← words_unwords hsolid, ← htext, words_eq, List.map_map]
    refine List.map_congr_left fun w _ => ?_
    rw [Function.comp, caseless, String.toList_ofList]
  · intro hlength hempty
    refine (hsolid _ (List.getElem_mem hlength)).nonempty ?_
    rw [String.toList_eq_nil_iff]
    simpa using hempty

/-- Articles are optional, nothing else is: the normalized pattern of a template without slots matches an
utterance just where its words are those of the template, up to letter case, without some articles. -/
theorem isSome_search_normalizedPieces_iff {lex' : Lexicon} {locale' input : String}
    (h : compile spec phrase kind locale lex = .ok i) (hslots : i.hasSlots = false)
    (hliterals : ∀ w ∈ i.literals, Solid w)
    (htokens : ∀ t ∈ (normalize lex' locale' input).tokens, Solid t.text) :
    (Piece.search (normalize lex' locale' input).text.toList.toArray i.normalizedPieces 0).isSome ↔
      ∃ kept, LeavesOut (omissible i.literals) i.literals kept ∧
        (normalize lex' locale' input).tokens.map (fun t => caseless t.text) = kept.map caseless := by
  obtain ⟨us, hnames, hapart, htexts, hpieces⟩ := exists_units_of_compile h hslots
  obtain ⟨htext, hwords⟩ := map_caseless_tokens htokens
  have hspace := spaceBefore_of_apart hapart hnames
  rw [List.map_map] at hwords
  rw [hpieces, ← htexts]
  constructor
  · intro hsearch
    obtain ⟨ss, hcovers⟩ := isSome_search_iff.1 hsearch
    rw [htexts] at hcovers
    have htraced : Traced _ (fun _ _ _ _ => True) _ _ _ :=
      traced_of_covers hapart hcovers fun _ _ _ _ => trivial
    obtain ⟨kept, hkept, hmap⟩ :=
      htraced.exists_leavesOut hnames (.inl ⟨rfl, hspace⟩) (htexts ▸ hliterals)
    exact ⟨kept, htexts ▸ hkept, hwords.symm.trans hmap⟩
  · rintro ⟨kept, hkept, hmap⟩
    have hneeded : us = [] ∨ ∃ w ∈ texts us, ¬omissible (texts us) w :=
      (exists_not_omissible (texts us)).imp_left List.map_eq_nil_iff.1
    have hcovers : Covers _ (layout true (us.map (elementOf spec _))) _ _ :=
      covers_ahead hnames hspace hneeded hkept (List.map_map.trans hmap) []
    rw [htext]
    exact (Covers.fixed .skip hcovers).isSome_search

/-- The first article is left out and the second one is not. -/
theorem isSome_search_normalizedPieces_iff_lamp :
    ∃ i, compile (.spoken "la luz de la sala" []) "la luz de la sala" .canonical "es" {} = .ok i ∧
      i.hasSlots = false ∧ (∀ w ∈ i.literals, Solid w) ∧
        (∀ t ∈ (normalize {} "es" "¡Luz de LA sala!").tokens, Solid t.text) ∧
          ((Piece.search (normalize {} "es" "¡Luz de LA sala!").text.toList.toArray
              i.normalizedPieces 0).isSome ↔
            ∃ kept, LeavesOut (omissible i.literals) i.literals kept ∧
              (normalize {} "es" "¡Luz de LA sala!").tokens.map (fun t => caseless t.text) =
                kept.map caseless) := by
  obtain ⟨i, hcompile, hslots, hliterals⟩ :
      ∃ i ∈ (compile (.spoken "la luz de la sala" []) "la luz de la sala" .canonical "es"
        {}).toOption, i.hasSlots = false ∧ ∀ w ∈ i.literals, Solid w := by
    decide +kernel
  have htokens : ∀ t ∈ (normalize {} "es" "¡Luz de LA sala!").tokens, Solid t.text := by
    decide +kernel
  have hcompile := eq_ok_of_mem_toOption hcompile
  exact ⟨i, hcompile, hslots, hliterals, htokens,
    isSome_search_normalizedPieces_iff hcompile hslots hliterals htokens⟩

end Intent

end Parlance
