import Parlance.Proofs.Lexicon.Log
import Parlance.Proofs.Ranking.Windows
import Parlance.Proofs.Slot.Respelling

/-!
Slots found in an utterance and read in its spelling. Main statement: `exists_reaches_extractPayload`, that
those reach the payload whose texts as given are read as their kind, and for which slots this is certain.
-/

namespace Parlance.Ranking

open Text

/-- The words of a window, the tokens of the utterance being read as given words. -/
def windowWords (words : List String) (w : Span) : List String :=
  (words.drop w.start).take (w.stop - w.start)

/-- A window of which the text as given has the words of the tokens and nothing else but blanks. -/
def Unbroken (i : Intent) (u : Normalized) (w : Span) (v : String) : Prop :=
  words v = windowWords (Scene.of i u).original w

/-- A window whose words the slot reads as given, with single spaces between them. -/
def AsGiven (context : Slot.Context) (i : Intent) (u : Normalized) (p : SlotPattern) (w : Span) : Prop :=
  (p.slot.read context (windowText (Scene.of i u).original w)).isSome

/-- A window of which the lexicon made no other words. -/
def Unchanged (u : Normalized) (w : Span) : Prop :=
  ∀ t ∈ u.window w, ¬t.substituted

/-- What makes sure that a slot reads the text as given of its window. -/
inductive Certain (context : Slot.Context) (i : Intent) (u : Normalized) (p : SlotPattern) (w : Span)
    (v : String) : Prop
  | free : p.slot.kind = .text ∨ p.slot.kind = .custom → Certain context i u p w v
  | word : w.stop = w.start + 1 → AsGiven context i u p w ∨ Unchanged u w → Certain context i u p w v
  | words : Unbroken i u w v →
      AsGiven context i u p w ∨ Unchanged u w ∧ (∀ t ∈ (u.window w).head?, t.text ≠ "") →
        Certain context i u p w v

/-- Of the slots found in an utterance those reach the payload whose texts as given are read. -/
structure Reaches (context : Slot.Context) (i : Intent) (u : Normalized) (c : Captures) (payload : Payload)
    (ws : List (SlotPattern × Span)) : Prop where
  greedy : Greedy context i u c ws
  keys : ∀ name, name ∈ payload.keys ↔
    ∃ e ∈ ws, e.1.name = name ∧ ∃ v, Given u e.2 v ∧ (e.1.slot.read context v).isSome
  certain : ∀ e ∈ ws, ∀ v, Given u e.2 v → Certain context i u e.1 e.2 v → e.1.name ∈ payload.keys

variable {context : Slot.Context} {i : Intent} {u : Normalized} {p : SlotPattern} {w : Span} {v : String}
  {lex : Lexicon} {locale input : String} {cursor : Nat} {ps : List SlotPattern}
  {ws : List (SlotPattern × Span)}

/-! What windows are found by. -/

namespace Assigns

/-- The slot reads the normalized words of its window or its words as given. -/
theorem reads (h : Assigns context i u cursor ps ws) : ∀ e ∈ ws,
    (e.1.slot.read context (windowText (Scene.of i u).normalized e.2)).isSome ∨
      AsGiven context i u e.1 e.2 := by
  induction h with
  | nil => exact List.forall_mem_nil _
  | normalized hw _ ih => exact List.forall_mem_cons.2 ⟨.inl hw.fits.reads, ih⟩
  | original _ hw _ ih => exact List.forall_mem_cons.2 ⟨.inr hw.fits.reads, ih⟩
  | missing _ _ _ ih => exact ih

theorem short (h : Assigns context i u cursor ps ws) : ∀ e ∈ ws, ∀ n, limit? e.1.slot.kind = some n →
    e.2.stop - e.2.start ≤ n := by
  induction h with
  | nil => exact List.forall_mem_nil _
  | normalized hw _ ih => exact List.forall_mem_cons.2 ⟨hw.fits.short, ih⟩
  | original _ hw _ ih => exact List.forall_mem_cons.2 ⟨hw.fits.short, ih⟩
  | missing _ _ _ ih => exact ih

end Assigns

/-! The words of windows. -/

/-- The word of a token as given. -/
def givenWord (u : Normalized) (t : Token) : String :=
  (slice? u.original t.original.start t.original.stop).getD t.text

theorem windowWords_original (i : Intent) (u : Normalized) (w : Span) :
    windowWords (Scene.of i u).original w = (u.window w).map (givenWord u) := by
  rw [windowWords, Scene.of, Normalized.window, List.map_take, List.map_drop]
  rfl

theorem windowWords_normalized (i : Intent) (u : Normalized) (w : Span) :
    windowWords (Scene.of i u).normalized w = (u.window w).map Token.text := by
  rw [windowWords, Scene.of, Normalized.window, List.map_take, List.map_drop]

theorem given_unique {v' : String} (h : Given u w v) (h' : Given u w v') : v = v' := by
  obtain ⟨first, last, hfirst, hlast, hv⟩ := h
  obtain ⟨first', last', hfirst', hlast', hv'⟩ := h'
  obtain rfl := Option.some.inj (hfirst.symm.trans hfirst')
  obtain rfl := Option.some.inj (hlast.symm.trans hlast')
  exact Option.some.inj (hv.symm.trans hv')

/-- Each token of an utterance is spelled by its word as given. -/
def SpelledByWords (lex : Lexicon) (locale : String) (u : Normalized) : Prop :=
  ∀ t ∈ u.tokens, Spells lex locale t (givenWord u t).toList

theorem spelledByWords_normalize (lex : Lexicon) (locale input : String) :
    SpelledByWords lex locale (normalize lex locale input) := by
  intro t h
  obtain ⟨ts, ts', hts⟩ := List.append_of_mem h
  have halone : (normalize lex locale input).tokens = ts ++ t :: ([] ++ ts') := hts
  obtain ⟨s, hs, hspelled⟩ := spelled_between halone rfl
  have hslice : slice? (normalize lex locale input).original t.original.start t.original.stop = some s := hs
  rw [givenWord, hslice, Option.getD_some]
  exact hspelled.spells

namespace SpelledByWords

variable {t : Token}

theorem solid_givenWord (hu : SpelledByWords lex locale u) (h : t ∈ u.tokens) : Solid (givenWord u t) :=
  ⟨(hu t h).ne_nil, (hu t h).solid⟩

theorem text_eq_of_unchanged (hu : SpelledByWords lex locale u) (h : t ∈ u.tokens) (ht : ¬t.substituted) :
    t.text = fold (lowercase (givenWord u t)) := by
  rw [(hu t h).text ht, String.ofList_toList]

theorem uncased_text_of_unchanged (hu : SpelledByWords lex locale u) (h : t ∈ u.tokens)
    (ht : ¬t.substituted) :
    Unicode.uncased t.text.toList = Unicode.uncased (givenWord u t).toList := by
  rw [hu.text_eq_of_unchanged h ht, Unicode.uncased_fold_lowercase]

theorem uncased_text_ne_nil (hu : SpelledByWords lex locale u) (h : t ∈ u.tokens) (ht : ¬t.substituted)
    (hne : t.text ≠ "") : Unicode.uncased t.text.toList ≠ [] := by
  have hfold : fold t.text = t.text := by rw [hu.text_eq_of_unchanged h ht, Unicode.fold_fold]
  rw [← Unicode.map_medial_fold, hfold, ne_eq, List.map_eq_nil_iff]
  simpa using hne

end SpelledByWords

theorem mem_tokens_of_mem_window {t : Token} (h : t ∈ u.window w) : t ∈ u.tokens :=
  List.mem_of_mem_drop (List.mem_of_mem_take h)

/-- A window of one word has that word as its text as given. -/
theorem exists_window_of_stop_eq (hw : w.stop = w.start + 1) (hv : Given u w v) :
    ∃ t ∈ u.tokens, u.window w = [t] ∧ givenWord u t = v := by
  obtain ⟨first, last, hfirst, hlast, hslice⟩ := hv
  have hindex : w.stop - 1 = w.start := by omega
  rw [hindex, hfirst] at hlast
  obtain rfl := Option.some.inj hlast
  refine ⟨first, List.mem_of_getElem? hfirst, ?_, by rw [givenWord, hslice, Option.getD_some]⟩
  have hone : w.stop - w.start = 1 := by omega
  rw [Normalized.window, hone, List.take_one, List.head?_drop, hfirst]
  rfl

/-! Reading the text as given. -/

theorem unwords_singleton (s : String) : unwords [s] = s :=
  String.intercalate_singleton

theorem isSome_read_range (hreader : p.slot.reader = none) (hkind : p.slot.kind = .range) (raw : String) :
    (p.slot.read context raw).isSome = (Slot.readRange context.locale raw).isSome := by
  unfold Slot.read
  rw [hreader]
  simp only [hkind, Option.isSome_map]

theorem isSome_read_free (hreader : p.slot.reader = none)
    (hkind : p.slot.kind = .text ∨ p.slot.kind = .custom) (raw : String) :
    (p.slot.read context raw).isSome := by
  unfold Slot.read
  rw [hreader]
  rcases hkind with hkind | hkind <;> simp only [hkind, Option.isSome_some]

namespace SpelledByWords

/-- What a slot reads of one word, as given or in normal form, it reads of the text as given. -/
theorem isSome_read_of_word (hu : SpelledByWords lex locale u) (hreader : p.slot.reader = none)
    (hw : w.stop = w.start + 1) (hv : Given u w v)
    (h : AsGiven context i u p w ∨
      Unchanged u w ∧ (p.slot.read context (windowText (Scene.of i u).normalized w)).isSome) :
    (p.slot.read context v).isSome := by
  obtain ⟨t, ht, hwindow, rfl⟩ := exists_window_of_stop_eq hw hv
  rcases h with hgiven | ⟨hunchanged, hnormal⟩
  · have htext : windowText (Scene.of i u).original w = givenWord u t := by
      have hwords := windowWords_original i u w
      rw [hwindow, List.map_singleton] at hwords
      exact (congrArg unwords hwords).trans (unwords_singleton _)
    rwa [AsGiven, htext] at hgiven
  · have htext : windowText (Scene.of i u).normalized w = t.text := by
      have hwords := windowWords_normalized i u w
      rw [hwindow, List.map_singleton] at hwords
      exact (congrArg unwords hwords).trans (unwords_singleton _)
    rw [htext, hu.text_eq_of_unchanged ht (hunchanged t (by simp [hwindow]))] at hnormal
    exact Slot.isSome_read_of_fold hreader (hu.solid_givenWord ht) hnormal

/-- Where the first word of a window is not of marks alone, neither its normal form nor the text as given
starts with a blank when folded. -/
theorem startsBlank_texts (hu : SpelledByWords lex locale u)
    (hwords : words v = (u.window w).map (givenWord u)) (hunchanged : Unchanged u w)
    (hfirst : ∀ t ∈ (u.window w).head?, t.text ≠ "") :
    Unicode.startsBlank ((((u.window w).map Token.text).filter (· ≠ "")).map String.toList) =
      Unicode.startsBlank ((words v).map String.toList) := by
  rw [hwords]
  cases hwindow : u.window w with
  | nil => rfl
  | cons t rest =>
    have ht : t ∈ u.window w := hwindow ▸ List.mem_cons_self
    have hmem := mem_tokens_of_mem_window ht
    have hne : t.text ≠ "" := hfirst t (by rw [hwindow]; rfl)
    have hletters := hu.uncased_text_ne_nil hmem (hunchanged t ht) hne
    have hletters' := hletters
    rw [hu.uncased_text_of_unchanged hmem (hunchanged t ht)] at hletters'
    rw [List.map_cons, List.map_cons, List.filter_cons_of_pos (by simpa using hne), List.map_cons,
      List.map_cons, Unicode.startsBlank, Unicode.startsBlank, if_neg hletters, if_neg hletters']

/-- The normal form of a window is read as a range like the text as given. -/
theorem readRange_texts (hu : SpelledByWords lex locale u) (hunbroken : Unbroken i u w v)
    (hunchanged : Unchanged u w) (hfirst : ∀ t ∈ (u.window w).head?, t.text ≠ "") (language : String) :
    Slot.readRange language (unwords ((u.window w).map Token.text)) = Slot.readRange language v := by
  rw [Unbroken, windowWords_original] at hunbroken
  apply Slot.readRange_unwords
  · intro s hs
    obtain ⟨t, ht, rfl⟩ := List.mem_map.1 hs
    have hmem := mem_tokens_of_mem_window ht
    rw [hu.text_eq_of_unchanged hmem (hunchanged t ht)]
    exact Slot.solid_fold_lowercase (hu.solid_givenWord hmem).solid
  · rw [hunbroken, List.map_map, List.map_map]
    apply List.map_congr_left
    intro t ht
    exact hu.uncased_text_of_unchanged (mem_tokens_of_mem_window ht) (hunchanged t ht)
  · exact hu.startsBlank_texts hunbroken hunchanged hfirst

/-- What is read as a range of words as given, or in normal form, is read of the text as given when nothing
but blanks stands between them. -/
theorem isSome_read_of_words (hu : SpelledByWords lex locale u) (hreader : p.slot.reader = none)
    (hkind : p.slot.kind = .range) (hunbroken : Unbroken i u w v)
    (h : AsGiven context i u p w ∨
      (Unchanged u w ∧ ∀ t ∈ (u.window w).head?, t.text ≠ "") ∧
        (p.slot.read context (windowText (Scene.of i u).normalized w)).isSome) :
    (p.slot.read context v).isSome := by
  rw [isSome_read_range hreader hkind]
  rcases h with hgiven | ⟨⟨hunchanged, hfirst⟩, hnormal⟩
  · have htext : windowText (Scene.of i u).original w = unwords (words v) :=
      congrArg unwords hunbroken.symm
    have hfilled : (words v).filter (· ≠ "") = words v := by
      rw [List.filter_eq_self]
      intro s hs
      simpa using (solid_of_mem_words hs).nonempty
    have hsame : Slot.readRange context.locale (unwords (words v)) = Slot.readRange context.locale v := by
      apply Slot.readRange_unwords (fun s hs => (solid_of_mem_words hs).solid) rfl
      rw [hfilled]
    rw [AsGiven, htext, isSome_read_range hreader hkind, hsame] at hgiven
    exact hgiven
  · have htext : windowText (Scene.of i u).normalized w = unwords ((u.window w).map Token.text) :=
      congrArg unwords (windowWords_normalized i u w)
    rw [htext, isSome_read_range hreader hkind, hu.readRange_texts hunbroken hunchanged hfirst] at hnormal
    exact hnormal

/-- What is certain to be read is read. -/
theorem isSome_read_of_certain (hu : SpelledByWords lex locale u) (hreader : p.slot.reader = none)
    (hshort : ∀ n, limit? p.slot.kind = some n → w.stop - w.start ≤ n) (hlt : w.start < w.stop)
    (hreads : (p.slot.read context (windowText (Scene.of i u).normalized w)).isSome ∨
      AsGiven context i u p w)
    (hv : Given u w v) (h : Certain context i u p w v) : (p.slot.read context v).isSome := by
  have hword (hw : w.stop = w.start + 1) (hcase : AsGiven context i u p w ∨ Unchanged u w) :
      (p.slot.read context v).isSome := by
    apply hu.isSome_read_of_word hreader hw hv
    rcases hcase with hgiven | hunchanged
    · exact .inl hgiven
    · exact hreads.symm.imp_right fun hnormal => ⟨hunchanged, hnormal⟩
  cases h with
  | free hkind => exact isSome_read_free hreader hkind v
  | word hw hcase => exact hword hw hcase
  | words hunbroken hcase =>
    cases hkind : p.slot.kind with
    | text => exact isSome_read_free hreader (.inl hkind) v
    | custom => exact isSome_read_free hreader (.inr hkind) v
    | number | boolean | choice | date =>
      have hone := hshort 1 (by rw [hkind]; rfl)
      exact hword (by omega) (hcase.imp_right And.left)
    | range =>
      apply hu.isSome_read_of_words hreader hkind hunbroken
      rcases hcase with hgiven | hunchanged
      · exact .inl hgiven
      · exact hreads.symm.imp_right fun hnormal => ⟨hunchanged, hnormal⟩

end SpelledByWords

/-! Payloads. -/

variable {spec : Spec} {phrase : String} {kind : PhraseKind}

/-- Of the slots found in an utterance those reach the payload whose texts as given are read as their kind,
as all do that are certain to. -/
theorem exists_reaches_extractPayload (h : Intent.compile spec phrase kind locale lex = .ok i)
    (hreaders : ∀ p ∈ i.slots, p.slot.reader = none) (lex' : Lexicon) (locale' input : String)
    (context : Slot.Context) :
    ∃ ws, Reaches context i (normalize lex' locale' input)
      (syntheticCapture i (normalize lex' locale' input) context)
      (extractPayload i (syntheticCapture i (normalize lex' locale' input) context) context) ws := by
  obtain ⟨ws, hgreedy⟩ := exists_greedy_syntheticCapture h lex' locale' input context
  have hnames := nodup_names_of_compile h
  have hextracted := extracted_extractPayload hnames context
    (syntheticCapture i (normalize lex' locale' input) context)
  have hslots : ∀ e ∈ ws, e.1 ∈ i.slots :=
    fun e he => hgreedy.assigns.sublist.subset (List.mem_map_of_mem he)
  have hkeys : ∀ e ∈ ws, ∀ v, Given (normalize lex' locale' input) e.2 v →
      (e.1.slot.read context v).isSome → e.1.name ∈
        (extractPayload i (syntheticCapture i (normalize lex' locale' input) context) context).keys := by
    intro e he v hv hread
    obtain ⟨value, hvalue⟩ := Option.isSome_iff_exists.1 hread
    obtain ⟨v', hv', hcaptured⟩ := hgreedy.captured e he
    obtain rfl := given_unique hv hv'
    rw [OrderedMap.mem_keys_iff]
    exact ⟨value, (hextracted e.1.name value).2 ⟨e.1, hslots e he, rfl, v, hcaptured, hvalue⟩⟩
  refine ⟨ws, hgreedy, ?_, ?_⟩
  · intro name
    constructor
    · intro hname
      obtain ⟨value, hvalue⟩ := OrderedMap.mem_keys_iff.1 hname
      obtain ⟨q, hq, rfl, raw, hraw, hread⟩ := (hextracted name value).1 hvalue
      obtain ⟨e, he, heq⟩ := hgreedy.only q.name (OrderedMap.mem_keys_iff.2 ⟨raw, hraw⟩)
      obtain rfl : e.1 = q := List.inj_on_of_nodup_map hnames (hslots e he) hq heq
      obtain ⟨v, hv, hcaptured⟩ := hgreedy.captured e he
      obtain rfl := Option.some.inj (hcaptured.symm.trans hraw)
      exact ⟨e, he, rfl, v, hv, by rw [hread]; rfl⟩
    · rintro ⟨e, he, rfl, v, hv, hread⟩
      exact hkeys e he v hv hread
  · intro e he v hv hcertain
    obtain ⟨hlt, -⟩ := hgreedy.inside e he
    have hspelled := spelledByWords_normalize lex' locale' input
    exact hkeys e he v hv (hspelled.isSome_read_of_certain (hreaders e.1 (hslots e he))
      (hgreedy.assigns.short e he) hlt (hgreedy.assigns.reads e he) hv hcertain)

/-- A range of three words and a choice in capitals reach the payload. -/
theorem exists_reaches_extractPayload_sizes :
    ∃ i, Intent.compile (.spoken "busca tallas {r} en {c}" [("r", .range), ("c", .choice)])
        "busca tallas {r} en {c}" .canonical "es" {} = .ok i ∧
      (∀ p ∈ i.slots, p.slot.reader = none) ∧
      (extractPayload i (syntheticCapture i (normalize {} "es" "por favor, tallas 38 a 42 ¡ROJO!")
        ⟨"es", ⟨2024, 5, 10, by decide⟩⟩) ⟨"es", ⟨2024, 5, 10, by decide⟩⟩).keys = ["c", "r"] ∧
      ∃ ws, Reaches ⟨"es", ⟨2024, 5, 10, by decide⟩⟩ i (normalize {} "es" "por favor, tallas 38 a 42 ¡ROJO!")
        (syntheticCapture i (normalize {} "es" "por favor, tallas 38 a 42 ¡ROJO!")
          ⟨"es", ⟨2024, 5, 10, by decide⟩⟩)
        (extractPayload i (syntheticCapture i (normalize {} "es" "por favor, tallas 38 a 42 ¡ROJO!")
          ⟨"es", ⟨2024, 5, 10, by decide⟩⟩) ⟨"es", ⟨2024, 5, 10, by decide⟩⟩) ws := by
  obtain ⟨i, hcompile, hreaders, hkeys⟩ :
      ∃ i ∈ (Intent.compile (.spoken "busca tallas {r} en {c}" [("r", .range), ("c", .choice)])
          "busca tallas {r} en {c}" .canonical "es" {}).toOption,
        (∀ p ∈ i.slots, p.slot.reader.isNone) ∧
        (extractPayload i (syntheticCapture i (normalize {} "es" "por favor, tallas 38 a 42 ¡ROJO!")
          ⟨"es", ⟨2024, 5, 10, by decide⟩⟩) ⟨"es", ⟨2024, 5, 10, by decide⟩⟩).keys = ["c", "r"] := by
    decide +kernel
  have hcompile := eq_ok_of_mem_toOption hcompile
  have hreaders : ∀ p ∈ i.slots, p.slot.reader = none := by simpa using hreaders
  exact ⟨i, hcompile, hreaders, hkeys, exists_reaches_extractPayload hcompile hreaders {} "es" _ _⟩

/-- A number that only the lexicon made one is found but does not reach the payload. -/
theorem exists_keys_extractPayload_ne :
    ¬∀ (spec : Spec) (phrase : String) (kind : PhraseKind) (locale : String) (lex : Lexicon) (i : Intent),
      Intent.compile spec phrase kind locale lex = .ok i → (∀ p ∈ i.slots, p.slot.reader = none) →
        ∀ (edits : List Lexicon.Edit) (locale' input : String) (context : Slot.Context),
          let c := syntheticCapture i (normalize (Lexicon.after edits) locale' input) context
          (extractPayload i c context).keys = c.keys := by
  intro h
  obtain ⟨i, hcompile, hreaders, hkeys⟩ :
      ∃ i ∈ (Intent.compile (.spoken "borra {n}" [("n", .number)]) "borra {n}" .canonical "es"
          {}).toOption,
        (∀ p ∈ i.slots, p.slot.reader.isNone) ∧
        let c := syntheticCapture i (normalize (Lexicon.after [.register "es" "dos" "2"]) "es" "borra los dos")
          ⟨"es", ⟨2024, 5, 10, by decide⟩⟩
        c.entries = [("n", "dos")] ∧ (extractPayload i c ⟨"es", ⟨2024, 5, 10, by decide⟩⟩).keys ≠ c.keys := by
    decide +kernel
  exact hkeys.2 (h _ _ _ _ _ i (eq_ok_of_mem_toOption hcompile) (by simpa using hreaders)
    [.register "es" "dos" "2"] "es" "borra los dos" ⟨"es", ⟨2024, 5, 10, by decide⟩⟩)

end Parlance.Ranking
