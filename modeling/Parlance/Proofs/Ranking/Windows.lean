import Parlance.Proofs.Resolver.Coherence
import Parlance.Proofs.Template.Filled
import Parlance.Proofs.Text.Offsets
import Parlance.Ranking.Capture

/-!
Slots looked for in an utterance. Main statement: `exists_greedy_syntheticCapture`, that each slot takes
the first window behind those of the slots before it that fits, and of those that start there the longest.
-/

namespace Parlance.Ranking

open Text

/-- The most words that a slot of a kind may take, if there is a bound. -/
def limit? : Slot.Kind → Option Nat
  | .number | .boolean | .choice | .date => some 1
  | .range | .custom => some 4
  | .text => none

/-- Of windows the one that starts first, and of those that start there the longest. -/
structure Foremost (P : Span → Prop) (w : Span) : Prop where
  fits : P w
  first : ∀ v, P v → w.start ≤ v.start
  longest : ∀ v, P v → v.start = w.start → v.stop ≤ w.stop

/-- A window that a slot may take from token `cursor` on, the tokens of an utterance being read as given
words. -/
structure Fits (context : Slot.Context) (i : Intent) (u : Normalized) (words : List String)
    (p : SlotPattern) (cursor : Nat) (w : Span) : Prop where
  behind : cursor ≤ w.start
  nonempty : w.start < w.stop
  inside : w.stop ≤ u.tokens.length
  new : ∀ t, u.tokens[w.start]? = some t → t.text ∉ i.literals
  short : ∀ n, limit? p.slot.kind = some n → w.stop - w.start ≤ n
  accepted : p.accepts (windowText words w) = true
  reads : (p.slot.read context (windowText words w)).isSome

/-- Each slot takes a window of the tokens' normalized texts, or failing that of the words as given, or
none; the next ones look behind it. -/
inductive Assigns (context : Slot.Context) (i : Intent) (u : Normalized) :
    (cursor : Nat) → List SlotPattern → List (SlotPattern × Span) → Prop
  | nil : Assigns context i u cursor [] []
  | normalized : Foremost (Fits context i u (Scene.of i u).normalized p cursor) w →
      Assigns context i u w.stop ps ws → Assigns context i u cursor (p :: ps) ((p, w) :: ws)
  | original : (∀ v, ¬Fits context i u (Scene.of i u).normalized p cursor v) →
      Foremost (Fits context i u (Scene.of i u).original p cursor) w →
      Assigns context i u w.stop ps ws → Assigns context i u cursor (p :: ps) ((p, w) :: ws)
  | missing : (∀ v, ¬Fits context i u (Scene.of i u).normalized p cursor v) →
      (∀ v, ¬Fits context i u (Scene.of i u).original p cursor v) →
      Assigns context i u cursor ps ws → Assigns context i u cursor (p :: ps) ws

/-! The windows that are tried. -/

variable {kind : Slot.Kind} {count start cursor : Nat} {isLiteral : List Bool} {v w : Span}

/-- The order in which windows are tried. -/
def Ahead (v w : Span) : Prop :=
  v.start < w.start ∨ (v.start = w.start ∧ w.stop < v.stop)

theorem le_longestWindow {n remaining : Nat} :
    n ≤ longestWindow kind remaining ↔ n ≤ remaining ∧ ∀ m, limit? kind = some m → n ≤ m := by
  cases kind <;> simp [longestWindow, limit?] <;> omega

theorem mem_windowsAt : w ∈ windowsAt kind count start ↔
    w.start = start ∧ start < w.stop ∧ w.stop - start ≤ longestWindow kind (count - start) := by
  obtain ⟨s, e⟩ := w
  simp only [windowsAt, List.mem_map, List.mem_reverse, List.mem_range, Span.mk.injEq]
  constructor
  · rintro ⟨n, hn, rfl, rfl⟩
    omega
  · rintro ⟨rfl, hlt, hle⟩
    exact ⟨e - s - 1, by omega, rfl, by omega⟩

theorem pairwise_windowsAt (kind : Slot.Kind) (count start : Nat) :
    (windowsAt kind count start).Pairwise Ahead := by
  rw [windowsAt, List.pairwise_map, List.pairwise_reverse]
  refine List.pairwise_lt_range.imp fun h => .inr ⟨rfl, ?_⟩
  dsimp only
  omega

theorem mem_windows : w ∈ windows kind isLiteral cursor ↔
    cursor ≤ w.start ∧ w.start < w.stop ∧ w.stop ≤ isLiteral.length ∧
      isLiteral.getD w.start false = false ∧ ∀ n, limit? kind = some n → w.stop - w.start ≤ n := by
  simp only [windows, List.mem_flatMap, List.mem_filter, List.mem_range, mem_windowsAt, le_longestWindow,
    Bool.and_eq_true, decide_eq_true_eq, Bool.not_eq_true']
  constructor
  · rintro ⟨_, ⟨hlt, hcursor, hnew⟩, rfl, hne, hle, hlimit⟩
    exact ⟨hcursor, hne, by omega, hnew, hlimit⟩
  · rintro ⟨hcursor, hne, hle, hnew, hlimit⟩
    exact ⟨w.start, ⟨by omega, hcursor, hnew⟩, rfl, hne, by omega, hlimit⟩

theorem pairwise_windows (kind : Slot.Kind) (isLiteral : List Bool) (cursor : Nat) :
    (windows kind isLiteral cursor).Pairwise Ahead := by
  rw [windows, List.pairwise_flatMap]
  refine ⟨fun start _ => pairwise_windowsAt _ _ start, ?_⟩
  refine (List.pairwise_lt_range.filter _).imp fun {a b} hab v hv w hw => ?_
  rw [(mem_windowsAt.1 hv).1.symm, (mem_windowsAt.1 hw).1.symm] at hab
  exact .inl hab

theorem foremost_of_find? {l : List Span} {p : Span → Bool} (hl : l.Pairwise Ahead)
    (h : l.find? p = some w) : Foremost (fun v => v ∈ l ∧ p v) w := by
  obtain ⟨hw, before, after, rfl, hbefore⟩ := List.find?_eq_some_iff_append.1 h
  have hbehind : ∀ v ∈ after, Ahead w v :=
    fun v hv => (List.pairwise_append.1 hl).2.1 |> List.pairwise_cons.1 |>.1 v hv
  have hahead : ∀ v, v ∈ before ++ w :: after → p v → v = w ∨ Ahead w v := by
    intro v hv hp
    rcases List.mem_append.1 hv with hv | hv
    · have hnot := hbefore v hv
      rw [hp] at hnot
      cases hnot
    · exact (List.mem_cons.1 hv).imp_right (hbehind v)
  refine ⟨⟨by simp, hw⟩, fun v hv => ?_, fun v hv hstart => ?_⟩
  · rcases hahead v hv.1 hv.2 with rfl | h | h
    · exact le_rfl
    · exact h.le
    · exact h.1.le
  · rcases hahead v hv.1 hv.2 with rfl | h | h
    · exact le_rfl
    · omega
    · exact h.2.le

/-! The slots one after the other. -/

variable {context : Slot.Context} {i : Intent} {u : Normalized} {p : SlotPattern}
  {ps : List SlotPattern} {ws : List (SlotPattern × Span)}

theorem fits_iff {words : List String} : Fits context i u words p cursor w ↔
    w ∈ windows p.slot.kind (Scene.of i u).isLiteral cursor ∧
      isValueOf context p (windowText words w) := by
  have hlength : (Scene.of i u).isLiteral.length = u.tokens.length := List.length_map _
  have hnew (hw : w.start < u.tokens.length) :
      (Scene.of i u).isLiteral.getD w.start false = false ↔
        ∀ t, u.tokens[w.start]? = some t → t.text ∉ i.literals := by
    rw [Scene.of, List.getD_eq_getElem?_getD, List.getElem?_map, List.getElem?_eq_getElem hw]
    simp
  rw [mem_windows, hlength, isValueOf, Bool.and_eq_true]
  constructor
  · intro h
    have hlt := h.nonempty
    have hle := h.inside
    exact ⟨⟨h.behind, hlt, hle, (hnew (by omega)).2 h.new, h.short⟩, h.accepted, h.reads⟩
  · rintro ⟨⟨hcursor, hlt, hle, hliteral, hshort⟩, haccepted, hreads⟩
    exact ⟨hcursor, hlt, hle, (hnew (by omega)).1 hliteral, hshort, haccepted, hreads⟩

theorem foremost_of_findWindow {words : List String}
    (h : findWindow context p (Scene.of i u).isLiteral cursor words = some w) :
    Foremost (Fits context i u words p cursor) w := by
  have hfits : Fits context i u words p cursor = fun v =>
      v ∈ windows p.slot.kind (Scene.of i u).isLiteral cursor ∧
        isValueOf context p (windowText words v) := funext fun v => propext fits_iff
  rw [hfits]
  exact foremost_of_find? (pairwise_windows _ _ _) h

theorem not_fits_of_findWindow {words : List String}
    (h : findWindow context p (Scene.of i u).isLiteral cursor words = none) :
    ∀ v, ¬Fits context i u words p cursor v := by
  intro v hv
  obtain ⟨hmem, hvalue⟩ := fits_iff.1 hv
  exact List.find?_eq_none.1 h v hmem hvalue

theorem assigns_locateAll (context : Slot.Context) (i : Intent) (u : Normalized) (cursor : Nat)
    (ps : List SlotPattern) :
    Assigns context i u cursor ps ((Scene.of i u).locateAll context cursor ps) := by
  induction ps generalizing cursor with
  | nil => exact .nil
  | cons p ps ih =>
    rw [Scene.locateAll, Scene.locate]
    cases hnormalized : findWindow context p (Scene.of i u).isLiteral cursor (Scene.of i u).normalized with
    | some w => exact .normalized (foremost_of_findWindow hnormalized) (ih w.stop)
    | none =>
      have hnone := not_fits_of_findWindow hnormalized
      rw [Option.none_or]
      cases horiginal : findWindow context p (Scene.of i u).isLiteral cursor (Scene.of i u).original with
      | some w => exact .original hnone (foremost_of_findWindow horiginal) (ih w.stop)
      | none => exact .missing hnone (not_fits_of_findWindow horiginal) (ih cursor)

namespace Assigns

/-- The windows are not empty, lie in the utterance, and stand one behind the other. -/
theorem windows (h : Assigns context i u cursor ps ws) :
    (∀ e ∈ ws, cursor ≤ e.2.start ∧ e.2.start < e.2.stop ∧ e.2.stop ≤ u.tokens.length) ∧
      (ws.map Prod.snd).Pairwise fun v w => v.stop ≤ w.start := by
  induction h with
  | nil => exact ⟨List.forall_mem_nil _, .nil⟩
  | @normalized w ps ws p cursor hw _ ih | @original w ps ws p cursor _ hw _ ih =>
    obtain ⟨hrange, hapart⟩ := ih
    have hcursor := hw.fits.behind
    have hlt := hw.fits.nonempty
    refine ⟨List.forall_mem_cons.2 ⟨⟨hcursor, hlt, hw.fits.inside⟩, fun e he => ?_⟩, ?_⟩
    · obtain ⟨hle, hrest⟩ := hrange e he
      exact ⟨by omega, hrest⟩
    · rw [List.map_cons, List.pairwise_cons]
      refine ⟨fun v hv => ?_, hapart⟩
      obtain ⟨e, he, rfl⟩ := List.mem_map.1 hv
      exact (hrange e he).1
  | missing _ _ _ ih => exact ih

theorem sublist (h : Assigns context i u cursor ps ws) : (ws.map Prod.fst).Sublist ps := by
  induction h with
  | nil => exact .slnil
  | normalized _ _ ih | original _ _ _ ih => exact ih.cons_cons _
  | missing _ _ _ ih => exact ih.cons _

end Assigns

variable {spec : Spec} {phrase locale locale' input : String} {kind : PhraseKind} {lex lex' : Lexicon}
  {context : Slot.Context} {i : Intent} {u : Normalized} {w : Span}

/-- The text as given from the first token of a window to its last. -/
def Given (u : Normalized) (w : Span) (v : String) : Prop :=
  ∃ first last, u.tokens[w.start]? = some first ∧ u.tokens[w.stop - 1]? = some last ∧
    slice? u.original first.original.start last.original.stop = some v

theorem given_of_originalTokens {v : String} (h : u.originalTokens w = some v) : Given u w v := by
  unfold Normalized.originalTokens at h
  obtain ⟨first, hfirst, h⟩ := Option.bind_eq_some_iff.1 h
  split at h
  · cases h
  · obtain ⟨last, hlast, h⟩ := Option.bind_eq_some_iff.1 h
    exact ⟨first, last, hfirst, hlast, h⟩

theorem syntheticCapture_eq (i : Intent) (u : Normalized) (context : Slot.Context) :
    syntheticCapture i u context =
      .ofList (((Scene.of i u).locateAll context 0 i.slots).filterMap fun e =>
        (u.originalTokens e.2).map (e.1.name, ·)) :=
  rfl

theorem nodup_names_of_compile (h : Intent.compile spec phrase kind locale lex = .ok i) :
    (i.slots.map SlotPattern.name).Nodup := by
  obtain ⟨us, -, -, -, hcompiled⟩ := Intent.compiled_of_compile h
  rw [hcompiled.names]
  exact hcompiled.nodup

/-- The texts of slots with different names are those of their windows. -/
theorem get?_syntheticCapture (h : (i.slots.map SlotPattern.name).Nodup) {e : SlotPattern × Span}
    (he : e ∈ (Scene.of i u).locateAll context 0 i.slots) {v : String}
    (hv : u.originalTokens e.2 = some v) : (syntheticCapture i u context).get? e.1.name = some v := by
  have hsublist := (assigns_locateAll context i u 0 i.slots).sublist.map SlotPattern.name
  rw [List.map_map] at hsublist
  rw [syntheticCapture_eq]
  apply OrderedMap.get?_ofList
  · exact (h.sublist hsublist).sublist
      (map_fst_filterMap_sublist (fun e : SlotPattern × Span => e.1.name) _ _)
  · exact List.mem_filterMap.2 ⟨e, he, by rw [hv]; rfl⟩

theorem exists_of_mem_keys_syntheticCapture {name : String}
    (h : name ∈ (syntheticCapture i u context).keys) :
    ∃ e ∈ (Scene.of i u).locateAll context 0 i.slots, e.1.name = name := by
  rw [syntheticCapture_eq, OrderedMap.mem_keys_ofList, List.mem_map] at h
  obtain ⟨⟨name, v⟩, hmem, rfl⟩ := h
  obtain ⟨e, he, hv⟩ := List.mem_filterMap.1 hmem
  obtain ⟨v', -, heq⟩ := Option.map_eq_some_iff.1 hv
  exact ⟨e, he, congrArg Prod.fst heq⟩

/-- Texts of slots are those of the windows that the slots take, one slot after the other. -/
structure Greedy (context : Slot.Context) (i : Intent) (u : Normalized) (c : Captures)
    (ws : List (SlotPattern × Span)) : Prop where
  assigns : Assigns context i u 0 i.slots ws
  captured : ∀ e ∈ ws, ∃ v, Given u e.2 v ∧ c.get? e.1.name = some v
  only : ∀ name ∈ c.keys, ∃ e ∈ ws, e.1.name = name
  inside : ∀ e ∈ ws, e.2.start < e.2.stop ∧ e.2.stop ≤ u.tokens.length
  apart : (ws.map Prod.snd).Pairwise fun v w => v.stop ≤ w.start

/-- Each slot takes the first window that fits, and of those that start there the longest; its text is the
utterance's from the first token of that window to the last. -/
theorem exists_greedy_syntheticCapture (h : Intent.compile spec phrase kind locale lex = .ok i)
    (lex' : Lexicon) (locale' input : String) (context : Slot.Context) :
    ∃ ws, Greedy context i (normalize lex' locale' input)
      (syntheticCapture i (normalize lex' locale' input) context) ws := by
  have hassigns := assigns_locateAll context i (normalize lex' locale' input) 0 i.slots
  obtain ⟨hrange, hapart⟩ := hassigns.windows
  refine ⟨_, hassigns, fun e he => ?_, fun name => exists_of_mem_keys_syntheticCapture,
    fun e he => (hrange e he).2, hapart⟩
  obtain ⟨-, hlt, hle⟩ := hrange e he
  obtain ⟨v, hv, -⟩ := exists_originalTokens hlt hle
  exact ⟨v, given_of_originalTokens hv, get?_syntheticCapture (nodup_names_of_compile h) he hv⟩

/-- The number is found among other words, and the place behind it. -/
theorem exists_greedy_syntheticCapture_chairs :
    ∃ i, Intent.compile (.spoken "mueve \x7bn\x7d sillas a \x7bx\x7d" [("n", .number), ("x", .text)])
        "mueve \x7bn\x7d sillas a \x7bx\x7d" .canonical "es" {} = .ok i ∧
      (syntheticCapture i (normalize {} "es" "mueve por favor 3 sillas al salón")
        ⟨"es", ⟨2024, 5, 10, by decide⟩⟩).entries = [("n", "3"), ("x", "al salón")] ∧
      ∃ ws, Greedy ⟨"es", ⟨2024, 5, 10, by decide⟩⟩ i
        (normalize {} "es" "mueve por favor 3 sillas al salón")
        (syntheticCapture i (normalize {} "es" "mueve por favor 3 sillas al salón")
          ⟨"es", ⟨2024, 5, 10, by decide⟩⟩) ws := by
  obtain ⟨i, hcompile, hentries⟩ :
      ∃ i ∈ (Intent.compile (.spoken "mueve \x7bn\x7d sillas a \x7bx\x7d"
          [("n", .number), ("x", .text)]) "mueve \x7bn\x7d sillas a \x7bx\x7d" .canonical "es"
          {}).toOption,
        (syntheticCapture i (normalize {} "es" "mueve por favor 3 sillas al salón")
          ⟨"es", ⟨2024, 5, 10, by decide⟩⟩).entries = [("n", "3"), ("x", "al salón")] := by
    decide +kernel
  have hcompile := eq_ok_of_mem_toOption hcompile
  exact ⟨i, hcompile, hentries, exists_greedy_syntheticCapture hcompile {} "es" _ _⟩

end Parlance.Ranking
