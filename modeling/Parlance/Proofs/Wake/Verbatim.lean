import Parlance.Proofs.Wake.Scores
import Parlance.Settings.Basic

/-!
Saying a wake phrase word for word. Main statements: `detect_verbatim`, that the gate opens where the
words of the phrase that fold to something stand together, and `forall_exists_saysForm_iff`, that no
other phrase is found in front of whatever follows it.
-/

namespace Parlance.Wake

open Text Double

variable {o : Options} {l : Listening} {entries : List Entry} {e : Entry} {u form locale : String}
  {tokens : List String} {start limit : Nat} {score : Float} {via : Via} {m : Match}

/-- From one of the first folded words on, the words are those of a form. -/
structure SaysForm (limit : Nat) (tokens : List String) (form : String) (start : Nat) : Prop where
  pos : 0 < (formTokens form).length
  inside : start + (formTokens form).length ≤ tokens.length
  early : start < limit
  same : unwords (window tokens form start) = unwords (formTokens form)

theorem SaysForm.hears (h : SaysForm o.maxCandidates tokens form start)
    (hshare : isShare o.minConfidence) : Hears o tokens form start 1.0 .exact where
  fits := ⟨h.pos, h.inside, Nat.le_sub_one_of_lt h.early⟩
  scored := by rw [h.same, windowScore_self]
  enough := by
    have hconfidence := share_of_isShare hshare
    exact (not_lt_iff_le amount_one.isNaN hconfidence.amount.isNaN).2 hconfidence.le_one

theorem Hears.saysForm (h : Hears o tokens form start score .exact) (hlimit : 0 < o.maxCandidates) :
    SaysForm o.maxCandidates tokens form start where
  pos := h.fits.pos
  inside := h.fits.inside
  early := by
    have hearly := h.fits.early
    omega
  same := eq_of_windowScore_exact h.scored

/-- A window of short texts scores one and is exact, or it scores less. -/
theorem Hears.exact_or_lt (h : Hears o (inputTokens u) form start score via) (hu : Short u)
    (hform : Short form) : (score = 1.0 ∧ via = .exact) ∨ (Share score ∧ score < 1.0) := by
  have hscore := h.scored
  by_cases hsame : unwords (window (inputTokens u) form start) = unwords (formTokens form)
  · rw [hsame, windowScore_self] at hscore
    obtain ⟨rfl, rfl⟩ := Prod.mk.inj (Option.some.inj hscore)
    exact .inl ⟨rfl, rfl⟩
  · have hwindow := folded_window hu form start
    exact .inr ⟨share_windowScore hwindow (folded_form hform) (by decide) hscore,
      windowScore_lt_one hwindow (folded_form hform) (by decide) hsame hscore⟩

/-- An utterance that says a form of an entry opens the gate. -/
theorem matched_of_saysForm (he : e ∈ entries) (hshare : isShare e.minConfidence)
    (hform : form ∈ e.forms) (h : SaysForm l.maxCandidates (inputTokens u) form start) :
    (detect l locale entries u).matched = true := by
  cases hresult : (detect l locale entries u).result with
  | some m => exact detect_matched hresult
  | none =>
    have hheard : e.Hears l locale u form start 1.0 .exact := ⟨hform, h.hears hshare⟩
    exact absurd hheard (detect_result_eq_none_iff.1 hresult e he form start 1.0 .exact)

/-- Among short texts, a phrase is found exactly just where an utterance says one of its forms. -/
theorem detect_exact_iff (hshare : ∀ e ∈ entries, isShare e.minConfidence)
    (hshort : ∀ e ∈ entries, ∀ form ∈ e.forms, Short form) (hu : Short u) (hlimit : 0 < l.maxCandidates) :
    (∃ m, (detect l locale entries u).result = some m ∧ m.score = 1.0 ∧ m.via = .exact) ↔
      ∃ e ∈ entries, ∃ form ∈ e.forms, ∃ start, SaysForm l.maxCandidates (inputTokens u) form start := by
  constructor
  · rintro ⟨m, hm, -, hvia⟩
    obtain ⟨e, he, form, start, score, via, hhears, rfl⟩ := exists_hears_of_detect hm
    obtain rfl : via = .exact := hvia
    exact ⟨e, he, form, hhears.mem, start, hhears.hears.saysForm hlimit⟩
  · rintro ⟨e, he, form, hform, start, hfound⟩
    have hcases : ∀ e ∈ entries, ∀ form start score via, e.Hears l locale u form start score via →
        (score = 1.0 ∧ via = .exact) ∨ (Share score ∧ score < 1.0) :=
      fun e he form start score via hhears =>
        hhears.hears.exact_or_lt hu (hshort e he form hhears.mem)
    have hnumber : ∀ e ∈ entries, ∀ form start score via, e.Hears l locale u form start score via →
        score.isNaN = false := by
      intro e he form start score via hhears
      rcases hcases e he form start score via hhears with ⟨rfl, -⟩ | ⟨hscore, -⟩
      · exact amount_one.isNaN
      · exact hscore.amount.isNaN
    have hheard : e.Hears l locale u form start 1.0 .exact := ⟨hform, hfound.hears (hshare e he)⟩
    obtain ⟨m, hm, hle⟩ := exists_detect_of_hears hnumber he hheard
    obtain ⟨e', he', form', start', score', via', hhears, rfl⟩ := exists_hears_of_detect hm
    rcases hcases e' he' form' start' score' via' hhears with ⟨hone, hexact⟩ | ⟨hscore, hlt⟩
    · exact ⟨_, hm, hone, hexact⟩
    · rw [matchAt_score] at hle
      exact absurd hlt ((not_lt_iff_le hscore.amount.isNaN amount_one.isNaN).2 hle)

/-! Phrases in themselves. -/

/-- The words of a phrase that fold to something stand together, with few words before them. -/
def Aligned (limit : Nat) (form : String) : Prop :=
  ∃ before said behind, inputTokens form = before ++ (said ++ behind) ∧ said ≠ [] ∧
    (∀ t ∈ said, t ≠ "") ∧ (∀ t ∈ before, t = "") ∧ (∀ t ∈ behind, t = "") ∧ before.length < limit

theorem formTokens_eq (form : String) : formTokens form = (inputTokens form).filter (· ≠ "") :=
  rfl

theorem filter_ne_empty_of_empty {ts : List String} (h : ∀ t ∈ ts, t = "") :
    ts.filter (· ≠ "") = [] := by
  rw [List.filter_eq_nil_iff]
  intro t ht
  simpa using h t ht

theorem filter_ne_empty_eq_self_iff {ts : List String} :
    ts.filter (· ≠ "") = ts ↔ ∀ t ∈ ts, t ≠ "" := by
  rw [List.filter_eq_self]
  simp

theorem Aligned.exists_saysForm (h : Aligned limit form) (rest : List String) :
    ∃ start, SaysForm limit (inputTokens form ++ rest) form start := by
  obtain ⟨before, said, behind, htokens, hne, hsaid, hbefore, hbehind, hearly⟩ := h
  have hform : formTokens form = said := by
    rw [formTokens_eq, htokens, List.filter_append, List.filter_append,
      filter_ne_empty_eq_self_iff.2 hsaid, filter_ne_empty_of_empty hbefore,
      filter_ne_empty_of_empty hbehind, List.nil_append, List.append_nil]
  refine ⟨before.length, ?_, ?_, hearly, ?_⟩
  · rw [hform]
    exact List.length_pos_iff.2 hne
  · rw [hform, htokens, List.length_append, List.length_append, List.length_append]
    omega
  · rw [window, hform, htokens, List.append_assoc, List.append_assoc, List.drop_left, List.take_left]

/-- The window of a phrase in itself leaves out only words that fold to nothing, and has no such word. -/
theorem SaysForm.aligned (h : SaysForm limit (inputTokens form) form start) : Aligned limit form := by
  obtain ⟨hpos, hinside, hearly, htext⟩ := h
  generalize hbefore : (inputTokens form).take start = before
  generalize hwindow : window (inputTokens form) form start = said at htext
  generalize hbehind : (inputTokens form).drop (start + (formTokens form).length) = behind
  have hlength : said.length = (formTokens form).length := by
    rw [← hwindow, window, List.length_take, List.length_drop]
    omega
  have htokens : inputTokens form = before ++ (said ++ behind) := by
    rw [← hbefore, ← hwindow, ← hbehind, window, ← List.drop_drop, List.take_append_drop,
      List.take_append_drop]
  have hne : said ≠ [] := List.length_pos_iff.1 (hlength ▸ hpos)
  have hsame : weight said = weight (formTokens form) := by
    rw [← length_unwords hne, ← length_unwords (List.length_pos_iff.1 hpos), htext]
  -- as long as the form and put together from as many words, it holds all that the phrase folds to
  have hweight := weight_filter_ne_empty (inputTokens form)
  rw [← formTokens_eq, htokens, weight_append, weight_append, List.length_append,
    List.length_append] at hweight
  have hbeforeWeight := length_le_weight before
  have hbehindWeight := length_le_weight behind
  have hbeforeEmpty : ∀ t ∈ before, t = "" := weight_eq_length_iff.1 (by omega)
  have hbehindEmpty : ∀ t ∈ behind, t = "" := weight_eq_length_iff.1 (by omega)
  have hkept : said.filter (· ≠ "") = formTokens form := by
    rw [formTokens_eq, htokens, List.filter_append, List.filter_append,
      filter_ne_empty_of_empty hbeforeEmpty, filter_ne_empty_of_empty hbehindEmpty, List.nil_append,
      List.append_nil]
  have hsaid : said.filter (· ≠ "") = said :=
    List.filter_sublist.eq_of_length (by rw [hkept, hlength])
  refine ⟨before, said, behind, htokens, hne, filter_ne_empty_eq_self_iff.1 hsaid, hbeforeEmpty,
    hbehindEmpty, ?_⟩
  rw [← hbefore, List.length_take]
  exact (Nat.min_le_left _ _).trans_lt hearly

/-- The phrases that are found in front of whatever follows them. -/
theorem forall_exists_saysForm_iff :
    (∀ rest, ∃ start, SaysForm limit (inputTokens form ++ rest) form start) ↔ Aligned limit form := by
  constructor
  · intro h
    obtain ⟨start, hfound⟩ := h []
    rw [List.append_nil] at hfound
    exact hfound.aligned
  · exact Aligned.exists_saysForm

/-! Phrases of settings. -/

theorem Options.fault?_eq_none_iff :
    o.fault? = none ↔ isShare o.minConfidence ∧ 0 < o.maxCandidates := by
  unfold Options.fault?
  split
  · rename_i hshare
    simp_all
  · split
    · rename_i hnone
      simp [hnone]
    · rename_i hshare hsome
      simp only [Bool.not_eq_true', Bool.not_eq_false] at hshare
      exact ⟨fun _ => ⟨hshare, Nat.pos_of_ne_zero hsome⟩, fun _ => rfl⟩

theorem isShare_of_fault? {w : WakeSettings} {configured : String} (h : w.fault? configured = none)
    (he : e ∈ w.entries) : isShare e.minConfidence ∧ 0 < w.maxCandidates := by
  unfold WakeSettings.fault? at h
  split at h
  · cases h
  · split at h
    · cases h
    · have hfault := List.findSome?_eq_none_iff.1 h e he
      rw [WakeSettings.entryFault?, Option.map_eq_none_iff, WakeSettings.optionFault?,
        Options.fault?_eq_none_iff] at hfault
      exact hfault

/-- A wake phrase whose words that fold to something stand together opens the gate in front of whatever
follows. Where all texts are short, it does so exactly and with the highest score. -/
theorem detect_verbatim {w : WakeSettings} {configured : String} (h : w.fault? configured = none)
    (he : e ∈ w.entries) (haligned : Aligned w.maxCandidates e.canonical) (locale r : String) :
    let u := e.canonical ++ " " ++ r
    let d := detect w.toListening locale w.entries u
    d.matched = true ∧ (Short u → (∀ e ∈ w.entries, ∀ form ∈ e.forms, Short form) →
      ∃ m, d.result = some m ∧ m.score = 1.0 ∧ m.via = .exact) := by
  intro u d
  have hshare : ∀ e ∈ w.entries, isShare e.minConfidence := fun e he => (isShare_of_fault? h he).1
  have htokens : inputTokens u = inputTokens e.canonical ++ inputTokens r := by
    rw [inputTokens, words_append_space, List.map_append]
    rfl
  obtain ⟨start, hfound⟩ := haligned.exists_saysForm (inputTokens r)
  rw [← htokens] at hfound
  have hform : e.canonical ∈ e.forms := List.mem_cons_self
  refine ⟨matched_of_saysForm he (hshare e he) hform hfound, fun hu hshort => ?_⟩
  exact (detect_exact_iff hshare hshort hu (isShare_of_fault? h he).2).2
    ⟨e, he, e.canonical, hform, start, hfound⟩

/-- A phrase of two words with a command behind it. -/
theorem detect_verbatim_okNura :
    let w : WakeSettings := { words := [.phrase "ok nura"] }
    let e : Entry := ⟨"ok nura", ["nura"], defaultConfidence⟩
    let u := e.canonical ++ " " ++ "abre"
    let d := detect w.toListening "es" w.entries u
    w.fault? "es" = none ∧ e ∈ w.entries ∧ Aligned w.maxCandidates e.canonical ∧ Short u ∧
      (∀ e ∈ w.entries, ∀ form ∈ e.forms, Short form) ∧
      d.matched = true ∧ ∃ m, d.result = some m ∧ m.score = 1.0 ∧ m.via = .exact := by
  intro w e u d
  have hentries : w.entries = [e] := by with_unfolding_all rfl
  have hfault : w.fault? "es" = none := Option.isNone_iff_eq_none.1 (by decide +kernel)
  have he : e ∈ w.entries := by
    rw [hentries]
    exact List.mem_cons_self
  have haligned : Aligned w.maxCandidates e.canonical :=
    ⟨[], ["ok", "nura"], [], by decide +kernel, by decide, by decide, by decide, by decide, by decide⟩
  have hu : Short u := by
    unfold Short
    decide +kernel
  have hshort : ∀ e ∈ w.entries, ∀ form ∈ e.forms, Short form := by
    rw [hentries]
    unfold Short
    decide +kernel
  obtain ⟨hmatched, hexact⟩ := detect_verbatim hfault he haligned "es" "abre"
  exact ⟨hfault, he, haligned, hu, hshort, hmatched, hexact hu hshort⟩

/-- A phrase with a dash between its words does not open the gate. -/
theorem not_detected_dash :
    let w : WakeSettings := { words := [.entry "ok - nura" [] none] }
    let e : Entry := ⟨"ok - nura", [], defaultConfidence⟩
    let d := detect w.toListening "es" w.entries (e.canonical ++ " " ++ "abre")
    w.fault? "es" = none ∧ w.entries = [e] ∧ d.matched = false ∧
      ¬∃ m, d.result = some m ∧ m.score = 1.0 ∧ m.via = .exact := by
  intro w e d
  have hfault : w.fault? "es" = none := Option.isNone_iff_eq_none.1 (by decide +kernel)
  have hentries : w.entries = [e] := by with_unfolding_all rfl
  have hclosed : d.matched = false := by decide +kernel
  refine ⟨hfault, hentries, hclosed, ?_⟩
  rintro ⟨m, hm, -⟩
  rw [detect_matched hm] at hclosed
  cases hclosed

end Parlance.Wake
