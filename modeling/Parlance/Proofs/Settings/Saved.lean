import Parlance.Proofs.Ranking.Admission
import Parlance.Proofs.Wake.Verbatim
import Parlance.Settings.Document

/-!
Settings written as a document and read back. Main statement: `ofToml_toToml?_of_valid`, that valid
settings are read back from their document, and have one where their counts fit its integers.
-/

namespace Parlance

open Toml

/-! Values and fields written and read. -/

namespace Toml

section

variable {α : Type} {name k : String} {f : Value → Read α} {x : α} {v : Value} {fields : Fields}

@[simp] theorem Fields.withDefault_cons_self :
    Fields.withDefault ((name, v) :: fields) name f x = f v := by
  rw [Fields.withDefault, Fields.optional, List.lookup_cons_self]
  dsimp only
  cases f v <;> rfl

@[simp] theorem Fields.withDefault_cons_of_ne (h : name ≠ k) :
    Fields.withDefault ((k, v) :: fields) name f x = Fields.withDefault fields name f x := by
  have hkey : (name == k) = false := beq_false_of_ne h
  rw [Fields.withDefault, Fields.optional, List.lookup_cons, hkey]
  rfl

end

theorem Value.asList_map {α : Type} {f : Value → Read α} {g : α → Value} (h : ∀ a, f (g a) = .ok a)
    (l : List α) : Value.asList f (.array (l.map g)) = .ok l := by
  rw [Value.asList]
  induction l with
  | nil => rfl
  | cons a l ih =>
    rw [List.map_cons, List.mapM_cons, h, ih]
    rfl

theorem Value.asList_texts (l : List String) :
    Value.asList Value.asText (.array (l.map .text)) = .ok l :=
  Value.asList_map (f := Value.asText) (g := .text) (fun _ => rfl) l

end Toml

theorem asNat_of_countToToml? {n : Nat} {v : Value} (h : countToToml? n = some v) :
    v.asNat = .ok n := by
  unfold countToToml? at h
  split at h
  · cases h
    rw [Value.asNat, if_pos (Int.natCast_nonneg n), Int.toNat_natCast]
  · cases h

theorem countToToml?_isSome_iff {n : Nat} : (countToToml? n).isSome ↔ n < 2 ^ 63 := by
  unfold countToToml?
  split
  · rename_i h
    simpa using h
  · rename_i h
    simpa using h

namespace Wake

theorem Strategy.ofToml_name (s : Strategy) : Strategy.ofToml (.text s.name) = .ok s := by
  cases s <;> rfl

theorem WakeWord.ofToml_toToml (w : WakeWord) : WakeWord.ofToml w.toToml = .ok w := by
  cases w with
  | phrase s => rfl
  | entry canonical aliases minConfidence =>
    cases minConfidence <;>
      simp [toToml, ofToml, Fields.required, Fields.optional, List.lookup, Value.asText,
        Value.asList_texts, Value.asReal, bind, Except.bind, pure, Except.pure, Except.map]

/-- The confidence that a configured phrase names. -/
def WakeWord.confidence? : WakeWord → Option Float
  | .phrase _ => none
  | .entry _ _ minConfidence => minConfidence

theorem isNaN_of_isShare {x : Float} (h : isShare x) : x.isNaN = false := by
  rw [isShare, Bool.and_eq_true, decide_eq_true_eq, decide_eq_true_eq] at h
  exact (Double.isNaN_eq_false_of_le h.2).1

end Wake

theorem Matching.isNaN_synonymBonus {m : Matching} (h : m.fault? = none) :
    m.synonymBonus.isNaN = false :=
  (fault?_eq_none_iff.1 h).2.1

/-- In valid settings a phrase with a confidence is listened for, with that confidence. -/
theorem WakeSettings.exists_entry {w : WakeSettings} {locale : String} (h : w.fault? locale = none)
    {word : Wake.WakeWord} (hword : word ∈ w.words) {x : Float} (hx : word.confidence? = some x) :
    ∃ e ∈ w.entries, e.minConfidence = x := by
  cases word with
  | phrase s => cases hx
  | entry canonical aliases minConfidence =>
    cases hx
    unfold fault? at h
    split at h
    · cases h
    · split at h
      · cases h
      · rename_i hblank
        have htext : Text.trim canonical ≠ "" := by
          intro hempty
          exact hblank (List.any_eq_true.2 ⟨_, hword, Text.isBlank_iff.2 hempty⟩)
        refine ⟨⟨Text.trim canonical, (aliases.map Text.trim).filter (· ≠ ""), x⟩, ?_, rfl⟩
        refine List.mem_filterMap.2 ⟨_, hword, ?_⟩
        rw [Wake.WakeWord.entry?, if_neg (by simpa using htext), Option.getD_some]

section

variable {count : Value}

theorem Matching.ofToml_written {m : Matching} (h : count.asNat = .ok m.topK) :
    Matching.ofToml (.table [("fuzzy", .bool m.fuzzy), ("threshold", .real m.threshold),
      ("admission_factor", .real m.admissionFactor), ("synonym_bonus", .real m.synonymBonus),
      ("top_k", count)]) = .ok m := by
  simp [ofToml, Value.asRecord, Value.asBool, Value.asReal, h, bind, Except.bind, pure, Except.pure]

theorem WakeSettings.ofToml_written {w : WakeSettings} (h : count.asNat = .ok w.maxCandidates) :
    WakeSettings.ofToml (.table [("words", .array (w.words.map Wake.WakeWord.toToml)),
      ("strategy", .text w.strategy.name), ("max_candidates", count)]) = .ok w := by
  have hwords := Value.asList_map Wake.WakeWord.ofToml_toToml w.words
  simp [ofToml, Value.asRecord, hwords, Wake.Strategy.ofToml_name, h, bind, Except.bind, pure,
    Except.pure]

end

namespace Settings

variable {s : Settings}

/-- Settings are read back from their document, valid or not. -/
theorem ofToml_of_toToml? {fields : Fields} (h : s.toToml? = some fields) :
    Settings.ofToml fields = .ok s := by
  obtain ⟨topK, htopK, hrest⟩ := Option.bind_eq_some_iff.1 h
  obtain ⟨maxCandidates, hcandidates, hfields⟩ := Option.bind_eq_some_iff.1 hrest
  cases hfields
  have hmatching := Matching.ofToml_written (asNat_of_countToToml? htopK)
  have hwake := WakeSettings.ofToml_written (asNat_of_countToToml? hcandidates)
  simp [ofToml, Value.asText, Value.asList_texts, Value.asBool, hmatching, hwake, bind, Except.bind,
    pure, Except.pure]

theorem isSome_toToml? :
    s.toToml?.isSome ↔ s.matching.topK < 2 ^ 63 ∧ s.wake.maxCandidates < 2 ^ 63 := by
  rw [← countToToml?_isSome_iff, ← countToToml?_isSome_iff, toToml?]
  cases countToToml? s.matching.topK with
  | none => simp
  | some topK => cases countToToml? s.wake.maxCandidates <;> simp

/-- The numbers that stand in settings; only what is a number is equal to itself. -/
def numbers (s : Settings) : List Float :=
  [s.matching.threshold, s.matching.admissionFactor, s.matching.synonymBonus] ++
    s.wake.words.filterMap Wake.WakeWord.confidence?

/-- What stands for a number in valid settings is one. -/
theorem isNaN_of_mem_numbers (h : s.fault? = none) {x : Float} (hx : x ∈ s.numbers) :
    x.isNaN = false := by
  obtain ⟨-, hmatching, hwake⟩ := fault?_eq_none_iff.1 h
  rcases List.mem_append.1 hx with hx | hx
  · have hshares := Matching.shares_of_fault? hmatching
    have hbonus := Matching.isNaN_synonymBonus hmatching
    simp only [List.mem_cons, List.not_mem_nil, or_false] at hx
    rcases hx with rfl | rfl | rfl
    · exact Wake.isNaN_of_isShare hshares.threshold
    · exact Wake.isNaN_of_isShare hshares.admissionFactor
    · exact hbonus
  · obtain ⟨word, hword, hconfidence⟩ := List.mem_filterMap.1 hx
    obtain ⟨e, he, rfl⟩ := WakeSettings.exists_entry hwake hword hconfidence
    exact Wake.isNaN_of_isShare (Wake.isShare_of_fault? hwake he).1

/-- Valid settings have a document just if their counts fit its integers, and are equal to what is read
back from it. -/
theorem ofToml_toToml?_of_valid (h : s.fault? = none) :
    (s.toToml?.isSome ↔ s.matching.topK < 2 ^ 63 ∧ s.wake.maxCandidates < 2 ^ 63) ∧
      (∀ fields, s.toToml? = some fields → Settings.ofToml fields = .ok s) ∧
      ∀ x ∈ s.numbers, x.isNaN = false :=
  ⟨isSome_toToml?, fun _ => ofToml_of_toToml?, fun _ => isNaN_of_mem_numbers h⟩

/-- Settings with a plain wake phrase and one with details. -/
def attentive : Settings where
  trace := true
  wake := { words := [.phrase "ok nura", .entry "hey sol" ["sol"] (some 0.5)] }

theorem ofToml_toToml?_attentive :
    attentive.fault? = none ∧
      ∃ fields, attentive.toToml? = some fields ∧ Settings.ofToml fields = .ok attentive := by
  have hfault : attentive.fault? = none := by
    rw [← Option.isNone_iff_eq_none]
    decide +kernel
  obtain ⟨hsome, hread, -⟩ := ofToml_toToml?_of_valid hfault
  obtain ⟨fields, hfields⟩ := Option.isSome_iff_exists.1 (hsome.2 (by decide))
  exact ⟨hfault, fields, hfields, hread fields hfields⟩

/-- Settings that keep more candidates than a count of a document can tell. -/
def ample : Settings where
  matching := { topK := 2 ^ 63 }

/-- Valid settings with a count of sixty-four bits have no document. -/
theorem exists_toToml?_eq_none :
    ¬∀ s : Settings, s.fault? = none →
      ∃ fields, s.toToml? = some fields ∧ Settings.ofToml fields = .ok s := by
  intro h
  have hfault : ample.fault? = none := by
    rw [← Option.isNone_iff_eq_none]
    decide +kernel
  have hnone : ample.toToml? = none := rfl
  obtain ⟨fields, hfields, -⟩ := h ample hfault
  rw [hnone] at hfields
  cases hfields

end Settings

end Parlance
