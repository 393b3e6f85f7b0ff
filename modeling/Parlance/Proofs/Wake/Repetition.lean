import Parlance.Proofs.Wake.Stripping
import Parlance.Settings.Basic

/-!
Taking off the wake phrase once and again. Main statement: `stripped_stripped_eq_iff`, that the second time
changes nothing just where no entry hears anything in what the first one left.
-/

namespace Parlance.Wake

open Text

/-- What is left of an utterance without the wake phrase. -/
def stripped (l : Listening) (locale : String) (entries : List Entry) (u : String) : String :=
  strip u (detect l locale entries u).result

variable {l : Listening} {locale u : String} {entries : List Entry} {m : Match} {first last : Nat}

/-- No blanks are left around what is left. -/
theorem trim_stripped (l : Listening) (locale : String) (entries : List Entry) (u : String) :
    trim (stripped l locale entries u) = stripped l locale entries u := by
  unfold stripped
  cases h : (detect l locale entries u).result with
  | none => exact trim_trim u
  | some m =>
    obtain ⟨first, last, hcovers⟩ := exists_covers_of_detect h
    rw [hcovers.strip_eq]
    exact trim_unwords solid_of_mem_rest

theorem stripped_of_not_detected (h : (detect l locale entries u).result = none) :
    stripped l locale entries u = trim u := by
  rw [stripped, h]
  rfl

theorem Match.Covers.length_words_strip_lt (h : m.Covers (words u) first last) :
    (words (strip u (some m))).length < (words u).length := by
  have hstart := stripStart_le (words u) first
  have hordered := h.ordered
  have hinside := h.inside
  rw [h.leftOver.words, List.length_append, List.length_take, List.length_drop]
  omega

/-- A match takes off at least one word. -/
theorem length_words_stripped_lt (h : (detect l locale entries u).result = some m) :
    (words (stripped l locale entries u)).length < (words u).length := by
  obtain ⟨first, last, hcovers⟩ := exists_covers_of_detect h
  rw [stripped, h]
  exact hcovers.length_words_strip_lt

/-- The second time changes nothing just where no entry takes any window of what the first one left for one
of its forms. -/
theorem stripped_stripped_eq_iff (l : Listening) (locale : String) (entries : List Entry) (u : String) :
    let once := stripped l locale entries u
    stripped l locale entries once = once ↔
      ∀ e ∈ entries, ∀ form start score via, ¬e.Hears l locale once form start score via := by
  intro once
  rw [← detect_result_eq_none_iff]
  constructor
  · intro hsame
    cases h : (detect l locale entries once).result with
    | none => rfl
    | some m =>
      have hlt := length_words_stripped_lt h
      rw [hsame] at hlt
      exact absurd hlt (Nat.lt_irrefl _)
  · intro h
    rw [stripped_of_not_detected h]
    exact trim_stripped l locale entries u

/-- A wake phrase said twice is taken off once each time. -/
theorem stripped_stripped_ne :
    let w : WakeSettings := { words := [.phrase "nura"] }
    let once := stripped w.toListening "es" w.entries "nura nura abre"
    w.fault? "es" = none ∧ w.entries ≠ [] ∧ once = "nura abre" ∧
      stripped w.toListening "es" w.entries once = "abre" ∧
      stripped w.toListening "es" w.entries once ≠ once := by
  intro w once
  have hfault : w.fault? "es" = none := Option.isNone_iff_eq_none.1 (by decide +kernel)
  have hentries : w.entries ≠ [] := by decide +kernel
  have honce : once = "nura abre" := by decide +kernel
  have htwice : stripped w.toListening "es" w.entries "nura abre" = "abre" := by decide +kernel
  rw [honce]
  exact ⟨hfault, hentries, rfl, htwice, by rw [htwice]; decide⟩

theorem stripped_stripped_of_not_detected (h : (detect l locale entries u).result = none) :
    stripped l locale entries (stripped l locale entries u) = stripped l locale entries u := by
  have htokens : inputTokens (stripped l locale entries u) = inputTokens u := by
    rw [stripped_of_not_detected h, inputTokens, words_trim]
    rfl
  have hagain : (detect l locale entries (stripped l locale entries u)).result = none := by
    rw [detect_result_eq_none_iff] at h ⊢
    intro e he form start score via hhears
    have hheard := hhears.hears
    rw [htokens] at hheard
    exact h e he form start score via ⟨hhears.mem, hheard⟩
  rw [stripped_of_not_detected hagain]
  exact trim_stripped l locale entries u

/-- Again and again, taking off the wake phrase comes to an end, since each time a word is lost. -/
theorem exists_iterate_stripped_eq (l : Listening) (locale : String) (entries : List Entry)
    (u : String) :
    ∃ n ≤ (words u).length + 1, let left := (stripped l locale entries)^[n] u
      stripped l locale entries left = left := by
  induction hlength : (words u).length using Nat.strong_induction_on generalizing u with
  | _ length ih =>
    cases h : (detect l locale entries u).result with
    | none => exact ⟨1, Nat.le_add_left 1 length, stripped_stripped_of_not_detected h⟩
    | some m =>
      have hlt := length_words_stripped_lt h
      rw [hlength] at hlt
      obtain ⟨n, hn, hleft⟩ := ih _ hlt (stripped l locale entries u) rfl
      exact ⟨n + 1, by omega, hleft⟩

end Parlance.Wake
