import Mathlib.Data.List.Basic
import Parlance.Proofs.Text.Words

/-!
Words put together again with single spaces. Main statements: `words_unwords`, that nothing of them is
lost, and `trim_unwords`, that no blanks stand around them.
-/

namespace Parlance.Text

open Unicode

/-- What can stand as a word in a text. -/
structure Solid (w : String) : Prop where
  nonempty : w.toList ≠ []
  solid : ∀ c ∈ w.toList, ¬isWhiteSpace c

instance (w : String) : Decidable (Solid w) :=
  decidable_of_iff (w.toList ≠ [] ∧ w.toList.all (!isWhiteSpace ·))
    ⟨fun h => ⟨h.1, by simpa using h.2⟩, fun h => ⟨h.nonempty, by simpa using h.solid⟩⟩

variable {s : String} {ws : List String}

theorem words_eq (s : String) : words s = (wordsOf s.toList).map String.ofList := by
  rw [wordsOf, List.map_map]
  rfl

theorem solid_of_mem_words {w : String} (h : w ∈ words s) : Solid w := by
  obtain ⟨placed, hplaced, rfl⟩ := List.mem_map.1 h
  obtain ⟨hne, hsolid⟩ := solid_of_mem_wordsFrom_nil hplaced
  rw [Word.text]
  exact ⟨by rwa [String.toList_ofList], by rwa [String.toList_ofList]⟩

theorem Solid.words_eq {w : String} (h : Solid w) : words w = [w] := by
  rw [Text.words_eq, wordsOf_of_solid h.nonempty h.solid, List.map_singleton, String.ofList_toList]

@[simp] theorem words_trim (s : String) : words (trim s) = words s := by
  rw [words_eq, words_eq, wordsOf_trim]

/-- The words of two texts with a space between. -/
theorem words_append_space (s r : String) : words (s ++ " " ++ r) = words s ++ words r := by
  have hlist : (s ++ " " ++ r).toList = s.toList ++ ' ' :: r.toList := by simp
  rw [words_eq, words_eq, words_eq, hlist, wordsOf_append_cons (by decide), List.map_append]

theorem unwords_cons_cons (w v : String) (ws : List String) :
    unwords (w :: v :: ws) = w ++ " " ++ unwords (v :: ws) :=
  String.intercalate_cons_cons

/-- Of words put together the empty ones are lost. -/
theorem words_unwords_filter (h : ∀ w ∈ ws, ∀ c ∈ w.toList, ¬isWhiteSpace c) :
    words (unwords ws) = ws.filter (· ≠ "") := by
  have hword : ∀ w ∈ ws, words w = [w].filter (· ≠ "") := by
    intro w hw
    by_cases hempty : w = ""
    · rw [hempty]
      rfl
    · have hsolid : Solid w := ⟨by simpa using hempty, h w hw⟩
      rw [hsolid.words_eq, List.filter_cons_of_pos (by simpa using hempty), List.filter_nil]
  induction ws with
  | nil => rfl
  | cons w ws ih =>
    obtain ⟨hw, hws⟩ := List.forall_mem_cons.1 h
    obtain ⟨hfirst, hrest⟩ := List.forall_mem_cons.1 hword
    rw [← List.singleton_append, List.filter_append, ← hfirst, ← ih hws hrest]
    cases ws with
    | nil => exact (congrArg words String.intercalate_singleton).trans (List.append_nil _).symm
    | cons v ws => rw [List.singleton_append, unwords_cons_cons, words_append_space]

theorem words_unwords (h : ∀ w ∈ ws, Solid w) : words (unwords ws) = ws := by
  rw [words_unwords_filter fun w hw => (h w hw).solid, List.filter_eq_self]
  intro w hw
  simpa using (h w hw).nonempty

theorem head?_unwords (h : ∀ w ∈ ws, Solid w) : ∀ c ∈ (unwords ws).toList.head?, ¬isWhiteSpace c := by
  cases ws with
  | nil => simp [unwords]
  | cons w ws =>
    obtain ⟨hne, hsolid⟩ := h w List.mem_cons_self
    intro c hc
    apply hsolid c
    cases ws with
    | nil =>
      rw [unwords, String.intercalate_singleton] at hc
      exact List.mem_of_mem_head? hc
    | cons v ws =>
      rw [unwords_cons_cons, String.append_assoc, String.toList_append, List.head?_append_of_ne_nil _ hne]
        at hc
      exact List.mem_of_mem_head? hc

theorem getLast?_unwords (h : ∀ w ∈ ws, Solid w) :
    ∀ c ∈ (unwords ws).toList.getLast?, ¬isWhiteSpace c := by
  induction ws with
  | nil => simp [unwords]
  | cons w ws ih =>
    intro c hc
    cases ws with
    | nil =>
      rw [unwords, String.intercalate_singleton] at hc
      exact (h w List.mem_cons_self).solid c (List.mem_of_getLast? hc)
    | cons v ws =>
      have htail : ∀ x ∈ v :: ws, Solid x := fun x hx => h x (List.mem_cons_of_mem _ hx)
      have hne : (unwords (v :: ws)).toList ≠ [] := by
        intro hempty
        have hwords := words_unwords htail
        rw [words_eq, hempty] at hwords
        cases hwords
      rw [unwords_cons_cons, String.toList_append, List.getLast?_append_of_ne_nil _ hne] at hc
      exact ih htail c hc

theorem trim_unwords (h : ∀ w ∈ ws, Solid w) : trim (unwords ws) = unwords ws := by
  apply String.toList_injective
  rw [toList_trim]
  exact trimList_eq_self (head?_unwords h) (getLast?_unwords h)

end Parlance.Text
