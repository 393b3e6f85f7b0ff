import Mathlib.Data.List.Basic
import Parlance.Phonetic.Key

/-!
Spellings that Spanish speakers pronounce alike. Main statement: `flattenSpanish_twins`, that texts which
differ by two such spellings in one place are rewritten to the same text, and so have one phonetic key.
-/

namespace Parlance.Phonetic

variable {p x y r r' : List Char} {c : Char}

/-! One character after another. -/

/-- Two letters that are pronounced otherwise than one after the other. -/
def Joins (c d : Char) : Prop :=
  c = 'l' ∧ d = 'l' ∨ c = 'q' ∧ d = 'u' ∨ c = 'c' ∧ (d = 'h' ∨ d = 'e' ∨ d = 'i')

/-- What a letter becomes that is not joined with the next one. -/
def alone : Char → List Char
  | 'z' => ['s']
  | 'h' => []
  | 'v' => ['b']
  | c => [c]

theorem flattenSpanish_cons (h : ∀ d ∈ r.head?, ¬Joins c d) :
    flattenSpanish (c :: r) = alone c ++ flattenSpanish r := by
  unfold alone
  split
  · rw [flattenSpanish]
    rfl
  · rw [flattenSpanish]
    rfl
  · rw [flattenSpanish]
    rfl
  · rename_i hz hh hv
    have hnext {d : Char} (hjoins : Joins c d) (rest : List Char) : r ≠ d :: rest := by
      rintro rfl
      exact h d rfl hjoins
    rw [flattenSpanish]
    · rfl
    · exact fun rest hc => hnext (.inl ⟨hc, rfl⟩) rest
    · exact fun rest hc => hnext (.inr (.inl ⟨hc, rfl⟩)) rest
    · exact fun rest hc => hnext (.inr (.inr ⟨hc, .inl rfl⟩)) rest
    · exact fun rest hc => hnext (.inr (.inr ⟨hc, .inr (.inl rfl)⟩)) rest
    · exact fun rest hc => hnext (.inr (.inr ⟨hc, .inr (.inr rfl)⟩)) rest
    · exact hz
    · exact hh
    · exact hv

/-- Most letters are joined with none and stay what they are. -/
theorem flattenSpanish_cons_self (h : c ∉ ['l', 'q', 'c', 'z', 'h', 'v']) :
    flattenSpanish (c :: r) = c :: flattenSpanish r := by
  simp only [List.mem_cons, List.not_mem_nil, or_false, not_or] at h
  obtain ⟨hl, hq, hc, hz, hh, hv⟩ := h
  have halone : alone c = [c] := by
    unfold alone
    split <;> first | contradiction | rfl
  rw [flattenSpanish_cons (fun d _ => by simp [Joins, hl, hq, hc]), halone]
  rfl

/-- What two letters become depends on them only, and so does whether the second one is used up. -/
theorem flattenSpanish_cons_cons (c d : Char) :
    ∃ out, (∀ rest, flattenSpanish (c :: d :: rest) = out ++ flattenSpanish rest) ∨
      ∀ rest, flattenSpanish (c :: d :: rest) = out ++ flattenSpanish (d :: rest) := by
  by_cases h : Joins c d
  · rcases h with ⟨rfl, rfl⟩ | ⟨rfl, rfl⟩ | ⟨rfl, rfl | rfl | rfl⟩
    · exact ⟨['y'], .inl fun rest => by rw [flattenSpanish]; rfl⟩
    · exact ⟨['k'], .inl fun rest => by rw [flattenSpanish]; rfl⟩
    · exact ⟨['c', 'h'], .inl fun rest => by rw [flattenSpanish]; rfl⟩
    · exact ⟨['s'], .inr fun rest => by rw [flattenSpanish]; rfl⟩
    · exact ⟨['s'], .inr fun rest => by rw [flattenSpanish]; rfl⟩
  · refine ⟨alone c, .inr fun rest => flattenSpanish_cons ?_⟩
    rintro _ ⟨⟩
    exact h

/-- Texts that are rewritten alike, by themselves and behind the last character of a text, are rewritten
alike behind all of it. -/
theorem flattenSpanish_append_congr (h : flattenSpanish r = flattenSpanish r') :
    ∀ {p : List Char}, (∀ c ∈ p.getLast?, flattenSpanish (c :: r) = flattenSpanish (c :: r')) →
      flattenSpanish (p ++ r) = flattenSpanish (p ++ r')
  | [], _ => h
  | [c], hlast => hlast c rfl
  | c :: d :: rest, hlast => by
    obtain ⟨out, htwo | hone⟩ := flattenSpanish_cons_cons c d
    · have hrest : ∀ e ∈ rest.getLast?, flattenSpanish (e :: r) = flattenSpanish (e :: r') := by
        intro e he
        apply hlast e
        rw [List.getLast?_cons_cons, List.getLast?_cons, he]
        rfl
      change flattenSpanish (c :: d :: (rest ++ r)) = flattenSpanish (c :: d :: (rest ++ r'))
      rw [htwo, htwo, flattenSpanish_append_congr h hrest]
    · rw [List.getLast?_cons_cons] at hlast
      change flattenSpanish (c :: d :: (rest ++ r)) = flattenSpanish (c :: d :: (rest ++ r'))
      rw [hone, hone]
      exact congrArg (out ++ ·) (flattenSpanish_append_congr h hlast)

/-! Twins. -/

/-- Two spellings that are pronounced alike behind a text. -/
inductive Twins (p : List Char) : List Char → List Char → Prop
  | vAsB : Twins p ['v'] ['b']
  | zAsS : Twins p ['z'] ['s']
  | softC {c : Char} (hc : c = 'e' ∨ c = 'i') : Twins p ['c', c] ['s', c]
  | quAsK : Twins p ['q', 'u'] ['k']
  | llAsY (h : p.getLast? ≠ some 'l') : Twins p ['l', 'l'] ['y']
  | silentH (h : ∀ c ∈ p.getLast?, c ≠ 'c' ∧ c ≠ 'l' ∧ c ≠ 'q') : Twins p ['h'] []

namespace Twins

/-- What stands before the twins is joined with neither. -/
theorem not_joins (h : Twins p x y) (s : List Char) (hc : c ∈ p.getLast?) :
    (∀ d ∈ (x ++ s).head?, ¬Joins c d) ∧ ∀ d ∈ (y ++ s).head?, ¬Joins c d := by
  cases h with
  | vAsB | zAsS | softC | quAsK => simp [Joins]
  | llAsY hl =>
    have hne : c ≠ 'l' := fun heq => hl (heq ▸ hc)
    simp [Joins, hne]
  | silentH hh =>
    obtain ⟨hcne, hlne, hqne⟩ := hh c hc
    simp [Joins, hcne, hlne, hqne]

theorem flattenSpanish_eq (h : Twins p x y) (s : List Char) :
    flattenSpanish (x ++ s) = flattenSpanish (y ++ s) := by
  cases h with
  | vAsB =>
    change flattenSpanish ('v' :: s) = flattenSpanish ('b' :: s)
    rw [flattenSpanish, flattenSpanish_cons_self (by decide)]
  | zAsS =>
    change flattenSpanish ('z' :: s) = flattenSpanish ('s' :: s)
    rw [flattenSpanish, flattenSpanish_cons_self (by decide)]
  | @softC c hc =>
    change flattenSpanish ('c' :: c :: s) = flattenSpanish ('s' :: c :: s)
    rw [flattenSpanish_cons_self (c := 's') (by decide)]
    rcases hc with rfl | rfl <;> rw [flattenSpanish]
  | quAsK =>
    change flattenSpanish ('q' :: 'u' :: s) = flattenSpanish ('k' :: s)
    rw [flattenSpanish, flattenSpanish_cons_self (by decide)]
  | llAsY =>
    change flattenSpanish ('l' :: 'l' :: s) = flattenSpanish ('y' :: s)
    rw [flattenSpanish, flattenSpanish_cons_self (by decide)]
  | silentH =>
    change flattenSpanish ('h' :: s) = flattenSpanish s
    rw [flattenSpanish]

theorem flattenSpanish_append_eq (h : Twins p x y) (s : List Char) :
    flattenSpanish (p ++ x ++ s) = flattenSpanish (p ++ y ++ s) := by
  rw [List.append_assoc, List.append_assoc]
  apply flattenSpanish_append_congr (h.flattenSpanish_eq s)
  intro c hc
  obtain ⟨hx, hy⟩ := h.not_joins s hc
  rw [flattenSpanish_cons hx, flattenSpanish_cons hy, h.flattenSpanish_eq s]

end Twins

/-! Keys. -/

/-- The words of a text as they are before their spelling is changed. -/
def foldedWords (text : String) : List String :=
  (Text.words text).map Text.foldToken

theorem code_respell_empty (locale : String) : code (respell locale "") = "" := by
  have hempty : respell locale "" = "" := by
    unfold respell
    split <;> rfl
  rw [hempty]
  decide

theorem filter_map_filter_ne_empty {f : String → String} (hf : f "" = "") (l : List String) :
    ((l.filter (· ≠ "")).map f).filter (· ≠ "") = (l.map f).filter (· ≠ "") := by
  induction l with
  | nil => rfl
  | cons w l ih =>
    by_cases hw : w = ""
    · subst hw
      rw [List.filter_cons_of_neg (by simp), ih, List.map_cons, List.filter_cons_of_neg (by simp [hf])]
    · rw [List.filter_cons_of_pos (by simpa using hw), List.map_cons, List.map_cons, List.filter_cons,
        List.filter_cons, ih]

theorem key_eq (text locale : String) :
    key text locale =
      Text.unwords (((foldedWords text).map fun w => code (respell locale w)).filter (· ≠ "")) :=
  congrArg Text.unwords (filter_map_filter_ne_empty (code_respell_empty locale) (foldedWords text))

/-- Texts that differ by twins in one place are rewritten to the same text, and texts with one such word
among equal ones have one phonetic key in each Spanish locale. -/
theorem flattenSpanish_twins (h : Twins p x y) (s : List Char) :
    flattenSpanish (p ++ x ++ s) = flattenSpanish (p ++ y ++ s) ∧
      ∀ locale text text' before after, Locale.isSpanish locale →
        foldedWords text = before ++ String.ofList (p ++ x ++ s) :: after →
        foldedWords text' = before ++ String.ofList (p ++ y ++ s) :: after →
        key text locale = key text' locale := by
  have hflat := h.flattenSpanish_append_eq s
  refine ⟨hflat, fun locale text text' before after hspanish htext htext' => ?_⟩
  have hrespell : respell locale (String.ofList (p ++ x ++ s)) =
      respell locale (String.ofList (p ++ y ++ s)) := by
    unfold respell
    rw [if_pos hspanish, if_pos hspanish, String.toList_ofList, String.toList_ofList, hflat]
  rw [key_eq, key_eq, htext, htext', List.map_append, List.map_append, List.map_cons, List.map_cons,
    hrespell]

/-- A street as it is spelled and as it is said. -/
theorem flattenSpanish_twins_calle :
    flattenSpanish "calle".toList = flattenSpanish "caye".toList ∧
      key "La Calle" "es-CR" = key "¡la caye!" "es-CR" := by
  have htwins : Twins "ca".toList ['l', 'l'] ['y'] := .llAsY (by decide)
  obtain ⟨hflat, hkey⟩ := flattenSpanish_twins htwins ['e']
  refine ⟨hflat, hkey "es-CR" "La Calle" "¡la caye!" ["la"] [] ?_ ?_ ?_⟩ <;> decide +kernel

end Parlance.Phonetic
