import Mathlib.Data.List.Chain
import Parlance.Proofs.Text.Words
import Parlance.Template.Unit

/-!
Templates as read and as filled in. Main statements: `apart_of_parse`, that blanks separate a word from
a word before it, and `laid_of_parse`, that a template whose slots are replaced by texts is its units
written out, with blanks where the units tell.
-/

namespace Parlance.Template

open Unicode

/-! Words are kept apart. -/

def Part.IsWord : Part → Prop
  | .word _ => True
  | .slot _ => False

/-- Of two neighbours that are words, the second has blanks before it. -/
def KeepsApart (u v : Unit) : Prop :=
  u.part.IsWord → v.part.IsWord → v.spaceBefore

/-- Blanks separate a word from a word before it. -/
def Apart (us : List Unit) : Prop :=
  us.IsChain KeepsApart

theorem apart_flush {units : List Unit} {word : List Char} {space : Bool}
    (h : units.IsChain (flip KeepsApart)) (hspace : ∀ u ∈ units.head?, u.part.IsWord → space) :
    (flush units word space).IsChain (flip KeepsApart) := by
  unfold flush
  split
  · exact h
  · refine List.isChain_cons.2 ⟨fun u hu hword _ => ?_, h⟩
    have hne : units ≠ [] := by rintro rfl; cases hu
    simpa [hne] using hspace u hu hword

theorem apart_of_read (l : List Char) :
    (∀ units word (space : Bool) us, units.IsChain (flip KeepsApart) →
      (∀ u ∈ units.head?, u.part.IsWord → space) → readText units word space l = .ok us → Apart us) ∧
    (∀ units space name us, units.IsChain (flip KeepsApart) →
      readName units space name l = .ok us → Apart us) := by
  induction l with
  | nil =>
    refine ⟨fun units word space us hunits hspace h => ?_, fun units space name us _ h => ?_⟩
    · rw [readText] at h
      cases h
      exact List.isChain_reverse.2 (apart_flush hunits hspace)
    · rw [readName] at h
      cases h
  | cons c l ih =>
    refine ⟨fun units word space us hunits hspace h => ?_, fun units space name us hunits h => ?_⟩
    · have hflush : (flush units word space).IsChain (flip KeepsApart) := apart_flush hunits hspace
      rw [readText] at h
      split at h
      · exact ih.1 _ _ _ _ hflush (fun _ _ _ => rfl) h
      · split at h
        · exact ih.2 _ _ _ _ hflush h
        · split at h
          · cases h
          · exact ih.1 _ _ _ _ hunits hspace h
    · rw [readName] at h
      split at h
      · dsimp only at h
        split at h
        · cases h
        · refine ih.1 _ _ _ _ ?_ ?_ h
          · exact List.isChain_cons.2 ⟨fun _ _ _ hword => hword.elim, hunits⟩
          · intro u hu hword
            cases hu
            exact hword.elim
      · split at h
        · cases h
        · exact ih.2 _ _ _ _ hunits h

theorem units_of_parse {phrase : String} {us : List Unit} (h : parse phrase = .ok us) :
    us ≠ [] ∧ readText [] [] false phrase.toList = .ok us := by
  unfold parse at h
  cases hread : readText [] [] false phrase.toList with
  | error fault => rw [hread] at h; cases h
  | ok us' =>
    rw [hread] at h
    cases us' with
    | nil => cases h
    | cons u us' => cases h; exact ⟨List.cons_ne_nil _ _, rfl⟩

/-- Blanks separate a word of a template from a word before it. -/
theorem apart_of_parse {phrase : String} {us : List Unit} (h : parse phrase = .ok us) : Apart us :=
  (apart_of_read phrase.toList).1 [] [] false us .nil (fun _ hu => by cases hu) (units_of_parse h).2

/-! Filling in. -/

mutual

/-- A template from outside of braces on, with the texts of slots by name. -/
def fillText (f : String → String) : List Char → List Char
  | [] => []
  | c :: rest => if c = '\x7b' then fillName f [] rest else c :: fillText f rest

/-- A template from inside of braces on, the name so far last character first. -/
def fillName (f : String → String) (name : List Char) : List Char → List Char
  | [] => []
  | c :: rest =>
    if c = '\x7d' then (f (Text.trim (String.ofList name.reverse))).toList ++ fillText f rest
    else fillName f (c :: name) rest

end

/-- A template with each slot replaced by its text. -/
def fill (f : String → String) (phrase : String) : String :=
  String.ofList (fillText f phrase.toList)

/-- A part written out. -/
def Part.written (f : String → String) : Part → List Char
  | .word text => text.toList
  | .slot name => (f name).toList

/-- A word that is not empty and has no blanks, or a slot. -/
def Part.Solid : Part → Prop
  | .word text => text.toList ≠ [] ∧ ∀ c ∈ text.toList, ¬isWhiteSpace c
  | .slot _ => True

/-- A text is units written out. Behind blanks (`space`) or at the very beginning (`first`) of a
template, blanks before the first unit count differently. -/
inductive Laid (f : String → String) : (first space : Bool) → List Unit → List Char → Prop
  | nil : (∀ c ∈ b, isWhiteSpace c) → Laid f first space [] b
  | cons : (∀ c ∈ b, isWhiteSpace c) → u.part.Solid →
      u.spaceBefore = ((space || !b.isEmpty) && !first) → Laid f false false us l →
      Laid f first space (u :: us) (b ++ u.part.written f ++ l)

variable {f : String → String}

theorem Laid.blank_cons {first space : Bool} {us : List Unit} {l : List Char} {c : Char}
    (h : Laid f first true us l) (hc : isWhiteSpace c) : Laid f first space us (c :: l) := by
  cases h with
  | nil hb => exact .nil (by simpa [hc] using hb)
  | @cons b _ _ _ _ _ hb hu hspace hl =>
    exact .cons (b := c :: b) (by simpa [hc] using hb) hu (by simpa using hspace) hl

theorem Laid.solid {first space : Bool} {us : List Unit} {l : List Char}
    (h : Laid f first space us l) : ∀ u ∈ us, u.part.Solid := by
  induction h with
  | nil => simp
  | cons _ hu _ _ ih => exact List.forall_mem_cons.2 ⟨hu, ih⟩

theorem Laid.unit {part : Part} (hpart : part.Solid) {us : List Unit} {l : List Char}
    (h : Laid f false false us l) (first space : Bool) :
    Laid f first space (⟨part, space && !first⟩ :: us) (part.written f ++ l) :=
  .cons (b := []) (u := ⟨part, space && !first⟩) (by simp) hpart (by simp) h

/-- The units read are those so far and then units of what is still to be read. -/
def LaysOut (f : String → String) (units : List Unit) (space : Bool) (us : List Unit)
    (l : List Char) : Prop :=
  ∃ more, us = units.reverse ++ more ∧ Laid f units.isEmpty space more l

namespace LaysOut

variable {units us : List Unit} {word l : List Char} {space : Bool}

theorem nil : LaysOut f units space units.reverse [] :=
  ⟨[], (List.append_nil _).symm, .nil (List.forall_mem_nil _)⟩

theorem blank_cons {c : Char} (h : LaysOut f units true us l) (hc : isWhiteSpace c) :
    LaysOut f units space us (c :: l) := by
  obtain ⟨more, hmore, hlaid⟩ := h
  exact ⟨more, hmore, hlaid.blank_cons hc⟩

theorem of_addPart (part : Part) (hpart : part.Solid)
    (h : LaysOut f (addPart units part space) false us l) :
    LaysOut f units space us (part.written f ++ l) := by
  obtain ⟨more, hmore, hlaid⟩ := h
  refine ⟨⟨part, space && !units.isEmpty⟩ :: more, ?_, hlaid.unit hpart units.isEmpty space⟩
  rw [hmore, addPart, List.reverse_cons, List.append_assoc, List.singleton_append]

/-- The space before a word is used up by the word, if there is one. -/
theorem of_flush (hword : ∀ c ∈ word, ¬isWhiteSpace c)
    (h : LaysOut f (flush units word space) (space && word.isEmpty) us l) :
    LaysOut f units space us (word.reverse ++ l) := by
  cases word with
  | nil =>
    rw [List.isEmpty_nil, Bool.and_true] at h
    exact h
  | cons c word =>
    rw [List.isEmpty_cons, Bool.and_false] at h
    have hsolid : (Part.word (String.ofList (c :: word).reverse)).Solid := by
      rw [Part.Solid, String.toList_ofList]
      exact ⟨by simp, fun d hd => hword d (List.mem_reverse.1 hd)⟩
    have hwritten : (Part.word (String.ofList (c :: word).reverse)).written f = (c :: word).reverse :=
      String.toList_ofList
    rw [← hwritten]
    exact of_addPart _ hsolid h

end LaysOut

/-- What reading on adds to the units are units of what is read. -/
theorem laid_of_read (l : List Char) :
    (∀ units word space us, (∀ c ∈ word, ¬isWhiteSpace c) → readText units word space l = .ok us →
      LaysOut f units space us (word.reverse ++ fillText f l)) ∧
    ∀ units space name us, readName units space name l = .ok us →
      LaysOut f units space us (fillName f name l) := by
  have hnone : ∀ c ∈ ([] : List Char), ¬isWhiteSpace c := List.forall_mem_nil _
  induction l with
  | nil =>
    refine ⟨fun units word space us hword h => ?_, fun units space name us h => ?_⟩
    · rw [readText] at h
      cases h
      rw [fillText]
      exact .of_flush hword .nil
    · rw [readName] at h
      cases h
  | cons c l ih =>
    obtain ⟨ihText, ihName⟩ := ih
    refine ⟨fun units word space us hword h => ?_, fun units space name us h => ?_⟩
    · rw [readText] at h
      rw [fillText]
      split at h
      · rename_i hc
        have hbrace : c ≠ '\x7b' := by
          rintro rfl
          revert hc
          decide
        rw [if_neg hbrace]
        exact .of_flush hword ((ihText _ _ _ _ hnone h).blank_cons hc)
      · rename_i hc
        split at h
        · rename_i hbrace
          rw [if_pos hbrace]
          exact .of_flush hword (ihName _ _ _ _ h)
        · rename_i hbrace
          split at h
          · cases h
          · have hlaid := ihText _ _ _ _ (List.forall_mem_cons.2 ⟨hc, hword⟩) h
            rw [List.reverse_cons, List.append_assoc] at hlaid
            rw [if_neg hbrace]
            exact hlaid
    · rw [readName] at h
      rw [fillName]
      split at h
      · rename_i hclose
        dsimp only at h
        split at h
        · cases h
        · rw [if_pos hclose]
          exact .of_addPart (.slot _) trivial (ihText _ _ _ _ hnone h)
      · rename_i hclose
        split at h
        · cases h
        · rw [if_neg hclose]
          exact ihName _ _ _ _ h

/-- A template that is filled in is its units written out. -/
theorem laid_of_parse {phrase : String} {us : List Unit} (h : parse phrase = .ok us)
    (f : String → String) : us ≠ [] ∧ Laid f true false us (fill f phrase).toList := by
  obtain ⟨hne, hread⟩ := units_of_parse h
  obtain ⟨more, hmore, hlaid⟩ :=
    (laid_of_read phrase.toList).1 [] [] false us (List.forall_mem_nil _) hread
  obtain rfl : us = more := hmore
  rw [fill, String.toList_ofList]
  exact ⟨hne, hlaid⟩

end Parlance.Template
