import Parlance.Proofs.Template.Literals

/-!
The grammar of templates. Main statement: `exists_parse_iff`, that the phrases with names in their braces
are templates, if they are not blank.
-/

namespace Parlance.Template

open Unicode

/-! Braces. -/

/-- A text without braces. -/
def Unbraced (l : List Char) : Prop :=
  ∀ c ∈ l, c ≠ '\x7b' ∧ c ≠ '\x7d'

/-- What may stand between braces: a name that is not blank. -/
structure IsName (l : List Char) : Prop where
  unbraced : Unbraced l
  filled : ¬∀ c ∈ l, isWhiteSpace c

/-- Every opening brace is closed behind a name, and no closing brace stands elsewhere. -/
structure Braced (l : List Char) : Prop where
  closed : ∀ before behind, l = before ++ '\x7b' :: behind →
    ∃ name rest, behind = name ++ '\x7d' :: rest ∧ IsName name
  opened : ∀ before behind, l = before ++ '\x7d' :: behind →
    ∃ rest name, before = rest ++ '\x7b' :: name ∧ Unbraced name

/-- A text with names in braces, read from outside of braces on. -/
inductive Slotted : List Char → Prop
  | nil : Slotted []
  | cons : c ≠ '\x7b' → c ≠ '\x7d' → Slotted l → Slotted (c :: l)
  | slot : IsName name → Slotted l → Slotted ('\x7b' :: (name ++ '\x7d' :: l))

variable {l : List Char} {c : Char} {phrase : String}

theorem slotted_cons_iff (hopen : c ≠ '\x7b') (hclose : c ≠ '\x7d') : Slotted (c :: l) ↔ Slotted l := by
  constructor
  · intro h
    cases h with
    | cons _ _ hl => exact hl
    | slot => exact absurd rfl hopen
  · exact .cons hopen hclose

theorem not_slotted_close : ¬Slotted ('\x7d' :: l) := by
  intro h
  cases h with
  | cons _ hclose => exact hclose rfl

/-- A character that does not stand in a text comes behind it. -/
theorem exists_behind {x y before behind : List Char} {d : Char} (h : x ++ y = before ++ d :: behind)
    (hd : d ∉ x) : ∃ z, before = x ++ z ∧ y = z ++ d :: behind := by
  rcases List.append_eq_append_iff.1 h with ⟨z, hbefore, hy⟩ | ⟨z, hx, hbehind⟩
  · exact ⟨z, hbefore, hy⟩
  · cases z with
    | nil => exact ⟨[], by simpa using hx.symm, by simpa using hbehind.symm⟩
    | cons e z =>
      obtain ⟨rfl, -⟩ := List.cons.inj hbehind
      exact absurd (hx ▸ by simp) hd

theorem Unbraced.open_not_mem (h : Unbraced l) : '\x7b' ∉ l :=
  fun hmem => (h _ hmem).1 rfl

theorem Unbraced.close_not_mem (h : Unbraced l) : '\x7d' ∉ l :=
  fun hmem => (h _ hmem).2 rfl

/-! Names that are begun. -/

/-- The text goes on with a name that is begun, its brace and a text with names in braces. -/
def Completes (name l : List Char) : Prop :=
  ∃ more rest, l = more ++ '\x7d' :: rest ∧ IsName (name ++ more) ∧ Slotted rest

theorem slotted_open_iff : Slotted ('\x7b' :: l) ↔ Completes [] l := by
  constructor
  · intro h
    cases h with
    | cons hopen => exact absurd rfl hopen
    | slot hname hrest => exact ⟨_, _, rfl, hname, hrest⟩
  · rintro ⟨name, rest, rfl, hname, hrest⟩
    exact .slot hname hrest

section Completes

variable {name : List Char}

theorem not_completes_nil : ¬Completes name [] := by
  rintro ⟨more, rest, heq, -⟩
  exact absurd heq.symm (by simp)

theorem not_completes_open : ¬Completes name ('\x7b' :: l) := by
  rintro ⟨more, rest, heq, hname, -⟩
  cases more with
  | nil => cases heq
  | cons d more =>
    obtain ⟨rfl, -⟩ := List.cons.inj heq
    exact absurd (by simp) hname.unbraced.open_not_mem

theorem completes_close_iff : Completes name ('\x7d' :: l) ↔ IsName name ∧ Slotted l := by
  constructor
  · rintro ⟨more, rest, heq, hname, hrest⟩
    cases more with
    | nil =>
      obtain rfl := (List.cons.inj heq).2
      exact ⟨by simpa using hname, hrest⟩
    | cons d more =>
      obtain ⟨rfl, -⟩ := List.cons.inj heq
      exact absurd (by simp) hname.unbraced.close_not_mem
  · rintro ⟨hname, hl⟩
    exact ⟨[], l, rfl, by simpa using hname, hl⟩

theorem completes_cons_iff (hclose : c ≠ '\x7d') :
    Completes name (c :: l) ↔ Completes (name ++ [c]) l := by
  constructor
  · rintro ⟨more, rest, heq, hname, hrest⟩
    cases more with
    | nil => exact absurd (List.cons.inj heq).1 hclose
    | cons d more =>
      obtain ⟨rfl, rfl⟩ := List.cons.inj heq
      exact ⟨more, rest, rfl, by simpa using hname, hrest⟩
  · rintro ⟨more, rest, rfl, hname, hrest⟩
    exact ⟨c :: more, rest, rfl, by simpa using hname, hrest⟩

end Completes

theorem Slotted.braced (h : Slotted l) : Braced l := by
  induction h with
  | nil => constructor <;> simp
  | @cons c l hopen hclose _ ih =>
    constructor
    · intro before behind heq
      cases before with
      | nil => exact absurd (List.cons.inj heq).1 hopen
      | cons d before => exact ih.closed before behind (List.cons.inj heq).2
    · intro before behind heq
      cases before with
      | nil => exact absurd (List.cons.inj heq).1 hclose
      | cons d before =>
        obtain ⟨rest, name, rfl, hname⟩ := ih.opened before behind (List.cons.inj heq).2
        exact ⟨d :: rest, name, rfl, hname⟩
  | @slot name l hname _ ih =>
    constructor
    · intro before behind heq
      cases before with
      | nil => exact ⟨name, l, (List.cons.inj heq).2.symm, hname⟩
      | cons d before =>
        have hmem : '\x7b' ∉ name ++ ['\x7d'] := by simpa using hname.unbraced.open_not_mem
        obtain ⟨z, -, hz⟩ := exists_behind (y := l) (by simpa using (List.cons.inj heq).2) hmem
        exact ih.closed z behind hz
    · intro before behind heq
      cases before with
      | nil => cases heq
      | cons d before =>
        obtain ⟨rfl, htail⟩ := List.cons.inj heq
        obtain ⟨z, rfl, hz⟩ := exists_behind htail hname.unbraced.close_not_mem
        cases z with
        | nil => exact ⟨[], name, by simp, hname.unbraced⟩
        | cons e z =>
          obtain ⟨rfl, hl⟩ := List.cons.inj hz
          obtain ⟨rest, name', rfl, hname'⟩ := ih.opened z behind hl
          exact ⟨'\x7b' :: name ++ '\x7d' :: rest, name', by simp, hname'⟩

namespace Braced

theorem of_cons (hopen : c ≠ '\x7b') (h : Braced (c :: l)) : Braced l := by
  constructor
  · intro before behind heq
    exact h.closed (c :: before) behind (congrArg (c :: ·) heq)
  · intro before behind heq
    obtain ⟨rest, name, hbefore, hname⟩ := h.opened (c :: before) behind (congrArg (c :: ·) heq)
    cases rest with
    | nil => exact absurd (List.cons.inj hbefore).1 hopen
    | cons d rest => exact ⟨rest, name, (List.cons.inj hbefore).2, hname⟩

theorem of_close_append {before : List Char} (h : Braced (before ++ '\x7d' :: l)) : Braced l := by
  constructor
  · intro front behind heq
    exact h.closed (before ++ '\x7d' :: front) behind (by rw [heq, List.append_assoc]; rfl)
  · intro front behind heq
    obtain ⟨rest, name, hfront, hname⟩ :=
      h.opened (before ++ '\x7d' :: front) behind (by rw [heq, List.append_assoc]; rfl)
    -- the name has no closing brace, so it stands behind the one that is cut off
    rcases List.append_eq_append_iff.1 hfront with ⟨z, -, hz⟩ | ⟨z, -, hz⟩
    · cases z with
      | nil => cases hz
      | cons d z => exact ⟨z, name, (List.cons.inj hz).2, hname⟩
    · cases z with
      | nil => cases hz
      | cons d z =>
        have hmem : '\x7d' ∈ name := (List.cons.inj hz).2 ▸ by simp
        exact absurd hmem hname.close_not_mem

theorem slotted (h : Braced l) : Slotted l := by
  induction hn : l.length using Nat.strong_induction_on generalizing l with
  | _ n ih =>
    cases l with
    | nil => exact .nil
    | cons c l =>
      by_cases hopen : c = '\x7b'
      · subst hopen
        obtain ⟨name, rest, rfl, hname⟩ := h.closed [] l rfl
        have hcut : Braced (('\x7b' :: name) ++ '\x7d' :: rest) := h
        exact .slot hname (ih rest.length (by simp [← hn]; omega) hcut.of_close_append rfl)
      · have hclose : c ≠ '\x7d' := by
          rintro rfl
          obtain ⟨rest, name, hnil, -⟩ := h.opened [] l rfl
          cases rest <;> cases hnil
        exact .cons hopen hclose (ih l.length (by simp [← hn]) (h.of_cons hopen) rfl)

end Braced

theorem slotted_iff : Slotted l ↔ Braced l :=
  ⟨Slotted.braced, Braced.slotted⟩

/-! Which texts are read. -/

theorem ne_open_of_isWhiteSpace (h : isWhiteSpace c) : c ≠ '\x7b' := by
  rintro rfl
  exact absurd h (by decide)

theorem ne_close_of_isWhiteSpace (h : isWhiteSpace c) : c ≠ '\x7d' := by
  rintro rfl
  exact absurd h (by decide)

theorem isEmpty_trim_iff : (Text.trim (String.ofList l)).isEmpty ↔ ∀ c ∈ l, isWhiteSpace c := by
  rw [String.isEmpty_iff, ← Text.isBlank_iff, Text.isBlank, String.toList_ofList, List.all_eq_true]

/-- Reading comes to its end on the texts with names in braces, and from inside of braces on where the
name is completed before such a text. -/
theorem exists_read_iff (l : List Char) :
    (∀ units word space, (∃ us, readText units word space l = .ok us) ↔ Slotted l) ∧
    ∀ units space name, Unbraced name →
      ((∃ us, readName units space name l = .ok us) ↔ Completes name.reverse l) := by
  induction l with
  | nil =>
    constructor
    · intro units word space
      exact iff_of_true ⟨_, by rw [readText]⟩ .nil
    · intro units space name _
      refine iff_of_false ?_ not_completes_nil
      rintro ⟨us, h⟩
      rw [readName] at h
      cases h
  | cons c l ih =>
    obtain ⟨ihText, ihName⟩ := ih
    constructor
    · intro units word space
      rw [readText]
      split
      · rename_i hc
        rw [ihText, slotted_cons_iff (ne_open_of_isWhiteSpace hc) (ne_close_of_isWhiteSpace hc)]
      · split
        · rename_i hopen
          rw [ihName _ _ _ (List.forall_mem_nil _), hopen, slotted_open_iff]
          rfl
        · rename_i hopen
          split
          · rename_i hclose
            rw [hclose]
            exact iff_of_false (by simp) not_slotted_close
          · rename_i hclose
            rw [ihText, slotted_cons_iff hopen hclose]
    · intro units space name hname
      rw [readName]
      split
      · rename_i hclose
        rw [hclose, completes_close_iff]
        dsimp only
        split
        · rename_i hblank
          have hnot : ¬IsName name.reverse := fun h => h.filled (isEmpty_trim_iff.1 hblank)
          exact iff_of_false (by simp) fun h => hnot h.1
        · rename_i hblank
          have hfilled : IsName name.reverse :=
            ⟨by simpa [Unbraced] using hname, fun h => hblank (isEmpty_trim_iff.2 h)⟩
          rw [ihText, and_iff_right hfilled]
      · rename_i hclose
        split
        · rename_i hopen
          rw [hopen]
          exact iff_of_false (by simp) not_completes_open
        · rename_i hopen
          rw [ihName _ _ _ (List.forall_mem_cons.2 ⟨⟨hopen, hclose⟩, hname⟩),
            completes_cons_iff hclose, List.reverse_cons]

/-- Blanks before a text only put a space before what comes next. -/
theorem readText_blanks {b : List Char} (hb : ∀ c ∈ b, isWhiteSpace c) (units : List Unit) (space : Bool)
    (l : List Char) : readText units [] space (b ++ l) = readText units [] (space || !b.isEmpty) l := by
  induction b generalizing space with
  | nil => simp
  | cons c b ih =>
    obtain ⟨hc, hb⟩ := List.forall_mem_cons.1 hb
    have hnone : flush units [] space = units := rfl
    rw [List.cons_append, readText, if_pos hc, hnone, ih hb]
    simp

/-- A phrase is a template if it is not blank and has names in its braces. -/
theorem exists_parse_iff : (∃ us, parse phrase = .ok us) ↔ ¬Text.isBlank phrase ∧ Braced phrase.toList := by
  rw [← slotted_iff, ← (exists_read_iff phrase.toList).1 [] [] false]
  constructor
  · rintro ⟨us, h⟩
    obtain ⟨hne, hread⟩ := units_of_parse h
    refine ⟨fun hblank => hne ?_, us, hread⟩
    have hall : ∀ c ∈ phrase.toList, isWhiteSpace c := by simpa [Text.isBlank] using hblank
    have hnone := readText_blanks hall [] false []
    rw [List.append_nil, hread, readText] at hnone
    exact Except.ok.inj hnone
  · rintro ⟨hblank, us, hread⟩
    cases us with
    | cons u us => exact ⟨u :: us, by rw [parse, hread]; rfl⟩
    | nil =>
      -- of no units nothing but blanks is laid out
      obtain ⟨more, hmore, hlaid⟩ :=
        (laid_of_read (f := id) phrase.toList).1 [] [] false [] (List.forall_mem_nil _) hread
      obtain rfl : [] = more := hmore
      rw [fillText_of_readText hread rfl] at hlaid
      cases hlaid with
      | nil hall => exact absurd (List.all_eq_true.2 hall) hblank

end Parlance.Template
