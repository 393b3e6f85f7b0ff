import Parlance.Proofs.Template.Grammar

/-!
The tidy form of a template. Main statement: `parse_render`, which phrases are templates, and that the
units of a template written out are the template in its tidy form, of which the same units are read.
-/

namespace Parlance.Template

open Unicode

variable {l name word : List Char} {units us : List Unit} {space : Bool} {phrase : String}

/-! Units as they are read. -/

/-- A part as it is read: a word without blanks and braces, or a name without braces and without blanks
around it. -/
def Part.Clean : Part → Prop
  | .word text => text.toList ≠ [] ∧ Unbraced text.toList ∧ ∀ c ∈ text.toList, ¬isWhiteSpace c
  | .slot name => IsName name.toList ∧ Text.trim name = name

theorem isName_trim (hunbraced : Unbraced l) (hfilled : ¬∀ c ∈ l, isWhiteSpace c) :
    IsName (Text.trim (String.ofList l)).toList := by
  constructor
  · intro c hc
    rw [Text.toList_trim, String.toList_ofList] at hc
    obtain ⟨b, hl, -⟩ := Text.exists_trimList isWhiteSpace l
    exact hunbraced c (hl ▸ List.mem_append_left _ (List.mem_append_right _ hc))
  · intro hall
    have hblank : Text.isBlank (Text.trim (String.ofList l)) := List.all_eq_true.2 hall
    rw [Text.isBlank_iff, Text.trim_trim, ← Text.isBlank_iff, Text.isBlank, String.toList_ofList,
      List.all_eq_true] at hblank
    exact hfilled hblank

theorem clean_flush (hunits : ∀ u ∈ units, u.part.Clean) (hunbraced : Unbraced word)
    (hsolid : ∀ c ∈ word, ¬isWhiteSpace c) : ∀ u ∈ flush units word space, u.part.Clean := by
  rw [flush]
  split
  · exact hunits
  · rename_i hne
    have hword : (Part.word (String.ofList word.reverse)).Clean :=
      ⟨by simpa using hne, by simpa [Unbraced] using hunbraced, by simpa using hsolid⟩
    exact List.forall_mem_cons.2 ⟨hword, hunits⟩

/-- What is read is clean. -/
theorem clean_of_read (l : List Char) :
    (∀ units word space us, (∀ u ∈ units, u.part.Clean) → Unbraced word →
      (∀ c ∈ word, ¬isWhiteSpace c) → readText units word space l = .ok us → ∀ u ∈ us, u.part.Clean) ∧
    (∀ units space name us, (∀ u ∈ units, u.part.Clean) → Unbraced name →
      readName units space name l = .ok us → ∀ u ∈ us, u.part.Clean) := by
  have hnone : Unbraced [] := List.forall_mem_nil _
  have hempty : ∀ c ∈ ([] : List Char), ¬isWhiteSpace c := List.forall_mem_nil _
  induction l with
  | nil =>
    constructor
    · intro units word space us hunits hunbraced hsolid h
      rw [readText] at h
      cases h
      intro u hu
      exact clean_flush hunits hunbraced hsolid u (List.mem_reverse.1 hu)
    · intro units space name us _ _ h
      rw [readName] at h
      cases h
  | cons c l ih =>
    obtain ⟨ihText, ihName⟩ := ih
    constructor
    · intro units word space us hunits hunbraced hsolid h
      have hflush : ∀ u ∈ flush units word space, u.part.Clean := clean_flush hunits hunbraced hsolid
      rw [readText] at h
      split at h
      · exact ihText _ _ _ _ hflush hnone hempty h
      · rename_i hc
        split at h
        · exact ihName _ _ _ _ hflush hnone h
        · rename_i hopen
          split at h
          · cases h
          · rename_i hclose
            exact ihText _ _ _ _ hunits (List.forall_mem_cons.2 ⟨⟨hopen, hclose⟩, hunbraced⟩)
              (List.forall_mem_cons.2 ⟨hc, hsolid⟩) h
    · intro units space name us hunits hunbraced h
      rw [readName] at h
      split at h
      · dsimp only at h
        split at h
        · cases h
        · rename_i hblank
          rw [isEmpty_trim_iff] at hblank
          have hname : (Part.slot (Text.trim (String.ofList name.reverse))).Clean :=
            ⟨isName_trim (by simpa [Unbraced] using hunbraced) hblank, Text.trim_trim _⟩
          exact ihText _ _ _ _ (List.forall_mem_cons.2 ⟨hname, hunits⟩) hnone hempty h
      · rename_i hclose
        split at h
        · cases h
        · rename_i hopen
          exact ihName _ _ _ _ hunits (List.forall_mem_cons.2 ⟨⟨hopen, hclose⟩, hunbraced⟩) h

theorem clean_of_parse (h : parse phrase = .ok us) : ∀ u ∈ us, u.part.Clean :=
  (clean_of_read phrase.toList).1 [] [] false us (List.forall_mem_nil _) (List.forall_mem_nil _)
    (List.forall_mem_nil _) (units_of_parse h).2

/-! Units written out and read again. -/

/-- A name in braces. -/
def braced (name : String) : String :=
  "\x7b" ++ name ++ "\x7d"

theorem toList_braced (name : String) : (braced name).toList = '\x7b' :: (name.toList ++ ['\x7d']) := by
  rw [braced, String.toList_append, String.toList_append]
  rfl

theorem Part.toList_text (p : Part) : p.text.toList = p.written braced := by
  cases p <;> rfl

theorem readText_word {x : List Char} (hunbraced : Unbraced x) (hsolid : ∀ c ∈ x, ¬isWhiteSpace c)
    (units : List Unit) (word : List Char) (space : Bool) (l : List Char) :
    readText units word space (x ++ l) = readText units (x.reverse ++ word) space l := by
  induction x generalizing word with
  | nil => rfl
  | cons c x ih =>
    obtain ⟨⟨hopen, hclose⟩, hunbraced⟩ := List.forall_mem_cons.1 hunbraced
    obtain ⟨hc, hsolid⟩ := List.forall_mem_cons.1 hsolid
    rw [List.cons_append, readText, if_neg hc, if_neg hopen, if_neg hclose, ih hunbraced hsolid,
      List.reverse_cons, List.append_assoc, List.singleton_append]

theorem readName_name (hunbraced : Unbraced name) (units : List Unit) (space : Bool) (before : List Char)
    (l : List Char) :
    readName units space before (name ++ '\x7d' :: l) =
      readName units space (name.reverse ++ before) ('\x7d' :: l) := by
  induction name generalizing before with
  | nil => rfl
  | cons c name ih =>
    obtain ⟨⟨hopen, hclose⟩, hunbraced⟩ := List.forall_mem_cons.1 hunbraced
    rw [List.cons_append, readName, if_neg hclose, if_neg hopen, ih hunbraced, List.reverse_cons,
      List.append_assoc, List.singleton_append]

theorem readText_slot {s : String} (h : (Part.slot s).Clean) (units : List Unit) (space : Bool)
    (l : List Char) :
    readText units [] space ((braced s).toList ++ l) =
      readText (addPart units (.slot s) space) [] false l := by
  obtain ⟨hname, htrim⟩ := h
  have hblank : ¬isWhiteSpace '\x7b' := by decide
  have hfilled : ¬s.isEmpty := by
    rw [String.isEmpty_iff, ← htrim, ← Text.isBlank_iff, Text.isBlank, List.all_eq_true]
    exact hname.filled
  have hread : readName units space s.toList.reverse ('\x7d' :: l) =
      readText (addPart units (.slot s) space) [] false l := by
    rw [readName, if_pos rfl, List.reverse_reverse, String.ofList_toList]
    dsimp only
    rw [htrim, if_neg hfilled]
  have hflush : flush units [] space = units := rfl
  rw [toList_braced, List.cons_append, List.append_assoc, List.singleton_append, readText, if_neg hblank,
    if_pos rfl, hflush, List.isEmpty_nil, Bool.and_true, readName_name hname.unbraced, List.append_nil,
    hread]

/-- A word ends before a blank, before an opening brace and at the end. -/
theorem readText_flush (hne : word ≠ []) (h : ∀ c ∈ l.head?, isWhiteSpace c ∨ c = '\x7b')
    (units : List Unit) (space : Bool) :
    readText units word space l = readText (flush units word space) [] false l := by
  have hflush (space' : Bool) : flush (flush units word space) [] space' = flush units word space := rfl
  cases l with
  | nil => rw [readText, readText, hflush]
  | cons c l =>
    rw [readText, readText, hflush]
    by_cases hc : isWhiteSpace c
    · rw [if_pos hc, if_pos hc]
    · have hopen : c = '\x7b' := (h c rfl).resolve_left hc
      have hfilled : word.isEmpty = false := by simpa using hne
      rw [if_neg hc, if_neg hc, if_pos hopen, if_pos hopen, hfilled, Bool.and_false, Bool.false_and]

/-- Behind a word, units that are kept apart from it go on with a blank or a brace. -/
theorem Laid.head_of_apart (h : Laid braced false false us l)
    (hapart : ∀ u ∈ us.head?, u.part.IsWord → u.spaceBefore) :
    ∀ c ∈ l.head?, isWhiteSpace c ∨ c = '\x7b' := by
  cases h with
  | nil hb => exact fun c hc => .inl (hb c (List.mem_of_mem_head? hc))
  | @cons b _ _ us l u hb hsolid hbefore hl =>
    intro c hc
    cases b with
    | cons d b => exact .inl (hb c (by cases hc; exact List.mem_cons_self))
    | nil =>
      right
      obtain ⟨part, before⟩ := u
      cases part with
      | word text =>
        have hword : before := hapart _ rfl trivial
        simp [hword] at hbefore
      | slot s =>
        rw [Part.written, toList_braced] at hc
        exact (Option.some.inj hc).symm

/-- Reading a text of clean units, names in braces, adds these units. -/
theorem readText_of_laid {first space : Bool} (h : Laid braced first space us l)
    (hclean : ∀ u ∈ us, u.part.Clean) (hapart : Apart us) (hfirst : first = units.isEmpty) :
    readText units [] space l = .ok (units.reverse ++ us) := by
  induction h generalizing units with
  | @nil b first space hb =>
    have hread := readText_blanks hb units space []
    rw [List.append_nil] at hread
    rw [hread, readText, List.append_nil]
    rfl
  | @cons b space first us l u hb hsolid hspace hl ih =>
    obtain ⟨hu, hus⟩ := List.forall_mem_cons.1 hclean
    obtain ⟨hnext, hrest⟩ := List.isChain_cons.1 hapart
    have hadd : addPart units u.part (space || !b.isEmpty) = u :: units := by
      rw [addPart, ← hfirst, ← hspace]
    have htail : readText (u :: units) [] false l = .ok (units.reverse ++ u :: us) := by
      rw [ih hus hrest rfl, List.reverse_cons, List.append_assoc, List.singleton_append]
    rw [List.append_assoc, readText_blanks hb, ← htail, ← hadd]
    obtain ⟨part, before⟩ := u
    cases part with
    | slot s => exact readText_slot hu units _ l
    | word text =>
      obtain ⟨hne, hunbraced, hblank⟩ := hu
      have hend := hl.head_of_apart fun v hv hword => hnext v hv trivial hword
      have hflush (space' : Bool) : flush units text.toList.reverse space' =
          addPart units (.word text) space' := by
        rw [flush, if_neg (by simpa using hne), List.reverse_reverse, String.ofList_toList]
      rw [Part.written, readText_word hunbraced hblank, List.append_nil,
        readText_flush (by simpa using hne) hend, hflush]

/-- Of a text of clean units these units are read. -/
theorem parse_of_laid {s : String} (h : Laid braced true false us s.toList) (hne : us ≠ [])
    (hclean : ∀ u ∈ us, u.part.Clean) (hapart : Apart us) : parse s = .ok us := by
  have hread : readText [] [] false s.toList = .ok us := readText_of_laid h hclean hapart rfl
  rw [parse, hread]
  cases us with
  | nil => exact absurd rfl hne
  | cons => rfl

theorem Unit.toList_text (u : Unit) :
    u.text.toList = (if u.spaceBefore then [' '] else []) ++ u.part.written braced := by
  rw [Unit.text, String.toList_append, Part.toList_text]
  cases u.spaceBefore <;> rfl

theorem toList_render (us : List Unit) :
    (render us).toList = us.flatMap fun u => u.text.toList := by
  rw [render, String.toList_join, List.flatMap_map]

theorem laid_flatMap (hsolid : ∀ u ∈ us, u.part.Solid) :
    Laid braced false false us (us.flatMap fun u => u.text.toList) := by
  induction us with
  | nil => exact .nil (by simp)
  | cons u us ih =>
    obtain ⟨hu, hus⟩ := List.forall_mem_cons.1 hsolid
    rw [List.flatMap_cons, Unit.toList_text]
    refine .cons ?_ hu ?_ (ih hus)
    · have hspace : isWhiteSpace ' ' := by decide
      cases u.spaceBefore <;> simp [hspace]
    · cases u.spaceBefore <;> rfl

theorem Laid.head (h : Laid braced true space us l) : ∀ u ∈ us.head?, u.spaceBefore = false := by
  cases h with
  | nil => simp
  | cons _ _ hspace _ =>
    rintro u ⟨⟩
    simpa using hspace

theorem Laid.first (h : Laid braced false false us l) (hfirst : ∀ u ∈ us.head?, u.spaceBefore = false) :
    Laid braced true false us l := by
  cases h with
  | nil hb => exact .nil hb
  | @cons b _ _ us l u hb hsolid _ hl => exact .cons hb hsolid (by simpa using hfirst u rfl) hl

/-! The tidy form. -/

/-- A text with each run of blanks outside of braces as one space. -/
def collapse : (inside : Bool) → List Char → List Char
  | _, [] => []
  | true, c :: l => c :: collapse (c ≠ '\x7d') l
  | false, c :: l =>
    if isWhiteSpace c then
      if l.head?.any isWhiteSpace then collapse false l else ' ' :: collapse false l
    else c :: collapse (c = '\x7b') l

/-- A template without blanks around it and around its names, and with single spaces. -/
def tidy (phrase : String) : String :=
  String.ofList (collapse false (Text.trim (fill braced phrase)).toList)

theorem collapse_blanks {b : List Char} (hb : ∀ c ∈ b, isWhiteSpace c)
    (hl : ∀ c ∈ l.head?, ¬isWhiteSpace c) :
    collapse false (b ++ l) = (if b.isEmpty then [] else [' ']) ++ collapse false l := by
  induction b with
  | nil => rfl
  | cons c b ih =>
    obtain ⟨hc, hb⟩ := List.forall_mem_cons.1 hb
    rw [List.cons_append, collapse, if_pos hc]
    cases b with
    | nil =>
      have hnext : ¬l.head?.any isWhiteSpace := by
        cases l with
        | nil => exact Bool.false_ne_true
        | cons d l => exact hl d rfl
      rw [List.nil_append, if_neg hnext]
      rfl
    | cons d b =>
      have hnext : (d :: b ++ l).head?.any isWhiteSpace := hb d List.mem_cons_self
      rw [if_pos hnext, ih hb]
      rfl

theorem collapse_word {x : List Char} (hunbraced : Unbraced x) (hsolid : ∀ c ∈ x, ¬isWhiteSpace c)
    (l : List Char) : collapse false (x ++ l) = x ++ collapse false l := by
  induction x with
  | nil => rfl
  | cons c x ih =>
    obtain ⟨⟨hopen, -⟩, hunbraced⟩ := List.forall_mem_cons.1 hunbraced
    obtain ⟨hc, hsolid⟩ := List.forall_mem_cons.1 hsolid
    rw [List.cons_append, collapse, if_neg hc, decide_eq_false hopen, ih hunbraced hsolid]
    rfl

theorem collapse_name (hunbraced : Unbraced name) (l : List Char) :
    collapse true (name ++ '\x7d' :: l) = name ++ '\x7d' :: collapse false l := by
  induction name with
  | nil => rfl
  | cons c name ih =>
    obtain ⟨⟨-, hclose⟩, hunbraced⟩ := List.forall_mem_cons.1 hunbraced
    rw [List.cons_append, collapse, decide_eq_true hclose, ih hunbraced]
    rfl

theorem Part.Clean.collapse_written {p : Part} (h : p.Clean) (l : List Char) :
    collapse false (p.written braced ++ l) = p.written braced ++ collapse false l := by
  cases p with
  | word text => exact collapse_word h.2.1 h.2.2 l
  | slot s =>
    have hblank : ¬isWhiteSpace '\x7b' := by decide
    rw [Part.written, toList_braced, List.cons_append, List.append_assoc, List.singleton_append, collapse,
      if_neg hblank, decide_eq_true rfl, collapse_name h.1.unbraced]
    simp

theorem bare_of_clean (hclean : ∀ u ∈ us, u.part.Clean) : Bare braced us := by
  intro u hu
  have hpart := hclean u hu
  obtain ⟨part, space⟩ := u
  rw [Text.trimList_eq_self_iff]
  cases part with
  | word text =>
    obtain ⟨hne, -, hsolid⟩ := hpart
    exact ⟨hne, fun c hc => hsolid c (List.mem_of_mem_head? hc),
      fun c hc => hsolid c (List.mem_of_getLast? hc)⟩
  | slot s =>
    have hends : ¬isWhiteSpace '\x7b' ∧ ¬isWhiteSpace '\x7d' := by decide
    rw [Part.written, toList_braced, ← List.cons_append, List.getLast?_append]
    refine ⟨by simp, ?_, ?_⟩
    · rintro c ⟨⟩
      exact hends.1
    · rintro c ⟨⟩
      exact hends.2

theorem collapse_of_laid (h : Laid braced false false us l) (hclean : ∀ u ∈ us, u.part.Clean)
    (hlast : ∀ c ∈ l.getLast?, ¬isWhiteSpace c) :
    collapse false l = us.flatMap fun u => u.text.toList := by
  induction us generalizing l with
  | nil =>
    cases h with
    | nil hb =>
      cases l with
      | nil => rfl
      | cons c l =>
        obtain ⟨d, hd⟩ : ∃ d, (c :: l).getLast? = some d := ⟨_, List.getLast?_eq_some_getLast (by simp)⟩
        exact absurd (hb d (List.mem_of_getLast? hd)) (hlast d hd)
  | cons u us ih =>
    cases h with
    | @cons b _ _ _ l _ hb hsolid hspace hl =>
      obtain ⟨hu, hus⟩ := List.forall_mem_cons.1 hclean
      obtain ⟨hne, htrim⟩ := bare_of_clean hclean u List.mem_cons_self
      have hhead : ∀ c ∈ (u.part.written braced ++ l).head?, ¬isWhiteSpace c := by
        intro c hc
        rw [List.head?_append, Option.or_of_isSome (by simp [hne])] at hc
        exact (Text.trimList_eq_self_iff.1 htrim).1 c hc
      have hlast' : ∀ c ∈ l.getLast?, ¬isWhiteSpace c := by
        intro c hc
        apply hlast
        rw [List.getLast?_append, hc]
        rfl
      have hgap : (if b.isEmpty then [] else [' ']) = if u.spaceBefore then [' '] else [] := by
        rw [hspace]
        cases b <;> rfl
      rw [List.append_assoc, collapse_blanks hb hhead, hu.collapse_written, ih hl hus hlast', hgap,
        List.flatMap_cons, Unit.toList_text, List.append_assoc]

/-- What does not start with a blank is laid out without one. -/
theorem Laid.behind (h : Laid braced true false us l) (hhead : ∀ c ∈ l.head?, ¬isWhiteSpace c) :
    Laid braced false false us l := by
  cases h with
  | nil hb => exact .nil hb
  | @cons b _ _ us l u hb hsolid hspace hl =>
    cases b with
    | nil => exact .cons hb hsolid (by simpa using hspace) hl
    | cons d b => exact absurd (hb d List.mem_cons_self) (hhead d rfl)

/-- A phrase is a template if it is not blank and every opening brace is closed behind a name, with no
closing brace elsewhere. Its units written out are its tidy form, of which the same units are read. -/
theorem parse_render (phrase : String) :
    ((∃ us, parse phrase = .ok us) ↔ ¬Text.isBlank phrase ∧ Braced phrase.toList) ∧
      ∀ us, parse phrase = .ok us → render us = tidy phrase ∧ parse (render us) = .ok us := by
  refine ⟨exists_parse_iff, fun us h => ?_⟩
  have hclean := clean_of_parse h
  obtain ⟨hne, hlaid⟩ := laid_of_parse h braced
  constructor
  · have hcore := hlaid.trim (bare_of_clean hclean) hne
    obtain ⟨hhead, hlast⟩ :=
      Text.trimList_eq_self_iff.1 (Text.trimList_trimList isWhiteSpace (fill braced phrase).toList)
    apply String.toList_injective
    rw [toList_render, tidy, String.toList_ofList, Text.toList_trim,
      collapse_of_laid (hcore.behind hhead) hclean hlast]
  · have hrender := (laid_flatMap hlaid.solid).first hlaid.head
    rw [← toList_render] at hrender
    exact parse_of_laid hrender hne hclean (apart_of_parse h)

/-- A template with blanks in all places where they may stand. -/
theorem parse_render_untidy :
    ∃ us, parse "  pon\t la \x7b a  b \x7dya " = .ok us ∧ render us = "pon la \x7ba  b\x7dya" ∧
      parse "pon la \x7ba  b\x7dya" = .ok us := by
  obtain ⟨hiff, hunits⟩ := parse_render "  pon\t la \x7b a  b \x7dya "
  have htidy : tidy "  pon\t la \x7b a  b \x7dya " = "pon la \x7ba  b\x7dya" := by decide +kernel
  obtain ⟨us, hus⟩ : ∃ us, parse "  pon\t la \x7b a  b \x7dya " = .ok us := ⟨_, rfl⟩
  obtain ⟨hrender, hparse⟩ := hunits us hus
  rw [htidy] at hrender
  exact ⟨us, hus, hrender, hrender ▸ hparse⟩

end Parlance.Template
