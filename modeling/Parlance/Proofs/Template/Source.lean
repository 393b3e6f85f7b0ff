import Parlance.Proofs.Pattern.Notation
import Parlance.Proofs.Template.Compilation

/-!
The patterns of a template as text, with the patterns of slots put in as they are written. Main
statement: `exists_parse_of_mem_sources`, that where a phrase compiles, all of these texts are patterns.
-/

namespace Parlance.Template

open Pattern

/-- The pattern of a kind, as text. -/
def kindSource : Slot.Kind → String
  | .number => "-?\\d+(?:[.,]\\d+)?"
  | .boolean => "\\w+"
  | .choice | .date => "[\\w-]+"
  | .range =>
    "[\\w.,\\-\\x\x7b2013\x7d\\x\x7b2014\x7d]+(?:\\s+[\\w.,\\-\\x\x7b2013\x7d\\x\x7b2014\x7d]+)*"
  | .text | .custom => ".+"

def slotSource (slot : Slot) : String :=
  slot.pattern.getD (kindSource slot.kind)

/-- The pattern of a declared slot, as text. -/
def sourceOf (spec : Spec) (name : String) : String :=
  ((spec.slot? name).map slotSource).getD ""

/-- An element of a pattern, as text. -/
structure Rendered where
  body : String
  spaceBefore : Bool
  optional : Bool

/-- Units as text, when `n` slots stand before. -/
def rendered (spec : Spec) (optional : String → Bool) : (n : Nat) → List Unit → List Rendered
  | _, [] => []
  | n, ⟨.word text, space⟩ :: us =>
    ⟨String.ofList (escape text.toList), space, optional text⟩ :: rendered spec optional n us
  | n, ⟨.slot name, space⟩ :: us =>
    ⟨"(?P<" ++ groupName n ++ ">" ++ sourceOf spec name ++ ")", space, false⟩ ::
      rendered spec optional (n + 1) us

def gapSource (space : Bool) : String :=
  if space then "\\s+" else ""

/-- Elements with blanks between, as in `layout`. -/
def layoutSource (leading : Bool) : List Rendered → String
  | [] => "\\s*$"
  | e :: rest =>
    if e.optional then
      if leading then
        let space := (rest.head?.map Rendered.spaceBefore).getD false
        "(?:" ++ (e.body ++ gapSource space) ++ ")?" ++ layoutSource true rest
      else "(?:" ++ (gapSource e.spaceBefore ++ e.body) ++ ")?" ++ layoutSource false rest
    else if leading then e.body ++ layoutSource false rest
    else gapSource e.spaceBefore ++ e.body ++ layoutSource false rest

/-- The pattern for a whole text. -/
def source (elements : List Rendered) : String :=
  "(?i)^\\s*" ++ layoutSource true elements

/-- The pattern for the text of a slot alone. -/
def matcherSource (spec : Spec) (name : String) : String :=
  "(?i)^(?:" ++ sourceOf spec name ++ ")$"

def Unit.isArticle (u : Unit) : Bool :=
  match u.part with
  | .word text => optionalArticles.contains text
  | .slot _ => false

/-- Articles may be left out unless there is nothing else. -/
def leftOut (us : List Unit) (word : String) : Bool :=
  !us.all Unit.isArticle && optionalArticles.contains word

/-- All patterns of a template: that for utterances as given, that for normalized ones, and those for
its slots. -/
def sources (spec : Spec) (lex : Lexicon) (locale : String) (us : List Unit) : List String :=
  let normal := normalUnits lex locale false us
  source (rendered spec never 0 us) :: source (rendered spec (leftOut normal) 0 normal) ::
    (slotNames us).map (matcherSource spec)

/-! Patterns of slots. -/

/-- A text is a pattern without named groups, and not too large to be repeated. -/
def isPlain (body : String) : Bool :=
  match Pattern.parse inCase body with
  | .ok p => p.names.isEmpty && !p.openComment && decide (p.node.size ≤ sizeLimit)
  | .error _ => false

theorem exists_stands_of_isPlain {body : String} (h : isPlain body = true) (before : List String) :
    ∃ p, Stands body p before ∧ p.names = [] ∧ p.node.size ≤ sizeLimit := by
  unfold isPlain at h
  split at h
  · rename_i p hp
    simp only [Bool.and_eq_true, List.isEmpty_iff, Bool.not_eq_true', decide_eq_true_eq] at h
    obtain ⟨⟨hnames, hopen⟩, hsize⟩ := h
    exact ⟨p, ⟨hp, hopen, by simp [hnames]⟩, hnames, hsize⟩
  · cases h

theorem isPlain_kindSource (kind : Slot.Kind) : isPlain (kindSource kind) = true := by
  cases kind <;> decide +kernel

theorem exists_stands_of_slotPattern {slot : Slot} {node : Node} {groups before : List String}
    (h : slotPattern slot = .ok (node, groups)) (hbefore : ∀ name ∈ groups, name ∉ before) :
    ∃ p, Stands (slotSource slot) p before ∧ p.names = groups := by
  unfold slotPattern at h
  unfold slotSource
  split at h <;> rename_i hpattern
  · cases h
    rw [hpattern]
    obtain ⟨p, hp, hnames, -⟩ := exists_stands_of_isPlain (isPlain_kindSource slot.kind) before
    exact ⟨p, hp, hnames⟩
  · rw [hpattern]
    split at h
    · cases h
    · rename_i p hp
      split at h
      · cases h
      · rename_i hopen
        cases h
        exact ⟨p, ⟨hp, by simpa using hopen, hbefore⟩, rfl⟩

theorem isPlain_article : ∀ word ∈ optionalArticles, ∀ space,
    isPlain (String.ofList (escape word.toList) ++ gapSource space) = true ∧
      isPlain (gapSource space ++ String.ofList (escape word.toList)) = true := by
  decide +kernel

/-! Names of groups. -/

theorem isAlphanumeric_of_isDigit {c : Char} (h : c.isDigit = true) :
    Unicode.isAlphanumeric c = true ∧ c ≠ '>' := by
  have hall : ∀ n : Fin 10, Unicode.isAlphanumeric (Char.ofNat (48 + n.val)) = true ∧
      Char.ofNat (48 + n.val) ≠ '>' := by
    decide +kernel
  simp only [Char.isDigit, Bool.and_eq_true, decide_eq_true_eq] at h
  obtain ⟨hle, hge⟩ := h
  have hle : 48 ≤ c.toNat := hle
  have hge : c.toNat ≤ 57 := hge
  have hc := hall ⟨c.toNat - 48, by omega⟩
  rwa [Nat.add_sub_cancel' hle, Char.ofNat_toNat] at hc

theorem isGroupName_groupName (n : Nat) :
    isGroupName (groupName n).toList = true ∧ '>' ∉ (groupName n).toList := by
  have hname : (groupName n).toList = 's' :: (['l', 'o', 't'] ++ n.repr.toList) := by
    simp only [groupName, Nat.toString_eq_repr, String.toList_append, String.reduceToList,
      List.cons_append, List.nil_append]
  have hfirst : Unicode.isAlphabetic 's' = true := by decide +kernel
  have hall : ['l', 'o', 't'].all (fun c => Unicode.isAlphanumeric c && c ≠ '>') = true := by
    decide +kernel
  have hletters : ∀ c ∈ ['l', 'o', 't'], Unicode.isAlphanumeric c = true ∧ c ≠ '>' := by
    intro c hc
    simpa using List.all_eq_true.1 hall c hc
  have hdigits : ∀ c ∈ n.repr.toList, Unicode.isAlphanumeric c = true ∧ c ≠ '>' := by
    intro c hc
    rw [Nat.toList_repr] at hc
    exact isAlphanumeric_of_isDigit (Nat.isDigit_of_mem_toDigits (by decide) (by decide) hc)
  have hrest := List.forall_mem_append.2 ⟨hletters, hdigits⟩
  rw [hname]
  refine ⟨?_, fun hmem => ?_⟩
  · rw [isGroupName, hfirst, Bool.or_true, Bool.true_and, List.all_eq_true]
    intro c hc
    rw [(hrest c hc).1, Bool.or_true]
  · rcases List.mem_cons.1 hmem with h | h
    · cases h
    · exact (hrest _ h).2 rfl

/-- Of names that are all different, each is new when those before it have been given. -/
theorem fresh_of_nodup {g : String} {own later names : List String}
    (hnodup : ((g :: own) ++ later).Nodup) (hnew : ∀ x ∈ (g :: own) ++ later, x ∉ names) :
    g ∉ names ∧ (∀ x ∈ own, x ∉ g :: names) ∧ later.Nodup ∧ ∀ x ∈ later, x ∉ own ++ g :: names := by
  obtain ⟨hfirst, hlater, hapart⟩ := List.nodup_append.1 hnodup
  obtain ⟨hnewFirst, hnewLater⟩ := List.forall_mem_append.1 hnew
  obtain ⟨hnewName, hnewOwn⟩ := List.forall_mem_cons.1 hnewFirst
  obtain ⟨hnot, -⟩ := List.nodup_cons.1 hfirst
  refine ⟨hnewName, fun x hx hmem => ?_, hlater, fun x hx hmem => ?_⟩
  · rcases List.mem_cons.1 hmem with rfl | hmem
    · exact hnot hx
    · exact hnewOwn x hx hmem
  · rw [List.mem_append, List.mem_cons] at hmem
    rcases hmem with hmem | rfl | hmem
    · exact hapart x (List.mem_cons_of_mem _ hmem) x hx rfl
    · exact hapart _ List.mem_cons_self _ hx rfl
    · exact hnewLater x hx hmem

/-! Elements one by one. -/

section Elements

variable {names : List String} {body : String} {p : Parsed}

theorem passes_gapSource (space : Bool) (names : List String) :
    Passes names (gapSource space).toList names := by
  cases space with
  | false => exact passes_nil names
  | true =>
    have hplus : ('+', 1, none) ∈ repetitions := by decide
    exact passes_blanks hplus names

theorem head?_gapSource_ne (space : Bool) : (gapSource space).toList.head? ≠ some '?' := by
  cases space <;> decide

theorem passes_parenthesized (h : Stands body p names) :
    Passes names ("(?:" ++ body ++ ")").toList (p.names ++ names) := by
  simpa using passes_group (opens_plain names) h

theorem passes_plainOptional (h : isPlain body = true) (names : List String) :
    Passes names ("(?:" ++ body ++ ")?").toList names := by
  obtain ⟨p, hp, hnames, hsize⟩ := exists_stands_of_isPlain h names
  simpa [hnames] using passes_optional (opens_plain names) hp hsize

theorem passes_named {n : Nat} (hnew : groupName n ∉ names) (h : Stands body p (groupName n :: names)) :
    Passes names ("(?P<" ++ groupName n ++ ">" ++ body ++ ")").toList
      (p.names ++ groupName n :: names) := by
  obtain ⟨hname, hend⟩ := isGroupName_groupName n
  have hnew' : String.ofList (groupName n).toList ∉ names := by simpa using hnew
  have hopens := opens_named hname hend hnew'
  rw [String.ofList_toList] at hopens
  simpa using passes_group hopens h

end Elements

/-! Elements put together. -/

theorem head?_append_ne {a b : List Char} (ha : a.head? ≠ some '?') (hb : b.head? ≠ some '?') :
    (a ++ b).head? ≠ some '?' := by
  cases a with
  | nil => exact hb
  | cons c a => exact ha

theorem head?_layoutSource_ne {es : List Rendered} (h : ∀ e ∈ es, e.body.toList.head? ≠ some '?')
    (leading : Bool) : (layoutSource leading es).toList.head? ≠ some '?' := by
  induction es generalizing leading with
  | nil => simp [layoutSource]
  | cons e es ih =>
    obtain ⟨hbody, hbodies⟩ := List.forall_mem_cons.1 h
    have hgap := head?_gapSource_ne e.spaceBefore
    rw [layoutSource]
    split
    · split <;> simp
    · split
      · rw [String.toList_append]
        exact head?_append_ne hbody (ih hbodies false)
      · rw [String.toList_append, String.toList_append]
        exact head?_append_ne (head?_append_ne hgap hbody) (ih hbodies false)

variable {spec : Spec}

theorem head?_rendered_ne (spec : Spec) (optional : String → Bool) (n : Nat) (us : List Unit) :
    ∀ e ∈ rendered spec optional n us, e.body.toList.head? ≠ some '?' := by
  induction us generalizing n with
  | nil => simp [rendered]
  | cons u us ih =>
    obtain ⟨part, space⟩ := u
    cases part with
    | word text =>
      refine List.forall_mem_cons.2 ⟨?_, ih n⟩
      rw [String.toList_ofList]
      exact head?_escape_ne _
    | slot name => exact List.forall_mem_cons.2 ⟨by simp, ih (n + 1)⟩

theorem Readable.exists_stands {name : String} (h : Readable spec name) {before : List String}
    (hbefore : ∀ g ∈ slotGroups spec name, g ∉ before) :
    ∃ p, Stands (sourceOf spec name) p before ∧ p.names = slotGroups spec name := by
  obtain ⟨slot, ⟨node, groups⟩, hslot, hpattern⟩ := h
  have hgroups : slotGroups spec name = groups := by
    rw [slotGroups, hslot, Option.map_some, hpattern]
  have hsource : sourceOf spec name = slotSource slot := by
    rw [sourceOf, hslot, Option.map_some, Option.getD_some]
  rw [hgroups] at hbefore ⊢
  rw [hsource]
  exact exists_stands_of_slotPattern hpattern hbefore

/-- An element that has to be there, and what stands behind it. -/
theorem readsOn_kept {body rest : String} {names names' : List String}
    (hbody : Passes names body.toList names') (hhead : body.toList.head? ≠ some '?')
    (hrest : rest.toList.head? ≠ some '?') (hreads : ReadsOn names' rest.toList) (leading space : Bool) :
    ReadsOn names (if leading then body ++ rest else gapSource space ++ body ++ rest).toList := by
  split
  · rw [String.toList_append]
    exact hbody _ hrest hreads
  · rw [String.toList_append, String.toList_append]
    exact (passes_gapSource space names).append hbody hhead _ hrest hreads

/-- Elements with blanks between are read to the end, where the words that may be left out are articles
and the names of all groups are new. -/
theorem readsOn_layoutSource {optional : String → Bool}
    (hoptional : ∀ word, optional word = true → word ∈ optionalArticles) {us : List Unit} {n : Nat}
    {names : List String} (hreadable : ∀ name ∈ slotNames us, Readable spec name)
    (hnodup : (groupsOf spec n (slotNames us)).Nodup)
    (hnew : ∀ g ∈ groupsOf spec n (slotNames us), g ∉ names) (leading : Bool) :
    ReadsOn names (layoutSource leading (rendered spec optional n us)).toList := by
  induction us generalizing n names leading with
  | nil =>
    have hstar : ('*', 0, none) ∈ repetitions := by decide
    have hend : Passes names (['\\', 's', '*'] ++ ['$']) names :=
      (passes_blanks hstar names).append (passes_place (by decide) names) (by decide)
    simpa [rendered, layoutSource] using hend [] (by simp) (readsOn_nil names)
  | cons u us ih =>
    obtain ⟨part, space⟩ := u
    have hhead (n : Nat) (leading : Bool) :=
      head?_layoutSource_ne (head?_rendered_ne spec optional n us) leading
    cases part with
    | word text =>
      have hrest := ih hreadable hnodup hnew
      rw [rendered, layoutSource]
      dsimp only
      split
      · rename_i hword
        have hplain := isPlain_article text (hoptional text hword)
        split
        · rw [String.toList_append]
          exact passes_plainOptional (hplain _).1 names _ (hhead n true) (hrest true)
        · rw [String.toList_append]
          exact passes_plainOptional (hplain _).2 names _ (hhead n false) (hrest false)
      · refine readsOn_kept ?_ ?_ (hhead n false) (hrest false) leading space
        · rw [String.toList_ofList]
          exact passes_escape names _
        · rw [String.toList_ofList]
          exact head?_escape_ne _
    | slot name =>
      obtain ⟨hname, hnames⟩ := List.forall_mem_cons.1 hreadable
      have hgroups : groupsOf spec n (slotNames (⟨.slot name, space⟩ :: us)) =
          (groupName n :: slotGroups spec name) ++ groupsOf spec (n + 1) (slotNames us) := rfl
      rw [hgroups] at hnodup hnew
      obtain ⟨hnewName, hown, hlater, hafter⟩ := fresh_of_nodup hnodup hnew
      obtain ⟨p, hp, hpnames⟩ := hname.exists_stands hown
      rw [← hpnames] at hafter
      rw [rendered, layoutSource]
      dsimp only
      rw [if_neg Bool.false_ne_true]
      exact readsOn_kept (passes_named hnewName hp) (by simp) (hhead (n + 1) false)
        (ih hnames hlater hafter false) leading space

/-! Whole patterns. -/

theorem exists_parse_source {optional : String → Bool}
    (hoptional : ∀ word, optional word = true → word ∈ optionalArticles) {us : List Unit}
    (hreadable : ∀ name ∈ slotNames us, Readable spec name)
    (hnodup : (groupsOf spec 0 (slotNames us)).Nodup) :
    ∃ p, Pattern.parse {} (source (rendered spec optional 0 us)) = .ok p := by
  have hlayout : ReadsOn [] (layoutSource true (rendered spec optional 0 us)).toList :=
    readsOn_layoutSource hoptional hreadable hnodup (by simp) true
  have hhead := head?_layoutSource_ne (head?_rendered_ne spec optional 0 us) true
  have hstar : ('*', 0, none) ∈ repetitions := by decide
  have hstart : Passes [] (['^'] ++ ['\\', 's', '*']) [] :=
    (passes_place (by decide) []).append (passes_blanks hstar []) (by decide)
  obtain ⟨p, hp⟩ := (hstart _ hhead hlayout).exists_parse
  have htext : (source (rendered spec optional 0 us)).toList = '(' :: '?' :: 'i' :: ')' ::
      (['^'] ++ ['\\', 's', '*'] ++ (layoutSource true (rendered spec optional 0 us)).toList) := by
    simp [source]
  rw [← htext, String.ofList_toList] at hp
  exact ⟨p, hp⟩

theorem exists_parse_matcherSource {name : String} (h : Readable spec name) :
    ∃ p, Pattern.parse {} (matcherSource spec name) = .ok p := by
  have hbefore : ∀ g ∈ slotGroups spec name, g ∉ ([] : List String) := by simp
  obtain ⟨p, hp, -⟩ := h.exists_stands hbefore
  have hbody : Passes [] (['^'] ++ ("(?:" ++ sourceOf spec name ++ ")").toList ++ ['$']) (p.names ++ []) :=
    ((passes_place (by decide) []).append (passes_parenthesized hp) (by simp)).append
      (passes_place (by decide) _) (by decide)
  obtain ⟨q, hq⟩ := (hbody [] (by simp) (readsOn_nil _)).exists_parse
  have htext : (matcherSource spec name).toList = '(' :: '?' :: 'i' :: ')' ::
      (['^'] ++ ("(?:" ++ sourceOf spec name ++ ")").toList ++ ['$'] ++ []) := by
    simp [matcherSource]
  rw [← htext, String.ofList_toList] at hq
  exact ⟨q, hq⟩

theorem length_eraseDups_le {α : Type} [BEq α] (l : List α) : l.eraseDups.length ≤ l.length := by
  match l with
  | [] => rfl
  | a :: l =>
    have hfilter := List.length_filter_le (fun b => !b == a) l
    have hle := length_eraseDups_le (l.filter fun b => !b == a)
    rw [List.eraseDups_cons, List.length_cons, List.length_cons]
    omega
termination_by l.length
decreasing_by
  simp only [List.length_cons]
  omega

theorem nodup_of_length_eraseDups {α : Type} [BEq α] [LawfulBEq α] {l : List α}
    (h : l.eraseDups.length = l.length) : l.Nodup := by
  induction l with
  | nil => exact .nil
  | cons a l ih =>
    rw [List.eraseDups_cons, List.length_cons, List.length_cons, Nat.add_right_cancel_iff] at h
    have hle := length_eraseDups_le (l.filter fun b => !b == a)
    have hfilter := List.length_filter_le (fun b => !b == a) l
    have hall : ∀ b ∈ l, (!b == a) = true := List.length_filter_eq_length_iff.1 (by omega)
    rw [List.filter_eq_self.2 hall] at h
    refine List.nodup_cons.2 ⟨fun hmem => ?_, ih h⟩
    simpa using hall a hmem

/-- Where a phrase compiles, what is put together from its template is read as patterns. -/
theorem exists_parse_of_mem_sources {phrase locale : String} {kind : PhraseKind} {lex : Lexicon}
    {i : Intent} (h : Intent.compile spec phrase kind locale lex = .ok i) :
    ∃ us, parse phrase = .ok us ∧
      ∀ text ∈ sources spec lex locale us, ∃ p, Pattern.parse {} text = .ok p := by
  obtain ⟨us, d, hparse, hd, hlength, -⟩ := Intent.exists_draft_of_compile h
  have hadds := Draft.adds_of_foldlM hd
  have hgroups : d.groups = groupsOf spec 0 (slotNames us) := hadds.groups
  have hnodup : (groupsOf spec 0 (slotNames us)).Nodup := by
    rw [← hgroups]
    exact nodup_of_length_eraseDups hlength
  refine ⟨us, hparse, fun text htext => ?_⟩
  rcases List.mem_cons.1 htext with rfl | htext
  · exact exists_parse_source (by simp [never]) hadds.readable hnodup
  rcases List.mem_cons.1 htext with rfl | htext
  · refine exists_parse_source ?_ ?_ ?_
    · intro word hword
      simp only [leftOut, Bool.and_eq_true, List.contains_iff_mem] at hword
      exact hword.2
    · rw [slotNames_normalUnits]
      exact hadds.readable
    · rw [slotNames_normalUnits]
      exact hnodup
  · obtain ⟨name, hname, rfl⟩ := List.mem_map.1 htext
    exact exists_parse_matcherSource (hadds.readable name hname)

example :
    let spec : Spec := {
      name := "open"
      action := .typed "open" none
      phrases := .ofList []
      slots := [{ name := "id", kind := .boolean }] }
    (parse "la orden \x7bid\x7d").toOption.map (sources spec .empty "es") =
      some ["(?i)^\\s*la\\s+orden\\s+(?P<slot0>\\w+)\\s*$",
        "(?i)^\\s*(?:la\\s+)?orden\\s+(?P<slot0>\\w+)\\s*$", "(?i)^(?:\\w+)$"] := by
  decide +kernel

end Parlance.Template
