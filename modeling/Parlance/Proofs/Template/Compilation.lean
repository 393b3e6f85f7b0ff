import Parlance.Template.Intent

/-!
What a compiled intent is made of. Main statements: `exists_draft_of_compile`, and
`sameOutcome_compile`, that neither the lexicon nor the locale decides whether a phrase compiles.
-/

namespace Parlance

/-- Both failed in the same way, or both succeeded with related results. -/
def SameOutcome {ε α β : Type} (R : α → β → Prop) : Except ε α → Except ε β → Prop
  | .error e, .error e' => e = e'
  | .ok a, .ok b => R a b
  | _, _ => False

theorem eq_ok_of_mem_toOption {ε α : Type} {r : Except ε α} {x : α} (h : x ∈ r.toOption) :
    r = .ok x := by
  cases r with
  | error => cases h
  | ok => cases h; rfl

namespace Template

open Pattern

/-- The pattern of a declared slot. -/
def nodeOf (spec : Spec) (name : String) : Node :=
  match (spec.slot? name).map slotPattern with
  | some (.ok (node, _)) => node
  | _ => .empty

/-- The names of the slots of units, in order. -/
def slotNames (us : List Unit) : List String :=
  us.filterMap fun u =>
    match u.part with
    | .word _ => none
    | .slot name => some name

/-- The slots of units with their patterns. -/
def slotsOf (spec : Spec) (us : List Unit) : List SlotPattern :=
  (slotNames us).filterMap fun name => (spec.slot? name).map (⟨·, nodeOf spec name⟩)

/-- A unit as an element of a pattern in which some words are optional. -/
def elementOf (spec : Spec) (optional : String → Bool) (u : Unit) : Element :=
  match u.part with
  | .word text => ⟨.fixed (literal text), u.spaceBefore, optional text⟩
  | .slot name => ⟨.slot (nodeOf spec name), u.spaceBefore, false⟩

theorem spaceBefore_elementOf (spec : Spec) (optional : String → Bool) (u : Unit) :
    (elementOf spec optional u).spaceBefore = u.spaceBefore := by
  rw [elementOf]
  split <;> rfl

def never (_ : String) : Bool :=
  false

theorem mem_slotsOf {spec : Spec} {us : List Unit} {p : SlotPattern} (h : p ∈ slotsOf spec us) :
    spec.slot? p.name = some p.slot ∧ p.node = nodeOf spec p.name := by
  obtain ⟨name, -, hp⟩ := List.mem_filterMap.1 h
  obtain ⟨slot, hslot, rfl⟩ := Option.map_eq_some_iff.1 hp
  obtain rfl : slot.name = name := by simpa using List.find?_some hslot
  exact ⟨hslot, rfl⟩

theorem nodeOf_of_default {spec : Spec} {name : String} {slot : Slot}
    (hslot : spec.slot? name = some slot) (hdefault : slot.pattern = none) :
    nodeOf spec name = kindPattern slot.kind := by
  rw [nodeOf, hslot, Option.map_some, slotPattern, hdefault]

/-- Units with their words normalized, when blanks were left over (`carried`) from words that are
nothing but punctuation. -/
def normalUnits (lex : Lexicon) (locale : String) : (carried : Bool) → List Unit → List Unit
  | _, [] => []
  | carried, ⟨.word text, space⟩ :: us =>
    match Text.normalizeWord lex locale text with
    | none => normalUnits lex locale (carried || space) us
    | some w => ⟨.word w.text, space || carried⟩ :: normalUnits lex locale false us
  | carried, ⟨.slot name, space⟩ :: us =>
    ⟨.slot name, space || carried⟩ :: normalUnits lex locale false us

theorem slotNames_normalUnits (lex : Lexicon) (locale : String) (carried : Bool) (us : List Unit) :
    slotNames (normalUnits lex locale carried us) = slotNames us := by
  induction us generalizing carried with
  | nil => rfl
  | cons u us ih =>
    obtain ⟨part, space⟩ := u
    cases part with
    | word text =>
      rw [normalUnits]
      split
      · exact ih _
      · exact ih _
    | slot name => exact congrArg (name :: ·) (ih false)

/-- The names of the groups in the pattern of a declared slot. -/
def slotGroups (spec : Spec) (name : String) : List String :=
  match (spec.slot? name).map slotPattern with
  | some (.ok (_, groups)) => groups
  | _ => []

/-- A slot has a declaration, and that a pattern. -/
def Readable (spec : Spec) (name : String) : Prop :=
  ∃ slot p, spec.slot? name = some slot ∧ slotPattern slot = .ok p

def groupName (n : Nat) : String :=
  "slot" ++ toString n

/-- The names of all groups in the patterns of slots, when `n` slots stand before. -/
def groupsOf (spec : Spec) : (n : Nat) → (names : List String) → List String
  | _, [] => []
  | n, name :: names => (groupName n :: slotGroups spec name) ++ groupsOf spec (n + 1) names

def Draft.withSlot (d : Draft) (slot : Slot) (node : Node) (groups : List String) (space : Bool) :
    Draft :=
  { d with
    elements := d.elements ++ [⟨.slot node, space, false⟩]
    normalized := d.normalized ++ [⟨.slot node, space || d.carriedSpace, false⟩]
    slots := d.slots ++ [⟨slot, node⟩]
    groups := d.groups ++ ("slot" ++ toString d.slots.length) :: groups
    carriedSpace := false }

theorem Draft.addSlot_eq (spec : Spec) (d : Draft) (name : String) (space : Bool) :
    d.addSlot spec name space =
      match spec.slot? name with
      | none => .error (.undeclaredSlot name)
      | some slot =>
        if d.slots.any (·.name = name) then .error (.duplicateSlot name)
        else (slotPattern slot).map fun p => d.withSlot slot p.1 p.2 space := by
  unfold Draft.addSlot
  cases spec.slot? name with
  | none => rfl
  | some slot =>
    dsimp only
    change (if _ then _ else _) = _
    split
    · rfl
    · cases slotPattern slot <;> rfl

/-! What units make of a draft. -/

/-- A draft with the elements and slots of units added. -/
structure Draft.Adds (spec : Spec) (lex : Lexicon) (locale : String) (us : List Unit)
    (d d' : Draft) : Prop where
  elements : d'.elements = d.elements ++ us.map (elementOf spec never)
  normalized : d'.normalized = d.normalized ++
    (normalUnits lex locale d.carriedSpace us).map (elementOf spec optionalArticles.contains)
  slots : d'.slots = d.slots ++ slotsOf spec us
  names : (slotsOf spec us).map SlotPattern.name = slotNames us
  nodup : (d.slots.map SlotPattern.name).Nodup → (d'.slots.map SlotPattern.name).Nodup
  groups : d'.groups = d.groups ++ groupsOf spec d.slots.length (slotNames us)
  readable : ∀ name ∈ slotNames us, Readable spec name

theorem Draft.Adds.word {spec : Spec} {lex : Lexicon} {locale text : String} {space : Bool}
    {us : List Unit} {d d' : Draft} (h : (d.addWord lex locale text space).Adds spec lex locale us d') :
    d.Adds spec lex locale (⟨.word text, space⟩ :: us) d' := by
  obtain ⟨helements, hnormalized, hslots, hnames, hnodup, hgroups, hreadable⟩ := h
  have hgroups' : d'.groups = d.groups ++ groupsOf spec d.slots.length (slotNames us) := by
    rw [hgroups, Draft.addWord]
    split <;> rfl
  have hnodup' : (d.slots.map SlotPattern.name).Nodup → (d'.slots.map SlotPattern.name).Nodup := by
    intro hd
    refine hnodup ?_
    rw [Draft.addWord]
    split <;> exact hd
  have hslots' : d'.slots = d.slots ++ slotsOf spec us := by
    rw [hslots, Draft.addWord]
    split <;> rfl
  refine ⟨?_, ?_, hslots', hnames, hnodup', hgroups', hreadable⟩
  · rw [helements, Draft.addWord]
    split <;> simp [elementOf, never]
  · rw [hnormalized, normalUnits, Draft.addWord]
    split <;> simp [elementOf, *]

theorem Draft.Adds.slot {spec : Spec} {lex : Lexicon} {locale : String} {slot : Slot}
    {space : Bool} {us : List Unit} {d d' : Draft} {node : Node} {groups : List String}
    (hslot : spec.slot? slot.name = some slot) (hpattern : slotPattern slot = .ok (node, groups))
    (hnew : ∀ p ∈ d.slots, p.name ≠ slot.name)
    (h : (d.withSlot slot node groups space).Adds spec lex locale us d') :
    d.Adds spec lex locale (⟨.slot slot.name, space⟩ :: us) d' := by
  obtain ⟨helements, hnormalized, hslots, hnames, hnodup, hgroups, hreadable⟩ := h
  have hnode : nodeOf spec slot.name = node := by
    rw [nodeOf, hslot, Option.map_some, hpattern]
  have hslotGroups : slotGroups spec slot.name = groups := by
    rw [slotGroups, hslot, Option.map_some, hpattern]
  refine ⟨?_, ?_, ?_, ?_, fun hd => hnodup ?_, ?_, ?_⟩
  · rw [helements]
    simp [withSlot, elementOf, hnode]
  · rw [hnormalized]
    simp [withSlot, normalUnits, elementOf, hnode]
  · rw [hslots]
    simp [withSlot, slotsOf, slotNames, hslot, hnode]
  · simpa [slotsOf, slotNames, hslot, SlotPattern.name] using hnames
  · rw [withSlot, List.map_append, List.nodup_append]
    refine ⟨hd, by simp, fun a ha b hb hab => ?_⟩
    obtain ⟨p, hp, rfl⟩ := List.mem_map.1 ha
    exact hnew p hp (hab.trans (List.mem_singleton.1 hb))
  · rw [hgroups]
    simp [withSlot, slotNames, groupsOf, groupName, hslotGroups]
  · rw [slotNames, List.filterMap_cons]
    exact List.forall_mem_cons.2 ⟨⟨slot, _, hslot, hpattern⟩, hreadable⟩

theorem Draft.adds_of_foldlM {spec : Spec} {lex : Lexicon} {locale : String} {us : List Unit}
    {d d' : Draft} (h : us.foldlM (Draft.add spec lex locale) d = .ok d') :
    d.Adds spec lex locale us d' := by
  induction us generalizing d with
  | nil =>
    cases h
    exact ⟨by simp, by simp [normalUnits], by simp [slotsOf, slotNames], rfl, id,
      by simp [slotNames, groupsOf], by simp [slotNames]⟩
  | cons u us ih =>
    obtain ⟨part, space⟩ := u
    rw [List.foldlM_cons] at h
    cases part with
    | word text => exact Adds.word (ih h)
    | slot name =>
      change (d.addSlot spec name space >>= _) = _ at h
      rw [Draft.addSlot_eq] at h
      cases hslot : spec.slot? name with
      | none => rw [hslot] at h; cases h
      | some slot =>
        rw [hslot] at h
        dsimp only at h
        obtain rfl : slot.name = name := by simpa using List.find?_some hslot
        split at h
        · cases h
        · rename_i hnew
          cases hpattern : slotPattern slot with
          | error fault => rw [hpattern] at h; cases h
          | ok p =>
            rw [hpattern] at h
            exact Adds.slot hslot hpattern (by simpa using hnew) (ih h)

/-! Whether a phrase compiles. -/

/-- Drafts with the same slots, whatever became of their words. -/
def Draft.Alike (d e : Draft) : Prop :=
  d.slots = e.slots ∧ d.groups = e.groups

variable {spec : Spec} {lex lex' : Lexicon} {locale locale' : String}

theorem Draft.Alike.addWord {d e : Draft} (h : d.Alike e) (word : String) (space : Bool) :
    (d.addWord lex locale word space).Alike (e.addWord lex' locale' word space) := by
  unfold Draft.addWord
  split <;> split <;> exact h

theorem Draft.Alike.addSlot {d e : Draft} (h : d.Alike e) (name : String) (space : Bool) :
    SameOutcome Alike (d.addSlot spec name space) (e.addSlot spec name space) := by
  rw [Draft.addSlot_eq, Draft.addSlot_eq, h.1]
  cases spec.slot? name with
  | none => exact rfl
  | some slot =>
    dsimp only
    split
    · exact rfl
    · cases slotPattern slot with
      | error f => exact rfl
      | ok p => exact ⟨congrArg (· ++ _) h.1, by simp only [withSlot, h.1, h.2]⟩

theorem Draft.Alike.add {d e : Draft} (h : d.Alike e) (u : Unit) :
    SameOutcome Alike (d.add spec lex locale u) (e.add spec lex' locale' u) := by
  unfold Draft.add
  cases u.part with
  | word text => exact h.addWord text u.spaceBefore
  | slot name => exact h.addSlot name u.spaceBefore

theorem Draft.Alike.foldlM_add {d e : Draft} (h : d.Alike e) (us : List Unit) :
    SameOutcome Alike (us.foldlM (Draft.add spec lex locale) d)
      (us.foldlM (Draft.add spec lex' locale') e) := by
  induction us generalizing d e with
  | nil => exact h
  | cons u us ih =>
    have hu : SameOutcome Alike (d.add spec lex locale u) (e.add spec lex' locale' u) := h.add u
    rw [List.foldlM_cons, List.foldlM_cons]
    cases hd : d.add spec lex locale u with
    | error f =>
      cases he : e.add spec lex' locale' u with
      | error f' => rwa [hd, he] at hu
      | ok e' => rw [hd, he] at hu; exact hu.elim
    | ok d' =>
      cases he : e.add spec lex' locale' u with
      | error f' => rw [hd, he] at hu; exact hu.elim
      | ok e' =>
        rw [hd, he] at hu
        exact ih hu

def Draft.intent (d : Draft) (spec : Spec) (phrase : String) (kind : PhraseKind)
    (locale : String) : Intent where
  id := spec.name ++ ":" ++ phrase
  spec := spec
  phrase := phrase
  kind := kind
  locale := locale
  literals := d.literals
  slots := d.slots
  pieces := pieces d.elements
  normalizedPieces := pieces (keepLoneArticles d.normalized)

end Template

namespace Intent

open Template

variable {spec : Spec} {phrase locale locale' : String} {kind kind' : PhraseKind} {lex lex' : Lexicon}

theorem compileFault_eq (spec : Spec) (phrase : String) (kind : PhraseKind) (locale : String)
    (lex : Lexicon) :
    compileFault spec phrase kind locale lex =
      match Template.parse phrase with
      | .error fault => .error (.malformed fault)
      | .ok us =>
        match us.foldlM (Draft.add spec lex locale) {} with
        | .error fault => .error fault
        | .ok d =>
          if d.groups.eraseDups.length ≠ d.groups.length then .error .doesNotCompile
          else .ok (d.intent spec phrase kind locale) := by
  unfold compileFault
  cases Template.parse phrase with
  | error fault => rfl
  | ok us =>
    dsimp only
    change (us.foldlM (Draft.add spec lex locale) {} >>= _) = _
    cases us.foldlM (Draft.add spec lex locale) {} with
    | error fault => rfl
    | ok d =>
      dsimp only
      change (if _ then _ else _) = _
      split <;> rfl

/-- An intent is the draft of its template's units. -/
theorem exists_draft_of_compile {i : Intent} (h : compile spec phrase kind locale lex = .ok i) :
    ∃ us d, Template.parse phrase = .ok us ∧ us.foldlM (Draft.add spec lex locale) {} = .ok d ∧
      d.groups.eraseDups.length = d.groups.length ∧ i = d.intent spec phrase kind locale := by
  unfold compile at h
  rw [compileFault_eq] at h
  cases hp : Template.parse phrase with
  | error fault => rw [hp] at h; cases h
  | ok us =>
    rw [hp] at h
    dsimp only at h
    cases hd : us.foldlM (Draft.add spec lex locale) {} with
    | error fault => rw [hd] at h; cases h
    | ok d =>
      rw [hd] at h
      dsimp only at h
      split at h
      · cases h
      · rename_i hgroups
        cases h
        exact ⟨us, d, rfl, hd, Decidable.not_not.1 hgroups, rfl⟩

/-- What the units of a template make of it. -/
structure Compiled (spec : Spec) (lex : Lexicon) (us : List Template.Unit) (i : Intent) : Prop where
  pieces : i.pieces = Template.pieces (us.map (elementOf spec never))
  /-- Articles may be left out unless there is nothing else. -/
  normalizedPieces : ∃ optional, (optional = never ∨ optional = optionalArticles.contains) ∧
    i.normalizedPieces =
      Template.pieces ((normalUnits lex i.locale false us).map (elementOf spec optional))
  slots : i.slots = slotsOf spec us
  names : i.slots.map SlotPattern.name = slotNames us
  nodup : (slotNames us).Nodup

theorem Compiled.exists_slot {us : List Template.Unit} {i : Intent} (h : Compiled spec lex us i)
    {name : String} (hname : name ∈ slotNames us) :
    ∃ p ∈ i.slots, p.name = name ∧ spec.slot? name = some p.slot ∧ p.node = nodeOf spec name := by
  obtain ⟨p, hp, rfl⟩ := List.mem_map.1 (h.names ▸ hname)
  exact ⟨p, hp, rfl, mem_slotsOf (h.slots ▸ hp)⟩

theorem keepLoneArticles_map (spec : Spec) (us : List Template.Unit) :
    ∃ optional, (optional = never ∨ optional = optionalArticles.contains) ∧
      keepLoneArticles (us.map (elementOf spec optionalArticles.contains)) =
        us.map (elementOf spec optional) := by
  unfold keepLoneArticles
  split
  · refine ⟨never, .inl rfl, ?_⟩
    rw [List.map_map]
    refine List.map_congr_left fun u _ => ?_
    rw [Function.comp, elementOf, elementOf]
    split <;> rfl
  · exact ⟨_, .inr rfl, rfl⟩

theorem compiled_of_compile {i : Intent} (h : compile spec phrase kind locale lex = .ok i) :
    ∃ us, Template.parse phrase = .ok us ∧ i.locale = locale ∧ i.phrase = phrase ∧
      Compiled spec lex us i := by
  obtain ⟨us, d, hparse, hd, -, rfl⟩ := exists_draft_of_compile h
  obtain ⟨helements, hnormalized, hslots, hnames, hnodup, -, -⟩ := Draft.adds_of_foldlM hd
  have hslots : d.slots = slotsOf spec us := hslots
  have hnames : d.slots.map SlotPattern.name = slotNames us := by rw [hslots, hnames]
  refine ⟨us, hparse, rfl, rfl, congrArg Template.pieces helements, ?_, hslots, hnames,
    hnames ▸ hnodup .nil⟩
  obtain ⟨optional, hoptional, hkeep⟩ := keepLoneArticles_map spec (normalUnits lex locale false us)
  refine ⟨optional, hoptional, ?_⟩
  change Template.pieces (keepLoneArticles d.normalized) = _
  rw [hnormalized]
  exact congrArg Template.pieces hkeep

/-- Neither the lexicon, nor the locale, nor the kind of a phrase decides whether it compiles. -/
theorem sameOutcome_compile (spec : Spec) (phrase : String) (kind kind' : PhraseKind)
    (locale locale' : String) (lex lex' : Lexicon) :
    SameOutcome (fun _ _ => True) (compile spec phrase kind locale lex)
      (compile spec phrase kind' locale' lex') := by
  unfold compile
  rw [compileFault_eq, compileFault_eq]
  cases Template.parse phrase with
  | error fault => exact rfl
  | ok us =>
    dsimp only
    have h : SameOutcome Draft.Alike (us.foldlM (Draft.add spec lex locale) {})
        (us.foldlM (Draft.add spec lex' locale') {}) := Draft.Alike.foldlM_add ⟨rfl, rfl⟩ us
    cases hd : us.foldlM (Draft.add spec lex locale) {} with
    | error f =>
      cases he : us.foldlM (Draft.add spec lex' locale') {} with
      | error f' =>
        rw [hd, he] at h
        exact congrArg _ h
      | ok e => rw [hd, he] at h; exact h.elim
    | ok d =>
      cases he : us.foldlM (Draft.add spec lex' locale') {} with
      | error f' => rw [hd, he] at h; exact h.elim
      | ok e =>
        rw [hd, he] at h
        dsimp only
        rw [h.2]
        split
        · exact rfl
        · exact trivial

/-- The kind of a phrase leaves no trace in its intent but itself. -/
theorem compile_kind (spec : Spec) (phrase : String) (kind kind' : PhraseKind) (locale : String)
    (lex : Lexicon) :
    compile spec phrase kind' locale lex =
      (compile spec phrase kind locale lex).map fun i => { i with kind := kind' } := by
  unfold compile
  rw [compileFault_eq, compileFault_eq]
  cases Template.parse phrase with
  | error fault => rfl
  | ok us =>
    dsimp only
    cases us.foldlM (Draft.add spec lex locale) {} with
    | error f => rfl
    | ok d =>
      dsimp only
      split <;> rfl

end Intent

end Parlance
