import Parlance.Lexicon.Edit
import Parlance.Proofs.Text.Casing

/-!
The lexicon as the outcome of a log in which the last writer wins: each change writes entries into the
log, and a key stands for what the last entry for it says. Main statement: `tells_after`, that what a
lexicon answers is what the log of the changes made to it tells.
-/

namespace Parlance.Lexicon

/-! Keys. -/

theorem trim_key (term : String) : Text.trim (key term) = key term :=
  Text.trim_lowercase_trim term

/-- The key of a key is the key itself. -/
@[simp] theorem key_key (term : String) : key (key term) = key term := by
  rw [key, trim_key]
  exact Text.lowercase_lowercase (Text.trim term)

theorem key_eq_empty_iff {term : String} : key term = "" ↔ Text.isBlank term := by
  rw [key, Text.lowercase_eq_empty_iff, Text.isBlank_iff]

/-! Logs. -/

/-- An entry of a log: what a key stands for under one tag from then on, absent where it was removed. -/
structure Entry where
  locale : String
  key : String
  sense : Option Sense

/-- What filing a word writes into the log: nothing for a blank word. -/
def filing (locale term canonical : String) (weight : Float) : List Entry :=
  if Text.isBlank term then [] else [⟨locale, key term, some ⟨Text.trim canonical, weight⟩⟩]

def Edit.entries : Edit → List Entry
  | .register locale term canonical => filing locale term canonical 1.0
  | .registerWeighted locale term canonical weight => filing locale term canonical weight
  | .registerAll locale terms => terms.flatMap fun t => filing locale t.1 t.2 1.0
  | .remove locale term => [⟨locale, key term, none⟩]

/-- What changes write into the log, one after the other. -/
def log (edits : List Edit) : List Entry :=
  edits.flatMap Edit.entries

/-- The lexicon that changes make of an empty one. -/
def after (edits : List Edit) : Lexicon :=
  edits.foldl edit empty

def Entry.Concerns (e : Entry) (locale k : String) : Prop :=
  e.locale = locale ∧ e.key = k

instance (e : Entry) (locale k : String) : Decidable (e.Concerns locale k) :=
  inferInstanceAs (Decidable (_ ∧ _))

/-- The last entry for a key under a tag files this sense. -/
def Live (es : List Entry) (locale k : String) (s : Sense) : Prop :=
  ∃ earlier later, es = earlier ++ ⟨locale, k, some s⟩ :: later ∧
    ∀ e ∈ later, ¬e.Concerns locale k

/-- The live entry for a key under a tag files this term. -/
def Means (es : List Entry) (locale k canonical : String) : Prop :=
  ∃ s, Live es locale k s ∧ s.canonical = canonical

/-- What a lexicon answers is what a log tells. -/
structure Tells (lex : Lexicon) (es : List Entry) : Prop where
  /-- A word stands for the term that is live under the tag, and where none is for the one that is
  live under the base language. -/
  canonical? : ∀ locale term canonical, lex.canonical? locale term = some canonical ↔
    Means es locale (key term) canonical ∨
      (¬∃ s, Live es locale (key term) s) ∧ Locale.baseLanguage locale ≠ locale ∧
        Means es (Locale.baseLanguage locale) (key term) canonical
  /-- There is something to remove exactly where an entry is live under the tag itself. -/
  holds : ∀ locale term, lex.holds locale term ↔ ∃ s, Live es locale (key term) s
  terms : ∀ locale k canonical, (k, canonical) ∈ lex.terms locale ↔ Means es locale k canonical
  terms_sorted : ∀ locale, (lex.terms locale).Pairwise fun x y => x.1 < y.1
  locales : ∀ locale, locale ∈ lex.locales ↔ ∃ k s, Live es locale k s
  locales_sorted : lex.locales.Pairwise (· < ·)

variable {es : List Entry} {e : Entry} {locale locale' k : String} {s : Sense} {edits : List Edit}

/-! The last entry. -/

theorem not_live_nil : ¬Live [] locale k s := by
  rintro ⟨earlier, later, hes, -⟩
  cases earlier <;> cases hes

theorem live_append_of_concerns (h : e.Concerns locale k) :
    Live (es ++ [e]) locale k s ↔ e.sense = some s := by
  constructor
  · rintro ⟨earlier, later, hes, hlater⟩
    rcases List.eq_nil_or_concat later with rfl | ⟨later, d, rfl⟩
    · obtain ⟨-, he⟩ := List.append_inj' hes rfl
      cases he
      rfl
    · rw [List.concat_eq_append, ← List.cons_append, ← List.append_assoc] at hes
      obtain ⟨-, he⟩ := List.append_inj' hes rfl
      cases he
      exact absurd h (hlater _ (by simp))
  · intro hs
    obtain ⟨rfl, rfl⟩ := h
    exact ⟨es, [], by rw [← hs], List.forall_mem_nil _⟩

theorem live_append_of_not_concerns (h : ¬e.Concerns locale k) :
    Live (es ++ [e]) locale k s ↔ Live es locale k s := by
  constructor
  · rintro ⟨earlier, later, hes, hlater⟩
    rcases List.eq_nil_or_concat later with rfl | ⟨later, d, rfl⟩
    · obtain ⟨-, he⟩ := List.append_inj' hes rfl
      cases he
      exact absurd ⟨rfl, rfl⟩ h
    · rw [List.concat_eq_append, ← List.cons_append, ← List.append_assoc] at hes
      obtain ⟨hes, -⟩ := List.append_inj' hes rfl
      exact ⟨earlier, later, hes, fun d hd => hlater d (by simp [hd])⟩
  · rintro ⟨earlier, later, rfl, hlater⟩
    refine ⟨earlier, later ++ [e], by simp, fun d hd => ?_⟩
    rcases List.mem_append.1 hd with hd | hd
    · exact hlater d hd
    · rwa [List.mem_singleton.1 hd]

/-- The sense of a key under a tag after an entry. -/
def Entry.settle (locale k : String) (old : Option Sense) (e : Entry) : Option Sense :=
  if e.Concerns locale k then e.sense else old

theorem foldl_settle_eq_some_iff :
    es.foldl (Entry.settle locale k) none = some s ↔ Live es locale k s := by
  induction es using List.reverseRecOn with
  | nil => simp [not_live_nil]
  | append_singleton es e ih =>
    rw [List.foldl_append, List.foldl_cons, List.foldl_nil, Entry.settle]
    split
    · exact (live_append_of_concerns ‹_›).symm
    · rw [ih, live_append_of_not_concerns ‹_›]

theorem foldl_settle_of_forall_ne (h : ∀ e ∈ es, e.locale ≠ locale) (old : Option Sense) :
    es.foldl (Entry.settle locale k) old = old := by
  induction es with
  | nil => rfl
  | cons e es ih =>
    obtain ⟨he, hes⟩ := List.forall_mem_cons.1 h
    rw [List.foldl_cons, Entry.settle, if_neg fun hconcerns => he hconcerns.1, ih hes]

/-! What a change does to the packs. -/

theorem pack_setPack (lex : Lexicon) (locale locale' : String) (p : OrderedMap Sense) :
    (lex.setPack locale p).pack locale' = if locale' = locale then p else lex.pack locale' := by
  rw [pack, setPack, OrderedMap.get?_insert]
  split <;> rfl

theorem get?_addTo (p : OrderedMap Sense) (locale term canonical : String) (weight : Float)
    (k : String) : (addTo p term canonical weight).get? k =
      (filing locale term canonical weight).foldl (Entry.settle locale k) (p.get? k) := by
  rw [addTo, filing]
  by_cases hblank : Text.isBlank term
  · have hkey : key term = "" := key_eq_empty_iff.2 hblank
    rw [if_pos hblank]
    simp [hkey]
  · have hkey : key term ≠ "" := key_eq_empty_iff.not.2 hblank
    rw [if_neg hblank, List.foldl_cons, List.foldl_nil, Entry.settle]
    by_cases hk : k = key term
    · subst hk
      simp [hkey, Entry.Concerns]
    · simp [hkey, hk, Entry.Concerns, Ne.symm hk]

theorem get?_foldl_addTo (p : OrderedMap Sense) (locale : String) (terms : List (String × String))
    (k : String) : (terms.foldl (fun p t => addTo p t.1 t.2 1.0) p).get? k =
      (terms.flatMap fun t => filing locale t.1 t.2 1.0).foldl (Entry.settle locale k) (p.get? k) := by
  induction terms generalizing p with
  | nil => rfl
  | cons t terms ih =>
    rw [List.foldl_cons, ih, get?_addTo p locale, List.flatMap_cons, List.foldl_append]

theorem get?_erase_key (p : OrderedMap Sense) (locale term k : String) :
    (p.erase (key term)).get? k = Entry.settle locale k (p.get? k) ⟨locale, key term, none⟩ := by
  rw [OrderedMap.get?_erase, Entry.settle]
  by_cases hk : k = key term
  · simp [Entry.Concerns, hk]
  · simp [Entry.Concerns, hk, Ne.symm hk]

theorem locale_of_mem_filing {term canonical : String} {weight : Float}
    (h : e ∈ filing locale term canonical weight) : e.locale = locale := by
  unfold filing at h
  split at h
  · cases h
  · rw [List.mem_singleton.1 h]

/-- A pack that entries settle can be put in place of the old one. -/
theorem get?_pack_setPack {lex : Lexicon} {p : OrderedMap Sense}
    (hlocale : ∀ e ∈ es, e.locale = locale)
    (hp : p.get? k = es.foldl (Entry.settle locale k) ((lex.pack locale).get? k)) :
    ((lex.setPack locale p).pack locale').get? k =
      es.foldl (Entry.settle locale' k) ((lex.pack locale').get? k) := by
  rw [pack_setPack]
  split
  · rename_i hsame
    rw [hsame, hp]
  · rename_i hother
    have hne : ∀ e ∈ es, e.locale ≠ locale' := fun e he h => hother (h.symm.trans (hlocale e he))
    rw [foldl_settle_of_forall_ne hne]

/-- A change settles each key entry by entry. -/
theorem get?_pack_edit (lex : Lexicon) (e : Edit) (locale k : String) :
    ((lex.edit e).pack locale).get? k =
      e.entries.foldl (Entry.settle locale k) ((lex.pack locale).get? k) := by
  cases e with
  | register locale' term canonical =>
    exact get?_pack_setPack (fun _ => locale_of_mem_filing) (get?_addTo ..)
  | registerWeighted locale' term canonical weight =>
    exact get?_pack_setPack (fun _ => locale_of_mem_filing) (get?_addTo ..)
  | registerAll locale' terms =>
    refine get?_pack_setPack (fun e he => ?_) (get?_foldl_addTo ..)
    obtain ⟨t, -, he⟩ := List.mem_flatMap.1 he
    exact locale_of_mem_filing he
  | remove locale' term =>
    exact get?_pack_setPack (by simp [Edit.entries]) (get?_erase_key ..)

/-! What changes make of an empty lexicon. -/

theorem after_append (edits : List Edit) (e : Edit) : after (edits ++ [e]) = (after edits).edit e := by
  rw [after, List.foldl_append, List.foldl_cons, List.foldl_nil, ← after]

/-- What stands in a pack is what the log of the changes tells to be live. -/
theorem get?_pack_after_eq_some_iff :
    ((after edits).pack locale).get? k = some s ↔ Live (log edits) locale k s := by
  have hsettle : ((after edits).pack locale).get? k =
      (log edits).foldl (Entry.settle locale k) none := by
    induction edits using List.reverseRecOn with
    | nil => rfl
    | append_singleton edits e ih =>
      rw [after_append, get?_pack_edit, ih, log, log, List.flatMap_append, List.foldl_append,
        List.flatMap_singleton]
  rw [hsettle, foldl_settle_eq_some_iff]

theorem get?_pack_after_eq_none_iff :
    ((after edits).pack locale).get? k = none ↔ ¬∃ s, Live (log edits) locale k s := by
  simp only [Option.eq_none_iff_forall_ne_some, ne_eq, get?_pack_after_eq_some_iff, not_exists]

theorem revision_after (edits : List Edit) : (after edits).revision = edits.length := by
  induction edits using List.reverseRecOn with
  | nil => rfl
  | append_singleton edits e ih =>
    rw [after_append, revision_edit, ih, List.length_append, List.length_singleton]

/-- What is filed is filed under the key of a word that is not blank, with a trimmed term. -/
theorem exists_of_mem_filing {term canonical : String} {weight : Float}
    (h : ⟨locale', k, some s⟩ ∈ filing locale term canonical weight) :
    k ≠ "" ∧ key k = k ∧ Text.trim s.canonical = s.canonical := by
  unfold filing at h
  split at h
  · cases h
  · rename_i hblank
    cases List.mem_singleton.1 h
    exact ⟨key_eq_empty_iff.not.2 hblank, key_key term, Text.trim_trim canonical⟩

theorem Live.filed (h : Live (log edits) locale k s) :
    k ≠ "" ∧ key k = k ∧ Text.trim s.canonical = s.canonical := by
  obtain ⟨earlier, later, hlog, -⟩ := h
  have hmem : ⟨locale, k, some s⟩ ∈ log edits := by
    rw [hlog]
    simp
  obtain ⟨e, -, he⟩ := List.mem_flatMap.1 hmem
  cases e with
  | register locale' term canonical => exact exists_of_mem_filing he
  | registerWeighted locale' term canonical weight => exact exists_of_mem_filing he
  | registerAll locale' terms =>
    obtain ⟨t, -, he⟩ := List.mem_flatMap.1 he
    exact exists_of_mem_filing he
  | remove locale' term => cases List.mem_singleton.1 he

/-- No word is filed under the empty key, so that look-ups need not ask for it. -/
theorem sense?_after (edits : List Edit) (locale term : String) :
    (after edits).sense? locale term =
      (((after edits).pack locale).get? (key term)).or
        (if Locale.baseLanguage locale = locale then none
          else ((after edits).pack (Locale.baseLanguage locale)).get? (key term)) := by
  have hempty (locale : String) : ((after edits).pack locale).get? "" = none :=
    get?_pack_after_eq_none_iff.2 fun ⟨_, h⟩ => h.filed.1 rfl
  rw [sense?]
  by_cases hkey : key term = ""
  · simp [hkey, hempty]
  · rw [if_neg (by simpa using hkey)]
    cases ((after edits).pack locale).get? (key term) <;> rfl

theorem mem_locales_iff {lex : Lexicon} :
    locale ∈ lex.locales ↔ ∃ k s, (lex.pack locale).get? k = some s := by
  rw [locales, List.mem_map]
  constructor
  · rintro ⟨⟨locale, p⟩, hp, rfl⟩
    obtain ⟨hmem, hne⟩ := List.mem_filter.1 hp
    have hpack : lex.pack locale = p := by
      rw [pack, OrderedMap.get?_eq_some_iff.2 hmem]
      rfl
    obtain ⟨⟨k, s⟩, hks⟩ := List.exists_mem_of_ne_nil p.entries (by simpa [OrderedMap.isEmpty] using hne)
    refine ⟨k, s, ?_⟩
    rw [hpack]
    exact OrderedMap.get?_eq_some_iff.2 hks
  · rintro ⟨k, s, hks⟩
    rw [pack] at hks
    cases hp : lex.packs.get? locale with
    | none =>
      rw [hp] at hks
      cases hks
    | some p =>
      rw [hp] at hks
      have hne : p.entries ≠ [] := List.ne_nil_of_mem (OrderedMap.get?_eq_some_iff.1 hks)
      exact ⟨(locale, p), List.mem_filter.2
        ⟨OrderedMap.get?_eq_some_iff.1 hp, by simpa [OrderedMap.isEmpty] using hne⟩, rfl⟩

theorem mem_terms_iff {lex : Lexicon} {canonical : String} :
    (k, canonical) ∈ lex.terms locale ↔
      ∃ s, (lex.pack locale).get? k = some s ∧ s.canonical = canonical := by
  simp [terms, OrderedMap.get?_eq_some_iff]

/-- What a lexicon answers after any changes of an empty one is what the log of the changes tells, and
each change, also one without effect, makes one revision. -/
theorem tells_after (edits : List Edit) :
    (after edits).Tells (log edits) ∧ (after edits).revision = edits.length := by
  refine ⟨⟨?_, ?_, ?_, ?_, ?_, ?_⟩, revision_after edits⟩
  · intro locale term canonical
    rw [canonical?, sense?_after, Option.map_eq_some_iff]
    cases hget : ((after edits).pack locale).get? (key term) with
    | none => simp [Means, ← get?_pack_after_eq_some_iff, hget, and_assoc]
    | some s => simp [Means, ← get?_pack_after_eq_some_iff, hget]
  · intro locale term
    rw [holds, OrderedMap.contains, Option.isSome_iff_exists]
    simp only [get?_pack_after_eq_some_iff]
  · intro locale k canonical
    rw [mem_terms_iff]
    simp only [get?_pack_after_eq_some_iff, Means]
  · intro locale
    exact List.pairwise_map.2 ((after edits).pack locale).sorted
  · intro locale
    rw [mem_locales_iff]
    simp only [get?_pack_after_eq_some_iff]
  · exact List.pairwise_map.2 ((after edits).packs.sorted.filter _)

end Parlance.Lexicon
