import Parlance.Proofs.Lexicon.Log

/-!
The words of a tag listed and filed again. Main statement: `registerAll_terms_after`, that a list of all
words of a tag carries their terms over into an empty lexicon and changes no term where it came from.
The weights are not in the list: what is filed again has weight one (`pack_registerAll_terms`).
-/

namespace Parlance.Lexicon

variable {lex : Lexicon} {locale locale' : String} {edits : List Edit}

/-- What a word stands for under exactly this tag. -/
def ownCanonical? (lex : Lexicon) (locale term : String) : Option String :=
  ((lex.pack locale).get? (key term)).map Sense.canonical

theorem ownCanonical?_registerAll_of_ne (lex : Lexicon) (h : locale' ≠ locale)
    (ts : List (String × String)) (term : String) :
    (lex.registerAll locale ts).ownCanonical? locale' term = lex.ownCanonical? locale' term := by
  rw [ownCanonical?, ownCanonical?, registerAll, pack_setPack, if_neg h]

/-- The sense as a list of terms tells it. -/
def unweighted (s : Sense) : Sense :=
  ⟨s.canonical, 1.0⟩

/-- All words of a tag stand under their keys with trimmed terms, so that they can be filed again. -/
def Listable (p : OrderedMap Sense) : Prop :=
  ∀ e ∈ p.entries, e.1 ≠ "" ∧ key e.1 = e.1 ∧ Text.trim e.2.canonical = e.2.canonical

theorem listable_pack_after (edits : List Edit) (locale : String) :
    Listable ((after edits).pack locale) := by
  intro e he
  exact (get?_pack_after_eq_some_iff.1 (OrderedMap.get?_eq_some_iff.2 he)).filed

/-- Filing listed words again is putting them into the pack as they are. -/
theorem foldl_addTo_listed {l : List (String × Sense)}
    (h : ∀ e ∈ l, e.1 ≠ "" ∧ key e.1 = e.1 ∧ Text.trim e.2.canonical = e.2.canonical)
    (p : OrderedMap Sense) :
    (l.map fun e => (e.1, e.2.canonical)).foldl (fun p t => addTo p t.1 t.2 1.0) p =
      (l.map fun e => (e.1, unweighted e.2)).foldl (fun p e => p.insert e.1 e.2) p := by
  induction l generalizing p with
  | nil => rfl
  | cons e l ih =>
    obtain ⟨⟨hne, hkey, htrim⟩, hl⟩ := List.forall_mem_cons.1 h
    have hadd : addTo p e.1 e.2.canonical 1.0 = p.insert e.1 (unweighted e.2) := by
      rw [addTo, hkey, if_neg (by simpa using hne), htrim, unweighted]
    rw [List.map_cons, List.map_cons, List.foldl_cons, List.foldl_cons, hadd, ih hl]

/-- Filing the words of a tag where nothing else is filed under it makes the same pack, but for the
weights. -/
theorem pack_registerAll_terms {lex' : Lexicon} (hlist : Listable (lex.pack locale))
    (h : ∀ k, (lex.pack locale).get? k = none → (lex'.pack locale).get? k = none) :
    (lex'.registerAll locale (lex.terms locale)).pack locale = (lex.pack locale).map unweighted := by
  apply OrderedMap.ext_get?
  intro k
  rw [registerAll, pack_setPack, if_pos rfl, terms, foldl_addTo_listed hlist, OrderedMap.get?_map]
  have hkeys : ((lex.pack locale).entries.map fun e => (e.1, unweighted e.2)).map Prod.fst =
      (lex.pack locale).keys := by
    rw [List.map_map]
    rfl
  cases hget : (lex.pack locale).get? k with
  | none =>
    have hnew : k ∉ (lex.pack locale).keys := by
      rw [OrderedMap.mem_keys_iff, hget]
      simp
    rw [OrderedMap.get?_foldl_insert (hkeys ▸ hnew), h k hget, Option.map_none]
  | some s =>
    have hnodup : (lex.pack locale).keys.Nodup := (lex.pack locale).nodup_keys
    have hmem : (k, unweighted s) ∈ (lex.pack locale).entries.map fun e => (e.1, unweighted e.2) :=
      List.mem_map.2 ⟨(k, s), OrderedMap.get?_eq_some_iff.1 hget, rfl⟩
    rw [OrderedMap.get?_foldl_insert_of_mem (hkeys ▸ hnodup) hmem, Option.map_some]

theorem terms_of_pack {lex' : Lexicon} (h : lex'.pack locale = (lex.pack locale).map unweighted) :
    lex'.terms locale = lex.terms locale := by
  rw [terms, terms, h, OrderedMap.map, List.map_map]
  rfl

theorem ownCanonical?_of_pack {lex' : Lexicon}
    (h : lex'.pack locale = (lex.pack locale).map unweighted) (term : String) :
    lex'.ownCanonical? locale term = lex.ownCanonical? locale term := by
  rw [ownCanonical?, ownCanonical?, h, OrderedMap.get?_map, Option.map_map]
  rfl

theorem canonical?_after (edits : List Edit) (locale term : String) :
    (after edits).canonical? locale term = ((after edits).ownCanonical? locale term).or
      (if Locale.baseLanguage locale = locale then none
        else (after edits).ownCanonical? (Locale.baseLanguage locale) term) := by
  rw [canonical?, sense?_after, Option.map_or]
  split <;> rfl

theorem registerAll_terms_after (edits : List Edit) (locale : String) :
    let lex := after edits
    let copy := empty.registerAll locale (lex.terms locale)
    let again := lex.registerAll locale (lex.terms locale)
    copy.terms locale = lex.terms locale ∧
      (∀ term, copy.canonical? locale term = lex.ownCanonical? locale term) ∧
      (∀ locale' term, again.canonical? locale' term = lex.canonical? locale' term) ∧
      again.revision = lex.revision + 1 := by
  intro lex copy again
  have hlist : Listable (lex.pack locale) := listable_pack_after edits locale
  have hcopy : copy.pack locale = (lex.pack locale).map unweighted :=
    pack_registerAll_terms hlist fun _ _ => rfl
  have hagain : again.pack locale = (lex.pack locale).map unweighted :=
    pack_registerAll_terms hlist fun _ h => h
  have hown : ∀ locale' term, again.ownCanonical? locale' term = lex.ownCanonical? locale' term := by
    intro locale' term
    by_cases hsame : locale' = locale
    · rw [hsame, ownCanonical?_of_pack hagain]
    · exact ownCanonical?_registerAll_of_ne lex hsame _ term
  refine ⟨terms_of_pack hcopy, fun term => ?_, fun locale' term => ?_, rfl⟩
  · have hbase : Locale.baseLanguage locale ≠ locale →
        copy.ownCanonical? (Locale.baseLanguage locale) term = none := by
      intro hne
      exact ownCanonical?_registerAll_of_ne empty hne _ term
    have hfrom : copy = after [.registerAll locale (lex.terms locale)] := rfl
    rw [hfrom, canonical?_after, ← hfrom, ownCanonical?_of_pack hcopy]
    split
    · exact Option.or_none
    · rw [hbase ‹_›, Option.or_none]
  · have hfrom : again = after (edits ++ [.registerAll locale (lex.terms locale)]) :=
      (after_append edits (.registerAll locale (lex.terms locale))).symm
    rw [hfrom, canonical?_after, ← hfrom, hown, hown, ← canonical?_after]

end Parlance.Lexicon
