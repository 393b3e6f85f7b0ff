import Parlance.Proofs.Template.Compilation
import Parlance.Resolver.Basic

/-!
What the cache of intents holds. Main statement: `fetch_spec`, that a cache filled under a lexicon
gives the intents that the same lexicon would give anew, up to the kinds of phrases that are listed
more than once.
-/

namespace Parlance

namespace IntentCache

theorem get?_insert (c : IntentCache) (k k' : IntentKey) (i : Intent) :
    (c.insert k i).get? k' = if k' = k then some i else c.get? k' := by
  unfold get? insert
  by_cases h : k' = k
  · subst h
    simp
  · have hk : ¬k = k' := fun hk => h hk.symm
    simp only [List.find?_cons, hk, h, decide_false, List.find?_filter, ↓reduceIte]
    congr 2
    funext e
    by_cases he : e.1 = k'
    · simp [he, h]
    · simp [he]

theorem get?_of_entries_nil {c : IntentCache} (h : c.entries = []) (k : IntentKey) :
    c.get? k = none := by
  rw [get?, h]
  rfl

end IntentCache

namespace Resolver

def firstWanted (specs : List Spec) (k : IntentKey) : Option Wanted :=
  (wanted specs k.locale).find? (·.key k.locale = k)

/-- Every intent of a cache is what the lexicon makes of the first phrase under its key. -/
def Holds (specs : List Spec) (lex : Lexicon) (c : IntentCache) : Prop :=
  ∀ k i, c.get? k = some i → ∃ w, firstWanted specs k = some w ∧ w.compile k.locale lex = .ok i

/-- The phrase whose intent serves for a phrase: the first under its key. -/
def settle (specs : List Spec) (locale : String) (w : Wanted) : Wanted :=
  (firstWanted specs (w.key locale)).getD w

variable {specs : List Spec} {lex : Lexicon} {locale : String}

theorem Holds.of_entries_nil {c : IntentCache} (h : c.entries = []) : Holds specs lex c := by
  intro k i hk
  rw [IntentCache.get?_of_entries_nil h] at hk
  cases hk

theorem Holds.insert {c : IntentCache} (h : Holds specs lex c) {k : IntentKey} {w : Wanted}
    {i : Intent} (hw : firstWanted specs k = some w) (hi : w.compile k.locale lex = .ok i) :
    Holds specs lex (c.insert k i) := by
  intro k' j hj
  rw [IntentCache.get?_insert] at hj
  split at hj
  · rename_i he
    cases hj
    exact ⟨w, he ▸ hw, he ▸ hi⟩
  · exact h k' j hj

theorem settle_of_firstWanted {w w' : Wanted} (h : firstWanted specs (w.key locale) = some w') :
    settle specs locale w = w' := by
  rw [settle, h]
  rfl

theorem firstWanted_of_forall_ne {done ws : List Wanted} {w : Wanted}
    (hws : wanted specs locale = done ++ w :: ws) (h : ∀ v ∈ done, v.key locale ≠ w.key locale) :
    firstWanted specs (w.key locale) = some w := by
  change (wanted specs locale).find? (·.key locale = w.key locale) = some w
  rw [hws, List.find?_append, List.find?_eq_none.2 (by simpa using h)]
  simp

/-- Fetching phrases gives what compiling the first phrase under each key gives; `done` are the
phrases fetched before. -/
theorem fetch_spec (done ws : List Wanted) (hws : wanted specs locale = done ++ ws)
    {c : IntentCache} (hc : Holds specs lex c)
    (hdone : ∀ w ∈ done, (c.get? (w.key locale)).isSome) :
    (fetch locale lex c ws).1 = (ws.map (settle specs locale)).mapM (·.compile locale lex) ∧
      Holds specs lex (fetch locale lex c ws).2 ∧
      (fetch locale lex c ws).2.revision = c.revision := by
  induction ws generalizing done c with
  | nil => exact ⟨rfl, hc, rfl⟩
  | cons w ws ih =>
    have hws' : wanted specs locale = (done ++ [w]) ++ ws := by simpa using hws
    rw [List.map_cons, List.mapM_cons, fetch]
    cases hg : c.get? (w.key locale) with
    | some i =>
      obtain ⟨w', hw', hi⟩ := hc _ _ hg
      have hdone' : ∀ v ∈ done ++ [w], (c.get? (v.key locale)).isSome := by
        simpa [or_imp, forall_and, hg] using hdone
      obtain ⟨hf, hh, hr⟩ := ih _ hws' hc hdone'
      rw [settle_of_firstWanted hw', show w'.compile locale lex = .ok i from hi, ← hf]
      exact ⟨rfl, hh, hr⟩
    | none =>
      have hfirst : firstWanted specs (w.key locale) = some w := by
        refine firstWanted_of_forall_ne hws fun v hv he => ?_
        have hv' := hdone v hv
        rw [he, hg] at hv'
        cases hv'
      rw [settle_of_firstWanted hfirst]
      dsimp only
      cases hi : w.compile locale lex with
      | error e => exact ⟨rfl, hc, rfl⟩
      | ok i =>
        have hdone' : ∀ v ∈ done ++ [w],
            ((c.insert (w.key locale) i).get? (v.key locale)).isSome := by
          intro v hv
          rw [IntentCache.get?_insert]
          split
          · rfl
          · rename_i hne
            rcases List.mem_append.1 hv with hv | hv
            · exact hdone v hv
            · exact absurd (congrArg (Wanted.key · locale) (List.mem_singleton.1 hv)) hne
        obtain ⟨hf, hh, hr⟩ := ih _ hws' (hc.insert (k := w.key locale) hfirst hi) hdone'
        dsimp only
        rw [hf]
        exact ⟨rfl, hh, hr⟩

end Resolver

end Parlance
