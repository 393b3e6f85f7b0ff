import Parlance.Proofs.Ranking.Order
import Parlance.Resolver.Resolve

/-!
The walk down a ranking. Main statement: `walk_rank`, that stopping at the first candidate below the
threshold misses none, so that the walk finds the first candidate of the whole ranking that reaches
the threshold and is accepted.
-/

namespace Parlance

theorem Invocation.provenance_of (spec : Spec) (payload : Payload) (p : Provenance) :
    (Invocation.of spec payload p).provenance = p := by
  unfold Invocation.of
  dsimp only
  split <;> rfl

namespace Resolver

open Ranking

def Qualifies (m : Matching) (c : Candidate) : Prop :=
  m.threshold ≤ c.score

instance (m : Matching) : DecidablePred (Qualifies m) := fun c =>
  inferInstanceAs (Decidable (m.threshold ≤ c.score))

def Accepted (u : Text.Normalized) (context : Slot.Context) (c : Candidate) : Prop :=
  c.intent.spec.accepts (payloadOf u context c) = true

instance (u : Text.Normalized) (context : Slot.Context) : DecidablePred (Accepted u context) :=
  fun c => inferInstanceAs (Decidable (c.intent.spec.accepts (payloadOf u context c) = true))

def qualifyingIds (m : Matching) (cs : List Candidate) : List String :=
  (cs.filter fun c => Qualifies m c).map fun c => c.intent.id

/-- A candidate that reaches the threshold and is accepted, with none such before it. -/
structure FirstAccepted (m : Matching) (u : Text.Normalized) (context : Slot.Context)
    (ranked passed : List Candidate) (c : Candidate) : Prop where
  mem : ∃ rest, ranked = passed ++ c :: rest
  qualifies : Qualifies m c
  accepted : Accepted u context c
  passed : ∀ a ∈ passed, Qualifies m a → ¬Accepted u context a

/-- What a walk over a whole ranking in the order of its candidates comes to. -/
structure IsWalk (m : Matching) (u : Text.Normalized) (context : Slot.Context)
    (ranked : List Candidate) (res : Resolution) (t : Trace) : Prop where
  resolved : (∃ c ∈ ranked, Qualifies m c ∧ Accepted u context c) →
    ∃ passed c, FirstAccepted m u context ranked passed c ∧
      res = .resolved (.of c.intent.spec (payloadOf u context c) (provenance context.locale c)) ∧
      t.discarded = qualifyingIds m passed
  validationFailed : (∀ c ∈ ranked, Qualifies m c → ¬Accepted u context c) →
    (∃ c ∈ ranked, Qualifies m c) →
    res = .rejected .validationFailed u.text context.locale ∧ t.discarded = qualifyingIds m ranked
  noQualifyingMatch : (∀ c ∈ ranked, ¬Qualifies m c) →
    res = .rejected .noQualifyingMatch u.text context.locale ∧ t.discarded = []
  shown : t.ranked = (ranked.take m.topK).map fun c => ⟨c.intent.id, c.score, c.kind⟩

variable {m : Matching} {u : Text.Normalized} {context : Slot.Context}

theorem exists_firstAccepted {ranked : List Candidate}
    (h : ∃ c ∈ ranked, Qualifies m c ∧ Accepted u context c) :
    ∃ passed c, FirstAccepted m u context ranked passed c := by
  have hsome : (ranked.find? fun c => Qualifies m c ∧ Accepted u context c).isSome :=
    List.find?_isSome.2 (by simpa using h)
  obtain ⟨c, hc⟩ := Option.isSome_iff_exists.1 hsome
  obtain ⟨hgood, passed, rest, hranked, hpassed⟩ := List.find?_eq_some_iff_append.1 hc
  obtain ⟨hq, ha⟩ : Qualifies m c ∧ Accepted u context c := by simpa using hgood
  exact ⟨passed, c, ⟨rest, hranked⟩, hq, ha, fun a hmem hq' ha' => by
    simpa [hq', ha'] using hpassed a hmem⟩

theorem qualifying_rank (is : List Intent) :
    qualifying m (rank m u is) = (rank m u is).filter fun c => Qualifies m c :=
  takeWhile_eq_filter (by simpa using pairwise_rank m u is m.threshold)

theorem accepted?_of_accepted {c : Candidate} (h : Accepted u context c) :
    accepted? u context c = some (payloadOf u context c) :=
  if_pos h

theorem accepted?_eq_none {c : Candidate} (h : ¬Accepted u context c) :
    accepted? u context c = none :=
  if_neg h

/-- A walk depends on the ranking through what the trace shows, the candidates that were not accepted
and the one that was. -/
theorem walk_congr {ranked ranked' : List Candidate} (trace : Trace)
    (hshown : (ranked.take m.topK).map (fun c => RankedTrace.mk c.intent.id c.score c.kind) =
      (ranked'.take m.topK).map fun c => RankedTrace.mk c.intent.id c.score c.kind)
    (hempty : (qualifying m ranked).isEmpty = (qualifying m ranked').isEmpty)
    (hdiscarded : ((qualifying m ranked).takeWhile fun c => (accepted? u context c).isNone).map
        (fun c => c.intent.id) =
      ((qualifying m ranked').takeWhile fun c => (accepted? u context c).isNone).map
        fun c => c.intent.id)
    (hfind : (qualifying m ranked).findSome? (fun c => (accepted? u context c).map (c, ·)) =
      (qualifying m ranked').findSome? fun c => (accepted? u context c).map (c, ·)) :
    walk m u context ranked trace = walk m u context ranked' trace := by
  unfold walk
  dsimp only
  rw [hshown, hempty, hdiscarded, hfind]

/-- Where no candidate is accepted, the walk tries all that reach the threshold. -/
theorem walk_rank_of_forall_not_accepted (is : List Intent) (trace : Trace)
    (h : ∀ c ∈ rank m u is, Qualifies m c → ¬Accepted u context c) :
    (walk m u context (rank m u is) trace).1 =
        .rejected (if ((rank m u is).filter fun c => Qualifies m c).isEmpty then .noQualifyingMatch
          else .validationFailed) u.text context.locale ∧
      (walk m u context (rank m u is) trace).2.discarded = qualifyingIds m (rank m u is) := by
  have hnone : ∀ a ∈ (rank m u is).filter fun c => Qualifies m c, accepted? u context a = none :=
    fun a ha => accepted?_eq_none
      (h a (List.mem_filter.1 ha).1 (by simpa using (List.mem_filter.1 ha).2))
  have hfind : ((rank m u is).filter fun c => Qualifies m c).findSome?
      (fun c => (accepted? u context c).map (c, ·)) = none :=
    List.findSome?_eq_none_iff.2 fun a ha => by rw [hnone a ha]; rfl
  have htake : ((rank m u is).filter fun c => Qualifies m c).takeWhile
      (fun c => (accepted? u context c).isNone) = (rank m u is).filter fun c => Qualifies m c := by
    rw [takeWhile_eq_filter, List.filter_eq_self]
    · exact fun a ha => by rw [hnone a ha]; rfl
    · exact List.pairwise_of_forall_mem_list fun a ha b _ _ => by rw [hnone a ha]; rfl
  unfold walk
  rw [qualifying_rank]
  dsimp only
  rw [hfind, htake]
  exact ⟨rfl, rfl⟩

/-- Where a candidate is accepted, the walk tries those that reach the threshold up to it. -/
theorem walk_rank_of_firstAccepted {is : List Intent} {passed : List Candidate} {c : Candidate}
    (h : FirstAccepted m u context (rank m u is) passed c) (trace : Trace) :
    (walk m u context (rank m u is) trace).1 =
        .resolved (.of c.intent.spec (payloadOf u context c) (provenance context.locale c)) ∧
      (walk m u context (rank m u is) trace).2.discarded = qualifyingIds m passed := by
  obtain ⟨rest, hrank⟩ := h.mem
  have hpassed : ∀ a ∈ passed.filter fun c => Qualifies m c, accepted? u context a = none :=
    fun a ha => accepted?_eq_none
      (h.passed a (List.mem_filter.1 ha).1 (by simpa using (List.mem_filter.1 ha).2))
  have hc := accepted?_of_accepted h.accepted
  have hfind : (passed.filter fun c => Qualifies m c).findSome?
      (fun c => (accepted? u context c).map (c, ·)) = none :=
    List.findSome?_eq_none_iff.2 fun a ha => by rw [hpassed a ha]; rfl
  unfold walk
  rw [qualifying_rank, hrank]
  dsimp only
  rw [List.filter_append, List.filter_cons_of_pos (by simpa using h.qualifies),
    List.findSome?_append, hfind, List.findSome?_cons, hc,
    List.takeWhile_append_of_pos fun a ha => by rw [hpassed a ha]; rfl,
    List.takeWhile_cons_of_neg (by simp [hc]), List.append_nil]
  exact ⟨rfl, rfl⟩

/-- What the walk returns is the first candidate of the whole ranking that reaches the threshold and
is accepted. -/
theorem findSome?_qualifying (is : List Intent) :
    (qualifying m (rank m u is)).findSome? (fun c => (accepted? u context c).map (c, ·)) =
      ((rank m u is).find? fun c => Qualifies m c ∧ Accepted u context c).map
        fun c => (c, payloadOf u context c) := by
  rw [qualifying_rank]
  induction rank m u is with
  | nil => rfl
  | cons c ranked ih =>
    by_cases hq : Qualifies m c
    · rw [List.filter_cons_of_pos (by simpa using hq), List.findSome?_cons]
      by_cases ha : Accepted u context c
      · rw [accepted?_of_accepted ha, List.find?_cons_of_pos (by simpa using ⟨hq, ha⟩)]
        rfl
      · rw [accepted?_eq_none ha, List.find?_cons_of_neg (by simp [ha])]
        exact ih
    · rw [List.filter_cons_of_neg (by simpa using hq), List.find?_cons_of_neg (by simp [hq])]
      exact ih

/-- An action comes from a candidate of the ranking that reaches the threshold and is accepted. -/
theorem exists_candidate_of_walk {ranked : List Candidate} {trace : Trace} {inv : Invocation}
    (h : (walk m u context ranked trace).1 = .resolved inv) :
    ∃ c ∈ ranked, Qualifies m c ∧ Accepted u context c ∧
      inv = .of c.intent.spec (payloadOf u context c) (provenance context.locale c) ∧
      (walk m u context ranked trace).2.entities = some (payloadOf u context c) := by
  unfold walk at h ⊢
  dsimp only at h ⊢
  cases hfind : (qualifying m ranked).findSome? fun c => (accepted? u context c).map (c, ·) with
  | none =>
    rw [hfind] at h
    cases h
  | some found =>
    rw [hfind] at h
    obtain ⟨c, hc, hfound⟩ := List.exists_of_findSome?_eq_some hfind
    obtain ⟨payload, hpayload, rfl⟩ := Option.map_eq_some_iff.1 hfound
    have hq : m.threshold ≤ c.score := by simpa using List.mem_takeWhile_imp hc
    have haccepted : Accepted u context c := by
      by_contra hn
      rw [accepted?_eq_none hn] at hpayload
      cases hpayload
    rw [accepted?_of_accepted haccepted] at hpayload
    obtain rfl := Option.some.inj hpayload
    exact ⟨c, List.takeWhile_subset _ hc, hq, haccepted, (Resolution.resolved.inj h).symm, rfl⟩

theorem walk_ranked (ranked : List Candidate) (trace : Trace) :
    (walk m u context ranked trace).2.ranked =
      (ranked.take m.topK).map fun c => ⟨c.intent.id, c.score, c.kind⟩ := by
  unfold walk
  dsimp only
  split <;> rfl

/-- The walk down a ranking is one over the whole of it. -/
theorem walk_rank (is : List Intent) (trace : Trace) :
    IsWalk m u context (rank m u is) (walk m u context (rank m u is) trace).1
      (walk m u context (rank m u is) trace).2 where
  resolved h := by
    obtain ⟨passed, c, hc⟩ := exists_firstAccepted h
    exact ⟨passed, c, hc, walk_rank_of_firstAccepted hc trace⟩
  validationFailed h hq := by
    obtain ⟨hres, hdiscarded⟩ := walk_rank_of_forall_not_accepted is trace h
    refine ⟨hres.trans ?_, hdiscarded⟩
    rw [if_neg]
    simpa [List.isEmpty_iff] using hq
  noQualifyingMatch h := by
    have hnil : ((rank m u is).filter fun c => Qualifies m c) = [] :=
      List.filter_eq_nil_iff.2 fun c hc => by simpa using h c hc
    obtain ⟨hres, hdiscarded⟩ := walk_rank_of_forall_not_accepted is trace
      fun c hc hq => absurd hq (h c hc)
    rw [hnil] at hres
    exact ⟨hres, by rw [hdiscarded, qualifyingIds, hnil]; rfl⟩
  shown := walk_ranked _ trace

end Resolver

end Parlance
