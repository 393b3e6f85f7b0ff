import Mathlib.Data.List.Nodup
import Parlance.Proofs.Resolver.Cache
import Parlance.Proofs.Resolver.Walk

/-!
Phrases that are listed twice. The cache keeps one intent for all listings of a phrase, that of the
first. Main statement: `walk_recast`, that a walk never tells the listings apart, for of two that tie
the first is tried first.
-/

namespace Parlance

theorem forall₂_of_mapM {ε α β : Type} {f : α → Except ε β} {as : List α} {bs : List β}
    (h : as.mapM f = .ok bs) : List.Forall₂ (fun a b => f a = .ok b) as bs := by
  induction as generalizing bs with
  | nil => cases h; exact .nil
  | cons a as ih =>
    rw [List.mapM_cons] at h
    cases ha : f a with
    | error e => rw [ha] at h; cases h
    | ok b =>
      cases has : as.mapM f with
      | error e => rw [ha, has] at h; cases h
      | ok bs =>
        rw [ha, has] at h
        cases h
        exact .cons ha (ih has)

theorem exists_of_mem_mapM {ε α β : Type} {f : α → Except ε β} {as : List α} {bs : List β}
    (h : as.mapM f = .ok bs) {b : β} (hb : b ∈ bs) : ∃ a ∈ as, f a = .ok b := by
  have hall := forall₂_of_mapM h
  obtain ⟨n, hn, rfl⟩ := List.getElem_of_mem hb
  have hn' : n < as.length := hall.length_eq ▸ hn
  exact ⟨as[n], List.getElem_mem hn', hall.get hn' hn⟩

theorem mapM_map_of_forall {ε α β : Type} {f : α → Except ε β} {g : α → α} {k : β → β}
    {as : List α} (h : ∀ a ∈ as, f (g a) = (f a).map k) :
    (as.map g).mapM f = (as.mapM f).map (List.map k) := by
  induction as with
  | nil => rfl
  | cons a as ih =>
    rw [List.map_cons, List.mapM_cons, List.mapM_cons, h a List.mem_cons_self,
      ih fun b hb => h b (List.mem_cons_of_mem _ hb)]
    cases f a with
    | error e => rfl
    | ok b => cases as.mapM f <;> rfl

namespace Resolver

open Ranking

def keyOf (i : Intent) : IntentKey :=
  ⟨i.spec.name, i.phrase, i.locale⟩

/-- An intent with the kind of the first listing of its phrase. -/
def recast (specs : List Spec) (i : Intent) : Intent :=
  match firstWanted specs (keyOf i) with
  | some w => { i with kind := w.kind }
  | none => i

variable {specs : List Spec} {lex : Lexicon} {locale : String}

theorem recast_eq (specs : List Spec) (i : Intent) :
    recast specs i = { i with kind := (recast specs i).kind } := by
  unfold recast
  split <;> rfl

theorem compile_fields {w : Wanted} {i : Intent} (h : w.compile locale lex = .ok i) :
    i.spec = w.spec ∧ i.phrase = w.phrase ∧ i.kind = w.kind ∧ i.locale = locale := by
  obtain ⟨us, d, -, -, -, rfl⟩ := Intent.exists_draft_of_compile h
  exact ⟨rfl, rfl, rfl, rfl⟩

theorem keyOf_of_compile {w : Wanted} {i : Intent} (h : w.compile locale lex = .ok i) :
    keyOf i = w.key locale := by
  obtain ⟨hs, hp, -, hl⟩ := compile_fields h
  rw [keyOf, hs, hp, hl]
  rfl

theorem spec_mem_of_mem_wanted {w : Wanted} (h : w ∈ wanted specs locale) : w.spec ∈ specs := by
  obtain ⟨spec, hspec, hw⟩ := List.mem_flatMap.1 h
  split at hw
  · obtain ⟨p, -, rfl⟩ := List.mem_map.1 hw
    exact hspec
  · cases hw

/-- Where names are distinct, the first listing of a phrase differs from another in its kind only. -/
theorem exists_firstWanted (hnames : (specs.map Spec.name).Nodup) {w : Wanted}
    (h : w ∈ wanted specs locale) :
    ∃ kind, firstWanted specs (w.key locale) = some { w with kind } := by
  have hsome : ((wanted specs locale).find? (·.key locale = w.key locale)).isSome :=
    List.find?_isSome.2 ⟨w, h, by simp⟩
  obtain ⟨v, hv⟩ := Option.isSome_iff_exists.1 hsome
  have hkey : v.key locale = w.key locale := by simpa using List.find?_some hv
  have hspec : v.spec = w.spec :=
    List.inj_on_of_nodup_map hnames (spec_mem_of_mem_wanted (List.mem_of_find?_eq_some hv))
      (spec_mem_of_mem_wanted h) (congrArg IntentKey.spec hkey)
  have hphrase : v.phrase = w.phrase := congrArg IntentKey.phrase hkey
  refine ⟨v.kind, hv.trans ?_⟩
  rw [← hspec, ← hphrase]

theorem compile_settle (hnames : (specs.map Spec.name).Nodup) {w : Wanted}
    (h : w ∈ wanted specs locale) (lex : Lexicon) :
    (settle specs locale w).compile locale lex = (w.compile locale lex).map (recast specs) := by
  obtain ⟨kind, hfirst⟩ := exists_firstWanted hnames h
  rw [settle_of_firstWanted hfirst]
  refine (Intent.compile_kind w.spec w.phrase w.kind kind locale lex).trans ?_
  cases hi : w.compile locale lex with
  | error e => rw [show Intent.compile w.spec w.phrase w.kind locale lex = .error e from hi]; rfl
  | ok i =>
    rw [show Intent.compile w.spec w.phrase w.kind locale lex = .ok i from hi]
    have he : recast specs i = { i with kind } := by
      rw [recast, keyOf_of_compile hi, hfirst]
    exact congrArg Except.ok he.symm

theorem find?_keyOf {ws : List Wanted} {is : List Intent}
    (h : List.Forall₂ (fun w i => w.compile locale lex = .ok i) ws is) {k : IntentKey} {w : Wanted}
    (hw : ws.find? (·.key locale = k) = some w) :
    ∃ j, is.find? (keyOf · = k) = some j ∧ w.compile locale lex = .ok j := by
  induction h with
  | nil => cases hw
  | @cons v i ws is hi _ ih =>
    by_cases hk : v.key locale = k
    · rw [List.find?_cons_of_pos (by simpa using hk)] at hw
      cases hw
      exact ⟨i, List.find?_cons_of_pos (by simpa [keyOf_of_compile hi] using hk), hi⟩
    · rw [List.find?_cons_of_neg (by simpa using hk)] at hw
      rw [List.find?_cons_of_neg (by simpa [keyOf_of_compile hi] using hk)]
      exact ih hw

/-- Of the intents of all phrases, the recast of one is the first under its key. -/
theorem find?_keyOf_eq_recast (hnames : (specs.map Spec.name).Nodup) {is : List Intent}
    (h : (wanted specs locale).mapM (·.compile locale lex) = .ok is) {i : Intent} (hi : i ∈ is) :
    is.find? (keyOf · = keyOf i) = some (recast specs i) := by
  have hall := forall₂_of_mapM h
  obtain ⟨n, hn, rfl⟩ := List.getElem_of_mem hi
  have hn' : n < (wanted specs locale).length := hall.length_eq ▸ hn
  have hc : (wanted specs locale)[n].compile locale lex = .ok is[n] := hall.get hn' hn
  obtain ⟨kind, hfirst⟩ := exists_firstWanted hnames (List.getElem_mem hn')
  have hkey := keyOf_of_compile hc
  obtain ⟨j, hj, hcj⟩ := find?_keyOf hall hfirst
  have he := compile_settle hnames (List.getElem_mem hn') lex
  rw [settle_of_firstWanted hfirst, hcj, hc] at he
  cases he
  rw [hkey]
  exact hj

theorem matchText_recast (specs : List Spec) (i : Intent) (u : Text.Normalized) :
    (recast specs i).matchText u = i.matchText u := by
  rw [recast_eq]
  rfl

theorem normalizedPhrase_recast (i : Intent) :
    (recast specs i).normalizedPhrase = i.normalizedPhrase := by
  rw [recast_eq]
  rfl

/-- What is tried first and what is first of its kind are one, where each would do for the other. -/
theorem eq_of_find? {α : Type} {p q : α → Bool} {l : List α} {a b : α} (ha : l.find? p = some a)
    (hb : l.find? q = some b) (hqa : q a) (hpb : p b) : a = b := by
  induction l with
  | nil => cases ha
  | cons c l ih =>
    rw [List.find?_cons] at ha hb
    split at ha <;> split at hb <;> simp_all

variable {m : Matching} {u : Text.Normalized} {context : Slot.Context}

/-- The candidate that the walk returns is of the first listing of its phrase. -/
theorem recast_of_find? (hnames : (specs.map Spec.name).Nodup) {is : List Intent}
    (h : (wanted specs locale).mapM (·.compile locale lex) = .ok is) {c : Candidate}
    (hc : (rank m u is).find? (fun c => Qualifies m c ∧ Accepted u context c) = some c) :
    recast specs c.intent = c.intent := by
  obtain ⟨i, hi, hcand⟩ := mem_rank.1 (List.mem_of_find?_eq_some hc)
  obtain rfl := candidate?_intent hcand
  let twin (a : Candidate) : Bool :=
    keyOf a.intent = keyOf c.intent ∧ orderKey a.score = orderKey c.score ∧ a.kind = c.kind
  have hties : ∀ a b, twin a → twin b → before a b := by
    intro a b ha hb
    simp only [twin, decide_eq_true_eq] at ha hb
    rw [before_iff, ha.2.1, hb.2.1, ha.2.2, hb.2.2]
    exact .inr ⟨rfl, le_rfl⟩
  have hkey := find?_keyOf_eq_recast hnames h hi
  have hrecast := candidate?_map m u (matchText_recast specs c.intent u)
    (normalizedPhrase_recast c.intent)
  rw [hcand] at hrecast
  -- among the candidates as they come from the intents, the recast is the first of its kind
  have hfirst : (is.filterMap (candidate? m u)).find? twin = some (c.mapIntent (recast specs)) := by
    obtain ⟨hk, l, l', rfl, hl⟩ := List.find?_eq_some_iff_append.1 hkey
    have hnone : (l.filterMap (candidate? m u)).find? twin = none := by
      rw [List.find?_eq_none]
      intro a ha hta
      obtain ⟨j, hj, hja⟩ := List.mem_filterMap.1 ha
      have hne := hl j hj
      simp only [twin, candidate?_intent hja, decide_eq_true_eq] at hta
      simp [hta.1] at hne
    rw [List.filterMap_append, List.find?_append, hnone, List.filterMap_cons, hrecast]
    exact List.find?_cons_of_pos (by simpa [twin, Candidate.mapIntent] using hk)
  have htwin : (rank m u is).find? twin = some (c.mapIntent (recast specs)) := by
    rw [← List.head?_filter, filter_rank m u is hties, List.head?_filter, hfirst]
  have hgood := List.find?_some hc
  have he := eq_of_find? hc htwin (by simp [twin]) (by
    rw [Candidate.mapIntent, recast_eq]
    exact hgood)
  exact congrArg Candidate.intent he.symm

/-- The walk does not tell the listings of a phrase apart. -/
theorem walk_recast (hnames : (specs.map Spec.name).Nodup) {is : List Intent}
    (h : (wanted specs locale).mapM (·.compile locale lex) = .ok is) (trace : Trace) :
    walk m u context (rank m u (is.map (recast specs))) trace =
      walk m u context (rank m u is) trace := by
  have hrank : rank m u (is.map (recast specs)) =
      (rank m u is).map (Candidate.mapIntent (recast specs)) :=
    rank_map m u (fun i _ => matchText_recast specs i u) fun i _ => normalizedPhrase_recast i
  have hid : ∀ c : Candidate, (c.mapIntent (recast specs)).intent.id = c.intent.id := fun c =>
    (congrArg Intent.id (recast_eq specs c.intent) :)
  have haccepted : ∀ c : Candidate, accepted? u context (c.mapIntent (recast specs)) =
      accepted? u context c := fun c => by
    rw [Candidate.mapIntent, recast_eq]
    rfl
  have hqualifying : qualifying m ((rank m u is).map (Candidate.mapIntent (recast specs))) =
      (qualifying m (rank m u is)).map (Candidate.mapIntent (recast specs)) :=
    List.takeWhile_map
  have hfind : (rank m u (is.map (recast specs))).find?
      (fun c => Qualifies m c ∧ Accepted u context c) =
      (rank m u is).find? fun c => Qualifies m c ∧ Accepted u context c := by
    have hcomp : (fun c => decide (Qualifies m c ∧ Accepted u context c)) ∘
        Candidate.mapIntent (recast specs) = fun c => Qualifies m c ∧ Accepted u context c := by
      funext c
      rw [Function.comp, Candidate.mapIntent, recast_eq]
      rfl
    rw [hrank, List.find?_map, hcomp]
    cases hc : (rank m u is).find? fun c => Qualifies m c ∧ Accepted u context c with
    | none => rfl
    | some c =>
      have he := recast_of_find? hnames h hc
      rw [Option.map_some, Candidate.mapIntent, he]
  refine walk_congr trace ?_ ?_ ?_ ?_
  · rw [hrank, ← List.map_take, List.map_map]
    exact List.map_congr_left fun c _ => by
      rw [Function.comp, hid]
      rfl
  · rw [hrank, hqualifying, List.isEmpty_map]
  · have hcomp : (fun c => (accepted? u context c).isNone) ∘ Candidate.mapIntent (recast specs) =
        fun c => (accepted? u context c).isNone := funext fun c => by
      rw [Function.comp, haccepted]
    rw [hrank, hqualifying, List.takeWhile_map, List.map_map, hcomp]
    exact List.map_congr_left fun c _ => hid c
  · rw [findSome?_qualifying, findSome?_qualifying, hfind]

end Resolver

end Parlance
