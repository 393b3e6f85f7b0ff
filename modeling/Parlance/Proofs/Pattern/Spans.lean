import Parlance.Pattern.Node

/-!
Where patterns match. `Spans t a i j` says that a pattern matches the stretch of a text from place `i`
to place `j`, without any order of preference. Main statements: `mem_ends_iff`, that the ends of a
pattern are the ends of the stretches it matches, and `isSome_search_iff`, that the search for a cover
of the whole text finds one where there is one.
-/

namespace Parlance.Pattern

variable {t : Array Char}

/-- A pattern matches a stretch of a text. -/
inductive Spans (t : Array Char) : Node → Nat → Nat → Prop
  | empty : Spans t .empty i i
  | one : t[i]? = some c → p c → Spans t (.one p) i (i + 1)
  | look : p (Node.before t i) t[i]? → Spans t (.look p) i i
  | seq : Spans t a i j → Spans t b j k → Spans t (.seq a b) i k
  | left : Spans t a i j → Spans t (.alt a b) i j
  | right : Spans t b i j → Spans t (.alt a b) i j
  | skip : Spans t (.opt greedy a) i i
  | take : Spans t a i j → Spans t (.opt greedy a) i j
  | once : Spans t a i j → Spans t (.plus greedy a) i j
  | more : Spans t a i j → Spans t (.plus greedy a) j k → Spans t (.plus greedy a) i k

theorem Spans.le (h : Spans t a i j) : i ≤ j := by
  induction h with
  | empty | look | skip => exact Nat.le_refl _
  | one => exact Nat.le_succ _
  | seq _ _ iha ihb => exact Nat.le_trans iha ihb
  | left _ ih | right _ ih | take _ ih | once _ ih => exact ih
  | more _ _ iha ihb => exact Nat.le_trans iha ihb

theorem Spans.le_size (h : Spans t a i j) : i = j ∨ j ≤ t.size := by
  induction h with
  | empty | look | skip => exact .inl rfl
  | @one i c p hi => exact .inr (by have := (Array.getElem?_eq_some_iff.1 hi).1; omega)
  | seq _ _ iha ihb => omega
  | left _ ih | right _ ih | take _ ih | once _ ih => exact ih
  | more _ _ iha ihb => omega

namespace Node

theorem mem_addEnd {reached : List Nat} {i j : Nat} : j ∈ addEnd reached i ↔ j ∈ reached ∨ j = i := by
  unfold addEnd
  split
  · rename_i h
    refine ⟨.inl, fun hj => hj.elim id fun he => ?_⟩
    rw [he]
    simpa using h
  · simp

theorem mem_foldl_addEnd {reached next : List Nat} {j : Nat} :
    j ∈ next.foldl addEnd reached ↔ j ∈ reached ∨ j ∈ next := by
  induction next generalizing reached with
  | nil => simp
  | cons i next ih => rw [List.foldl_cons, ih, mem_addEnd, List.mem_cons, or_assoc]

variable {step : Nat → List Nat} {greedy : Bool} {rounds n : Nat}

/-- Whatever a step leads on to is there. -/
def ClosedAt (step : Nat → List Nat) (reached : List Nat) (x : Nat) : Prop :=
  ∀ y ∈ step x, x < y → y ∈ reached

/-- All that was reached is still there, and what is new is closed under steps. -/
structure Extends (step : Nat → List Nat) (reached result : List Nat) : Prop where
  subset : reached ⊆ result
  closed : ∀ x ∈ result, x ∈ reached ∨ ClosedAt step result x

theorem Extends.refl (reached : List Nat) : Extends step reached reached :=
  ⟨fun _ h => h, fun _ h => .inl h⟩

theorem Extends.trans (h : Extends step r r') (h' : Extends step r' r'') : Extends step r r'' := by
  refine ⟨fun x hx => h'.subset (h.subset hx), fun x hx => ?_⟩
  rcases h'.closed x hx with hx | hx
  · exact (h.closed x hx).imp_right fun hc y hy hlt => h'.subset (hc y hy hlt)
  · exact .inr hx

theorem Extends.foldl {f : List Nat → Nat → List Nat} {next : List Nat}
    (hf : ∀ r, ∀ j ∈ next, Extends step r (f r j) ∧ j ∈ f r j) (reached : List Nat) :
    Extends step reached (next.foldl f reached) ∧ next ⊆ next.foldl f reached := by
  induction next generalizing reached with
  | nil => exact ⟨.refl reached, List.nil_subset _⟩
  | cons i next ih =>
    obtain ⟨hi, hmem⟩ := hf reached i List.mem_cons_self
    obtain ⟨hn, hsub⟩ := ih (fun r j hj => hf r j (List.mem_cons_of_mem _ hj)) (f reached i)
    refine ⟨hi.trans hn, fun j hj => ?_⟩
    rcases List.mem_cons.1 hj with rfl | hj
    · exact hn.subset hmem
    · exact hsub hj

/-- Going on with steps that end at `n` at the latest reaches all there is to reach. -/
theorem again_extends (hstep : ∀ x, ∀ y ∈ step x, x < y → y ≤ n) {i : Nat} (hi : n ≤ i + rounds)
    (reached : List Nat) :
    Extends step reached (again step greedy rounds reached i) ∧
      i ∈ again step greedy rounds reached i := by
  induction rounds generalizing i reached with
  | zero =>
    refine ⟨⟨fun x hx => mem_addEnd.2 (.inl hx), fun x hx => ?_⟩, mem_addEnd.2 (.inr rfl)⟩
    rcases mem_addEnd.1 hx with hx | rfl
    · exact .inl hx
    · exact .inr fun y hy hlt => absurd (hstep x y hy hlt) (by omega)
  | succ rounds ih =>
    rw [again]
    split
    · rename_i hmem
      exact ⟨.refl reached, by simpa using hmem⟩
    · have hf : ∀ r, ∀ j ∈ (step i).filter (i < ·),
          Extends step r (again step greedy rounds r j) ∧ j ∈ again step greedy rounds r j := by
        intro r j hj
        have hlt : i < j := by simpa using (List.mem_filter.1 hj).2
        exact ih (by omega) r
      have hnext : ∀ {result : List Nat}, (step i).filter (i < ·) ⊆ result →
          ClosedAt step result i := fun hsub y hy hlt =>
        hsub (List.mem_filter.2 ⟨hy, by simpa using hlt⟩)
      dsimp only
      split
      · obtain ⟨he, hsub⟩ := Extends.foldl hf reached
        refine ⟨⟨fun x hx => List.mem_append_left _ (he.subset hx), fun x hx => ?_⟩, by simp⟩
        rcases List.mem_append.1 hx with hx | hx
        · exact (he.closed x hx).imp_right fun hc y hy hlt => List.mem_append_left _ (hc y hy hlt)
        · rw [List.mem_singleton.1 hx]
          exact .inr (hnext fun y hy => List.mem_append_left _ (hsub hy))
      · obtain ⟨he, hsub⟩ := Extends.foldl hf (reached ++ [i])
        refine ⟨⟨fun x hx => he.subset (List.mem_append_left _ hx), fun x hx => ?_⟩,
          he.subset (by simp)⟩
        rcases he.closed x hx with hx | hx
        · rcases List.mem_append.1 hx with hx | hx
          · exact .inl hx
          · rw [List.mem_singleton.1 hx]
            exact .inr (hnext hsub)
        · exact .inr hx

theorem again_sound {P : Nat → Prop} (hstep : ∀ x, P x → ∀ y ∈ step x, P y) {reached : List Nat}
    (hreached : ∀ x ∈ reached, P x) {i : Nat} (hi : P i) :
    ∀ x ∈ again step greedy rounds reached i, P x := by
  induction rounds generalizing reached i with
  | zero =>
    intro x hx
    rcases mem_addEnd.1 hx with hx | rfl
    · exact hreached x hx
    · exact hi
  | succ rounds ih =>
    have hfold : ∀ next : List Nat, (∀ j ∈ next, P j) → ∀ reached : List Nat,
        (∀ x ∈ reached, P x) → ∀ x ∈ next.foldl (again step greedy rounds) reached, P x := by
      intro next
      induction next with
      | nil => exact fun _ _ h => h
      | cons j next ihn =>
        intro hn reached h
        exact ihn (fun k hk => hn k (List.mem_cons_of_mem _ hk)) _
          (ih h (hn j List.mem_cons_self))
    have hnext : ∀ j ∈ (step i).filter (i < ·), P j := fun j hj =>
      hstep i hi j (List.mem_filter.1 hj).1
    have hwith : ∀ x ∈ reached ++ [i], P x := by
      intro x hx
      rcases List.mem_append.1 hx with hx | hx
      · exact hreached x hx
      · rwa [List.mem_singleton.1 hx]
    rw [again]
    split
    · exact hreached
    · dsimp only
      split
      · intro x hx
        rcases List.mem_append.1 hx with hx | hx
        · exact hfold _ hnext reached hreached x hx
        · rwa [List.mem_singleton.1 hx]
      · exact hfold _ hnext _ hwith

theorem Extends.mono {step' : Nat → List Nat} (hs : ∀ x, step' x ⊆ step x)
    (h : Extends step reached result) : Extends step' reached result :=
  ⟨h.subset, fun x hx => (h.closed x hx).imp_right fun hc y hy => hc y (hs x hy)⟩

end Node

open Node

theorem Spans.snoc (h : Spans t (.plus greedy a) i j) (ha : Spans t a j k) :
    Spans t (.plus greedy a) i k := by
  generalize hn : Node.plus greedy a = n at h
  induction h with
  | once h => cases hn; exact .more h (.once ha)
  | more h _ _ ih => cases hn; exact .more h (ih ha rfl)
  | _ => cases hn

def plusEnds (t : Array Char) (greedy : Bool) (a : Node) (i : Nat) : List Nat → List Nat → List Nat :=
  List.foldl fun reached j =>
    if j = i then addEnd reached i else again (a.ends t) greedy t.size reached j

theorem plusEnds_sound (ih : ∀ i j, j ∈ a.ends t i ↔ Spans t a i j) {next : List Nat}
    (hnext : next ⊆ a.ends t i) {reached : List Nat}
    (hreached : ∀ x ∈ reached, Spans t (.plus greedy a) i x) :
    ∀ x ∈ plusEnds t greedy a i reached next, Spans t (.plus greedy a) i x := by
  unfold plusEnds
  induction next generalizing reached with
  | nil => exact hreached
  | cons j next ihn =>
    have hj : Spans t (.plus greedy a) i j := .once ((ih i j).1 (hnext List.mem_cons_self))
    refine ihn (fun k hk => hnext (List.mem_cons_of_mem _ hk)) ?_
    dsimp only
    split
    · rename_i he
      intro x hx
      rcases mem_addEnd.1 hx with hx | rfl
      · exact hreached x hx
      · exact he ▸ hj
    · exact again_sound (fun x hx y hy => hx.snoc ((ih x y).1 hy)) hreached hj

theorem plusEnds_complete (ih : ∀ i j, j ∈ a.ends t i ↔ Spans t a i j)
    (h : Spans t (.plus greedy a) i k) : k ∈ plusEnds t greedy a i [] (a.ends t i) := by
  -- the place `i` itself is exempt from closure, for its steps are those the fold goes over
  let step (x : Nat) : List Nat := if x = i then [] else a.ends t x
  have hsub : ∀ x, step x ⊆ a.ends t x := by
    intro x y hy
    simp only [step] at hy
    split at hy
    · cases hy
    · exact hy
  have hbound : ∀ x, ∀ y ∈ a.ends t x, x < y → y ≤ t.size := by
    intro x y hy hlt
    have := ((ih x y).1 hy).le_size
    omega
  have hf : ∀ r, ∀ j ∈ a.ends t i,
      Extends step r (if j = i then addEnd r i else again (a.ends t) greedy t.size r j) ∧
        j ∈ if j = i then addEnd r i else again (a.ends t) greedy t.size r j := by
    intro r j _
    split
    · rename_i he
      refine ⟨⟨fun x hx => mem_addEnd.2 (.inl hx), fun x hx => ?_⟩, mem_addEnd.2 (.inr he)⟩
      refine (mem_addEnd.1 hx).imp_right fun he y hy => ?_
      simp [step, he] at hy
    · have hagain : Extends (a.ends t) r (again (a.ends t) greedy t.size r j) ∧
          j ∈ again (a.ends t) greedy t.size r j :=
        again_extends hbound (Nat.le_add_left t.size j) r
      exact ⟨hagain.1.mono hsub, hagain.2⟩
  obtain ⟨he, hmem⟩ := Extends.foldl hf []
  have hclosed : ∀ x, x = i ∨ x ∈ plusEnds t greedy a i [] (a.ends t i) → ∀ y, Spans t a x y →
      y ∈ plusEnds t greedy a i [] (a.ends t i) := by
    intro x hx y hy
    by_cases hxi : x = i
    · exact hmem ((ih i y).2 (hxi ▸ hy))
    · have hx := hx.resolve_left hxi
      rcases Nat.eq_or_lt_of_le hy.le with rfl | hlt
      · exact hx
      · exact ((he.closed x hx).resolve_left List.not_mem_nil) y
          (by simpa [step, hxi] using (ih x y).2 hy) hlt
  have hall : ∀ x y, Spans t (.plus greedy a) x y →
      x = i ∨ x ∈ plusEnds t greedy a i [] (a.ends t i) →
      y ∈ plusEnds t greedy a i [] (a.ends t i) := by
    intro x y hspans hx
    generalize hn : Node.plus greedy a = n at hspans
    induction hspans with
    | once h => cases hn; exact hclosed _ hx _ h
    | more h _ _ ihm => cases hn; exact ihm (.inr (hclosed _ hx _ h)) rfl
    | _ => cases hn
  exact hall i k h (.inl rfl)

/-- The ends of a pattern are the ends of the stretches it matches. -/
theorem mem_ends_iff {a : Node} {i j : Nat} : j ∈ a.ends t i ↔ Spans t a i j := by
  induction a generalizing i j with
  | empty =>
    rw [ends, List.mem_singleton]
    exact ⟨fun h => h ▸ .empty, fun h => by cases h; rfl⟩
  | one p =>
    rw [ends]
    refine ⟨fun h => ?_, fun h => ?_⟩
    · split at h
      · rename_i c hc
        split at h
        · rw [List.mem_singleton.1 h]
          exact .one hc ‹_›
        · cases h
      · cases h
    · cases h with
      | one hc hp => simp [hc, hp]
  | look p =>
    rw [ends]
    refine ⟨fun h => ?_, fun h => ?_⟩
    · split at h
      · rw [List.mem_singleton.1 h]
        exact .look ‹_›
      · cases h
    · cases h with
      | look hp => simp [hp]
  | seq a b iha ihb =>
    rw [ends, mem_foldl_addEnd, List.mem_flatMap]
    refine ⟨fun h => ?_, fun h => ?_⟩
    · obtain ⟨k, hk, hj⟩ := h.resolve_left List.not_mem_nil
      exact .seq (iha.1 hk) (ihb.1 hj)
    · cases h with
      | seq ha hb => exact .inr ⟨_, iha.2 ha, ihb.2 hb⟩
  | alt a b iha ihb =>
    rw [ends, mem_foldl_addEnd, iha, ihb]
    exact ⟨fun h => h.elim .left .right, fun h => by
      cases h with
      | left h => exact .inl h
      | right h => exact .inr h⟩
  | opt greedy a ih =>
    have hiff : j ∈ Node.ends t (.opt greedy a) i ↔ j = i ∨ j ∈ a.ends t i := by
      rw [ends]
      split
      · rw [mem_addEnd, or_comm]
      · rw [mem_foldl_addEnd, List.mem_singleton]
    rw [hiff, ih]
    refine ⟨fun h => ?_, fun h => ?_⟩
    · rcases h with rfl | h
      · exact .skip
      · exact .take h
    · cases h with
      | skip => exact .inl rfl
      | take h => exact .inr h
  | plus greedy a ih =>
    exact ⟨fun h => plusEnds_sound (fun _ _ => ih) (List.Subset.refl _)
        (List.forall_mem_nil _) j h,
      fun h => plusEnds_complete (fun _ _ => ih) h⟩

theorem fits_iff {a : Node} {s : String} :
    a.fits s ↔ Spans s.toList.toArray a 0 s.toList.length := by
  rw [fits, List.contains_iff_mem, mem_ends_iff, List.size_toArray]

/-- A pattern that does not look at the neighbours of a place. -/
def Node.Plain : Node → Prop
  | .empty | .one _ => True
  | .look _ => False
  | .seq a b | .alt a b => a.Plain ∧ b.Plain
  | .opt _ a | .plus _ a => a.Plain

/-- What a plain pattern matches in a text it matches in any text around. -/
theorem Spans.embed {l : List Char} (h : Spans l.toArray a i j) (ha : a.Plain)
    (before after : List Char) :
    Spans (before ++ l ++ after).toArray a (before.length + i) (before.length + j) := by
  induction h with
  | empty => exact .empty
  | @one i c p hi hp =>
    refine .one ?_ hp
    rw [List.getElem?_toArray] at hi ⊢
    rw [List.append_assoc, List.getElem?_append_right (Nat.le_add_right _ _), Nat.add_sub_cancel_left,
      List.getElem?_append_left (List.getElem?_eq_some_iff.1 hi).1, hi]
  | look => exact ha.elim
  | seq _ _ iha ihb => exact .seq (iha ha.1) (ihb ha.2)
  | left _ ih => exact .left (ih ha.1)
  | right _ ih => exact .right (ih ha.2)
  | skip => exact .skip
  | take _ ih => exact .take (ih ha)
  | once _ ih => exact .once (ih ha)
  | more _ _ iha ihb => exact .more (iha ha) (ihb ha)

/-- A pattern that does not match the empty text. -/
def Node.Moves : Node → Prop
  | .empty | .look _ | .opt _ _ => False
  | .one _ => True
  | .seq a b => a.Moves ∨ b.Moves
  | .alt a b => a.Moves ∧ b.Moves
  | .plus _ a => a.Moves

theorem Spans.lt (h : Spans t a i j) (ha : a.Moves) : i < j := by
  induction h with
  | empty | look | skip | take => exact ha.elim
  | one => exact Nat.lt_succ_self _
  | seq h h' iha ihb =>
    rcases ha with ha | ha
    · exact Nat.lt_of_lt_of_le (iha ha) h'.le
    · exact Nat.lt_of_le_of_lt h.le (ihb ha)
  | left _ ih => exact ih ha.1
  | right _ ih => exact ih ha.2
  | once _ ih => exact ih ha
  | more _ h' iha _ => exact Nat.lt_of_lt_of_le (iha ha) h'.le

theorem spans_all_cons {as : List Node} :
    Spans t (.all (a :: as)) i k ↔ ∃ j, Spans t a i j ∧ Spans t (.all as) j k := by
  cases as with
  | nil =>
    refine ⟨fun h => ⟨k, h, .empty⟩, fun ⟨j, ha, hk⟩ => ?_⟩
    cases hk
    exact ha
  | cons b as =>
    refine ⟨fun h => ?_, fun ⟨j, ha, hk⟩ => .seq ha hk⟩
    cases h with
    | seq ha hk => exact ⟨_, ha, hk⟩

/-- Pieces cover a text from a place to its end, the slots by the given stretches. -/
inductive Covers (t : Array Char) : List Piece → Nat → List (Nat × Nat) → Prop
  | nil : Covers t [] t.size []
  | fixed : Spans t a i j → Covers t ps j ss → Covers t (.fixed a :: ps) i ss
  | slot : Spans t a i j → Covers t ps j ss → Covers t (.slot a :: ps) i ((i, j) :: ss)

theorem covers_of_search {ps : List Piece} (h : Piece.search t ps i = some ss) : Covers t ps i ss := by
  induction ps generalizing i ss with
  | nil =>
    rw [Piece.search] at h
    split at h
    · cases h
      rename_i hi
      exact hi ▸ .nil
    · cases h
  | cons p ps ih =>
    cases p with
    | fixed a =>
      obtain ⟨j, hj, h⟩ := List.exists_of_findSome?_eq_some h
      exact .fixed (mem_ends_iff.1 hj) (ih h)
    | slot a =>
      obtain ⟨j, hj, h⟩ := List.exists_of_findSome?_eq_some h
      obtain ⟨ss', hrest, rfl⟩ := Option.map_eq_some_iff.1 h
      exact .slot (mem_ends_iff.1 hj) (ih hrest)

theorem Covers.isSome_search {ps : List Piece} (h : Covers t ps i ss) :
    (Piece.search t ps i).isSome := by
  induction h with
  | nil => rw [Piece.search, if_pos rfl]; rfl
  | fixed ha _ ih => exact List.findSome?_isSome_iff.2 ⟨_, mem_ends_iff.2 ha, ih⟩
  | slot ha _ ih =>
    exact List.findSome?_isSome_iff.2 ⟨_, mem_ends_iff.2 ha, by simpa using ih⟩

theorem isSome_search_iff {ps : List Piece} {i : Nat} :
    (Piece.search t ps i).isSome ↔ ∃ ss, Covers t ps i ss := by
  refine ⟨fun h => ?_, fun ⟨ss, h⟩ => h.isSome_search⟩
  obtain ⟨ss, h⟩ := Option.isSome_iff_exists.1 h
  exact ⟨ss, covers_of_search h⟩

end Parlance.Pattern
