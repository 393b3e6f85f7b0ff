import Parlance.Proofs.Pattern.Carrying

/-!
Patterns inside of groups, reader by reader. Main statement: `readAlternatives_within`, that a text
which is read as a pattern on its own, and does not end inside a comment, is read as the same pattern
inside of a group.
-/

namespace Parlance.Pattern

open Reader

variable {more : List Char} {before : List String}

/-! Escapes. -/

theorem carries_charOfHex (s : State) (l : List Char) :
    Carries more before s (charOfHex l) (charOfHex l) := by
  unfold charOfHex
  split
  · split
    · exact .pure _
    · exact .fail _ _
  · exact .fail _ _

theorem carries_readHex (s : State) (digits : Nat) :
    Carries more before s (readHex digits) (readHex digits) := by
  unfold readHex
  apply Carries.skip
  intro s _
  apply Carries.peek
  · exact fun _ => .fail _ _
  intro c rest hrest
  split
  · exact .fail _ _
  · apply Carries.drop hrest
    apply Carries.takeUpTo
    · exact fun taken => ⟨_, rfl⟩
    intro body c rest
    apply Carries.get
    apply Carries.peek
    · exact fun hnil => absurd hnil (List.cons_ne_nil c rest)
    intro c rest hrest
    apply Carries.drop hrest
    exact carries_charOfHex _ _
  · apply Carries.get
    dsimp only
    split
    · exact .failBind _ _ _
    · rename_i hlength
      have hle : digits ≤ s.rest.length := by
        rw [List.length_take] at hlength
        omega
      have htake : (s.within more before).rest.take digits = s.rest.take digits :=
        List.take_append_of_le_length hle
      rw [htake, if_neg hlength]
      apply Carries.dropMany hle
      exact carries_charOfHex _ _

theorem carries_readNamedClass (s : State) (negated : Bool) :
    Carries more before s (readNamedClass negated) (readNamedClass negated) := by
  unfold readNamedClass
  apply Carries.skip
  intro s _
  apply Carries.get
  dsimp only [State.flags_within]
  apply Carries.peek
  · exact fun _ => .fail _ _
  intro c rest hrest
  split
  · exact .fail _ _
  · apply Carries.drop hrest
    apply Carries.takeUpTo
    · exact fun taken => ⟨_, rfl⟩
    intro body c rest
    apply Carries.peek
    · exact fun hnil => absurd hnil (List.cons_ne_nil c rest)
    intro c rest hrest
    apply Carries.drop hrest
    split
    · exact .fail _ _
    · exact .ite (fun _ => .pure _) fun _ => .fail _ _
  · exact .fail _ _
  · apply Carries.drop hrest
    split
    · exact .fail _ _
    · exact .ite (fun _ => .pure _) fun _ => .fail _ _

theorem carries_readWordBoundary (s : State) (unicode : Bool) :
    Carries more before s (readWordBoundary unicode) (readWordBoundary unicode) := by
  unfold readWordBoundary
  apply Carries.peek
  · exact fun _ => .pure _
  intro c rest hrest
  dsimp only
  split
  · apply Carries.get
    apply Carries.lookBeyond hrest
    · exact fun t => .fail _ _
    intro t c rest _ hback
    apply Carries.ite
    · intro _
      apply Carries.takeWhile (by decide)
      intro name rest
      apply Carries.peek
      · exact fun _ => .fail _ _
      intro c rest hrest
      split
      · apply Carries.drop hrest
        exact .pure _
      · exact .fail _ _
    · intro _
      exact (Carries.set hback).bind fun _ _ _ => .pure _
  · exact .pure _

theorem carries_shorthand (s : State) (flags : Flags) (f : Bool → CharSet) (negated : Bool) :
    Carries more before s (shorthand flags f negated) (shorthand flags f negated) :=
  .ite (fun _ => .fail _ _) fun _ => .pure _

theorem carries_readEscape (s : State) : Carries more before s readEscape readEscape := by
  unfold readEscape
  apply Carries.get
  dsimp only [State.flags_within]
  apply Carries.peek
  · exact fun _ => .fail _ _
  intro c rest hrest
  apply Carries.drop hrest
  split
  case h_1 | h_2 | h_3 => exact (carries_readHex _ _).bind fun _ _ _ => .pure _
  case h_4 | h_5 => exact (carries_readNamedClass _ _).bind fun _ _ _ => .pure _
  case h_6 | h_7 | h_8 | h_9 | h_10 | h_11 => exact carries_shorthand _ _ _ _
  case h_20 => exact carries_readWordBoundary _ _
  case h_24 => exact .ite (fun _ => .pure _) fun _ => .fail _ _
  all_goals exact .pure _

/-! Classes. -/

theorem carries_readClassItem (s : State) :
    Carries more before s readClassItem readClassItem := by
  unfold readClassItem
  apply Carries.peek
  · exact fun _ => .fail _ _
  intro c rest hrest
  split
  · exact .fail _ _
  · apply Carries.drop hrest
    exact carries_readEscape _
  · apply Carries.drop hrest
    exact .pure _

theorem carries_itemClass (s : State) (p : Primitive) :
    Carries more before s (itemClass p) (itemClass p) := by
  cases p with
  | char c => exact .pure _
  | set a => exact .pure _
  | look p => exact .fail _ _

theorem carries_readClassRange (s : State) :
    Carries more before s readClassRange readClassRange := by
  unfold readClassRange
  apply (carries_readClassItem s).bind
  intro first s _
  apply Carries.skip
  intro s _
  apply Carries.peek
  · exact fun _ => .fail _ _
  intro c rest hrest
  split
  · exact .fail _ _
  · apply Carries.get
    apply Carries.lookBeyond hrest
    · exact fun t => .fail _ _
    intro t c rest _ hback
    apply Carries.ite
    · intro _
      exact (Carries.set hback).bind fun _ _ _ => carries_itemClass _ _
    · intro _
      apply (carries_readClassItem t).bind
      intro second t _
      split
      · exact .ite (fun _ => .pure _) fun _ => .fail _ _
      · exact .fail _ _
  · exact carries_itemClass _ _

/-- A dash takes one step each, so that more steps than characters read no more of them. -/
theorem carries_readLeadingDashes {s : State} {steps steps' : Nat} (h : s.rest.length ≤ steps)
    (hsteps : steps ≤ steps') (a : CharSet) :
    Carries more before s (readLeadingDashes steps a) (readLeadingDashes steps' a) := by
  induction steps generalizing s steps' a with
  | zero =>
    have hnil : s.rest = [] := List.length_eq_zero_iff.1 (Nat.le_zero.1 h)
    cases steps' with
    | zero => exact .pure _
    | succ steps' =>
      -- there is no dash at the parenthesis either
      have hstop : readLeadingDashes (steps' + 1) a (s.within more before) =
          (pure a : Reader CharSet) (s.within more before) := by
        rw [State.within, hnil]
        rfl
      exact .step (.refl s) rfl hstop (.pure a)
  | succ steps ih =>
    obtain ⟨n, rfl⟩ : ∃ n, steps' = n + 1 := ⟨steps' - 1, by omega⟩
    rw [readLeadingDashes, readLeadingDashes]
    apply Carries.peek
    · exact fun _ => .pure _
    intro c rest hrest
    split
    · apply Carries.dropAndSkip hrest
      intro t hskips
      have hlength := hskips.length
      rw [hrest, List.length_cons] at h
      dsimp only at hlength
      exact ih (by omega) (by omega) _
    · exact .pure _

theorem not_mem_of_ascii? {name : String} {a : CharSet} (h : CharSet.ascii? name = some a) :
    ')' ∉ name.toList := by
  unfold CharSet.ascii? at h
  dsimp only at h
  split at h
  all_goals first | decide | cases h

theorem asciiName?_append (l : List Char) :
    asciiName? (l ++ ')' :: more) = (asciiName? l).map fun p => (p.1, p.2 ++ ')' :: more) := by
  unfold asciiName?
  cases hrest : l.dropWhile (· ≠ ':') with
  | nil =>
    -- the name goes on with the parenthesis, and no class has such a name
    have hall : ∀ c ∈ l, decide (c ≠ ':') = true := List.dropWhile_eq_nil_iff.1 hrest
    have hname : CharSet.ascii? (String.ofList ((l ++ ')' :: more).takeWhile (· ≠ ':'))) = none := by
      rw [Option.eq_none_iff_forall_ne_some]
      intro a ha
      apply not_mem_of_ascii? ha
      rw [String.toList_ofList, List.takeWhile_append_of_pos hall]
      simp
    rw [hname]
    simp
  | cons c rest =>
    have hne : l.dropWhile (· ≠ ':') ≠ [] := by
      rw [hrest]
      exact List.cons_ne_nil c rest
    obtain ⟨htake, hdrop⟩ := Carries.takeWhile_append more (.inl hne)
    rw [htake, hdrop, hrest]
    cases CharSet.ascii? (String.ofList (l.takeWhile (· ≠ ':'))) with
    | none => simp
    | some a =>
      cases rest with
      | nil => simp
      | cons d rest =>
        by_cases hcd : c = ':' ∧ d = ']'
        · obtain ⟨rfl, rfl⟩ := hcd
          rfl
        · have hother {l r : List Char} (heq : c :: d :: l = ':' :: ']' :: r) : False := by
            simp only [List.cons.injEq] at heq
            exact hcd ⟨heq.1, heq.2.1⟩
          split
          · exact (hother ‹_›).elim
          · split
            · exact (hother ‹_›).elim
            · rfl

/-- No two signs come about where a parenthesis is put behind a text. -/
theorem append_ne_two {a b : Char} {l : List Char} (ha : a ≠ ')') (hb : b ≠ ')')
    (h : ∀ m, l = a :: b :: m → False) (m : List Char) : l ++ ')' :: more = a :: b :: m → False := by
  intro he
  rcases l with _ | ⟨c, _ | ⟨d, l⟩⟩
  · exact ha (List.cons.inj he).1.symm
  · exact hb (List.cons.inj (List.cons.inj he).2).1.symm
  · rw [List.cons_append, List.cons_append, List.cons.injEq, List.cons.injEq] at he
    obtain ⟨rfl, rfl, -⟩ := he
    exact h l rfl

theorem asciiClass?_append (l : List Char) :
    asciiClass? (l ++ ')' :: more) =
      (asciiClass? l).map fun p => (p.1, p.2.1, p.2.2 ++ ')' :: more) := by
  fun_cases asciiClass? l with
  | case1 l =>
    simp only [List.cons_append, asciiClass?, asciiName?_append, Option.map_map]
    rfl
  | case2 l h =>
    have hplain : ∀ l', l ++ ')' :: more = '^' :: l' → False := by
      intro l' he
      cases l with
      | nil => cases he
      | cons c l => exact h l (congrArg (· :: l) (List.cons.inj he).1)
    rw [List.cons_append, List.cons_append, asciiClass?, asciiName?_append, Option.map_map,
      Option.map_map]
    · rfl
    · exact hplain
  | case3 _ _ hbare =>
    have hplain : ∀ l', l ++ ')' :: more = '[' :: ':' :: l' → False :=
      append_ne_two (by decide) (by decide) hbare
    rw [asciiClass?]
    · rfl
    · exact fun l' => hplain ('^' :: l')
    · exact hplain

theorem carries_takeAsciiClass (s : State) (negated : Bool) (p : CharSet) (rest : List Char) :
    Carries more before s (takeAsciiClass negated p rest)
      (takeAsciiClass negated p (rest ++ ')' :: more)) := by
  unfold takeAsciiClass
  apply Carries.get
  apply Carries.ite
  · exact fun _ => .fail _ _
  · intro _
    have hst : s.Leads { s with rest } := ⟨List.Subset.refl _, id⟩
    exact (Carries.set hst).bind fun _ _ _ => .pure _

theorem setOp?_append (l : List Char) : setOp? (l ++ ')' :: more) = setOp? l := by
  fun_cases setOp? l with
  | case1 l => rfl
  | case2 l => rfl
  | case3 l => rfl
  | case4 _ hinter hdiff hsymm =>
    rw [setOp?]
    · exact append_ne_two (by decide) (by decide) hinter
    · exact append_ne_two (by decide) (by decide) hdiff
    · exact append_ne_two (by decide) (by decide) hsymm

theorem two_le_of_setOp? {l : List Char} {op : SetOp} (h : setOp? l = some op) : 2 ≤ l.length := by
  unfold setOp? at h
  split at h
  case h_4 => cases h
  all_goals exact Nat.le_add_left 2 _

theorem carries_readNegation (s : State) :
    Carries more before s readNegation readNegation := by
  unfold readNegation
  apply Carries.peek
  · exact fun _ => .pure _
  intro c rest hrest
  split
  · apply Carries.dropAndSkip hrest
    exact fun t _ => .pure _
  · exact .pure _

theorem carries_readClassStart (s : State) :
    Carries more before s readClassStart readClassStart := by
  unfold readClassStart
  have hdashes : Carries more before s
      (do readLeadingDashes (← MonadState.get).rest.length CharSet.none)
      (do readLeadingDashes (← MonadState.get).rest.length CharSet.none) := by
    apply Carries.get
    apply carries_readLeadingDashes (Nat.le_refl _)
    simp [State.within]
  apply Carries.peek
  · exact fun _ => hdashes
  intro c rest hrest
  split
  · apply Carries.dropAndSkip hrest
    exact fun t _ => .pure _
  · exact hdashes

section Class

variable {steps n : Nat}

theorem carries_readClass_succ {s : State}
    (hitems : ∀ s a, Carries more before s (readClassItems steps none a) (readClassItems n none a))
    (hne : s.rest ≠ []) : Carries more before s (readClass (steps + 1)) (readClass (n + 1)) := by
  obtain ⟨c, rest, hrest⟩ := List.exists_cons_of_ne_nil hne
  rw [readClass, readClass]
  apply Carries.dropAndSkip hrest
  intro s _
  apply (carries_readNegation s).bind
  intro negated s _
  apply (carries_readClassStart s).bind
  intro start s _
  apply (hitems s start).bind
  intro a s _
  apply Carries.get
  exact .ite (fun _ => .fail _ _) fun _ => .pure _

theorem carries_readClassItems_succ
    (hclass : ∀ s, s.rest ≠ [] → Carries more before s (readClass steps) (readClass n))
    (hitems : ∀ s pending a,
      Carries more before s (readClassItems steps pending a) (readClassItems n pending a))
    (s : State) (pending : Option (SetOp × CharSet)) (a : CharSet) :
    Carries more before s (readClassItems (steps + 1) pending a)
      (readClassItems (n + 1) pending a) := by
  rw [readClassItems, readClassItems]
  apply Carries.skip
  intro s _
  apply Carries.get
  dsimp only [State.flags_within]
  apply Carries.get
  have hwithin : setOp? (s.within more before).rest = setOp? s.rest := setOp?_append s.rest
  rw [hwithin]
  cases hop : setOp? s.rest with
  | some op =>
    apply Carries.dropMany (two_le_of_setOp? hop)
    exact hitems _ _ _
  | none =>
    apply Carries.peek
    · exact fun _ => .fail _ _
    intro c rest hrest
    split
    · exact .fail _ _
    · apply Carries.get
      have hascii : asciiClass? (s.within more before).rest = _ := asciiClass?_append s.rest
      rw [hascii]
      cases asciiClass? s.rest with
      | some p =>
        obtain ⟨negated, p, rest⟩ := p
        apply (carries_takeAsciiClass s negated p rest).bind
        exact fun inner t _ => hitems _ _ _
      | none =>
        apply (hclass s (by simp [hrest])).bind
        exact fun inner t _ => hitems _ _ _
    · apply Carries.drop hrest
      exact .pure _
    · apply (carries_readClassRange s).bind
      exact fun a t _ => hitems _ _ _

/-- Classes and their items, one step after the other. -/
theorem carries_class (h : steps ≤ n) :
    (∀ s, s.rest ≠ [] → Carries more before s (readClass steps) (readClass n)) ∧
      ∀ s pending a,
        Carries more before s (readClassItems steps pending a) (readClassItems n pending a) := by
  induction steps generalizing n with
  | zero => exact ⟨fun s _ => .fail _ _, fun s pending a => .fail _ _⟩
  | succ steps ih =>
    obtain ⟨n, rfl⟩ : ∃ m, n = m + 1 := ⟨n - 1, by omega⟩
    obtain ⟨hclass, hitems⟩ := ih (Nat.le_of_succ_le_succ h)
    exact ⟨fun s hne => carries_readClass_succ (fun s a => hitems s none a) hne,
      carries_readClassItems_succ hclass hitems⟩

end Class

/-! Repetitions and groups. -/

theorem carries_readCount (s : State) : Carries more before s readCount readCount := by
  unfold readCount
  apply Carries.takeWhile (by decide)
  intro _ rest
  apply Carries.takeWhile (by decide)
  intro digits rest
  apply Carries.takeWhile (by decide)
  intro _ rest
  apply Carries.skip
  intro s _
  split
  · exact .pure _
  · split
    · exact .ite (fun _ => .pure _) fun _ => .fail _ _
    · exact .fail _ _

theorem carries_readMost (s : State) (least : Nat) :
    Carries more before s (readMost least) (readMost least) := by
  unfold readMost
  have hcount (t : State) {f : Option Nat → Reader (Option Nat)} (hnone : f none = fail .badCount)
      (hsome : ∀ m, f (some m) = pure (some m)) :
      Carries more before t (readCount >>= f) (readCount >>= f) := by
    apply (carries_readCount t).bind
    intro m t _
    cases m with
    | none =>
      rw [hnone]
      exact .fail _ _
    | some m =>
      rw [hsome]
      exact .pure _
  apply Carries.peek
  · exact fun _ => .pure _
  intro c rest hrest
  split
  · apply Carries.dropAndSkip hrest
    intro t _
    apply Carries.peek
    · exact fun _ => hcount t rfl fun _ => rfl
    intro c rest hrest
    split
    · exact .pure _
    · exact hcount t rfl fun _ => rfl
  · exact .pure _

theorem carries_readBounds (s : State) : Carries more before s readBounds readBounds := by
  unfold readBounds
  apply Carries.skip
  intro s _
  apply (carries_readCount s).bind
  intro least s _
  cases least with
  | none => exact .fail _ _
  | some least =>
    apply (carries_readMost s least).bind
    intro most s _
    apply Carries.peek
    · exact fun _ => .fail _ _
    intro c rest hrest
    split
    · apply Carries.dropAndSkip hrest
      intro t _
      exact .ite (fun _ => .fail _ _) fun _ => .pure _
    · exact .fail _ _

theorem carries_readGreed (s : State) : Carries more before s readGreed readGreed := by
  unfold readGreed
  apply Carries.peek
  · exact fun _ => .get (.pure _)
  intro c rest hrest
  split
  · apply Carries.drop hrest
    exact .get (.pure _)
  · exact .get (.pure _)

theorem carries_repeatLast (s : State) (items : List (Option Node)) (least : Nat) (most : Option Nat) :
    Carries more before s (repeatLast items least most) (repeatLast items least most) := by
  unfold repeatLast
  apply (carries_readGreed s).bind
  intro greedy s _
  split
  · exact .ite (fun _ => .fail _ _) fun _ => .pure _
  · exact .fail _ _

theorem carries_dot (s : State) (flags : Flags) : Carries more before s (dot flags) (dot flags) := by
  unfold dot
  apply Carries.ite
  · exact fun _ => .fail _ _
  intro _
  apply Carries.ite
  · exact fun _ => .pure _
  intro _
  exact .ite (fun _ => .pure _) fun _ => .pure _

theorem carries_readFlags (s : State) (flags : Flags) :
    Carries more before s (readFlags flags) (readFlags flags) := by
  unfold readFlags
  apply Carries.takeWhile (by decide)
  intro letters rest
  apply Carries.ite
  · exact fun _ => .fail _ _
  intro _
  split
  · exact .pure _
  · exact .fail _ _

/-- A name that is new within the group is new to the text, if none of the names before is taken. -/
theorem carries_addGroupName (s : State) (name : String) :
    Carries more before s (addGroupName name) (addGroupName name) := by
  intro a t h
  have hrun (s : State) : addGroupName name s =
      if s.names.contains name then .error .duplicateGroupName
      else .ok ((), { s with names := name :: s.names }) := by
    unfold addGroupName
    change ((if s.names.contains name = true then _ else _ : Reader PUnit)) s = _
    split <;> rfl
  rw [hrun] at h
  split at h
  · cases h
  · rename_i hnew
    cases h
    refine ⟨⟨List.subset_cons_self _ _, id⟩, fun _ hnames => ?_⟩
    have hbefore := hnames name List.mem_cons_self
    rw [hrun, if_neg]
    · rfl
    · simpa [State.within, hbefore] using hnew

theorem carries_readGroupName (s : State) :
    Carries more before s readGroupName readGroupName := by
  unfold readGroupName
  apply Carries.takeUpTo
  · exact fun taken => ⟨_, rfl⟩
  intro name c rest
  apply Carries.peek
  · exact fun _ => .fail _ _
  intro c rest hrest
  apply Carries.drop hrest
  exact .ite (fun _ => carries_addGroupName _ _) fun _ => .fail _ _

theorem any_lookArounds_append (l : List Char) :
    (lookArounds.any fun b => b.toList.isPrefixOf (l ++ ')' :: more)) =
      lookArounds.any fun b => b.toList.isPrefixOf l := by
  have hbs : ∀ b ∈ lookArounds, ')' ∉ b.toList := by decide
  generalize lookArounds = bs at hbs ⊢
  induction bs with
  | nil => rfl
  | cons b bs ih =>
    rw [List.any_cons, List.any_cons, Carries.isPrefixOf_append (hbs b List.mem_cons_self),
      ih fun b' hb' => hbs b' (List.mem_cons_of_mem _ hb')]

theorem carries_readGroupHead (s : State) :
    Carries more before s readGroupHead readGroupHead := by
  unfold readGroupHead
  have hname (t : State) : Carries more before t (do readGroupName; return true)
      (do readGroupName; return true) :=
    (carries_readGroupName t).bind fun _ _ _ => .pure _
  apply Carries.get
  have hlook : (lookArounds.any fun b => b.toList.isPrefixOf (s.within more before).rest) = _ :=
    any_lookArounds_append s.rest
  rw [hlook]
  apply Carries.ite
  · exact fun _ => .fail _ _
  intro _
  apply Carries.takeIf (by decide)
  intro found rest
  apply Carries.ite
  · exact fun _ => hname _
  intro _
  apply Carries.takeIf (by decide)
  intro found rest
  apply Carries.ite
  · exact fun _ => hname _
  intro _
  apply Carries.takeIf (by decide)
  intro found rest
  apply Carries.ite
  · intro _
    apply Carries.peek
    · intro hnil
      obtain rfl : rest = [] := hnil
      exact .failing ⟨_, rfl⟩
    intro c rest hrest
    apply (carries_readFlags _ s.flags).bind
    intro flags t _
    apply Carries.setFlags flags
    apply Carries.peek
    · exact fun _ => .fail _ _
    intro c rest hrest
    split
    · apply Carries.drop hrest
      exact .ite (fun _ => .fail _ _) fun _ => .pure _
    · apply Carries.drop hrest
      exact .pure _
    · exact .fail _ _
  · exact fun _ => .pure _

section Alternatives

variable {steps n : Nat}

theorem carries_readAlternatives_succ
    (halternatives : ∀ s, Carries more before s (readAlternatives steps) (readAlternatives n))
    (hsequence : ∀ s items, Carries more before s (readSequence steps items) (readSequence n items))
    (s : State) :
    Carries more before s (readAlternatives (steps + 1)) (readAlternatives (n + 1)) := by
  rw [readAlternatives, readAlternatives]
  apply (hsequence s []).bind
  intro first s _
  apply Carries.peek
  · exact fun _ => .pure _
  intro c rest hrest
  split
  · apply Carries.drop hrest
    exact (halternatives _).bind fun a t _ => .pure _
  · exact .pure _

theorem carries_readSequence_succ (h : steps ≤ n)
    (hsequence : ∀ s items, Carries more before s (readSequence steps items) (readSequence n items))
    (hgroup : ∀ s, s.rest ≠ [] → Carries more before s (readGroup steps) (readGroup n))
    (s : State) (items : List (Option Node)) :
    Carries more before s (readSequence (steps + 1) items) (readSequence (n + 1) items) := by
  rw [readSequence, readSequence]
  apply Carries.skip
  intro s _
  apply Carries.get
  dsimp only [State.flags_within]
  apply Carries.peek
  · exact fun _ => .pure _
  intro c rest hrest
  have hrepeat (t : State) (least : Nat) (most : Option Nat) : Carries more before t
      (repeatLast items least most >>= readSequence steps)
      (repeatLast items least most >>= readSequence n) :=
    (carries_repeatLast t items least most).bind fun items t _ => hsequence t items
  split
  case h_1 | h_2 | h_3 => exact .pure _
  case h_4 =>
    apply (hgroup s (by simp [hrest])).bind
    exact fun item t _ => hsequence t _
  case h_5 =>
    apply ((carries_class h).1 s (by simp [hrest])).bind
    exact fun a t _ => hsequence t _
  case h_6 | h_7 | h_8 =>
    apply Carries.drop hrest
    exact hrepeat _ _ _
  case h_9 =>
    split
    · apply Carries.drop hrest
      apply (carries_readBounds _).bind
      exact fun bounds t _ => hrepeat t _ _
    · exact .failBind _ _ _
  case h_10 =>
    apply Carries.drop hrest
    apply (carries_dot _ s.flags).bind
    exact fun a t _ => hsequence t _
  case h_13 =>
    apply Carries.drop hrest
    apply (carries_readEscape _).bind
    exact fun p t _ => hsequence t _
  case h_11 | h_12 | h_14 =>
    apply Carries.drop hrest
    exact hsequence _ _

theorem carries_readGroup_succ {s : State}
    (halternatives : ∀ s, Carries more before s (readAlternatives steps) (readAlternatives n))
    (hne : s.rest ≠ []) : Carries more before s (readGroup (steps + 1)) (readGroup (n + 1)) := by
  obtain ⟨c, rest, hrest⟩ := List.exists_cons_of_ne_nil hne
  rw [readGroup, readGroup]
  apply Carries.dropAndSkip hrest
  intro s _
  apply Carries.get
  apply (carries_readGroupHead s).bind
  intro hasBody t _
  apply Carries.ite
  · intro _
    dsimp only [State.flags_within]
    apply (halternatives t).bind
    intro a t _
    apply Carries.peek
    · exact fun _ => .fail _ _
    intro c rest hrest
    split
    · apply Carries.drop hrest
      exact .setFlags s.flags (.pure _)
    · exact .fail _ _
  · exact fun _ => .pure _

/-- Alternatives, sequences and groups, one step after the other. -/
theorem carries_alternatives (h : steps ≤ n) :
    (∀ s, Carries more before s (readAlternatives steps) (readAlternatives n)) ∧
      (∀ s items, Carries more before s (readSequence steps items) (readSequence n items)) ∧
      ∀ s, s.rest ≠ [] → Carries more before s (readGroup steps) (readGroup n) := by
  induction steps generalizing n with
  | zero => exact ⟨fun s => .fail _ _, fun s items => .fail _ _, fun s _ => .fail _ _⟩
  | succ steps ih =>
    obtain ⟨n, rfl⟩ : ∃ m, n = m + 1 := ⟨n - 1, by omega⟩
    have hsteps : steps ≤ n := Nat.le_of_succ_le_succ h
    obtain ⟨halternatives, hsequence, hgroup⟩ := ih hsteps
    exact ⟨carries_readAlternatives_succ halternatives hsequence,
      carries_readSequence_succ hsteps hsequence hgroup,
      fun s hne => carries_readGroup_succ halternatives hne⟩

end Alternatives

theorem readAlternatives_within {steps steps' : Nat} (hsteps : steps ≤ steps') {flags : Flags}
    {text : List Char} {a : Node} {t : State}
    (h : readAlternatives steps ⟨text, flags, [], false⟩ = .ok (a, t)) (hopen : t.openComment = false)
    (hbefore : ∀ name ∈ t.names, name ∉ before) :
    readAlternatives steps' ⟨text ++ ')' :: more, flags, before, false⟩ =
      .ok (a, t.within more before) :=
  ((carries_alternatives hsteps).1 _ a t h).2 hopen hbefore

end Parlance.Pattern
