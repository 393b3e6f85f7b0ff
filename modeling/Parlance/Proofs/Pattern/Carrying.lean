import Mathlib.Data.List.TakeWhile
import Parlance.Pattern.Parser

/-!
Readers of patterns and what follows the text they read. A reader carries over when it reads the same
of a text on its own and of the text before a closing parenthesis, whatever stands behind that. Each
step that readers are made of carries over; `Carries.bind` puts them together.
-/

namespace Parlance.Pattern

open Reader

/-- The state in which a closing parenthesis and more follow, and groups were named before. -/
def State.within (more : List Char) (before : List String) (s : State) : State :=
  { s with rest := s.rest ++ ')' :: more, names := s.names ++ before }

theorem State.flags_within (more : List Char) (before : List String) (s : State) :
    (s.within more before).flags = s.flags := rfl

/-- Reading adds names, and a comment stays open. -/
structure State.Leads (s t : State) : Prop where
  names : s.names ⊆ t.names
  openComment : s.openComment = true → t.openComment = true

theorem State.Leads.refl (s : State) : s.Leads s :=
  ⟨List.Subset.refl _, id⟩

theorem State.Leads.trans {s t u : State} (h : s.Leads t) (h' : t.Leads u) : s.Leads u :=
  ⟨List.Subset.trans h.names h'.names, fun ho => h'.openComment (h.openComment ho)⟩

variable {α β : Type} {more : List Char} {before : List String} {s : State}

/-- From a state on, what one reader reads of a text on its own, another reads of it within a group. -/
def Carries (more : List Char) (before : List String) (s : State) (r r' : Reader α) : Prop :=
  ∀ a t, r s = .ok (a, t) → s.Leads t ∧
    (t.openComment = false → (∀ name ∈ t.names, name ∉ before) →
      r' (s.within more before) = .ok (a, t.within more before))

namespace Carries

theorem pure (a : α) : Carries more before s (pure a : Reader α) (pure a) := by
  intro b t h
  cases h
  exact ⟨.refl s, fun _ _ => rfl⟩

theorem fail (f : Fault) (r' : Reader α) : Carries more before s (fail f) r' := by
  intro a t h
  cases h

theorem bind {r r' : Reader α} {f g : α → Reader β} (h : Carries more before s r r')
    (hf : ∀ a t, r s = .ok (a, t) → Carries more before t (f a) (g a)) :
    Carries more before s (r >>= f) (r' >>= g) := by
  intro b u hb
  change (r s >>= fun p => f p.1 p.2) = .ok (b, u) at hb
  cases hr : r s with
  | error e =>
    rw [hr] at hb
    cases hb
  | ok p =>
    obtain ⟨a, t⟩ := p
    rw [hr] at hb
    obtain ⟨hst, hread⟩ := h a t hr
    obtain ⟨htu, hread'⟩ := hf a t hr b u hb
    refine ⟨hst.trans htu, fun hopen hnames => ?_⟩
    have ht : t.openComment = false := by
      cases hc : t.openComment with
      | false => rfl
      | true => rw [htu.openComment hc] at hopen; cases hopen
    have hr' := hread ht fun name hname => hnames name (htu.names hname)
    change (r' (s.within more before) >>= fun p => g p.1 p.2) = _
    rw [hr']
    exact hread' hopen hnames

theorem failBind (f : Fault) (k : α → Reader β) (r' : Reader β) :
    Carries more before s (Reader.fail f >>= k) r' := by
  intro a t h
  cases h

theorem failing {r r' : Reader α} (h : ∃ f, r s = .error f) : Carries more before s r r' := by
  intro a t hok
  obtain ⟨f, hf⟩ := h
  rw [hf] at hok
  cases hok

/-- A step that both readers take. -/
theorem step {t : State} {r r' q q' : Reader α} (hst : s.Leads t)
    (hr : r s = q t) (hr' : r' (s.within more before) = q' (t.within more before))
    (h : Carries more before t q q') : Carries more before s r r' := by
  intro a u hu
  rw [hr] at hu
  rw [hr']
  obtain ⟨htu, hread⟩ := h a u hu
  exact ⟨hst.trans htu, hread⟩

theorem ite {c : Prop} [Decidable c] {a b a' b' : Reader α} (h : c → Carries more before s a a')
    (h' : ¬c → Carries more before s b b') :
    Carries more before s (if c then a else b) (if c then a' else b') := by
  split
  · exact h ‹c›
  · exact h' ‹¬c›

theorem get {f g : State → Reader α} (h : Carries more before s (f s) (g (s.within more before))) :
    Carries more before s (MonadState.get >>= f) (MonadState.get >>= g) :=
  h

theorem set {t : State} (h : s.Leads t) :
    Carries more before s (MonadStateOf.set t : Reader PUnit) (MonadStateOf.set (t.within more before)) :=
  step h rfl rfl (pure _)

theorem setFlags (flags : Flags) {f g : Unit → Reader α}
    (h : Carries more before { s with flags } (f ()) (g ())) :
    Carries more before s (modify (fun s => { s with flags }) >>= f)
      (modify (fun s => { s with flags }) >>= g) := by
  have hst : s.Leads { s with flags } := ⟨List.Subset.refl _, id⟩
  exact step hst rfl rfl h

/-- At the end of the text there is nothing to peek at, or else a closing parenthesis. -/
theorem peek {f g : Option Char → Reader α}
    (hnil : s.rest = [] → Carries more before s (f none) (g (some ')')))
    (hcons : ∀ c rest, s.rest = c :: rest → Carries more before s (f (some c)) (g (some c))) :
    Carries more before s (peek? >>= f) (peek? >>= g) := by
  have hpeek (f : Option Char → Reader α) (s : State) : (peek? >>= f) s = f s.rest.head? s := rfl
  cases hs : s.rest with
  | nil =>
    apply step (.refl s) _ _ (hnil hs)
    · rw [hpeek, hs]
      rfl
    · rw [hpeek, State.within, hs]
      rfl
  | cons c rest =>
    apply step (.refl s) _ _ (hcons c rest hs)
    · rw [hpeek, hs]
      rfl
    · rw [hpeek, State.within, hs]
      rfl

theorem dropMany {n : Nat} (hn : n ≤ s.rest.length) {f g : Unit → Reader α}
    (h : Carries more before { s with rest := s.rest.drop n } (f ()) (g ())) :
    Carries more before s (Reader.drop n >>= f) (Reader.drop n >>= g) := by
  have hdrop (f : Unit → Reader α) (s : State) :
      (Reader.drop n >>= f) s = f () { s with rest := s.rest.drop n } := rfl
  have hst : s.Leads { s with rest := s.rest.drop n } := ⟨List.Subset.refl _, id⟩
  apply step hst (hdrop f s) _ h
  rw [hdrop, State.within, List.drop_append_of_le_length hn]
  rfl

theorem drop {c : Char} {rest : List Char} (hs : s.rest = c :: rest) {f g : Unit → Reader α}
    (h : Carries more before { s with rest } (f ()) (g ())) :
    Carries more before s (Reader.drop 1 >>= f) (Reader.drop 1 >>= g) := by
  apply dropMany
  · simp [hs]
  · rw [hs]
    exact h

/-- What blanks and comments leave is the same before a parenthesis, unless a comment is open. -/
theorem skipIgnored_append {inComment : Bool} {l : List Char} (h : (skipIgnored inComment l).2 = false) :
    skipIgnored inComment (l ++ ')' :: more) = ((skipIgnored inComment l).1 ++ ')' :: more, false) := by
  induction l generalizing inComment with
  | nil =>
    cases h
    rfl
  | cons c l ih =>
    rw [List.cons_append]
    unfold skipIgnored at h ⊢
    split at h <;> rename_i hin
    · rw [if_pos hin, if_pos hin]
      exact ih h
    rw [if_neg hin, if_neg hin]
    split at h <;> rename_i hblank
    · rw [if_pos hblank, if_pos hblank]
      exact ih h
    rw [if_neg hblank, if_neg hblank]
    split at h <;> rename_i hhash
    · rw [if_pos hhash, if_pos hhash]
      exact ih h
    rw [if_neg hhash, if_neg hhash]
    rfl

/-- Where something is left, no comment is open. -/
theorem skipIgnored_snd {inComment : Bool} {l : List Char} (h : (skipIgnored inComment l).1 ≠ []) :
    (skipIgnored inComment l).2 = false := by
  induction l generalizing inComment with
  | nil => exact absurd rfl h
  | cons c l ih =>
    unfold skipIgnored at h ⊢
    split at h <;> rename_i hin
    · rw [if_pos hin]
      exact ih h
    rw [if_neg hin]
    split at h <;> rename_i hblank
    · rw [if_pos hblank]
      exact ih h
    rw [if_neg hblank]
    split at h <;> rename_i hhash
    · rw [if_pos hhash]
      exact ih h
    rw [if_neg hhash]

theorem length_skipIgnored (inComment : Bool) (l : List Char) :
    (skipIgnored inComment l).1.length ≤ l.length := by
  induction l generalizing inComment with
  | nil => exact Nat.le_refl _
  | cons c l ih =>
    unfold skipIgnored
    split
    · exact Nat.le_succ_of_le (ih _)
    · split
      · exact Nat.le_succ_of_le (ih _)
      · split
        · exact Nat.le_succ_of_le (ih _)
        · exact Nat.le_refl _

/-- What passing over blanks and comments does to a state. -/
structure Skips (s t : State) : Prop where
  names : t.names = s.names
  length : t.rest.length ≤ s.rest.length
  leads : s.openComment = true → t.openComment = true
  openComment : t.rest ≠ [] → t.openComment = s.openComment

theorem skips_of_ok {a : Unit} {t : State} (h : Reader.skip s = .ok (a, t)) : Skips s t := by
  obtain rfl : _ = t := congrArg Prod.snd (Except.ok.inj h)
  by_cases hext : s.flags.extended = true
  · simp only [hext, ↓reduceIte]
    exact ⟨rfl, length_skipIgnored false s.rest, fun ho => by simp [ho],
      fun hne => by simp [skipIgnored_snd hne]⟩
  · simp only [hext, Bool.false_eq_true, ↓reduceIte]
    exact ⟨rfl, Nat.le_refl _, id, fun _ => rfl⟩

theorem skip_self (s : State) : Carries more before s Reader.skip Reader.skip := by
  intro a t h
  have hskips := skips_of_ok h
  refine ⟨⟨hskips.names ▸ List.Subset.refl _, hskips.leads⟩, fun hopen _ => ?_⟩
  obtain rfl : _ = t := congrArg Prod.snd (Except.ok.inj h)
  apply congrArg Except.ok
  by_cases hext : s.flags.extended = true
  · simp only [hext, ↓reduceIte, Bool.or_eq_false_iff] at hopen
    simp [State.within, hext, skipIgnored_append hopen.2, hopen]
  · simp [State.within, hext]

theorem skip {f g : Unit → Reader α} (h : ∀ t, Skips s t → Carries more before t (f ()) (g ())) :
    Carries more before s (Reader.skip >>= f) (Reader.skip >>= g) :=
  (skip_self s).bind fun _ t ht => h t (skips_of_ok ht)

theorem dropAndSkip {c : Char} {rest : List Char} (hs : s.rest = c :: rest) {f g : Unit → Reader α}
    (h : ∀ t, Skips { s with rest } t → Carries more before t (f ()) (g ())) :
    Carries more before s (Reader.dropAndSkip >>= f) (Reader.dropAndSkip >>= g) := by
  have hst : s.Leads { s with rest } := ⟨List.Subset.refl _, id⟩
  have hrun (f : Unit → Reader α) (s : State) :
      (Reader.dropAndSkip >>= f) s = (Reader.skip >>= f) { s with rest := s.rest.drop 1 } := rfl
  apply step hst _ _ (skip h)
  · rw [hrun, hs]
    rfl
  · rw [hrun, State.within, hs]
    rfl

/-- A look beyond a character; where it finds one, no comment was opened. -/
theorem lookBeyond {c : Char} {rest : List Char} (hs : s.rest = c :: rest)
    {f g : Option Char → Reader α} (hnil : ∀ t, Carries more before t (f none) (g (some ')')))
    (hcons : ∀ t c rest, t.rest = c :: rest → t.Leads s →
      Carries more before t (f (some c)) (g (some c))) :
    Carries more before s (Reader.dropAndSkip >>= fun _ => peek? >>= f)
      (Reader.dropAndSkip >>= fun _ => peek? >>= g) := by
  apply dropAndSkip hs
  intro t hskips
  apply peek
  · exact fun _ => hnil t
  intro c rest' hrest
  have hopen := hskips.openComment (by simp [hrest])
  exact hcons t c rest' hrest ⟨by simp [hskips.names], by simp [hopen]⟩

theorem drop_takeWhile (p : Char → Bool) (l : List Char) :
    l.drop (l.takeWhile p).length = l.dropWhile p := by
  induction l with
  | nil => rfl
  | cons c l ih =>
    cases hp : p c with
    | false => simp [hp]
    | true => simpa [hp] using ih

/-- What a class takes of a text is not changed by more text behind where it stops. -/
theorem takeWhile_append (more : List Char) {p : Char → Bool} {l : List Char}
    (h : l.dropWhile p ≠ [] ∨ p ')' = false) :
    (l ++ ')' :: more).takeWhile p = l.takeWhile p ∧
      (l ++ ')' :: more).dropWhile p = l.dropWhile p ++ ')' :: more := by
  induction l with
  | nil =>
    have hp : p ')' = false := h.resolve_left fun hne => hne rfl
    simp [hp]
  | cons c l ih =>
    cases hp : p c with
    | false => simp [hp]
    | true =>
      obtain ⟨htake, hdrop⟩ := ih (by simpa [hp] using h)
      simp [hp, htake, hdrop]

theorem takeWhile_run (p : Char → Bool) (f : List Char → Reader α) (s : State) :
    (Reader.takeWhile p >>= f) s = f (s.rest.takeWhile p) { s with rest := s.rest.dropWhile p } := by
  rw [← drop_takeWhile]
  rfl

theorem takeWhile_within {p : Char → Bool} (h : s.rest.dropWhile p ≠ [] ∨ p ')' = false)
    (f : List Char → Reader α) :
    (Reader.takeWhile p >>= f) (s.within more before) =
      f (s.rest.takeWhile p) (State.within more before { s with rest := s.rest.dropWhile p }) := by
  obtain ⟨htake, hdrop⟩ := takeWhile_append more h
  rw [takeWhile_run, State.within, htake, hdrop]
  rfl

/-- Characters up to one that is at the latest the parenthesis. -/
theorem takeWhile {p : Char → Bool} (hp : p ')' = false) {f g : List Char → Reader α}
    (h : ∀ taken rest, Carries more before { s with rest } (f taken) (g taken)) :
    Carries more before s (Reader.takeWhile p >>= f) (Reader.takeWhile p >>= g) := by
  have hst : s.Leads { s with rest := s.rest.dropWhile p } := ⟨List.Subset.refl _, id⟩
  exact step hst (takeWhile_run p f s) (takeWhile_within (.inr hp) g) (h _ _)

/-- Characters up to one that has to be there. -/
theorem takeUpTo {p : Char → Bool} {f g : List Char → Reader α}
    (hnil : ∀ taken, ∃ e, f taken { s with rest := [] } = .error e)
    (hcons : ∀ taken c rest, Carries more before { s with rest := c :: rest } (f taken) (g taken)) :
    Carries more before s (Reader.takeWhile p >>= f) (Reader.takeWhile p >>= g) := by
  cases hrest : s.rest.dropWhile p with
  | nil =>
    intro a t h
    rw [takeWhile_run, hrest] at h
    obtain ⟨e, he⟩ := hnil (s.rest.takeWhile p)
    rw [he] at h
    cases h
  | cons c rest =>
    have hst : s.Leads { s with rest := s.rest.dropWhile p } := ⟨List.Subset.refl _, id⟩
    have hne : s.rest.dropWhile p ≠ [] ∨ p ')' = false := .inl (by simp [hrest])
    apply step hst (takeWhile_run p f s) (takeWhile_within hne g)
    rw [hrest]
    exact hcons _ c rest

theorem isPrefixOf_append {b l : List Char} (h : ')' ∉ b) :
    b.isPrefixOf (l ++ ')' :: more) = b.isPrefixOf l := by
  induction b generalizing l with
  | nil => rfl
  | cons c b ih =>
    rw [List.mem_cons, not_or] at h
    cases l with
    | nil => simp [List.isPrefixOf, Ne.symm h.1]
    | cons d l => simp [List.isPrefixOf, ih h.2]

theorem takeIf_run (b : String) (f : Bool → Reader α) (s : State) :
    (Reader.takeIf b >>= f) s =
      if b.toList.isPrefixOf s.rest then f true { s with rest := s.rest.drop b.length }
      else f false s := by
  change (Reader.takeIf b s >>= fun p => f p.1 p.2) = _
  unfold Reader.takeIf
  change ((if b.toList.isPrefixOf s.rest = true then _ else _ : Reader Bool) s >>= _) = _
  split <;> rfl

/-- A beginning without a parenthesis is there or not. -/
theorem takeIf {b : String} (hb : ')' ∉ b.toList) {f g : Bool → Reader α}
    (h : ∀ found rest, Carries more before { s with rest } (f found) (g found)) :
    Carries more before s (Reader.takeIf b >>= f) (Reader.takeIf b >>= g) := by
  have hwithin : b.toList.isPrefixOf (s.within more before).rest = b.toList.isPrefixOf s.rest :=
    isPrefixOf_append hb
  cases hfound : b.toList.isPrefixOf s.rest with
  | false =>
    apply step (.refl s) _ _ (h false s.rest)
    · rw [takeIf_run, hfound, if_neg Bool.false_ne_true]
    · rw [takeIf_run, hwithin, hfound, if_neg Bool.false_ne_true]
  | true =>
    have hst : s.Leads { s with rest := s.rest.drop b.length } := ⟨List.Subset.refl _, id⟩
    have hlength : b.length ≤ s.rest.length := by
      rw [← String.length_toList]
      exact (List.isPrefixOf_iff_prefix.1 hfound).length_le
    apply step hst _ _ (h true _)
    · rw [takeIf_run, hfound, if_pos rfl]
    · rw [takeIf_run, hwithin, hfound, if_pos rfl, State.within, List.drop_append_of_le_length hlength]
      rfl

end Carries

end Parlance.Pattern
