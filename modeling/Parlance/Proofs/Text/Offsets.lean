import Mathlib.Data.List.Nodup
import Parlance.Proofs.Text.Spelling

/-!
The places of tokens. Main statement: `offsets_normalize`, that the tokens of a text stand where its words
do, less the punctuation around them, and that where no token is empty, the text as given from one token
to another has the normalized text between the two when it is normalized again.
-/

namespace Parlance.Text

open Unicode

/-- A word stands in a text from byte `start` on: a stretch between blanks. -/
structure Stands (l : List Char) (start : Nat) (w : List Char) : Prop where
  ne_nil : w ≠ []
  solid : ∀ c ∈ w, ¬isWhiteSpace c
  exists_split : ∃ x y, l = x ++ w ++ y ∧ start = byteLength x ∧
    (∀ c ∈ x.getLast?, isWhiteSpace c) ∧ ∀ c ∈ y.head?, isWhiteSpace c

/-- Where a word stands without the punctuation around it. -/
def coreSpan (start : Nat) (w : List Char) : Span :=
  let first := start + byteLength (w.takeWhile isEdgePunctuation)
  ⟨first, first + byteLength (trimList isEdgePunctuation w)⟩

/-- The tokens of a text stand where its words do. -/
structure Offsets (input : String) (u : Normalized) : Prop where
  words : ∀ t ∈ u.tokens, ∃ start w, Stands input.toList start w ∧ t.original = coreSpan start w ∧
    slice? input t.original.start t.original.stop = some (String.ofList (trimList isEdgePunctuation w))
  complete : ∀ start w, Stands input.toList start w → (∃ c ∈ w, ¬isEdgePunctuation c) →
    ∃ t ∈ u.tokens, t.original = coreSpan start w
  nonempty : ∀ t ∈ u.tokens, t.original.start < t.original.stop
  apart : u.tokens.Pairwise fun t t' => t.original.stop < t'.original.start
  texts : ∀ t ∈ u.tokens, slice? u.text t.normalized.start t.normalized.stop = some t.text

/-- From any token to any later one there is one text as given, which is normalized to the text between
the two. -/
def Reversible (lex : Lexicon) (locale : String) (u : Normalized) : Prop :=
  ∀ (i j : Nat) (t t' : Token), i ≤ j → u.tokens[i]? = some t → u.tokens[j]? = some t' →
    ∃ v, u.originalSpan ⟨t.normalized.start, t'.normalized.stop⟩ = some v ∧
      u.originalTokens ⟨i, j + 1⟩ = some v ∧
      slice? u.text t.normalized.start t'.normalized.stop = some (normalize lex locale v).text

variable {lex : Lexicon} {locale input : String} {l : List Char} {t t' : Token} {ts ts' rest : List Token}
  {ws : List Word} {w : Word} {length pos : Nat} {behind : Bool}

/-! The words of a text. -/

theorem wordsFrom_append_cons {c : Char} (hc : isWhiteSpace c) (pos start : Nat)
    (current x y : List Char) : wordsFrom pos start current (x ++ c :: y) =
      wordsFrom pos start current x ++
        wordsFrom (pos + byteLength (x ++ [c])) (pos + byteLength (x ++ [c])) [] y := by
  induction x generalizing pos start current with
  | nil =>
    rw [List.nil_append, wordsFrom, wordsFrom, if_pos hc]
    split <;> rfl
  | cons d x ih =>
    rw [List.cons_append, wordsFrom, wordsFrom, List.cons_append, byteLength_cons, ← Nat.add_assoc]
    split
    · split
      · exact ih _ _ _
      · rw [ih, List.cons_append]
    · exact ih _ _ _

theorem mem_wordsFrom_append {start : Nat} {v y : List Char} (hne : v ≠ [])
    (hv : ∀ c ∈ v, ¬isWhiteSpace c) (hy : ∀ c ∈ y.head?, isWhiteSpace c) :
    ⟨start, v⟩ ∈ wordsFrom start start [] (v ++ y) := by
  have hword : wordsFrom start start [] v = [⟨start, v⟩] := by
    rw [wordsFrom_of_solid hv, if_neg (by simpa using hne)]
    rfl
  cases y with
  | nil =>
    rw [List.append_nil, hword]
    exact List.mem_cons_self
  | cons c y =>
    rw [wordsFrom_append_cons (hy c rfl), hword]
    exact List.mem_append_left _ List.mem_cons_self

/-- The words of a text are the stretches between blanks. -/
theorem mem_placedWords_iff : w ∈ placedWords input ↔ Stands input.toList w.start w.chars := by
  constructor
  · intro h
    obtain ⟨hne, hsolid⟩ := solid_of_mem_wordsFrom_nil h
    obtain ⟨ws, ws', hws⟩ := List.append_of_mem h
    obtain ⟨x, y, hl, hstart, -, hx, -, hy⟩ :=
      exists_split_of_wordsFrom (List.forall_mem_nil _) rfl hws
    exact ⟨hne, hsolid, x, y, hl, by rw [hstart, Nat.zero_add], hx, hy⟩
  · rintro ⟨hne, hsolid, x, y, hl, hstart, hx, hy⟩
    have hword : w ∈ wordsFrom w.start w.start [] (w.chars ++ y) := mem_wordsFrom_append hne hsolid hy
    rw [placedWords, hl]
    rcases List.eq_nil_or_concat x with rfl | ⟨x, c, rfl⟩
    · rw [hstart] at hword
      exact hword
    · have hc : isWhiteSpace c := hx c (by simp)
      rw [List.concat_eq_append] at hstart
      rw [List.concat_eq_append, List.append_assoc, List.append_assoc, List.singleton_append,
        wordsFrom_append_cons hc, Nat.zero_add, ← hstart]
      exact List.mem_append_right _ hword

/-! Tokens in the text as given. -/

theorem original_tokenOf (length : Nat) (w : Word) (n : NormalizedWord) :
    (tokenOf length w n).original = coreSpan w.start w.chars :=
  rfl

theorem exists_word_of_mem_tokensFrom (h : t ∈ tokensFrom lex locale length ws) :
    ∃ w ∈ ws, (∃ n, normalizeWord lex locale w.text = some n) ∧ t.original = coreSpan w.start w.chars := by
  obtain ⟨ts, ts', hts⟩ := List.append_of_mem h
  obtain ⟨us, w, us', n, length', x, rfl, hn, rfl, -⟩ := exists_split_of_tokensFrom hts
  exact ⟨w, by simp, ⟨n, hn⟩, original_tokenOf length' w n⟩

theorem exists_mem_tokensFrom {n : NormalizedWord} (hw : w ∈ ws)
    (hn : normalizeWord lex locale w.text = some n) :
    ∃ t ∈ tokensFrom lex locale length ws, t.original = coreSpan w.start w.chars := by
  induction ws generalizing length with
  | nil => cases hw
  | cons v ws ih =>
    rw [tokensFrom]
    rcases List.mem_cons.1 hw with rfl | hw
    · rw [hn]
      exact ⟨_, List.mem_cons_self, original_tokenOf length w n⟩
    · cases normalizeWord lex locale v.text with
      | none => exact ih hw
      | some m =>
        obtain ⟨t, ht, hspan⟩ := ih hw
        exact ⟨t, List.mem_cons_of_mem _ ht, hspan⟩

theorem Stands.slice_coreSpan {start : Nat} {v : List Char} (h : Stands input.toList start v) :
    slice? input (coreSpan start v).start (coreSpan start v).stop =
      some (String.ofList (trimList isEdgePunctuation v)) := by
  obtain ⟨-, -, x, y, hl, hstart, -, -⟩ := h
  obtain ⟨b, hv, -⟩ := exists_trimList isEdgePunctuation v
  have hsplit : input.toList = (x ++ v.takeWhile isEdgePunctuation) ++
      trimList isEdgePunctuation v ++ (b ++ y) := by
    refine hl.trans ((congrArg (x ++ · ++ y) hv).trans ?_)
    simp only [List.append_assoc]
  have hslice := slice?_append hsplit
  rw [byteLength_append, ← hstart] at hslice
  exact hslice

/-- Tokens stand one behind the other, with a blank at least between any two. -/
theorem Placed.starts (h : Placed lex locale behind pos l ts) :
    ∀ t ∈ ts, pos ≤ t.original.start ∧ (behind → pos < t.original.start) := by
  induction h with
  | nil => exact List.forall_mem_nil _
  | @cons pos t ts behind gap core l hgap hblank hspells horiginal hrest ih =>
    rw [List.forall_mem_cons, horiginal]
    refine ⟨⟨Nat.le_add_right _ _, fun hbehind => ?_⟩, fun t' ht' => ?_⟩
    · obtain ⟨c, hc, -⟩ := hblank hbehind
      have hpos := byteLength_eq_zero.not.2 (List.ne_nil_of_mem hc)
      dsimp only
      omega
    · have hlt := (ih t' ht').2 rfl
      exact ⟨by omega, fun _ => by omega⟩

theorem Placed.apart (h : Placed lex locale behind pos l ts) :
    ts.Pairwise fun t t' => t.original.stop < t'.original.start := by
  induction h with
  | nil => exact .nil
  | cons hgap hblank hspells horiginal hrest ih =>
    rw [List.pairwise_cons, horiginal]
    exact ⟨fun t' ht' => (hrest.starts t' ht').2 rfl, ih⟩

/-! Tokens in the normalized text. -/

theorem joined_append (length : Nat) (xs ys : List (List Char)) :
    joined length (xs ++ ys) = joined length xs ++ joined (length + byteLength (joined length xs)) ys := by
  induction xs generalizing length with
  | nil => rfl
  | cons x xs ih =>
    have hlength : nextStart length + byteLength x +
        byteLength (joined (nextStart length + byteLength x) xs) =
          length + byteLength (joined length (x :: xs)) := by
      rw [joined, byteLength_append, byteLength_append, nextStart_eq]
      omega
    rw [List.cons_append, joined, ih, hlength, joined]
    simp only [List.append_assoc]

/-- A space stands before each word that is put behind a text that is not empty. -/
theorem joined_congr {m n : Nat} (hm : m ≠ 0) (hn : n ≠ 0) (xs : List (List Char)) :
    joined m xs = joined n xs := by
  induction xs generalizing m n with
  | nil => rfl
  | cons x xs ih =>
    have hnext : ∀ {k}, k ≠ 0 → nextStart k + byteLength x ≠ 0 := by
      intro k hk
      rw [nextStart, if_neg hk]
      omega
    rw [joined, joined, if_neg hm, if_neg hn, ih (hnext hm) (hnext hn)]

theorem exists_joined (h : (normalize lex locale input).tokens = ts ++ t :: ts') :
    ∃ x, (∀ us, joined 0 (textsOf (ts ++ t :: us)) =
        x ++ t.text.toList ++ joined t.normalized.stop (textsOf us)) ∧
      t.normalized.start = byteLength x ∧ t.normalized.stop = byteLength (x ++ t.text.toList) := by
  obtain ⟨_, _, _, _, _, x, -, -, htoken, -, -, hjoined, hstart⟩ := exists_split_of_tokensFrom h
  rw [Nat.zero_add] at hstart
  have hstop : t.normalized.stop = t.normalized.start + byteLength t.text.toList := by
    rw [htoken]
    rfl
  exact ⟨x, hjoined, hstart, by rw [hstop, hstart, byteLength_append]⟩

/-- From one token to a later one, a normalized text is what the tokens between are joined to. -/
theorem slice_between (h : (normalize lex locale input).tokens = ts ++ t :: (rest ++ ts'))
    (hlast : t' ∈ (t :: rest).getLast?) :
    slice? (normalize lex locale input).text t.normalized.start t'.normalized.stop =
      some (String.ofList (t.text.toList ++ joined t.normalized.stop (textsOf rest))) := by
  obtain ⟨x, hjoined, hstart, -⟩ := exists_joined h
  obtain ⟨front, hfront⟩ := List.getLast?_eq_some_iff.1 hlast
  have htokens : (normalize lex locale input).tokens = (ts ++ front) ++ t' :: ts' := by
    rw [h, ← List.cons_append, hfront]
    simp
  obtain ⟨x', hjoined', -, hstop⟩ := exists_joined htokens
  have hupto : x ++ (t.text.toList ++ joined t.normalized.stop (textsOf rest)) =
      x' ++ t'.text.toList := by
    have hlist : ts ++ t :: rest = (ts ++ front) ++ t' :: [] := by
      rw [hfront, List.append_assoc]
    have hboth := congrArg (joined 0 ∘ textsOf) hlist
    simp only [Function.comp] at hboth
    rw [hjoined, hjoined'] at hboth
    simpa [textsOf, joined] using hboth
  have htext : (normalize lex locale input).text.toList =
      x ++ (t.text.toList ++ joined t.normalized.stop (textsOf rest)) ++
        joined (0 + byteLength (joined 0 (textsOf (ts ++ t :: rest)))) (textsOf ts') := by
    have hlist : (normalize lex locale input).tokens = (ts ++ t :: rest) ++ ts' := by
      rw [h, List.append_assoc, List.cons_append]
    rw [toList_text_normalize, hlist, textsOf, List.map_append]
    rw [joined_append]
    congr 1
    exact (hjoined rest).trans (List.append_assoc _ _ _)
  rw [hstart, hstop, ← hupto, byteLength_append]
  exact slice?_append htext

/-- A text made of the words of tokens, the first of which is not empty, is normalized to what these tokens
are joined to. -/
theorem Spelled.text_normalize {v : String} (h : Spelled lex locale (t :: rest) v.toList)
    (ht : t.text ≠ "") (hstop : t.normalized.stop ≠ 0) : (normalize lex locale v).text =
      String.ofList (t.text.toList ++ joined t.normalized.stop (textsOf rest)) := by
  have hlength : nextStart 0 + byteLength t.text.toList ≠ 0 := by
    have hpos : byteLength t.text.toList ≠ 0 := byteLength_eq_zero.not.2 (by simpa using ht)
    omega
  apply String.toList_injective
  rw [toList_text_normalize, textsOf_normalize, h.normalFormsOf, String.toList_ofList, textsOf,
    List.map_cons, joined, joined_congr hlength hstop]
  rfl

theorem normalized_apart (lex : Lexicon) (locale : String) (length : Nat) (ws : List Word) :
    (tokensFrom lex locale length ws).Pairwise fun t t' => t.normalized.stop ≤ t'.normalized.start := by
  induction ws generalizing length with
  | nil => exact .nil
  | cons w ws ih =>
    rw [tokensFrom]
    cases normalizeWord lex locale w.text with
    | none => exact ih length
    | some n => exact .cons (fun t ht => le_start_of_mem_tokensFrom ht) (ih _)

/-! Windows of tokens. -/

/-- The tokens of a window. -/
def Normalized.window (u : Normalized) (w : Span) : List Token :=
  (u.tokens.drop w.start).take (w.stop - w.start)

theorem Normalized.exists_ends_of_window {u : Normalized} {w : Span} (hlt : w.start < w.stop)
    (hle : w.stop ≤ u.tokens.length) : ∃ first rest last,
      u.window w = first :: rest ∧ last ∈ (first :: rest).getLast? ∧
        u.tokens[w.start]? = some first ∧ u.tokens[w.stop - 1]? = some last ∧
          u.tokens = u.tokens.take w.start ++ first :: (rest ++ u.tokens.drop w.stop) := by
  obtain ⟨first, rest, hwindow⟩ : ∃ t ts, u.window w = t :: ts := by
    apply List.exists_cons_of_ne_nil
    rw [Normalized.window, ← List.length_pos_iff, List.length_take, List.length_drop]
    omega
  obtain ⟨last, hlast⟩ : ∃ t, u.tokens[w.stop - 1]? = some t :=
    ⟨_, List.getElem?_eq_getElem (by omega)⟩
  refine ⟨first, rest, last, hwindow, ?_, ?_, hlast, ?_⟩
  · have hindex : w.start + (w.stop - w.start - 1) = w.stop - 1 := by omega
    rw [← hwindow, Normalized.window, List.getLast?_take, if_neg (by omega), List.getElem?_drop, hindex,
      hlast]
    rfl
  · have hhead : (u.window w)[0]? = some first := by rw [hwindow]; rfl
    rwa [Normalized.window, List.getElem?_take_of_lt (by omega), List.getElem?_drop, Nat.add_zero] at hhead
  · have hdrop : u.tokens.drop w.stop = (u.tokens.drop w.start).drop (w.stop - w.start) := by
      rw [List.drop_drop]
      congr 1
      omega
    rw [← List.cons_append, ← hwindow, Normalized.window, hdrop, List.take_append_drop,
      List.take_append_drop]

theorem originalTokens_eq_between {u : Normalized} {w : Span} (hstop : w.stop ≠ 0)
    (ht : u.tokens[w.start]? = some t) (ht' : u.tokens[w.stop - 1]? = some t') :
    u.originalTokens w = u.between t t' := by
  rw [Normalized.originalTokens, ht, ht']
  simp only [if_neg hstop]
  rfl

/-- The text as given from the first to the last token of a window is made of the words of its tokens. -/
theorem exists_originalTokens {w : Span} (hlt : w.start < w.stop)
    (hle : w.stop ≤ (normalize lex locale input).tokens.length) :
    ∃ v, (normalize lex locale input).originalTokens w = some v ∧
      Spelled lex locale ((normalize lex locale input).window w) v.toList := by
  obtain ⟨first, rest, last, hwindow, hend, hfirst, hlast, htokens⟩ :=
    Normalized.exists_ends_of_window hlt hle
  obtain ⟨v, hv, hspells⟩ := spelled_between htokens hend
  rw [originalTokens_eq_between (by omega) hfirst hlast, hwindow]
  exact ⟨v, hv, hspells⟩

/-! Both places of tokens. -/

theorem find?_of_nodup_map {f : Token → Nat} (h : (ts.map f).Nodup) (ht : t ∈ ts) :
    ts.find? (f · = f t) = some t := by
  have hsome : (ts.find? (f · = f t)).isSome := List.find?_isSome.2 ⟨t, ht, by simp⟩
  obtain ⟨t', ht'⟩ := Option.isSome_iff_exists.1 hsome
  have hsame : f t' = f t := by simpa using List.find?_some ht'
  rw [ht', List.inj_on_of_nodup_map h (List.mem_of_find?_eq_some ht') ht hsame]

theorem stop_eq_of_mem (ht : t ∈ (normalize lex locale input).tokens) :
    t.normalized.stop = t.normalized.start + byteLength t.text.toList := by
  obtain ⟨ts, ts', hts⟩ := List.append_of_mem ht
  obtain ⟨x, -, hstart, hstop⟩ := exists_joined hts
  rw [hstop, hstart, byteLength_append]

theorem start_lt_stop (ht : t ∈ (normalize lex locale input).tokens) (hne : t.text ≠ "") :
    t.normalized.start < t.normalized.stop := by
  have hpos : byteLength t.text.toList ≠ 0 := byteLength_eq_zero.not.2 (by simpa using hne)
  have hstop := stop_eq_of_mem ht
  omega

/-- Where no token is empty, each is found by where it starts and by where it stops. -/
theorem originalSpan_eq_between (hne : ∀ t ∈ (normalize lex locale input).tokens, t.text ≠ "")
    (ht : t ∈ (normalize lex locale input).tokens) (ht' : t' ∈ (normalize lex locale input).tokens) :
    (normalize lex locale input).originalSpan ⟨t.normalized.start, t'.normalized.stop⟩ =
      (normalize lex locale input).between t t' := by
  have hapart := normalized_apart lex locale 0 (placedWords input)
  have hstarts : ((normalize lex locale input).tokens.map (·.normalized.start)).Nodup := by
    rw [List.Nodup, List.pairwise_map]
    refine hapart.imp_of_mem fun {t u} ht hu hle => ?_
    have hlt := start_lt_stop ht (hne t ht)
    omega
  have hstops : ((normalize lex locale input).tokens.map (·.normalized.stop)).Nodup := by
    rw [List.Nodup, List.pairwise_map]
    refine hapart.imp_of_mem fun {t u} ht hu hle => ?_
    have hlt := start_lt_stop hu (hne u hu)
    omega
  unfold Normalized.originalSpan
  rw [find?_of_nodup_map hstarts ht, find?_of_nodup_map hstops ht']
  rfl

theorem reversible_normalize (hne : ∀ t ∈ (normalize lex locale input).tokens, t.text ≠ "") :
    Reversible lex locale (normalize lex locale input) := by
  intro i j t t' hij ht ht'
  have hmem := List.mem_of_getElem? ht
  have hmem' := List.mem_of_getElem? ht'
  have hj : j < (normalize lex locale input).tokens.length := (List.getElem?_eq_some_iff.1 ht').1
  obtain ⟨first, rest, last, -, hend, hfirst, hlast, htokens⟩ :=
    Normalized.exists_ends_of_window (w := ⟨i, j + 1⟩) (Nat.lt_succ_of_le hij) hj
  obtain rfl : first = t := Option.some.inj (hfirst.symm.trans ht)
  obtain rfl : last = t' := Option.some.inj (hlast.symm.trans ht')
  obtain ⟨v, hv, hspelled⟩ := spelled_between htokens hend
  have hstop := start_lt_stop hmem (hne first hmem)
  refine ⟨v, ?_, ?_, ?_⟩
  · rw [originalSpan_eq_between hne hmem hmem']
    exact hv
  · rw [originalTokens_eq_between (Nat.succ_ne_zero j) hfirst hlast]
    exact hv
  · rw [slice_between htokens hend, hspelled.text_normalize (hne first hmem) (by omega)]

theorem placed_tokens (lex : Lexicon) (locale input : String) :
    Offsets input (normalize lex locale input) where
  words := by
    intro t ht
    obtain ⟨w, hw, -, horiginal⟩ := exists_word_of_mem_tokensFrom ht
    have hstands := mem_placedWords_iff.1 hw
    exact ⟨w.start, w.chars, hstands, horiginal, horiginal ▸ hstands.slice_coreSpan⟩
  complete := by
    rintro start w hw ⟨c, hc, hkept⟩
    have hmem : (⟨start, w⟩ : Word) ∈ placedWords input := mem_placedWords_iff.2 hw
    cases hn : normalizeWord lex locale (Word.text ⟨start, w⟩) with
    | none =>
      rw [normalizeWord_eq_none_iff, Word.text, String.toList_ofList] at hn
      exact absurd (hn c hc) hkept
    | some n => exact exists_mem_tokensFrom hmem hn
  nonempty := by
    intro t ht
    obtain ⟨w, -, ⟨n, hn⟩, horiginal⟩ := exists_word_of_mem_tokensFrom ht
    have hcore : trimList isEdgePunctuation w.chars ≠ [] := by
      intro hnil
      have hnone : normalizeWord lex locale w.text = none := by
        rw [normalizeWord_eq_none_iff, Word.text, String.toList_ofList]
        exact forall_of_trimList_eq_nil hnil
      rw [hnone] at hn
      cases hn
    have hpos := byteLength_eq_zero.not.2 hcore
    rw [horiginal, coreSpan]
    dsimp only
    omega
  apart := (placed_normalize lex locale input).apart
  texts := by
    intro t ht
    obtain ⟨ts, ts', hts⟩ := List.append_of_mem ht
    have halone : (normalize lex locale input).tokens = ts ++ t :: ([] ++ ts') := hts
    have hslice := slice_between halone rfl
    rw [textsOf, List.map_nil, joined, List.append_nil, String.ofList_toList] at hslice
    exact hslice

/-- Tokens stand where words do, in the text as given and in the normalized one, and where none is empty
the one text can be told from the other. -/
theorem offsets_normalize (lex : Lexicon) (locale input : String) :
    Offsets input (normalize lex locale input) ∧
      ((∀ t ∈ (normalize lex locale input).tokens, t.text ≠ "") →
        Reversible lex locale (normalize lex locale input)) :=
  ⟨placed_tokens lex locale input, reversible_normalize⟩

/-- Two words stand for the first one. -/
theorem offsets_normalize_add :
    let lex := Lexicon.empty.register "es" "añade" "crear uno"
    let u := normalize lex "es" "¡Añade,  dos sillas!"
    u.text = "crear uno dos sillas" ∧ (∀ t ∈ u.tokens, t.text ≠ "") ∧ Reversible lex "es" u := by
  intro lex u
  have htext : u.text = "crear uno dos sillas" := by decide +kernel
  have hne : ∀ t ∈ u.tokens, t.text ≠ "" := by decide +kernel
  obtain ⟨-, hreversible⟩ := offsets_normalize lex "es" "¡Añade,  dos sillas!"
  exact ⟨htext, hne, hreversible hne⟩

end Parlance.Text
