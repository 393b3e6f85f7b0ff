import Parlance.Proofs.Text.Unwords
import Parlance.Proofs.Wake.Windows

/-!
Taking off the wake phrase. Main statement: `strip_detect`, that what matched is taken off as one block of
words, with the filler word before it, and that no other word is lost.
-/

namespace Parlance.Wake

open Text

/-- A match of consecutive words, from the first to the last, which fold to its tokens. -/
structure Match.Covers (m : Match) (ws : List String) (first last : Nat) : Prop where
  first?_eq : m.first? = some first
  last?_eq : m.last? = some last
  ordered : first ≤ last
  inside : last < ws.length
  indices : m.tokens.map MatchedToken.index = List.range' first (last + 1 - first)
  folded : ∀ t ∈ m.tokens, ∃ w, ws[t.index]? = some w ∧ foldToken w = t.token

/-- The word just before another one is a filler word. -/
def FillerBefore (ws : List String) (first : Nat) : Prop :=
  ∃ n w, first = n + 1 ∧ ws[n]? = some w ∧ foldToken w ∈ fillerWords

/-- What is left of words without a block of them, which begins with the filler word before the match if
there is one, and else with the match. -/
structure LeftOver (ws rest : List String) (first last start : Nat) : Prop where
  words : rest = ws.take start ++ ws.drop (last + 1)
  filler : FillerBefore ws first → start + 1 = first
  noFiller : ¬FillerBefore ws first → start = first

variable {o : Options} {u form : String} {start first last : Nat} {score : Float} {via : Via}
  {m : Match} {ws : List String}

theorem length_inputTokens (u : String) : (inputTokens u).length = (words u).length :=
  List.length_map _

theorem Hears.length_window {tokens : List String} (h : Hears o tokens form start score via) :
    (window tokens form start).length = (formTokens form).length := by
  have hinside := h.fits.inside
  rw [window, List.length_take, List.length_drop]
  omega

theorem map_index_matchAt (tokens : List String) (form : String) (start : Nat) (score : Float)
    (via : Via) : (matchAt tokens form start score via).tokens.map MatchedToken.index =
      List.range' start (window tokens form start).length := by
  rw [matchAt, List.map_map]
  exact List.zipIdx_map_snd start _

/-- The words of a window fold to the tokens of its match. -/
theorem exists_word_of_mem_matchAt {t : MatchedToken}
    (h : t ∈ (matchAt (inputTokens u) form start score via).tokens) :
    ∃ w, (words u)[t.index]? = some w ∧ foldToken w = t.token := by
  obtain ⟨⟨token, index⟩, hp, rfl⟩ := List.mem_map.1 h
  obtain ⟨hle, hget⟩ := List.mem_zipIdx_iff_le_and_getElem?_sub.1 hp
  rw [window, List.getElem?_take] at hget
  split at hget
  · rw [List.getElem?_drop, Nat.add_sub_cancel' hle, inputTokens, List.getElem?_map,
      Option.map_eq_some_iff] at hget
    exact hget
  · cases hget

theorem Hears.covers (h : Hears o (inputTokens u) form start score via) :
    (matchAt (inputTokens u) form start score via).Covers (words u) start
      (start + (formTokens form).length - 1) := by
  have hindices := map_index_matchAt (inputTokens u) form start score via
  rw [h.length_window] at hindices
  have hpos := h.fits.pos
  have hinside := h.fits.inside
  rw [length_inputTokens] at hinside
  constructor
  · rw [Match.first?, ← List.head?_map, hindices, List.head?_range', if_neg hpos.ne']
  · rw [Match.last?, ← List.getLast?_map, hindices, List.getLast?_range', if_neg hpos.ne']
  · omega
  · omega
  · rw [hindices]
    congr 1
    omega
  · intro t ht
    exact exists_word_of_mem_matchAt ht

theorem exists_covers_of_detect {l : Listening} {locale : String} {entries : List Entry}
    (h : (detect l locale entries u).result = some m) : ∃ first last, m.Covers (words u) first last := by
  obtain ⟨e, -, form, start, score, via, hhears, rfl⟩ := exists_hears_of_detect h
  exact ⟨_, _, hhears.hears.covers⟩

/-! Taking off. -/

theorem stripStart_of_fillerBefore (h : FillerBefore ws first) : stripStart ws first + 1 = first := by
  obtain ⟨n, w, rfl, hw, hfiller⟩ := h
  rw [stripStart, hw]
  dsimp only
  rw [if_pos (by simpa using hfiller)]

theorem stripStart_of_not_fillerBefore (h : ¬FillerBefore ws first) : stripStart ws first = first := by
  cases first with
  | zero => rfl
  | succ n =>
    rw [stripStart]
    cases hw : ws[n]? with
    | none => rfl
    | some w =>
      dsimp only
      rw [if_neg]
      intro hfiller
      exact h ⟨n, w, rfl, hw, by simpa using hfiller⟩

theorem stripStart_le (ws : List String) (first : Nat) : stripStart ws first ≤ first := by
  by_cases h : FillerBefore ws first
  · exact (Nat.le_succ _).trans (stripStart_of_fillerBefore h).le
  · exact (stripStart_of_not_fillerBefore h).le

theorem Match.Covers.strip_eq (h : m.Covers (words u) first last) :
    strip u (some m) =
      unwords ((words u).take (stripStart (words u) first) ++ (words u).drop (last + 1)) := by
  have hfirst : first < (words u).length := h.ordered.trans_lt h.inside
  unfold strip
  rw [Option.bind_some, Option.bind_some, h.first?_eq, h.last?_eq]
  exact if_neg (Nat.not_le.2 hfirst)

theorem solid_of_mem_rest {i j : Nat} : ∀ w ∈ (words u).take i ++ (words u).drop j, Solid w := by
  intro w hw
  rcases List.mem_append.1 hw with hw | hw
  · exact solid_of_mem_words (List.mem_of_mem_take hw)
  · exact solid_of_mem_words (List.mem_of_mem_drop hw)

theorem Match.Covers.leftOver (h : m.Covers (words u) first last) :
    LeftOver (words u) (words (strip u (some m))) first last (stripStart (words u) first) where
  words := by rw [h.strip_eq, words_unwords solid_of_mem_rest]
  filler := stripStart_of_fillerBefore
  noFiller := stripStart_of_not_fillerBefore

/-- What matched is taken off as one block of words, with the filler word before it, and no other word is
lost. Without a match the utterance is just trimmed. -/
theorem strip_detect (l : Listening) (locale : String) (entries : List Entry) (u : String) :
    match (detect l locale entries u).result with
    | none => strip u none = trim u
    | some m => ∃ first last start, m.Covers (words u) first last ∧
        LeftOver (words u) (words (strip u (some m))) first last start := by
  cases h : (detect l locale entries u).result with
  | none => rfl
  | some m =>
    obtain ⟨first, last, hcovers⟩ := exists_covers_of_detect h
    exact ⟨first, last, _, hcovers, hcovers.leftOver⟩

end Parlance.Wake
