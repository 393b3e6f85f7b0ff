import Mathlib.Data.List.Induction
import Mathlib.Data.List.TakeWhile
import Parlance.Text.Words

/-!
The words of a text: how they come apart at blanks, where they stand, and what trimming leaves of
them. Main statements: `wordsOf_append_cons`, that a text falls apart at each blank, and
`exists_split_of_wordsFrom`, which tells the text around a word.
-/

namespace Parlance.Text

open Unicode

/-! Trimming. -/

variable {p : Char → Bool}

theorem dropWhile_append_of_all {a : List Char} (ha : ∀ c ∈ a, p c) (l : List Char) :
    (a ++ l).dropWhile p = l.dropWhile p := by
  induction a with
  | nil => rfl
  | cons c a ih =>
    rw [List.cons_append, List.dropWhile_cons_of_pos (ha c List.mem_cons_self),
      ih fun d hd => ha d (List.mem_cons_of_mem _ hd)]

theorem dropWhile_append_of_not_all {l : List Char} (hl : ¬∀ c ∈ l, p c) (b : List Char) :
    (l ++ b).dropWhile p = l.dropWhile p ++ b := by
  induction l with
  | nil => exact absurd (List.forall_mem_nil _) hl
  | cons c l ih =>
    by_cases hc : p c
    · rw [List.cons_append, List.dropWhile_cons_of_pos hc, List.dropWhile_cons_of_pos hc,
        ih fun h => hl (by simpa [hc] using h)]
    · rw [List.cons_append, List.dropWhile_cons_of_neg hc, List.dropWhile_cons_of_neg hc]
      rfl

theorem trimList_append {a b : List Char} (ha : ∀ c ∈ a, p c) (hb : ∀ c ∈ b, p c) (l : List Char) :
    trimList p (a ++ l ++ b) = trimList p l := by
  unfold trimList
  rw [List.append_assoc, dropWhile_append_of_all ha]
  by_cases hl : ∀ c ∈ l, p c
  · have hlb : ∀ c ∈ l ++ b, p c := by
      intro c hc
      rcases List.mem_append.1 hc with hc | hc
      · exact hl c hc
      · exact hb c hc
    rw [List.dropWhile_eq_nil_iff.2 hlb, List.dropWhile_eq_nil_iff.2 hl]
  · rw [dropWhile_append_of_not_all hl, List.reverse_append,
      dropWhile_append_of_all (by simpa using hb)]

/-- A text is what is left of it when trimmed, between two stretches of the class. -/
theorem exists_trimList (p : Char → Bool) (l : List Char) :
    ∃ b, l = l.takeWhile p ++ trimList p l ++ b ∧ ∀ c ∈ b, p c := by
  refine ⟨((l.dropWhile p).reverse.takeWhile p).reverse, ?_, fun c hc => ?_⟩
  · rw [trimList, List.append_assoc, ← List.reverse_append, List.takeWhile_append_dropWhile,
      List.reverse_reverse, List.takeWhile_append_dropWhile]
  · exact List.mem_takeWhile_imp (List.mem_reverse.1 hc)

@[simp] theorem trimList_trimList (p : Char → Bool) (l : List Char) :
    trimList p (trimList p l) = trimList p l := by
  obtain ⟨b, hl, hb⟩ := exists_trimList p l
  have h := congrArg (trimList p) hl
  rw [trimList_append (fun c hc => List.mem_takeWhile_imp hc) hb] at h
  exact h.symm

theorem trimList_eq_self {l : List Char} (hhead : ∀ c ∈ l.head?, ¬p c)
    (hlast : ∀ c ∈ l.getLast?, ¬p c) : trimList p l = l := by
  cases l with
  | nil => rfl
  | cons c l =>
    rw [trimList, List.dropWhile_cons_of_neg (hhead c rfl)]
    cases hr : (c :: l).reverse with
    | nil => simp at hr
    | cons d r =>
      have hd : (c :: l).getLast? = some d := by rw [List.getLast?_eq_head?_reverse, hr]; rfl
      rw [List.dropWhile_cons_of_neg (hlast d hd), ← hr, List.reverse_reverse]

theorem forall_of_trimList_eq_nil {l : List Char} (h : trimList p l = []) : ∀ c ∈ l, p c := by
  obtain ⟨b, hl, hb⟩ := exists_trimList p l
  intro c hc
  rw [hl, h, List.append_nil] at hc
  exact (List.mem_append.1 hc).elim (fun hc => List.mem_takeWhile_imp hc) (hb c)

theorem length_trimList_le (p : Char → Bool) (l : List Char) : (trimList p l).length ≤ l.length := by
  obtain ⟨b, hl, -⟩ := exists_trimList p l
  have h := congrArg List.length hl
  simp only [List.length_append] at h
  omega

theorem trimList_eq_self_iff {l : List Char} :
    trimList p l = l ↔ (∀ c ∈ l.head?, ¬p c) ∧ ∀ c ∈ l.getLast?, ¬p c := by
  refine ⟨fun h => ⟨fun c hc hp => ?_, fun c hc hp => ?_⟩, fun h => trimList_eq_self h.1 h.2⟩
  · obtain ⟨r, rfl⟩ : ∃ r, l = [c] ++ r := List.head?_eq_some_iff.1 hc
    have hr := length_trimList_le p r
    have hcut := trimList_append (p := p) (a := [c]) (b := []) (by simpa using hp) (by simp) r
    rw [List.append_nil, h] at hcut
    rw [← hcut, List.length_append, List.length_singleton] at hr
    omega
  · obtain ⟨r, rfl⟩ := List.getLast?_eq_some_iff.1 hc
    have hr := length_trimList_le p r
    have hcut := trimList_append (p := p) (a := []) (b := [c]) (by simp) (by simpa using hp) r
    rw [List.nil_append, h] at hcut
    rw [← hcut, List.length_append, List.length_singleton] at hr
    omega

@[simp] theorem toList_trim (s : String) : (trim s).toList = trimList isWhiteSpace s.toList := by
  rw [trim, trimWhere, String.toList_ofList]

theorem trim_of_solid {s : String} (h : ∀ c ∈ s.toList, ¬isWhiteSpace c) : trim s = s := by
  apply String.toList_injective
  rw [toList_trim]
  exact trimList_eq_self (fun c hc => h c (List.mem_of_mem_head? hc))
    fun c hc => h c (List.mem_of_getLast? hc)

@[simp] theorem trim_trim (s : String) : trim (trim s) = trim s := by
  apply String.toList_injective
  rw [toList_trim, toList_trim, trimList_trimList]

theorem isBlank_iff {s : String} : isBlank s = true ↔ trim s = "" := by
  rw [isBlank, List.all_eq_true, ← String.toList_eq_nil_iff, toList_trim]
  refine ⟨fun h => ?_, forall_of_trimList_eq_nil⟩
  rw [trimList, List.dropWhile_eq_nil_iff.2 h]
  rfl

/-! Lengths in bytes. -/

@[simp] theorem byteLength_nil : byteLength [] = 0 := rfl

@[simp] theorem byteLength_cons (c : Char) (l : List Char) :
    byteLength (c :: l) = c.utf8Size + byteLength l := rfl

@[simp] theorem byteLength_append (l r : List Char) :
    byteLength (l ++ r) = byteLength l + byteLength r := by
  induction l with
  | nil => rw [List.nil_append, byteLength_nil, Nat.zero_add]
  | cons c l ih => rw [List.cons_append, byteLength_cons, byteLength_cons, ih, Nat.add_assoc]

@[simp] theorem byteLength_reverse (l : List Char) : byteLength l.reverse = byteLength l := by
  induction l with
  | nil => rfl
  | cons c l ih =>
    rw [List.reverse_cons, byteLength_append, ih, byteLength_cons, byteLength_cons, byteLength_nil,
      Nat.add_zero, Nat.add_comm]

theorem byteLength_eq_zero {l : List Char} : byteLength l = 0 ↔ l = [] := by
  cases l with
  | nil => simp
  | cons c l => simp [(Char.utf8Size_pos c).ne']

/-- Beginnings of one text with as many bytes are one. -/
theorem eq_of_byteLength_eq {l r l' r' : List Char} (h : l ++ r = l' ++ r')
    (hlen : byteLength l = byteLength l') : l = l' := by
  induction l generalizing l' with
  | nil => exact (byteLength_eq_zero.1 hlen.symm).symm
  | cons c l ih =>
    cases l' with
    | nil => exact absurd (byteLength_eq_zero.1 hlen) (by simp)
    | cons d l' =>
      obtain ⟨rfl, hrest⟩ := List.cons.inj h
      rw [byteLength_cons, byteLength_cons] at hlen
      rw [ih hrest (by omega)]

theorem dropBytes?_append (x r : List Char) : dropBytes? (x ++ r) (byteLength x) = some r := by
  induction x with
  | nil => cases r <;> rfl
  | cons c x ih =>
    obtain ⟨n, hn⟩ := Nat.exists_eq_succ_of_ne_zero (byteLength_eq_zero.not.2 (List.cons_ne_nil c x))
    have hstep : dropBytes? (c :: (x ++ r)) (n + 1) =
        if c.utf8Size ≤ n + 1 then dropBytes? (x ++ r) (n + 1 - c.utf8Size) else none := rfl
    rw [hn, List.cons_append, hstep, ← Nat.succ_eq_add_one, ← hn, byteLength_cons,
      if_pos (Nat.le_add_right _ _), Nat.add_sub_cancel_left, ih]

theorem takeBytes?_append (x r : List Char) : takeBytes? (x ++ r) (byteLength x) = some x := by
  induction x with
  | nil => cases r <;> rfl
  | cons c x ih =>
    obtain ⟨n, hn⟩ := Nat.exists_eq_succ_of_ne_zero (byteLength_eq_zero.not.2 (List.cons_ne_nil c x))
    have hstep : takeBytes? (c :: (x ++ r)) (n + 1) =
        if c.utf8Size ≤ n + 1 then (takeBytes? (x ++ r) (n + 1 - c.utf8Size)).map (c :: ·)
        else none := rfl
    rw [hn, List.cons_append, hstep, ← Nat.succ_eq_add_one, ← hn, byteLength_cons,
      if_pos (Nat.le_add_right _ _), Nat.add_sub_cancel_left, ih]
    rfl

theorem slice?_append {s : String} {x y z : List Char} (h : s.toList = x ++ y ++ z) :
    slice? s (byteLength x) (byteLength x + byteLength y) = some (String.ofList y) := by
  rw [slice?, if_pos (Nat.le_add_right _ _), h, List.append_assoc, dropBytes?_append,
    Nat.add_sub_cancel_left]
  change (takeBytes? (y ++ z) (byteLength y)).bind _ = _
  rw [takeBytes?_append]
  rfl

/-! Words. -/

/-- The words of a text as lists of characters. -/
def wordsOf (l : List Char) : List (List Char) :=
  (wordsFrom 0 0 [] l).map Word.chars

theorem map_chars_wordsFrom (pos start pos' start' : Nat) (current l : List Char) :
    (wordsFrom pos start current l).map Word.chars =
      (wordsFrom pos' start' current l).map Word.chars := by
  induction l generalizing pos start pos' start' current with
  | nil =>
    rw [wordsFrom, wordsFrom]
    split <;> rfl
  | cons c l ih =>
    rw [wordsFrom, wordsFrom]
    split
    · split
      · exact ih _ _ _ _ _
      · rw [List.map_cons, List.map_cons, ih]
    · exact ih _ _ _ _ _

theorem map_chars_wordsFrom_append {c : Char} (hc : isWhiteSpace c) (pos start : Nat)
    (current x y : List Char) :
    (wordsFrom pos start current (x ++ c :: y)).map Word.chars =
      (wordsFrom pos start current x).map Word.chars ++ wordsOf y := by
  induction x generalizing pos start current with
  | nil =>
    rw [List.nil_append, wordsFrom, wordsFrom, if_pos hc]
    split
    · exact map_chars_wordsFrom _ _ _ _ _ _
    · exact congrArg _ (map_chars_wordsFrom _ _ _ _ _ _)
  | cons d x ih =>
    rw [List.cons_append, wordsFrom, wordsFrom]
    split
    · split
      · exact ih _ _ _
      · rw [List.map_cons, List.map_cons, ih, List.cons_append]
    · exact ih _ _ _

/-- A text falls apart at each blank. -/
theorem wordsOf_append_cons {c : Char} (hc : isWhiteSpace c) (x y : List Char) :
    wordsOf (x ++ c :: y) = wordsOf x ++ wordsOf y :=
  map_chars_wordsFrom_append hc 0 0 [] x y

@[simp] theorem wordsOf_nil : wordsOf [] = [] := rfl

theorem wordsOf_cons_blank {c : Char} (hc : isWhiteSpace c) (y : List Char) :
    wordsOf (c :: y) = wordsOf y :=
  wordsOf_append_cons hc [] y

/-- A text has the words of its parts where the second begins with a blank, if with anything. -/
theorem wordsOf_append_of_head {r : List Char} (hr : ∀ c ∈ r.head?, isWhiteSpace c) (l : List Char) :
    wordsOf (l ++ r) = wordsOf l ++ wordsOf r := by
  cases r with
  | nil => simp
  | cons c r =>
    have hc := hr c rfl
    rw [wordsOf_append_cons hc, wordsOf_cons_blank hc]

theorem wordsOf_append_of_last {l : List Char} (hl : ∀ c ∈ l.getLast?, isWhiteSpace c)
    (r : List Char) : wordsOf (l ++ r) = wordsOf l ++ wordsOf r := by
  rcases List.eq_nil_or_concat l with rfl | ⟨l, c, rfl⟩
  · rfl
  · have hc : isWhiteSpace c := hl c (by simp)
    rw [List.concat_eq_append, List.append_assoc, List.singleton_append, wordsOf_append_cons hc,
      wordsOf_append_of_head (by simpa using hc), wordsOf_cons_blank hc, wordsOf_nil, List.append_nil]

theorem wordsOf_blank {l : List Char} (h : ∀ c ∈ l, isWhiteSpace c) : wordsOf l = [] := by
  induction l with
  | nil => rfl
  | cons c l ih =>
    rw [wordsOf_cons_blank (h c List.mem_cons_self), ih fun d hd => h d (List.mem_cons_of_mem _ hd)]

theorem wordsOf_blank_append {b : List Char} (hb : ∀ c ∈ b, isWhiteSpace c) (l : List Char) :
    wordsOf (b ++ l) = wordsOf l := by
  rw [wordsOf_append_of_last (fun c hc => hb c (List.mem_of_getLast? hc)), wordsOf_blank hb,
    List.nil_append]

theorem wordsOf_append_blank {b : List Char} (hb : ∀ c ∈ b, isWhiteSpace c) (l : List Char) :
    wordsOf (l ++ b) = wordsOf l := by
  rw [wordsOf_append_of_head (fun c hc => hb c (List.mem_of_mem_head? hc)), wordsOf_blank hb,
    List.append_nil]

theorem wordsOf_between {b r : List Char} (hb : ∀ c ∈ b, isWhiteSpace c)
    (hr : ∀ c ∈ r.head?, isWhiteSpace c) (l : List Char) :
    wordsOf (b ++ l ++ r) = wordsOf l ++ wordsOf r := by
  rw [List.append_assoc, wordsOf_blank_append hb, wordsOf_append_of_head hr]

theorem wordsFrom_of_solid {l : List Char} (h : ∀ c ∈ l, ¬isWhiteSpace c) (pos start : Nat)
    (current : List Char) :
    wordsFrom pos start current l =
      if (l.reverse ++ current).isEmpty then [] else [⟨start, current.reverse ++ l⟩] := by
  induction l generalizing pos current with
  | nil => rw [wordsFrom]; simp
  | cons c l ih =>
    rw [wordsFrom, if_neg (h c List.mem_cons_self), ih fun d hd => h d (List.mem_cons_of_mem _ hd)]
    simp

theorem wordsOf_of_solid {l : List Char} (hne : l ≠ []) (h : ∀ c ∈ l, ¬isWhiteSpace c) :
    wordsOf l = [l] := by
  rw [wordsOf, wordsFrom_of_solid h, if_neg (by simpa using hne)]
  rfl

@[simp] theorem wordsOf_trimList (l : List Char) : wordsOf (trimList isWhiteSpace l) = wordsOf l := by
  obtain ⟨b, hl, hb⟩ := exists_trimList isWhiteSpace l
  have he := congrArg wordsOf hl
  rw [wordsOf_append_blank hb, wordsOf_blank_append fun c hc => List.mem_takeWhile_imp hc]
    at he
  exact he.symm

@[simp] theorem wordsOf_trim (s : String) : wordsOf (trim s).toList = wordsOf s.toList := by
  rw [toList_trim, wordsOf_trimList]

theorem solid_of_mem_wordsFrom {pos start : Nat} {current l : List Char}
    (hcurrent : ∀ c ∈ current, ¬isWhiteSpace c) {w : Word} (h : w ∈ wordsFrom pos start current l) :
    w.chars ≠ [] ∧ ∀ c ∈ w.chars, ¬isWhiteSpace c := by
  have hword : ¬current.isEmpty → current.reverse ≠ [] ∧ ∀ c ∈ current.reverse, ¬isWhiteSpace c :=
    fun hne => ⟨by simpa using hne, by simpa using hcurrent⟩
  induction l generalizing pos start current with
  | nil =>
    rw [wordsFrom] at h
    split at h
    · cases h
    · rw [List.mem_singleton.1 h]
      exact hword ‹_›
  | cons c l ih =>
    rw [wordsFrom] at h
    split at h
    · split at h
      · exact ih (List.forall_mem_nil _) h (by simp)
      · rcases List.mem_cons.1 h with rfl | h
        · exact hword ‹_›
        · exact ih (List.forall_mem_nil _) h (by simp)
    · rename_i hc
      have hcurrent' : ∀ d ∈ c :: current, ¬isWhiteSpace d := List.forall_mem_cons.2 ⟨hc, hcurrent⟩
      exact ih hcurrent' h fun _ => ⟨by simp, fun d hd => hcurrent' d (List.mem_reverse.1 hd)⟩

theorem solid_of_mem_wordsFrom_nil {pos start : Nat} {l : List Char} {w : Word}
    (h : w ∈ wordsFrom pos start [] l) : w.chars ≠ [] ∧ ∀ c ∈ w.chars, ¬isWhiteSpace c :=
  solid_of_mem_wordsFrom (List.forall_mem_nil _) h

/-- A text ends with a word, or with a blank and an empty word. -/
theorem exists_last_word (l : List Char) :
    ∃ r a, l = r ++ a ∧ (∀ c ∈ r.getLast?, isWhiteSpace c) ∧ ∀ c ∈ a, ¬isWhiteSpace c := by
  induction l using List.reverseRecOn with
  | nil => exact ⟨[], [], rfl, by simp, by simp⟩
  | append_singleton l c ih =>
    by_cases hc : isWhiteSpace c
    · exact ⟨l ++ [c], [], by simp, by simpa using hc, by simp⟩
    · obtain ⟨r, a, rfl, hr, ha⟩ := ih
      refine ⟨r, a ++ [c], by simp, hr, fun d hd => ?_⟩
      rcases List.mem_append.1 hd with hd | hd
      · exact ha d hd
      · rwa [List.mem_singleton.1 hd]

/-- A text starts with a word, or with an empty word and a blank. -/
theorem exists_first_word (l : List Char) :
    ∃ a r, l = a ++ r ∧ (∀ c ∈ a, ¬isWhiteSpace c) ∧ ∀ c ∈ r.head?, isWhiteSpace c := by
  induction l with
  | nil => exact ⟨[], [], rfl, by simp, by simp⟩
  | cons c l ih =>
    by_cases hc : isWhiteSpace c
    · exact ⟨[], c :: l, rfl, by simp, by simpa using hc⟩
    · obtain ⟨a, r, rfl, ha, hr⟩ := ih
      exact ⟨c :: a, r, rfl, List.forall_mem_cons.2 ⟨hc, ha⟩, hr⟩

theorem blank_of_mem_getLast? {c : Char} {x : List Char} (hc : isWhiteSpace c)
    (hx : ∀ d ∈ x.getLast?, isWhiteSpace d) (r : List Char) :
    ∀ d ∈ (r ++ c :: x).getLast?, isWhiteSpace d := by
  intro d hd
  cases x with
  | nil =>
    obtain rfl : c = d := by simpa using hd
    exact hc
  | cons e x => exact hx d (by simpa using hd)

/-- A text is what stands before one of its words, the word, and what stands behind it. -/
theorem exists_split_of_wordsFrom {pos start : Nat} {current l : List Char}
    (hcurrent : ∀ c ∈ current, ¬isWhiteSpace c) (hpos : start + byteLength current = pos)
    {ws ws' : List Word} {w : Word} (h : wordsFrom pos start current l = ws ++ w :: ws') :
    ∃ x y, current.reverse ++ l = x ++ w.chars ++ y ∧ w.start = start + byteLength x ∧
      wordsOf x = ws.map Word.chars ∧ (∀ c ∈ x.getLast?, isWhiteSpace c) ∧
      ws' = wordsFrom w.stop w.stop [] y ∧ ∀ c ∈ y.head?, isWhiteSpace c := by
  induction l generalizing pos start current ws with
  | nil =>
    rw [wordsFrom] at h
    split at h
    · simp at h
    · obtain ⟨rfl, hw, rfl⟩ : ws = [] ∧ w = ⟨start, current.reverse⟩ ∧ ws' = [] := by
        cases ws <;> simp_all
      exact ⟨[], [], by simp [hw], by simp [hw], rfl, by simp, rfl, by simp⟩
  | cons c l ih =>
    rw [wordsFrom] at h
    split at h
    · rename_i hc
      have hnil : ∀ d ∈ ([] : List Char), ¬isWhiteSpace d := List.forall_mem_nil _
      have hnext : pos + c.utf8Size + byteLength [] = pos + c.utf8Size := rfl
      split at h
      · rename_i hempty
        obtain rfl := List.isEmpty_iff.1 hempty
        obtain ⟨x, y, hl, hstart, hx, hlast, hy⟩ := ih hnil hnext h
        refine ⟨c :: x, y, by simpa using hl, ?_, by rw [wordsOf_cons_blank hc, hx],
          blank_of_mem_getLast? hc hlast [], hy⟩
        rw [hstart, byteLength_cons, ← hpos, byteLength_nil, Nat.add_zero, Nat.add_assoc]
      · rename_i hne
        cases ws with
        | nil =>
          obtain ⟨rfl, rfl⟩ := List.cons.inj h
          have hstop : Word.stop ⟨start, current.reverse⟩ = pos := by
            rw [Word.stop, byteLength_reverse, hpos]
          refine ⟨[], c :: l, by simp, rfl, rfl, by simp, ?_, by simpa using hc⟩
          rw [hstop, wordsFrom, if_pos hc]
          rfl
        | cons v ws =>
          obtain ⟨rfl, hrest⟩ := List.cons.inj h
          obtain ⟨x, y, hl, hstart, hx, hlast, hy⟩ := ih hnil hnext hrest
          refine ⟨current.reverse ++ c :: x, y, by simpa using hl, ?_, ?_,
            blank_of_mem_getLast? hc hlast _, hy⟩
          · rw [hstart, byteLength_append, byteLength_cons, byteLength_reverse]
            omega
          · rw [wordsOf_append_cons hc, hx, wordsOf_of_solid (by simpa using hne)
              (by simpa using hcurrent)]
            rfl
    · rename_i hc
      obtain ⟨x, y, hl, hrest⟩ :=
        ih (List.forall_mem_cons.2 ⟨hc, hcurrent⟩) (by rw [byteLength_cons]; omega) h
      exact ⟨x, y, by simpa using hl, hrest⟩

theorem map_chars_wordsFrom_map {f : Char → Char}
    (hf : ∀ c, isWhiteSpace (f c) = isWhiteSpace c) (pos start pos' start' : Nat)
    (current l : List Char) :
    (wordsFrom pos start (current.map f) (l.map f)).map Word.chars =
      ((wordsFrom pos' start' current l).map Word.chars).map (List.map f) := by
  induction l generalizing pos start pos' start' current with
  | nil =>
    rw [List.map_nil, wordsFrom, wordsFrom, List.isEmpty_map]
    split
    · rfl
    · simp
  | cons c l ih =>
    rw [List.map_cons, wordsFrom, wordsFrom, hf, List.isEmpty_map]
    split
    · split
      · exact ih _ _ _ _ []
      · rw [List.map_cons, List.map_cons, List.map_cons, List.map_reverse]
        exact congrArg _ (ih _ _ _ _ [])
    · exact ih _ _ _ _ (c :: current)

/-- A change of characters that leaves the blanks alone changes the words alike. -/
theorem wordsOf_map {f : Char → Char} (hf : ∀ c, isWhiteSpace (f c) = isWhiteSpace c)
    (l : List Char) : wordsOf (l.map f) = (wordsOf l).map (List.map f) :=
  map_chars_wordsFrom_map hf 0 0 0 0 [] l

end Parlance.Text
