import Parlance.Proofs.Calendar.Written
import Parlance.Proofs.Text.Casing
import Parlance.Proofs.Text.FoldedWords
import Parlance.Slot.Reading

/-!
Slot texts in other spellings. Main statements, by the kind of slot: `readNumber_congr`,
`isSome_readChoice_of_fold`, `readBoolean_of_isSome`, `readDate_of_isSome` and `readRange_congr`, that what is
read of a text is read of its other spellings.
-/

namespace Parlance.Slot

open Text Unicode

variable {raw raw' locale : String} {context : Context} {l l' : List Char} {c c' : Char}

/-! Numbers. -/

theorem filter_numeral (l : List Char) :
    ((l.map fun c => if c = ',' then '.' else c).filter fun c =>
        c.isDigit || c = '.' || c = '-' || c = '+') =
      (l.filter isNumeral).map fun c => if c = ',' then '.' else c := by
  rw [List.filter_map]
  congr 1
  apply List.filter_congr
  intro c _
  by_cases hcomma : c = ','
  · subst hcomma
    decide
  · simp [isNumeral, hcomma]

/-- Numbers are read of digits, signs, points and commas alone. -/
theorem readNumber_congr (h : raw.toList.filter isNumeral = raw'.toList.filter isNumeral) :
    readNumber raw = readNumber raw' := by
  rw [readNumber, readNumber, filter_numeral, filter_numeral, h]

/-! Single words. -/

/-- A text without sigmas. -/
def Unsigma (s : String) : Prop :=
  ∀ c ∈ s.toList, c ≠ 'σ' ∧ c ≠ 'ς'

instance (s : String) : Decidable (Unsigma s) :=
  decidable_of_iff (s.toList.all fun c => c != 'σ' && c != 'ς') (by simp [Unsigma])

theorem map_medial_eq_iff {r : List Char} (hr : ∀ c ∈ r, c ≠ 'σ' ∧ c ≠ 'ς') :
    l.map medial = r ↔ l = r := by
  induction l generalizing r with
  | nil => rfl
  | cons c l ih =>
    cases r with
    | nil => simp
    | cons d r =>
      obtain ⟨⟨hmiddle, hfinal⟩, hrest⟩ := List.forall_mem_cons.1 hr
      rw [List.map_cons, List.cons.injEq, List.cons.injEq, ih hrest, medial]
      split
      · rename_i hc
        rw [hc]
        simp [hmiddle.symm, hfinal.symm]
      · rfl

/-- Texts that differ in the forms of sigmas alone are equal if one has none. -/
theorem fold_eq_of_uncased {a b : String} (h : uncased a.toList = uncased b.toList)
    (hb : Unsigma (fold b)) : fold a = fold b := by
  have hself : (fold b).toList.map medial = (fold b).toList := (map_medial_eq_iff hb).2 rfl
  apply String.toList_injective
  rw [← map_medial_eq_iff hb, map_medial_fold, h, ← map_medial_fold, hself]

theorem mem_wordsOfLocale {α : Type} {x : α} {spanish english : List α} :
    x ∈ wordsOfLocale locale spanish english ↔ x ∈ spanish ∨ x ∈ english := by
  rw [wordsOfLocale]
  split <;> simp [or_comm]

/-- The words that are known have no sigmas. -/
structure WordChecks : Prop where
  answers : ∀ e ∈ spanishAnswers ++ englishAnswers, Unsigma e.1
  days : ∀ e ∈ spanishDays ++ englishDays, Unsigma e.1
  range : ∀ ws ∈ [spanishRange, englishRange], ∀ k ∈ ws.leads ++ ws.connectors, Unsigma k

theorem wordChecks : WordChecks := by
  constructor <;> decide +kernel

theorem unsigma_of_isSome_lookup {α : Type} {k : String} {spanish english : List (String × α)}
    (hwords : ∀ e ∈ spanish ++ english, Unsigma e.1)
    (h : ((wordsOfLocale locale spanish english).lookup k).isSome) : Unsigma k := by
  obtain ⟨e, he, hkey⟩ := List.lookup_isSome_iff.1 h
  rw [eq_of_beq hkey]
  exact hwords e (List.mem_append.2 (mem_wordsOfLocale.1 he))

/-- An answer is read of every spelling. -/
theorem readBoolean_of_isSome (h : uncased (trim raw').toList = uncased (trim raw).toList)
    (hsome : (readBoolean locale raw).isSome) : readBoolean locale raw' = readBoolean locale raw := by
  have hword : Unsigma (fold (trim raw)) := unsigma_of_isSome_lookup wordChecks.answers hsome
  rw [readBoolean, readBoolean, fold_eq_of_uncased h hword]

theorem unsigma_of_read? {s : String} {d : Calendar.Date} (h : Calendar.Date.read? false s = some d) :
    Unsigma s := by
  intro c hc
  have hchar := Calendar.Date.isDateChar_of_read? h c hc
  constructor
  · rintro rfl
    exact absurd hchar (by decide)
  · rintro rfl
    exact absurd hchar (by decide)

theorem unsigma_of_readDate (hsome : (readDate context raw).isSome) : Unsigma (fold (trim raw)) := by
  unfold readDate at hsome
  dsimp only at hsome
  split at hsome
  · obtain ⟨d, hd⟩ := Option.isSome_iff_exists.1 hsome
    exact unsigma_of_read? hd
  · cases hlookup : (wordsOfLocale context.locale spanishDays englishDays).lookup (fold (trim raw)) with
    | none =>
      rw [hlookup] at hsome
      cases hsome
    | some n => exact unsigma_of_isSome_lookup wordChecks.days (Option.isSome_of_eq_some hlookup)

/-- A date is read of every spelling. -/
theorem readDate_of_isSome (h : uncased (trim raw').toList = uncased (trim raw).toList)
    (hsome : (readDate context raw).isSome) : readDate context raw' = readDate context raw := by
  rw [readDate, readDate, fold_eq_of_uncased h (unsigma_of_readDate hsome)]

/-- A choice is read of every word that is folded to the same. -/
theorem isSome_readChoice_of_fold {options : List String} (hne : trim raw' ≠ "")
    (h : fold (lowercase (trim raw')) = fold (lowercase (trim raw)))
    (hsome : (readChoice options raw).isSome) : (readChoice options raw').isSome := by
  unfold readChoice at hsome ⊢
  dsimp only at hsome ⊢
  have hfilled : (lowercase (trim raw')).isEmpty = false := by
    rw [Bool.eq_false_iff, ne_eq, String.isEmpty_iff, lowercase_eq_empty_iff]
    exact hne
  rw [hfilled, h]
  split at hsome
  · cases hsome
  · simp only [Bool.false_eq_true, if_false]
    split at hsome
    · rw [if_pos ‹_›]
      rfl
    · rw [if_neg ‹_›, Option.isSome_map]
      rwa [Option.isSome_map] at hsome

/-! Ranges. -/

/-- The bounds that stand on the sides of a dash. -/
def readSides (left right : List Char) : Option (Float × Float) :=
  if left.all isWhiteSpace || right.all isWhiteSpace then none
  else do
    let least ← readNumber (String.ofList left)
    let most ← readNumber (String.ofList right)
    some (least, most)

theorem readSides_congr {left right left' right' : List Char}
    (hleft : left.filter isNumeral = left'.filter isNumeral)
    (hright : right.filter isNumeral = right'.filter isNumeral)
    (hblank : left.all isWhiteSpace = left'.all isWhiteSpace)
    (hblank' : right.all isWhiteSpace = right'.all isWhiteSpace) :
    readSides left right = readSides left' right' := by
  have hleast : readNumber (String.ofList left) = readNumber (String.ofList left') :=
    readNumber_congr (by rwa [String.toList_ofList, String.toList_ofList])
  have hmost : readNumber (String.ofList right) = readNumber (String.ofList right') :=
    readNumber_congr (by rwa [String.toList_ofList, String.toList_ofList])
  rw [readSides, readSides, hblank, hblank', hleast, hmost]

/-- What is read of the sides of the first dash behind the first character. -/
def readBehind (c : Char) (l : List Char) : Option (Float × Float) :=
  match l.dropWhile fun d => !isDash d with
  | [] => none
  | _ :: right => readSides (c :: l.takeWhile fun d => !isDash d) right

theorem readDashed_cons (c : Char) (l : List Char) : readDashed (c :: l) = readBehind c l := by
  have hdrop : l.drop (l.takeWhile fun d => !isDash d).length = l.dropWhile fun d => !isDash d := by
    conv => lhs; arg 2; rw [← List.takeWhile_append_dropWhile (p := fun d => !isDash d) (l := l)]
    exact List.drop_left
  unfold readDashed splitAtDash? readBehind
  dsimp only
  rw [hdrop]
  cases l.dropWhile fun d => !isDash d <;> rfl

/-- A way to respell a text by its characters that numbers, dashes and blanks come through. -/
structure Harmless (g : Char → List Char) : Prop where
  numeral : ∀ c, (g c).filter isNumeral = [c].filter isNumeral
  dash : ∀ c, isDash c → g c = [c]
  others : ∀ c, ¬isDash c → ∀ d ∈ g c, ¬isDash d
  blank : ∀ c, (g c).all isWhiteSpace = isWhiteSpace c

namespace Harmless

variable {g : Char → List Char}

theorem filter_flatMap (h : Harmless g) (l : List Char) :
    (l.flatMap g).filter isNumeral = l.filter isNumeral := by
  rw [List.filter_flatMap, List.flatMap_congr fun c _ => h.numeral c, ← List.filter_flatMap,
    List.flatMap_singleton']

theorem all_flatMap (h : Harmless g) (l : List Char) :
    (l.flatMap g).all isWhiteSpace = l.all isWhiteSpace := by
  rw [List.all_flatMap]
  congr 1
  exact funext h.blank

/-- The respelled text has its first dash where the text has it. -/
theorem takeWhile_flatMap (h : Harmless g) (l : List Char) :
    ((l.flatMap g).takeWhile fun d => !isDash d) = (l.takeWhile fun d => !isDash d).flatMap g ∧
      ((l.flatMap g).dropWhile fun d => !isDash d) = (l.dropWhile fun d => !isDash d).flatMap g := by
  induction l with
  | nil => exact ⟨rfl, rfl⟩
  | cons c l ih =>
    rw [List.flatMap_cons]
    by_cases hc : isDash c
    · rw [h.dash c hc, List.takeWhile_cons_of_neg (by simpa using hc), List.dropWhile_cons_of_neg (by simpa using hc),
        List.singleton_append, List.takeWhile_cons_of_neg (by simpa using hc),
        List.dropWhile_cons_of_neg (by simpa using hc), List.flatMap_cons, h.dash c hc]
      exact ⟨rfl, rfl⟩
    · have hall : ∀ d ∈ g c, (!isDash d) = true := fun d hd => by simpa using h.others c hc d hd
      rw [List.takeWhile_append_of_pos hall, List.dropWhile_append_of_pos hall,
        List.takeWhile_cons_of_pos (by simpa using hc), List.dropWhile_cons_of_pos (by simpa using hc),
        ih.1, ih.2, List.flatMap_cons]
      exact ⟨rfl, rfl⟩

/-- Numbers with a dash between them are read of every such spelling. -/
theorem readBehind_flatMap (h : Harmless g) (hc : [c].filter isNumeral = [c'].filter isNumeral)
    (hblank : isWhiteSpace c = isWhiteSpace c') (l : List Char) :
    readBehind c (l.flatMap g) = readBehind c' l := by
  obtain ⟨htake, hdrop⟩ := h.takeWhile_flatMap l
  rw [readBehind, readBehind, htake, hdrop]
  cases hcut : l.dropWhile fun d => !isDash d with
  | nil => rfl
  | cons d right =>
    have hd : isDash d := by
      have hhead := List.head?_dropWhile_not (fun d => !isDash d) l
      simpa [hcut] using hhead
    rw [List.flatMap_cons, h.dash d hd, List.singleton_append]
    apply readSides_congr
    · rw [← List.singleton_append, List.filter_append, hc, h.filter_flatMap, ← List.filter_append,
        List.singleton_append]
    · exact h.filter_flatMap right
    · rw [List.all_cons, List.all_cons, hblank, h.all_flatMap]
    · exact h.all_flatMap right

end Harmless

theorem medial_of_ne (h : c ≠ 'ς') : medial c = c :=
  if_neg h

theorem harmless_medial : Harmless fun c => [medial c] := by
  have hother (c : Char) : medial c = c ∨ c = 'ς' ∧ medial c = 'σ' := by
    by_cases hc : c = 'ς'
    · exact .inr ⟨hc, by rw [hc]; rfl⟩
    · exact .inl (medial_of_ne hc)
  constructor
  · intro c
    rcases hother c with hc | ⟨rfl, -⟩
    · rw [hc]
    · rfl
  · rintro c hc
    rcases hother c with hmedial | ⟨rfl, -⟩
    · rw [hmedial]
    · cases hc
  · intro c hc d hd
    rw [List.mem_singleton.1 hd]
    rcases hother c with hmedial | ⟨-, hmedial⟩
    · rwa [hmedial]
    · rw [hmedial]
      decide
  · intro c
    rcases hother c with hmedial | ⟨rfl, -⟩
    · simp [hmedial]
    · decide

theorem isWhiteSpace_medial (c : Char) : isWhiteSpace (medial c) = isWhiteSpace c := by
  simpa using harmless_medial.blank c

/-- The characters of words, all sigmas as in the middle of them. -/
def pressChar (c : Char) : List Char :=
  if isWhiteSpace c then [] else [medial c]

theorem flatMap_pressChar (l : List Char) :
    l.flatMap pressChar = (wordsOf (l.map medial)).flatten := by
  rw [← filter_eq_flatten_wordsOf]
  induction l with
  | nil => rfl
  | cons c l ih =>
    rw [List.flatMap_cons, List.map_cons, ih, pressChar]
    by_cases hc : isWhiteSpace c
    · rw [if_pos hc, List.filter_cons_of_neg (by simpa [isWhiteSpace_medial] using hc), List.nil_append]
    · rw [if_neg hc, List.filter_cons_of_pos (by simpa [isWhiteSpace_medial] using hc),
        List.singleton_append]

theorem not_isNumeral_of_isWhiteSpace (h : isWhiteSpace c) : ¬isNumeral c := by
  have hapart : spaceBits &&& numeralBits = 0 := by decide +kernel
  rw [← testBit_numeralBits]
  exact not_testBit_of_and_eq_zero hapart ((testBit_spaceBits c).2 h)

theorem not_isDash_of_isWhiteSpace (h : isWhiteSpace c) : ¬isDash c := by
  intro hdash
  simp only [isDash, Bool.or_eq_true, decide_eq_true_eq] at hdash
  rcases hdash with (rfl | rfl) | rfl <;> exact absurd h (by decide)

theorem harmless_pressChar : Harmless pressChar := by
  constructor
  · intro c
    by_cases hc : isWhiteSpace c
    · rw [pressChar, if_pos hc, List.filter_cons_of_neg (not_isNumeral_of_isWhiteSpace hc)]
    · rw [pressChar, if_neg hc]
      exact harmless_medial.numeral c
  · intro c hdash
    rw [pressChar, if_neg fun hc => not_isDash_of_isWhiteSpace hc hdash]
    exact harmless_medial.dash c hdash
  · intro c hdash d hd
    rw [pressChar] at hd
    split at hd
    · cases hd
    · exact harmless_medial.others c hdash d hd
  · intro c
    by_cases hc : isWhiteSpace c
    · rw [pressChar, if_pos hc, hc]
      rfl
    · rw [pressChar, if_neg hc]
      exact harmless_medial.blank c

/-- A range with a dash is read of the words, and of whether a blank stands before them. -/
theorem readDashed_congr (h : wordsOf (l.map medial) = wordsOf (l'.map medial))
    (hhead : l.head?.map isWhiteSpace = l'.head?.map isWhiteSpace) : readDashed l = readDashed l' := by
  have hpress := congrArg List.flatten h
  rw [← flatMap_pressChar, ← flatMap_pressChar] at hpress
  cases l with
  | nil =>
    cases l' with
    | nil => rfl
    | cons c' l' => cases hhead
  | cons c l =>
    cases l' with
    | nil => cases hhead
    | cons c' l' =>
      have hblank : isWhiteSpace c = isWhiteSpace c' := Option.some.inj hhead
      rw [List.flatMap_cons, List.flatMap_cons] at hpress
      obtain ⟨hc, hl⟩ : [c].filter isNumeral = [c'].filter isNumeral ∧
          l.flatMap pressChar = l'.flatMap pressChar := by
        rw [← harmless_pressChar.numeral, ← harmless_pressChar.numeral]
        by_cases hwhite : isWhiteSpace c
        · have hwhite' : isWhiteSpace c' := hblank ▸ hwhite
          rw [pressChar, pressChar, if_pos hwhite, if_pos hwhite'] at hpress ⊢
          exact ⟨rfl, hpress⟩
        · have hwhite' : ¬isWhiteSpace c' := hblank ▸ hwhite
          rw [pressChar, pressChar, if_neg hwhite, if_neg hwhite'] at hpress ⊢
          obtain ⟨hmedial, hrest⟩ := List.cons.inj hpress
          exact ⟨by rw [hmedial], hrest⟩
      rw [readDashed_cons, readDashed_cons, ← harmless_pressChar.readBehind_flatMap rfl rfl l, hl,
        harmless_pressChar.readBehind_flatMap hc hblank]

/-- Words that differ in the forms of sigmas alone. -/
def Alike (a b : List Char) : Prop :=
  a.map medial = b.map medial

theorem Alike.readNumber {a b : List Char} (h : Alike a b) :
    readNumber (String.ofList a) = readNumber (String.ofList b) := by
  have hmedial (l : List Char) : (l.map medial).filter isNumeral = l.filter isNumeral := by
    rw [List.map_eq_flatMap, harmless_medial.filter_flatMap]
  apply readNumber_congr
  rw [String.toList_ofList, String.toList_ofList, ← hmedial, h, hmedial]

theorem Alike.contains {a b : List Char} (h : Alike a b) {ks : List String} (hks : ∀ k ∈ ks, Unsigma k) :
    ks.contains (String.ofList a) = ks.contains (String.ofList b) := by
  rw [Bool.eq_iff_iff, List.contains_iff_mem, List.contains_iff_mem]
  have hmem {a b : List Char} (h : Alike a b) (ha : String.ofList a ∈ ks) : String.ofList b ∈ ks := by
    have hsigma := hks _ ha
    rw [Unsigma, String.toList_ofList] at hsigma
    have hself : a.map medial = a := (map_medial_eq_iff hsigma).2 rfl
    have hb : b = a := (map_medial_eq_iff hsigma).1 (h ▸ hself)
    rwa [hb]
  exact ⟨hmem h, hmem h.symm⟩

/-- The bounds with a connector between them. -/
def readConnected (connectors : List String) : List String → Option (Float × Float)
  | [least, connector, most] =>
    if connectors.contains connector then do
      let least ← readNumber least
      let most ← readNumber most
      some (least, most)
    else none
  | _ => none

theorem readSpoken_cons (ws : RangeWords) (first : String) (rest : List String) :
    readSpoken ws (first :: rest) =
      readConnected ws.connectors (if ws.leads.contains first then rest else first :: rest) :=
  rfl

theorem readConnected_congr {ks : List String} (hks : ∀ k ∈ ks, Unsigma k) {as bs : List (List Char)}
    (h : List.Forall₂ Alike as bs) :
    readConnected ks (as.map String.ofList) = readConnected ks (bs.map String.ofList) := by
  match as, bs, h with
  | [], _, .nil => rfl
  | [_], _, .cons _ .nil => rfl
  | [_, _], _, .cons _ (.cons _ .nil) => rfl
  | [_, _, _], _, .cons hleast (.cons hconnector (.cons hmost .nil)) =>
    simp only [List.map_cons, List.map_nil, readConnected, hleast.readNumber, hconnector.contains hks,
      hmost.readNumber]
  | _ :: _ :: _ :: _ :: _, _, .cons _ (.cons _ (.cons _ (.cons _ _))) => rfl

/-- A spoken range is read of words in all forms of their sigmas. -/
theorem readSpoken_congr {ws : RangeWords} (hws : ∀ k ∈ ws.leads ++ ws.connectors, Unsigma k)
    {as bs : List (List Char)} (h : List.Forall₂ Alike as bs) :
    readSpoken ws (as.map String.ofList) = readSpoken ws (bs.map String.ofList) := by
  obtain ⟨hleads, hconnectors⟩ := List.forall_mem_append.1 hws
  cases h with
  | nil => rfl
  | cons hfirst hrest =>
    rw [List.map_cons, List.map_cons, readSpoken_cons, readSpoken_cons, hfirst.contains hleads]
    split
    · exact readConnected_congr hconnectors hrest
    · exact readConnected_congr hconnectors (.cons hfirst hrest)

/-- What is so of the words of ranges of either language is so of those of every locale. -/
theorem forall_rangeWords {P : String → Prop}
    (h : ∀ ws ∈ [spanishRange, englishRange], ∀ k ∈ ws.leads ++ ws.connectors, P k) (locale : String) :
    ∀ k ∈ (rangeWords locale).leads ++ (rangeWords locale).connectors, P k := by
  have hspanish := h spanishRange (by simp)
  have henglish := h englishRange (by simp)
  rw [List.forall_mem_append] at hspanish henglish ⊢
  unfold rangeWords
  split
  · exact hspanish
  · exact henglish
  · simp only [List.forall_mem_append]
    exact ⟨⟨henglish.1, hspanish.1⟩, henglish.2, hspanish.2⟩

theorem unsigma_rangeWords (locale : String) :
    ∀ k ∈ (rangeWords locale).leads ++ (rangeWords locale).connectors, Unsigma k :=
  forall_rangeWords wordChecks.range locale

/-- A range is read of the folded text as of any text with its words, if blanks stand before both or
neither. -/
theorem readRange_eq {text : String}
    (h : wordsOf (uncased (trim raw).toList) = wordsOf (text.toList.map medial))
    (hhead : (uncased (trim raw).toList).head?.map isWhiteSpace = text.toList.head?.map isWhiteSpace) :
    readRange locale raw = (readDashed text.toList).or (readSpoken (rangeWords locale) (words text)) := by
  rw [← map_medial_fold] at h hhead
  have hdashed : readDashed (fold (trim raw)).toList = readDashed text.toList := by
    apply readDashed_congr h
    simpa only [List.head?_map, Option.map_map, Function.comp_def, isWhiteSpace_medial] using hhead
  have hwords : List.Forall₂ Alike (wordsOf (fold (trim raw)).toList) (wordsOf text.toList) := by
    rw [wordsOf_map isWhiteSpace_medial, wordsOf_map isWhiteSpace_medial] at h
    rw [← List.forall₂_eq_eq_eq] at h
    rwa [List.forall₂_map_left_iff, List.forall₂_map_right_iff] at h
  rw [readRange, hdashed, words_eq, words_eq, readSpoken_congr (unsigma_rangeWords locale) hwords]

/-- A range is read of every spelling with the same words, if blanks stand before both or neither. -/
theorem readRange_congr
    (h : wordsOf (uncased (trim raw).toList) = wordsOf (uncased (trim raw').toList))
    (hhead : (uncased (trim raw).toList).head?.map isWhiteSpace =
      (uncased (trim raw').toList).head?.map isWhiteSpace) :
    readRange locale raw = readRange locale raw' := by
  rw [← map_medial_fold (trim raw')] at h hhead
  simp only [List.head?_map, Option.map_map, Function.comp_def, isWhiteSpace_medial] at hhead
  rw [readRange_eq h hhead, readRange]

theorem wordsOf_toList (s : String) : wordsOf s.toList = (words s).map String.toList := by
  rw [words_eq, List.map_map]
  simp [Function.comp_def]

theorem ends_trim (s : String) : (∀ c ∈ (trim s).toList.head?, ¬isWhiteSpace c) ∧
    ∀ c ∈ (trim s).toList.getLast?, ¬isWhiteSpace c := by
  rw [← trimList_eq_self_iff, ← toList_trim, trim_trim]

/-- A range is read of its words put together with single spaces where it is read of a text with these
words, in any spelling, if neither starts with marks alone. -/
theorem readRange_unwords {ws : List String} (hws : ∀ w ∈ ws, ∀ c ∈ w.toList, ¬isWhiteSpace c)
    (h : ws.map (fun w => uncased w.toList) = (words raw).map fun w => uncased w.toList)
    (hfirst : startsBlank ((ws.filter (· ≠ "")).map String.toList) =
      startsBlank ((words raw).map String.toList)) :
    readRange locale (unwords ws) = readRange locale raw := by
  have hwords := words_unwords_filter hws
  apply readRange_congr
  · have hempty : ∀ w ∈ ws, (uncased w.toList ≠ [] ∧ w ≠ "" ↔ uncased w.toList ≠ []) := by
      intro w _
      refine and_iff_left_of_imp ?_
      rintro hne rfl
      exact hne rfl
    have hfilled : ((ws.filter (· ≠ "")).map fun w => uncased w.toList).filter (· ≠ []) =
        (ws.map fun w => uncased w.toList).filter (· ≠ []) := by
      rw [List.filter_map, List.filter_map, List.filter_filter]
      congr 1
      apply List.filter_congr
      intro w hw
      simpa using hempty w hw
    rw [wordsOf_uncased, wordsOf_uncased, wordsOf_toList, wordsOf_toList, words_trim, words_trim, hwords,
      List.map_map, List.map_map]
    exact hfilled.trans (congrArg _ h)
  · obtain ⟨hhead, hlast⟩ := ends_trim (unwords ws)
    obtain ⟨hhead', hlast'⟩ := ends_trim raw
    rw [head?_uncased hhead hlast, head?_uncased hhead' hlast', wordsOf_toList, wordsOf_toList, words_trim,
      words_trim, hwords, hfirst]

/-- A range is read of the words of a text with single spaces between them. -/
theorem readRange_unwords_words (locale raw : String) :
    readRange locale (unwords (words raw)) = readRange locale raw := by
  have hsolid : ∀ w ∈ words raw, Solid w := fun w hw => solid_of_mem_words hw
  apply readRange_unwords (fun w hw => (hsolid w hw).solid) rfl
  rw [← words_unwords_filter fun w hw => (hsolid w hw).solid, words_unwords hsolid]

/-! Words. -/

theorem solid_fold_lowercase {s : String} (h : ∀ c ∈ s.toList, ¬isWhiteSpace c) :
    ∀ c ∈ (fold (lowercase s)).toList, ¬isWhiteSpace c := by
  have huncased : uncased (lowercase s).toList = uncased s.toList := by
    rw [Text.lowercase, String.toList_ofList, uncased_lowercase]
  intro c hc
  rw [← isWhiteSpace_medial]
  apply solid_uncased h
  rw [← huncased, ← map_medial_fold]
  exact List.mem_map_of_mem hc

theorem readNumber_fold_lowercase (s : String) : readNumber (fold (lowercase s)) = readNumber s := by
  apply readNumber_congr
  rw [← filter_uncased, uncased_fold_lowercase, filter_uncased]

/-- What a slot reads of the folded form of a word it reads of the word. -/
theorem isSome_read_of_fold {slot : Slot} {s : String} (hreader : slot.reader = none) (hs : Solid s)
    (h : (slot.read context (fold (lowercase s))).isSome) : (slot.read context s).isSome := by
  have hfold : fold (fold (lowercase s)) = fold (lowercase s) := fold_fold (lowercase s)
  have hlower : lowercase (fold (lowercase s)) = fold (lowercase s) := by
    rw [Text.lowercase, lowercase_of_lowered (lowered_fold (lowercase s)), String.ofList_toList]
  have hsame : uncased (fold (lowercase s)).toList = uncased s.toList := uncased_fold_lowercase s
  have htrim : trim s = s := trim_of_solid hs.solid
  have htrim' : trim (fold (lowercase s)) = fold (lowercase s) :=
    trim_of_solid (solid_fold_lowercase hs.solid)
  have hspelled : uncased (trim s).toList = uncased (trim (fold (lowercase s))).toList := by
    rw [htrim, htrim', hsame]
  unfold read at h ⊢
  rw [hreader] at h ⊢
  cases hkind : slot.kind with
  | text | custom => rfl
  | number =>
    simp only [hkind, Option.isSome_map, readNumber_fold_lowercase] at h ⊢
    exact h
  | choice =>
    simp only [hkind, Option.isSome_map] at h ⊢
    apply isSome_readChoice_of_fold _ _ h
    · rw [htrim]
      exact fun hempty => hs.nonempty (by rw [hempty]; rfl)
    · rw [htrim, htrim', hlower, hfold]
  | boolean =>
    simp only [hkind, Option.isSome_map] at h ⊢
    rwa [readBoolean_of_isSome hspelled h]
  | date =>
    simp only [hkind, Option.isSome_map] at h ⊢
    rwa [readDate_of_isSome hspelled h]
  | range =>
    have hrange : readRange context.locale (fold (lowercase s)) = readRange context.locale s :=
      readRange_congr (by rw [hspelled]) (by rw [hspelled])
    simp only [hkind, Option.isSome_map, hrange] at h ⊢
    exact h

end Parlance.Slot
