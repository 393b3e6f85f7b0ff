import Mathlib.Tactic.FinCases
import Parlance.Proofs.Pattern.Grouped

/-!
Texts put together in the notation of patterns: escaped words, places, blanks and groups. Each is read
as items of a sequence whatever stands behind it (`Passes`), so that a text made of them is read to its
end. Main statements: `passes_escape`, `passes_group` and `ReadsOn.exists_parse`.
-/

namespace Parlance.Pattern

open Reader

/-- The switches of templates: letter case makes no difference. -/
def inCase : Flags := { ignoreCase := true }

/-- The characters that do not stand for themselves everywhere in a pattern. -/
def metaCharacters : List Char :=
  ['\\', '.', '+', '*', '?', '(', ')', '|', '[', ']', '\x7b', '\x7d', '^', '$', '#', '&', '-', '~']

/-- The notation of the very characters of a text. -/
def escape (text : List Char) : List Char :=
  text.flatMap fun c => if c ∈ metaCharacters then ['\\', c] else [c]

example : escape "¿a.b?".toList = "¿a\\.b\\?".toList := by
  decide +kernel

theorem bind_of_ok {α β : Type} {r : Reader α} {f : α → Reader β} {s t : State} {a : α}
    (h : r s = .ok (a, t)) : (r >>= f) s = f a t := by
  change (r s >>= fun p => f p.1 p.2) = _
  rw [h]
  rfl

/-! Steps of a sequence. -/

section Steps

variable {names names' : List String} {rest text : List Char}

theorem readSequence_plain {c : Char} (hc : c ∉ metaCharacters) (steps : Nat)
    (items : List (Option Node)) (names : List String) (rest : List Char) :
    readSequence (steps + 1) items ⟨c :: rest, inCase, names, false⟩ =
      readSequence steps (some ((Primitive.char c).node inCase) :: items)
        ⟨rest, inCase, names, false⟩ := by
  have hskip : skip ⟨c :: rest, inCase, names, false⟩ =
      .ok ((), ⟨c :: rest, inCase, names, false⟩) := rfl
  -- a variable in place of `some c`, as the cases have to be told apart by what is peeked at
  obtain ⟨next, hnext⟩ : ∃ next, next = some c := ⟨_, rfl⟩
  have hpeek : peek? ⟨c :: rest, inCase, names, false⟩ =
      .ok (next, ⟨c :: rest, inCase, names, false⟩) := hnext ▸ rfl
  have hne (d : Char) (hd : d ∈ metaCharacters) : ¬some d = some c := by
    rintro ⟨rfl⟩
    exact hc hd
  rw [readSequence, bind_of_ok hskip, bind_of_ok rfl, bind_of_ok hpeek]
  dsimp only
  split
  all_goals first
    | exact absurd hnext (hne _ (by decide))
    | cases hnext
  all_goals rfl

theorem readSequence_escaped {c : Char} (hc : c ∈ metaCharacters) (steps : Nat)
    (items : List (Option Node)) (names : List String) (rest : List Char) :
    readSequence (steps + 1) items ⟨'\\' :: c :: rest, inCase, names, false⟩ =
      readSequence steps (some ((Primitive.char c).node inCase) :: items)
        ⟨rest, inCase, names, false⟩ := by
  have hescape : readEscape ⟨c :: rest, inCase, names, false⟩ =
      .ok (.char c, ⟨rest, inCase, names, false⟩) := by
    rw [readEscape]
    fin_cases hc <;> rfl
  rw [readSequence]
  change (readEscape ⟨c :: rest, inCase, names, false⟩ >>= _) = _
  rw [hescape]
  rfl

theorem readSequence_blank (steps : Nat) (items : List (Option Node)) (names : List String)
    (rest : List Char) :
    readSequence (steps + 1) items ⟨'\\' :: 's' :: rest, inCase, names, false⟩ =
      readSequence steps (some (.one (CharSet.space true)) :: items)
        ⟨rest, inCase, names, false⟩ := by
  rw [readSequence]
  rfl

theorem readSequence_place {c : Char} (hc : c ∈ ['^', '$']) (steps : Nat)
    (items : List (Option Node)) (names : List String) (rest : List Char) :
    ∃ place, readSequence (steps + 1) items ⟨c :: rest, inCase, names, false⟩ =
      readSequence steps (place :: items) ⟨rest, inCase, names, false⟩ := by
  rw [readSequence]
  fin_cases hc <;> exact ⟨_, rfl⟩

/-- The signs of repetitions, with the least and the most times. -/
def repetitions : List (Char × Nat × Option Nat) :=
  [('?', 0, some 1), ('*', 0, none), ('+', 1, none)]

/-- A repetition is greedy unless a question mark stands behind it. -/
theorem readGreed_eq (hrest : rest.head? ≠ some '?') :
    readGreed ⟨rest, inCase, names, false⟩ = .ok (true, ⟨rest, inCase, names, false⟩) := by
  have hpeek : peek? ⟨rest, inCase, names, false⟩ =
      .ok (rest.head?, ⟨rest, inCase, names, false⟩) := rfl
  unfold readGreed
  generalize rest.head? = next at hpeek hrest
  rw [bind_of_ok hpeek]
  split
  · exact absurd rfl hrest
  · rfl

theorem readSequence_repetition {c : Char} {least : Nat} {most : Option Nat}
    (hc : (c, least, most) ∈ repetitions) {a : Node}
    (hsize : a.size * most.getD (least + 1) ≤ sizeLimit) (hrest : rest.head? ≠ some '?')
    (steps : Nat) (items : List (Option Node)) (names : List String) :
    ∃ b, readSequence (steps + 1) (some a :: items) ⟨c :: rest, inCase, names, false⟩ =
      readSequence steps (some b :: items) ⟨rest, inCase, names, false⟩ := by
  obtain ⟨b, hb⟩ : ∃ b, repeatLast (some a :: items) least most ⟨rest, inCase, names, false⟩ =
      .ok (some b :: items, ⟨rest, inCase, names, false⟩) := by
    rw [repeatLast, bind_of_ok (readGreed_eq hrest)]
    dsimp only
    rw [if_neg (Nat.not_lt.2 hsize)]
    exact ⟨_, rfl⟩
  refine ⟨b, ?_⟩
  rw [readSequence]
  fin_cases hc
  all_goals
    change (repeatLast (some a :: items) _ _ ⟨rest, inCase, names, false⟩ >>= _) = _
    rw [hb]
    rfl

end Steps

/-! Groups. -/

section Groups

variable {names names' : List String} {rest text : List Char}

theorem readFlags_eq (letters : List Char) (hletters : ∀ c ∈ letters, c ≠ ':' ∧ c ≠ ')') {d : Char}
    (hd : d = ':' ∨ d = ')') (hdistinct : letters.eraseDups.length = letters.length)
    (hlast : letters.getLast? ≠ some '-') {before flags : Flags}
    (hflags : setFlags? before letters = some flags) {s : State} (hs : s.rest = letters ++ d :: rest) :
    readFlags before s = .ok (flags, { s with rest := d :: rest }) := by
  have htake : s.rest.takeWhile (fun c => c ≠ ':' ∧ c ≠ ')') = letters := by
    rw [hs, List.takeWhile_append_of_pos (by simpa using hletters)]
    rcases hd with rfl | rfl <;> simp
  have hdrop : s.rest.dropWhile (fun c => c ≠ ':' ∧ c ≠ ')') = d :: rest := by
    rw [hs, List.dropWhile_append_of_pos (by simpa using hletters)]
    rcases hd with rfl | rfl <;> simp
  rw [readFlags, Carries.takeWhile_run, htake, hdrop, hflags]
  simp [hdistinct, hlast]
  rfl

/-- A group that opens with switches, or with none. -/
theorem readGroupHead_of_flags {c : Char} {s : State} (hs : s.rest = '?' :: c :: rest)
    (hc : c ∉ ['=', '!', '<', 'P']) :
    readGroupHead s = (do
      let first ← peek?
      let flags ← readFlags s.flags
      modify fun s => { s with flags }
      match ← peek? with
      | some ')' =>
        drop 1
        if first == some ')' then fail .missingOperand else return false
      | some _ =>
        drop 1
        return true
      | none => fail .unclosedGroup : Reader Bool) { s with rest := c :: rest } := by
  have hlook : (lookArounds.any fun b => b.toList.isPrefixOf s.rest) = false := by
    simp [lookArounds, hs]
    grind
  have hnamed : "?P<".toList.isPrefixOf s.rest = false := by
    simp [hs]
    grind
  have hangle : "?<".toList.isPrefixOf s.rest = false := by
    simp [hs]
    grind
  have hmark : "?".toList.isPrefixOf s.rest = true := by
    simp [hs]
  rw [readGroupHead, bind_of_ok rfl, hlook, if_neg Bool.false_ne_true,
    Carries.takeIf_run, hnamed, if_neg Bool.false_ne_true, if_neg Bool.false_ne_true,
    Carries.takeIf_run, hangle, if_neg Bool.false_ne_true, if_neg Bool.false_ne_true,
    Carries.takeIf_run, hmark, if_pos rfl, if_pos rfl, hs]
  rfl

theorem readGroupHead_plain (names : List String) (text : List Char) :
    readGroupHead ⟨'?' :: ':' :: text, inCase, names, false⟩ =
      .ok (true, ⟨text, inCase, names, false⟩) := by
  have hflags : readFlags inCase ⟨':' :: text, inCase, names, false⟩ =
      .ok (inCase, ⟨':' :: text, inCase, names, false⟩) :=
    readFlags_eq [] (by simp) (.inl rfl) rfl (by simp) rfl rfl
  rw [readGroupHead_of_flags rfl (by decide), bind_of_ok rfl, bind_of_ok hflags]
  rfl

theorem readGroupHead_ignoreCase (text : List Char) :
    readGroupHead ⟨'?' :: 'i' :: ')' :: text, {}, [], false⟩ =
      .ok (false, ⟨text, inCase, [], false⟩) := by
  have hflags : readFlags {} ⟨'i' :: ')' :: text, {}, [], false⟩ =
      .ok (inCase, ⟨')' :: text, {}, [], false⟩) :=
    readFlags_eq ['i'] (by simp) (.inr rfl) rfl (by simp) rfl rfl
  rw [readGroupHead_of_flags rfl (by decide), bind_of_ok rfl, bind_of_ok hflags]
  rfl

theorem readGroupHead_named {name : List Char} (hname : isGroupName name = true) (hend : '>' ∉ name)
    (hnew : String.ofList name ∉ names) (text : List Char) :
    readGroupHead ⟨'?' :: 'P' :: '<' :: (name ++ '>' :: text), inCase, names, false⟩ =
      .ok (true, ⟨text, inCase, String.ofList name :: names, false⟩) := by
  have hname_end : ∀ c ∈ name, decide (c ≠ '>') = true := by
    intro c hc
    exact decide_eq_true fun h => hend (h ▸ hc)
  have htake : (name ++ '>' :: text).takeWhile (· ≠ '>') = name := by
    rw [List.takeWhile_append_of_pos hname_end]
    simp
  have hdrop : (name ++ '>' :: text).dropWhile (· ≠ '>') = '>' :: text := by
    rw [List.dropWhile_append_of_pos hname_end]
    simp
  have hread : readGroupName ⟨name ++ '>' :: text, inCase, names, false⟩ =
      .ok ((), ⟨text, inCase, String.ofList name :: names, false⟩) := by
    rw [readGroupName, Carries.takeWhile_run, htake, hdrop, bind_of_ok (a := some '>') rfl]
    dsimp only
    rw [bind_of_ok (a := ()) rfl, hname, if_pos rfl, addGroupName, bind_of_ok rfl]
    dsimp only
    rw [if_neg (by simpa using hnew)]
    rfl
  have hlook : (lookArounds.any fun b => b.toList.isPrefixOf ('?' :: 'P' :: '<' :: (name ++ '>' :: text))) =
      false := by
    simp [lookArounds, List.isPrefixOf]
  have hnamed : "?P<".toList.isPrefixOf ('?' :: 'P' :: '<' :: (name ++ '>' :: text)) = true := by
    simp
  rw [readGroupHead, bind_of_ok rfl, hlook, if_neg Bool.false_ne_true, Carries.takeIf_run, hnamed,
    if_pos rfl, if_pos rfl]
  change (readGroupName ⟨name ++ '>' :: text, inCase, names, false⟩ >>= _) = _
  rw [hread]
  rfl

theorem readSequence_open {flags : Flags} (hflags : flags.extended = false) (steps : Nat)
    (items : List (Option Node)) (names : List String) (text : List Char) :
    readSequence (steps + 1) items ⟨'(' :: text, flags, names, false⟩ =
      (readGroup steps >>= fun item => readSequence steps (item :: items))
        ⟨'(' :: text, flags, names, false⟩ := by
  have hskip : skip ⟨'(' :: text, flags, names, false⟩ =
      .ok ((), ⟨'(' :: text, flags, names, false⟩) := by
    change Except.ok ((), if flags.extended = true then _ else _) = _
    rw [hflags]
    rfl
  rw [readSequence, bind_of_ok hskip]
  rfl

theorem readSequence_group {head : List Char} {names'' : List String} {flags : Flags} {steps : Nat}
    {a : Node}
    (hhead : readGroupHead ⟨head ++ text, inCase, names, false⟩ =
      .ok (true, ⟨text, inCase, names', false⟩))
    (hbody : readAlternatives steps ⟨text, inCase, names', false⟩ =
      .ok (a, ⟨')' :: rest, flags, names'', false⟩))
    (items : List (Option Node)) :
    readSequence (steps + 2) items ⟨'(' :: (head ++ text), inCase, names, false⟩ =
      readSequence (steps + 1) (some a :: items) ⟨rest, inCase, names'', false⟩ := by
  have hopen : dropAndSkip ⟨'(' :: (head ++ text), inCase, names, false⟩ =
      .ok ((), ⟨head ++ text, inCase, names, false⟩) := rfl
  have hgroup : readGroup (steps + 1) ⟨'(' :: (head ++ text), inCase, names, false⟩ =
      .ok (some a, ⟨rest, inCase, names'', false⟩) := by
    rw [readGroup, bind_of_ok hopen, bind_of_ok rfl, bind_of_ok hhead]
    dsimp only
    rw [if_pos rfl, bind_of_ok hbody]
    rfl
  rw [readSequence_open rfl, bind_of_ok hgroup]

theorem readSequence_ignoreCase (steps : Nat) (text : List Char) :
    readSequence (steps + 2) [] ⟨'(' :: '?' :: 'i' :: ')' :: text, {}, [], false⟩ =
      readSequence (steps + 1) [none] ⟨text, inCase, [], false⟩ := by
  have hopen : dropAndSkip ⟨'(' :: '?' :: 'i' :: ')' :: text, {}, [], false⟩ =
      .ok ((), ⟨'?' :: 'i' :: ')' :: text, {}, [], false⟩) := rfl
  have hgroup : readGroup (steps + 1) ⟨'(' :: '?' :: 'i' :: ')' :: text, {}, [], false⟩ =
      .ok (none, ⟨text, inCase, [], false⟩) := by
    rw [readGroup, bind_of_ok hopen, bind_of_ok rfl, bind_of_ok (readGroupHead_ignoreCase text)]
    rfl
  rw [readSequence_open rfl, bind_of_ok hgroup]

/-! Whole texts. -/

theorem parse_eq (flags : Flags) (text : String) :
    parse flags text =
      match readAlternatives (3 * text.toList.length + 4) ⟨text.toList, flags, [], false⟩ with
      | .error f => .error f
      | .ok (a, t) =>
        match t.rest with
        | [] => .ok ⟨a, t.names, t.openComment⟩
        | _ => .error .unopenedGroup := by
  unfold parse
  dsimp only
  change (readAlternatives _ _ >>= _) = _
  cases readAlternatives (3 * text.toList.length + 4) ⟨text.toList, flags, [], false⟩ with
  | error f => rfl
  | ok q =>
    change (match q.2.rest with | [] => _ | _ => _) = _
    rfl

theorem readAlternatives_of_parse {flags : Flags} {text : String} {p : Parsed}
    (h : parse flags text = .ok p) :
    ∃ f, readAlternatives (3 * text.toList.length + 4) ⟨text.toList, flags, [], false⟩ =
      .ok (p.node, ⟨[], f, p.names, p.openComment⟩) := by
  rw [parse_eq] at h
  cases hr : readAlternatives (3 * text.toList.length + 4) ⟨text.toList, flags, [], false⟩ with
  | error f =>
    rw [hr] at h
    cases h
  | ok q =>
    obtain ⟨a, rest, f, names, openComment⟩ := q
    rw [hr] at h
    cases rest with
    | nil =>
      cases h
      exact ⟨f, rfl⟩
    | cons c rest => cases h

end Groups

/-- A text is read to its end as the rest of a sequence, when groups were named before. -/
def ReadsOn (names : List String) (text : List Char) : Prop :=
  ∀ steps items, 3 * text.length + 4 ≤ steps →
    ∃ a t, readSequence steps items ⟨text, inCase, names, false⟩ = .ok (a, t) ∧ t.rest = []

theorem readsOn_nil (names : List String) : ReadsOn names [] := by
  intro steps items h
  obtain ⟨n, rfl⟩ : ∃ n, steps = n + 1 := ⟨steps - 1, by omega⟩
  rw [readSequence]
  exact ⟨_, _, rfl, rfl⟩

theorem ReadsOn.exists_parse {text : List Char} (h : ReadsOn [] text) :
    ∃ p, parse {} (String.ofList ('(' :: '?' :: 'i' :: ')' :: text)) = .ok p := by
  obtain ⟨a, t, hread, hrest⟩ := h (3 * text.length + 14) [none] (by omega)
  have hsequence : readSequence (3 * text.length + 15) []
      ⟨'(' :: '?' :: 'i' :: ')' :: text, {}, [], false⟩ = .ok (a, t) := by
    rw [readSequence_ignoreCase, hread]
  have halternatives : readAlternatives (3 * text.length + 16)
      ⟨'(' :: '?' :: 'i' :: ')' :: text, {}, [], false⟩ = .ok (a, t) := by
    have hpeek : peek? t = .ok (none, t) := by
      change Except.ok (t.rest.head?, t) = _
      rw [hrest]
      rfl
    rw [readAlternatives, bind_of_ok hsequence, bind_of_ok hpeek]
    rfl
  refine ⟨⟨a, t.names, t.openComment⟩, ?_⟩
  have hfuel : 3 * ('(' :: '?' :: 'i' :: ')' :: text).length + 4 = 3 * text.length + 16 := by
    simp only [List.length_cons]
    omega
  rw [parse_eq, String.toList_ofList, hfuel, halternatives]
  dsimp only
  rw [hrest]

/-- A text is read as items of a sequence, whatever stands behind it but a question mark, when groups
were named before; others are named in it. -/
def Passes (names : List String) (text : List Char) (names' : List String) : Prop :=
  ∀ rest, rest.head? ≠ some '?' → ReadsOn names' rest → ReadsOn names (text ++ rest)

variable {names names' names'' : List String} {a b : List Char}

theorem passes_nil (names : List String) : Passes names [] names :=
  fun _ _ => id

theorem Passes.append (ha : Passes names a names') (hb : Passes names' b names'')
    (hhead : b.head? ≠ some '?') : Passes names (a ++ b) names'' := by
  intro rest hrest h
  rw [List.append_assoc]
  apply ha
  · cases b with
    | nil => exact hrest
    | cons c b => exact hhead
  · exact hb rest hrest h

/-- Not more steps than characters lead over the text. -/
theorem Passes.of_steps {k : Nat} (hk : k ≤ a.length)
    (h : ∀ rest, rest.head? ≠ some '?' → ∀ steps items, 3 * (a ++ rest).length + 4 ≤ steps + k →
      ∃ items', readSequence (steps + k) items ⟨a ++ rest, inCase, names, false⟩ =
        readSequence steps items' ⟨rest, inCase, names', false⟩) :
    Passes names a names' := by
  intro rest hrest hreads steps items hsteps
  have hlength : (a ++ rest).length = a.length + rest.length := List.length_append
  obtain ⟨n, rfl⟩ : ∃ n, steps = n + k := ⟨steps - k, by omega⟩
  obtain ⟨items', hitems⟩ := h rest hrest n items hsteps
  rw [hitems]
  exact hreads n items' (by omega)

theorem escape_cons (c : Char) (text : List Char) :
    escape (c :: text) = (if c ∈ metaCharacters then ['\\', c] else [c]) ++ escape text := rfl

theorem head?_escape_ne (text : List Char) : (escape text).head? ≠ some '?' := by
  cases text with
  | nil => simp [escape]
  | cons c text =>
    rw [escape_cons]
    split
    · simp
    · rename_i hc
      rintro ⟨rfl⟩
      exact hc (by decide)

theorem passes_escape (names : List String) (text : List Char) : Passes names (escape text) names := by
  induction text with
  | nil => exact passes_nil names
  | cons c text ih =>
    rw [escape_cons]
    refine Passes.append ?_ ih (head?_escape_ne text)
    split <;> rename_i hc
    · exact .of_steps (k := 1) (by simp) fun rest _ steps items _ =>
        ⟨_, readSequence_escaped hc steps items names rest⟩
    · exact .of_steps (k := 1) (by simp) fun rest _ steps items _ =>
        ⟨_, readSequence_plain hc steps items names rest⟩

theorem passes_place {c : Char} (hc : c ∈ ['^', '$']) (names : List String) :
    Passes names [c] names := by
  refine .of_steps (k := 1) (by simp) fun rest _ steps items _ => ?_
  obtain ⟨place, hplace⟩ := readSequence_place hc steps items names rest
  exact ⟨_, hplace⟩

/-- Repeated blanks. -/
theorem passes_blanks {c : Char} {least : Nat} {most : Option Nat}
    (hc : (c, least, most) ∈ repetitions) (names : List String) :
    Passes names ['\\', 's', c] names := by
  refine .of_steps (k := 2) (by simp) fun rest hrest steps items _ => ?_
  have hsize : (Node.one (CharSet.space true)).size * most.getD (least + 1) ≤ sizeLimit := by
    fin_cases hc <;> decide
  obtain ⟨b, hb⟩ := readSequence_repetition hc hsize hrest steps items names
  exact ⟨_, (readSequence_blank (steps + 1) items names (c :: rest)).trans hb⟩

/-- A text opens a group, and names it or not. -/
def Opens (names : List String) (head : List Char) (names' : List String) : Prop :=
  ∀ text, readGroupHead ⟨head ++ text, inCase, names, false⟩ =
    .ok (true, ⟨text, inCase, names', false⟩)

theorem opens_plain (names : List String) : Opens names ['?', ':'] names :=
  readGroupHead_plain names

theorem opens_named {name : List Char} (hname : isGroupName name = true) (hend : '>' ∉ name)
    (hnew : String.ofList name ∉ names) :
    Opens names ('?' :: 'P' :: '<' :: (name ++ ['>'])) (String.ofList name :: names) := by
  intro text
  simp only [List.cons_append, List.append_assoc, List.nil_append]
  exact readGroupHead_named hname hend hnew text

/-- A text that is a pattern on its own, with no comment open at its end and no name of a group
before. -/
structure Stands (body : String) (p : Parsed) (before : List String) : Prop where
  parse : parse inCase body = .ok p
  openComment : p.openComment = false
  names : ∀ name ∈ p.names, name ∉ before

variable {head : List Char} {body : String} {p : Parsed}

theorem Stands.readSequence (h : Stands body p names') (hhead : Opens names head names')
    (rest : List Char) {steps : Nat} (hsteps : 3 * body.toList.length + 5 ≤ steps)
    (items : List (Option Node)) :
    readSequence (steps + 1) items
        ⟨'(' :: (head ++ (body.toList ++ ')' :: rest)), inCase, names, false⟩ =
      readSequence steps (some p.node :: items) ⟨rest, inCase, p.names ++ names', false⟩ := by
  obtain ⟨f, hread⟩ := readAlternatives_of_parse h.parse
  obtain ⟨n, rfl⟩ : ∃ n, steps = n + 1 := ⟨steps - 1, by omega⟩
  have hwithin : readAlternatives n ⟨body.toList ++ ')' :: rest, inCase, names', false⟩ =
      .ok (p.node, ⟨')' :: rest, f, p.names ++ names', p.openComment⟩) :=
    readAlternatives_within (by omega) hread h.openComment h.names
  rw [h.openComment] at hwithin
  exact readSequence_group (hhead _) hwithin items

/-- A pattern may be put between parentheses. -/
theorem passes_group (hhead : Opens names head names') (hbody : Stands body p names') :
    Passes names ('(' :: (head ++ (body.toList ++ [')']))) (p.names ++ names') := by
  refine .of_steps (k := 1) (by simp) fun rest _ steps items hsteps => ?_
  simp only [List.cons_append, List.append_assoc, List.nil_append, List.length_cons,
    List.length_append] at hsteps ⊢
  exact ⟨_, hbody.readSequence hhead rest (by omega) items⟩

theorem passes_optional (hhead : Opens names head names') (hbody : Stands body p names')
    (hsize : p.node.size ≤ sizeLimit) :
    Passes names ('(' :: (head ++ (body.toList ++ [')', '?']))) (p.names ++ names') := by
  refine .of_steps (k := 2) (by simp; omega) fun rest hrest steps items hsteps => ?_
  simp only [List.cons_append, List.append_assoc, List.nil_append, List.length_cons,
    List.length_append] at hsteps ⊢
  have hmark : ('?', 0, some 1) ∈ repetitions := by decide
  obtain ⟨b, hb⟩ := readSequence_repetition hmark (by simpa using hsize) hrest steps items
    (p.names ++ names')
  exact ⟨_, (hbody.readSequence hhead ('?' :: rest) (by omega) items).trans hb⟩

end Parlance.Pattern
