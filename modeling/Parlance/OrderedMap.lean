/-!
Finite maps from text to values whose entries are kept in key order, so that two maps with the same
look-ups are equal. Main statements: `get?_insert`, `get?_erase` and `ext_get?`.
-/

namespace Parlance

universe u v

/-- A finite map from text; no key stands twice and the entries are in increasing key order. -/
structure OrderedMap (β : Type u) where
  entries : List (String × β)
  sorted : entries.Pairwise fun x y => x.1 < y.1

namespace OrderedMap

variable {β : Type u} {γ : Type v}

/-- Puts an entry into a sorted list, in place of an entry with the same key. -/
def insertEntry (k : String) (x : β) : List (String × β) → List (String × β)
  | [] => [(k, x)]
  | e :: rest =>
    if k < e.1 then (k, x) :: e :: rest
    else if k = e.1 then (k, x) :: rest
    else e :: insertEntry k x rest

theorem mem_insertEntry {k : String} {x : β} {e : String × β} {l : List (String × β)}
    (h : e ∈ insertEntry k x l) : e = (k, x) ∨ e ∈ l := by
  induction l with
  | nil => simpa [insertEntry] using h
  | cons d rest ih =>
    rw [insertEntry] at h
    split at h
    · simpa using h
    · split at h
      · rcases List.mem_cons.1 h with h | h
        · exact .inl h
        · exact .inr (List.mem_cons_of_mem _ h)
      · rcases List.mem_cons.1 h with h | h
        · exact .inr (h ▸ List.mem_cons_self)
        · exact (ih h).imp_right (List.mem_cons_of_mem _)

theorem pairwise_insertEntry (k : String) (x : β) {l : List (String × β)}
    (h : l.Pairwise fun x y => x.1 < y.1) : (insertEntry k x l).Pairwise fun x y => x.1 < y.1 := by
  induction l with
  | nil => simp [insertEntry]
  | cons d rest ih =>
    have ⟨hd, hr⟩ := List.pairwise_cons.1 h
    rw [insertEntry]
    split
    · rename_i hk
      refine List.pairwise_cons.2 ⟨fun e he => ?_, h⟩
      rcases List.mem_cons.1 he with rfl | he
      · exact hk
      · exact String.lt_trans hk (hd e he)
    · rename_i hk
      split
      · rename_i he
        exact List.pairwise_cons.2 ⟨fun e h' => he ▸ hd e h', hr⟩
      · rename_i hne
        refine List.pairwise_cons.2 ⟨fun e he => ?_, ih hr⟩
        rcases mem_insertEntry he with rfl | he
        · exact Std.lt_of_le_of_ne (String.not_lt.1 hk) (Ne.symm hne)
        · exact hd e he

/-- The value at the first entry with the key. -/
def lookupEntry (k : String) : List (String × β) → Option β
  | [] => none
  | e :: rest => if k = e.1 then some e.2 else lookupEntry k rest

def empty : OrderedMap β := ⟨[], .nil⟩

instance : EmptyCollection (OrderedMap β) := ⟨empty⟩

instance : Inhabited (OrderedMap β) := ⟨empty⟩

def get? (m : OrderedMap β) (k : String) : Option β :=
  lookupEntry k m.entries

/-- Puts a value at a key, in place of the one that was there. -/
def insert (m : OrderedMap β) (k : String) (x : β) : OrderedMap β :=
  ⟨insertEntry k x m.entries, pairwise_insertEntry k x m.sorted⟩

def erase (m : OrderedMap β) (k : String) : OrderedMap β :=
  ⟨m.entries.filter (·.1 ≠ k), m.sorted.filter _⟩

/-- The map of a list of entries; of two with one key the later counts. -/
def ofList (l : List (String × β)) : OrderedMap β :=
  l.foldl (fun m e => m.insert e.1 e.2) empty

def contains (m : OrderedMap β) (k : String) : Bool :=
  (m.get? k).isSome

def isEmpty (m : OrderedMap β) : Bool :=
  m.entries.isEmpty

def keys (m : OrderedMap β) : List String :=
  m.entries.map (·.1)

def map (f : β → γ) (m : OrderedMap β) : OrderedMap γ :=
  ⟨m.entries.map fun e => (e.1, f e.2), List.pairwise_map.2 m.sorted⟩

theorem lookupEntry_insertEntry (k k' : String) (x : β) (l : List (String × β)) :
    lookupEntry k' (insertEntry k x l) = if k' = k then some x else lookupEntry k' l := by
  induction l with
  | nil => rfl
  | cons d rest ih =>
    rw [insertEntry]
    split
    · rfl
    · split
      · rename_i he
        by_cases h : k' = k <;> simp [lookupEntry, h, ← he]
      · rename_i hne
        by_cases h : k' = k
        · subst h
          simp [lookupEntry, hne, ih]
        · by_cases hd : k' = d.1 <;> simp [lookupEntry, h, hd, ih]
          exact fun hk => absurd (hd.trans hk) h

theorem lookupEntry_filter_ne (k k' : String) (l : List (String × β)) :
    lookupEntry k' (l.filter (·.1 ≠ k)) = if k' = k then none else lookupEntry k' l := by
  induction l with
  | nil => simp [lookupEntry]
  | cons d rest ih =>
    by_cases hd : d.1 = k
    · rw [List.filter_cons_of_neg (by simpa using hd), ih]
      by_cases h : k' = k <;> simp [lookupEntry, h, hd]
    · rw [List.filter_cons_of_pos (by simpa using hd), lookupEntry, ih, lookupEntry]
      by_cases h : k' = k
      · subst h
        simp [Ne.symm hd]
      · simp [h]

@[simp] theorem get?_empty (k : String) : (empty : OrderedMap β).get? k = none := rfl

@[simp] theorem get?_insert (m : OrderedMap β) (k k' : String) (x : β) :
    (m.insert k x).get? k' = if k' = k then some x else m.get? k' :=
  lookupEntry_insertEntry k k' x m.entries

@[simp] theorem get?_erase (m : OrderedMap β) (k k' : String) :
    (m.erase k).get? k' = if k' = k then none else m.get? k' :=
  lookupEntry_filter_ne k k' m.entries

theorem lookupEntry_map (f : β → γ) (k : String) (l : List (String × β)) :
    lookupEntry k (l.map fun e => (e.1, f e.2)) = (lookupEntry k l).map f := by
  induction l with
  | nil => rfl
  | cons e l ih =>
    rw [List.map_cons, lookupEntry, lookupEntry, ih]
    split <;> rfl

@[simp] theorem get?_map (f : β → γ) (m : OrderedMap β) (k : String) :
    (m.map f).get? k = (m.get? k).map f :=
  lookupEntry_map f k m.entries

theorem get?_foldl_insert {k : String} {l : List (String × β)} (h : k ∉ l.map Prod.fst)
    (m : OrderedMap β) : (l.foldl (fun m e => m.insert e.1 e.2) m).get? k = m.get? k := by
  induction l generalizing m with
  | nil => rfl
  | cons e l ih =>
    rw [List.map_cons, List.mem_cons, not_or] at h
    rw [List.foldl_cons, ih h.2, get?_insert, if_neg h.1]

theorem get?_foldl_insert_of_mem {l : List (String × β)} (h : (l.map Prod.fst).Nodup) {k : String}
    {x : β} (hx : (k, x) ∈ l) (m : OrderedMap β) :
    (l.foldl (fun m e => m.insert e.1 e.2) m).get? k = some x := by
  induction l generalizing m with
  | nil => cases hx
  | cons e l ih =>
    obtain ⟨hnew, hl⟩ := List.nodup_cons.1 h
    rw [List.foldl_cons]
    rcases List.mem_cons.1 hx with rfl | hx
    · rw [get?_foldl_insert hnew, get?_insert, if_pos rfl]
    · exact ih hl hx _

/-- Where no key stands twice, each entry of a list is looked up in its map. -/
theorem get?_ofList {l : List (String × β)} (h : (l.map Prod.fst).Nodup) {k : String} {x : β}
    (hx : (k, x) ∈ l) : (ofList l).get? k = some x :=
  get?_foldl_insert_of_mem h hx empty

/-- In a sorted list the key of an entry looks up that entry's value. -/
theorem lookupEntry_eq_some_iff {l : List (String × β)} (h : l.Pairwise fun x y => x.1 < y.1)
    {k : String} {x : β} : lookupEntry k l = some x ↔ (k, x) ∈ l := by
  induction l with
  | nil => simp [lookupEntry]
  | cons d rest ih =>
    have ⟨hd, hr⟩ := List.pairwise_cons.1 h
    rw [lookupEntry]
    split
    · rename_i hk
      subst hk
      have : (d.1, x) ∉ rest := fun hy => String.lt_irrefl d.1 (hd (d.1, x) hy)
      simp [this, Prod.ext_iff, eq_comm]
    · rename_i hk
      simp [hk, ih hr, Prod.ext_iff]

theorem get?_eq_some_iff {m : OrderedMap β} {k : String} {x : β} :
    m.get? k = some x ↔ (k, x) ∈ m.entries :=
  lookupEntry_eq_some_iff m.sorted

/-- Where no key stands twice, a map looks up the entries of its list and no others. -/
theorem get?_ofList_eq_some_iff {l : List (String × β)} (h : (l.map Prod.fst).Nodup) {k : String}
    {x : β} : (ofList l).get? k = some x ↔ (k, x) ∈ l := by
  constructor
  · intro hx
    by_cases hk : k ∈ l.map Prod.fst
    · obtain ⟨⟨k, y⟩, hy, rfl⟩ := List.mem_map.1 hk
      rw [get?_ofList h hy] at hx
      exact Option.some.inj hx ▸ hy
    · rw [ofList, get?_foldl_insert hk] at hx
      cases hx
  · exact get?_ofList h

theorem mem_or_get?_of_foldl_insert {l : List (String × β)} {m : OrderedMap β} {k : String} {x : β}
    (h : (l.foldl (fun m e => m.insert e.1 e.2) m).get? k = some x) :
    (k, x) ∈ l ∨ m.get? k = some x := by
  induction l generalizing m with
  | nil => exact .inr h
  | cons e l ih =>
    rcases ih h with hx | hx
    · exact .inl (List.mem_cons_of_mem _ hx)
    · rw [get?_insert] at hx
      split at hx
      · rename_i hk
        cases hx
        exact .inl (hk ▸ List.mem_cons_self)
      · exact .inr hx

/-- What the map of a list looks up is an entry of the list. -/
theorem mem_of_get?_ofList {l : List (String × β)} {k : String} {x : β}
    (h : (ofList l).get? k = some x) : (k, x) ∈ l :=
  (mem_or_get?_of_foldl_insert h).resolve_right (by simp)

theorem mem_keys_iff {m : OrderedMap β} {k : String} : k ∈ m.keys ↔ ∃ x, m.get? k = some x := by
  constructor
  · intro h
    obtain ⟨⟨k, x⟩, hx, rfl⟩ := List.mem_map.1 h
    exact ⟨x, get?_eq_some_iff.2 hx⟩
  · intro ⟨x, hx⟩
    exact List.mem_map.2 ⟨(k, x), get?_eq_some_iff.1 hx, rfl⟩

theorem nodup_keys (m : OrderedMap β) : m.keys.Nodup :=
  List.pairwise_map.2 (m.sorted.imp fun h => String.ne_of_lt h)

theorem isSome_get?_foldl_insert {l : List (String × β)} {m : OrderedMap β} {k : String}
    (h : k ∈ l.map Prod.fst ∨ (m.get? k).isSome) :
    ((l.foldl (fun m e => m.insert e.1 e.2) m).get? k).isSome := by
  induction l generalizing m with
  | nil => simpa using h
  | cons e l ih =>
    rw [List.map_cons, List.mem_cons] at h
    rw [List.foldl_cons]
    apply ih
    rw [get?_insert]
    split
    · exact .inr rfl
    · rename_i hne
      exact h.imp_left fun h => h.resolve_left hne

theorem mem_keys_ofList {l : List (String × β)} {k : String} :
    k ∈ (ofList l).keys ↔ k ∈ l.map Prod.fst := by
  rw [mem_keys_iff]
  constructor
  · intro ⟨x, hx⟩
    exact List.mem_map_of_mem (mem_of_get?_ofList hx)
  · intro h
    exact Option.isSome_iff_exists.1 (isSome_get?_foldl_insert (.inl h))

/-- Maps with the same look-ups are equal. -/
theorem ext_get? {m n : OrderedMap β} (h : ∀ k, m.get? k = n.get? k) : m = n := by
  have hmem : ∀ e, e ∈ m.entries ↔ e ∈ n.entries := fun e => by
    rw [← get?_eq_some_iff (k := e.1) (x := e.2), h, get?_eq_some_iff]
  obtain ⟨l, hl⟩ := m
  obtain ⟨r, hr⟩ := n
  congr
  clear h
  simp only at hmem
  induction l generalizing r with
  | nil =>
    cases r with
    | nil => rfl
    | cons e rest => exact absurd ((hmem e).2 List.mem_cons_self) List.not_mem_nil
  | cons d l ih =>
    cases r with
    | nil => exact absurd ((hmem d).1 List.mem_cons_self) List.not_mem_nil
    | cons e r =>
      have ⟨hd, hl'⟩ := List.pairwise_cons.1 hl
      have ⟨he, hr'⟩ := List.pairwise_cons.1 hr
      have hde : d = e := by
        rcases List.mem_cons.1 ((hmem d).1 List.mem_cons_self) with h | h
        · exact h
        · rcases List.mem_cons.1 ((hmem e).2 List.mem_cons_self) with h' | h'
          · exact h'.symm
          · exact absurd (hd e h') (String.lt_asymm (he d h))
      subst hde
      congr 1
      refine ih hl' r hr' fun x => ⟨fun hx => ?_, fun hx => ?_⟩
      · rcases List.mem_cons.1 ((hmem x).1 (List.mem_cons_of_mem _ hx)) with rfl | h
        · exact absurd (hd x hx) (String.lt_irrefl _)
        · exact h
      · rcases List.mem_cons.1 ((hmem x).2 (List.mem_cons_of_mem _ hx)) with rfl | h
        · exact absurd (he x hx) (String.lt_irrefl _)
        · exact h

/-- The entries of a map make up the map. -/
theorem ofList_entries (m : OrderedMap β) : ofList m.entries = m := by
  apply ext_get?
  intro k
  apply Option.ext
  intro x
  rw [get?_ofList_eq_some_iff m.nodup_keys, get?_eq_some_iff]

theorem map_eq_self_iff {f : β → β} {m : OrderedMap β} :
    m.map f = m ↔ ∀ k x, m.get? k = some x → f x = x := by
  constructor
  · intro h k x hx
    have hget := get?_map f m k
    rw [h, hx, Option.map_some] at hget
    exact (Option.some.inj hget).symm
  · intro h
    apply ext_get?
    intro k
    rw [get?_map]
    cases hx : m.get? k with
    | none => rfl
    | some x => rw [Option.map_some, h k x hx]

end OrderedMap

end Parlance
