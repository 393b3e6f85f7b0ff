import Parlance.Proofs.Calendar.Written
import Parlance.Proofs.Double.Finite
import Parlance.Proofs.Resolver.Coherence
import Parlance.Proofs.Template.Filled

/-!
Payloads written as JSON and decoded. Values are written without their kinds, so a decoded value has
the first kind that its JSON fits. Main statements: `ofJson?_toJson_ofFields`, that a decoded payload
is decoded again from what is written for it, and `ofJson?_toJson_extractPayload`, that the payload of
a match comes back up to texts that read as dates.
-/

namespace Parlance

open Calendar

/-- A JSON value with a written form: integers have 64 bits, with or without a sign, and reals are
finite. -/
inductive Json.Writable : Json → Prop
  | null : Writable .null
  | bool (b : Bool) : Writable (.bool b)
  | integer {n : Int} (least : -2 ^ 63 ≤ n) (most : n < 2 ^ 64) : Writable (.integer n)
  | real {x : Float} (finite : x.isFinite) : Writable (.real x)
  | text (s : String) : Writable (.text s)
  | array {items : List Json} (all : ∀ j ∈ items, Writable j) : Writable (.array items)
  | object {fields : List (String × Json)} (all : ∀ k j, (k, j) ∈ fields → Writable j) :
    Writable (.object fields)

theorem Json.mem_of_get? {fields : List (String × Json)} {k : String} {j : Json}
    (h : (object fields).get? k = some j) : (k, j) ∈ fields := by
  obtain ⟨⟨k', j'⟩, hfind, rfl⟩ := Option.map_eq_some_iff.1 h
  have hkey : k' = k := by simpa using List.find?_some hfind
  exact hkey ▸ List.mem_of_find?_eq_some hfind

namespace Slot.Value

variable {j : Json} {v : Value}

/-! The kinds that a JSON value fits. -/

/-- The place of a value's kind in the order in which kinds are tried. -/
def rank : Value → Nat
  | bool _ => 0
  | number _ => 1
  | range _ _ => 2
  | date _ => 3
  | text _ => 4
  | json _ => 5

/-- A JSON value can be taken as a value. -/
inductive Fits : Json → Value → Prop
  | bool (b : Bool) : Fits (.bool b) (.bool b)
  | number {j : Json} {x : Float} (h : realOf? j = some x) : Fits j (.number x)
  | range {j : Json} {least most : Float} (h : boundsOf? j = some (least, most)) :
    Fits j (.range least most)
  | date {s : String} {d : Date} (h : Date.read? true s = some d) : Fits (.text s) (.date d)
  | text (s : String) : Fits (.text s) (.text s)
  | json (j : Json) : Fits j (.json j)

/-- A value that a JSON value can be taken as, of the first kind there is. -/
structure FirstFit (j : Json) (v : Value) : Prop where
  fits : Fits j v
  least : ∀ w, Fits j w → v.rank ≤ w.rank

theorem fits_ofJson (j : Json) : Fits j (ofJson j) := by
  cases j with
  | null => exact .json _
  | bool b => exact .bool b
  | integer n => exact .number rfl
  | real x => exact .number rfl
  | text s =>
    rw [ofJson]
    split
    · rename_i d hd
      exact .date hd
    · exact .text s
  | array items => exact .json _
  | object fields =>
    rw [ofJson]
    split
    · rename_i least most hbounds
      exact .range hbounds
    · exact .json _

theorem rank_ofJson_le (h : Fits j v) : (ofJson j).rank ≤ v.rank := by
  cases h with
  | bool b => exact le_rfl
  | number h =>
    cases j with
    | integer n => exact le_rfl
    | real x => exact le_rfl
    | _ => cases h
  | range h =>
    cases j with
    | object fields => rw [ofJson, h]
    | _ => cases h
  | date h => rw [ofJson, h]
  | text s =>
    rw [ofJson]
    split <;> simp [rank]
  | json j =>
    cases ofJson j <;> simp [rank]

theorem firstFit_ofJson (j : Json) : FirstFit j (ofJson j) :=
  ⟨fits_ofJson j, fun _ => rank_ofJson_le⟩

/-! Values written and decoded. -/

theorem toJson_range (least most : Float) :
    (range least most).toJson = .object [("max", .real most), ("min", .real least)] := by
  have horder : "max" < "min" := by decide
  rw [toJson, Json.ofFields, List.foldl_cons, List.foldl_cons, List.foldl_nil, Json.putField,
    Json.putField, if_pos horder]

theorem ofJson_toJson_range (least most : Float) :
    ofJson (range least most).toJson = range least most := by
  rw [toJson_range]
  rfl

theorem ofJson_toJson_date (d : Date) : ofJson (date d).toJson = date d := by
  rw [toJson, ofJson, Date.read?_text]

/-- What is decoded from the written form of a value, where it is not JSON: texts that read as dates
become dates. -/
def dated : Value → Value
  | text s => (Date.read? true s).elim (text s) date
  | v => v

theorem ofJson_toJson (h : ∀ j, v ≠ json j) : ofJson v.toJson = v.dated := by
  cases v with
  | bool b => rfl
  | number x => rfl
  | range least most => exact ofJson_toJson_range least most
  | date d => exact ofJson_toJson_date d
  | text s =>
    rw [toJson, ofJson, dated]
    cases Date.read? true s <;> rfl
  | json j => exact absurd rfl (h j)

theorem dated_eq_self_iff : v.dated = v ↔ ∀ s, v = text s → Date.read? true s = none := by
  cases v with
  | text s =>
    rw [dated]
    cases hread : Date.read? true s with
    | none => simpa using hread
    | some d => simp [hread]
  | _ => simp [dated]

/-- A decoded value is decoded again from what is written for it. -/
theorem ofJson_toJson_ofJson (j : Json) : ofJson (ofJson j).toJson = ofJson j := by
  cases j with
  | null => rfl
  | bool b => rfl
  | integer n => rfl
  | real x => rfl
  | text s =>
    cases hread : Date.read? true s with
    | none => simp [ofJson, hread, toJson]
    | some d =>
      have hdate : ofJson (.text s) = date d := by rw [ofJson, hread]
      rw [hdate, ofJson_toJson_date]
  | array items => rfl
  | object fields =>
    cases hbounds : boundsOf? (.object fields) with
    | none => simp [ofJson, hbounds, toJson]
    | some bounds =>
      have hrange : ofJson (.object fields) = range bounds.1 bounds.2 := by rw [ofJson, hbounds]
      rw [hrange, ofJson_toJson_range]

/-! Values with a written form. -/

theorem writable_range {least most : Float} (hleast : least.isFinite) (hmost : most.isFinite) :
    (range least most).toJson.Writable := by
  rw [toJson_range]
  apply Json.Writable.object
  intro k j h
  simp only [List.mem_cons, List.not_mem_nil, or_false, Prod.mk.injEq] at h
  rcases h with ⟨-, rfl⟩ | ⟨-, rfl⟩
  · exact .real hmost
  · exact .real hleast

theorem isFinite_of_realOf? {x : Float} (h : realOf? j = some x) (hj : j.Writable) : x.isFinite := by
  cases hj with
  | integer least most =>
    cases h
    exact Double.isFinite_ofInt (by omega)
  | real finite =>
    cases h
    exact finite
  | _ => cases h

theorem isFinite_of_boundsOf? {least most : Float} (h : boundsOf? j = some (least, most))
    (hj : j.Writable) : least.isFinite ∧ most.isFinite := by
  cases hj with
  | @object fields all =>
    have hfield : ∀ k x, ((Json.object fields).get? k).bind realOf? = some x → x.isFinite := by
      intro k x hx
      obtain ⟨field, hget, hreal⟩ := Option.bind_eq_some_iff.1 hx
      exact isFinite_of_realOf? hreal (all k field (Json.mem_of_get? hget))
    obtain ⟨a, hleast, hrest⟩ := Option.bind_eq_some_iff.1 h
    obtain ⟨b, hmost, hpair⟩ := Option.bind_eq_some_iff.1 hrest
    cases hpair
    exact ⟨hfield "min" least hleast, hfield "max" most hmost⟩
  | _ => cases h

/-- What can be written can be written again once it is decoded. -/
theorem writable_of_fits (h : Fits j v) (hj : j.Writable) : v.toJson.Writable := by
  cases h with
  | bool b => exact .bool b
  | number h => exact .real (isFinite_of_realOf? h hj)
  | range h =>
    obtain ⟨hleast, hmost⟩ := isFinite_of_boundsOf? h hj
    exact writable_range hleast hmost
  | date h => exact .text _
  | text s => exact .text s
  | json j => exact hj

end Slot.Value

namespace Payload

open Slot.Value

theorem ofJson?_toJson (p : Payload) :
    ofJson? p.toJson = some (p.map fun v => Slot.Value.ofJson v.toJson) := by
  have hentries : ofFields (p.entries.map fun e => (e.1, e.2.toJson)) =
      .ofList (p.map fun v => Slot.Value.ofJson v.toJson).entries := by
    rw [ofFields, OrderedMap.map, List.map_map]
    rfl
  rw [toJson, ofJson?, hentries, OrderedMap.ofList_entries]

theorem writable_toJson {p : Payload} (h : ∀ k v, p.get? k = some v → v.toJson.Writable) :
    p.toJson.Writable := by
  apply Json.Writable.object
  intro k j hj
  obtain ⟨⟨k, v⟩, hv, ⟨⟩⟩ := List.mem_map.1 hj
  exact h k v (OrderedMap.get?_eq_some_iff.2 hv)

variable {fields : List (String × Json)}

theorem exists_field_of_get?_ofFields {k : String} {v : Slot.Value}
    (h : (ofFields fields).get? k = some v) :
    ∃ j, (k, j) ∈ fields ∧ v = Slot.Value.ofJson j := by
  obtain ⟨⟨k, j⟩, hj, ⟨⟩⟩ := List.mem_map.1 (OrderedMap.mem_of_get?_ofList h)
  exact ⟨j, hj, rfl⟩

theorem mem_keys_ofFields {k : String} : k ∈ (ofFields fields).keys ↔ k ∈ fields.map Prod.fst := by
  rw [ofFields, OrderedMap.mem_keys_ofList, List.map_map]
  rfl

/-- A decoded payload has a value for each key of the object, the first that one of its fields fits. It
can be written where the object can, and is decoded again from what is written. -/
theorem ofJson?_toJson_ofFields (fields : List (String × Json)) :
    let p := ofFields fields
    (∀ k, k ∈ p.keys ↔ k ∈ fields.map Prod.fst) ∧
      (∀ k v, p.get? k = some v → ∃ j, (k, j) ∈ fields ∧ FirstFit j v) ∧
      ((Json.object fields).Writable → p.toJson.Writable) ∧
      ofJson? p.toJson = some p := by
  intro p
  refine ⟨fun k => mem_keys_ofFields, fun k v hv => ?_, fun hfields => ?_, ?_⟩
  · obtain ⟨j, hj, rfl⟩ := exists_field_of_get?_ofFields hv
    exact ⟨j, hj, firstFit_ofJson j⟩
  · apply writable_toJson
    intro k v hv
    obtain ⟨j, hj, rfl⟩ := exists_field_of_get?_ofFields hv
    cases hfields with
    | object all => exact writable_of_fits (fits_ofJson j) (all k j hj)
  · rw [ofJson?_toJson]
    apply congrArg some
    rw [OrderedMap.map_eq_self_iff]
    intro k v hv
    obtain ⟨j, -, rfl⟩ := exists_field_of_get?_ofFields hv
    exact ofJson_toJson_ofJson j

/-- A range with another field, an integer and a year of five digits. -/
theorem ofJson?_toJson_ofFields_trip :
    let fields : List (String × Json) := [("day", .text "+12024- 5-1"), ("seats", .integer 3),
      ("stay", .object [("exact", .null), ("max", .integer 9), ("min", .real 7.5)])]
    let p := ofFields fields
    (Json.object fields).Writable ∧ (p.entries.map fun e => e.2.rank) = [3, 1, 2] ∧
      p.toJson.Writable ∧ ofJson? p.toJson = some p := by
  intro fields p
  have hstay : (Json.object [("exact", .null), ("max", .integer 9), ("min", .real 7.5)]).Writable := by
    apply Json.Writable.object
    intro k j h
    simp only [List.mem_cons, List.not_mem_nil, or_false, Prod.mk.injEq] at h
    rcases h with ⟨-, rfl⟩ | ⟨-, rfl⟩ | ⟨-, rfl⟩
    · exact .null
    · exact .integer (by decide) (by decide)
    · exact .real (by decide +kernel)
  have hfields : (Json.object fields).Writable := by
    apply Json.Writable.object
    intro k j h
    simp only [fields, List.mem_cons, List.not_mem_nil, or_false, Prod.mk.injEq] at h
    rcases h with ⟨-, rfl⟩ | ⟨-, rfl⟩ | ⟨-, rfl⟩
    · exact .text _
    · exact .integer (by decide) (by decide)
    · exact hstay
  obtain ⟨-, -, hwritable, hagain⟩ := ofJson?_toJson_ofFields fields
  exact ⟨hfields, by decide +kernel, hwritable hfields, hagain⟩

end Payload

/-! Payloads of matches. -/

/-- The texts among the values of a payload. -/
def Payload.texts (p : Payload) : List String :=
  p.entries.filterMap fun e => match e.2 with
    | .text s => some s
    | _ => none

theorem Payload.mem_texts {p : Payload} {s : String} :
    s ∈ p.texts ↔ ∃ k, p.get? k = some (.text s) := by
  rw [texts, List.mem_filterMap]
  constructor
  · rintro ⟨⟨k, v⟩, hv, hs⟩
    cases v with
    | text s =>
      cases hs
      exact ⟨k, OrderedMap.get?_eq_some_iff.2 hv⟩
    | _ => cases hs
  · rintro ⟨k, hk⟩
    exact ⟨(k, .text s), OrderedMap.get?_eq_some_iff.1 hk, rfl⟩

namespace Slot

variable {slot : Slot} {context : Context} {locale raw : String}

theorem isFinite_of_readNumber {x : Float} (h : readNumber raw = some x) : x.isFinite :=
  (Option.filter_eq_some_iff.1 h).2

theorem isFinite_of_readRange {least most : Float} (h : readRange locale raw = some (least, most)) :
    least.isFinite ∧ most.isFinite := by
  rw [readRange, Option.or_eq_some_iff] at h
  rcases h with hdashed | ⟨-, hspoken⟩
  · rw [readDashed] at hdashed
    obtain ⟨⟨left, right⟩, -, hsides⟩ := Option.bind_eq_some_iff.1 hdashed
    dsimp only at hsides
    split at hsides
    · cases hsides
    · obtain ⟨a, hleast, hrest⟩ := Option.bind_eq_some_iff.1 hsides
      obtain ⟨b, hmost, hpair⟩ := Option.bind_eq_some_iff.1 hrest
      cases hpair
      exact ⟨isFinite_of_readNumber hleast, isFinite_of_readNumber hmost⟩
  · unfold readSpoken at hspoken
    dsimp only at hspoken
    split at hspoken
    · split at hspoken
      · obtain ⟨a, hleast, hrest⟩ := Option.bind_eq_some_iff.1 hspoken
        obtain ⟨b, hmost, hpair⟩ := Option.bind_eq_some_iff.1 hrest
        cases hpair
        exact ⟨isFinite_of_readNumber hleast, isFinite_of_readNumber hmost⟩
      · cases hspoken
    · cases hspoken

/-- What is read by the kind of a slot is not JSON, and it has a written form. -/
theorem writable_of_read {v : Value} (hreader : slot.reader = none)
    (h : slot.read context raw = some v) : v.toJson.Writable ∧ ∀ j, v ≠ .json j := by
  rw [read, hreader] at h
  dsimp only at h
  split at h
  · cases h
    exact ⟨.text _, fun _ => Value.noConfusion⟩
  · cases h
    exact ⟨.text _, fun _ => Value.noConfusion⟩
  · obtain ⟨x, hx, rfl⟩ := Option.map_eq_some_iff.1 h
    exact ⟨.real (isFinite_of_readNumber hx), fun _ => Value.noConfusion⟩
  · obtain ⟨x, hx, rfl⟩ := Option.map_eq_some_iff.1 h
    exact ⟨.text _, fun _ => Value.noConfusion⟩
  · obtain ⟨x, hx, rfl⟩ := Option.map_eq_some_iff.1 h
    exact ⟨.bool _, fun _ => Value.noConfusion⟩
  · obtain ⟨x, hx, rfl⟩ := Option.map_eq_some_iff.1 h
    exact ⟨.text _, fun _ => Value.noConfusion⟩
  · obtain ⟨⟨least, most⟩, hbounds, rfl⟩ := Option.map_eq_some_iff.1 h
    obtain ⟨hleast, hmost⟩ := isFinite_of_readRange hbounds
    exact ⟨Value.writable_range hleast hmost, fun _ => Value.noConfusion⟩

end Slot

namespace Ranking

variable {i : Intent}

theorem exists_read_of_get?_extractPayload {captures : Captures} {context : Slot.Context} {k : String}
    {v : Slot.Value} (h : (extractPayload i captures context).get? k = some v) :
    ∃ p ∈ i.slots, ∃ raw, p.slot.read context raw = some v := by
  rw [extractPayload_eq] at h
  obtain ⟨p, hp, hvalue⟩ := List.mem_filterMap.1 (OrderedMap.mem_of_get?_ofList h)
  obtain ⟨x, hx, ⟨⟩⟩ := Option.map_eq_some_iff.1 hvalue
  obtain ⟨raw, -, hread⟩ := Option.bind_eq_some_iff.1 hx
  exact ⟨p, hp, raw, hread⟩

/-- The payload of a match has a written form, and comes back from it but for texts that read as dates,
which come back as those dates. -/
theorem ofJson?_toJson_extractPayload (h : ∀ p ∈ i.slots, p.slot.reader = none)
    (captures : Captures) (context : Slot.Context) :
    let p := extractPayload i captures context
    p.toJson.Writable ∧ Payload.ofJson? p.toJson = some (p.map Slot.Value.dated) ∧
      (Payload.ofJson? p.toJson = some p ↔ ∀ s ∈ p.texts, Date.read? true s = none) := by
  intro p
  have hread : ∀ k v, p.get? k = some v → v.toJson.Writable ∧ ∀ j, v ≠ .json j := by
    intro k v hv
    obtain ⟨slot, hslot, raw, hraw⟩ := exists_read_of_get?_extractPayload hv
    exact Slot.writable_of_read (h slot hslot) hraw
  have hback : Payload.ofJson? p.toJson = some (p.map Slot.Value.dated) := by
    rw [Payload.ofJson?_toJson]
    apply congrArg some
    apply OrderedMap.ext_get?
    intro k
    rw [OrderedMap.get?_map, OrderedMap.get?_map]
    cases hv : p.get? k with
    | none => rfl
    | some v => exact congrArg some (Slot.Value.ofJson_toJson (hread k v hv).2)
  refine ⟨Payload.writable_toJson fun k v hv => (hread k v hv).1, hback, ?_⟩
  rw [hback, Option.some_inj, OrderedMap.map_eq_self_iff]
  constructor
  · intro hself s hs
    obtain ⟨k, hk⟩ := Payload.mem_texts.1 hs
    exact Slot.Value.dated_eq_self_iff.1 (hself k _ hk) s rfl
  · intro hdates k v hv
    rw [Slot.Value.dated_eq_self_iff]
    rintro s rfl
    exact hdates s (Payload.mem_texts.2 ⟨k, hv⟩)

/-- A number and a text that is no date come back as they are. -/
theorem ofJson?_toJson_extractPayload_room :
    ∃ i, Intent.compile (.spoken "sala \x7bn\x7d para \x7bq\x7d" [("n", .number), ("q", .text)])
        "sala \x7bn\x7d para \x7bq\x7d" .canonical "es" {} = .ok i ∧
      (∀ p ∈ i.slots, p.slot.reader = none) ∧
      ∃ c, i.matchText (Text.normalize {} i.locale "sala 12 para el 5-1") = some c ∧
        let p := extractPayload i c ⟨"es", ⟨2024, 5, 10, by decide⟩⟩
        (p.entries.map fun e => e.2.rank) = [1, 4] ∧ Payload.ofJson? p.toJson = some p := by
  obtain ⟨i, hcompile, hreader, c, hmatch, hranks, htexts⟩ :
      ∃ i ∈ (Intent.compile (.spoken "sala \x7bn\x7d para \x7bq\x7d" [("n", .number), ("q", .text)])
          "sala \x7bn\x7d para \x7bq\x7d" .canonical "es" {}).toOption,
        (∀ p ∈ i.slots, p.slot.reader.isNone) ∧
        ∃ c ∈ i.matchText (Text.normalize {} i.locale "sala 12 para el 5-1"),
          let p := extractPayload i c ⟨"es", ⟨2024, 5, 10, by decide⟩⟩
          (p.entries.map fun e => e.2.rank) = [1, 4] ∧ ∀ s ∈ p.texts, Date.read? true s = none := by
    decide +kernel
  have hreader : ∀ p ∈ i.slots, p.slot.reader = none := by simpa using hreader
  obtain ⟨-, -, hback⟩ :=
    ofJson?_toJson_extractPayload hreader c ⟨"es", ⟨2024, 5, 10, by decide⟩⟩
  exact ⟨i, eq_ok_of_mem_toOption hcompile, hreader, c, hmatch, hranks, hback.2 htexts⟩

/-- A text that reads as a date comes back as a date. -/
theorem exists_ofJson?_toJson_extractPayload_ne :
    ¬∀ (spec : Spec) (phrase : String) (kind : PhraseKind) (locale : String) (lex : Lexicon)
      (i : Intent), Intent.compile spec phrase kind locale lex = .ok i →
        (∀ p ∈ i.slots, p.slot.reader = none) → ∀ (captures : Captures) (context : Slot.Context),
          Payload.ofJson? (extractPayload i captures context).toJson =
            some (extractPayload i captures context) := by
  intro h
  obtain ⟨i, hcompile, hreader, c, hmatch, hranks, hback⟩ :
      ∃ i ∈ (Intent.compile (.spoken "busca \x7bq\x7d" [("q", .text)]) "busca \x7bq\x7d" .canonical
          "es" {}).toOption,
        (∀ p ∈ i.slots, p.slot.reader.isNone) ∧
        ∃ c ∈ i.matchText (Text.normalize {} i.locale "busca 2024-05-10"),
          let p := extractPayload i c ⟨"es", ⟨2024, 5, 10, by decide⟩⟩
          (p.entries.map fun e => e.2.rank) = [4] ∧
            ((Payload.ofJson? p.toJson).map fun q => q.entries.map fun e => e.2.rank) = some [3] := by
    decide +kernel
  have hself := h _ _ _ _ _ i (eq_ok_of_mem_toOption hcompile) (by simpa using hreader) c
    ⟨"es", ⟨2024, 5, 10, by decide⟩⟩
  rw [hself, Option.map_some, hranks] at hback
  exact absurd hback (by decide)

end Ranking

end Parlance
