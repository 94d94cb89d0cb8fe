import RowQuery.Filter.Basic
/-!
The sizes of filters.

Reading never grows: a filter read from JSON is no larger than the JSON value, so the filter that an
entry means is no larger than the entry (`Entry.size_le_of_filter?`). The members of a group and the
filters that entries mean are therefore strictly smaller than the filter that holds them.
-/

namespace RowQuery
namespace Filter

/-! ### Values -/

mutual

theorem Value.size_toJson : (v : Value) → v.toJson.size = v.size
  | .null | .bool _ | .int _ | .float _ | .str _ => by
    simp [Value.toJson, Value.size, Json.Value.size, Json.Value.int, Json.Value.float]
  | .list items => by
    simp [Value.toJson, Value.size, Json.Value.size, Value.size_toJsonItems items]
  | .range lower upper => by
    simp [Value.toJson, Value.size, Json.Value.size, Json.Value.sizeMembers,
      Value.size_toJson lower, Value.size_toJson upper, Nat.add_assoc]

theorem Value.size_toJsonItems :
    (items : List Value) → Json.Value.sizeItems (Value.toJsonItems items) = Value.sizeItems items
  | [] => rfl
  | v :: rest => by
    simp [Value.toJsonItems, Value.sizeItems, Json.Value.sizeItems, Value.size_toJson v,
      Value.size_toJsonItems rest]

end

theorem sizeMembers_comparisonJson (operators : List (String × Value)) :
    Json.Value.sizeMembers (comparisonJson operators) = sizeOperators operators := by
  induction operators with
  | nil => rfl
  | cons op rest ih =>
    simp [comparisonJson, Json.Value.sizeMembers, sizeOperators, Value.size_toJson, ih]

theorem Value.size_ofNumber? {n : Json.Number} {v : Value} (h : Value.ofNumber? n = some v) :
    v.size = 1 := by
  unfold Value.ofNumber? at h
  split at h
  · cases h; rfl
  · obtain ⟨x, -, rfl⟩ := Option.map_eq_some_iff.1 h; rfl

mutual

theorem Value.size_of_read? : (j : Json.Value) → {v : Value} → Value.read? j = some v →
    v.size = j.size
  | .null, v, h | .bool _, v, h | .str _, v, h => by
    simp only [Value.read?, Option.some.injEq] at h; subst h; rfl
  | .num n, v, h => by
    simp only [Value.read?] at h; simp [Value.size_ofNumber? h, Json.Value.size]
  | .arr items, v, h => by
    simp only [Value.read?] at h
    obtain ⟨vs, hvs, rfl⟩ := Option.map_eq_some_iff.1 h
    simp [Value.size, Json.Value.size, Value.size_of_readItems? items hvs]
  | .obj members, v, h => by
    simp only [Value.read?, bind, Option.bind_eq_some_iff] at h
    obtain ⟨ms, hms, h⟩ := h
    have size := Value.size_of_readMembers? members hms
    split at h
    · simp only [sizeOperators] at size
      split at h
      · cases h; simp only [Value.size, Json.Value.size]; omega
      · split at h
        · cases h; simp only [Value.size, Json.Value.size]; omega
        · cases h
    · cases h

theorem Value.size_of_readItems? : (js : List Json.Value) → {vs : List Value} →
    Value.readItems? js = some vs → Value.sizeItems vs = Json.Value.sizeItems js
  | [], vs, h => by simp only [Value.readItems?, Option.some.injEq] at h; subst h; rfl
  | j :: rest, vs, h => by
    simp only [Value.readItems?, bind, Option.bind_eq_some_iff] at h
    obtain ⟨v, hv, vs', hvs, h⟩ := h
    cases h
    simp [Value.sizeItems, Json.Value.sizeItems, Value.size_of_read? j hv,
      Value.size_of_readItems? rest hvs]

theorem Value.size_of_readMembers? : (js : List (String × Json.Value)) →
    {ms : List (String × Value)} → Value.readMembers? js = some ms →
    sizeOperators ms = Json.Value.sizeMembers js
  | [], ms, h => by simp only [Value.readMembers?, Option.some.injEq] at h; subst h; rfl
  | (name, j) :: rest, ms, h => by
    simp only [Value.readMembers?, bind, Option.bind_eq_some_iff] at h
    obtain ⟨v, hv, vs', hvs, h⟩ := h
    cases h
    simp [sizeOperators, Json.Value.sizeMembers, Value.size_of_read? j hv,
      Value.size_of_readMembers? rest hvs]

end

/-! ### Entries under one name -/

theorem sizeOperators_insert (op : String) (v : Value) (d : Dict Value) :
    sizeOperators (Dict.insert op v d) ≤ v.size + sizeOperators d := by
  induction d with
  | nil => simp [Dict.insert, sizeOperators]
  | cons e rest ih =>
    simp only [Dict.insert]
    split
    · simp [sizeOperators]
    · split <;> simp only [sizeOperators] <;> omega

theorem sizeFields_insert (name : String) (e : Entry) (d : Dict Entry) :
    sizeFields (Dict.insert name e d) ≤ sizeEntry e + sizeFields d := by
  induction d with
  | nil => simp [Dict.insert, sizeFields]
  | cons e rest ih =>
    simp only [Dict.insert]
    split
    · simp [sizeFields]
    · split <;> simp only [sizeFields] <;> omega

theorem sizeOperators_foldl (entries : List (String × Value)) (d : Dict Value) :
    sizeOperators (entries.foldl (fun d e => Dict.insert e.1 e.2 d) d)
      ≤ sizeOperators entries + sizeOperators d := by
  induction entries generalizing d with
  | nil => simp [sizeOperators]
  | cons e rest ih =>
    have := ih (Dict.insert e.1 e.2 d)
    have := sizeOperators_insert e.1 e.2 d
    simp only [List.foldl_cons, sizeOperators]; omega

theorem sizeFields_foldl (entries : List (String × Entry)) (d : Dict Entry) :
    sizeFields (entries.foldl (fun d e => Dict.insert e.1 e.2 d) d)
      ≤ sizeFields entries + sizeFields d := by
  induction entries generalizing d with
  | nil => simp [sizeFields]
  | cons e rest ih =>
    have := ih (Dict.insert e.1 e.2 d)
    have := sizeFields_insert e.1 e.2 d
    simp only [List.foldl_cons, sizeFields]; omega

theorem sizeOperators_ofList (entries : List (String × Value)) :
    sizeOperators (Dict.ofList entries) ≤ sizeOperators entries :=
  sizeOperators_foldl entries []

theorem sizeFields_ofList (entries : List (String × Entry)) :
    sizeFields (Dict.ofList entries) ≤ sizeFields entries :=
  sizeFields_foldl entries []

/-! ### Filters -/

/-- The size that a part brings to a filter. -/
def Part.size : Part → Nat
  | .ands fs | .ors fs => sizeGroup fs
  | .field _ e => sizeEntry e

theorem sizeGroup_append (fs gs : List Filter) :
    sizeGroup (fs ++ gs) = sizeGroup fs + sizeGroup gs := by
  induction fs with
  | nil => simp [sizeGroup]
  | cons f rest ih => simp [sizeGroup, ih, Nat.add_assoc]

theorem size_of_ofParts? {parts : List Part} {f : Filter} (h : ofParts? parts = some f) :
    f.size ≤ 1 + (parts.map Part.size).sum := by
  have key : ∀ ps : List Part,
      sizeGroup (ps.filterMap Part.ands?).flatten + sizeGroup (ps.filterMap Part.ors?).flatten
        + sizeFields (ps.filterMap Part.field?) = (ps.map Part.size).sum := by
    intro ps
    induction ps with
    | nil => rfl
    | cons p rest ih =>
      cases p <;>
        simp only [List.filterMap_cons, Part.ands?, Part.ors?, Part.field?, List.flatten_cons,
          sizeGroup_append, sizeFields, List.map_cons, List.sum_cons, Part.size] <;> omega
  have := key parts
  unfold ofParts? at h
  simp only at h
  split at h
  · cases h
    have := sizeFields_ofList (parts.filterMap Part.field?)
    simp only [size]; omega
  · cases h

theorem size_of_readComparison? {j : Json.Value} {operators : Dict Value}
    (h : readComparison? j = some operators) : 1 + sizeOperators operators ≤ j.size := by
  cases j <;> simp only [readComparison?, reduceCtorEq] at h
  rename_i members
  obtain ⟨ms, hms, rfl⟩ := Option.map_eq_some_iff.1 h
  have := Value.size_of_readMembers? members hms
  have := sizeOperators_ofList ms
  simp only [Json.Value.size]; omega

mutual

theorem size_of_read? : (j : Json.Value) → {f : Filter} → read? j = some f → f.size ≤ j.size
  | .null, f, h | .bool _, f, h | .num _, f, h | .str _, f, h | .arr _, f, h => by
    simp [read?] at h
  | .obj members, f, h => by
    simp only [read?, bind, Option.bind_eq_some_iff] at h
    obtain ⟨parts, hparts, h⟩ := h
    have := size_of_readParts? members hparts
    have := size_of_ofParts? h
    simp only [Json.Value.size]; omega

theorem size_of_readParts? : (js : List (String × Json.Value)) → {parts : List Part} →
    readParts? js = some parts → (parts.map Part.size).sum ≤ Json.Value.sizeMembers js
  | [], parts, h => by simp only [readParts?, Option.some.injEq] at h; subst h; simp
  | (name, j) :: rest, parts, h => by
    simp only [readParts?, bind, Option.bind_eq_some_iff] at h
    obtain ⟨part, hpart, parts', hparts, h⟩ := h
    cases h
    have := size_of_readParts? rest hparts
    have : part.size ≤ j.size := by
      split at hpart
      · obtain ⟨fs, hfs, rfl⟩ := Option.map_eq_some_iff.1 hpart
        exact size_of_readGroup? j hfs
      · split at hpart
        · obtain ⟨fs, hfs, rfl⟩ := Option.map_eq_some_iff.1 hpart
          exact size_of_readGroup? j hfs
        · split at hpart
          · rename_i operators hops
            cases hpart
            exact size_of_readComparison? hops
          · obtain ⟨f, hf, rfl⟩ := Option.map_eq_some_iff.1 hpart
            exact size_of_read? j hf
    simp only [List.map_cons, List.sum_cons, Json.Value.sizeMembers]; omega

theorem size_of_readGroup? : (j : Json.Value) → {fs : List Filter} → readGroup? j = some fs →
    sizeGroup fs ≤ j.size
  | .null, f, h | .bool _, f, h | .num _, f, h | .str _, f, h | .obj _, f, h => by
    simp [readGroup?] at h
  | .arr items, fs, h => by
    simp only [readGroup?] at h
    have := size_of_readItems? items h
    simp only [Json.Value.size]; omega

theorem size_of_readItems? : (js : List Json.Value) → {fs : List Filter} →
    readItems? js = some fs → sizeGroup fs ≤ Json.Value.sizeItems js
  | [], fs, h => by
    simp only [readItems?, Option.some.injEq] at h; subst h; simp [sizeGroup]
  | j :: rest, fs, h => by
    simp only [readItems?, bind, Option.bind_eq_some_iff] at h
    obtain ⟨f, hf, fs', hfs, h⟩ := h
    cases h
    have := size_of_read? j hf
    have := size_of_readItems? rest hfs
    simp only [sizeGroup, Json.Value.sizeItems]; omega

end

theorem size_pos (f : Filter) : 0 < f.size := by cases f; simp only [size]; omega

end Filter

/-- The filter that an entry means is no larger than the entry. -/
theorem Entry.size_le_of_filter? {e : Entry} {f : Filter} (h : e.filter? = some f) :
    f.size ≤ Filter.sizeEntry e := by
  unfold Entry.filter? at h
  split at h
  · cases h; simp [Filter.sizeEntry]
  · cases h; simp [Filter.sizeEntry, Filter.empty, Filter.size, Filter.sizeGroup,
      Filter.sizeFields, Filter.sizeOperators]
  · have := Filter.size_of_read? _ h
    simp only [Json.Value.size, Filter.sizeMembers_comparisonJson] at this
    simpa [Filter.sizeEntry] using this

end RowQuery
