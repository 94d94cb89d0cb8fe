import RowQuery.Proofs.Filter.Range
/-!
Outlines of filters.

The outline of a value tells its kind and nothing else: every content gives way to one sample of its
kind. Filters with one outline have one tree, the same field names and the same operator names, with
values of one kind in every place. Whatever is decided before the values are looked at is decided by
the outline, so reading, resolving names and joining commute with taking outlines. That holds of
the comparisons that are read again as filters, too.
-/

namespace RowQuery

/-- The sample of a float: the least positive number. -/
def Binary64.sample : Binary64 := ⟨false, 1, 0, by decide⟩

/-! ### JSON -/

namespace Json

/-- The kind of a number, shown by a sample: an integer of 64 signed bits or another number. -/
def Number.outline (n : Number) : Number :=
  match n.int64?, n.binary64? with
  | some _, _ => .int 1
  | none, some _ => .float .sample
  | none, none => n

namespace Value

mutual

/-- The outline of a JSON value. The names of members stay. -/
def outline : Value → Value
  | .null => .null
  | .bool _ => .bool false
  | .num n => .num n.outline
  | .str _ => .str ""
  | .arr items => .arr (outlineItems items)
  | .obj members => .obj (outlineMembers members)

/-- `outline` of every item. -/
def outlineItems : List Value → List Value
  | [] => []
  | v :: rest => outline v :: outlineItems rest

/-- `outline` of every member. -/
def outlineMembers : List (String × Value) → List (String × Value)
  | [] => []
  | (name, v) :: rest => (name, outline v) :: outlineMembers rest

end

end Value
end Json

/-! ### Values -/

namespace Filter

namespace Value

mutual

/-- The outline of a value. -/
def outline : Value → Value
  | .null => .null
  | .bool _ => .bool false
  | .int _ => .int 1
  | .float _ => .float .sample
  | .str _ => .str ""
  | .list items => .list (outlineItems items)
  | .range lower upper => .range (outline lower) (outline upper)

/-- `outline` of every item. -/
def outlineItems : List Value → List Value
  | [] => []
  | v :: rest => outline v :: outlineItems rest

end

/-- The outlines of values under names. -/
def outlineMembers (members : List (String × Value)) : List (String × Value) :=
  members.map fun e => (e.1, e.2.outline)

mutual

theorem toJson_outline : (v : Value) → v.InRange → v.outline.toJson = v.toJson.outline
  | .null, _ | .bool _, _ | .str _, _ => rfl
  | .int i, h => by
    -- an integer beyond 64 bits would turn into a float in its JSON form
    have hfits : Json.fitsInt64 i = true := h
    simp only [outline, toJson, Json.Value.int, Json.Value.outline, Json.Number.outline,
      Json.Number.int64?, hfits, if_true]
  | .float _, _ => rfl
  | .list items, h => by
    rw [outline, toJson, toJson, Json.Value.outline, toJsonItems_outline items h]
  | .range lower upper, h => by
    rw [outline, toJson, toJson, Json.Value.outline, toJson_outline lower h.1,
      toJson_outline upper h.2]
    rfl

theorem toJsonItems_outline : (items : List Value) → InRangeItems items →
    toJsonItems (outlineItems items) = Json.Value.outlineItems (toJsonItems items)
  | [], _ => rfl
  | v :: rest, h => by
    rw [outlineItems, toJsonItems, toJsonItems, Json.Value.outlineItems, toJson_outline v h.1,
      toJsonItems_outline rest h.2]

end

theorem ofNumber?_outline (n : Json.Number) : ofNumber? n.outline = (ofNumber? n).map outline := by
  rw [ofNumber?, ofNumber?, Json.Number.outline]
  cases hint : n.int64? with
  | some i => rfl
  | none =>
    cases hfloat : n.binary64? with
    | some x => rfl
    | none =>
      simp only [hint, hfloat]
      rfl

mutual

theorem read?_outline : (j : Json.Value) → read? j.outline = (read? j).map outline
  | .null | .bool _ | .str _ => rfl
  | .num n => ofNumber?_outline n
  | .arr items => by
    rw [Json.Value.outline, read?, read?, readItems?_outline items]
    cases readItems? items <;> rfl
  | .obj members => by
    rw [Json.Value.outline, read?, read?, readMembers?_outline members]
    cases readMembers? members with
    | none => rfl
    | some ms =>
      match ms with
      | [] | [_] | _ :: _ :: _ :: _ => rfl
      | [(a, x), (b, y)] =>
        simp only [bind, Option.bind, Option.map, outlineMembers, List.map]
        split
        · rfl
        · split <;> rfl

theorem readItems?_outline : (items : List Json.Value) →
    readItems? (Json.Value.outlineItems items) = (readItems? items).map outlineItems
  | [] => rfl
  | j :: rest => by
    rw [Json.Value.outlineItems, readItems?, readItems?, read?_outline j, readItems?_outline rest]
    cases read? j <;> cases readItems? rest <;> rfl

theorem readMembers?_outline : (members : List (String × Json.Value)) →
    readMembers? (Json.Value.outlineMembers members) = (readMembers? members).map outlineMembers
  | [] => rfl
  | (name, j) :: rest => by
    rw [Json.Value.outlineMembers, readMembers?, readMembers?, read?_outline j,
      readMembers?_outline rest]
    cases read? j <;> cases readMembers? rest <;> rfl

end
end Value

/-! ### Filters -/

mutual

/-- The outline of a filter. -/
def outline : Filter → Filter
  | .node ands ors fields => .node (outlineAll ands) (outlineAll ors) (outlineFields fields)

/-- `outline` of every filter. -/
def outlineAll : List Filter → List Filter
  | [] => []
  | f :: rest => outline f :: outlineAll rest

/-- The outlines of entries. -/
def outlineFields : List (String × Entry) → List (String × Entry)
  | [] => []
  | (name, e) :: rest => (name, outlineEntry e) :: outlineFields rest

/-- The outline of an entry. -/
def outlineEntry : Entry → Entry
  | .comparison operators => .comparison (Value.outlineMembers operators)
  | .related f => .related (outline f)

end

theorem outlineAll_eq_map (fs : List Filter) : outlineAll fs = fs.map outline := by
  induction fs with
  | nil => rfl
  | cons f rest ih => rw [outlineAll, ih, List.map_cons]

theorem outlineFields_eq_map (fields : List (String × Entry)) :
    outlineFields fields = fields.map fun e => (e.1, outlineEntry e.2) := by
  induction fields with
  | nil => rfl
  | cons e rest ih => rw [outlineFields, ih, List.map_cons]

/-- The outline of a member of the JSON form of a filter. -/
def Part.outline : Part → Part
  | .ands filters => .ands (outlineAll filters)
  | .ors filters => .ors (outlineAll filters)
  | .field name entry => .field name (outlineEntry entry)

theorem filterMap_outline {α β γ δ : Type} {f : α → Option β} {g : γ → Option δ} {h : α → γ}
    {k : β → δ} (hk : ∀ a, g (h a) = (f a).map k) (xs : List α) :
    (xs.map h).filterMap g = (xs.filterMap f).map k := by
  rw [List.filterMap_map, List.map_filterMap]
  congr 1
  funext a
  rw [Function.comp_apply, hk]

theorem ofParts?_outline (parts : List Part) :
    ofParts? (parts.map Part.outline) = (ofParts? parts).map outline := by
  have hands : (parts.map Part.outline).filterMap Part.ands?
      = (parts.filterMap Part.ands?).map outlineAll :=
    filterMap_outline (fun p => by cases p <;> rfl) parts
  have hors : (parts.map Part.outline).filterMap Part.ors?
      = (parts.filterMap Part.ors?).map outlineAll :=
    filterMap_outline (fun p => by cases p <;> rfl) parts
  have hfields : (parts.map Part.outline).filterMap Part.field?
      = (parts.filterMap Part.field?).map fun e => (e.1, outlineEntry e.2) :=
    filterMap_outline (fun p => by cases p <;> rfl) parts
  have hflatten : ∀ groups : List (List Filter),
      (groups.map outlineAll).flatten = outlineAll groups.flatten := by
    intro groups
    simp only [show outlineAll = List.map outline from funext outlineAll_eq_map, List.map_flatten]
  simp only [ofParts?, hands, hors, hfields, hflatten, List.length_map, Dict.ofList_map]
  split
  · rw [Option.map_some, outline, outlineFields_eq_map]
  · rfl

theorem readComparison?_outline (j : Json.Value) :
    readComparison? j.outline = (readComparison? j).map Value.outlineMembers := by
  cases j with
  | obj members =>
    rw [Json.Value.outline, readComparison?, readComparison?, Value.readMembers?_outline]
    cases Value.readMembers? members with
    | none => rfl
    | some ms => exact congrArg some (Dict.ofList_map Value.outline ms)
  | null | bool | num | str | arr => rfl

mutual

/-- A filter is read from the outline of its JSON form as its outline. -/
theorem read?_outline : (j : Json.Value) → read? j.outline = (read? j).map outline
  | .null | .bool _ | .num _ | .str _ | .arr _ => rfl
  | .obj members => by
    rw [Json.Value.outline, read?, read?, readParts?_outline members]
    cases readParts? members with
    | none => rfl
    | some parts => exact ofParts?_outline parts

theorem readParts?_outline : (members : List (String × Json.Value)) →
    readParts? (Json.Value.outlineMembers members)
      = (readParts? members).map (List.map Part.outline)
  | [] => rfl
  | (name, j) :: rest => by
    simp only [Json.Value.outlineMembers, readParts?, readGroup?_outline j, read?_outline j,
      readComparison?_outline j, readParts?_outline rest]
    split
    · cases readGroup? j <;> cases readParts? rest <;> rfl
    · split
      · cases readGroup? j <;> cases readParts? rest <;> rfl
      · cases readComparison? j with
        | some operators => cases readParts? rest <;> rfl
        | none => cases read? j <;> cases readParts? rest <;> rfl

theorem readGroup?_outline : (j : Json.Value) →
    readGroup? j.outline = (readGroup? j).map outlineAll
  | .null | .bool _ | .num _ | .str _ | .obj _ => rfl
  | .arr items => by
    rw [Json.Value.outline, readGroup?, readGroup?, readItems?_outline items]

theorem readItems?_outline : (items : List Json.Value) →
    readItems? (Json.Value.outlineItems items) = (readItems? items).map outlineAll
  | [] => rfl
  | j :: rest => by
    rw [Json.Value.outlineItems, readItems?, readItems?, read?_outline j, readItems?_outline rest]
    cases read? j <;> cases readItems? rest <;> rfl

end

theorem comparisonJson_outline {operators : List (String × Value)}
    (h : ∀ o ∈ operators, o.2.InRange) :
    comparisonJson (Value.outlineMembers operators)
      = Json.Value.outlineMembers (comparisonJson operators) := by
  induction operators with
  | nil => rfl
  | cons o rest ih =>
    obtain ⟨hv, hrest⟩ := List.forall_mem_cons.1 h
    rw [Value.outlineMembers, List.map_cons, comparisonJson, comparisonJson,
      Json.Value.outlineMembers, Value.toJson_outline o.2 hv, ← ih hrest]
    rfl

/-- The filter that an entry means has the outline that the outline of the entry means. -/
theorem filter?_outlineEntry {e : Entry} (h : InRangeEntry e) :
    (outlineEntry e).filter? = e.filter?.map outline := by
  match e with
  | .related f => rfl
  | .comparison [] => rfl
  | .comparison (o :: rest) =>
    have hread : (outlineEntry (.comparison (o :: rest))).filter?
        = read? (.obj (comparisonJson (Value.outlineMembers (o :: rest)))) := rfl
    rw [hread, comparisonJson_outline h]
    exact read?_outline (.obj (comparisonJson (o :: rest)))

end Filter
end RowQuery
