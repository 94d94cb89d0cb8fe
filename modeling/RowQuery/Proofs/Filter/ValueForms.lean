import RowQuery.Proofs.Dict
import RowQuery.Proofs.Filter.Reread
import RowQuery.Proofs.Json.RoundTrip
/-!
The forms of a value.

A value is read from JSON in two ways. One tries the kinds of values in a fixed order and takes an
object for a range; the other goes by the kind of the JSON and has nothing for an object. A value is
written in two ways as well: as a JSON value of its own, or by the calls it makes on a serializer.
-/

namespace RowQuery

/-! ### Plain JSON -/

namespace Json.Value

mutual

/-- Whether there is an object in the value, at any depth. -/
def hasObject : Value → Bool
  | .obj _ => true
  | .arr items => hasObjectItems items
  | .null | .bool _ | .num _ | .str _ => false

/-- Whether there is an object in an item. -/
def hasObjectItems : List Value → Bool
  | [] => false
  | v :: rest => hasObject v || hasObjectItems rest

end

mutual

/-- The integers of the value are ones of 64 bits, signed or not. -/
def NumbersFit : Value → Prop
  | .num (.int i) => FitsJson i
  | .arr items => NumbersFitItems items
  | .obj members => NumbersFitMembers members
  | .num (.float _) | .null | .bool _ | .str _ => True

/-- `NumbersFit` of every item. -/
def NumbersFitItems : List Value → Prop
  | [] => True
  | v :: rest => NumbersFit v ∧ NumbersFitItems rest

/-- `NumbersFit` of every member. -/
def NumbersFitMembers : List (String × Value) → Prop
  | [] => True
  | (_, v) :: rest => NumbersFit v ∧ NumbersFitMembers rest

end
end Json.Value

namespace Filter

/-! ### Serialization -/

/-- What becomes of the calls that a value makes when it is serialized. -/
structure Serializer (α : Type) where
  unit : α
  bool : Bool → α
  int : Int → α
  float : Binary64 → α
  str : String → α
  seq : List α → α
  fields : List (String × α) → α

namespace Serializer

/-- Makes a JSON value. The fields are put into a map. -/
def json : Serializer Json.Value where
  unit := .null
  bool := .bool
  int := .int
  float := .float
  str := .str
  seq := .arr
  fields := fun members => .obj (Dict.ofList members)

/-- Writes the compact text. -/
def text : Serializer (List Char) where
  unit := "null".toList
  bool := fun b => (if b then "true" else "false").toList
  int := Json.Writer.intText
  float := fun x => (DecimalStyle.json.text x).toList
  str := Json.Writer.stringText
  seq := fun items => '[' :: (Json.separated items ++ [']'])
  fields := fun members => '{' :: (Json.separated
    (members.map fun m => Json.Writer.stringText m.1 ++ ':' :: m.2) ++ ['}'])

end Serializer

namespace Value

section
variable {α : Type} (s : Serializer α)

mutual

/-- Serializes a value: each kind as what it holds, a range as its two bounds. -/
def serialize : Value → α
  | .null => s.unit
  | .bool b => s.bool b
  | .int i => s.int i
  | .float x => s.float x
  | .str t => s.str t
  | .list items => s.seq (serializeItems items)
  | .range lower upper => s.fields [(lowerName, serialize lower), (upperName, serialize upper)]

/-- `serialize` on every item. -/
def serializeItems : List Value → List α
  | [] => []
  | v :: rest => serialize v :: serializeItems rest

end
end

mutual

theorem serialize_json : (v : Value) → v.serialize .json = v.toJson
  | .null | .bool _ | .int _ | .float _ | .str _ => rfl
  | .list items => by
    rw [serialize, toJson, serializeItems_json items]
    rfl
  | .range lower upper => by
    rw [serialize, toJson, serialize_json lower, serialize_json upper]
    have hlt : lowerName < upperName := by decide
    have hsorted : Dict.Sorted [(lowerName, toJson lower), (upperName, toJson upper)] :=
      List.pairwise_pair.2 hlt
    exact congrArg Json.Value.obj hsorted.ofList_eq

theorem serializeItems_json : (items : List Value) →
    serializeItems .json items = toJsonItems items
  | [] => rfl
  | v :: rest => by
    rw [serializeItems, toJsonItems, serialize_json v, serializeItems_json rest]

end

mutual

theorem serialize_text : (v : Value) → v.serialize .text = Json.Writer.compact v.toJson
  | .null | .int _ | .float _ | .str _ => rfl
  | .bool b => by cases b <;> rfl
  | .list items => by
    rw [serialize, toJson, serializeItems_text items, Json.Writer.compact, Json.compactItems_eq]
    rfl
  | .range lower upper => by
    rw [serialize, toJson, serialize_text lower, serialize_text upper, Json.Writer.compact,
      Json.compactMembers_eq]
    rfl

theorem serializeItems_text : (items : List Value) →
    serializeItems .text items = (toJsonItems items).map Json.Writer.compact
  | [] => rfl
  | v :: rest => by
    rw [serializeItems, toJsonItems, List.map_cons, serialize_text v, serializeItems_text rest]

end

/-! ### Reading -/

section
variable (read : Json.Value → Option Value)

/-- Reads a range, by a reader of its bounds: an object of the two members, or an array of two
items. -/
def readRange? : Json.Value → Option Value
  | .obj members =>
    if members.length = 2 then do
      let lower ← (Dict.find? members lowerName).bind read
      let upper ← (Dict.find? members upperName).bind read
      some (.range lower upper)
    else none
  | .arr [lower, upper] => do some (.range (← read lower) (← read upper))
  | .arr _ | .null | .bool _ | .num _ | .str _ => none

/-- The kinds of values in the order in which they are tried, by a reader of what they hold. -/
def readers : List (Json.Value → Option Value) :=
  [fun j => if j.isNull then some .null else none, fun j => j.bool?.map .bool,
    fun j => j.int64?.map .int, fun j => j.binary64?.map .float, fun j => j.text?.map .str,
    fun j => (j.items?.bind fun items => items.mapM read).map .list, readRange? read]

/-- The first kind of value that the JSON can be read as. -/
def readInOrder? (j : Json.Value) : Option Value := (readers read).findSome? fun reader => reader j

end

theorem readItems?_eq_mapM (items : List Json.Value) : readItems? items = items.mapM read? := by
  induction items with
  | nil => rfl
  | cons j rest ih =>
    rw [readItems?, ih, List.mapM_cons]
    rfl

/-- The pair of members that two lookups find is that of the bounds. -/
theorem isBounds_of_find? {members : List (String × Json.Value)} {jl ju : Json.Value}
    (hlength : members.length = 2) (hl : Dict.find? members lowerName = some jl)
    (hu : Dict.find? members upperName = some ju) : IsBounds (.obj members) jl ju := by
  obtain ⟨⟨a, x⟩, ⟨b, y⟩, rfl⟩ := List.length_eq_two.1 hlength
  have hne : lowerName ≠ upperName := by decide
  rw [Dict.find?_cons] at hl hu
  by_cases ha : a = lowerName
  · subst ha
    rw [if_pos rfl] at hl
    rw [if_neg hne, Dict.find?_cons, Dict.find?_nil, Option.ite_none_right_eq_some] at hu
    obtain ⟨rfl, hu⟩ := hu
    rw [Option.some.inj hl, Option.some.inj hu]
    exact .inl rfl
  · rw [if_neg ha, Dict.find?_cons, Dict.find?_nil, Option.ite_none_right_eq_some] at hl
    obtain ⟨rfl, hl⟩ := hl
    have hupper : a = upperName := by
      refine Decidable.byContradiction fun hupper => ?_
      rw [if_neg hupper, Dict.find?_cons, if_neg hne] at hu
      cases hu
    rw [if_pos hupper] at hu
    rw [hupper, Option.some.inj hl, Option.some.inj hu]
    exact .inr rfl

theorem find?_of_isBounds {members : List (String × Json.Value)} {jl ju : Json.Value}
    (h : IsBounds (.obj members) jl ju) : members.length = 2 ∧
      Dict.find? members lowerName = some jl ∧ Dict.find? members upperName = some ju := by
  rcases h with h | h
  · cases h
    exact ⟨rfl, rfl, rfl⟩
  · cases h
    exact ⟨rfl, rfl, rfl⟩

theorem read?_of_isBounds {j jl ju : Json.Value} {lower upper : Value} (h : IsBounds j jl ju)
    (hl : read? jl = some lower) (hu : read? ju = some upper) :
    read? j = some (.range lower upper) := by
  rcases h with rfl | rfl
  · simp only [read?, readMembers?, hl, hu]
    rfl
  · simp only [read?, readMembers?, hl, hu]
    rfl

/-- Reading an object is reading a range. -/
theorem read?_obj (members : List (String × Json.Value)) :
    read? (.obj members) = readRange? read? (.obj members) := by
  ext w
  simp only [readRange?, Option.ite_none_right_eq_some, bind, Option.bind_eq_some_iff]
  constructor
  · intro h
    rcases read?_cases h with ⟨hnone, -⟩ | ⟨lower, upper, jl, ju, rfl, hl, hu, hbounds⟩
    · cases hnone
    · obtain ⟨hlength, hjl, hju⟩ := find?_of_isBounds hbounds
      exact ⟨hlength, lower, ⟨jl, hjl, hl⟩, upper, ⟨ju, hju, hu⟩, rfl⟩
  · rintro ⟨hlength, lower, ⟨jl, hjl, hl⟩, upper, ⟨ju, hju, hu⟩, h⟩
    cases h
    exact read?_of_isBounds (isBounds_of_find? hlength hjl hju) hl hu

/-- An array of two items that is no list is no range. -/
theorem readRange?_arr_of_readItems? {items : List Json.Value} (h : readItems? items = none) :
    readRange? read? (.arr items) = none := by
  unfold readRange?
  split
  · rename_i hobj
    cases hobj
  · rename_i lower upper harr
    cases harr
    simp only [readItems?, bind] at h
    cases hlower : read? lower with
    | none => rfl
    | some v =>
      cases hupper : read? upper with
      | none => rfl
      | some w => simp [hlower, hupper] at h
  all_goals rfl

section
variable (read : Json.Value → Option Value)

theorem readInOrder?_num (n : Json.Number) :
    readInOrder? read (.num n) = (n.int64?.map .int).or (n.binary64?.map .float) := by
  rw [readInOrder?]
  cases hint : n.int64? <;> cases hfloat : n.binary64? <;>
    simp [readers, Json.Value.isNull, Json.Value.bool?, Json.Value.int64?, hint,
      Json.Value.binary64?, hfloat, Json.Value.text?, Json.Value.items?, readRange?]

theorem readInOrder?_arr (items : List Json.Value) : readInOrder? read (.arr items)
    = ((items.mapM read).map .list).or (readRange? read (.arr items)) := by
  rw [readInOrder?]
  cases hlist : items.mapM read <;> cases hrange : readRange? read (.arr items) <;>
    simp [readers, Json.Value.isNull, Json.Value.bool?, Json.Value.int64?, Json.Value.binary64?,
      Json.Value.text?, Json.Value.items?, hlist, hrange]

theorem readInOrder?_obj (members : List (String × Json.Value)) :
    readInOrder? read (.obj members) = readRange? read (.obj members) := by
  rw [readInOrder?]
  cases hrange : readRange? read (.obj members) <;>
    simp [readers, Json.Value.isNull, Json.Value.bool?, Json.Value.int64?, Json.Value.binary64?,
      Json.Value.text?, Json.Value.items?, hrange]

end

/-- The reader by the kind of the JSON finds what trying the kinds of values in turn finds. -/
theorem read?_eq_readInOrder? (j : Json.Value) : read? j = readInOrder? read? j := by
  cases j with
  | null | bool | str => rfl
  | num n =>
    rw [readInOrder?_num, read?, ofNumber?]
    cases n.int64? <;> rfl
  | arr items =>
    rw [readInOrder?_arr, read?, readItems?_eq_mapM]
    cases hitems : items.mapM read? with
    | some vs => rfl
    | none =>
      rw [← readItems?_eq_mapM] at hitems
      exact (readRange?_arr_of_readItems? hitems).symm
  | obj members => rw [readInOrder?_obj, read?_obj]

section
variable {read : Json.Value → Option Value}

theorem mapM_eq_of_forall {items : List Json.Value} (h : ∀ k ∈ items, read k = read? k) :
    items.mapM read = items.mapM read? := by
  induction items with
  | nil => rfl
  | cons k rest ih =>
    rw [List.forall_mem_cons] at h
    rw [List.mapM_cons, List.mapM_cons, h.1, ih h.2]

theorem readRange?_arr_of_forall {items : List Json.Value} (h : ∀ k ∈ items, read k = read? k) :
    readRange? read (.arr items) = readRange? read? (.arr items) := by
  match items, h with
  | [lower, upper], h => rw [readRange?, readRange?, h lower (by simp), h upper (by simp)]
  | [], _ | [_], _ | _ :: _ :: _ :: _, _ => rfl

theorem readRange?_obj_of_forall {members : List (String × Json.Value)}
    (h : ∀ m ∈ members, read m.2 = read? m.2) :
    readRange? read (.obj members) = readRange? read? (.obj members) := by
  have hfind : ∀ name, (Dict.find? members name).bind read = (Dict.find? members name).bind read? :=
    fun name => Option.bind_congr fun k hk => h (name, k) (Dict.mem_of_find? hk)
  rw [readRange?, readRange?, hfind, hfind]

mutual

/-- No other reader tries the kinds of values in this order. -/
theorem eq_read?_of_readInOrder? (h : ∀ j, read j = readInOrder? read j) :
    (j : Json.Value) → read j = read? j
  | .null | .bool _ | .str _ => h _
  | .num n => by rw [h, read?_eq_readInOrder?, readInOrder?_num, readInOrder?_num]
  | .arr items => by
    have hitems := forall_items_eq_read? h items
    rw [h, read?_eq_readInOrder?, readInOrder?_arr, readInOrder?_arr, mapM_eq_of_forall hitems,
      readRange?_arr_of_forall hitems]
  | .obj members => by
    rw [h, read?_eq_readInOrder?, readInOrder?_obj, readInOrder?_obj,
      readRange?_obj_of_forall (forall_members_eq_read? h members)]

theorem forall_items_eq_read? (h : ∀ j, read j = readInOrder? read j) :
    (items : List Json.Value) → ∀ k ∈ items, read k = read? k
  | [] => List.forall_mem_nil _
  | j :: rest =>
    List.forall_mem_cons.2 ⟨eq_read?_of_readInOrder? h j, forall_items_eq_read? h rest⟩

theorem forall_members_eq_read? (h : ∀ j, read j = readInOrder? read j) :
    (members : List (String × Json.Value)) → ∀ m ∈ members, read m.2 = read? m.2
  | [] => List.forall_mem_nil _
  | (_, j) :: rest =>
    List.forall_mem_cons.2 ⟨eq_read?_of_readInOrder? h j, forall_members_eq_read? h rest⟩

end
end

/-! ### Values of plain JSON -/

mutual

/-- The conversion of plain JSON is the reader, but for objects. -/
theorem ofJson?_eq : (j : Json.Value) → ofJson? j = if j.hasObject then none else read? j
  | .null | .bool _ | .num _ | .str _ => rfl
  | .arr items => by
    rw [ofJson?, read?, Json.Value.hasObject, ofJsonItems?_eq items]
    cases Json.Value.hasObjectItems items <;> rfl
  | .obj _ => rfl

theorem ofJsonItems?_eq : (items : List Json.Value) →
    ofJsonItems? items = if Json.Value.hasObjectItems items then none else readItems? items
  | [] => rfl
  | j :: rest => by
    rw [ofJsonItems?, readItems?, Json.Value.hasObjectItems, ofJson?_eq j, ofJsonItems?_eq rest]
    cases j.hasObject <;> cases Json.Value.hasObjectItems rest <;> cases read? j <;> rfl

end

theorem isSome_ofNumber? {n : Json.Number} (h : (Json.Value.num n).NumbersFit) :
    (ofNumber? n).isSome := by
  rw [ofNumber?]
  split
  · rfl
  · cases n with
    | float x => rfl
    | int i =>
      have hfits : Json.FitsJson i := h
      have hmin : Json.minInt64 = -(2 ^ 63) := rfl
      have hmax : (Json.maxUInt64 : Int) = 2 ^ 64 - 1 := rfl
      obtain ⟨hlower, hupper⟩ := hfits
      rw [Option.isSome_map]
      exact Binary64.isSome_ofInt? (by omega)

mutual

/-- JSON without objects can be read. -/
theorem isSome_read? : (j : Json.Value) → j.hasObject = false → j.NumbersFit → (read? j).isSome
  | .null, _, _ | .bool _, _, _ | .str _, _, _ => rfl
  | .num _, _, h => isSome_ofNumber? h
  | .arr items, hobject, h => by
    rw [read?, Option.isSome_map]
    exact isSome_readItems? items hobject h
  | .obj _, hobject, _ => nomatch hobject

theorem isSome_readItems? : (items : List Json.Value) →
    Json.Value.hasObjectItems items = false → Json.Value.NumbersFitItems items →
      (readItems? items).isSome
  | [], _, _ => rfl
  | j :: rest, hobject, ⟨hj, hrest⟩ => by
    rw [Json.Value.hasObjectItems, Bool.or_eq_false_iff] at hobject
    obtain ⟨v, hv⟩ := Option.isSome_iff_exists.1 (isSome_read? j hobject.1 hj)
    obtain ⟨vs, hvs⟩ := Option.isSome_iff_exists.1 (isSome_readItems? rest hobject.2 hrest)
    rw [readItems?, hv, hvs]
    rfl

end

mutual

/-- Whether there is a range in the value, at any depth. -/
def hasRange : Value → Bool
  | .range _ _ => true
  | .list items => hasRangeItems items
  | .null | .bool _ | .int _ | .float _ | .str _ => false

/-- Whether there is a range in an item. -/
def hasRangeItems : List Value → Bool
  | [] => false
  | v :: rest => hasRange v || hasRangeItems rest

end

mutual

/-- The objects of the JSON form are the ranges. -/
theorem hasObject_toJson : (v : Value) → v.toJson.hasObject = v.hasRange
  | .null | .bool _ | .int _ | .float _ | .str _ | .range _ _ => rfl
  | .list items => hasObjectItems_toJsonItems items

theorem hasObjectItems_toJsonItems : (items : List Value) →
    Json.Value.hasObjectItems (toJsonItems items) = hasRangeItems items
  | [] => rfl
  | v :: rest => by
    rw [toJsonItems, Json.Value.hasObjectItems, hasRangeItems, hasObject_toJson v,
      hasObjectItems_toJsonItems rest]

end

theorem ofJson?_toJson {v : Value} (hv : v.InRange) :
    ofJson? v.toJson = if v.hasRange then none else some v := by
  rw [ofJson?_eq, hasObject_toJson, read?_toJson v hv]

/-- The forms of values agree. The reader is the one that tries the kinds of values in turn. JSON
without objects is read as what it is converted to, and both succeed. A value is serialized to its
JSON form and to the text of that, and read back from there. It is converted back just when there is
no range in it, and to nothing otherwise. -/
theorem forms_agree {j : Json.Value} {v : Value} (hj : j.NumbersFit) (hv : v.InRange) :
    (∀ read : Json.Value → Option Value,
      (∀ k, read k = readInOrder? read k) ↔ read = read?) ∧
    (j.hasObject = false → ∃ w, ofJson? j = some w ∧ read? j = some w) ∧
    v.serialize .json = v.toJson ∧ v.serialize .text = Json.Writer.compact v.toJson ∧
    read? v.toJson = some v ∧
    (ofJson? v.toJson = some v ↔ v.hasRange = false) ∧
    (ofJson? v.toJson = none ↔ v.hasRange = true) := by
  refine ⟨fun read => ⟨fun h => ?_, ?_⟩, fun hobject => ?_, serialize_json v, serialize_text v,
    read?_toJson v hv, ?_, ?_⟩
  · funext k
    exact eq_read?_of_readInOrder? h k
  · rintro rfl
    exact read?_eq_readInOrder?
  · obtain ⟨w, hw⟩ := Option.isSome_iff_exists.1 (isSome_read? j hobject hj)
    refine ⟨w, ?_, hw⟩
    rw [ofJson?_eq, hobject, if_neg Bool.false_ne_true, hw]
  · rw [ofJson?_toJson hv]
    cases v.hasRange <;> simp
  · rw [ofJson?_toJson hv]
    cases v.hasRange <;> simp

/-- An integer beyond 64 signed bits and a list in a list; and a range in a list. -/
theorem forms_agree_nested :
    let j : Json.Value := .arr [.int (2 ^ 63), .arr [.null]]
    let v : Value := .list [.int 1, .range .null (.str "a")]
    (∃ w, ofJson? j = some w ∧ read? j = some w) ∧ read? v.toJson = some v ∧
      ofJson? v.toJson = none := by
  intro j v
  have hj : j.NumbersFit := ⟨⟨by decide, by decide⟩, ⟨trivial, trivial⟩, trivial⟩
  have hone : Json.fitsInt64 1 = true := rfl
  have hv : v.InRange := ⟨hone, ⟨trivial, trivial⟩, trivial⟩
  obtain ⟨-, hread, -, -, hback, -, hnone⟩ := forms_agree hj hv
  exact ⟨hread rfl, hback, hnone.2 rfl⟩

end Value
end Filter
end RowQuery
