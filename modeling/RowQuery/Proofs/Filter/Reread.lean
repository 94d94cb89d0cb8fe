import RowQuery.Proofs.Filter.Range
/-!
Filters read by way of an entry.

Under the name of a relation stands a filter, but many filters read as comparisons too: empty groups
are empty lists, and a member with two bounds is a range. Such an entry is written again from the
values it was read as, and then read as a filter. A value keeps what it was read from as far as a
filter, an entry or a group is concerned, and the order of members and all but the last of those
under one name never mattered, so the filter is the one that was there in the first place.
-/

namespace RowQuery
namespace Filter

variable {j : Json.Value} {w : Value} {f : Filter}

/-! ### Values read again -/

namespace Value

mutual

/-- The JSON form of a value is read as that value. -/
theorem read?_toJson : (v : Value) → v.InRange → read? v.toJson = some v
  | .null, _ | .bool _, _ | .str _, _ => rfl
  | .int i, h => by
    have hfits : Json.fitsInt64 i = true := h
    simp only [toJson, Json.Value.int, read?, ofNumber?, Json.Number.int64?, hfits, if_true]
  | .float _, _ => rfl
  | .list items, h => by
    rw [toJson, read?, readItems?_toJsonItems items h]
    rfl
  | .range lower upper, ⟨hlower, hupper⟩ => by
    simp only [toJson, read?, readMembers?, read?_toJson lower hlower, read?_toJson upper hupper]
    rfl

theorem readItems?_toJsonItems : (items : List Value) → InRangeItems items →
    readItems? (toJsonItems items) = some items
  | [], _ => rfl
  | v :: rest, ⟨hv, hrest⟩ => by
    rw [toJsonItems, readItems?, read?_toJson v hv, readItems?_toJsonItems rest hrest]
    rfl

end

/-- The object of two bounds, in either order. -/
def IsBounds (j jl ju : Json.Value) : Prop :=
  j = .obj [(lowerName, jl), (upperName, ju)] ∨ j = .obj [(upperName, ju), (lowerName, jl)]

theorem ofNumber?_cases {n : Json.Number} (h : ofNumber? n = some w) :
    (∃ i, w = .int i) ∨ ∃ x, w = .float x := by
  rw [ofNumber?] at h
  split at h
  · exact .inl ⟨_, (Option.some.inj h).symm⟩
  · obtain ⟨x, -, rfl⟩ := Option.map_eq_some_iff.1 h
    exact .inr ⟨x, rfl⟩

theorem eq_nil_of_readMembers? {members : List (String × Json.Value)}
    (h : readMembers? members = some []) : members = [] := by
  cases members with
  | nil => rfl
  | cons m rest => simp [readMembers?, bind, Option.bind_eq_some_iff] at h

theorem exists_of_readMembers?_cons {members : List (String × Json.Value)} {name : String}
    {rest : List (String × Value)} (h : readMembers? members = some ((name, w) :: rest)) :
    ∃ j js, members = (name, j) :: js ∧ read? j = some w ∧ readMembers? js = some rest := by
  cases members with
  | nil => cases h
  | cons m js =>
    simp only [readMembers?, bind, Option.bind_eq_some_iff] at h
    obtain ⟨v, hv, vs, hvs, h⟩ := h
    cases h
    exact ⟨m.2, js, rfl, hv, hvs⟩

/-- What is read as a value is no object, or it is the object of the bounds of a range. -/
theorem read?_cases {j : Json.Value} (h : read? j = some w) :
    (j.members? = none ∧ w.toJson.members? = none) ∨ ∃ lower upper jl ju,
      w = .range lower upper ∧ read? jl = some lower ∧ read? ju = some upper ∧
        IsBounds j jl ju := by
  cases j with
  | null | bool | str =>
    obtain rfl := Option.some.inj h
    exact .inl ⟨rfl, rfl⟩
  | num n =>
    rcases ofNumber?_cases h with ⟨i, rfl⟩ | ⟨x, rfl⟩
    · exact .inl ⟨rfl, rfl⟩
    · exact .inl ⟨rfl, rfl⟩
  | arr items =>
    obtain ⟨vs, -, rfl⟩ := Option.map_eq_some_iff.1 h
    exact .inl ⟨rfl, rfl⟩
  | obj members =>
    right
    simp only [read?, bind, Option.bind_eq_some_iff] at h
    obtain ⟨ms, hms, h⟩ := h
    split at h
    · rename_i a x b y
      obtain ⟨ja, js, rfl, ha, hjs⟩ := exists_of_readMembers?_cons hms
      obtain ⟨jb, js, rfl, hb, hjs⟩ := exists_of_readMembers?_cons hjs
      obtain rfl := eq_nil_of_readMembers? hjs
      split at h
      · rename_i hnames
        obtain ⟨rfl, rfl⟩ := hnames
        exact ⟨x, y, ja, jb, (Option.some.inj h).symm, ha, hb, .inl rfl⟩
      · split at h
        · rename_i hnames
          obtain ⟨rfl, rfl⟩ := hnames
          exact ⟨y, x, jb, ja, (Option.some.inj h).symm, hb, ha, .inr rfl⟩
        · cases h
    · cases h

end Value

/-! ### Members of a filter -/

/-- The part that a member is read as. -/
def part? (name : String) (j : Json.Value) : Option Part :=
  if name = andName then (readGroup? j).map .ands
  else if name = orName then (readGroup? j).map .ors
  else (Entry.read? j).map (.field name)

theorem readParts?_cons (name : String) (j : Json.Value) (rest : List (String × Json.Value)) :
    readParts? ((name, j) :: rest)
      = (part? name j).bind fun part => (readParts? rest).map (part :: ·) := by
  have hpart : readParts? ((name, j) :: rest)
      = (part? name j >>= fun part => readParts? rest >>= fun parts => some (part :: parts)) := by
    cases hcomparison : readComparison? j with
    | some operators => simp only [readParts?, part?, Entry.read?, hcomparison, Option.map_some]
    | none =>
      simp only [readParts?, part?, Entry.read?, hcomparison, Option.map_map, Function.comp_def]
  rw [hpart]
  cases readParts? rest <;> rfl

/-! ### Values in the place of filters -/

/-- The bounds of a range under their names are one comparison, in either order. -/
theorem ofList_bounds {α : Type} (lower upper : α) :
    Dict.ofList [(Value.upperName, upper), (Value.lowerName, lower)]
      = Dict.ofList [(Value.lowerName, lower), (Value.upperName, upper)] := by
  have hlt : Value.lowerName < Value.upperName := by decide
  have hgt : ¬ Value.upperName < Value.lowerName := by decide
  have hne : Value.upperName ≠ Value.lowerName := by decide
  simp only [Dict.ofList, List.foldl_cons, List.foldl_nil, Dict.insert, if_pos hlt, if_neg hgt,
    if_neg hne]

theorem readComparison?_eq_none (h : j.members? = none) : readComparison? j = none := by
  cases j with
  | obj members => cases h
  | null | bool | num | str | arr => rfl

theorem read?_eq_none (h : j.members? = none) : read? j = none := by
  cases j with
  | obj members => cases h
  | null | bool | num | str | arr => rfl

/-- What is read as a range is read as the comparison of its bounds. -/
theorem readComparison?_bounds {jl ju : Json.Value} {lower upper : Value}
    (hl : Value.read? jl = some lower) (hu : Value.read? ju = some upper)
    (hj : Value.IsBounds j jl ju) : readComparison? j
      = some (Dict.ofList [(Value.lowerName, lower), (Value.upperName, upper)]) := by
  rcases hj with rfl | rfl
  · simp only [readComparison?, Value.readMembers?, hl, hu]
    rfl
  · simp only [readComparison?, Value.readMembers?, hl, hu]
    exact congrArg some (ofList_bounds lower upper)

/-- The JSON form of a value is the same entry as what the value was read from. -/
theorem readEntry?_toJson (h : Value.read? j = some w) :
    Entry.read? w.toJson = Entry.read? j := by
  rcases Value.read?_cases h with ⟨hj, hw⟩ | ⟨lower, upper, jl, ju, rfl, hl, hu, hj⟩
  · rw [Entry.read?, Entry.read?, readComparison?_eq_none hj, readComparison?_eq_none hw,
      read?_eq_none hj, read?_eq_none hw]
  · have hl' := Value.read?_toJson lower (Value.inRange_of_read? jl hl)
    have hu' := Value.read?_toJson upper (Value.inRange_of_read? ju hu)
    rw [Entry.read?, Entry.read?, readComparison?_bounds hl hu hj, Value.toJson,
      readComparison?_bounds hl' hu' (.inl rfl)]

/-- The object of two bounds is read as a filter on two fields. -/
theorem read?_bounds {jl ju : Json.Value} (hj : Value.IsBounds j jl ju) :
    read? j = (Entry.read? jl).bind fun lower => (Entry.read? ju).map fun upper =>
      .node [] [] (Dict.ofList [(Value.lowerName, lower), (Value.upperName, upper)]) := by
  have hlower : ∀ k, part? Value.lowerName k = (Entry.read? k).map (.field Value.lowerName) := by
    intro k
    rw [part?, if_neg (by decide), if_neg (by decide)]
  have hupper : ∀ k, part? Value.upperName k = (Entry.read? k).map (.field Value.upperName) := by
    intro k
    rw [part?, if_neg (by decide), if_neg (by decide)]
  rcases hj with rfl | rfl
  · rw [read?, readParts?_cons, readParts?_cons, hlower, hupper]
    cases Entry.read? jl <;> cases Entry.read? ju <;> rfl
  · rw [read?, readParts?_cons, readParts?_cons, hlower, hupper]
    cases Entry.read? jl with
    | none => cases Entry.read? ju <;> rfl
    | some lower =>
      cases Entry.read? ju with
      | none => rfl
      | some upper =>
        exact congrArg (fun fields => some (node [] [] fields)) (ofList_bounds lower upper)

theorem read?_toJson (h : Value.read? j = some w) : read? w.toJson = read? j := by
  rcases Value.read?_cases h with ⟨hj, hw⟩ | ⟨lower, upper, jl, ju, rfl, hl, hu, hj⟩
  · rw [read?_eq_none hj, read?_eq_none hw]
  · rw [read?_bounds hj, Value.toJson, read?_bounds (.inl rfl), readEntry?_toJson hl,
      readEntry?_toJson hu]

theorem readItems?_toJsonItems {items : List Json.Value} {vs : List Value}
    (h : Value.readItems? items = some vs) :
    readItems? (Value.toJsonItems vs) = readItems? items := by
  induction items generalizing vs with
  | nil =>
    obtain rfl := Option.some.inj h
    rfl
  | cons j rest ih =>
    simp only [Value.readItems?, bind, Option.bind_eq_some_iff] at h
    obtain ⟨w, hw, vs, hvs, h⟩ := h
    obtain rfl := Option.some.inj h
    rw [Value.toJsonItems, readItems?, readItems?, read?_toJson hw, ih hvs]

theorem readGroup?_toJson (h : Value.read? j = some w) : readGroup? w.toJson = readGroup? j := by
  cases j with
  | arr items =>
    obtain ⟨vs, hvs, rfl⟩ := Option.map_eq_some_iff.1 h
    rw [Value.toJson, readGroup?, readGroup?, readItems?_toJsonItems hvs]
  | null | bool | str =>
    obtain rfl := Option.some.inj h
    rfl
  | num n => rcases Value.ofNumber?_cases h with ⟨i, rfl⟩ | ⟨x, rfl⟩ <;> rfl
  | obj members =>
    rcases Value.read?_cases h with ⟨hj, -⟩ | ⟨lower, upper, jl, ju, rfl, -⟩
    · cases hj
    · rfl

/-- A member that reads as a value is the same part of a filter in the JSON form of that value. -/
theorem part?_toJson (name : String) (h : Value.read? j = some w) :
    part? name w.toJson = part? name j := by
  rw [part?, part?, readGroup?_toJson h, readEntry?_toJson h]

theorem readParts?_comparisonJson {members : List (String × Json.Value)}
    {operators : List (String × Value)} (h : Value.readMembers? members = some operators) :
    readParts? (comparisonJson operators) = readParts? members := by
  induction members generalizing operators with
  | nil =>
    obtain rfl := Option.some.inj h
    rfl
  | cons m rest ih =>
    simp only [Value.readMembers?, bind, Option.bind_eq_some_iff] at h
    obtain ⟨w, hw, operators, hoperators, h⟩ := h
    obtain rfl := Option.some.inj h
    rw [comparisonJson, readParts?_cons, readParts?_cons, part?_toJson m.1 hw, ih hoperators]

/-! ### Members in order -/

/-- Whether a name is that of a group. -/
def isGroup (name : String) : Bool := name == andName || name == orName

/-- The members are read if each of them is. -/
theorem exists_readParts?_iff {members : List (String × Json.Value)} :
    (∃ parts, readParts? members = some parts) ↔ ∀ m ∈ members, (part? m.1 m.2).isSome := by
  induction members with
  | nil => simp [readParts?]
  | cons m rest ih =>
    rw [List.forall_mem_cons, ← ih, readParts?_cons]
    cases part? m.1 m.2 <;> simp

/-- A member is the group of its name, or the entry of a field. -/
theorem part?_spec {name : String} {part : Part} (h : part? name j = some part) :
    part.ands? = (if name == andName then some ((readGroup? j).getD []) else none) ∧
      part.ors? = (if name == orName then some ((readGroup? j).getD []) else none) ∧
      part.field? = if isGroup name then none else some (name, (Entry.read? j).getD default) := by
  have hne : andName ≠ orName := by decide
  rw [part?] at h
  split at h
  · rename_i hname
    obtain ⟨group, hgroup, rfl⟩ := Option.map_eq_some_iff.1 h
    simp [hname, hgroup, isGroup, hne, Part.ands?, Part.ors?, Part.field?]
  · rename_i hand
    split at h
    · rename_i hname
      obtain ⟨group, hgroup, rfl⟩ := Option.map_eq_some_iff.1 h
      simp [hname, hgroup, isGroup, hne.symm, Part.ands?, Part.ors?, Part.field?]
    · rename_i hor
      obtain ⟨entry, hentry, rfl⟩ := Option.map_eq_some_iff.1 h
      simp [hand, hor, hentry, isGroup, Part.ands?, Part.ors?, Part.field?]

/-- The parts of members are the groups under their names and the entries under the others. -/
theorem filterMap_readParts? {members : List (String × Json.Value)} {parts : List Part}
    (h : readParts? members = some parts) :
    parts.filterMap Part.ands?
        = (members.filter fun m => m.1 == andName).map (fun m => (readGroup? m.2).getD []) ∧
      parts.filterMap Part.ors?
        = (members.filter fun m => m.1 == orName).map (fun m => (readGroup? m.2).getD []) ∧
      parts.filterMap Part.field?
        = (members.filter fun m => !isGroup m.1).map
          (fun m => (m.1, (Entry.read? m.2).getD default)) := by
  induction members generalizing parts with
  | nil =>
    simp only [readParts?, Option.some.injEq] at h
    subst h
    exact ⟨rfl, rfl, rfl⟩
  | cons m rest ih =>
    rw [readParts?_cons, Option.bind_eq_some_iff] at h
    obtain ⟨part, hpart, h⟩ := h
    obtain ⟨parts, hparts, rfl⟩ := Option.map_eq_some_iff.1 h
    obtain ⟨hands, hors, hfields⟩ := ih hparts
    obtain ⟨hand, hor, hfield⟩ := part?_spec hpart
    refine ⟨?_, ?_, ?_⟩
    · rw [List.filterMap_cons, hand, hands, List.filter_cons]
      cases m.1 == andName <;> rfl
    · rw [List.filterMap_cons, hor, hors, List.filter_cons]
      cases m.1 == orName <;> rfl
    · rw [List.filterMap_cons, hfield, hfields, List.filter_cons]
      cases isGroup m.1 <;> rfl

/-- Members in order, the last one under each name, are the same filter. -/
theorem read?_ofList {members : List (String × Json.Value)} (h : read? (.obj members) = some f) :
    read? (.obj (Dict.ofList members)) = some f := by
  simp only [read?, bind, Option.bind_eq_some_iff] at h ⊢
  obtain ⟨parts, hparts, h⟩ := h
  obtain ⟨parts', hparts'⟩ : ∃ parts', readParts? (Dict.ofList members) = some parts' :=
    exists_readParts?_iff.2 (Dict.forall_ofList (exists_readParts?_iff.1 ⟨parts, hparts⟩))
  refine ⟨parts', hparts', ?_⟩
  obtain ⟨hands, hors, hfields⟩ := filterMap_readParts? hparts
  obtain ⟨hands', hors', hfields'⟩ := filterMap_readParts? hparts'
  simp only [ofParts?] at h ⊢
  split at h
  · rename_i hlength
    -- a group is there once at most, so it is the last one of its name
    have hgroup : ∀ name, (members.filter fun m => m.1 == name).length ≤ 1 →
        (Dict.ofList members).filter (fun m => m.1 == name)
          = members.filter fun m => m.1 == name := by
      intro name hname
      rw [← Dict.ofList_filter (· == name), Dict.ofList_eq_of_length_le_one hname]
    have hands'' : parts'.filterMap Part.ands? = parts.filterMap Part.ands? := by
      rw [hands', hands, hgroup andName]
      simpa [hands] using hlength.1
    have hors'' : parts'.filterMap Part.ors? = parts.filterMap Part.ors? := by
      rw [hors', hors, hgroup orName]
      simpa [hors] using hlength.2
    have hfields'' : Dict.ofList (parts'.filterMap Part.field?)
        = Dict.ofList (parts.filterMap Part.field?) := by
      have hmap := Dict.ofList_map fun k => (Entry.read? k).getD default
      have hfilter := Dict.ofList_filter (α := Json.Value) fun name => !isGroup name
      rw [hfields', hfields, hmap, hmap, hfilter, hfilter, (Dict.sorted_ofList members).ofList_eq]
    rw [hands'', hors'', hfields'', if_pos hlength]
    exact h
  · cases h

theorem comparisonJson_ofList (operators : List (String × Value)) :
    comparisonJson (Dict.ofList operators) = Dict.ofList (comparisonJson operators) := by
  have hmap : ∀ operators, comparisonJson operators = operators.map fun e => (e.1, e.2.toJson) := by
    intro operators
    induction operators with
    | nil => rfl
    | cons e rest ih => rw [List.map_cons, ← ih, comparisonJson]
  rw [hmap, hmap, Dict.ofList_map]

/-- A filter that reads as a comparison is read from that comparison again. -/
theorem read?_comparisonJson {members : List (String × Json.Value)}
    {operators : List (String × Value)} (hoperators : Value.readMembers? members = some operators)
    (h : read? (.obj members) = some f) :
    read? (.obj (comparisonJson (Dict.ofList operators))) = some f := by
  rw [comparisonJson_ofList]
  refine read?_ofList ?_
  rw [read?, readParts?_comparisonJson hoperators]
  exact h

end Filter

/-- What reads as a filter reads as an entry too, and that entry means the very same filter under
the name of a relation, be it a comparison or a filter on related rows. -/
theorem Entry.means_same_filter {j : Json.Value} {f : Filter} (h : Filter.read? j = some f) :
    ∃ e, Entry.read? j = some e ∧ e.filter? = some f := by
  rw [Entry.read?]
  cases hcomparison : Filter.readComparison? j with
  | none => exact ⟨.related f, congrArg (Option.map Entry.related) h, rfl⟩
  | some operators =>
    refine ⟨.comparison operators, rfl, ?_⟩
    match j with
    | .obj members =>
      obtain ⟨ms, hms, rfl⟩ := Option.map_eq_some_iff.1 hcomparison
      have hread := Filter.read?_comparisonJson hms h
      cases hoperators : Dict.ofList ms with
      | nil =>
        rw [hoperators] at hread
        exact hread
      | cons o rest =>
        rw [hoperators] at hread
        exact hread

/-- Groups whose members have two bounds are read as lists of ranges first. -/
theorem Entry.means_same_filter_ranges :
    let bounds : Json.Value := .obj [("upper", .int 2), ("lower", .null)]
    let j : Json.Value := .obj [("or", .arr [.obj [("upper", bounds), ("lower", bounds)]]),
      ("and", .arr [])]
    let range : Filter.Value := .range .null (.int 2)
    let operators := [("and", .list []), ("or", .list [.range range range])]
    let comparison : Entry := .comparison [("lower", .null), ("upper", .int 2)]
    Entry.read? j = some (.comparison operators) ∧ (Entry.comparison operators).filter?
      = some (.anyOf [.node [] [] [("lower", comparison), ("upper", comparison)]]) := by
  intro bounds j range operators comparison
  have hf : Filter.read? j
      = some (.anyOf [.node [] [] [("lower", comparison), ("upper", comparison)]]) := rfl
  have he : Entry.read? j = some (.comparison operators) := rfl
  obtain ⟨e, he', hfilter⟩ := Entry.means_same_filter hf
  obtain rfl := Option.some.inj (he.symm.trans he')
  exact ⟨he, hfilter⟩

end RowQuery
