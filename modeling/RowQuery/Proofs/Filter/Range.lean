import RowQuery.Proofs.Dict
import RowQuery.Proofs.Filter.Judgement
/-!
Filters with integers of 64 bits only.

Every integer of a filter is one of 64 signed bits. That is kept where a comparison under the name
of a relation is read again as a filter, since an integer beyond them is read as a float.
-/

namespace RowQuery

namespace Filter

mutual

/-- Every integer in a filter is one of 64 signed bits. -/
def InRange : Filter → Prop
  | .node ands ors fields => InRangeAll ands ∧ InRangeAll ors ∧ InRangeFields fields

/-- `InRange` of every filter. -/
def InRangeAll : List Filter → Prop
  | [] => True
  | f :: rest => InRange f ∧ InRangeAll rest

/-- `InRange` of every entry. -/
def InRangeFields : List (String × Entry) → Prop
  | [] => True
  | (_, e) :: rest => InRangeEntry e ∧ InRangeFields rest

/-- Every integer in an entry is one of 64 signed bits. -/
def InRangeEntry : Entry → Prop
  | .comparison operators => ∀ o ∈ operators, o.2.InRange
  | .related f => InRange f

end

mutual

theorem Value.inRange_of_read? : (j : Json.Value) → {v : Value} → Value.read? j = some v →
    v.InRange
  | .null, _, h | .bool _, _, h | .str _, _, h => by
    obtain rfl := Option.some.inj h
    trivial
  | .num n, v, h => by
    simp only [Value.read?, Value.ofNumber?] at h
    split at h
    · rename_i i hint
      obtain rfl := Option.some.inj h
      cases n with
      | int m =>
        rw [Json.Number.int64?] at hint
        split at hint
        · obtain rfl := Option.some.inj hint
          assumption
        · cases hint
      | float x => cases hint
    · obtain ⟨x, -, rfl⟩ := Option.map_eq_some_iff.1 h
      trivial
  | .arr items, v, h => by
    obtain ⟨vs, hvs, rfl⟩ := Option.map_eq_some_iff.1 h
    exact Value.inRangeItems_of_readItems? items hvs
  | .obj members, v, h => by
    simp only [Value.read?, bind, Option.bind_eq_some_iff] at h
    obtain ⟨ms, hms, h⟩ := h
    have hrange := Value.inRange_of_readMembers? members hms
    split at h
    · rename_i a x b y
      have hx : x.InRange := hrange (a, x) (by simp)
      have hy : y.InRange := hrange (b, y) (by simp)
      split at h
      · obtain rfl := Option.some.inj h
        exact ⟨hx, hy⟩
      · split at h
        · obtain rfl := Option.some.inj h
          exact ⟨hy, hx⟩
        · cases h
    · cases h

theorem Value.inRangeItems_of_readItems? : (items : List Json.Value) → {vs : List Value} →
    Value.readItems? items = some vs → Value.InRangeItems vs
  | [], _, h => by
    obtain rfl := Option.some.inj h
    trivial
  | j :: rest, _, h => by
    simp only [Value.readItems?, bind, Option.bind_eq_some_iff] at h
    obtain ⟨v, hv, vs, hvs, h⟩ := h
    obtain rfl := Option.some.inj h
    exact ⟨Value.inRange_of_read? j hv, Value.inRangeItems_of_readItems? rest hvs⟩

theorem Value.inRange_of_readMembers? : (members : List (String × Json.Value)) →
    {ms : List (String × Value)} → Value.readMembers? members = some ms → ∀ o ∈ ms, o.2.InRange
  | [], _, h => by
    obtain rfl := Option.some.inj h
    exact List.forall_mem_nil _
  | (name, j) :: rest, _, h => by
    simp only [Value.readMembers?, bind, Option.bind_eq_some_iff] at h
    obtain ⟨v, hv, ms, hms, h⟩ := h
    obtain rfl := Option.some.inj h
    exact List.forall_mem_cons.2
      ⟨Value.inRange_of_read? j hv, Value.inRange_of_readMembers? rest hms⟩

end

theorem inRangeAll_iff {fs : List Filter} : InRangeAll fs ↔ ∀ f ∈ fs, f.InRange := by
  induction fs with
  | nil => simp [InRangeAll]
  | cons f rest ih => rw [InRangeAll, ih, List.forall_mem_cons]

theorem inRangeFields_iff {fields : List (String × Entry)} :
    InRangeFields fields ↔ ∀ e ∈ fields, InRangeEntry e.2 := by
  induction fields with
  | nil => simp [InRangeFields]
  | cons e rest ih => rw [InRangeFields, ih, List.forall_mem_cons]

/-- Every integer of a part is one of 64 signed bits. -/
def Part.InRange : Part → Prop
  | .ands filters | .ors filters => InRangeAll filters
  | .field _ entry => InRangeEntry entry

theorem inRange_of_ofParts? {parts : List Part} {f : Filter} (hparts : ∀ p ∈ parts, p.InRange)
    (h : ofParts? parts = some f) : f.InRange := by
  simp only [ofParts?] at h
  split at h
  · obtain rfl := Option.some.inj h
    refine ⟨inRangeAll_iff.2 fun f hf => ?_, inRangeAll_iff.2 fun f hf => ?_,
      inRangeFields_iff.2 (Dict.forall_ofList fun e he => ?_)⟩
    · obtain ⟨group, hgroup, hf⟩ := List.mem_flatten.1 hf
      obtain ⟨p, hp, hpart⟩ := List.mem_filterMap.1 hgroup
      cases p <;> cases hpart
      exact inRangeAll_iff.1 (hparts _ hp) f hf
    · obtain ⟨group, hgroup, hf⟩ := List.mem_flatten.1 hf
      obtain ⟨p, hp, hpart⟩ := List.mem_filterMap.1 hgroup
      cases p <;> cases hpart
      exact inRangeAll_iff.1 (hparts _ hp) f hf
    · obtain ⟨p, hp, hpart⟩ := List.mem_filterMap.1 he
      cases p <;> cases hpart
      exact hparts _ hp
  · cases h

theorem inRange_of_readComparison? {j : Json.Value} {operators : Dict Value}
    (h : readComparison? j = some operators) : ∀ o ∈ operators, o.2.InRange := by
  cases j <;> simp only [readComparison?, reduceCtorEq] at h
  obtain ⟨ms, hms, rfl⟩ := Option.map_eq_some_iff.1 h
  exact Dict.forall_ofList (Value.inRange_of_readMembers? _ hms)

mutual

theorem inRange_of_read? : (j : Json.Value) → {f : Filter} → read? j = some f → f.InRange
  | .null, _, h | .bool _, _, h | .num _, _, h | .str _, _, h | .arr _, _, h => by
    simp [read?] at h
  | .obj members, f, h => by
    simp only [read?, bind, Option.bind_eq_some_iff] at h
    obtain ⟨parts, hparts, h⟩ := h
    exact inRange_of_ofParts? (inRange_of_readParts? members hparts) h

theorem inRange_of_readParts? : (members : List (String × Json.Value)) → {parts : List Part} →
    readParts? members = some parts → ∀ p ∈ parts, p.InRange
  | [], _, h => by
    simp only [readParts?, Option.some.injEq] at h
    subst h
    exact List.forall_mem_nil _
  | (name, j) :: rest, _, h => by
    simp only [readParts?, bind, Option.bind_eq_some_iff] at h
    obtain ⟨part, hpart, parts, hparts, h⟩ := h
    obtain rfl := Option.some.inj h
    refine List.forall_mem_cons.2 ⟨?_, inRange_of_readParts? rest hparts⟩
    split at hpart
    · obtain ⟨fs, hfs, rfl⟩ := Option.map_eq_some_iff.1 hpart
      exact inRange_of_readGroup? j hfs
    · split at hpart
      · obtain ⟨fs, hfs, rfl⟩ := Option.map_eq_some_iff.1 hpart
        exact inRange_of_readGroup? j hfs
      · split at hpart
        · rename_i operators hoperators
          obtain rfl := Option.some.inj hpart
          exact inRange_of_readComparison? hoperators
        · obtain ⟨f, hf, rfl⟩ := Option.map_eq_some_iff.1 hpart
          exact inRange_of_read? j hf

theorem inRange_of_readGroup? : (j : Json.Value) → {fs : List Filter} → readGroup? j = some fs →
    InRangeAll fs
  | .null, _, h | .bool _, _, h | .num _, _, h | .str _, _, h | .obj _, _, h => by
    simp [readGroup?] at h
  | .arr items, _, h => by
    simp only [readGroup?] at h
    exact inRangeAll_of_readItems? items h

theorem inRangeAll_of_readItems? : (items : List Json.Value) → {fs : List Filter} →
    readItems? items = some fs → InRangeAll fs
  | [], _, h => by
    simp only [readItems?, Option.some.injEq] at h
    subst h
    trivial
  | j :: rest, _, h => by
    simp only [readItems?, bind, Option.bind_eq_some_iff] at h
    obtain ⟨f, hf, fs, hfs, h⟩ := h
    obtain rfl := Option.some.inj h
    exact ⟨inRange_of_read? j hf, inRangeAll_of_readItems? rest hfs⟩

end

theorem inRange_of_filter? {e : Entry} (he : InRangeEntry e) {f : Filter}
    (h : e.filter? = some f) : f.InRange := by
  match e with
  | .related g =>
    obtain rfl := Option.some.inj h
    exact he
  | .comparison [] =>
    obtain rfl := Option.some.inj h
    exact ⟨trivial, trivial, trivial⟩
  | .comparison (_ :: _) => exact inRange_of_read? _ h

end Filter
end RowQuery
