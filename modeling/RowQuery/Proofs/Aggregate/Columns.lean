import RowQuery.Aggregate.Compute
import RowQuery.Aggregate.Response
import RowQuery.Proofs.Dict
import RowQuery.Proofs.Outcome
/-!
Result rows read back.

A column is named after its part and its field. No label of a part is the beginning of another one,
so the name can be taken apart in one way only, and the response of a result row has each value
where the request asked for it.
-/

namespace RowQuery.Aggregate

/-! ### Names of columns -/

/-- A field that can be read back from the name of a column. -/
def IsReadable (field : String) : Prop := field ≠ "" ∧ '\n' ∉ field.toList

theorem Function.mem_all (f : Function) : f ∈ Function.all := by
  cases f <;> decide

namespace Part

variable {p q : Part} {field other : String}

theorem mem_all (p : Part) : p ∈ all := by
  rcases p with _ | f
  · decide
  · cases f <;> decide

/-- The text is the name of a column: the label of a part, an underscore, and a field that can be
read back. -/
def IsColumn (column : String) : Prop :=
  ∃ (p : Part) (field : String), IsReadable field ∧ column = p.column field

/-- What the names of the columns of a part begin with. -/
def beginning (p : Part) : List Char := p.label.toList ++ ['_']

theorem field?_eq (p : Part) (column : String) : p.field? column =
    (let field := column.toList.drop p.beginning.length
    if p.beginning.isPrefixOf column.toList && !field.isEmpty && !field.contains '\n' then
      some (String.ofList field)
    else none) := rfl

theorem toList_column (p : Part) (field : String) :
    (p.column field).toList = p.beginning ++ field.toList := by
  rw [column, String.toList_append, String.toList_append]
  rfl

theorem isPrefixOf_beginning (h : p ≠ q) (rest : List Char) :
    p.beginning.isPrefixOf (q.beginning ++ rest) = false := by
  rcases p with _ | f <;> rcases q with _ | g
  · exact absurd rfl h
  · cases g <;> rfl
  · cases f <;> rfl
  · cases f <;> cases g <;> first | rfl | exact absurd rfl h

theorem isPrefixOf_append (as bs : List Char) : as.isPrefixOf (as ++ bs) = true :=
  List.isPrefixOf_iff_prefix.2 (List.prefix_append as bs)

theorem column_injective (h : p.column field = q.column other) : p = q ∧ field = other := by
  have htext := congrArg String.toList h
  rw [toList_column, toList_column] at htext
  by_cases hpq : p = q
  · subst hpq
    exact ⟨rfl, String.toList_injective (List.append_cancel_left htext)⟩
  · have hprefix := isPrefixOf_beginning hpq other.toList
    rw [← htext, isPrefixOf_append] at hprefix
    cases hprefix

theorem field?_column (p : Part) (hfield : IsReadable field) :
    p.field? (p.column field) = some field := by
  have hcontains : field.toList.contains '\n' = false := by
    simpa using hfield.2
  have hempty : field.toList.isEmpty = false := by
    simpa using hfield.1
  have hdrop : (p.beginning ++ field.toList).drop p.beginning.length = field.toList :=
    List.drop_left
  simp only [field?_eq, toList_column, isPrefixOf_append, hdrop, hempty, hcontains,
    Bool.not_false, Bool.and_self, if_true, String.ofList_toList]

theorem field?_column_of_ne (h : p ≠ q) (field : String) : p.field? (q.column field) = none := by
  simp only [field?_eq, toList_column, isPrefixOf_beginning h, Bool.false_and,
    Bool.false_eq_true, if_false]

/-- The name of a column is taken apart into its part and its field. -/
theorem ofColumn?_column (p : Part) (hfield : IsReadable field) :
    ofColumn? (p.column field) = some (p, field) := by
  have hself := field?_column p hfield
  have hother : ∀ q, q ≠ p → q.field? (p.column field) = none :=
    fun q h => field?_column_of_ne h field
  rw [ofColumn?, all]
  rcases p with _ | f
  · simp [List.findSome?, hself, hother]
  · cases f <;> simp [List.findSome?, hself, hother]

end Part

/-! ### Responses -/

namespace Response

theorem find?_part_insert (r : Response) (p q : Part) (field other : String) (v : Json.Value) :
    Dict.find? ((r.insert q other v).part p) field
      = if p = q ∧ other = field then some v else Dict.find? (r.part p) field := by
  by_cases hpart : p = q
  · simp [insert, hpart, Dict.find?_insert]
  · simp [insert, hpart]

/-- Reading the columns of a row succeeds if each has a proper name, and puts the value of every
column where its name says. -/
theorem exists_addColumns : ∀ {row : Json.Row} (r : Response), Dict.Sorted row →
    (∀ e ∈ row, Part.IsColumn e.1) → ∃ r', r.addColumns row = .ok r' ∧
      ∀ p field, Dict.find? (r'.part p) field
        = (Dict.find? row (p.column field)).or (Dict.find? (r.part p) field)
  | [], r, _, _ => ⟨r, rfl, fun _ _ => rfl⟩
  | (column, v) :: rest, r, hsorted, hnames => by
    obtain ⟨⟨q, other, hother, hcolumn⟩, hrest⟩ := List.forall_mem_cons.1 hnames
    obtain rfl : column = q.column other := hcolumn
    obtain ⟨r', hr', hfind⟩ := exists_addColumns (r.insert q other v)
      (List.pairwise_cons.1 hsorted).2 hrest
    refine ⟨r', by rw [addColumns, Part.ofColumn?_column q hother, ← hr'], fun p field => ?_⟩
    rw [hfind, find?_part_insert, Dict.find?_cons]
    by_cases hsame : q.column other = p.column field
    · obtain ⟨rfl, rfl⟩ := Part.column_injective hsame
      rw [if_pos rfl, if_pos ⟨rfl, rfl⟩, hsorted.find?_eq_none, Option.none_or, Option.some_or]
    · rw [if_neg hsame, if_neg]
      rintro ⟨rfl, rfl⟩
      exact hsame rfl

end Response

/-- The value that the result row of a group has in a part under a field. -/
def cell (g : Json.Row × List Json.Row) : Part → String → Json.Value
  | .groupBy, field => SortOrder.valueAt g.1 field
  | .call f, field => f.apply (valuesAt g.2 field)

theorem mem_columns_iff (s : Spec) (g : Json.Row × List Json.Row) (e : String × Json.Value) :
    e ∈ groupColumnsOf s g.1 ++ functionColumns s g.2 ↔
      ∃ p field, field ∈ s.part p ∧ (p.column field, cell g p field) = e := by
  simp only [List.mem_append, groupColumnsOf, functionColumns, List.mem_map, List.mem_flatMap]
  constructor
  · rintro (⟨field, hfield, rfl⟩ | ⟨f, -, field, hfield, rfl⟩)
    · exact ⟨.groupBy, field, hfield, rfl⟩
    · exact ⟨.call f, field, hfield, rfl⟩
  · rintro ⟨p | f, field, hfield, rfl⟩
    · exact .inl ⟨field, hfield, rfl⟩
    · exact .inr ⟨f, f.mem_all, field, hfield, rfl⟩

/-- The response of a group has just the values that were asked for. -/
theorem exists_ofRow_groupRow {s : Spec} (hs : ∀ p, ∀ field ∈ s.part p, IsReadable field)
    (g : Json.Row × List Json.Row) :
    ∃ r, Response.ofRow (groupRow s g) = .ok r ∧
      (∀ p, ∀ field ∈ s.part p, Dict.find? (r.part p) field = some (cell g p field)) ∧
      ∀ p, ∀ field ∉ s.part p, Dict.find? (r.part p) field = none := by
  have hnames : ∀ e ∈ groupRow s g, Part.IsColumn e.1 := by
    refine Dict.forall_ofList fun e he => ?_
    obtain ⟨p, field, hfield, rfl⟩ := (mem_columns_iff s g e).1 he
    exact ⟨p, field, hs p field hfield, rfl⟩
  have hsorted : Dict.Sorted (groupRow s g) := Dict.sorted_ofList _
  obtain ⟨r, hr, hfind⟩ := Response.exists_addColumns .empty hsorted hnames
  refine ⟨r, hr, fun p field hfield => ?_, fun p field hfield => ?_⟩
  · have hcell : Dict.find? (groupRow s g) (p.column field) = some (cell g p field) := by
      refine Dict.find?_ofList ((mem_columns_iff s g _).2 ⟨p, field, hfield, rfl⟩) ?_
      intro e he hcolumn
      obtain ⟨q, other, -, rfl⟩ := (mem_columns_iff s g e).1 he
      obtain ⟨rfl, rfl⟩ := Part.column_injective hcolumn
      rfl
    rw [hfind, hcell, Option.some_or]
  · have hcell : Dict.find? (groupRow s g) (p.column field) = none := by
      refine Dict.find?_ofList_eq_none fun e he hcolumn => ?_
      obtain ⟨q, other, hother, rfl⟩ := (mem_columns_iff s g e).1 he
      obtain ⟨rfl, rfl⟩ := Part.column_injective hcolumn
      exact hfield hother
    rw [hfind, hcell, Option.none_or]
    rfl

end RowQuery.Aggregate
