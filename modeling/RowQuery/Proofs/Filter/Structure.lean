import RowQuery.Proofs.Filter.Judgement
import RowQuery.Proofs.Sql.Tree
/-!
A filter and its condition have one Boolean structure.

The condition is made by collecting bracketed clauses, the judgement on a row by trying one part
after another. Both give a filter the same value: a member that says nothing drops out of a group
of which all have to hold, and in a group of which one has to hold it makes the group say nothing.
The main statement reads the condition as a Boolean expression in which the leaf of an operator has
the value that the operator has on the row, and finds the judgement.
-/

namespace RowQuery.Scoped

/-! ### Values of clauses -/

section
variable {τ σ : Type} (truth : τ → Bool) (g : τ → σ)

theorem all_present (cs : List (Option (Sql.Tree τ))) :
    (present cs).all (Sql.Tree.value truth) = cs.all (Sql.Tree.reads truth) := by
  induction cs with
  | nil => rfl
  | cons c rest ih =>
    rw [List.all_cons, ← ih]
    cases c <;> simp [present, Sql.Tree.reads]

theorem reads_allClause (cs : List (Option (Sql.Tree τ))) :
    Sql.Tree.reads truth (allClause cs) = cs.all (Sql.Tree.reads truth) := by
  rw [allClause, Sql.Tree.reads_map_bracket, Sql.Tree.reads_all?, all_present]

theorem any_of_complete {cs : List (Option (Sql.Tree τ))} {bs : List (Sql.Tree τ)}
    (h : complete cs = some bs) :
    bs.any (Sql.Tree.value truth) = cs.any (Sql.Tree.reads truth) := by
  induction cs generalizing bs with
  | nil => cases h; rfl
  | cons c rest ih =>
    cases c with
    | none => cases h
    | some c =>
      obtain ⟨ds, hds, rfl⟩ := Option.map_eq_some_iff.1 h
      rw [List.any_cons, List.any_cons, ih hds, Sql.Tree.value_bracket]; rfl

theorem length_of_complete {cs : List (Option (Sql.Tree τ))} {bs : List (Sql.Tree τ)}
    (h : complete cs = some bs) : bs.length = cs.length := by
  induction cs generalizing bs with
  | nil => cases h; rfl
  | cons c rest ih =>
    cases c with
    | none => cases h
    | some c =>
      obtain ⟨ds, hds, rfl⟩ := Option.map_eq_some_iff.1 h
      rw [List.length_cons, List.length_cons, ih hds]

/-- A member that says nothing holds of every row. -/
theorem any_of_incomplete {cs : List (Option (Sql.Tree τ))} (h : complete cs = none) :
    cs.any (Sql.Tree.reads truth) = true := by
  induction cs with
  | nil => cases h
  | cons c rest ih =>
    cases c with
    | none => rfl
    | some c => rw [List.any_cons, ih (Option.map_eq_none_iff.1 h), Bool.or_true]

theorem reads_anyClause {cs : List (Option (Sql.Tree τ))} (h : cs ≠ []) :
    Sql.Tree.reads truth (anyClause cs) = cs.any (Sql.Tree.reads truth) := by
  rw [anyClause, Sql.Tree.reads_map_bracket]
  cases hcs : complete cs with
  | none => rw [any_of_incomplete truth hcs]; rfl
  | some bs =>
    have hbs : bs ≠ [] := by
      rintro rfl
      exact h (List.eq_nil_of_length_eq_zero (length_of_complete hcs).symm)
    rw [Option.bind_some, Sql.Tree.reads_any? truth hbs, any_of_complete truth hcs]

theorem all_toList (c : Option (Sql.Tree τ)) :
    c.toList.all (Sql.Tree.value truth) = Sql.Tree.reads truth c := by
  cases c <;> simp [Sql.Tree.reads]

theorem all_filterMap_id (cs : List (Option (Sql.Tree τ))) :
    (cs.filterMap id).all (Sql.Tree.value truth) = cs.all (Sql.Tree.reads truth) := by
  induction cs with
  | nil => rfl
  | cons c rest ih =>
    cases c with
    | none => exact ih
    | some t => exact congrArg (Sql.Tree.value truth t && ·) ih

/-- The clauses of a filter read as what its two groups and its entries say. -/
theorem reads_node (cands cors cfields : List (Option (Sql.Tree τ))) :
    Sql.Tree.reads truth (Sql.Tree.all? ((allClause cands).toList ++ (anyClause cors).toList
        ++ cfields.filterMap id))
      = (cands.all (Sql.Tree.reads truth) && Sql.Tree.reads truth (anyClause cors)
        && cfields.all (Sql.Tree.reads truth)) := by
  rw [Sql.Tree.reads_all?, List.all_append, List.all_append, all_toList, all_toList,
    all_filterMap_id, reads_allClause]

theorem trees_eq_nil_iff {leaf : Site → Except QueryError τ} {aliasName : String}
    {fs : List Scoped} {cs : List (Option (Sql.Tree τ))} (h : trees leaf aliasName fs = .ok cs) :
    cs = [] ↔ fs = [] := by
  cases fs with
  | nil => simp only [trees, Except.ok.injEq] at h; simp [← h]
  | cons f rest =>
    simp only [trees, bind_eq_ok, pure_eq_ok] at h
    obtain ⟨c, -, ds, -, rfl⟩ := h
    simp

end

/-! ### The judgement is the value of the tree -/

section
variable {τ : Type} {leaf : Site → Except QueryError τ} {registry : Registry} {row : Json.Row}
  {truth : τ → Bool}

/-- The leaf of a site has the value that its operator has on the row. -/
def Site.HasValue (leaf : Site → Except QueryError τ) (registry : Registry) (row : Json.Row)
    (truth : τ → Bool) (s : Site) : Prop :=
  ∀ x, leaf s = .ok x → s.holds registry row = .ok (truth x)

theorem anyOperator_eq_any {entity : Entity} {aliasName name : String} :
    ∀ {operators : List (String × Filter.Value)} {ts : List (Sql.Tree τ)},
      (∀ op v, (op, v) ∈ operators →
        Site.HasValue leaf registry row truth ⟨entity, aliasName, name, op, v⟩) →
      leaves leaf entity aliasName name operators = .ok ts →
      anyOperator registry entity name ((Dict.find? row name).getD .null) operators
        = .ok (ts.any (Sql.Tree.value truth))
  | [], ts, _, h => by cases h; rfl
  | (op, v) :: rest, ts, hs, h => by
    simp only [leaves, bind_eq_ok, pure_eq_ok] at h
    obtain ⟨x, hx, us, hus, rfl⟩ := h
    have hop := hs op v (List.mem_cons_self ..) x hx
    have ih := anyOperator_eq_any (fun op v h => hs op v (List.mem_cons_of_mem _ h)) hus
    rw [anyOperator, show holdsOperator registry entity name _ op v = _ from hop, ok_bind, ih,
      List.any_cons, Sql.Tree.value]
    cases truth x <;> rfl

theorem holdsEntry_column {entity : Entity} {aliasName name : String}
    {operators : List (String × Filter.Value)} {c : Option (Sql.Tree τ)}
    (hs : ∀ s ∈ sitesEntry aliasName entity name (.column operators),
      s.HasValue leaf registry row truth)
    (hc : entryTree leaf aliasName entity name (.column operators) = .ok c) :
    holdsEntry registry row entity name (.column operators) = .ok (Sql.Tree.reads truth c) := by
  simp only [entryTree, bind_eq_ok, pure_eq_ok] at hc
  obtain ⟨ts, hts, rfl⟩ := hc
  rw [Sql.Tree.reads_map_bracket, holdsEntry]
  cases operators with
  | nil => cases hts; rfl
  | cons o rest =>
    rw [anyOperator_eq_any (fun op v hmem => hs _ (List.mem_map_of_mem hmem)) hts,
      Sql.Tree.reads_any?]
    · rfl
    · rintro rfl
      simp only [leaves, bind_eq_ok, pure_eq_ok] at hts
      obtain ⟨_, -, _, -, h⟩ := hts
      cases h

mutual

/-- A filter that uses no relation holds just when its tree is true. -/
theorem holds_eq_reads {catalog : Catalog} {entity : Entity} : (f : Filter) →
    {aliasName : String} → {c : Option (Sql.Tree τ)} →
    (∀ name ∈ f.names, entity.relation? name = none) →
    (∀ s ∈ (f.scope catalog entity).sites aliasName, s.HasValue leaf registry row truth) →
    (f.scope catalog entity).tree leaf aliasName = .ok c →
    (f.scope catalog entity).holds registry row = .ok (Sql.Tree.reads truth c)
  | .node ands ors fields, aliasName, c, hn, hs, hc => by
    rw [Filter.scope] at hs hc ⊢
    simp only [tree, bind_eq_ok, pure_eq_ok] at hc
    obtain ⟨cands, hands, cors, hors, cfields, hfields, rfl⟩ := hc
    simp only [Filter.names, List.mem_append, or_imp, forall_and] at hn
    simp only [sites, List.mem_append, or_imp, forall_and] at hs
    have ha := holdsAll_eq_all ands hn.1.1 hs.1.1 hands
    have ho := holdsAny_eq_any ors hn.1.2 hs.1.2 hors
    have hb := holdsFields_eq_all fields hn.2 hs.2 hfields
    rw [reads_node, holds, ha, ok_bind, hb]
    have hnil := trees_eq_nil_iff hors
    by_cases hcors : cors = []
    · -- no group of which one has to hold
      rw [hnil.1 hcors]
      subst hcors
      cases cands.all (Sql.Tree.reads truth) <;> rfl
    · rw [reads_anyClause truth hcors, ho]
      have hne : (Filter.scopeAll catalog entity ors).isEmpty = false := by
        rw [List.isEmpty_eq_false_iff]
        exact fun h => hcors (hnil.2 h)
      rw [hne]
      cases cands.all (Sql.Tree.reads truth) <;> cases cors.any (Sql.Tree.reads truth) <;> rfl

theorem holdsAll_eq_all {catalog : Catalog} {entity : Entity} : (fs : List Filter) →
    {aliasName : String} → {cs : List (Option (Sql.Tree τ))} →
    (∀ name ∈ Filter.namesAll fs, entity.relation? name = none) →
    (∀ s ∈ sitesAll aliasName (Filter.scopeAll catalog entity fs),
      s.HasValue leaf registry row truth) →
    trees leaf aliasName (Filter.scopeAll catalog entity fs) = .ok cs →
    holdsAll registry row (Filter.scopeAll catalog entity fs) = .ok (cs.all (Sql.Tree.reads truth))
  | [], _, cs, _, _, hc => by
    rw [Filter.scopeAll] at hc ⊢
    cases hc; rfl
  | f :: rest, aliasName, cs, hn, hs, hc => by
    rw [Filter.scopeAll] at hs hc ⊢
    simp only [trees, bind_eq_ok, pure_eq_ok] at hc
    obtain ⟨c, hf, ds, hrest, rfl⟩ := hc
    simp only [Filter.namesAll, List.mem_append, or_imp, forall_and] at hn
    simp only [sitesAll, List.mem_append, or_imp, forall_and] at hs
    rw [holdsAll, holds_eq_reads f hn.1 hs.1 hf, ok_bind, holdsAll_eq_all rest hn.2 hs.2 hrest,
      List.all_cons]
    cases Sql.Tree.reads truth c <;> rfl

theorem holdsAny_eq_any {catalog : Catalog} {entity : Entity} : (fs : List Filter) →
    {aliasName : String} → {cs : List (Option (Sql.Tree τ))} →
    (∀ name ∈ Filter.namesAll fs, entity.relation? name = none) →
    (∀ s ∈ sitesAll aliasName (Filter.scopeAll catalog entity fs),
      s.HasValue leaf registry row truth) →
    trees leaf aliasName (Filter.scopeAll catalog entity fs) = .ok cs →
    holdsAny registry row (Filter.scopeAll catalog entity fs) = .ok (cs.any (Sql.Tree.reads truth))
  | [], _, cs, _, _, hc => by
    rw [Filter.scopeAll] at hc ⊢
    cases hc; rfl
  | f :: rest, aliasName, cs, hn, hs, hc => by
    rw [Filter.scopeAll] at hs hc ⊢
    simp only [trees, bind_eq_ok, pure_eq_ok] at hc
    obtain ⟨c, hf, ds, hrest, rfl⟩ := hc
    simp only [Filter.namesAll, List.mem_append, or_imp, forall_and] at hn
    simp only [sitesAll, List.mem_append, or_imp, forall_and] at hs
    rw [holdsAny, holds_eq_reads f hn.1 hs.1 hf, ok_bind, holdsAny_eq_any rest hn.2 hs.2 hrest,
      List.any_cons]
    cases Sql.Tree.reads truth c <;> rfl

theorem holdsFields_eq_all {catalog : Catalog} {entity : Entity} :
    (fields : List (String × Entry)) → {aliasName : String} → {cs : List (Option (Sql.Tree τ))} →
    (∀ name ∈ fields.map (·.1), entity.relation? name = none) →
    (∀ s ∈ sitesFields aliasName entity (Filter.scopeFields catalog entity fields),
      s.HasValue leaf registry row truth) →
    fieldTrees leaf aliasName entity (Filter.scopeFields catalog entity fields) = .ok cs →
    holdsFields registry row entity (Filter.scopeFields catalog entity fields)
      = .ok (cs.all (Sql.Tree.reads truth))
  | [], _, cs, _, _, hc => by
    rw [Filter.scopeFields] at hc ⊢
    cases hc; rfl
  | (name, e) :: rest, aliasName, cs, hn, hs, hc => by
    rw [Filter.scopeFields] at hs hc ⊢
    simp only [fieldTrees, bind_eq_ok, pure_eq_ok] at hc
    obtain ⟨c, he, ds, hrest, rfl⟩ := hc
    simp only [List.map_cons, List.mem_cons, forall_eq_or_imp] at hn
    simp only [sitesFields, List.mem_append, or_imp, forall_and] at hs
    have hentry : holdsEntry registry row entity name (Filter.scopeEntry catalog entity name e)
        = .ok (Sql.Tree.reads truth c) := by
      have hscope := hs.1
      simp only [Filter.scopeEntry.eq_def, hn.1] at hscope he ⊢
      cases e with
      | comparison operators => exact holdsEntry_column hscope he
      | related f => cases he
    rw [holdsFields, hentry, ok_bind, holdsFields_eq_all rest hn.2 hs.2 hrest, List.all_cons]
    cases Sql.Tree.reads truth c <;> rfl

end
end
end RowQuery.Scoped
