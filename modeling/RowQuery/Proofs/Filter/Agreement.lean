import RowQuery.Proofs.Filter.Combination
import RowQuery.Proofs.Filter.Structure
import RowQuery.Proofs.Text.PatternSize
/-!
The judgement on a row is the value of the condition.

A test alone does not tell which operator it was made of. So the tree of a filter is made once more,
with the site of each operator kept beside its test; without the sites it is the condition. Its
leaves are judged one by one, as single operators on the row, and the Boolean value of the whole is
what the filter is judged to be.
-/

namespace RowQuery.Scoped

/-- A leaf of a condition: a test with the operator that it was made of. -/
structure Leaf where
  site : Site
  test : Sql.Test

/-- The leaf of a site. -/
def Leaf.ofSite (registry : Registry) (s : Site) : Except QueryError Leaf :=
  (s.test registry).map fun t => ⟨s, t⟩

/-- Whether a row satisfies the operator of a leaf. -/
def Leaf.isTrue (registry : Registry) (row : Json.Row) (l : Leaf) : Bool :=
  match l.site.holds registry row with
  | .ok b => b
  | .error _ => false

/-! ### What stands at the leaves does not change the tree -/

section
variable {τ σ : Type} (g : τ → σ)

theorem present_map (cs : List (Option (Sql.Tree τ))) :
    present (cs.map (Option.map (Sql.Tree.map g))) = (present cs).map (Sql.Tree.map g) := by
  induction cs with
  | nil => rfl
  | cons c rest ih =>
    rw [present] at ih
    cases c <;> simp [present, ih]

theorem complete_map (cs : List (Option (Sql.Tree τ))) :
    complete (cs.map (Option.map (Sql.Tree.map g)))
      = (complete cs).map (List.map (Sql.Tree.map g)) := by
  induction cs with
  | nil => rfl
  | cons c rest ih =>
    cases c with
    | none => rfl
    | some c => simp [complete, ih, Function.comp_def]

theorem allClause_map (cs : List (Option (Sql.Tree τ))) :
    allClause (cs.map (Option.map (Sql.Tree.map g))) = (allClause cs).map (Sql.Tree.map g) := by
  rw [allClause, present_map, ← Sql.Tree.map_all?, allClause]
  simp [Function.comp_def]

theorem anyClause_map (cs : List (Option (Sql.Tree τ))) :
    anyClause (cs.map (Option.map (Sql.Tree.map g))) = (anyClause cs).map (Sql.Tree.map g) := by
  rw [anyClause, complete_map, anyClause]
  cases complete cs with
  | none => rfl
  | some bs =>
    rw [Option.map_some, Option.bind_some, ← Sql.Tree.map_any?]
    simp [Function.comp_def]

theorem leaves_map (leaf : Site → Except QueryError τ) (entity : Entity)
    (aliasName name : String) (operators : List (String × Filter.Value)) :
    leaves (fun s => (leaf s).map g) entity aliasName name operators
      = (leaves leaf entity aliasName name operators).map (List.map (Sql.Tree.map g)) := by
  induction operators with
  | nil => rfl
  | cons o rest ih =>
    rw [leaves, leaves, ih]
    cases leaf ⟨entity, aliasName, name, o.1, o.2⟩ <;>
      cases leaves leaf entity aliasName name rest <;> rfl

mutual

theorem tree_map (leaf : Site → Except QueryError τ) : (f : Scoped) → (aliasName : String) →
    tree (fun s => (leaf s).map g) aliasName f
      = (tree leaf aliasName f).map (Option.map (Sql.Tree.map g))
  | .node entity ands ors fields, aliasName => by
    rw [tree, tree, trees_map leaf ands, trees_map leaf ors, fieldTrees_map leaf fields]
    cases trees leaf aliasName ands <;> cases trees leaf aliasName ors <;>
      cases fieldTrees leaf aliasName entity fields <;> try rfl
    rename_i cands cors cfields
    simp only [Except.map, ok_bind, pure, Except.pure, allClause_map, anyClause_map,
      Sql.Tree.map_all?, List.map_append]
    congr 3
    · cases allClause cands <;> cases anyClause cors <;> rfl
    · induction cfields with
      | nil => rfl
      | cons c rest ih => cases c <;> simp_all

theorem trees_map (leaf : Site → Except QueryError τ) : (fs : List Scoped) →
    (aliasName : String) →
    trees (fun s => (leaf s).map g) aliasName fs
      = (trees leaf aliasName fs).map (List.map (Option.map (Sql.Tree.map g)))
  | [], _ => rfl
  | f :: rest, aliasName => by
    rw [trees, trees, tree_map leaf f, trees_map leaf rest]
    cases tree leaf aliasName f <;> cases trees leaf aliasName rest <;> rfl

theorem fieldTrees_map (leaf : Site → Except QueryError τ) :
    (fields : List (String × ScopedEntry)) → (aliasName : String) → (entity : Entity) →
    fieldTrees (fun s => (leaf s).map g) aliasName entity fields
      = (fieldTrees leaf aliasName entity fields).map (List.map (Option.map (Sql.Tree.map g)))
  | [], _, _ => rfl
  | (name, e) :: rest, aliasName, entity => by
    rw [fieldTrees, fieldTrees, entryTree_map leaf e, fieldTrees_map leaf rest]
    cases entryTree leaf aliasName entity name e <;>
      cases fieldTrees leaf aliasName entity rest <;> rfl

theorem entryTree_map (leaf : Site → Except QueryError τ) : (e : ScopedEntry) →
    (aliasName : String) → (entity : Entity) → (name : String) →
    entryTree (fun s => (leaf s).map g) aliasName entity name e
      = (entryTree leaf aliasName entity name e).map (Option.map (Sql.Tree.map g))
  | .column operators, aliasName, entity, name => by
    rw [entryTree, entryTree, leaves_map]
    cases leaves leaf entity aliasName name operators with
    | error e => rfl
    | ok ts =>
      simp only [Except.map, ok_bind, pure, Except.pure, ← Sql.Tree.map_any?, Option.map_map,
        Function.comp_def, Sql.Tree.map_bracket]
  | .notRelation, _, _, _ | .unknownTarget _, _, _, _ | .noFilter _ _, _, _, _ => by
    rw [entryTree, entryTree]; rfl
  | .related relation _ filter, aliasName, entity, name => by
    rw [entryTree, entryTree, tree_map leaf filter]
    cases tree leaf relation.joinAlias filter with
    | error e => rfl
    | ok c => cases c <;> simp [Except.map, ok_bind, pure, Except.pure]

end
end

/-- The condition is the tree of the leaves without their sites. -/
theorem condition_eq_tree (registry : Registry) (aliasName : String) (f : Scoped) :
    f.condition registry aliasName
      = (f.tree (Leaf.ofSite registry) aliasName).map (Option.map (Sql.Tree.map Leaf.test)) := by
  rw [← tree_map, condition]
  congr 1
  funext s
  simp only [Leaf.ofSite]
  cases s.test registry <;> rfl

/-! ### Where leaves come from -/

section
variable {τ : Type} {leaf : Site → Except QueryError τ}

theorem exists_mem_of_present {cs : List (Option (Sql.Tree τ))} {x : τ}
    (hx : x ∈ (present cs).flatMap Sql.Tree.leaves) : ∃ c, some c ∈ cs ∧ x ∈ c.leaves := by
  obtain ⟨b, hb, hx⟩ := List.mem_flatMap.1 hx
  obtain ⟨c, hc, hb⟩ := List.mem_filterMap.1 hb
  obtain ⟨d, rfl, rfl⟩ := Option.map_eq_some_iff.1 hb
  exact ⟨d, hc, by rwa [Sql.Tree.leaves_bracket] at hx⟩

theorem exists_mem_of_complete {cs : List (Option (Sql.Tree τ))} {bs : List (Sql.Tree τ)} {x : τ}
    (h : complete cs = some bs) (hx : x ∈ bs.flatMap Sql.Tree.leaves) :
    ∃ c, some c ∈ cs ∧ x ∈ c.leaves := by
  induction cs generalizing bs with
  | nil => cases h; cases hx
  | cons c rest ih =>
    cases c with
    | none => cases h
    | some c =>
      obtain ⟨ds, hds, rfl⟩ := Option.map_eq_some_iff.1 h
      rw [List.flatMap_cons, Sql.Tree.leaves_bracket, List.mem_append] at hx
      rcases hx with hx | hx
      · exact ⟨c, List.mem_cons_self .., hx⟩
      · obtain ⟨d, hd, hx⟩ := ih hds hx
        exact ⟨d, List.mem_cons_of_mem _ hd, hx⟩

theorem exists_mem_of_allClause {cs : List (Option (Sql.Tree τ))} {b : Sql.Tree τ} {x : τ}
    (h : allClause cs = some b) (hx : x ∈ b.leaves) : ∃ c, some c ∈ cs ∧ x ∈ c.leaves := by
  obtain ⟨c, hc, rfl⟩ := Option.map_eq_some_iff.1 h
  rw [Sql.Tree.leaves_bracket, Sql.Tree.leaves_of_all? hc] at hx
  exact exists_mem_of_present hx

theorem exists_mem_of_anyClause {cs : List (Option (Sql.Tree τ))} {b : Sql.Tree τ} {x : τ}
    (h : anyClause cs = some b) (hx : x ∈ b.leaves) : ∃ c, some c ∈ cs ∧ x ∈ c.leaves := by
  obtain ⟨c, hc, rfl⟩ := Option.map_eq_some_iff.1 h
  obtain ⟨bs, hbs, hc⟩ := Option.bind_eq_some_iff.1 hc
  rw [Sql.Tree.leaves_bracket, Sql.Tree.leaves_of_any? hc] at hx
  exact exists_mem_of_complete hbs hx

theorem exists_operator_of_leaves {entity : Entity} {aliasName name : String} {x : τ} :
    ∀ {operators : List (String × Filter.Value)} {ts : List (Sql.Tree τ)},
      leaves leaf entity aliasName name operators = .ok ts → x ∈ ts.flatMap Sql.Tree.leaves →
      ∃ s ∈ sitesEntry aliasName entity name (.column operators), leaf s = .ok x
  | [], _, h, hx => by cases h; cases hx
  | (op, v) :: rest, _, h, hx => by
    simp only [leaves, bind_eq_ok, pure_eq_ok] at h
    obtain ⟨y, hy, ts, hts, rfl⟩ := h
    rw [List.flatMap_cons, Sql.Tree.leaves, List.mem_append, List.mem_singleton] at hx
    rw [sitesEntry, List.map_cons]
    rcases hx with rfl | hx
    · exact ⟨_, List.mem_cons_self .., hy⟩
    · obtain ⟨s, hs, hx⟩ := exists_operator_of_leaves hts hx
      exact ⟨s, List.mem_cons_of_mem _ hs, hx⟩

mutual

/-- A leaf of the tree is that of an operator of the filter. -/
theorem exists_site_of_tree {x : τ} : (f : Scoped) → {aliasName : String} → {c : Sql.Tree τ} →
    f.tree leaf aliasName = .ok (some c) → x ∈ c.leaves → ∃ s ∈ f.sites aliasName, leaf s = .ok x
  | .node entity ands ors fields, aliasName, c, hc, hx => by
    simp only [tree, bind_eq_ok, pure_eq_ok] at hc
    obtain ⟨cands, hands, cors, hors, cfields, hfields, hc⟩ := hc
    rw [Sql.Tree.leaves_of_all? hc, List.flatMap_append, List.flatMap_append, List.mem_append,
      List.mem_append] at hx
    simp only [sites, List.mem_append]
    rcases hx with (hx | hx) | hx
    · obtain ⟨b, hb, hx⟩ := List.mem_flatMap.1 hx
      obtain ⟨d, hd, hx⟩ := exists_mem_of_allClause (Option.mem_toList.1 hb) hx
      obtain ⟨s, hs, hx⟩ := exists_site_of_trees ands hands hd hx
      exact ⟨s, .inl (.inl hs), hx⟩
    · obtain ⟨b, hb, hx⟩ := List.mem_flatMap.1 hx
      obtain ⟨d, hd, hx⟩ := exists_mem_of_anyClause (Option.mem_toList.1 hb) hx
      obtain ⟨s, hs, hx⟩ := exists_site_of_trees ors hors hd hx
      exact ⟨s, .inl (.inr hs), hx⟩
    · obtain ⟨d, hd, hx⟩ := List.mem_flatMap.1 hx
      obtain ⟨o, ho, rfl⟩ := List.mem_filterMap.1 hd
      obtain ⟨s, hs, hx⟩ := exists_site_of_fieldTrees fields hfields ho hx
      exact ⟨s, .inr hs, hx⟩

theorem exists_site_of_trees {x : τ} : (fs : List Scoped) → {aliasName : String} →
    {cs : List (Option (Sql.Tree τ))} → {c : Sql.Tree τ} → trees leaf aliasName fs = .ok cs →
    some c ∈ cs → x ∈ c.leaves → ∃ s ∈ sitesAll aliasName fs, leaf s = .ok x
  | [], _, _, _, h, hc, _ => by cases h; cases hc
  | f :: rest, aliasName, _, _, h, hc, hx => by
    simp only [trees, bind_eq_ok, pure_eq_ok] at h
    obtain ⟨d, hf, ds, hrest, rfl⟩ := h
    simp only [sitesAll, List.mem_append]
    rcases List.mem_cons.1 hc with rfl | hc
    · obtain ⟨s, hs, hx⟩ := exists_site_of_tree f hf hx
      exact ⟨s, .inl hs, hx⟩
    · obtain ⟨s, hs, hx⟩ := exists_site_of_trees rest hrest hc hx
      exact ⟨s, .inr hs, hx⟩

theorem exists_site_of_fieldTrees {x : τ} : (fields : List (String × ScopedEntry)) →
    {aliasName : String} → {entity : Entity} → {cs : List (Option (Sql.Tree τ))} →
    {c : Sql.Tree τ} →
    fieldTrees leaf aliasName entity fields = .ok cs → some c ∈ cs → x ∈ c.leaves →
    ∃ s ∈ sitesFields aliasName entity fields, leaf s = .ok x
  | [], _, _, _, _, h, hc, _ => by cases h; cases hc
  | (name, e) :: rest, aliasName, entity, _, _, h, hc, hx => by
    simp only [fieldTrees, bind_eq_ok, pure_eq_ok] at h
    obtain ⟨d, he, ds, hrest, rfl⟩ := h
    simp only [sitesFields, List.mem_append]
    rcases List.mem_cons.1 hc with rfl | hc
    · obtain ⟨s, hs, hx⟩ := exists_site_of_entryTree e he hx
      exact ⟨s, .inl hs, hx⟩
    · obtain ⟨s, hs, hx⟩ := exists_site_of_fieldTrees rest hrest hc hx
      exact ⟨s, .inr hs, hx⟩

theorem exists_site_of_entryTree {x : τ} : (e : ScopedEntry) → {aliasName : String} →
    {entity : Entity} → {name : String} → {c : Sql.Tree τ} →
    entryTree leaf aliasName entity name e = .ok (some c) → x ∈ c.leaves →
    ∃ s ∈ sitesEntry aliasName entity name e, leaf s = .ok x
  | .column operators, _, _, _, _, h, hx => by
    simp only [entryTree, bind_eq_ok, pure_eq_ok] at h
    obtain ⟨ts, hts, hc⟩ := h
    obtain ⟨b, hb, rfl⟩ := Option.map_eq_some_iff.1 hc
    rw [Sql.Tree.leaves_bracket, Sql.Tree.leaves_of_any? hb] at hx
    exact exists_operator_of_leaves hts hx
  | .notRelation, _, _, _, _, h, _ | .unknownTarget _, _, _, _, _, h, _
  | .noFilter _ _, _, _, _, _, h, _ => by simp [entryTree] at h
  | .related relation _ filter, _, _, _, _, h, hx => by
    simp only [entryTree, bind_eq_ok, pure_eq_ok] at h
    obtain ⟨d, hd, hc⟩ := h
    obtain ⟨b, rfl, rfl⟩ := Option.map_eq_some_iff.1 hc
    rw [Sql.Tree.leaves_bracket] at hx
    rw [sitesEntry]
    exact exists_site_of_tree filter hd hx

end
end

/-! ### Agreement -/

/-- An operator that a test was made of holds just when its leaf is true. -/
theorem Leaf.holds_eq_isTrue {registry : Registry} {s : Site} {l : Leaf}
    (hr : registry.HoldsBuiltIn) (hv : s.value.InRange) (hs : s.isTooLarge registry = false)
    (hl : Leaf.ofSite registry s = .ok l) (row : Json.Row) :
    s.holds registry row = .ok (l.isTrue registry row) := by
  obtain ⟨t, ht, rfl⟩ := map_eq_ok.1 hl
  obtain ⟨b, hb⟩ := Site.holds_of_test hr hv hs ht row
  simp only [Leaf.isTrue, hb]

/-- A filter without relations that has a condition holds on a row just when the condition is true,
read as a Boolean expression over what its operators say about the row. -/
theorem holds_eq_reads_condition {registry : Registry} (hr : registry.HoldsBuiltIn)
    (catalog : Catalog) (entity : Entity) (aliasName : String) (f : Filter) (row : Json.Row)
    (hn : ∀ name ∈ f.names, entity.relation? name = none)
    (hv : (f.scope catalog entity).InRange aliasName)
    (hp : (f.scope catalog entity).PatternsFit registry aliasName) {c : Option Sql.Condition}
    (hc : (f.scope catalog entity).condition registry aliasName = .ok c) :
    ∃ t : Option (Sql.Tree Leaf),
      (f.scope catalog entity).tree (Leaf.ofSite registry) aliasName = .ok t ∧
      t.map (Sql.Tree.map Leaf.test) = c ∧
      (∀ u ∈ t, ∀ l ∈ u.leaves, l.site ∈ (f.scope catalog entity).sites aliasName ∧
        l.site.test registry = .ok l.test ∧
        l.site.holds registry row = .ok (l.isTrue registry row)) ∧
      (f.scope catalog entity).holds registry row
        = .ok (Sql.Tree.reads (Leaf.isTrue registry row) t) := by
  rw [condition_eq_tree, map_eq_ok] at hc
  obtain ⟨t, ht, hmap⟩ := hc
  refine ⟨t, ht, hmap, ?_, ?_⟩
  · rintro u rfl l hl
    obtain ⟨s, hs, hleaf⟩ := exists_site_of_tree _ ht hl
    have hholds := Leaf.holds_eq_isTrue hr (hv s hs) (hp s hs) hleaf row
    obtain ⟨test, htest, rfl⟩ := map_eq_ok.1 hleaf
    exact ⟨hs, htest, hholds⟩
  · exact holds_eq_reads f hn
      (fun s hs l hl => Leaf.holds_eq_isTrue hr (hv s hs) (hp s hs) hl row) ht

/-- A title that begins with a letter, or a large number. -/
theorem holds_eq_reads_condition_title_or_id :
    let e : Entity :=
      ⟨"task", "tasks", none, ["id"], [⟨"id", .integer⟩, ⟨"title", .text⟩], []⟩
    let f := Filter.anyOf
      [.onField "title" .like (.str "a%"), .allOf [.onField "id" .gt (.int 3), .empty]]
    let c : Sql.Condition := .group (.any
      [.group (.test (.compare .like ⟨"task", "title"⟩ ⟨.text "a%", none⟩)),
        .group (.test (.compare .gt ⟨"task", "id"⟩ ⟨.int 3, none⟩))])
    ∃ t : Option (Sql.Tree Leaf), t.map (Sql.Tree.map Leaf.test) = some c ∧
      (f.scope ⟨[e]⟩ e).holds .empty [("id", .int 5), ("title", .str "b")]
        = .ok (Sql.Tree.reads (Leaf.isTrue .empty [("id", .int 5), ("title", .str "b")]) t) := by
  intro e f c
  have htitle : e.relation? "title" = none := rfl
  have hid : e.relation? "id" = none := rfl
  have hscope : f.scope ⟨[e]⟩ e = .node e []
      [.node e [] [] [("title", .column [("like", .str "a%")])],
        .node e [.node e [] [] [("id", .column [("gt", .int 3)])], .node e [] [] []] [] []] [] := by
    simp only [f, Scope.scope_anyOf, Scope.scope_allOf, List.map_cons, List.map_nil,
      Scope.scope_onField htitle, Scope.scope_onField hid, Scope.scope_empty, Filter.Operator.name]
  have hsites : (f.scope ⟨[e]⟩ e).sites "task"
      = [⟨e, "task", "title", "like", .str "a%"⟩, ⟨e, "task", "id", "gt", .int 3⟩] := by
    rw [hscope]
    rfl
  have hrange : (f.scope ⟨[e]⟩ e).InRange "task" := by
    rw [InRange, hsites]
    simp only [List.forall_mem_cons, Filter.Value.InRange, List.not_mem_nil, false_imp_iff,
      implies_true, and_true, true_and]
    decide
  have hfits : (f.scope ⟨[e]⟩ e).PatternsFit .empty "task" := by
    rw [PatternsFit, hsites]
    decide
  have hcond : (f.scope ⟨[e]⟩ e).condition .empty "task" = .ok (some c) := by
    rw [hscope]
    rfl
  obtain ⟨t, -, hmap, -, hholds⟩ := holds_eq_reads_condition Registry.empty_holdsBuiltIn ⟨[e]⟩ e
    "task" f [("id", .int 5), ("title", .str "b")] (by decide) hrange hfits hcond
  exact ⟨t, hmap, hholds⟩

/-- A pattern that is too large is compiled, but no row with a text is judged by it. -/
theorem scope_onField_like_of_isTooLarge {registry : Registry} {e : Entity}
    {name pattern text : String} {row : Json.Row} (he : e.relation? name = none)
    (hl : registry.lookup? "like" (e.columnType? name) (some (e.name, name)) = none)
    (hrow : Dict.find? row name = some (.str text))
    (hlarge : Pattern.isTooLarge false (Pattern.items pattern.toList) = true) (catalog : Catalog)
    (aliasName : String) :
    let f := (Filter.onField name .like (.str pattern)).scope catalog e
    f.condition registry aliasName
        = .ok (some (.group (.test (.compare .like ⟨aliasName, name⟩ ⟨.text pattern, none⟩)))) ∧
      f.holds registry row = .error (.invalidValue name "like" .patternTooLarge) := by
  intro f
  have hf : f = .node e [] [] [(name, .column [("like", .str pattern)])] :=
    Scope.scope_onField he .like (.str pattern)
  have hop : Comparison.holds name .like (.str text) (.str pattern)
      = .error (.invalidValue name "like" .patternTooLarge) := by
    rw [Comparison.holds, Comparison.holdsPattern_str, hlarge]
    rfl
  constructor
  · simp only [hf, condition, tree, trees, fieldTrees, entryTree, leaves, Site.test, hl, ok_bind]
    rfl
  · simp only [hf, holds, holdsAll, holdsFields, holdsEntry, anyOperator, holdsOperator, hl, hrow,
      ok_bind]
    simp only [show Filter.Operator.ofName "like" = .like from rfl, Option.getD_some, hop]
    rfl

/-- With fifty thousand wildcards a filter has a condition but no judgement. -/
theorem holds_eq_error_of_wildcards :
    let e : Entity := ⟨"task", "tasks", none, ["id"], [⟨"id", .integer⟩, ⟨"title", .text⟩], []⟩
    let pattern := String.ofList (List.replicate 50000 '%')
    let f := (Filter.onField "title" .like (.str pattern)).scope ⟨[e]⟩ e
    f.condition .empty "task"
        = .ok (some (.group (.test (.compare .like ⟨"task", "title"⟩ ⟨.text pattern, none⟩)))) ∧
      f.holds .empty [("title", .str "a")]
        = .error (.invalidValue "title" "like" .patternTooLarge) := by
  exact scope_onField_like_of_isTooLarge rfl rfl rfl
    (Pattern.isTooLarge_text_wildcards false (by decide)) _ _

end RowQuery.Scoped
