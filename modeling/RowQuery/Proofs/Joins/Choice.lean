import RowQuery.Proofs.Joins.Routes
/-!
Rows that are chosen for joins.

A statement joins a relation once: it takes one row of each relation that the filter names and reads
the whole condition on these rows. In memory every entry searches the related rows anew, so rows
that make the condition true make every entry true. What the entries find, taken together, is in
`RowQuery.Proofs.Joins.Selection`.
-/

namespace RowQuery

/-! ### The rows of a join -/

/-- The related rows that a row holds under the name of a relation. An item that is no object has no
columns. -/
def Relation.rowsIn (relation : Relation) (row : Json.Row) : List Json.Row :=
  match Dict.find? row relation.name with
  | some (.obj related) => [related]
  | some (.arr items) => items.map fun v => v.members?.getD []
  | _ => []

/-- The rows that the join of a relation puts beside a row: the related ones. Where there are none,
a left join puts a row without columns there, and an inner join drops the row. -/
def Relation.joinedRows (relation : Relation) (row : Json.Row) : List Json.Row :=
  if relation.rowsIn row = [] ∧ relation.join = .left then [[]] else relation.rowsIn row

/-- Joined rows are those that are tried in memory, unless there are none. -/
theorem Relation.joinedRows_eq (relation : Relation) (row : Json.Row) :
    relation.joinedRows row = [] ∨
      relation.joinedRows row = Scoped.relatedRows (Dict.find? row relation.name) := by
  have hrows : relation.rowsIn row = [] ∧
      Scoped.relatedRows (Dict.find? row relation.name) = [[]] ∨
      relation.rowsIn row ≠ [] ∧
        Scoped.relatedRows (Dict.find? row relation.name) = relation.rowsIn row := by
    simp only [rowsIn]
    match Dict.find? row relation.name with
    | none | some .null | some (.bool _) | some (.num _) | some (.str _) | some (.arr []) =>
      exact .inl ⟨rfl, rfl⟩
    | some (.obj _) | some (.arr (_ :: _)) => exact .inr ⟨List.cons_ne_nil _ _, rfl⟩
  rw [joinedRows]
  rcases hrows with ⟨hnone, hrelated⟩ | ⟨hsome, hrelated⟩
  · rw [hnone, hrelated]
    cases relation.join
    · exact .inr (if_pos ⟨rfl, rfl⟩)
    · exact .inl (if_neg (by simp))
  · exact .inr (by rw [hrelated, if_neg fun h => hsome h.1])

theorem Relation.mem_relatedRows {relation : Relation} {row related : Json.Row}
    (h : related ∈ relation.joinedRows row) :
    related ∈ Scoped.relatedRows (Dict.find? row relation.name) := by
  rcases relation.joinedRows_eq row with hnone | heq
  · rw [hnone] at h
    cases h
  · rwa [← heq]

theorem Relation.mem_joinedRows {relation : Relation} {row related : Json.Row}
    (hne : relation.joinedRows row ≠ [])
    (h : related ∈ Scoped.relatedRows (Dict.find? row relation.name)) :
    related ∈ relation.joinedRows row := by
  rw [(relation.joinedRows_eq row).resolve_left hne]
  exact h

namespace Scoped

/-- Whether the rows known by aliases satisfy the operator of a leaf. -/
def Leaf.isTrueIn (registry : Registry) (rows : String → Json.Row) (l : Leaf) : Bool :=
  l.isTrue registry (rows l.site.aliasName)

/-- The rows known by aliases are a row of the base table and, for each join that the filter needs,
one of the rows that the join puts beside it. -/
def IsChoice (f : Scoped) (base : String) (row : Json.Row) (rows : String → Json.Row) : Prop :=
  rows base = row ∧ ∀ j ∈ f.joins base, ∃ r ∈ f.routes,
    r.join base = j ∧ rows j.aliasName ∈ r.last.relation.joinedRows row

/-- The joins and the condition of a filter select a row: on one choice of joined rows the condition
is true, read as a Boolean expression over what its operators say about these rows. -/
def Selects (f : Scoped) (registry : Registry) (base : String) (row : Json.Row) : Prop :=
  ∃ t rows, f.tree (Leaf.ofSite registry) base = .ok t ∧ f.IsChoice base row rows ∧
    Sql.Tree.reads (Leaf.isTrueIn registry rows) t = true

/-- Where an alias belongs to one relation, rows are chosen along the routes. -/
theorem isChoice_iff {f : Scoped} {base : String} {row : Json.Row} {rows : String → Json.Row}
    (hdistinct : ∀ r ∈ f.routes, ∀ r' ∈ f.routes, r.aliasName = r'.aliasName →
      r.last.relation = r'.last.relation) :
    f.IsChoice base row rows ↔
      rows base = row ∧ ∀ r ∈ f.routes, rows r.aliasName ∈ r.last.relation.joinedRows row := by
  refine and_congr_right fun _ => ⟨fun h r hr => ?_, fun h j hj => ?_⟩
  · obtain ⟨first, hfirst, halias, hjoin⟩ := exists_joinUnder f base hr
    have hmem : first.join base ∈ f.joins base := by
      rw [mem_joins_iff, Route.aliasName_join, halias, hjoin]
    obtain ⟨chosen, hchosen, heq, hrow⟩ := h _ hmem
    have hsame : chosen.aliasName = r.aliasName := (congrArg Sql.Join.aliasName heq).trans halias
    rwa [Route.aliasName_join, halias, hdistinct chosen hchosen r hr hsame] at hrow
  · rw [mem_joins_iff, joinUnder_eq] at hj
    obtain ⟨r, hr, rfl⟩ := List.mem_map.1 (List.mem_of_find?_eq_some hj)
    exact ⟨r, hr, rfl, h r hr⟩

/-! ### Judging with leaves -/

section
variable {registry : Registry} {rows : String → Json.Row}

/-- The operator of a site holds on a row just when its leaf is true there. -/
def Site.IsJudged (registry : Registry) (s : Site) : Prop :=
  ∀ l, Leaf.ofSite registry s = .ok l → ∀ row, s.holds registry row = .ok (l.isTrue registry row)

theorem Site.IsJudged.decides {s : Site} (h : s.IsJudged registry) :
    s.Decides (Leaf.ofSite registry) registry :=
  fun l hl row => ⟨_, h l hl row⟩

theorem Leaf.site_of_ofSite {s : Site} {l : Leaf} (h : Leaf.ofSite registry s = .ok l) :
    l.site = s := by
  obtain ⟨t, -, rfl⟩ := map_eq_ok.1 h
  rfl

theorem anyRow_eq_true_iff {judge : Json.Row → Except QueryError Bool}
    (hjudge : ∀ row, ∃ b, judge row = .ok b) : ∀ {rows : List Json.Row},
    anyRow judge rows = .ok true ↔ ∃ row ∈ rows, judge row = .ok true
  | [] => by simp [anyRow]
  | row :: rest => by
    obtain ⟨b, hb⟩ := hjudge row
    rw [anyRow, hb, ok_bind, List.exists_mem_cons_iff, hb]
    cases b
    · rw [if_neg Bool.false_ne_true, anyRow_eq_true_iff hjudge]
      simp
    · simp

/-- A filter holds if its groups and its entries do. -/
theorem holds_node_iff {row : Json.Row} {entity : Entity} {ands ors : List Scoped}
    {fields : List (String × ScopedEntry)} :
    (Scoped.node entity ands ors fields).holds registry row = .ok true ↔
      holdsAll registry row ands = .ok true ∧ (ors = [] ∨ holdsAny registry row ors = .ok true) ∧
        holdsFields registry row entity fields = .ok true := by
  rw [holds]
  cases holdsAll registry row ands with
  | error e => simp [Bind.bind, Except.bind]
  | ok a =>
    rw [ok_bind]
    cases a with
    | false => simp
    | true =>
      cases ors with
      | nil => simp
      | cons f rest =>
        cases holdsAny registry row (f :: rest) with
        | error e => simp [Bind.bind, Except.bind]
        | ok o => cases o <;> simp [ok_bind]

theorem holdsEntry_column_eq {entity : Entity} {base name : String}
    {operators : List (String × Filter.Value)} {c : Option (Sql.Tree Leaf)}
    (hs : ∀ s ∈ sitesEntry base entity name (.column operators), s.IsJudged registry)
    (hc : entryTree (Leaf.ofSite registry) base entity name (.column operators) = .ok c) :
    holdsEntry registry (rows base) entity name (.column operators)
      = .ok (Sql.Tree.reads (Leaf.isTrueIn registry rows) c) := by
  have hbase : holdsEntry registry (rows base) entity name (.column operators)
      = .ok (Sql.Tree.reads (Leaf.isTrue registry (rows base)) c) :=
    holdsEntry_column (fun s hmem l hl => hs s hmem l hl _) hc
  rw [hbase]
  congr 1
  refine Sql.Tree.reads_congr fun t ht l hl => ?_
  obtain rfl := Option.mem_def.1 ht
  obtain ⟨s, hmem, hleaf⟩ := exists_site_of_entryTree _ hc hl
  obtain ⟨o, -, rfl⟩ := List.mem_map.1 hmem
  rw [Leaf.isTrueIn, Leaf.site_of_ofSite hleaf]

/-! ### Chosen rows that make the condition true -/

/-- The route leads from the base row at once, to rows of which the alias has one. -/
def Route.Reads (base : String) (rows : String → Json.Row) (r : Route) : Prop :=
  r.before = [] ∧ rows r.aliasName ∈ relatedRows (Dict.find? (rows base) r.last.relation.name)

mutual

/-- A filter whose condition is true of related rows holds. -/
theorem holds_of_reads {catalog : Catalog} : (f : Scoped) → {entity : Entity} → {base : String} →
    {c : Option (Sql.Tree Leaf)} → f.Resolved catalog entity →
    (∀ s ∈ f.sites base, s.IsJudged registry) → (∀ r ∈ f.routes, r.Reads base rows) →
    f.tree (Leaf.ofSite registry) base = .ok c →
    Sql.Tree.reads (Leaf.isTrueIn registry rows) c = true →
    f.holds registry (rows base) = .ok true
  | .node entity ands ors fields, _, base, c, hres, hs, hr, hc, htrue => by
    obtain ⟨rfl, hands, hors, hfields⟩ := hres
    simp only [sites, List.mem_append, or_imp, forall_and] at hs
    simp only [routes, List.mem_append, or_imp, forall_and] at hr
    simp only [tree, bind_eq_ok, pure_eq_ok] at hc
    obtain ⟨cands, hcands, cors, hcors, cfields, hcfields, rfl⟩ := hc
    rw [reads_node, Bool.and_eq_true, Bool.and_eq_true] at htrue
    obtain ⟨⟨htands, htors⟩, htfields⟩ := htrue
    rw [holds_node_iff]
    refine ⟨holdsAll_of_reads ands hands hs.1.1 hr.1.1 hcands htands, ?_,
      holdsFields_of_reads fields hfields hs.2 hr.2 hcfields htfields⟩
    by_cases hnil : cors = []
    · exact .inl ((trees_eq_nil_iff hcors).1 hnil)
    · rw [reads_anyClause _ hnil] at htors
      exact .inr (holdsAny_of_reads ors hors hs.1.2 hr.1.2 hcors htors)

theorem holdsAll_of_reads {catalog : Catalog} : (fs : List Scoped) → {entity : Entity} →
    {base : String} → {cs : List (Option (Sql.Tree Leaf))} → ResolvedAll catalog entity fs →
    (∀ s ∈ sitesAll base fs, s.IsJudged registry) → (∀ r ∈ routesAll fs, r.Reads base rows) →
    trees (Leaf.ofSite registry) base fs = .ok cs →
    cs.all (Sql.Tree.reads (Leaf.isTrueIn registry rows)) = true →
    holdsAll registry (rows base) fs = .ok true
  | [], _, _, _, _, _, _, _, _ => rfl
  | f :: rest, _, base, cs, hres, hs, hr, hc, htrue => by
    simp only [sitesAll, List.mem_append, or_imp, forall_and] at hs
    simp only [routesAll, List.mem_append, or_imp, forall_and] at hr
    simp only [trees, bind_eq_ok, pure_eq_ok] at hc
    obtain ⟨c, hf, ds, hrest, rfl⟩ := hc
    rw [List.all_cons, Bool.and_eq_true] at htrue
    rw [holdsAll, holds_of_reads f hres.1 hs.1 hr.1 hf htrue.1, ok_bind, if_pos rfl]
    exact holdsAll_of_reads rest hres.2 hs.2 hr.2 hrest htrue.2

theorem holdsAny_of_reads {catalog : Catalog} : (fs : List Scoped) → {entity : Entity} →
    {base : String} → {cs : List (Option (Sql.Tree Leaf))} → ResolvedAll catalog entity fs →
    (∀ s ∈ sitesAll base fs, s.IsJudged registry) → (∀ r ∈ routesAll fs, r.Reads base rows) →
    trees (Leaf.ofSite registry) base fs = .ok cs →
    cs.any (Sql.Tree.reads (Leaf.isTrueIn registry rows)) = true →
    holdsAny registry (rows base) fs = .ok true
  | [], _, _, _, _, _, _, hc, htrue => by
    cases hc
    cases htrue
  | f :: rest, _, base, cs, hres, hs, hr, hc, htrue => by
    simp only [sitesAll, List.mem_append, or_imp, forall_and] at hs
    simp only [routesAll, List.mem_append, or_imp, forall_and] at hr
    simp only [trees, bind_eq_ok, pure_eq_ok] at hc
    obtain ⟨c, hf, ds, hrest, rfl⟩ := hc
    rw [List.any_cons, Bool.or_eq_true] at htrue
    -- the member before the true one is judged too, and must not fail
    obtain ⟨b, hb⟩ := holds_of_tree f (fun s hmem => (hs.1 s hmem).decides) hf (rows base)
    rw [holdsAny, hb, ok_bind]
    cases b with
    | true => rfl
    | false =>
      rcases htrue with htrue | htrue
      · rw [holds_of_reads f hres.1 hs.1 hr.1 hf htrue] at hb
        cases hb
      · exact holdsAny_of_reads rest hres.2 hs.2 hr.2 hrest htrue

theorem holdsFields_of_reads {catalog : Catalog} : (fields : List (String × ScopedEntry)) →
    {entity : Entity} → {base : String} → {cs : List (Option (Sql.Tree Leaf))} →
    ResolvedFields catalog entity fields →
    (∀ s ∈ sitesFields base entity fields, s.IsJudged registry) →
    (∀ r ∈ routesFields fields, r.Reads base rows) →
    fieldTrees (Leaf.ofSite registry) base entity fields = .ok cs →
    cs.all (Sql.Tree.reads (Leaf.isTrueIn registry rows)) = true →
    holdsFields registry (rows base) entity fields = .ok true
  | [], _, _, _, _, _, _, _, _ => rfl
  | (name, e) :: rest, entity, base, cs, hres, hs, hr, hc, htrue => by
    simp only [sitesFields, List.mem_append, or_imp, forall_and] at hs
    simp only [routesFields, List.mem_append, or_imp, forall_and] at hr
    simp only [fieldTrees, bind_eq_ok, pure_eq_ok] at hc
    obtain ⟨c, he, ds, hrest, rfl⟩ := hc
    rw [List.all_cons, Bool.and_eq_true] at htrue
    rw [holdsFields, holdsEntry_of_reads e hres.1 hs.1 hr.1 he htrue.1, ok_bind, if_pos rfl]
    exact holdsFields_of_reads rest hres.2 hs.2 hr.2 hrest htrue.2

theorem holdsEntry_of_reads {catalog : Catalog} : (e : ScopedEntry) → {entity : Entity} →
    {base name : String} → {c : Option (Sql.Tree Leaf)} → ResolvedEntry catalog entity name e →
    (∀ s ∈ sitesEntry base entity name e, s.IsJudged registry) →
    (∀ r ∈ routesEntry e, r.Reads base rows) →
    entryTree (Leaf.ofSite registry) base entity name e = .ok c →
    Sql.Tree.reads (Leaf.isTrueIn registry rows) c = true →
    holdsEntry registry (rows base) entity name e = .ok true
  | .column operators, _, base, name, c, _, hs, _, hc, htrue => by
    rw [holdsEntry_column_eq hs hc, htrue]
  | .notRelation, _, _, _, _, _, _, _, hc, _ | .unknownTarget _, _, _, _, _, _, _, _, hc, _
  | .noFilter _ _, _, _, _, _, _, _, _, hc, _ => by simp [entryTree] at hc
  | .related relation target filter, entity, base, name, c, hres, hs, hr, hc, htrue => by
    obtain ⟨hrelation, -, hfilter⟩ := hres
    simp only [entryTree, bind_eq_ok, pure_eq_ok] at hc
    obtain ⟨d, hd, rfl⟩ := hc
    rw [Sql.Tree.reads_map_bracket] at htrue
    obtain ⟨-, hrow⟩ := hr _ (List.mem_cons_self ..)
    -- a route of the nested filter would have the relation before it
    have hflat : ∀ r ∈ filter.routes, r.Reads relation.joinAlias rows := fun r hmem =>
      absurd (hr _ (List.mem_cons_of_mem _ (List.mem_map_of_mem hmem))).1 (List.cons_ne_nil _ _)
    have hholds := holds_of_reads filter hfilter hs hflat hd htrue
    rw [holdsEntry, anyRow_eq_true_iff
      (holds_of_tree filter (fun s hmem => (hs s hmem).decides) hd)]
    rw [← relation?_name hrelation]
    exact ⟨_, hrow, hholds⟩

end
end

end Scoped
end RowQuery
