import RowQuery.Proofs.Outline.Filter
import RowQuery.Scoped.Joins
/-!
Outlines of resolved filters.

Names are resolved without a look at values, so a filter and its outline resolve to filters of one
shape: they have the same joins, and their operators stand in the same places. Where operators in
the same places have the same leaf, the whole trees are the same.
-/

namespace RowQuery

namespace Scoped

mutual

/-- The outline of a resolved filter. -/
def outline : Scoped → Scoped
  | .node entity ands ors fields =>
    .node entity (outlineAll ands) (outlineAll ors) (outlineFields fields)

/-- `outline` of every filter. -/
def outlineAll : List Scoped → List Scoped
  | [] => []
  | f :: rest => outline f :: outlineAll rest

/-- The outlines of entries. -/
def outlineFields : List (String × ScopedEntry) → List (String × ScopedEntry)
  | [] => []
  | (name, e) :: rest => (name, outlineEntry e) :: outlineFields rest

/-- The outline of an entry. -/
def outlineEntry : ScopedEntry → ScopedEntry
  | .column operators => .column (Filter.Value.outlineMembers operators)
  | .notRelation => .notRelation
  | .unknownTarget relation => .unknownTarget relation
  | .noFilter relation target => .noFilter relation target
  | .related relation target filter => .related relation target (outline filter)

end

/-- The operator of a site with the outline of its value. -/
def Site.outline (s : Site) : Site := { s with value := s.value.outline }

end Scoped

/-! ### Resolving names -/

namespace Filter

mutual

/-- The outline of a filter resolves to the outline of the resolved filter. -/
theorem scope_outline (catalog : Catalog) (entity : Entity) : (f : Filter) → f.InRange →
    f.outline.scope catalog entity = (f.scope catalog entity).outline
  | .node ands ors fields, h => by
    rw [outline, scope, scope, Scoped.outline, scopeAll_outline catalog entity ands h.1,
      scopeAll_outline catalog entity ors h.2.1, scopeFields_outline catalog entity fields h.2.2]
  termination_by f => (f.size, 1)
  decreasing_by all_goals (simp only [size, Prod.lex_def]; omega)

theorem scopeAll_outline (catalog : Catalog) (entity : Entity) : (fs : List Filter) →
    InRangeAll fs →
    scopeAll catalog entity (outlineAll fs) = Scoped.outlineAll (scopeAll catalog entity fs)
  | [], _ => by rw [outlineAll, scopeAll, Scoped.outlineAll]
  | f :: rest, h => by
    rw [outlineAll, scopeAll, scopeAll, Scoped.outlineAll, scope_outline catalog entity f h.1,
      scopeAll_outline catalog entity rest h.2]
  termination_by fs => (sizeGroup fs, fs.length + 2)
  decreasing_by
    all_goals
      (simp only [sizeGroup, Prod.lex_def, List.length_cons]
       have := size_pos f
       omega)

theorem scopeFields_outline (catalog : Catalog) (entity : Entity) :
    (fields : List (String × Entry)) → InRangeFields fields →
    scopeFields catalog entity (outlineFields fields)
      = Scoped.outlineFields (scopeFields catalog entity fields)
  | [], _ => by rw [outlineFields, scopeFields, Scoped.outlineFields]
  | (name, e) :: rest, h => by
    rw [outlineFields, scopeFields, scopeFields, Scoped.outlineFields,
      scopeEntry_outline catalog entity name e h.1, scopeFields_outline catalog entity rest h.2]
  termination_by fields => (sizeFields fields, fields.length + 3)
  decreasing_by all_goals (simp only [sizeFields, Prod.lex_def, List.length_cons]; omega)

theorem scopeEntry_outline (catalog : Catalog) (entity : Entity) (name : String) (e : Entry)
    (h : InRangeEntry e) :
    scopeEntry catalog entity name (outlineEntry e)
      = Scoped.outlineEntry (scopeEntry catalog entity name e) := by
  rw [scopeEntry.eq_def, scopeEntry.eq_def]
  cases entity.relation? name with
  | none => cases e <;> rfl
  | some relation =>
    simp only
    cases catalog.find? relation.target with
    | none => rfl
    | some target =>
      -- both sides go by the filter that the entry means
      have hfilter := filter?_outlineEntry h
      simp only
      split <;> split
      · rfl
      · rename_i hnone f hsome
        simp [hnone, hsome] at hfilter
      · rename_i hsome hnone
        simp [hnone, hsome] at hfilter
      · rename_i g hg f hf
        rw [hg, hf, Option.map_some, Option.some.injEq] at hfilter
        rw [hfilter, Scoped.outlineEntry, scope_outline catalog target f (inRange_of_filter? h hf)]
  termination_by (sizeEntry e, 2)
  decreasing_by
    have := Entry.size_le_of_filter? ‹e.filter? = some _›
    simp only [Prod.lex_def]; omega

end
end Filter

namespace Scoped

/-! ### Joins -/

mutual

theorem addJoins_outline : (f : Scoped) → (base : String) → (joins : List Sql.Join) →
    f.outline.addJoins base joins = f.addJoins base joins
  | .node _ ands ors fields, base, joins => by
    rw [outline, addJoins, addJoins, addAllJoins_outline ands, addAllJoins_outline ors,
      addFieldJoins_outline fields]

theorem addAllJoins_outline : (fs : List Scoped) → (base : String) → (joins : List Sql.Join) →
    addAllJoins base joins (outlineAll fs) = addAllJoins base joins fs
  | [], _, _ => rfl
  | f :: rest, base, joins => by
    rw [outlineAll, addAllJoins, addAllJoins, addJoins_outline f, addAllJoins_outline rest]

theorem addFieldJoins_outline : (fields : List (String × ScopedEntry)) → (base : String) →
    (joins : List Sql.Join) →
    addFieldJoins base joins (outlineFields fields) = addFieldJoins base joins fields
  | [], _, _ => rfl
  | (name, e) :: rest, base, joins => by
    rw [outlineFields, addFieldJoins, addFieldJoins, addEntryJoins_outline e,
      addFieldJoins_outline rest]

theorem addEntryJoins_outline : (e : ScopedEntry) → (base : String) → (joins : List Sql.Join) →
    addEntryJoins base joins (outlineEntry e) = addEntryJoins base joins e
  | .column _, _, _ | .notRelation, _, _ | .unknownTarget _, _, _ | .noFilter _ _, _, _ => rfl
  | .related relation target filter, base, joins => by
    rw [outlineEntry, addEntryJoins, addEntryJoins, addJoins_outline filter]

end

/-- Filters with one outline have the same joins. -/
theorem joins_eq_of_outline {f g : Scoped} (h : f.outline = g.outline) (aliasName : String) :
    f.joins aliasName = g.joins aliasName := by
  rw [joins, joins, ← addJoins_outline f, h, addJoins_outline g]

/-! ### Sites -/

mutual

theorem sites_outline : (f : Scoped) → (aliasName : String) →
    f.outline.sites aliasName = (f.sites aliasName).map Site.outline
  | .node entity ands ors fields, aliasName => by
    rw [outline, sites, sites, sitesAll_outline ands, sitesAll_outline ors,
      sitesFields_outline fields, List.map_append, List.map_append]

theorem sitesAll_outline : (fs : List Scoped) → (aliasName : String) →
    sitesAll aliasName (outlineAll fs) = (sitesAll aliasName fs).map Site.outline
  | [], _ => rfl
  | f :: rest, aliasName => by
    rw [outlineAll, sitesAll, sitesAll, sites_outline f, sitesAll_outline rest, List.map_append]

theorem sitesFields_outline : (fields : List (String × ScopedEntry)) → (aliasName : String) →
    (entity : Entity) →
    sitesFields aliasName entity (outlineFields fields)
      = (sitesFields aliasName entity fields).map Site.outline
  | [], _, _ => rfl
  | (name, e) :: rest, aliasName, entity => by
    rw [outlineFields, sitesFields, sitesFields, sitesEntry_outline e, sitesFields_outline rest,
      List.map_append]

theorem sitesEntry_outline : (e : ScopedEntry) → (aliasName : String) → (entity : Entity) →
    (name : String) →
    sitesEntry aliasName entity name (outlineEntry e)
      = (sitesEntry aliasName entity name e).map Site.outline
  | .column operators, aliasName, entity, name => by
    rw [outlineEntry, sitesEntry, sitesEntry, Filter.Value.outlineMembers, List.map_map,
      List.map_map]
    rfl
  | .notRelation, _, _, _ | .unknownTarget _, _, _, _ | .noFilter _ _, _, _, _ => rfl
  | .related relation _ filter, _, _, _ => by
    rw [outlineEntry, sitesEntry, sitesEntry, sites_outline filter]

end

/-! ### Trees -/

section
variable {τ : Type} {leaf : Site → Except QueryError τ}

/-- Two sites have the same leaf, if they have leaves. -/
def SameLeaf (leaf : Site → Except QueryError τ) (p : Site × Site) : Prop :=
  ∀ x y, leaf p.1 = .ok x → leaf p.2 = .ok y → x = y

/-- Lists with one image have one length. -/
theorem length_eq_of_map {α β : Type} {h : α → β} {l l' : List α} (heq : l.map h = l'.map h) :
    l.length = l'.length := by
  simpa using congrArg List.length heq

theorem forall_zip_append {α : Type} {P : α × α → Prop} {k k' l l' : List α}
    (hlength : k.length = k'.length) :
    (∀ p ∈ (k ++ l).zip (k' ++ l'), P p) ↔ (∀ p ∈ k.zip k', P p) ∧ ∀ p ∈ l.zip l', P p := by
  simp only [List.zip_append hlength, List.mem_append, or_imp, forall_and]

theorem leaves_eq_leaves {entity : Entity} {aliasName name : String} :
    (operators operators' : List (String × Filter.Value)) → {ts us : List (Sql.Tree τ)} →
    Filter.Value.outlineMembers operators = Filter.Value.outlineMembers operators' →
    (∀ p ∈ (sitesEntry aliasName entity name (.column operators)).zip
      (sitesEntry aliasName entity name (.column operators')), SameLeaf leaf p) →
    leaves leaf entity aliasName name operators = .ok ts →
    leaves leaf entity aliasName name operators' = .ok us → ts = us
  | [], [], _, _, _, _, ht, hu => by cases ht; cases hu; rfl
  | [], _ :: _, _, _, ho, _, _, _ | _ :: _, [], _, _, ho, _, _, _ => by
    simp [Filter.Value.outlineMembers] at ho
  | o :: rest, o' :: rest', _, _, ho, hs, ht, hu => by
    simp only [leaves, bind_eq_ok, pure_eq_ok] at ht hu
    obtain ⟨x, hx, ts, hts, rfl⟩ := ht
    obtain ⟨y, hy, us, hus, rfl⟩ := hu
    simp only [Filter.Value.outlineMembers, List.map_cons, List.cons.injEq] at ho
    simp only [sitesEntry, List.map_cons, List.zip_cons_cons, List.forall_mem_cons] at hs
    rw [hs.1 x y hx hy, leaves_eq_leaves rest rest' ho.2 hs.2 hts hus]

mutual

/-- Filters with one outline whose operators have the same leaves have the same tree. -/
theorem tree_eq_tree : (f g : Scoped) → {aliasName : String} → {t u : Option (Sql.Tree τ)} →
    f.outline = g.outline →
    (∀ p ∈ (f.sites aliasName).zip (g.sites aliasName), SameLeaf leaf p) →
    f.tree leaf aliasName = .ok t → g.tree leaf aliasName = .ok u → t = u
  | .node entity ands ors fields, .node entity' ands' ors' fields', aliasName, _, _, ho, hs, ht,
    hu => by
    simp only [outline, node.injEq] at ho
    obtain ⟨rfl, hands, hors, hfields⟩ := ho
    have hlength : (sitesAll aliasName ands).length = (sitesAll aliasName ands').length :=
      length_eq_of_map (by rw [← sitesAll_outline, hands, sitesAll_outline])
    have hlength' : (sitesAll aliasName ors).length = (sitesAll aliasName ors').length :=
      length_eq_of_map (by rw [← sitesAll_outline, hors, sitesAll_outline])
    -- corresponding parts have equally many sites, so that the pairs fall apart with the parts
    rw [sites, sites, forall_zip_append (by simp only [List.length_append, hlength, hlength']),
      forall_zip_append hlength] at hs
    simp only [tree, bind_eq_ok, pure_eq_ok] at ht hu
    obtain ⟨as, has, os, hos, fs, hfs, rfl⟩ := ht
    obtain ⟨as', has', os', hos', fs', hfs', rfl⟩ := hu
    rw [trees_eq_trees ands ands' hands hs.1.1 has has',
      trees_eq_trees ors ors' hors hs.1.2 hos hos',
      fieldTrees_eq_fieldTrees fields fields' hfields hs.2 hfs hfs']

theorem trees_eq_trees : (fs gs : List Scoped) → {aliasName : String} →
    {ts us : List (Option (Sql.Tree τ))} → outlineAll fs = outlineAll gs →
    (∀ p ∈ (sitesAll aliasName fs).zip (sitesAll aliasName gs), SameLeaf leaf p) →
    trees leaf aliasName fs = .ok ts → trees leaf aliasName gs = .ok us → ts = us
  | [], [], _, _, _, _, _, ht, hu => by cases ht; cases hu; rfl
  | [], _ :: _, _, _, _, ho, _, _, _ | _ :: _, [], _, _, _, ho, _, _, _ => by
    simp [outlineAll] at ho
  | f :: rest, g :: rest', aliasName, _, _, ho, hs, ht, hu => by
    simp only [outlineAll, List.cons.injEq] at ho
    rw [sitesAll, sitesAll, forall_zip_append
      (length_eq_of_map (by rw [← sites_outline, ho.1, sites_outline]))] at hs
    simp only [trees, bind_eq_ok, pure_eq_ok] at ht hu
    obtain ⟨t, ht, ts, hts, rfl⟩ := ht
    obtain ⟨u, hu, us, hus, rfl⟩ := hu
    rw [tree_eq_tree f g ho.1 hs.1 ht hu, trees_eq_trees rest rest' ho.2 hs.2 hts hus]

theorem fieldTrees_eq_fieldTrees : (fields fields' : List (String × ScopedEntry)) →
    {aliasName : String} → {entity : Entity} → {ts us : List (Option (Sql.Tree τ))} →
    outlineFields fields = outlineFields fields' →
    (∀ p ∈ (sitesFields aliasName entity fields).zip (sitesFields aliasName entity fields'),
      SameLeaf leaf p) →
    fieldTrees leaf aliasName entity fields = .ok ts →
    fieldTrees leaf aliasName entity fields' = .ok us → ts = us
  | [], [], _, _, _, _, _, _, ht, hu => by cases ht; cases hu; rfl
  | [], _ :: _, _, _, _, _, ho, _, _, _ | _ :: _, [], _, _, _, _, ho, _, _, _ => by
    simp [outlineFields] at ho
  | (name, e) :: rest, (name', e') :: rest', aliasName, entity, _, _, ho, hs, ht, hu => by
    simp only [outlineFields, List.cons.injEq, Prod.mk.injEq] at ho
    obtain ⟨⟨rfl, he⟩, hrest⟩ := ho
    rw [sitesFields, sitesFields, forall_zip_append
      (length_eq_of_map (by rw [← sitesEntry_outline, he, sitesEntry_outline]))] at hs
    simp only [fieldTrees, bind_eq_ok, pure_eq_ok] at ht hu
    obtain ⟨t, ht, ts, hts, rfl⟩ := ht
    obtain ⟨u, hu, us, hus, rfl⟩ := hu
    rw [entryTree_eq_entryTree e e' he hs.1 ht hu,
      fieldTrees_eq_fieldTrees rest rest' hrest hs.2 hts hus]

theorem entryTree_eq_entryTree : (e e' : ScopedEntry) → {aliasName : String} →
    {entity : Entity} → {name : String} → {t u : Option (Sql.Tree τ)} →
    outlineEntry e = outlineEntry e' →
    (∀ p ∈ (sitesEntry aliasName entity name e).zip (sitesEntry aliasName entity name e'),
      SameLeaf leaf p) →
    entryTree leaf aliasName entity name e = .ok t →
    entryTree leaf aliasName entity name e' = .ok u → t = u
  | .column operators, e', _, _, _, _, _, ho, hs, ht, hu => by
    cases e' <;> simp only [outlineEntry, reduceCtorEq, ScopedEntry.column.injEq] at ho
    simp only [entryTree, bind_eq_ok, pure_eq_ok] at ht hu
    obtain ⟨ts, hts, rfl⟩ := ht
    obtain ⟨us, hus, rfl⟩ := hu
    rw [leaves_eq_leaves operators _ ho hs hts hus]
  | .notRelation, _, _, _, _, _, _, _, _, ht, _ | .unknownTarget _, _, _, _, _, _, _, _, _, ht, _
  | .noFilter _ _, _, _, _, _, _, _, _, _, ht, _ => by simp [entryTree] at ht
  | .related relation _ f, e', _, _, _, _, _, ho, hs, ht, hu => by
    cases e' <;> simp only [outlineEntry, reduceCtorEq, ScopedEntry.related.injEq] at ho
    obtain ⟨rfl, -, ho⟩ := ho
    simp only [entryTree, bind_eq_ok, pure_eq_ok] at ht hu
    obtain ⟨t, ht, rfl⟩ := ht
    obtain ⟨u, hu, rfl⟩ := hu
    rw [tree_eq_tree f _ ho hs ht hu]

end
end

end Scoped
end RowQuery
