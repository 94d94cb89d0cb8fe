import RowQuery.Proofs.Filter.Faults
/-!
Relations lead to entities of the catalog.

The entities of a catalog are checked once, when it is made. A filter then moves from entity to
entity as deep as it is nested, on relations that may lead in circles, and it never meets one that
leads nowhere.
-/

namespace RowQuery

/-- A filter on an entity names a relation of an entity: in an entry of its own, in a filter of its
groups, or in the filter under one of its relations. -/
inductive Filter.Reaches (c : Catalog) : Entity → Filter → Entity → Relation → Prop
  | own {e : Entity} {f : Filter} {name : String} {entry : Entry} {r : Relation} :
    (name, entry) ∈ f.fields → e.relation? name = some r → Reaches c e f e r
  | group {e owner : Entity} {f g : Filter} {r : Relation} :
    g ∈ f.ands ++ f.ors → Reaches c e g owner r → Reaches c e f owner r
  | nested {e target owner : Entity} {f g : Filter} {name : String} {entry : Entry}
    {hop r : Relation} :
    (name, entry) ∈ f.fields → e.relation? name = some hop → c.find? hop.target = some target →
      entry.filter? = some g → Reaches c target g owner r → Reaches c e f owner r

namespace Scoped

open Scope (scopeAll_eq_map)

/-! ### Routes to what a filter reaches -/

section
variable {c : Catalog} {e : Entity} {f g : Filter} {name : String} {entry : Entry} {route : Route}

theorem mem_routesAll {s : Scoped} {ss : List Scoped} (hs : s ∈ ss) (hroute : route ∈ s.routes) :
    route ∈ routesAll ss := by
  induction ss with
  | nil => cases hs
  | cons first rest ih =>
    rw [routesAll, List.mem_append]
    rcases List.mem_cons.1 hs with rfl | hs
    · exact .inl hroute
    · exact .inr (ih hs)

theorem mem_routes_of_group (hg : g ∈ f.ands ++ f.ors) (hroute : route ∈ (g.scope c e).routes) :
    route ∈ (f.scope c e).routes := by
  obtain ⟨ands, ors, fields⟩ := f
  rw [Filter.scope, routes, scopeAll_eq_map, scopeAll_eq_map]
  refine List.mem_append_left _ (List.mem_append.2 ?_)
  rcases List.mem_append.1 hg with hg | hg
  · exact .inl (mem_routesAll (List.mem_map_of_mem hg) hroute)
  · exact .inr (mem_routesAll (List.mem_map_of_mem hg) hroute)

theorem mem_routes_of_field (hentry : (name, entry) ∈ f.fields)
    (hroute : route ∈ routesEntry (Filter.scopeEntry c e name entry)) :
    route ∈ (f.scope c e).routes := by
  obtain ⟨ands, ors, fields⟩ := f
  rw [Filter.scope, routes]
  refine List.mem_append_right _ ?_
  change (name, entry) ∈ fields at hentry
  induction fields with
  | nil => cases hentry
  | cons first rest ih =>
    rw [Filter.scopeFields, routesFields, List.mem_append]
    rcases List.mem_cons.1 hentry with rfl | hentry
    · exact .inl hroute
    · exact .inr (ih hentry)

variable {r : Relation} {target : Entity}

/-- An entry under a relation that finds its target begins a route, whatever the entry says. -/
theorem mem_routesEntry_own (hr : e.relation? name = some r)
    (htarget : c.find? r.target = some target) :
    ⟨[], ⟨r, target⟩⟩ ∈ routesEntry (Filter.scopeEntry c e name entry) := by
  simp only [Filter.scopeEntry.eq_def, hr, htarget]
  split <;> exact List.mem_cons_self ..

theorem mem_routesEntry_nested (hr : e.relation? name = some r)
    (htarget : c.find? r.target = some target) (hg : entry.filter? = some g)
    (hroute : route ∈ (g.scope c target).routes) :
    route.after ⟨r, target⟩ ∈ routesEntry (Filter.scopeEntry c e name entry) := by
  simp only [Filter.scopeEntry.eq_def, hr, htarget]
  split
  · next hnone => simp [hg] at hnone
  · next hsome =>
    obtain rfl := Option.some.inj (hg.symm.trans hsome)
    exact List.mem_cons_of_mem _ (List.mem_map_of_mem hroute)

end

/-- In a closed catalog every relation that a filter reaches has its target there, and a route that
ends in it. -/
theorem exists_route_of_reaches {c : Catalog} (hc : c.Closed) {e owner : Entity} {f : Filter}
    {r : Relation} (h : f.Reaches c e owner r) (he : e ∈ c.entities) :
    ∃ target, c.find? r.target = some target ∧
      ∃ route ∈ (f.scope c e).routes, route.last = ⟨r, target⟩ := by
  induction h with
  | own hentry hr =>
    obtain ⟨target, htarget⟩ := hc.exists_target he hr
    exact ⟨target, htarget, _, mem_routes_of_field hentry (mem_routesEntry_own hr htarget), rfl⟩
  | group hg _ ih =>
    obtain ⟨target, htarget, route, hroute, hlast⟩ := ih he
    exact ⟨target, htarget, route, mem_routes_of_group hg hroute, hlast⟩
  | nested hentry hhop hnext hg _ ih =>
    -- what the hop leads to is an entity of the catalog again, so the induction goes on there
    obtain ⟨target, htarget, route, hroute, hlast⟩ := ih (Catalog.mem_of_find? hnext).1
    exact ⟨target, htarget, _,
      mem_routes_of_field hentry (mem_routesEntry_nested hhop hnext hg hroute), hlast⟩

/-- The alias of every route is that of a join. -/
theorem aliasName_mem_joins {f : Scoped} {route : Route} (hroute : route ∈ f.routes)
    (base : String) : route.aliasName ∈ (f.joins base).map Sql.Join.aliasName := by
  obtain ⟨first, -, halias, hjoin⟩ := exists_joinUnder f base hroute
  rw [← halias] at hjoin ⊢
  exact List.mem_map.2 ⟨first.join base, (mem_joins_iff f base).2 hjoin, Route.aliasName_join⟩

end Scoped

namespace Catalog

/-- A list of entities makes a catalog just when it is valid. A filter on an entity of a catalog
then never meets a name without an entity, neither where its condition is made nor where it is
judged on a row, and each relation that it reaches is joined to its target. -/
theorem accepted_resolves_filters (entities : List Entity) :
    ((∃ c, ofEntities entities = .ok c) ↔ IsValid entities) ∧
    ∀ c, ofEntities entities = .ok c → ∀ e ∈ entities, ∀ (registry : Registry) (f : Filter),
      (∀ base name, (f.scope c e).condition registry base ≠ .error (.unknownEntity name)) ∧
      (∀ row name, (f.scope c e).holds registry row ≠ .error (.unknownEntity name)) ∧
      ∀ owner r, f.Reaches c e owner r →
        ∃ target ∈ entities, target.name = r.target ∧ c.find? r.target = some target ∧
          ∃ route ∈ (f.scope c e).routes, route.last = ⟨r, target⟩ ∧
            ∀ base, r.joinAlias ∈ ((f.scope c e).joins base).map Sql.Join.aliasName := by
  refine ⟨⟨?_, fun h => ⟨_, ofEntities_eq_ok_iff.2 ⟨h, rfl⟩⟩⟩, ?_⟩
  · rintro ⟨c, hc⟩
    exact (ofEntities_eq_ok_iff.1 hc).1
  intro c hc e he registry f
  obtain ⟨hvalid, rfl⟩ := ofEntities_eq_ok_iff.1 hc
  have hclosed : Closed ⟨entities⟩ := hvalid.targets
  have hresolved := Scoped.resolved_scope ⟨entities⟩ e f
  refine ⟨fun base => ?_, fun row => ?_, fun owner r hr => ?_⟩
  · exact (Scoped.faults_tree hclosed (Scoped.faults_test registry) _ he hresolved
      base).ne_unknownEntity
  · exact (Scoped.faults_holds hclosed _ he hresolved row).ne_unknownEntity
  · obtain ⟨target, htarget, route, hroute, hlast⟩ :=
      Scoped.exists_route_of_reaches hclosed hr he
    obtain ⟨hmem, hname⟩ := mem_of_find? htarget
    refine ⟨target, hmem, hname, htarget, route, hroute, hlast, fun base => ?_⟩
    have halias : route.aliasName = r.joinAlias := by rw [Scoped.Route.aliasName, hlast]
    exact halias ▸ Scoped.aliasName_mem_joins hroute base

/-- Nodes whose parents are nodes again, and a filter on the parent of the parent. -/
theorem accepted_resolves_filters_parents :
    let parent : Relation := ⟨"parent", "node", none, .left, "parent_id", "id"⟩
    let node : Entity := ⟨"node", "nodes", none, ["id"], [⟨"id", .integer⟩], [parent]⟩
    let f := Filter.onRelation "parent" (.anyOf [.onRelation "parent" (.onField "id" .gt (.int 1))])
    let s := f.scope ⟨[node]⟩ node
    ofEntities [node] = .ok ⟨[node]⟩ ∧ node ∈ [node] ∧ f.Reaches ⟨[node]⟩ node node parent ∧
      (∀ name, s.condition .empty "node" ≠ .error (.unknownEntity name)) ∧
      (∀ row name, s.holds .empty row ≠ .error (.unknownEntity name)) ∧
      (∃ route ∈ s.routes, route.last = ⟨parent, node⟩) ∧
      "parent" ∈ (s.joins "node").map Sql.Join.aliasName := by
  intro parent node f s
  have hc : ofEntities [node] = .ok ⟨[node]⟩ := by rfl
  have he : node ∈ [node] := List.mem_singleton_self _
  have hreaches : f.Reaches ⟨[node]⟩ node node parent :=
    .nested (List.mem_singleton_self _) rfl rfl rfl
      (.group (List.mem_singleton_self _) (.own (List.mem_singleton_self _) rfl))
  obtain ⟨hcondition, hholds, hreached⟩ := (accepted_resolves_filters [node]).2 _ hc _ he .empty f
  obtain ⟨target, htarget, -, -, route, hroute, hlast, hjoin⟩ := hreached node parent hreaches
  obtain rfl := List.mem_singleton.1 htarget
  exact ⟨hc, he, hreaches, hcondition "node", hholds, ⟨route, hroute, hlast⟩, hjoin "node"⟩

end Catalog
end RowQuery
