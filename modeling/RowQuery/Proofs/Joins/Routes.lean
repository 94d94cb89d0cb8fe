import Mathlib.Data.List.Nodup
import RowQuery.Proofs.Filter.Agreement
import RowQuery.Scoped.Joins
/-!
The joins of a filter and the relations that it follows.

A filter reaches related rows by routes: a relation of its own entity, then a relation of that one's
target, and so on. Every route needs a join of its own. Joins are told apart by their aliases alone,
though, so among the routes that end in one alias only the first one gets its join, and the
conditions at the end of the others read the table of the first.
-/

namespace RowQuery.Scoped

/-- A relation that is followed to its target. -/
structure Hop where
  relation : Relation
  target : Entity

/-- Relations that are followed one after another: those on the way and the last. -/
structure Route where
  before : List Hop
  last : Hop

namespace Route

/-- The alias under which the rows after some hops are known. -/
def aliasAfter (base : String) : List Hop → String
  | [] => base
  | h :: rest => aliasAfter h.relation.joinAlias rest

/-- The alias under which the rows at the end of the route are known. -/
def aliasName (r : Route) : String := r.last.relation.joinAlias

/-- The join of the route: it leads from the rows before the last relation to its target. -/
def join (base : String) (r : Route) : Sql.Join :=
  joinOf (aliasAfter base r.before) r.last.relation r.last.target

/-- Each of some hops is a relation of the entity where it starts, the first one of `entity`. -/
def Follows (catalog : Catalog) (entity : Entity) : List Hop → Prop
  | [] => True
  | h :: rest =>
    entity.relation? h.relation.name = some h.relation ∧
      catalog.find? h.relation.target = some h.target ∧ Follows catalog h.target rest

/-- The route with one more hop in front. -/
def after (h : Hop) (r : Route) : Route := ⟨h :: r.before, r.last⟩

variable {base : String} {r : Route} {h : Hop}

@[simp] theorem aliasName_join : (r.join base).aliasName = r.aliasName := rfl

@[simp] theorem aliasName_after : (r.after h).aliasName = r.aliasName := rfl

@[simp] theorem last_after : (r.after h).last = r.last := rfl

@[simp] theorem join_after : (r.after h).join base = r.join h.relation.joinAlias := rfl

end Route

mutual

/-- The routes of a filter, in the order in which its joins are made. -/
def routes : Scoped → List Route
  | .node _ ands ors fields => routesAll ands ++ routesAll ors ++ routesFields fields

/-- `routes` of every filter. -/
def routesAll : List Scoped → List Route
  | [] => []
  | f :: rest => routes f ++ routesAll rest

/-- The routes of entries. -/
def routesFields : List (String × ScopedEntry) → List Route
  | [] => []
  | (_, e) :: rest => routesEntry e ++ routesFields rest

/-- The routes of an entry: its relation, and those of the filter on the related rows. -/
def routesEntry : ScopedEntry → List Route
  | .column _ | .notRelation | .unknownTarget _ => []
  | .noFilter relation target => [⟨[], ⟨relation, target⟩⟩]
  | .related relation target filter =>
    ⟨[], ⟨relation, target⟩⟩ :: (routes filter).map (Route.after ⟨relation, target⟩)

end

/-! ### Names that are resolved -/

mutual

/-- The filter is resolved on an entity of a catalog: every name in it is looked up where it
stands. -/
def Resolved (catalog : Catalog) (entity : Entity) : Scoped → Prop
  | .node e ands ors fields =>
    e = entity ∧ ResolvedAll catalog entity ands ∧ ResolvedAll catalog entity ors ∧
      ResolvedFields catalog entity fields

/-- `Resolved` for every filter. -/
def ResolvedAll (catalog : Catalog) (entity : Entity) : List Scoped → Prop
  | [] => True
  | f :: rest => Resolved catalog entity f ∧ ResolvedAll catalog entity rest

/-- `Resolved` for entries. -/
def ResolvedFields (catalog : Catalog) (entity : Entity) : List (String × ScopedEntry) → Prop
  | [] => True
  | (name, e) :: rest => ResolvedEntry catalog entity name e ∧ ResolvedFields catalog entity rest

/-- `Resolved` for an entry under a name. -/
def ResolvedEntry (catalog : Catalog) (entity : Entity) (name : String) : ScopedEntry → Prop
  | .column _ | .notRelation => entity.relation? name = none
  | .unknownTarget relation =>
    entity.relation? name = some relation ∧ catalog.find? relation.target = none
  | .noFilter relation target =>
    entity.relation? name = some relation ∧ catalog.find? relation.target = some target
  | .related relation target filter =>
    entity.relation? name = some relation ∧ catalog.find? relation.target = some target ∧
      Resolved catalog target filter

end

mutual

/-- Resolving the names of a filter resolves them. -/
theorem resolved_scope (catalog : Catalog) (entity : Entity) : (f : Filter) →
    (f.scope catalog entity).Resolved catalog entity
  | .node ands ors fields => by
    rw [Filter.scope]
    exact ⟨rfl, resolvedAll_scopeAll catalog entity ands, resolvedAll_scopeAll catalog entity ors,
      resolvedFields_scopeFields catalog entity fields⟩
  termination_by f => (f.size, 1)
  decreasing_by all_goals (simp only [Filter.size, Prod.lex_def]; omega)

theorem resolvedAll_scopeAll (catalog : Catalog) (entity : Entity) : (fs : List Filter) →
    ResolvedAll catalog entity (Filter.scopeAll catalog entity fs)
  | [] => by rw [Filter.scopeAll]; trivial
  | f :: rest => by
    rw [Filter.scopeAll]
    exact ⟨resolved_scope catalog entity f, resolvedAll_scopeAll catalog entity rest⟩
  termination_by fs => (Filter.sizeGroup fs, fs.length + 2)
  decreasing_by
    all_goals
      (simp only [Filter.sizeGroup, Prod.lex_def, List.length_cons]
       have := Filter.size_pos f
       omega)

theorem resolvedFields_scopeFields (catalog : Catalog) (entity : Entity) :
    (fields : List (String × Entry)) →
    ResolvedFields catalog entity (Filter.scopeFields catalog entity fields)
  | [] => by rw [Filter.scopeFields]; trivial
  | (name, e) :: rest => by
    rw [Filter.scopeFields]
    exact ⟨resolvedEntry_scopeEntry catalog entity name e,
      resolvedFields_scopeFields catalog entity rest⟩
  termination_by fields => (Filter.sizeFields fields, fields.length + 3)
  decreasing_by
    all_goals (simp only [Filter.sizeFields, Prod.lex_def, List.length_cons]; omega)

theorem resolvedEntry_scopeEntry (catalog : Catalog) (entity : Entity) (name : String)
    (e : Entry) :
    ResolvedEntry catalog entity name (Filter.scopeEntry catalog entity name e) := by
  rw [Filter.scopeEntry.eq_def]
  cases hrelation : entity.relation? name with
  | none => cases e <;> exact hrelation
  | some relation =>
    simp only
    cases htarget : catalog.find? relation.target with
    | none => exact ⟨hrelation, htarget⟩
    | some target =>
      simp only
      split
      · exact ⟨hrelation, htarget⟩
      · rename_i f hfilter
        exact ⟨hrelation, htarget, resolved_scope catalog target f⟩
  termination_by (Filter.sizeEntry e, 2)
  decreasing_by
    have := Entry.size_le_of_filter? ‹e.filter? = some _›
    simp only [Prod.lex_def]; omega

end

/-! ### Joins of routes -/

/-- Looking up the key of an item finds an item with that key. -/
theorem exists_find?_eq_some {α : Type} (key : α → String) {l : List α} {x : α} (hx : x ∈ l) :
    ∃ y ∈ l, key y = key x ∧ l.find? (key · == key x) = some y := by
  have hsome : (l.find? (key · == key x)).isSome := by
    rw [List.find?_isSome]
    exact ⟨x, hx, beq_self_eq_true _⟩
  obtain ⟨y, hy⟩ := Option.isSome_iff_exists.1 hsome
  exact ⟨y, List.mem_of_find?_eq_some hy, by simpa using List.find?_some hy, hy⟩

theorem addJoin_eq_of_any {joins : List Sql.Join} {j : Sql.Join}
    (h : j.aliasName ∈ joins.map Sql.Join.aliasName) : addJoin joins j = joins := by
  obtain ⟨k, hk, hkj⟩ := List.mem_map.1 h
  rw [addJoin, if_pos (List.any_eq_true.2 ⟨k, hk, by simp [hkj]⟩)]

theorem addJoin_eq_append {joins : List Sql.Join} {j : Sql.Join}
    (h : j.aliasName ∉ joins.map Sql.Join.aliasName) : addJoin joins j = joins ++ [j] := by
  rw [addJoin, if_neg]
  simpa using h

mutual

/-- The joins of a filter are those of its routes, added one after another. -/
theorem addJoins_eq_foldl : (f : Scoped) → (base : String) → (joins : List Sql.Join) →
    f.addJoins base joins = (f.routes.map (Route.join base)).foldl addJoin joins
  | .node _ ands ors fields, base, joins => by
    rw [addJoins, routes, addAllJoins_eq_foldl, addAllJoins_eq_foldl, addFieldJoins_eq_foldl,
      List.map_append, List.map_append, List.foldl_append, List.foldl_append]

theorem addAllJoins_eq_foldl : (fs : List Scoped) → (base : String) → (joins : List Sql.Join) →
    addAllJoins base joins fs = ((routesAll fs).map (Route.join base)).foldl addJoin joins
  | [], _, _ => rfl
  | f :: rest, base, joins => by
    rw [addAllJoins, routesAll, addJoins_eq_foldl f, addAllJoins_eq_foldl rest, List.map_append,
      List.foldl_append]

theorem addFieldJoins_eq_foldl : (fields : List (String × ScopedEntry)) → (base : String) →
    (joins : List Sql.Join) →
    addFieldJoins base joins fields
      = ((routesFields fields).map (Route.join base)).foldl addJoin joins
  | [], _, _ => rfl
  | (_, e) :: rest, base, joins => by
    rw [addFieldJoins, routesFields, addEntryJoins_eq_foldl e, addFieldJoins_eq_foldl rest,
      List.map_append, List.foldl_append]

theorem addEntryJoins_eq_foldl : (e : ScopedEntry) → (base : String) →
    (joins : List Sql.Join) →
    addEntryJoins base joins e = ((routesEntry e).map (Route.join base)).foldl addJoin joins
  | .column _, _, _ | .notRelation, _, _ | .unknownTarget _, _, _ | .noFilter _ _, _, _ => rfl
  | .related relation target filter, base, joins => by
    rw [addEntryJoins, addJoins_eq_foldl filter, routesEntry, List.map_cons, List.foldl_cons,
      List.map_map]
    rfl

end

theorem joins_eq_foldl (f : Scoped) (base : String) :
    f.joins base = (f.routes.map (Route.join base)).foldl addJoin [] :=
  addJoins_eq_foldl f base []

/-- Looking up an alias finds the first join that was given for it, taken or not. -/
theorem find?_foldl_addJoin (a : String) : ∀ (more joins : List Sql.Join),
    (more.foldl addJoin joins).find? (·.aliasName == a)
      = (joins ++ more).find? (·.aliasName == a)
  | [], joins => by rw [List.foldl_nil, List.append_nil]
  | j :: more, joins => by
    rw [List.foldl_cons, find?_foldl_addJoin a more]
    by_cases hj : j.aliasName ∈ joins.map Sql.Join.aliasName
    · rw [addJoin_eq_of_any hj, List.find?_append, List.find?_append, List.find?_cons]
      cases ha : j.aliasName == a with
      | false => rfl
      | true =>
        obtain ⟨k, hk, hkj⟩ := List.mem_map.1 hj
        obtain ⟨found, -, -, hfound⟩ := exists_find?_eq_some Sql.Join.aliasName hk
        rw [hkj, beq_iff_eq.1 ha] at hfound
        rw [hfound]
        rfl
    · rw [addJoin_eq_append hj, List.append_assoc, List.singleton_append]

theorem nodup_foldl_addJoin : ∀ (more : List Sql.Join) {joins : List Sql.Join},
    (joins.map Sql.Join.aliasName).Nodup →
    ((more.foldl addJoin joins).map Sql.Join.aliasName).Nodup
  | [], _, h => h
  | j :: more, joins, h => by
    rw [List.foldl_cons]
    refine nodup_foldl_addJoin more ?_
    by_cases hj : j.aliasName ∈ joins.map Sql.Join.aliasName
    · rwa [addJoin_eq_of_any hj]
    · rw [addJoin_eq_append hj, List.map_append, List.map_singleton]
      exact List.nodup_append.2 ⟨h, List.nodup_singleton _, by
        rintro a ha b hb rfl
        exact hj (List.mem_singleton.1 hb ▸ ha)⟩

section
variable (f : Scoped) (base : String)

/-- The join that is known by an alias. -/
def joinUnder (a : String) : Option Sql.Join := (f.joins base).find? (·.aliasName == a)

theorem joinUnder_eq (a : String) :
    f.joinUnder base a = (f.routes.map (Route.join base)).find? (·.aliasName == a) := by
  rw [joinUnder, joins_eq_foldl, find?_foldl_addJoin, List.nil_append]

theorem nodup_joins : ((f.joins base).map Sql.Join.aliasName).Nodup := by
  rw [joins_eq_foldl]
  exact nodup_foldl_addJoin _ List.nodup_nil

/-- No alias is that of two joins, so a join is found by its alias. -/
theorem mem_joins_iff {j : Sql.Join} :
    j ∈ f.joins base ↔ f.joinUnder base j.aliasName = some j := by
  constructor
  · intro hj
    obtain ⟨k, hk, hkj, hfound⟩ := exists_find?_eq_some Sql.Join.aliasName hj
    rw [joinUnder, hfound, List.inj_on_of_nodup_map (nodup_joins f base) hk hj hkj]
  · exact List.mem_of_find?_eq_some

/-- What is joined under the alias of a route is the join of a route, the first one that ends in
that alias. -/
theorem exists_joinUnder {r : Route} (hr : r ∈ f.routes) :
    ∃ first ∈ f.routes, first.aliasName = r.aliasName ∧
      f.joinUnder base r.aliasName = some (first.join base) := by
  obtain ⟨j, hj, halias, hfound⟩ :=
    exists_find?_eq_some Sql.Join.aliasName (List.mem_map_of_mem (f := Route.join base) hr)
  obtain ⟨first, hfirst, rfl⟩ := List.mem_map.1 hj
  exact ⟨first, hfirst, halias, by rw [joinUnder_eq]; exact hfound⟩

/-- Every route finds its join just when the routes that end in one alias have one join. -/
theorem forall_join_mem_iff :
    (∀ r ∈ f.routes, r.join base ∈ f.joins base) ↔
      ∀ r ∈ f.routes, ∀ r' ∈ f.routes, r.aliasName = r'.aliasName →
        r.join base = r'.join base := by
  constructor
  · intro h r hr r' hr' halias
    exact List.inj_on_of_nodup_map (nodup_joins f base) (h r hr) (h r' hr') halias
  · intro h r hr
    obtain ⟨first, hfirst, halias, hjoin⟩ := exists_joinUnder f base hr
    rw [mem_joins_iff, Route.aliasName_join, hjoin, h first hfirst r hr halias]

end

/-! ### Where routes and conditions lead -/

section
variable {catalog : Catalog}

theorem relation?_name {entity : Entity} {name : String} {relation : Relation}
    (h : entity.relation? name = some relation) : relation.name = name := by
  simpa using List.find?_some h

mutual

/-- The routes of a filter with its names resolved are routes of the catalog. -/
theorem follows_routes : (f : Scoped) → {entity : Entity} → f.Resolved catalog entity →
    ∀ r ∈ f.routes, Route.Follows catalog entity (r.before ++ [r.last])
  | .node _ ands ors fields, entity, h, r, hr => by
    obtain ⟨-, hands, hors, hfields⟩ := h
    rw [routes, List.mem_append, List.mem_append] at hr
    rcases hr with (hr | hr) | hr
    · exact follows_routesAll ands hands r hr
    · exact follows_routesAll ors hors r hr
    · exact follows_routesFields fields hfields r hr

theorem follows_routesAll : (fs : List Scoped) → {entity : Entity} →
    ResolvedAll catalog entity fs →
    ∀ r ∈ routesAll fs, Route.Follows catalog entity (r.before ++ [r.last])
  | [], _, _, _, hr => nomatch hr
  | f :: rest, entity, h, r, hr => by
    rw [routesAll, List.mem_append] at hr
    rcases hr with hr | hr
    · exact follows_routes f h.1 r hr
    · exact follows_routesAll rest h.2 r hr

theorem follows_routesFields : (fields : List (String × ScopedEntry)) → {entity : Entity} →
    ResolvedFields catalog entity fields →
    ∀ r ∈ routesFields fields, Route.Follows catalog entity (r.before ++ [r.last])
  | [], _, _, _, hr => nomatch hr
  | (name, e) :: rest, entity, h, r, hr => by
    rw [routesFields, List.mem_append] at hr
    rcases hr with hr | hr
    · exact follows_routesEntry e h.1 r hr
    · exact follows_routesFields rest h.2 r hr

theorem follows_routesEntry : (e : ScopedEntry) → {entity : Entity} → {name : String} →
    ResolvedEntry catalog entity name e →
    ∀ r ∈ routesEntry e, Route.Follows catalog entity (r.before ++ [r.last])
  | .column _, _, _, _, _, hr | .notRelation, _, _, _, _, hr
  | .unknownTarget _, _, _, _, _, hr => nomatch hr
  | .noFilter relation target, entity, name, h, r, hr => by
    obtain rfl := List.mem_singleton.1 hr
    obtain ⟨hrelation, htarget⟩ := h
    exact ⟨relation?_name hrelation ▸ hrelation, htarget, trivial⟩
  | .related relation target filter, entity, name, h, r, hr => by
    obtain ⟨hrelation, htarget, hfilter⟩ := h
    have hfirst := relation?_name hrelation ▸ hrelation
    rcases List.mem_cons.1 hr with rfl | hr
    · exact ⟨hfirst, htarget, trivial⟩
    · obtain ⟨onward, honward, rfl⟩ := List.mem_map.1 hr
      exact ⟨hfirst, htarget, follows_routes filter hfilter onward honward⟩

end

/-- The site stands on the rows of the base table, or on those at the end of a route. -/
def Site.StandsOn (entity : Entity) (base : String) (routes : List Route) (s : Site) : Prop :=
  (s.aliasName = base ∧ s.entity = entity) ∨
    ∃ r ∈ routes, s.aliasName = r.aliasName ∧ s.entity = r.last.target

theorem Site.StandsOn.mono {entity : Entity} {base : String} {rs rs' : List Route} {s : Site}
    (h : s.StandsOn entity base rs) (hsub : rs ⊆ rs') : s.StandsOn entity base rs' :=
  h.imp_right fun ⟨r, hr, hs⟩ => ⟨r, hsub hr, hs⟩

mutual

/-- The operators of a filter stand on its own rows or at the end of its routes. -/
theorem standsOn_sites : (f : Scoped) → {entity : Entity} → {base : String} →
    f.Resolved catalog entity → ∀ s ∈ f.sites base, s.StandsOn entity base f.routes
  | .node _ ands ors fields, entity, base, h, s, hs => by
    obtain ⟨rfl, hands, hors, hfields⟩ := h
    rw [sites, List.mem_append, List.mem_append] at hs
    rw [routes]
    rcases hs with (hs | hs) | hs
    · exact (standsOn_sitesAll ands hands s hs).mono (by simp)
    · exact (standsOn_sitesAll ors hors s hs).mono (by simp)
    · exact (standsOn_sitesFields fields hfields s hs).mono (by simp)

theorem standsOn_sitesAll : (fs : List Scoped) → {entity : Entity} → {base : String} →
    ResolvedAll catalog entity fs →
    ∀ s ∈ sitesAll base fs, s.StandsOn entity base (routesAll fs)
  | [], _, _, _, _, hs => nomatch hs
  | f :: rest, entity, base, h, s, hs => by
    rw [sitesAll, List.mem_append] at hs
    rw [routesAll]
    rcases hs with hs | hs
    · exact (standsOn_sites f h.1 s hs).mono (by simp)
    · exact (standsOn_sitesAll rest h.2 s hs).mono (by simp)

theorem standsOn_sitesFields : (fields : List (String × ScopedEntry)) → {entity : Entity} →
    {base : String} → ResolvedFields catalog entity fields →
    ∀ s ∈ sitesFields base entity fields, s.StandsOn entity base (routesFields fields)
  | [], _, _, _, _, hs => nomatch hs
  | (name, e) :: rest, entity, base, h, s, hs => by
    rw [sitesFields, List.mem_append] at hs
    rw [routesFields]
    rcases hs with hs | hs
    · exact (standsOn_sitesEntry e h.1 s hs).mono (by simp)
    · exact (standsOn_sitesFields rest h.2 s hs).mono (by simp)

theorem standsOn_sitesEntry : (e : ScopedEntry) → {entity : Entity} → {base name : String} →
    ResolvedEntry catalog entity name e →
    ∀ s ∈ sitesEntry base entity name e, s.StandsOn entity base (routesEntry e)
  | .column operators, _, _, _, _, s, hs => by
    obtain ⟨o, -, rfl⟩ := List.mem_map.1 hs
    exact .inl ⟨rfl, rfl⟩
  | .notRelation, _, _, _, _, _, hs | .unknownTarget _, _, _, _, _, _, hs
  | .noFilter _ _, _, _, _, _, _, hs => nomatch hs
  | .related relation target filter, entity, base, name, h, s, hs => by
    right
    -- what stands on the rows of the nested filter stands at the end of the relation itself
    rcases standsOn_sites filter h.2.2 s hs with ⟨halias, hentity⟩ | ⟨r, hr, halias, hentity⟩
    · exact ⟨_, List.mem_cons_self .., halias, hentity⟩
    · exact ⟨_, List.mem_cons_of_mem _ (List.mem_map_of_mem hr), halias, hentity⟩

end
end

/-- The tests of a condition read the base table or the end of a route, under the alias of its
join. Of the joins, only the first one of each alias is there: every route has its join just when
routes that end in one alias have one join. -/
theorem condition_reads_routes {registry : Registry} {catalog : Catalog} {entity : Entity}
    {base : String} {f : Filter} {c : Option Sql.Condition}
    (hc : (f.scope catalog entity).condition registry base = .ok c) :
    let s := f.scope catalog entity
    (∃ t, s.tree (Leaf.ofSite registry) base = .ok t ∧ t.map (Sql.Tree.map Leaf.test) = c ∧
      ∀ u ∈ t, ∀ l ∈ u.leaves,
        l.site.test registry = .ok l.test ∧ l.site.StandsOn entity base s.routes) ∧
    (∀ r ∈ s.routes, Route.Follows catalog entity (r.before ++ [r.last])) ∧
    (∀ j, j ∈ s.joins base ↔
      (s.routes.map (Route.join base)).find? (·.aliasName == j.aliasName) = some j) ∧
    ((∀ r ∈ s.routes, r.join base ∈ s.joins base) ↔
      ∀ r ∈ s.routes, ∀ r' ∈ s.routes, r.aliasName = r'.aliasName →
        r.join base = r'.join base) := by
  intro s
  have hresolved := resolved_scope catalog entity f
  rw [condition_eq_tree, map_eq_ok] at hc
  obtain ⟨t, ht, hmap⟩ := hc
  refine ⟨⟨t, ht, hmap, ?_⟩, follows_routes s hresolved, fun j => ?_, forall_join_mem_iff s base⟩
  · rintro u rfl l hl
    obtain ⟨site, hsite, hleaf⟩ := exists_site_of_tree s ht hl
    obtain ⟨test, htest, rfl⟩ := map_eq_ok.1 hleaf
    exact ⟨htest, standsOn_sites s hresolved site hsite⟩
  · rw [mem_joins_iff, joinUnder_eq]

/-- The author of a post is a user and that of a comment a guest. Asked for both, the database joins
the users only and looks there for the author of the comment. -/
theorem condition_reads_routes_two_authors :
    let post : Entity := ⟨"post", "posts", none, ["id"], [⟨"id", .integer⟩],
      [⟨"author", "user", none, .left, "author_id", "id"⟩,
        ⟨"comments", "comment", none, .left, "id", "post_id"⟩]⟩
    let comment : Entity := ⟨"comment", "comments", none, [], [],
      [⟨"author", "guest", none, .left, "guest_id", "id"⟩]⟩
    let user : Entity := ⟨"user", "users", none, [], [], []⟩
    let guest : Entity := ⟨"guest", "guests", none, [], [], []⟩
    let f := (Filter.allOf [.onRelation "author" (.onField "name" .eq (.str "a")),
      .onRelation "comments" (.onRelation "author" (.onField "name" .eq (.str "b")))]).scope
        ⟨[post, comment, user, guest]⟩ post
    f.condition .empty "post" = .ok (some (.group (.all
        [.group (.test (.compare .eq ⟨"author", "name"⟩ ⟨.text "a", none⟩)),
          .group (.test (.compare .eq ⟨"author", "name"⟩ ⟨.text "b", none⟩))]))) ∧
      f.joins "post" = [⟨.left, "users", "author", ⟨"post", "author_id"⟩, ⟨"author", "id"⟩⟩,
        ⟨.left, "comments", "comments", ⟨"post", "id"⟩, ⟨"comments", "post_id"⟩⟩] ∧
      ¬ ∀ r ∈ f.routes, r.join "post" ∈ f.joins "post" := by
  intro post comment user guest f
  have hf : f = .node post [
      .node post [] [] [("author", .related ⟨"author", "user", none, .left, "author_id", "id"⟩ user
        (.node user [] [] [("name", .column [("eq", .str "a")])]))],
      .node post [] [] [("comments", .related ⟨"comments", "comment", none, .left, "id", "post_id"⟩
        comment (.node comment [] [] [("author", .related
          ⟨"author", "guest", none, .left, "guest_id", "id"⟩ guest
          (.node guest [] [] [("name", .column [("eq", .str "b")])]))]))]] [] [] := by
    simp only [f, Scope.scope_allOf, List.map_cons, List.map_nil]
    rw [Scope.scope_onRelation rfl rfl, Scope.scope_onRelation rfl rfl,
      Scope.scope_onRelation rfl rfl, Scope.scope_onField rfl, Scope.scope_onField rfl]
    rfl
  have hc : f.condition .empty "post" = .ok (some (.group (.all
      [.group (.test (.compare .eq ⟨"author", "name"⟩ ⟨.text "a", none⟩)),
        .group (.test (.compare .eq ⟨"author", "name"⟩ ⟨.text "b", none⟩))]))) := by
    rw [hf]
    rfl
  refine ⟨hc, by rw [hf]; rfl, ?_⟩
  obtain ⟨-, -, -, hiff⟩ := condition_reads_routes hc
  rw [hiff]
  intro h
  rw [show Filter.scope _ _ _ = _ from hf] at h
  have hsame := h ⟨[], ⟨⟨"author", "user", none, .left, "author_id", "id"⟩, user⟩⟩
    (List.mem_cons_self ..)
    ⟨[⟨⟨"comments", "comment", none, .left, "id", "post_id"⟩, comment⟩],
      ⟨⟨"author", "guest", none, .left, "guest_id", "id"⟩, guest⟩⟩
    (List.mem_cons_of_mem _ (List.mem_cons_of_mem _ (List.mem_cons_self ..))) rfl
  exact absurd (congrArg Sql.Join.table hsame) (by decide)

end RowQuery.Scoped
