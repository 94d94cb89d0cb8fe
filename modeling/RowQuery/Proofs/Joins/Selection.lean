import RowQuery.Proofs.Joins.Choice
/-!
Filters on related rows, in memory and in a statement.

Every entry of a filter finds rows of its own in memory. To be one choice of joined rows they have
to be taken together: no relation may have conditions on two sides of an AND, and each join must
give a row. Then a filter holds on the rows that its joins and its condition select, and on no
others. The main statement says so, and the last one shows what happens without these conditions.
-/

namespace RowQuery.Scoped

/-! ### Parts that read rows of their own -/

/-- No row but that of the base table is read by operators of both parts. -/
def SitesApart (base : String) (ss ss' : List Site) : Prop :=
  ∀ s ∈ ss, ∀ s' ∈ ss', s.aliasName = s'.aliasName → s.aliasName = base

mutual

/-- Of the parts of a filter that all have to hold, no two read the rows of one relation. -/
def Apart (base : String) : Scoped → Prop
  | .node entity ands ors fields =>
    ApartAll base ands ∧ ApartEach base ors ∧ ApartFields base entity fields ∧
      SitesApart base (sitesAll base ands) (sitesAll base ors) ∧
      SitesApart base (sitesAll base ands ++ sitesAll base ors) (sitesFields base entity fields)

/-- `Apart` for filters that all have to hold. -/
def ApartAll (base : String) : List Scoped → Prop
  | [] => True
  | f :: rest =>
    Apart base f ∧ SitesApart base (sites base f) (sitesAll base rest) ∧ ApartAll base rest

/-- `Apart` for filters of which one has to hold. -/
def ApartEach (base : String) : List Scoped → Prop
  | [] => True
  | f :: rest => Apart base f ∧ ApartEach base rest

/-- `Apart` for entries. -/
def ApartFields (base : String) (entity : Entity) : List (String × ScopedEntry) → Prop
  | [] => True
  | (name, e) :: rest =>
    ApartEntry e ∧
      SitesApart base (sitesEntry base entity name e) (sitesFields base entity rest) ∧
      ApartFields base entity rest

/-- `Apart` for an entry. A nested filter reads the related rows as its base. -/
def ApartEntry : ScopedEntry → Prop
  | .column _ | .notRelation | .unknownTarget _ | .noFilter _ _ => True
  | .related relation _ filter => Apart relation.joinAlias filter

end

/-- From one choice of rows to another, only rows that sites read have changed, and those into rows
that a route finds related to a base row. -/
def Moves (ss : List Site) (rs : List Route) (row : Json.Row) (rows rows' : String → Json.Row) :
    Prop :=
  ∀ a, rows' a = rows a ∨
    (∃ s ∈ ss, s.aliasName = a) ∧
      ∃ r ∈ rs, r.aliasName = a ∧ rows' a ∈ relatedRows (Dict.find? row r.last.relation.name)

namespace Moves

variable {ss ss' : List Site} {rs rs' : List Route} {row : Json.Row} {base : String}
  {rows rows' rows'' : String → Json.Row}

theorem refl : Moves ss rs row rows rows := fun _ => .inl rfl

theorem mono (h : Moves ss rs row rows rows') (hss : ss ⊆ ss') (hrs : rs ⊆ rs') :
    Moves ss' rs' row rows rows' := fun a =>
  (h a).imp_right fun ⟨⟨s, hs, hsa⟩, r, hr, hra⟩ => ⟨⟨s, hss hs, hsa⟩, r, hrs hr, hra⟩

theorem trans (h : Moves ss rs row rows rows') (h' : Moves ss rs row rows' rows'') :
    Moves ss rs row rows rows'' := fun a => by
  rcases h' a with heq | hmoved
  · rcases h a with heq' | hmoved
    · exact .inl (heq.trans heq')
    · exact .inr (heq ▸ hmoved)
  · exact .inr hmoved

/-- The base row stays, since no route ends in its alias. -/
theorem base_eq (h : Moves ss rs row rows rows') (hrs : ∀ r ∈ rs, r.aliasName ≠ base) :
    rows' base = rows base :=
  (h base).resolve_right fun ⟨_, r, hr, hra, _⟩ => hrs r hr hra

/-- Rows that another part reads stay. -/
theorem eq_of_apart (h : Moves ss rs row rows rows') (hrs : ∀ r ∈ rs, r.aliasName ≠ base)
    (hapart : SitesApart base ss' ss) {s : Site} (hs : s ∈ ss') :
    rows' s.aliasName = rows s.aliasName :=
  (h s.aliasName).resolve_right fun ⟨⟨s', hs', heq⟩, r, hr, hra, _⟩ =>
    hrs r hr (hra.trans (hapart s hs s' hs' heq.symm))

end Moves

section
variable {registry : Registry} {rows rows' : String → Json.Row}

/-- What a tree reads as depends on the rows of its sites only. -/
theorem reads_of_moved {ss : List Site} {c : Option (Sql.Tree Leaf)}
    (hleaf : ∀ t, c = some t → ∀ l ∈ t.leaves, ∃ s ∈ ss, Leaf.ofSite registry s = .ok l)
    (hrows : ∀ s ∈ ss, rows' s.aliasName = rows s.aliasName) :
    Sql.Tree.reads (Leaf.isTrueIn registry rows') c
      = Sql.Tree.reads (Leaf.isTrueIn registry rows) c := by
  refine Sql.Tree.reads_congr fun t ht l hl => ?_
  obtain ⟨s, hs, hsl⟩ := hleaf t ht l hl
  rw [Leaf.isTrueIn, Leaf.isTrueIn, Leaf.site_of_ofSite hsl, hrows s hs]

end

/-! ### Rows found by the entries, taken together -/

/-- The route leads from the base row at once, to rows under an alias of their own. -/
def Route.IsDirect (base : String) (r : Route) : Prop := r.before = [] ∧ r.aliasName ≠ base

section
variable {registry : Registry}

mutual

/-- The rows on which a filter holds are found one part after another. A part that comes later does
not move the rows of an earlier one, so its tree stays true. -/
theorem exists_reads_of_holds {catalog : Catalog} : (f : Scoped) → {entity : Entity} →
    {base : String} → {c : Option (Sql.Tree Leaf)} → f.Resolved catalog entity →
    (∀ s ∈ f.sites base, s.IsJudged registry) → (∀ r ∈ f.routes, r.IsDirect base) →
    f.Apart base → f.tree (Leaf.ofSite registry) base = .ok c → (rows : String → Json.Row) →
    f.holds registry (rows base) = .ok true →
    ∃ rows', Moves (f.sites base) f.routes (rows base) rows rows' ∧
      Sql.Tree.reads (Leaf.isTrueIn registry rows') c = true
  | .node entity ands ors fields, _, base, c, hres, hs, hr, hapart, hc, rows, hholds => by
    obtain ⟨rfl, hands, hors, hfields⟩ := hres
    obtain ⟨haands, haors, hafields, hands_ors, hgroups_fields⟩ := hapart
    simp only [sites, List.mem_append, or_imp, forall_and] at hs
    simp only [routes, List.mem_append, or_imp, forall_and] at hr
    simp only [tree, bind_eq_ok, pure_eq_ok] at hc
    obtain ⟨cands, hcands, cors, hcors, cfields, hcfields, rfl⟩ := hc
    obtain ⟨hhands, hhors, hhfields⟩ := holds_node_iff.1 hholds
    obtain ⟨rows₁, hmove₁, htands⟩ :=
      exists_reads_of_holdsAll ands hands hs.1.1 hr.1.1 haands hcands rows hhands
    have hbase₁ := hmove₁.base_eq fun r hmem => (hr.1.1 r hmem).2
    obtain ⟨rows₂, hmove₂, htors⟩ : ∃ rows₂,
        Moves (sitesAll base ors) (routesAll ors) (rows base) rows₁ rows₂ ∧
          (cors = [] ∨ ∃ c ∈ cors, Sql.Tree.reads (Leaf.isTrueIn registry rows₂) c = true) := by
      rcases hhors with rfl | hhors
      · exact ⟨rows₁, .refl, .inl ((trees_eq_nil_iff hcors).2 rfl)⟩
      · obtain ⟨rows₂, hmove₂, htors⟩ :=
          exists_reads_of_holdsAny ors hors hs.1.2 hr.1.2 haors hcors rows₁ (hbase₁ ▸ hhors)
        exact ⟨rows₂, hbase₁ ▸ hmove₂, .inr htors⟩
    have hbase₂ := (hmove₂.base_eq fun r hmem => (hr.1.2 r hmem).2).trans hbase₁
    obtain ⟨rows₃, hmove₃, htfields⟩ :=
      exists_reads_of_holdsFields fields hfields hs.2 hr.2 hafields hcfields rows₂
        (hbase₂ ▸ hhfields)
    rw [hbase₂] at hmove₃
    have hkeep : ∀ s ∈ sitesAll base ands ++ sitesAll base ors,
        rows₃ s.aliasName = rows₂ s.aliasName :=
      fun s => hmove₃.eq_of_apart (fun r hmem => (hr.2 r hmem).2) hgroups_fields
    refine ⟨rows₃, ?_, ?_⟩
    · rw [sites, routes]
      exact ((hmove₁.mono (by simp) (by simp)).trans (hmove₂.mono (by simp) (by simp))).trans
        (hmove₃.mono (by simp) (by simp))
    · rw [reads_node, Bool.and_eq_true, Bool.and_eq_true, List.all_eq_true, List.all_eq_true]
      refine ⟨⟨fun c hmem => ?_, ?_⟩, htfields⟩
      · refine (reads_of_moved
          (fun t ht l hl => exists_site_of_trees ands hcands (ht ▸ hmem) hl)
          fun s hmem => ?_).trans (htands c hmem)
        rw [hkeep s (List.mem_append_left _ hmem)]
        exact hmove₂.eq_of_apart (fun r hmem => (hr.1.2 r hmem).2) hands_ors hmem
      · rcases htors with rfl | ⟨c, hmem, htrue⟩
        · rfl
        · rw [reads_anyClause _ (List.ne_nil_of_mem hmem), List.any_eq_true]
          refine ⟨c, hmem, ?_⟩
          rwa [reads_of_moved
            (fun t ht l hl => exists_site_of_trees ors hcors (ht ▸ hmem) hl)
            fun s hmem => hkeep s (List.mem_append_right _ hmem)]

theorem exists_reads_of_holdsAll {catalog : Catalog} : (fs : List Scoped) → {entity : Entity} →
    {base : String} → {cs : List (Option (Sql.Tree Leaf))} → ResolvedAll catalog entity fs →
    (∀ s ∈ sitesAll base fs, s.IsJudged registry) → (∀ r ∈ routesAll fs, r.IsDirect base) →
    ApartAll base fs → trees (Leaf.ofSite registry) base fs = .ok cs →
    (rows : String → Json.Row) → holdsAll registry (rows base) fs = .ok true →
    ∃ rows', Moves (sitesAll base fs) (routesAll fs) (rows base) rows rows' ∧
      ∀ c ∈ cs, Sql.Tree.reads (Leaf.isTrueIn registry rows') c = true
  | [], _, _, _, _, _, _, _, hc, rows, _ => by
    cases hc
    exact ⟨rows, .refl, by simp⟩
  | f :: rest, _, base, cs, hres, hs, hr, hapart, hc, rows, hholds => by
    obtain ⟨haf, hf_rest, harest⟩ := hapart
    simp only [sitesAll, List.mem_append, or_imp, forall_and] at hs
    simp only [routesAll, List.mem_append, or_imp, forall_and] at hr
    simp only [trees, bind_eq_ok, pure_eq_ok] at hc
    obtain ⟨c, hf, ds, hrest, rfl⟩ := hc
    rw [holdsAll, bind_eq_ok] at hholds
    obtain ⟨b, hb, hholds⟩ := hholds
    cases b with
    | false => cases hholds
    | true =>
      obtain ⟨rows₁, hmove₁, htrue⟩ := exists_reads_of_holds f hres.1 hs.1 hr.1 haf hf rows hb
      have hbase := hmove₁.base_eq fun r hmem => (hr.1 r hmem).2
      obtain ⟨rows₂, hmove₂, htrest⟩ :=
        exists_reads_of_holdsAll rest hres.2 hs.2 hr.2 harest hrest rows₁ (hbase ▸ hholds)
      rw [hbase] at hmove₂
      refine ⟨rows₂, ?_, List.forall_mem_cons.2 ⟨?_, htrest⟩⟩
      · rw [sitesAll, routesAll]
        exact (hmove₁.mono (by simp) (by simp)).trans (hmove₂.mono (by simp) (by simp))
      · rwa [reads_of_moved (fun t ht l hl => exists_site_of_tree f (ht ▸ hf) hl)
          fun s => hmove₂.eq_of_apart (fun r hmem => (hr.2 r hmem).2) hf_rest]

theorem exists_reads_of_holdsAny {catalog : Catalog} : (fs : List Scoped) → {entity : Entity} →
    {base : String} → {cs : List (Option (Sql.Tree Leaf))} → ResolvedAll catalog entity fs →
    (∀ s ∈ sitesAll base fs, s.IsJudged registry) → (∀ r ∈ routesAll fs, r.IsDirect base) →
    ApartEach base fs → trees (Leaf.ofSite registry) base fs = .ok cs →
    (rows : String → Json.Row) → holdsAny registry (rows base) fs = .ok true →
    ∃ rows', Moves (sitesAll base fs) (routesAll fs) (rows base) rows rows' ∧
      ∃ c ∈ cs, Sql.Tree.reads (Leaf.isTrueIn registry rows') c = true
  | [], _, _, _, _, _, _, _, _, _, hholds => by cases hholds
  | f :: rest, _, base, cs, hres, hs, hr, hapart, hc, rows, hholds => by
    simp only [sitesAll, List.mem_append, or_imp, forall_and] at hs
    simp only [routesAll, List.mem_append, or_imp, forall_and] at hr
    simp only [trees, bind_eq_ok, pure_eq_ok] at hc
    obtain ⟨c, hf, ds, hrest, rfl⟩ := hc
    rw [holdsAny, bind_eq_ok] at hholds
    obtain ⟨b, hb, hholds⟩ := hholds
    rw [sitesAll, routesAll]
    cases b with
    | true =>
      obtain ⟨rows₁, hmove, htrue⟩ := exists_reads_of_holds f hres.1 hs.1 hr.1 hapart.1 hf rows hb
      exact ⟨rows₁, hmove.mono (by simp) (by simp), c, List.mem_cons_self .., htrue⟩
    | false =>
      obtain ⟨rows₁, hmove, d, hd, htrue⟩ :=
        exists_reads_of_holdsAny rest hres.2 hs.2 hr.2 hapart.2 hrest rows hholds
      exact ⟨rows₁, hmove.mono (by simp) (by simp), d, List.mem_cons_of_mem _ hd, htrue⟩

theorem exists_reads_of_holdsFields {catalog : Catalog} :
    (fields : List (String × ScopedEntry)) → {entity : Entity} → {base : String} →
    {cs : List (Option (Sql.Tree Leaf))} → ResolvedFields catalog entity fields →
    (∀ s ∈ sitesFields base entity fields, s.IsJudged registry) →
    (∀ r ∈ routesFields fields, r.IsDirect base) → ApartFields base entity fields →
    fieldTrees (Leaf.ofSite registry) base entity fields = .ok cs →
    (rows : String → Json.Row) → holdsFields registry (rows base) entity fields = .ok true →
    ∃ rows', Moves (sitesFields base entity fields) (routesFields fields) (rows base) rows rows' ∧
      ∀ c ∈ cs, Sql.Tree.reads (Leaf.isTrueIn registry rows') c = true
  | [], _, _, _, _, _, _, _, hc, rows, _ => by
    cases hc
    exact ⟨rows, .refl, by simp⟩
  | (name, e) :: rest, entity, base, cs, hres, hs, hr, hapart, hc, rows, hholds => by
    obtain ⟨hae, he_rest, harest⟩ := hapart
    simp only [sitesFields, List.mem_append, or_imp, forall_and] at hs
    simp only [routesFields, List.mem_append, or_imp, forall_and] at hr
    simp only [fieldTrees, bind_eq_ok, pure_eq_ok] at hc
    obtain ⟨c, he, ds, hrest, rfl⟩ := hc
    rw [holdsFields, bind_eq_ok] at hholds
    obtain ⟨b, hb, hholds⟩ := hholds
    cases b with
    | false => cases hholds
    | true =>
      obtain ⟨rows₁, hmove₁, htrue⟩ :=
        exists_reads_of_holdsEntry e hres.1 hs.1 hr.1 hae he rows hb
      have hbase := hmove₁.base_eq fun r hmem => (hr.1 r hmem).2
      obtain ⟨rows₂, hmove₂, htrest⟩ :=
        exists_reads_of_holdsFields rest hres.2 hs.2 hr.2 harest hrest rows₁ (hbase ▸ hholds)
      rw [hbase] at hmove₂
      refine ⟨rows₂, ?_, List.forall_mem_cons.2 ⟨?_, htrest⟩⟩
      · rw [sitesFields, routesFields]
        exact (hmove₁.mono (by simp) (by simp)).trans (hmove₂.mono (by simp) (by simp))
      · rwa [reads_of_moved (fun t ht l hl => exists_site_of_entryTree e (ht ▸ he) hl)
          fun s => hmove₂.eq_of_apart (fun r hmem => (hr.2 r hmem).2) he_rest]

theorem exists_reads_of_holdsEntry {catalog : Catalog} : (e : ScopedEntry) → {entity : Entity} →
    {base name : String} → {c : Option (Sql.Tree Leaf)} → ResolvedEntry catalog entity name e →
    (∀ s ∈ sitesEntry base entity name e, s.IsJudged registry) →
    (∀ r ∈ routesEntry e, r.IsDirect base) → ApartEntry e →
    entryTree (Leaf.ofSite registry) base entity name e = .ok c → (rows : String → Json.Row) →
    holdsEntry registry (rows base) entity name e = .ok true →
    ∃ rows', Moves (sitesEntry base entity name e) (routesEntry e) (rows base) rows rows' ∧
      Sql.Tree.reads (Leaf.isTrueIn registry rows') c = true
  | .column operators, _, base, name, c, _, hs, _, _, hc, rows, hholds => by
    rw [holdsEntry_column_eq hs hc] at hholds
    exact ⟨rows, .refl, Except.ok.inj hholds⟩
  | .notRelation, _, _, _, _, _, _, _, _, hc, _, _
  | .unknownTarget _, _, _, _, _, _, _, _, _, hc, _, _
  | .noFilter _ _, _, _, _, _, _, _, _, _, hc, _, _ => by simp [entryTree] at hc
  | .related relation target filter, entity, base, name, c, hres, hs, hr, hapart, hc, rows,
      hholds => by
    obtain ⟨hrelation, -, hfilter⟩ := hres
    simp only [entryTree, bind_eq_ok, pure_eq_ok] at hc
    obtain ⟨d, hd, rfl⟩ := hc
    rw [holdsEntry, anyRow_eq_true_iff
      (holds_of_tree filter (fun s hmem => (hs s hmem).decides) hd), ← relation?_name hrelation]
      at hholds
    obtain ⟨related, hrelated, hholds⟩ := hholds
    have hflat : filter.routes = [] := List.eq_nil_iff_forall_not_mem.2 fun r hmem =>
      absurd (hr _ (List.mem_cons_of_mem _ (List.mem_map_of_mem hmem))).1 (List.cons_ne_nil _ _)
    obtain ⟨rows₁, hmove, htrue⟩ := exists_reads_of_holds filter hfilter hs (by simp [hflat])
      hapart hd (Function.update rows relation.joinAlias related) (by simpa using hholds)
    have hrows₁ : rows₁ = Function.update rows relation.joinAlias related := by
      funext a
      rw [hflat] at hmove
      exact (hmove a).resolve_right (by simp)
    subst hrows₁
    simp only [Sql.Tree.reads_map_bracket]
    by_cases hread : ∃ s ∈ filter.sites relation.joinAlias, s.aliasName = relation.joinAlias
    · refine ⟨_, fun a => ?_, htrue⟩
      by_cases ha : a = relation.joinAlias
      · subst ha
        rw [Function.update_self]
        exact .inr ⟨hread, _, List.mem_cons_self .., rfl, hrelated⟩
      · exact .inl (Function.update_of_ne ha _ _)
    · -- nothing of the nested filter reads the related row, so it need not be put there
      refine ⟨rows, .refl, ?_⟩
      rwa [← reads_of_moved (fun t ht l hl => exists_site_of_tree filter (ht ▸ hd) hl)
        fun s hmem => Function.update_of_ne (fun heq => hread ⟨s, hmem, heq⟩) _ _]

end
end

/-! ### Agreement -/

/-- The first row of each join. -/
def firstRows (f : Scoped) (base : String) (row : Json.Row) (a : String) : Json.Row :=
  if a = base then row
  else match f.routes.find? (·.aliasName == a) with
    | some r => (r.last.relation.joinedRows row).headD []
    | none => []

theorem firstRows_mem {f : Scoped} {base : String} {row : Json.Row} {r : Route}
    (hdistinct : ∀ r ∈ f.routes, ∀ r' ∈ f.routes, r.aliasName = r'.aliasName →
      r.last.relation = r'.last.relation)
    (hbase : r.aliasName ≠ base) (hr : r ∈ f.routes)
    (hne : r.last.relation.joinedRows row ≠ []) :
    f.firstRows base row r.aliasName ∈ r.last.relation.joinedRows row := by
  obtain ⟨first, hmem, halias, hfirst⟩ := exists_find?_eq_some Route.aliasName hr
  have hsame := hdistinct first hmem r hr halias
  obtain ⟨related, rest, heq⟩ := List.exists_cons_of_ne_nil hne
  simp only [firstRows, if_neg hbase, hfirst, hsame, heq, List.headD_cons, List.mem_cons_self]

/-- A filter whose nested filters have no relations of their own holds on every row that its joins
and its condition select. They select the rows on which it holds if no relation has conditions on
two sides of an AND and each join gives a row. -/
theorem holds_iff_selects {registry : Registry} (hr : registry.HoldsBuiltIn) {catalog : Catalog}
    {entity : Entity} {base : String} {f : Filter} {c : Option Sql.Condition}
    (hv : (f.scope catalog entity).InRange base)
    (hp : (f.scope catalog entity).PatternsFit registry base)
    (hc : (f.scope catalog entity).condition registry base = .ok c)
    (hdirect : ∀ r ∈ (f.scope catalog entity).routes, r.IsDirect base)
    (hdistinct : ∀ r ∈ (f.scope catalog entity).routes, ∀ r' ∈ (f.scope catalog entity).routes,
      r.aliasName = r'.aliasName → r.last.relation = r'.last.relation)
    (row : Json.Row) :
    let s := f.scope catalog entity
    (∃ t, s.tree (Leaf.ofSite registry) base = .ok t ∧ t.map (Sql.Tree.map Leaf.test) = c) ∧
      (∃ b, s.holds registry row = .ok b) ∧
      (s.Selects registry base row → s.holds registry row = .ok true) ∧
      (s.Apart base → (∀ r ∈ s.routes, r.last.relation.joinedRows row ≠ []) →
        (s.holds registry row = .ok true ↔ s.Selects registry base row)) := by
  intro s
  have hresolved := resolved_scope catalog entity f
  have hjudged : ∀ site ∈ s.sites base, site.IsJudged registry := fun site hsite l hl =>
    Leaf.holds_eq_isTrue hr (hv site hsite) (hp site hsite) hl
  have hdefined := holds_of_condition hr hv hp hc row
  rw [condition_eq_tree, map_eq_ok] at hc
  obtain ⟨t, ht, hmap⟩ := hc
  have hsound : s.Selects registry base row → s.holds registry row = .ok true := by
    rintro ⟨t, rows, ht, hchoice, htrue⟩
    obtain ⟨rfl, hjoined⟩ := (isChoice_iff hdistinct).1 hchoice
    exact holds_of_reads s hresolved hjudged
      (fun r hmem => ⟨(hdirect r hmem).1, Relation.mem_relatedRows (hjoined r hmem)⟩) ht htrue
  refine ⟨⟨t, ht, hmap⟩, hdefined, hsound, fun hapart hne => ⟨fun hholds => ?_, hsound⟩⟩
  have hfirst : s.firstRows base row base = row := if_pos rfl
  obtain ⟨rows, hmoves, htrue⟩ := exists_reads_of_holds s hresolved hjudged hdirect hapart ht
    (s.firstRows base row) (by rwa [hfirst])
  rw [hfirst] at hmoves
  refine ⟨t, rows, ht, (isChoice_iff hdistinct).2
    ⟨(hmoves.base_eq fun r hmem => (hdirect r hmem).2).trans hfirst, fun r hmem => ?_⟩, htrue⟩
  rcases hmoves r.aliasName with heq | ⟨-, r', hmem', halias, hrelated⟩
  · rw [heq]
    exact firstRows_mem hdistinct (hdirect r hmem).2 hmem (hne r hmem)
  · rw [hdistinct r' hmem' r hmem halias] at hrelated
    exact Relation.mem_joinedRows (hne r hmem) hrelated

/-- A task with a title and a finished sub-task. -/
theorem holds_iff_selects_title_and_done :
    let sub : Entity :=
      ⟨"sub_task", "sub_tasks", none, ["id"], [⟨"id", .integer⟩, ⟨"done", .boolean⟩], []⟩
    let task : Entity := ⟨"task", "tasks", none, ["id"], [⟨"id", .integer⟩, ⟨"title", .text⟩],
      [⟨"subTasks", "sub_task", some "st", .left, "id", "task_id"⟩]⟩
    let f := (Filter.allOf [.onField "title" .like (.str "a%"),
      .onRelation "subTasks" (.onField "done" .is (.bool true))]).scope ⟨[task, sub]⟩ task
    let row : Json.Row := [("id", .int 1), ("title", .str "ab"),
      ("subTasks", .arr [.obj [("done", .bool false)], .obj [("done", .bool true)]])]
    f.holds .empty row = .ok true ∧ f.Selects .empty "task" row := by
  intro sub task f row
  have hf : f = .node task [.node task [] [] [("title", .column [("like", .str "a%")])],
      .node task [] [] [("subTasks",
        .related ⟨"subTasks", "sub_task", some "st", .left, "id", "task_id"⟩ sub
          (.node sub [] [] [("done", .column [("is", .bool true)])]))]] [] [] := by
    simp only [f, Scope.scope_allOf, List.map_cons, List.map_nil]
    rw [Scope.scope_onRelation rfl rfl, Scope.scope_onField rfl, Scope.scope_onField rfl]
    rfl
  have hsites : f.sites "task" = [⟨task, "task", "title", "like", .str "a%"⟩,
      ⟨sub, "st", "done", "is", .bool true⟩] := by
    rw [hf]
    rfl
  have hroutes : f.routes
      = [⟨[], ⟨⟨"subTasks", "sub_task", some "st", .left, "id", "task_id"⟩, sub⟩⟩] := by
    rw [hf]
    rfl
  have hrange : f.InRange "task" := by
    rw [InRange, hsites]
    simp [Filter.Value.InRange]
  have hfits : f.PatternsFit .empty "task" := by
    rw [PatternsFit, hsites]
    decide
  have hcond : f.condition .empty "task" = .ok (some (.group (.all
      [.group (.test (.compare .like ⟨"task", "title"⟩ ⟨.text "a%", none⟩)),
        .group (.test (.isBool false ⟨"st", "done"⟩ true))]))) := by
    rw [hf]
    rfl
  have hapart : f.Apart "task" := by
    rw [hf]
    simp [Apart, ApartAll, ApartEach, ApartFields, ApartEntry, SitesApart, sites, sitesAll,
      sitesFields, sitesEntry, Relation.joinAlias]
  have hholds : f.holds .empty row = .ok true := by
    rw [hf]
    decide
  refine ⟨hholds, ((holds_iff_selects Registry.empty_holdsBuiltIn hrange hfits hcond ?_ ?_
    row).2.2.2 hapart ?_).1 hholds⟩
  · rw [show Filter.scope _ _ _ = f from rfl, hroutes]
    simp [Route.IsDirect, Route.aliasName, Relation.joinAlias]
  · rw [show Filter.scope _ _ _ = f from rfl, hroutes]
    simp
  · rw [show Filter.scope _ _ _ = f from rfl, hroutes]
    simp only [List.forall_mem_singleton]
    decide

/-! ### Where judgement and selection part -/

/-- A row is not selected if the condition is false on all choices of joined rows. -/
theorem not_selects {f : Scoped} {registry : Registry} {base : String} {row : Json.Row}
    {t : Option (Sql.Tree Leaf)} (ht : f.tree (Leaf.ofSite registry) base = .ok t)
    (hfalse : ∀ rows, f.IsChoice base row rows →
      Sql.Tree.reads (Leaf.isTrueIn registry rows) t = false) :
    ¬ f.Selects registry base row := by
  rintro ⟨u, rows, hu, hchoice, htrue⟩
  obtain rfl : t = u := Except.ok.inj (ht.symm.trans hu)
  rw [hfalse rows hchoice] at htrue
  cases htrue

/-- The routes of a filter that names one relation only choose a joined row of it. -/
theorem IsChoice.mem_joinedRows {f : Scoped} {base : String} {row : Json.Row}
    {rows : String → Json.Row} {r : Route} (h : f.IsChoice base row rows)
    (hr : r ∈ f.routes) (honly : ∀ r' ∈ f.routes, r' = r) :
    rows r.aliasName ∈ r.last.relation.joinedRows row := by
  refine ((isChoice_iff ?_).1 h).2 r hr
  intro r₁ hr₁ r₂ hr₂ _
  rw [honly r₁ hr₁, honly r₂ hr₂]

/-- A pattern that is too large hides an alternative behind it from the judgement, but not from the
condition. -/
theorem scope_anyOf_like_of_isTooLarge {registry : Registry} {e : Entity}
    {name pattern text : String} {g : Filter} {row : Json.Row} {u : Sql.Tree Leaf}
    (he : e.relation? name = none)
    (hl : registry.lookup? "like" (e.columnType? name) (some (e.name, name)) = none)
    (hrow : Dict.find? row name = some (.str text))
    (hlarge : Pattern.isTooLarge false (Pattern.items pattern.toList) = true) (catalog : Catalog)
    (hroutes : (g.scope catalog e).routes = [])
    (hg : (g.scope catalog e).tree (Leaf.ofSite registry) e.tableAlias = .ok (some u))
    (htrue : u.value (Leaf.isTrue registry row) = true) :
    let f := (Filter.anyOf [.onField name .like (.str pattern), g]).scope catalog e
    f.holds registry row = .error (.invalidValue name "like" .patternTooLarge) ∧
      f.Selects registry e.tableAlias row := by
  intro f
  have hf : f = .node e [] [(Filter.onField name .like (.str pattern)).scope catalog e,
      g.scope catalog e] [] := by
    simp only [f, Scope.scope_anyOf, List.map_cons, List.map_nil]
  obtain ⟨hcond, hholds⟩ := scope_onField_like_of_isTooLarge he hl hrow hlarge catalog e.tableAlias
  constructor
  · simp only [hf, holds, holdsAll, holdsAny, hholds, ok_bind]
    rfl
  · rw [condition_eq_tree, map_eq_ok] at hcond
    obtain ⟨t, ht, -⟩ := hcond
    have htree : f.tree (Leaf.ofSite registry) e.tableAlias = .ok (Sql.Tree.all?
        ((allClause []).toList ++ (anyClause [t, some u]).toList ++ [].filterMap id)) := by
      simp only [hf, tree, trees, fieldTrees, ht, hg, ok_bind]
      rfl
    have hnone : f.routes = [] := by
      simp only [hf, Scope.scope_onField he, routes, routesAll, routesFields, routesEntry, hroutes,
        List.append_nil]
    refine ⟨_, fun _ => row, htree, ⟨rfl, ?_⟩, ?_⟩
    · rw [joins_eq_foldl, hnone]
      simp
    · rw [reads_node, reads_anyClause _ (List.cons_ne_nil _ _), List.any_cons, List.any_cons]
      have hsecond : Sql.Tree.reads (Leaf.isTrueIn registry fun _ => row) (some u) = true := htrue
      simp [hsecond]

/-- A filter may hold on a row that its joins do not select: if two entries find different rows of
one relation, if an inner join drops the row, or if the alias of a join is that of the table. A row
may be selected without being judged, behind a pattern that is too large. -/
theorem holds_ne_selects :
    let sub : Entity := ⟨"sub_task", "sub_tasks", none, ["id"], [⟨"id", .integer⟩], []⟩
    let task (join : JoinKind) (aliasName : Option String) : Entity :=
      ⟨"task", "tasks", none, ["id"], [⟨"id", .integer⟩, ⟨"title", .text⟩],
        [⟨"subTasks", "sub_task", aliasName, join, "id", "task_id"⟩]⟩
    let resolve (e : Entity) (f : Filter) : Scoped := f.scope ⟨[e, sub]⟩ e
    let row (related : List Json.Value) : Json.Row :=
      [("id", .int 1), ("subTasks", .arr related), ("title", .str "a")]
    let both := resolve (task .left none) (.allOf
      [.onRelation "subTasks" (.onField "id" .eq (.int 1)),
        .onRelation "subTasks" (.onField "id" .eq (.int 2))])
    let one := row [.obj [("id", .int 1)], .obj [("id", .int 2)]]
    let dropped := resolve (task .inner none) (.onRelation "subTasks" (.onField "id" .is .null))
    let confused := resolve (task .left (some "task"))
      (.onRelation "subTasks" (.onField "id" .eq (.int 2)))
    let huge := resolve (task .left none) (.anyOf
      [.onField "title" .like (.str (String.ofList (List.replicate 50000 '%'))),
        .onField "id" .eq (.int 1)])
    ((∃ c, both.condition .empty "task" = .ok c) ∧ both.holds .empty one = .ok true ∧
        ¬ both.Selects .empty "task" one) ∧
      ((∃ c, dropped.condition .empty "task" = .ok c) ∧
        dropped.holds .empty (row []) = .ok true ∧ ¬ dropped.Selects .empty "task" (row [])) ∧
      ((∃ c, confused.condition .empty "task" = .ok c) ∧ confused.holds .empty one = .ok true ∧
        ¬ confused.Selects .empty "task" one) ∧
      (huge.holds .empty one = .error (.invalidValue "title" "like" .patternTooLarge) ∧
        huge.Selects .empty "task" one) := by
  intro sub task resolve row both one dropped confused huge
  have hentry (join : JoinKind) (aliasName : Option String) (op : Filter.Operator)
      (v : Filter.Value) :
      resolve (task join aliasName) (.onRelation "subTasks" (.onField "id" op v))
        = .node (task join aliasName) [] [] [("subTasks",
            .related ⟨"subTasks", "sub_task", aliasName, join, "id", "task_id"⟩ sub
              (.node sub [] [] [("id", .column [(op.name, v)])]))] := by
    simp only [resolve]
    rw [Scope.scope_onRelation rfl rfl, Scope.scope_onField rfl]
  refine ⟨?_, ?_, ?_, ?_⟩
  · have hboth : both = .node (task .left none) [
        resolve (task .left none) (.onRelation "subTasks" (.onField "id" .eq (.int 1))),
        resolve (task .left none) (.onRelation "subTasks" (.onField "id" .eq (.int 2)))] [] [] := by
      simp only [both, resolve, Scope.scope_allOf, List.map_cons, List.map_nil]
    rw [hentry, hentry] at hboth
    rw [hboth]
    refine ⟨⟨_, rfl⟩, by decide, not_selects rfl fun rows hchoice => ?_⟩
    have hrow := hchoice.mem_joinedRows (List.mem_cons_self ..)
      (by simp [routes, routesAll, routesFields, routesEntry])
    have hcases : rows "subTasks" ∈ [[("id", .int 1)], [("id", .int 2)]] := hrow
    change (Leaf.isTrue .empty (rows "subTasks") ⟨⟨sub, "subTasks", "id", "eq", .int 1⟩, _⟩ &&
      (Leaf.isTrue .empty (rows "subTasks") ⟨⟨sub, "subTasks", "id", "eq", .int 2⟩, _⟩ && true))
        = false
    rcases List.mem_pair.1 hcases with heq | heq <;> rw [heq] <;> rfl
  · rw [show dropped = _ from hentry .inner none .is .null]
    refine ⟨⟨_, rfl⟩, by decide, not_selects rfl fun rows hchoice => ?_⟩
    have hrow := hchoice.mem_joinedRows (List.mem_cons_self ..)
      (by simp [routes, routesAll, routesFields, routesEntry])
    exact absurd hrow (List.not_mem_nil)
  · rw [show confused = _ from hentry .left (some "task") .eq (.int 2)]
    refine ⟨⟨_, rfl⟩, by decide, not_selects rfl fun rows hchoice => ?_⟩
    have hrow := hchoice.mem_joinedRows (List.mem_cons_self ..)
      (by simp [routes, routesAll, routesFields, routesEntry])
    have hcases : rows "task" ∈ [[("id", .int 1)], [("id", .int 2)]] := hrow
    rw [hchoice.1] at hcases
    rcases List.mem_pair.1 hcases with heq | heq <;>
      exact absurd (congrArg List.length heq) (by decide)
  · exact scope_anyOf_like_of_isTooLarge (e := task .left none) rfl rfl rfl
      (Pattern.isTooLarge_text_wildcards false (by decide)) _ (by rw [Scope.scope_onField rfl]; rfl)
      (by rw [Scope.scope_onField rfl]; rfl) (by rfl)

end RowQuery.Scoped
