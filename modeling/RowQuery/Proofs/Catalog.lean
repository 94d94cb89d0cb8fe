import Mathlib.Data.List.Nodup
import RowQuery.Catalog.Basic
/-!
Which entities make a catalog.

The faults are looked for one after another; together they leave out nothing that a catalog needs:
the names are distinct, and what a relation or a key set names is there. So every relation of a
catalog leads to an entity of it.
-/

namespace RowQuery

/-- The entities can stand in one catalog. -/
structure Catalog.IsValid (entities : List Entity) : Prop where
  /-- No two entities have one name. -/
  distinct : (entities.map Entity.name).Nodup
  /-- Every relation leads to one of the entities. -/
  targets : ∀ e ∈ entities, ∀ r ∈ e.relations, ∃ target ∈ entities, target.name = r.target
  /-- Every key field is a declared field. -/
  keys : ∀ e ∈ entities, ∀ key ∈ e.keySet, ∃ f ∈ e.fields, f.name = key

theorem Entity.columnType?_eq_none_iff {e : Entity} {field : String} :
    e.columnType? field = none ↔ ∀ f ∈ e.fields, f.name ≠ field := by
  simp [columnType?]

/-- Every relation of an entity of the catalog leads to an entity of it. -/
def Catalog.Closed (c : Catalog) : Prop :=
  ∀ e ∈ c.entities, ∀ r ∈ e.relations, ∃ target ∈ c.entities, target.name = r.target

namespace Catalog

variable {c : Catalog} {e : Entity} {entities : List Entity}

theorem find?_eq_none_iff {name : String} :
    c.find? name = none ↔ ∀ e ∈ c.entities, e.name ≠ name := by
  simp [find?]

theorem mem_of_find? {name : String} (h : c.find? name = some e) :
    e ∈ c.entities ∧ e.name = name :=
  ⟨List.mem_of_find?_eq_some h, by simpa using List.find?_some h⟩

/-- A relation of a closed catalog finds its target, which is named as the relation says. -/
theorem Closed.exists_target (hc : c.Closed) (he : e ∈ c.entities) {name : String} {r : Relation}
    (hr : e.relation? name = some r) : ∃ target, c.find? r.target = some target := by
  obtain ⟨target, htarget, hname⟩ := hc e he r (List.mem_of_find?_eq_some hr)
  have hsome : c.find? r.target ≠ none := fun hnone =>
    find?_eq_none_iff.1 hnone target htarget hname
  exact Option.ne_none_iff_exists'.1 hsome

theorem Closed.find?_ne_none (hc : c.Closed) (he : e ∈ c.entities) {name : String} {r : Relation}
    (hr : e.relation? name = some r) : c.find? r.target ≠ none := by
  obtain ⟨target, htarget⟩ := hc.exists_target he hr
  simp [htarget]

/-- No name stands twice just when the names are distinct and none of them was seen before. -/
theorem repeated?_eq_none_iff {seen : List String} : repeated? seen entities = none ↔
    (entities.map Entity.name).Nodup ∧ ∀ name ∈ entities.map Entity.name, name ∉ seen := by
  induction entities generalizing seen with
  | nil => simp [repeated?]
  | cons e rest ih =>
    rw [repeated?, List.map_cons, List.nodup_cons, List.forall_mem_cons]
    by_cases hseen : e.name ∈ seen
    · simp [hseen]
    · have hnot : seen.contains e.name = false := by simpa using hseen
      rw [hnot, if_neg Bool.false_ne_true, ih]
      constructor
      · rintro ⟨hrest, hunseen⟩
        have hfresh : e.name ∉ rest.map Entity.name := fun h =>
          hunseen _ h (List.mem_cons_self ..)
        exact ⟨⟨hfresh, hrest⟩, hseen, fun name h hmem =>
          hunseen name h (List.mem_cons_of_mem _ hmem)⟩
      · rintro ⟨⟨hfresh, hrest⟩, -, hunseen⟩
        refine ⟨hrest, fun name h hmem => ?_⟩
        rcases List.mem_cons.1 hmem with rfl | hmem
        · exact hfresh h
        · exact hunseen name h hmem

/-- An entity has no fault just when its relations lead to entities of the catalog and its key
fields are declared. -/
theorem fault?_eq_none_iff : c.fault? e = none ↔
    (∀ r ∈ e.relations, ∃ target ∈ c.entities, target.name = r.target) ∧
      ∀ key ∈ e.keySet, ∃ f ∈ e.fields, f.name = key := by
  rw [fault?]
  cases htargets : e.relations.find? fun r => (c.find? r.target).isNone with
  | some r =>
    have hnone := List.find?_some htargets
    have hmissing := find?_eq_none_iff.1 (Option.isNone_iff_eq_none.1 hnone)
    refine iff_of_false (Option.some_ne_none _) fun h => ?_
    obtain ⟨target, htarget, hname⟩ := h.1 r (List.mem_of_find?_eq_some htargets)
    exact hmissing target htarget hname
  | none =>
    have hfound : ∀ r ∈ e.relations, ∃ target ∈ c.entities, target.name = r.target := by
      intro r hr
      by_contra! hmissing
      exact List.find?_eq_none.1 htargets r hr
        (Option.isNone_iff_eq_none.2 (find?_eq_none_iff.2 hmissing))
    simp only [Option.map_eq_none_iff, List.find?_eq_none, Option.isNone_iff_eq_none,
      Entity.columnType?_eq_none_iff]
    push Not
    exact (and_iff_right hfound).symm

/-- A list of entities is accepted just when it is valid, and makes the catalog of them. -/
theorem ofEntities_eq_ok_iff : ofEntities entities = .ok c ↔ IsValid entities ∧ c = ⟨entities⟩ := by
  have hfaults : entities.findSome? (fault? ⟨entities⟩) = none ↔
      (∀ e ∈ entities, ∀ r ∈ e.relations, ∃ target ∈ entities, target.name = r.target) ∧
        ∀ e ∈ entities, ∀ key ∈ e.keySet, ∃ f ∈ e.fields, f.name = key := by
    simp only [List.findSome?_eq_none_iff, fault?_eq_none_iff, forall_and]
  have hnames : repeated? [] entities = none ↔ (entities.map Entity.name).Nodup := by
    simp [repeated?_eq_none_iff]
  rw [ofEntities]
  cases hrepeated : repeated? [] entities with
  | some name =>
    refine iff_of_false (by simp) fun h => ?_
    simp [hnames.2 h.1.distinct] at hrepeated
  | none =>
    cases hfault : entities.findSome? (fault? ⟨entities⟩) with
    | some fault =>
      refine iff_of_false (by simp) fun h => ?_
      simp [hfaults.2 ⟨h.1.targets, h.1.keys⟩] at hfault
    | none =>
      obtain ⟨htargets, hkeys⟩ := hfaults.1 hfault
      have hvalid : IsValid entities := ⟨hnames.1 hrepeated, htargets, hkeys⟩
      simp [hvalid, eq_comm]

end Catalog
end RowQuery
