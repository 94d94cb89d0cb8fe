import RowQuery.Catalog.Basic
import RowQuery.Proofs.SortOrder.Arrangement
/-!
Sorts that are followed by a key set.

Such a sort goes by every key, so it tells any two rows apart that differ in one. The fields that
were asked for keep their places.
-/

namespace RowQuery

open SortOrder

namespace SortOrder

variable {sort : SortOrder} {keySet : List String}

theorem withKeySet_cons (sort : SortOrder) (key : String) (keySet : List String) :
    sort.withKeySet (key :: keySet)
      = withKeySet (if sort.any fun s => s.field == key then sort else sort ++ [.asc key])
          keySet :=
  rfl

theorem subset_withKeySet : ∀ (keySet : List String) (sort : SortOrder),
    sort ⊆ sort.withKeySet keySet
  | [], sort => List.Subset.refl sort
  | key :: keySet, sort => by
    rw [withKeySet_cons]
    refine List.Subset.trans ?_ (subset_withKeySet keySet _)
    split
    · exact List.Subset.refl sort
    · exact List.subset_append_left ..

/-- A sort with a key set goes by every key. -/
theorem exists_mem_withKeySet {key : String} : ∀ {keySet : List String}, key ∈ keySet →
    ∀ sort : SortOrder, ∃ s ∈ sort.withKeySet keySet, s.field = key
  | first :: keySet, h, sort => by
    rw [withKeySet_cons]
    rcases List.mem_cons.1 h with rfl | h
    · have hfield : ∃ s ∈ (if sort.any fun s => s.field == key then sort
          else sort ++ [.asc key]), s.field = key := by
        split
        · next hany => simpa using hany
        · exact ⟨.asc key, List.mem_append_right _ (List.mem_singleton_self _), rfl⟩
      obtain ⟨s, hs, hkey⟩ := hfield
      exact ⟨s, subset_withKeySet _ _ hs, hkey⟩
    · exact exists_mem_withKeySet h _

theorem withKeySet_ne_nil (h : keySet ≠ []) : sort.withKeySet keySet ≠ [] := by
  obtain ⟨key, rest, rfl⟩ := List.exists_cons_of_ne_nil h
  obtain ⟨s, hs, -⟩ := exists_mem_withKeySet (List.mem_cons_self (a := key) (l := rest)) sort
  exact List.ne_nil_of_mem hs

end SortOrder

/-- No two of some rows have the same key. -/
def Entity.Distinguishes (e : Entity) (rows : List Json.Row) : Prop :=
  rows.Pairwise fun x y => ∃ key ∈ e.keySet, valueAt x key ≠ valueAt y key

theorem Entity.Distinguishes.separates {e : Entity} {rows : List Json.Row}
    (h : e.Distinguishes rows) (sort : SortOrder) : Separates (sort.withKeySet e.keySet) rows := by
  refine h.imp fun ⟨key, hkey, hne⟩ hagree => ?_
  obtain ⟨s, hs, rfl⟩ := exists_mem_withKeySet hkey sort
  exact hne (hagree s hs)

end RowQuery
