import Mathlib.Tactic.Common
import RowQuery.Sorting.Small
/-!
What insertion makes of a list.

The result has the same items. Each of them is related to all that follow, by any transitive
relation that comparing two items decides: by the order itself if of two items one always precedes
the other, and otherwise by not coming after.
-/

namespace RowQuery.Sorting

variable {α : Type} {less : α → α → Bool}

theorem perm_insertLast (x : α) : ∀ items : List α, (insertLast less x items).Perm (x :: items)
  | [] => .refl _
  | last :: rest => by
    rw [insertLast]
    split
    · exact ((perm_insertLast x rest).cons last).trans (.swap x last rest)
    · exact .refl _

theorem perm_foldl_insertLast : ∀ rest items : List α,
    (rest.foldl (fun items x => insertLast less x items) items).Perm (rest ++ items)
  | [], _ => .refl _
  | x :: rest, items => by
    rw [List.foldl_cons]
    refine (perm_foldl_insertLast rest _).trans ?_
    refine ((perm_insertLast x items).append_left rest).trans ?_
    exact List.perm_middle

theorem perm_insertion (xs : List α) : (insertion less xs).Perm xs := by
  rw [insertion, extend]
  refine (List.reverse_perm _).trans ((perm_foldl_insertLast xs _).trans ?_)
  rw [List.reverse_nil, List.append_nil]

/-- What the comparison of two items says is so: either the first one precedes the second, or it
does not. -/
def Decides (less : α → α → Bool) (r : α → α → Prop) (x y : α) : Prop :=
  if less x y = true then r x y else r y x

/-- The items are related by a transitive relation. -/
def TransOn (r : α → α → Prop) (items : List α) : Prop :=
  ∀ a ∈ items, ∀ b ∈ items, ∀ c ∈ items, r a b → r b c → r a c

theorem TransOn.subset {r : α → α → Prop} {items items' : List α} (h : TransOn r items)
    (hsub : items' ⊆ items) : TransOn r items' :=
  fun a ha b hb c hc => h a (hsub ha) b (hsub hb) c (hsub hc)

variable {r : α → α → Prop}

/-- Putting an item into items that are each related to the ones before them keeps them so. -/
theorem insertLast_pairwise {x : α} : ∀ {items : List α}, TransOn r (x :: items) →
    (∀ y ∈ items, Decides less r x y) → items.Pairwise (fun a b => r b a) →
    (insertLast less x items).Pairwise fun a b => r b a
  | [], _, _, _ => List.pairwise_singleton ..
  | last :: rest, htrans, hdecides, hitems => by
    obtain ⟨hlast, hrest⟩ := List.pairwise_cons.1 hitems
    have hx := hdecides last (List.mem_cons_self ..)
    rw [insertLast]
    split
    · rename_i hless
      rw [Decides, if_pos hless] at hx
      refine List.pairwise_cons.2 ⟨fun y hy => ?_, insertLast_pairwise ?_ ?_ hrest⟩
      · rcases List.mem_cons.1 ((perm_insertLast x rest).mem_iff.1 hy) with rfl | hy
        · exact hx
        · exact hlast y hy
      · exact htrans.subset (List.cons_subset_cons x (List.subset_cons_self last rest))
      · exact fun y hy => hdecides y (List.mem_cons_of_mem _ hy)
    · rename_i hless
      rw [Decides, if_neg hless] at hx
      refine List.pairwise_cons.2 ⟨fun y hy => ?_, hitems⟩
      rcases List.mem_cons.1 hy with rfl | hy
      · exact hx
      · exact htrans y (by simp [hy]) last (by simp) x (by simp) (hlast y hy) hx

theorem foldl_insertLast_pairwise : ∀ {rest items : List α}, TransOn r (rest ++ items) →
    rest.Pairwise (fun x y => Decides less r y x) →
    (∀ x ∈ rest, ∀ y ∈ items, Decides less r x y) → items.Pairwise (fun a b => r b a) →
    (rest.foldl (fun items x => insertLast less x items) items).Pairwise fun a b => r b a
  | [], _, _, _, _, hitems => hitems
  | x :: rest, items, htrans, hrest, hdecides, hitems => by
    obtain ⟨hx, hrest⟩ := List.pairwise_cons.1 hrest
    rw [List.foldl_cons]
    have hmem : ∀ a, a ∈ insertLast less x items ↔ a ∈ x :: items :=
      fun a => (perm_insertLast x items).mem_iff
    refine foldl_insertLast_pairwise (htrans.subset ?_) hrest ?_
      (insertLast_pairwise (htrans.subset ?_) ?_ hitems)
    · intro a ha
      rw [List.mem_append, hmem] at ha
      grind
    · intro z hz y hy
      rcases List.mem_cons.1 ((hmem y).1 hy) with rfl | hy
      · exact hx z hz
      · exact hdecides z (List.mem_cons_of_mem _ hz) y hy
    · exact List.cons_subset_cons x (List.subset_append_right rest items)
    · exact fun y hy => hdecides x (List.mem_cons_self ..) y hy

/-- Insertion relates each item to all that follow, if the relation is transitive and comparing two
items says which way round they are related. -/
theorem insertion_pairwise {xs : List α} (htrans : TransOn r xs)
    (hdecides : xs.Pairwise fun x y => Decides less r y x) : (insertion less xs).Pairwise r := by
  rw [insertion, extend, List.pairwise_reverse]
  refine foldl_insertLast_pairwise ?_ hdecides (by simp) (by simp)
  simpa using htrans

end RowQuery.Sorting
