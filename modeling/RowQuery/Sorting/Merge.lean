/-!
Merging two lists that are in order, the left one first where the order leaves it open.

A merge from both ends stops where the two ends meet. If the order contradicts itself they can miss
each other, and then there is no result.
-/

namespace RowQuery.Sorting

variable {α : Type} (less : α → α → Bool)

/-- Merges from the end at which the shorter list can be used up first: from the front if that is
the left one. -/
def merge (left right : List α) : List α :=
  if left.length ≤ right.length then left.merge right fun x y => !less y x
  else (right.reverse.merge left.reverse fun y x => !less y x).reverse

/-- Takes a number of items from the fronts of two lists, and counts those of the first. -/
def draw (fromFirst : α → α → Bool) : Nat → List α → List α → List α × Nat
  | 0, _, _ => ([], 0)
  | n + 1, x :: xs, y :: ys =>
    if fromFirst x y then
      let (zs, k) := draw fromFirst n xs (y :: ys)
      (x :: zs, k + 1)
    else
      let (zs, k) := draw fromFirst n (x :: xs) ys
      (y :: zs, k)
  | n + 1, xs, [] => (xs.take (n + 1), (xs.take (n + 1)).length)
  | n + 1, [], ys => (ys.take (n + 1), 0)

/-- Merges two lists, the right one as long as the left one or longer by one, from both ends at
once. Each end yields as many items as the left list has; what stands between the ends is left
over. -/
def mergeEnds? (left right : List α) : Option (List α) :=
  let n := left.length
  let (front, l) := draw (fun x y => !less y x) n left right
  let (back, r) := draw (fun y x => !less y x) n right.reverse left.reverse
  let between := (left.take r).drop l ++ (right.take (right.length - r)).drop (n - l)
  if l ≤ r ∧ n + r ≤ right.length + l then some (front ++ between ++ back.reverse) else none

end RowQuery.Sorting
