import RowQuery.Sorting.Runs
/-!
Sorting by an order that may contradict itself.

Of an order without contradictions every stable sort makes the same list. Where one item precedes a
second, the second a third and the first not the third, the result depends on which items are
compared. So that is fixed here: few items are sorted by insertion, more by merging runs, and runs
that are not in order by splitting them at a median.
-/

namespace RowQuery.Sorting

variable {α : Type} (less : α → α → Bool)

/-! ### Splitting -/

/-- The place of the median of three items. -/
def median (item : Nat → α) (a b c : Nat) : Nat :=
  let x := less (item a) (item b)
  if x != less (item a) (item c) then a
  else if x != less (item b) (item c) then c
  else b

/-- The place of a median of medians, each over a stretch of eight times `n` items. -/
def medianOver (item : Nat → α) (n a b c : Nat) : Nat :=
  if 8 ≤ n then
    let step := n / 8
    let best (a : Nat) := medianOver item step a (a + step * 4) (a + step * 7)
    median less item (best a) (best b) (best c)
  else median less item a b c
termination_by n
decreasing_by omega

/-- The items that go to the left and the others; of the item at one place it is given where it
goes. -/
def split (goesLeft : α → Bool) (place : Nat) (placeGoesLeft : Bool) (xs : List α) :
    List α × List α :=
  let (left, right) := xs.zipIdx.partition fun e =>
    if e.2 = place then placeGoesLeft else goesLeft e.1
  (left.map (·.1), right.map (·.1))

/-- The items in order, by splitting them at most `limit` times in depth. None of the items precedes
`lower`, so those that `lower` does not precede all come first. -/
def sortBySplits? (blocks : Blocks) (limit : Nat) (lower : Option α) (xs : List α) :
    Option (List α) :=
  match limit, xs with
  | 0, xs =>
    if xs.length ≤ fewItems then sortFew? less blocks xs
    else sortByRuns? less some ⟨blocks, true⟩ xs
  | _ + 1, [] => some []
  | limit + 1, first :: rest =>
    let xs := first :: rest
    if xs.length ≤ fewItems then sortFew? less blocks xs
    else
      let item (i : Nat) := xs.getD i first
      let step := xs.length / 8
      let place := medianOver less item step 0 (step * 4) (step * 7)
      let pivot := item place
      let (left, right) := split (fun x => less x pivot) place false xs
      if lower.any (fun lower => !less lower pivot) || left.isEmpty then
        let (left, right) := split (fun x => !less pivot x) place true xs
        (sortBySplits? blocks limit none right).map fun right => left ++ right
      else do
        let right ← sortBySplits? blocks limit (some pivot) right
        let left ← sortBySplits? blocks limit lower left
        some (left ++ right)

/-! ### Sorting -/

/-- The items of a run that is not in order, in order. -/
def sortRun? (blocks : Blocks) (xs : List α) : Option (List α) :=
  sortBySplits? less blocks (2 * xs.length.log2) none xs

/-- The items in order. There is no result if a merge finds that the order contradicts itself. -/
def sort? (blocks : Blocks) (xs : List α) : Option (List α) :=
  if xs.length ≤ 20 then some (insertion less xs)
  else if xs.length ≤ 2 * fewItems then sortByRuns? less some ⟨blocks, true⟩ xs
  else sortByRuns? less (sortRun? less blocks) ⟨blocks, false⟩ xs

end RowQuery.Sorting
