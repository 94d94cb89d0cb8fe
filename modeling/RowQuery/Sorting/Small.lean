import RowQuery.Sorting.Merge
/-!
Sorting a few items: each half by insertion, then the halves are merged from both ends.

By insertion each item is put after the ones before it and moves up past those it precedes, so items
that neither precede one another stay in their order. The insertion starts from a block of items
that are put in order by a fixed network.
-/

namespace RowQuery.Sorting

/-- How large the blocks at the start of an insertion become: four items, or eight where there are
enough of them. -/
inductive Blocks where
  | four
  | eight
deriving DecidableEq

/-- How many items are sorted as a few. -/
def fewItems : Nat := 32

variable {α : Type} (less : α → α → Bool)

/-- Puts an item into items that are given last one first: before every item at the front that it
has to precede. -/
def insertLast (x : α) : List α → List α
  | [] => [x]
  | last :: rest => if less x last then last :: insertLast x rest else x :: last :: rest

/-- Puts further items into items that are in order. -/
def extend (sorted rest : List α) : List α :=
  (rest.foldl (fun sorted x => insertLast less x sorted) sorted.reverse).reverse

/-- The items in order. -/
def insertion (xs : List α) : List α := extend less [] xs

/-- Four items in order: two pairs, then the ends, then what is between them. -/
def sortFour (w x y z : α) : List α :=
  let swapped := less x w
  let a := if swapped then x else w
  let b := if swapped then w else x
  let swapped := less z y
  let c := if swapped then z else y
  let d := if swapped then y else z
  let rightFirst := less c a
  let leftLast := less d b
  let first := if rightFirst then c else a
  let last := if leftLast then b else d
  let p := if rightFirst then a else if leftLast then c else b
  let q := if leftLast then d else if rightFirst then b else c
  if less q p then [first, q, p, last] else [first, p, q, last]

/-- Four items in order; other lists are left as they are. -/
def sortBlock : List α → List α
  | [w, x, y, z] => sortFour less w x y z
  | xs => xs

/-- How many items the blocks of the halves of a list have. -/
def blockSize (blocks : Blocks) (n : Nat) : Nat :=
  if blocks = .eight ∧ 16 ≤ n then 8 else if 8 ≤ n then 4 else 1

/-- A half in order, with a block of some size at its start. -/
def sortHalf? (size : Nat) (xs : List α) : Option (List α) := do
  let block ←
    if size = 8 then
      mergeEnds? less (sortBlock less (xs.take 4)) (sortBlock less ((xs.take 8).drop 4))
    else some (sortBlock less (xs.take size))
  some (extend less block (xs.drop size))

/-- A few items in order. -/
def sortFew? (blocks : Blocks) (xs : List α) : Option (List α) :=
  if xs.length < 2 then some xs
  else do
    let size := blockSize blocks xs.length
    let left ← sortHalf? less size (xs.take (xs.length / 2))
    let right ← sortHalf? less size (xs.drop (xs.length / 2))
    mergeEnds? less left right

end RowQuery.Sorting
