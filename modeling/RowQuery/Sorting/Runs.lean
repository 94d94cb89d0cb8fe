import RowQuery.Number.Binary64
import RowQuery.Sorting.Small
/-!
Sorting by merging runs.

The items are cut into runs. A long piece that is in order already is a run, or one in reverse,
which is turned round; between such pieces runs are cut to a fixed length, and are put in order at
once or only when they are needed. Neighbours are merged along a tree whose shape depends on the
lengths alone: the boundary whose neighbours have their middles in the same half of the same half
and so on of all items is merged first.
-/

namespace RowQuery.Sorting

variable {α : Type} (less : α → α → Bool)

/-- Neighbouring items, and whether they are in order among themselves. -/
structure Run (α : Type) where
  items : List α
  isSorted : Bool

/-! ### Cutting -/

/-- How many items go on with a piece after its last item. -/
def continues (goesOn : α → α → Bool) (last : α) : List α → Nat
  | [] => 0
  | x :: rest => if goesOn last x then continues goesOn x rest + 1 else 0

/-- The length of the piece at the start that is in order, or strictly in reverse, and whether it is
in reverse. -/
def firstPiece : List α → Nat × Bool
  | x :: y :: rest =>
    if less y x then (continues (fun last y => less y last) y rest + 2, true)
    else (continues (fun last y => !less y last) y rest + 2, false)
  | xs => (xs.length, false)

/-- How runs are cut: the blocks of those that are put in order at once, and whether all are. -/
structure Cutting where
  blocks : Blocks
  eager : Bool

/-- The run at the start. A piece of the length `long` is long enough to be one. -/
def firstRun? (c : Cutting) (long : Nat) (xs : List α) : Option (Run α) :=
  let (n, falls) := firstPiece less xs
  if long ≤ n then some ⟨if falls then (xs.take n).reverse else xs.take n, true⟩
  else if c.eager then (sortFew? less c.blocks (xs.take fewItems)).map fun items => ⟨items, true⟩
  else some ⟨xs.take long, false⟩

/-- All runs. Each has an item at least, so the number of items is fuel enough. -/
def runs? (c : Cutting) (long : Nat) : Nat → List α → Option (List (Run α))
  | 0, _ | _, [] => some []
  | fuel + 1, xs => do
    let run ← firstRun? less c long xs
    let more ← runs? c long fuel (xs.drop run.items.length)
    some (run :: more)

/-- How long a piece has to be to be a run: half of few items, 64, or about the square root of very
many. -/
def longPiece (n : Nat) : Nat :=
  if n ≤ 4096 then min (n - n / 2) 64
  else
    let half := (n.log2 + 1) / 2
    (2 ^ half + n / 2 ^ half) / 2

/-! ### Merging -/

variable (settle : List α → Option (List α))

/-- The items of a run in order. -/
def Run.sorted? (r : Run α) : Option (List α) := if r.isSorted then some r.items else settle r.items

/-- Two neighbouring runs as one. Two that are not in order are only put together. -/
def Run.join? (left right : Run α) : Option (Run α) :=
  if left.isSorted || right.isSorted then do
    let xs ← left.sorted? settle
    let ys ← right.sorted? settle
    some ⟨merge less xs ys, true⟩
  else some ⟨left.items ++ right.items, false⟩

/-- A run that waits for its right neighbour, with the level of the boundary between them. -/
abbrev Waiting (α : Type) := Run α × Nat

/-- Joins a run with those that wait before it, the nearest first, as far as their boundaries are
not above a level. -/
def collapse? (level : Nat) : List (Waiting α) → Run α → Option (List (Waiting α) × Run α)
  | [], run => some ([], run)
  | (left, l) :: waiting, run =>
    if l ≤ level then do
      let run ← left.join? less settle run
      collapse? level waiting run
    else some ((left, l) :: waiting, run)

/-- Joins a run with all those that wait before it. -/
def collapseAll? : List (Waiting α) → Run α → Option (Run α)
  | [], run => some run
  | (left, _) :: waiting, run => do
    let run ← left.join? less settle run
    collapseAll? waiting run

/-- The level of the boundary at `middle` between runs that reach from `start` to `stop`: how many
of the last binary digits it takes to tell the middles of the two runs apart, as parts of all `n`
items. -/
def boundaryLevel (n start middle stop : Nat) : Nat :=
  let scale := (2 ^ 62 + n - 1) / n
  let difference := (scale * (start + middle)) ^^^ (scale * (middle + stop))
  if difference = 0 then 0 else difference.log2 + 1

/-- Joins runs with those that wait before them; the first one begins at `start`. -/
def joinRuns? (n : Nat) (waiting : List (Waiting α)) (run : Run α) (start : Nat) :
    List (Run α) → Option (Run α)
  | [] => collapseAll? less settle waiting run
  | next :: rest => do
    let middle := start + run.items.length
    let level := boundaryLevel n start middle (middle + next.items.length)
    let (waiting, joined) ← collapse? less settle level waiting run
    joinRuns? n ((joined, level) :: waiting) next middle rest

/-- The items in order, by runs. -/
def sortByRuns? (c : Cutting) (xs : List α) : Option (List α) := do
  match ← runs? less c (longPiece xs.length) xs.length xs with
  | [] => some []
  | run :: rest =>
    let all ← joinRuns? less settle xs.length [] run 0 rest
    all.sorted? settle

end RowQuery.Sorting
