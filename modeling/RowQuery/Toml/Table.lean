import RowQuery.Json.Value
/-!
The tables of a TOML document while it is read.

A table may come from a header, from a header of a table below it, or from a dotted key. A header
opens a table once, also one that only tables below it have made so far. A dotted key may go through
tables that no header has opened, but puts its value only into one that dotted keys have made.
-/

namespace RowQuery.Toml

/-- Where a table comes from. -/
inductive Origin where
  | header
  | headerBelow
  | dottedKey
deriving DecidableEq, Repr

/-- What stands under a key. -/
inductive Node where
  /-- A value, closed to further keys. -/
  | leaf (v : Json.Value)
  | table (origin : Origin) (entries : List (String × Node))
  /-- An array of tables, the last one first. -/
  | tables (tables : List (List (String × Node)))

/-- The entries of a table, in the order of the document. -/
abbrev Entries := List (String × Node)

namespace Entries

/-- What stands under a key. -/
def at? (entries : Entries) (key : String) : Option Node :=
  (List.find? (fun e => e.1 == key) entries).map (·.2)

/-- Puts a node under a key, in the place of the old one or at the end. -/
def put (key : String) (node : Node) : Entries → Entries
  | [] => [(key, node)]
  | (k, n) :: rest => if k = key then (k, node) :: rest else (k, n) :: put key node rest

/-- Puts a value under a new key, if values may be put here. -/
def add? (here : Bool) (key : String) (v : Json.Value) (entries : Entries) : Option Entries :=
  if here && (entries.at? key).isNone then some (entries ++ [(key, .leaf v)]) else none

/-- Puts a value under a dotted key. -/
def assign? (here : Bool) (key : String) (v : Json.Value) : List String → Entries → Option Entries
  | [], entries => entries.add? here key v
  | k :: path, entries =>
    match entries.at? k with
    | none => (assign? true key v path []).map fun inner => entries.put k (.table .dottedKey inner)
    | some (.table .dottedKey inner) =>
      (assign? true key v path inner).map fun inner => entries.put k (.table .dottedKey inner)
    | some (.table .headerBelow inner) =>
      (assign? false key v path inner).map fun inner => entries.put k (.table .headerBelow inner)
    | some (.tables (last :: before)) =>
      (assign? false key v path last).map fun last => entries.put k (.tables (last :: before))
    | some (.table .header _) | some (.tables []) | some (.leaf _) => none

/-- Changes the table that a header's path leads to: in an array of tables the last one. Tables that
are missing on the way are made. -/
def change? (f : Entries → Option Entries) : List String → Entries → Option Entries
  | [], entries => f entries
  | k :: path, entries =>
    match entries.at? k with
    | none => (change? f path []).map fun inner => entries.put k (.table .headerBelow inner)
    | some (.table origin inner) =>
      (change? f path inner).map fun inner => entries.put k (.table origin inner)
    | some (.tables (last :: before)) =>
      (change? f path last).map fun last => entries.put k (.tables (last :: before))
    | some (.tables []) | some (.leaf _) => none

/-- Opens the table of a header's last key. -/
def openTable? (key : String) (entries : Entries) : Option Entries :=
  match entries.at? key with
  | none => some (entries.put key (.table .header []))
  | some (.table .headerBelow inner) => some (entries.put key (.table .header inner))
  | some _ => none

/-- Adds a table to the array of tables of a header's last key. -/
def openItem? (key : String) (entries : Entries) : Option Entries :=
  match entries.at? key with
  | none => some (entries.put key (.tables [[]]))
  | some (.tables ts) => some (entries.put key (.tables ([] :: ts)))
  | some _ => none

end Entries

mutual

/-- The value of a node. -/
def Node.toJson : Node → Json.Value
  | .leaf v => v
  | .table _ entries => .obj (entriesJson entries)
  | .tables ts => .arr (tablesJson ts).reverse

/-- The members of a table. -/
def entriesJson : List (String × Node) → List (String × Json.Value)
  | [] => []
  | (key, n) :: rest => (key, n.toJson) :: entriesJson rest

/-- The values of some tables. -/
def tablesJson : List (List (String × Node)) → List Json.Value
  | [] => []
  | entries :: rest => .obj (entriesJson entries) :: tablesJson rest

end

/-- A pair of a document: a dotted key, given as the keys before its last one and that one, and its
value. -/
structure Pair where
  path : List String
  key : String
  value : Json.Value

/-- Puts the value of a pair under its key. -/
def Entries.assignPair? (p : Pair) (entries : Entries) : Option Entries :=
  assign? true p.key p.value p.path entries

/-- The value of a table that is written in one line; nothing can be added to it later. -/
def inlineTable? (pairs : List Pair) : Option Json.Value :=
  (pairs.foldlM (fun entries p => Entries.assignPair? p entries) []).map fun entries =>
    .obj (entriesJson entries)

end RowQuery.Toml
