import RowQuery.Text.Character
/-!
Universally unique identifiers as texts.

An identifier is written as 32 hexadecimal digits in five groups with dashes between them. It may
also be written without the dashes, in braces, or after the name of its scheme.
-/

namespace RowQuery.Uuid

/-- The sizes of the groups. -/
def groupSizes : List Nat := [8, 4, 4, 4, 12]

/-- The digits of groups of these sizes with dashes between them. -/
def grouped? : List Nat → List Char → Option (List Char)
  | [], s => if s.isEmpty then some [] else none
  | [n], s => if s.length = n then some s else none
  | n :: sizes, s =>
    match s.drop n with
    | '-' :: rest => (grouped? sizes rest).map fun ds => s.take n ++ ds
    | _ => none

/-- What a dash form may stand behind, in either case. -/
def scheme : List Char := "urn:uuid:".toList

/-- The digits of any of the forms. -/
def digits? (s : List Char) : Option (List Char) :=
  if s.length = 32 then some s
  else if s.length = 36 then grouped? groupSizes s
  else if s.length = 38 ∧ s.head? = some '{' ∧ s.getLast? = some '}' then
    grouped? groupSizes (s.drop 1).dropLast
  else if s.length = 45 ∧ scheme.isPrefixOf (s.map Char.toLower) then
    grouped? groupSizes (s.drop scheme.length)
  else none

/-- Digits in groups of these sizes, in small letters. -/
def groups : List Nat → List Char → List Char
  | [], _ => []
  | [n], s => (s.take n).map Char.toLower
  | n :: sizes, s => (s.take n).map Char.toLower ++ '-' :: groups sizes (s.drop n)

/-- Reads an identifier: its text with dashes and in small letters. -/
def read? (text : String) : Option String := do
  let ds ← digits? text.toList
  if ds.all fun c => (Hex.value? c).isSome then some (String.ofList (groups groupSizes ds))
  else none

end RowQuery.Uuid
