import RowQuery.Handler.Basic
import RowQuery.Json.Writer
/-!
The handler `jsonb_contains`: containment in a JSON array.

A scalar stands for the array of itself. In memory every wanted item has to be an item of the stored
array.
-/

namespace RowQuery.Contains

/-- The items to look for. -/
def wanted : Filter.Value → Except Rejection (List Json.Value)
  | .null | .range _ _ => .error .notScalarOrArray
  | .list items => .ok (Filter.Value.toJsonItems items)
  | v => .ok [v.toJson]

/-- The handler. -/
def handler : Handler where
  test column v _ := do
    let items ← wanted v
    return .custom ""
      [(.column column, " @> CAST("),
        (.bound ⟨.text (Json.Value.arr items).text, none⟩, " AS JSONB)")]
  judge actual v _ :=
    match wanted v with
    | .error _ => .undecided
    | .ok items =>
      match actual.items? with
      | none => .holds false
      | some stored => .holds (items.all fun w => stored.any fun x => x.same w)

end RowQuery.Contains
