import Mathlib.Tactic.Common
import RowQuery.Json.Value
/-!
Equality of JSON values can be decided.
-/

namespace RowQuery.Json.Value

mutual

/-- Whether two values are equal. -/
def isEqual : Value → Value → Bool
  | .null, .null => true
  | .bool a, .bool b => decide (a = b)
  | .num a, .num b => decide (a = b)
  | .str a, .str b => decide (a = b)
  | .arr as, .arr bs => areEqual as bs
  | .obj as, .obj bs => areEqualMembers as bs
  | _, _ => false

/-- Whether two lists of values are equal. -/
def areEqual : List Value → List Value → Bool
  | [], [] => true
  | a :: as, b :: bs => isEqual a b && areEqual as bs
  | _, _ => false

/-- Whether two lists of members are equal. -/
def areEqualMembers : List (String × Value) → List (String × Value) → Bool
  | [], [] => true
  | (name, a) :: as, (name', b) :: bs =>
    decide (name = name') && isEqual a b && areEqualMembers as bs
  | _, _ => false

end

mutual

theorem isEqual_iff : ∀ a b : Value, isEqual a b = true ↔ a = b
  | .null, b => by cases b <;> simp [isEqual]
  | .bool _, b => by cases b <;> simp [isEqual]
  | .num _, b => by cases b <;> simp [isEqual]
  | .str _, b => by cases b <;> simp [isEqual]
  | .arr as, b => by
    cases b with
    | arr bs => rw [isEqual, areEqual_iff as bs, Value.arr.injEq]
    | null | bool | num | str | obj => simp [isEqual]
  | .obj as, b => by
    cases b with
    | obj bs => rw [isEqual, areEqualMembers_iff as bs, Value.obj.injEq]
    | null | bool | num | str | arr => simp [isEqual]

theorem areEqual_iff : ∀ as bs : List Value, areEqual as bs = true ↔ as = bs
  | [], bs => by cases bs <;> simp [areEqual]
  | a :: as, bs => by
    cases bs with
    | nil => simp [areEqual]
    | cons b bs => rw [areEqual, Bool.and_eq_true, isEqual_iff a b, areEqual_iff as bs,
        List.cons.injEq]

theorem areEqualMembers_iff : ∀ as bs : List (String × Value),
    areEqualMembers as bs = true ↔ as = bs
  | [], bs => by cases bs <;> simp [areEqualMembers]
  | (name, a) :: as, bs => by
    cases bs with
    | nil => simp [areEqualMembers]
    | cons b bs =>
      obtain ⟨name', b⟩ := b
      rw [areEqualMembers, Bool.and_eq_true, Bool.and_eq_true, decide_eq_true_eq, isEqual_iff a b,
        areEqualMembers_iff as bs, List.cons.injEq, Prod.mk.injEq]

end

instance : DecidableEq Value := fun a b => decidable_of_iff _ (isEqual_iff a b)

end RowQuery.Json.Value
