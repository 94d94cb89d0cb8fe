import Mathlib.Tactic.Common
import RowQuery.Sql.Condition
import RowQuery.Text.Casing
/-!
What tests mean to the database.

A test is true, false or unknown. A comparison with null is unknown; a list asks for one of its
equalities and a range for both of its comparisons, and the negated forms negate the answer, which
leaves the unknown unknown. Patterns are read straight from their text.
-/

namespace RowQuery.Sql

/-- The answer to a test. -/
inductive Truth where
  | holds
  | fails
  | unknown
deriving DecidableEq, Repr

namespace Truth

/-- A certain answer. -/
def ofBool (b : Bool) : Truth := if b then holds else fails

/-- Negation. -/
def not : Truth → Truth
  | holds => fails
  | fails => holds
  | unknown => unknown

/-- Conjunction: false as soon as one side is. -/
def and : Truth → Truth → Truth
  | fails, _ | _, fails => fails
  | holds, holds => holds
  | _, _ => unknown

/-- Disjunction: true as soon as one side is. -/
def or : Truth → Truth → Truth
  | holds, _ | _, holds => holds
  | fails, fails => fails
  | _, _ => unknown

/-- The disjunction of some answers. -/
def any : List Truth → Truth
  | [] => fails
  | t :: rest => t.or (any rest)

/-- The answer or its negation. -/
def negateIf (negated : Bool) (t : Truth) : Truth := if negated then t.not else t

end Truth

/-- Whether the value is null. -/
def Param.isNull : Param → Bool
  | .null => true
  | _ => false

/-- The order of two values of one kind. Null has no order, and values of two kinds have none. -/
def Param.order? : Param → Param → Option Ordering
  | .bool a, .bool b => some (compare a b)
  | .int a, .int b => some (compare a b)
  | .float a, .float b => some (a.compare b)
  | .text a, .text b => some (compare a b)
  | _, _ => none

/-- Whether a text is like a pattern: `%` stands for any text, `_` for one character, a backslash
takes the next character as it is. A pattern that ends in a lone backslash is like nothing. -/
def likes (same : Char → Char → Bool) : List Char → List Char → Bool
  | [], text => text.isEmpty
  | ['\\'], _ => false
  | '\\' :: _ :: _, [] => false
  | '\\' :: c :: pattern, d :: text => same c d && likes same pattern text
  | '%' :: pattern, text => text.tails.any (likes same pattern)
  | _ :: _, [] => false
  | '_' :: pattern, _ :: text => likes same pattern text
  | c :: pattern, d :: text => same c d && likes same pattern text

/-- The answer to a comparison that wants an order. -/
def orderTruth (wanted : Ordering → Bool) (x y : Param) : Truth :=
  match x.order? y with
  | some order => .ofBool (wanted order)
  | none => .unknown

/-- The answer to a comparison with a pattern. -/
def likeTruth (same : Char → Char → Bool) : Param → Param → Truth
  | .text text, .text pattern => .ofBool (likes same pattern.toList text.toList)
  | _, _ => .unknown

/-- The answer to a comparison. -/
def Comparator.truth (x y : Param) : Comparator → Truth
  | .eq => orderTruth Ordering.isEq x y
  | .ne => (orderTruth Ordering.isEq x y).not
  | .gt => orderTruth Ordering.isGT x y
  | .ge => orderTruth Ordering.isGE x y
  | .lt => orderTruth Ordering.isLT x y
  | .le => orderTruth Ordering.isLE x y
  | .like => likeTruth (fun a b => a == b) x y
  | .notLike => (likeTruth (fun a b => a == b) x y).not
  | .ilike => likeTruth Casing.same x y
  | .notIlike => (likeTruth Casing.same x y).not

/-- The value of a bound value; `convert` is the database's cast to a type. -/
def Bound.eval (convert : String → Param → Param) (b : Bound) : Param :=
  match b.cast with
  | some type => convert type b.value
  | none => b.value

/-- The answer to a test on a row, whose columns hold the values that `cell` tells. What a custom
test means is not said here. -/
def Test.truth (convert : String → Param → Param) (cell : Column → Param) : Test → Truth
  | .compare op column b => op.truth (cell column) (b.eval convert)
  | .inList negated column bs =>
    .negateIf negated (.any (bs.map fun b => Comparator.eq.truth (cell column) (b.eval convert)))
  | .between negated column lower upper =>
    .negateIf negated ((Comparator.ge.truth (cell column) (lower.eval convert)).and
      (Comparator.le.truth (cell column) (upper.eval convert)))
  | .isNull negated column => .ofBool ((cell column).isNull != negated)
  | .isBool negated column b => .ofBool ((cell column == .bool b) != negated)
  | .custom _ _ => .unknown

namespace Truth

@[simp]
theorem ofBool_eq_holds {b : Bool} : ofBool b = holds ↔ b = true := by cases b <;> simp [ofBool]

@[simp]
theorem not_ofBool (b : Bool) : (ofBool b).not = ofBool !b := by cases b <;> rfl

@[simp]
theorem negateIf_ofBool (negated b : Bool) :
    negateIf negated (ofBool b) = ofBool (b != negated) := by
  cases negated <;> cases b <;> rfl

@[simp]
theorem and_ofBool (a b : Bool) : (ofBool a).and (ofBool b) = ofBool (a && b) := by
  cases a <;> cases b <;> rfl

theorem any_eq_holds {ts : List Truth} : any ts = holds ↔ holds ∈ ts := by
  induction ts with
  | nil => simp [any]
  | cons t rest ih =>
    rw [any, List.mem_cons, ← ih]
    cases t <;> cases any rest <;> simp [or]

theorem any_eq_fails {ts : List Truth} : any ts = fails ↔ ∀ t ∈ ts, t = fails := by
  induction ts with
  | nil => simp [any]
  | cons t rest ih =>
    rw [any, List.forall_mem_cons, ← ih]
    cases t <;> cases any rest <;> simp [or]

end Truth
end RowQuery.Sql
