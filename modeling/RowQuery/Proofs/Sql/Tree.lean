import Mathlib.Tactic.Common
import RowQuery.Sql.Condition
/-!
The value of a condition.

A tree is read as a Boolean expression over the values of its leaves; brackets change nothing. A
filter without a condition holds of every row, so no tree at all reads as true.
-/

namespace RowQuery.Sql.Tree

variable {τ σ : Type}

mutual

/-- The value of a tree whose leaves have values. -/
def value (truth : τ → Bool) : Tree τ → Bool
  | .test t => truth t
  | .group c => value truth c
  | .all cs => valueAll truth cs
  | .any cs => valueAny truth cs

/-- Whether all of some trees are true. -/
def valueAll (truth : τ → Bool) : List (Tree τ) → Bool
  | [] => true
  | c :: rest => value truth c && valueAll truth rest

/-- Whether one of some trees is true. -/
def valueAny (truth : τ → Bool) : List (Tree τ) → Bool
  | [] => false
  | c :: rest => value truth c || valueAny truth rest

end

mutual

/-- Applies a function to every leaf. -/
def map (g : τ → σ) : Tree τ → Tree σ
  | .test t => .test (g t)
  | .group c => .group (map g c)
  | .all cs => .all (mapAll g cs)
  | .any cs => .any (mapAll g cs)

/-- `map` on every tree. -/
def mapAll (g : τ → σ) : List (Tree τ) → List (Tree σ)
  | [] => []
  | c :: rest => map g c :: mapAll g rest

end

mutual

/-- The leaves from left to right. -/
def leaves : Tree τ → List τ
  | .test t => [t]
  | .group c => leaves c
  | .all cs => leavesAll cs
  | .any cs => leavesAll cs

/-- The leaves of some trees. -/
def leavesAll : List (Tree τ) → List τ
  | [] => []
  | c :: rest => leaves c ++ leavesAll rest

end

/-- The value of a tree that may be missing. -/
def reads (truth : τ → Bool) : Option (Tree τ) → Bool
  | none => true
  | some c => c.value truth

theorem valueAll_eq (truth : τ → Bool) (cs : List (Tree τ)) :
    valueAll truth cs = cs.all (value truth) := by
  induction cs with
  | nil => rfl
  | cons c rest ih => rw [valueAll, ih, List.all_cons]

theorem valueAny_eq (truth : τ → Bool) (cs : List (Tree τ)) :
    valueAny truth cs = cs.any (value truth) := by
  induction cs with
  | nil => rfl
  | cons c rest ih => rw [valueAny, ih, List.any_cons]

theorem mapAll_eq (g : τ → σ) (cs : List (Tree τ)) : mapAll g cs = cs.map (map g) := by
  induction cs with
  | nil => rfl
  | cons c rest ih => rw [mapAll, ih, List.map_cons]

theorem leavesAll_eq (cs : List (Tree τ)) : leavesAll cs = cs.flatMap leaves := by
  induction cs with
  | nil => rfl
  | cons c rest ih => rw [leavesAll, ih, List.flatMap_cons]

theorem forall_leavesAll_cons {P : τ → Prop} {c : Tree τ} {cs : List (Tree τ)} :
    (∀ x ∈ leavesAll (c :: cs), P x) ↔ (∀ x ∈ c.leaves, P x) ∧ ∀ x ∈ leavesAll cs, P x := by
  rw [leavesAll, List.forall_mem_append]

section
variable {truth truth' : τ → Bool}

mutual

/-- The value of a tree depends on the values of its leaves only. -/
theorem value_congr : (c : Tree τ) → (∀ x ∈ c.leaves, truth x = truth' x) →
    c.value truth = c.value truth'
  | .test t, h => h t (List.mem_singleton_self t)
  | .group c, h => value_congr c h
  | .all cs, h => valueAll_congr cs h
  | .any cs, h => valueAny_congr cs h

theorem valueAll_congr : (cs : List (Tree τ)) → (∀ x ∈ leavesAll cs, truth x = truth' x) →
    valueAll truth cs = valueAll truth' cs
  | [], _ => rfl
  | c :: rest, h => by
    simp only [leavesAll, List.mem_append, or_imp, forall_and] at h
    rw [valueAll, valueAll, value_congr c h.1, valueAll_congr rest h.2]

theorem valueAny_congr : (cs : List (Tree τ)) → (∀ x ∈ leavesAll cs, truth x = truth' x) →
    valueAny truth cs = valueAny truth' cs
  | [], _ => rfl
  | c :: rest, h => by
    simp only [leavesAll, List.mem_append, or_imp, forall_and] at h
    rw [valueAny, valueAny, value_congr c h.1, valueAny_congr rest h.2]

end

theorem reads_congr {c : Option (Tree τ)} (h : ∀ t ∈ c, ∀ x ∈ t.leaves, truth x = truth' x) :
    reads truth c = reads truth' c := by
  cases c with
  | none => rfl
  | some t => exact value_congr t (h t rfl)

end

section
variable (g : τ → σ)

mutual

theorem leaves_map : (c : Tree τ) → (c.map g).leaves = c.leaves.map g
  | .test _ => rfl
  | .group c => leaves_map c
  | .all cs => leavesAll_mapAll cs
  | .any cs => leavesAll_mapAll cs

theorem leavesAll_mapAll : (cs : List (Tree τ)) → leavesAll (mapAll g cs) = (leavesAll cs).map g
  | [] => rfl
  | c :: rest => by
    rw [mapAll, leavesAll, leavesAll, leaves_map c, leavesAll_mapAll rest, List.map_append]

end
end

/-! ### Brackets -/

@[simp]
theorem value_bracket (truth : τ → Bool) (c : Tree τ) : c.bracket.value truth = c.value truth := by
  cases c <;> simp [bracket, value]

@[simp]
theorem map_bracket (g : τ → σ) (c : Tree τ) : c.bracket.map g = (c.map g).bracket := by
  cases c <;> simp [bracket, map]

@[simp]
theorem leaves_bracket (c : Tree τ) : c.bracket.leaves = c.leaves := by
  cases c <;> simp [bracket, leaves]

@[simp]
theorem reads_map_bracket (truth : τ → Bool) (c : Option (Tree τ)) :
    reads truth (c.map bracket) = reads truth c := by
  cases c <;> simp [reads]

/-! ### Joined trees -/

theorem reads_all? (truth : τ → Bool) (cs : List (Tree τ)) :
    reads truth (all? cs) = cs.all (value truth) := by
  match cs with
  | [] => rfl
  | [c] => simp [all?, reads]
  | c :: d :: rest => simp only [all?, reads, value, valueAll_eq]

/-- Read as true, one of no trees is not the same as no tree at all. -/
theorem reads_any? (truth : τ → Bool) {cs : List (Tree τ)} (h : cs ≠ []) :
    reads truth (any? cs) = cs.any (value truth) := by
  match cs with
  | [] => exact absurd rfl h
  | [c] => simp [any?, reads]
  | c :: d :: rest => simp only [any?, reads, value, valueAny_eq]

theorem map_all? (g : τ → σ) (cs : List (Tree τ)) :
    (all? cs).map (map g) = all? (cs.map (map g)) := by
  match cs with
  | [] => rfl
  | [c] => rfl
  | c :: d :: rest => simp [all?, map, mapAll_eq]

theorem map_any? (g : τ → σ) (cs : List (Tree τ)) :
    (any? cs).map (map g) = any? (cs.map (map g)) := by
  match cs with
  | [] => rfl
  | [c] => rfl
  | c :: d :: rest => simp [any?, map, mapAll_eq]

theorem leaves_of_all? {cs : List (Tree τ)} {c : Tree τ} (h : all? cs = some c) :
    c.leaves = cs.flatMap leaves := by
  match cs with
  | [] => cases h
  | [d] => cases h; simp
  | d :: e :: rest => cases h; rw [leaves, leavesAll_eq]

theorem leaves_of_any? {cs : List (Tree τ)} {c : Tree τ} (h : any? cs = some c) :
    c.leaves = cs.flatMap leaves := by
  match cs with
  | [] => cases h
  | [d] => cases h; simp
  | d :: e :: rest => cases h; rw [leaves, leavesAll_eq]

end RowQuery.Sql.Tree
