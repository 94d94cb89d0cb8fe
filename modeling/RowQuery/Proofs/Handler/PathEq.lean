import RowQuery.Proofs.Filter.Tests
import RowQuery.Proofs.Sql.Truth
import RowQuery.Text.Integer
/-!
Equality with a value inside a JSON column, in memory and in the database.

The database walks down objects by key and arrays by index, takes what it finds for a text and
compares that with the bound text. In memory the value that is found is compared as JSON. The two
find the same value, as no segment of a path reads as an index, but they do not judge it alike: a
number or a truth value and the text that reads as it are equal to the database only, null and null
are equal in memory only.
-/

namespace RowQuery

/-! ### Texts of integers -/

theorem repr_injective {m n : Nat} (h : m.repr = n.repr) : m = n := by
  have hdigits : Nat.toDigits 10 m = Nat.toDigits 10 n := by
    simpa only [Nat.toList_repr] using congrArg String.toList h
  have hread := congrArg (fun ds => Nat.ofDigitChars 10 ds 0) hdigits
  simpa only [Nat.ofDigitChars_ten_toDigits] using hread

theorem isDigit_or_minus_of_mem_toString (i : Int) :
    ∀ c ∈ (toString i).toList, c.isDigit = true ∨ c = '-' := by
  intro c hc
  cases i with
  | ofNat n => exact .inl (Sql.isDigit_of_mem_repr n c hc)
  | negSucc n =>
    have hc : c ∈ ("-" ++ (n + 1).repr).toList := hc
    rw [String.toList_append, List.mem_append] at hc
    exact hc.elim (fun h => .inr (List.mem_singleton.1 h))
      fun h => .inl (Sql.isDigit_of_mem_repr _ c h)

theorem repr_ne_minus_append (n : Nat) (s : String) : n.repr ≠ "-" ++ s := by
  intro h
  have hminus : '-' ∈ n.repr.toList := by
    rw [h, String.toList_append]
    exact List.mem_append_left _ (by decide)
  exact absurd (Sql.isDigit_of_mem_repr n _ hminus) (by decide)

theorem toString_int_injective {i j : Int} (h : toString i = toString j) : i = j := by
  cases i with
  | ofNat m =>
    cases j with
    | ofNat n => exact congrArg Int.ofNat (repr_injective h)
    | negSucc n => exact absurd h (repr_ne_minus_append m _)
  | negSucc m =>
    cases j with
    | ofNat n => exact absurd h.symm (repr_ne_minus_append n _)
    | negSucc n =>
      have h : "-" ++ (m + 1).repr = "-" ++ (n + 1).repr := h
      exact congrArg Int.negSucc (Nat.succ.inj (repr_injective (String.append_right_inj _ |>.1 h)))

namespace PathEq

/-! ### What the database finds -/

/-- The item of an array at an index, which counts from the end if it is negative. -/
def item? (items : List Json.Value) (i : Int) : Option Json.Value :=
  if 0 ≤ i then items[i.toNat]?
  else if -i ≤ items.length then items[(items.length + i).toNat]?
  else none

/-- One step of the database: the member of an object under a key, or the item of an array at the
index of 32 bits that the key reads as. -/
def step? (key : String) : Json.Value → Option Json.Value
  | .obj members => Dict.find? members key
  | .arr items =>
    match Integer.readInt (2 ^ 31 - 1) key.toList with
    | .ok i => item? items i
    | .error _ => none
  | _ => none

/-- The value that the database finds along a path. -/
def found? : List String → Json.Value → Option Json.Value
  | [], v => some v
  | key :: rest, v => (step? key v).bind (found? rest)

/-- The text that the database makes of null, a truth value, an integer or a text; null gives
null. -/
def scalarText? : Json.Value → Option Sql.Param
  | .null => some .null
  | .bool b => some (.text (if b then "true" else "false"))
  | .num (.int i) => some (.text (toString i))
  | .str s => some (.text s)
  | .num (.float _) | .arr _ | .obj _ => none

/-- The text that the database extracts along a path, null where nothing is found. -/
def columnText? (keys : List String) (stored : Json.Value) : Option Sql.Param :=
  match found? keys stored with
  | none => some .null
  | some v => scalarText? v

/-- A plain identifier reads as no index. -/
theorem readInt_of_isSafe {key : String} (h : isSafe key = true) (bound : Nat) :
    Integer.readInt bound key.toList = .error .invalidDigit := by
  obtain ⟨c, rest, hkey, hdigit, hword⟩ := wordChars_of_isSafe h
  have hc : isWordChar c = true := hword c (hkey ▸ List.mem_cons_self)
  have hminus : c ≠ '-' := by rintro rfl; exact absurd hc (by decide)
  have hplus : c ≠ '+' := by rintro rfl; exact absurd hc (by decide)
  rw [hkey]
  unfold Integer.readInt
  split
  · rename_i heq; cases heq
  · rename_i heq; exact absurd (List.cons.inj heq).1 hminus
  · rename_i heq; exact absurd (List.cons.inj heq).1 hplus
  · simp [Integer.readMagnitude, Integer.readDigits, hdigit, Except.map]

theorem step?_of_isSafe {key : String} (h : isSafe key = true) (v : Json.Value) :
    step? key v = v.member? key := by
  cases v with
  | arr items => rw [step?, readInt_of_isSafe h]; rfl
  | null | bool | num | str | obj => rfl

/-- Along a path of plain identifiers the database finds what is found in memory. -/
theorem found?_eq_valueAt? : ∀ {keys : List String}, (∀ k ∈ keys, isSafe k = true) →
    ∀ v, found? keys v = valueAt? keys v
  | [], _, _ => rfl
  | key :: rest, h, v => by
    rw [List.forall_mem_cons] at h
    rw [found?, valueAt?, step?_of_isSafe h.1]
    exact congrArg _ (funext (found?_eq_valueAt? h.2))

/-! ### What the two compare -/

variable {x y : Json.Value} {p q : Sql.Param}

theorem extracted?_of_scalarText? {v : Filter.Value} (h : scalarText? v.toJson = some p) :
    extracted? v = some p := by
  cases v with
  | float | list | range => cases h
  | null | bool | int | str => exact h

/-- The name of a truth value is the text of no integer. -/
theorem toString_int_ne_bool (i : Int) (b : Bool) :
    toString i ≠ if b then "true" else "false" := by
  intro h
  have hletter : (if b then 't' else 'f') ∈ (toString i).toList := by
    rw [h]
    cases b <;> decide
  have hchar := isDigit_or_minus_of_mem_toString i _ hletter
  revert hchar
  cases b <;> decide

/-- Two texts, or two values that are none, are equal if the database makes one text of them. -/
theorem eq_of_scalarText? (hx : scalarText? x = some p) (hy : scalarText? y = some p)
    (hkind : x.text?.isSome = y.text?.isSome) : x = y := by
  rw [← hx] at hy
  cases x with
  | null =>
    cases y with
    | null => rfl
    | num n => cases n <;> cases hy
    | bool | str | arr | obj => cases hy
  | str s =>
    cases y with
    | str t => exact congrArg Json.Value.str (Sql.Param.text.inj (Option.some.inj hy)).symm
    | null | bool | num | arr | obj => cases hkind
  | bool a =>
    cases y with
    | bool b =>
      have hname := Sql.Param.text.inj (Option.some.inj hy)
      cases a <;> cases b <;> first | rfl | exact absurd hname (by decide)
    | num n =>
      cases n with
      | int i => exact absurd (Sql.Param.text.inj (Option.some.inj hy)) (toString_int_ne_bool i a)
      | float => cases hy
    | str => cases hkind
    | null | arr | obj => cases hy
  | num n =>
    cases n with
    | float => cases hx
    | int i =>
      cases y with
      | bool b =>
        exact absurd (Sql.Param.text.inj (Option.some.inj hy)).symm (toString_int_ne_bool i b)
      | num m =>
        cases m with
        | int j =>
          exact congrArg Json.Value.int
            (toString_int_injective (Sql.Param.text.inj (Option.some.inj hy))).symm
        | float => cases hy
      | str => cases hkind
      | null | arr | obj => cases hy
  | arr | obj => cases hx

/-- Scalars are the same as JSON if they are equal. -/
theorem same_iff (hx : scalarText? x = some p) : x.same y = true ↔ x = y := by
  cases x with
  | null => cases y <;> simp [Json.Value.same]
  | bool a => cases y <;> simp [Json.Value.same]
  | str s => cases y <;> simp [Json.Value.same]
  | num n =>
    cases n with
    | float => cases hx
    | int i =>
      cases y with
      | num m => cases m <;> simp [Json.Value.same, Json.Number.same]
      | null | bool | str | arr | obj => simp [Json.Value.same]
  | arr | obj => cases hx

/-- Every text that the database makes is there, unless it is of null. -/
theorem scalarText?_cases (hx : scalarText? x = some p) :
    (x = .null ∧ p = .null) ∨ (x ≠ .null ∧ ∃ s, p = .text s) := by
  cases x with
  | null => exact .inl ⟨rfl, (Option.some.inj hx).symm⟩
  | bool | str => exact .inr ⟨nofun, _, (Option.some.inj hx).symm⟩
  | num n =>
    cases n with
    | float => cases hx
    | int => exact .inr ⟨nofun, _, (Option.some.inj hx).symm⟩
  | arr | obj => cases hx

/-- To the database two such texts are equal if they are there and are one. -/
theorem truth_holds_iff (hx : scalarText? x = some p) (hy : scalarText? y = some q) :
    Sql.Comparator.eq.truth p q = .holds ↔ p = q ∧ x ≠ .null := by
  obtain ⟨rfl, rfl⟩ | ⟨hxne, s, rfl⟩ := scalarText?_cases hx
  · simp [Sql.Comparator.truth, Sql.orderTruth, Sql.Param.order?]
  · obtain ⟨rfl, rfl⟩ | ⟨-, t, rfl⟩ := scalarText?_cases hy
    · simp [Sql.Comparator.truth, Sql.orderTruth, Sql.Param.order?]
    · simp [Sql.Comparator.truth, Sql.orderTruth, Sql.Param.order?, hxne]

theorem judge_eq {config : Json.Value} {keys : List String} (hpath : path config = .ok keys)
    (actual : Json.Value) (v : Filter.Value) :
    handler.judge actual v config
      = .holds ((valueAt? keys actual).elim false fun found => found.same v.toJson) := by
  simp only [handler, hpath]
  cases valueAt? keys actual <;> rfl

/-- Where the answer in memory and that of the database come apart. In memory alone null at the path
is equal to null; to the database alone a number or a truth value is equal to the text that reads as
it, whichever of the two is stored. -/
theorem judge_truth_differ_iff {config : Json.Value} {keys : List String}
    (hpath : path config = .ok keys) {v : Filter.Value} {bound : Sql.Param}
    (hbound : scalarText? v.toJson = some bound) {actual : Json.Value} {stored : Sql.Param}
    (hstored : columnText? keys actual = some stored) (column : Sql.Column) :
    handler.test column v config
        = .ok (.custom "" [(.column column, " #>> '\x7b" ++ ",".intercalate keys ++ "\x7d' = "),
            (.bound ⟨bound, none⟩, "")]) ∧
      (handler.judge actual v config = .holds true ∧
          Sql.Comparator.eq.truth stored bound ≠ .holds ↔
        valueAt? keys actual = some .null ∧ v.toJson = .null) ∧
      (Sql.Comparator.eq.truth stored bound = .holds ∧
          handler.judge actual v config ≠ .holds true ↔
        ∃ x, valueAt? keys actual = some x ∧ x.text?.isSome ≠ v.toJson.text?.isSome ∧
          scalarText? x = scalarText? v.toJson) := by
  refine ⟨test_eq_ok.2 ⟨keys, bound, hpath, extracted?_of_scalarText? hbound, rfl⟩, ?_⟩
  rw [columnText?, found?_eq_valueAt? (isSafe_of_path hpath)] at hstored
  rw [judge_eq hpath]
  cases hfound : valueAt? keys actual with
  | none =>
    -- what is missing is null to the database, and in memory equal to nothing
    rw [hfound] at hstored
    obtain rfl := Option.some.inj hstored
    simp [Sql.Comparator.truth, Sql.orderTruth, Sql.Param.order?]
  | some x =>
    rw [hfound] at hstored
    have hx : scalarText? x = some stored := hstored
    simp only [Option.elim_some, Verdict.holds.injEq, ne_eq, same_iff hx, truth_holds_iff hx hbound,
      Option.some.injEq, exists_eq_left', hx, hbound]
    constructor
    · constructor
      · rintro ⟨rfl, hne⟩
        obtain rfl := Option.some.inj (hx.symm.trans hbound)
        obtain ⟨hnull, -⟩ | ⟨hnull, -⟩ := scalarText?_cases hx
        · exact ⟨hnull, hnull⟩
        · exact absurd ⟨rfl, hnull⟩ hne
      · rintro ⟨rfl, hv⟩
        exact ⟨hv.symm, fun h => h.2 rfl⟩
    · constructor
      · rintro ⟨⟨rfl, -⟩, hne⟩
        exact ⟨fun hkind => hne (eq_of_scalarText? hx hbound hkind), rfl⟩
      · rintro ⟨hkind, rfl⟩
        have hne : x ≠ v.toJson := fun h => hkind (h ▸ rfl)
        refine ⟨⟨rfl, fun hnull => hne ?_⟩, hne⟩
        subst hnull
        cases hx
        obtain ⟨hv, -⟩ | ⟨-, _, htext⟩ := scalarText?_cases hbound
        · exact hv.symm
        · cases htext

/-- Two members down, the text of an integer against the integer, and null against null. -/
theorem judge_truth_differ_iff_origin :
    let config : Json.Value := .obj [("path", .arr [.str "origin", .str "part"])]
    let keys := ["origin", "part"]
    let stored (v : Json.Value) : Json.Value := .obj [("origin", .obj [("part", v)])]
    path config = .ok keys ∧
      (scalarText? (Filter.Value.int 5).toJson = some (.text "5") ∧
        columnText? keys (stored (.str "5")) = some (.text "5") ∧
        Sql.Comparator.eq.truth (.text "5") (.text "5") = .holds ∧
        handler.judge (stored (.str "5")) (.int 5) config ≠ .holds true) ∧
      scalarText? Filter.Value.null.toJson = some .null ∧
        columnText? keys (stored .null) = some .null ∧
        handler.judge (stored .null) .null config = .holds true ∧
        Sql.Comparator.eq.truth .null .null ≠ .holds := by
  intro config keys stored
  have hpath : path config = .ok keys := by rfl
  have hfive : scalarText? (Filter.Value.int 5).toJson = some (.text "5") := by rfl
  have htext : columnText? keys (stored (.str "5")) = some (.text "5") := by rfl
  have hnull : scalarText? Filter.Value.null.toJson = some .null := rfl
  have hstored : columnText? keys (stored .null) = some .null := rfl
  obtain ⟨hholds, hjudge⟩ := (judge_truth_differ_iff hpath hfive htext ⟨"t", "meta"⟩).2.2.2
    ⟨.str "5", rfl, by decide, hfive.symm⟩
  obtain ⟨hsame, hunknown⟩ :=
    (judge_truth_differ_iff hpath hnull hstored ⟨"t", "meta"⟩).2.1.2 ⟨rfl, rfl⟩
  exact ⟨hpath, ⟨hfive, htext, hholds, hjudge⟩, hnull, hstored, hsame, hunknown⟩

/-- An integer is not equal to its text in memory, null is; the database says the opposite. -/
theorem judge_ne_truth :
    let config : Json.Value := .obj [("path", .arr [.str "a"])]
    path config = .ok ["a"] ∧
      (columnText? ["a"] (.obj [("a", .int 5)]) = some (.text "5") ∧
        Sql.Comparator.eq.truth (.text "5") (.text "5") = .holds ∧
        handler.judge (.obj [("a", .int 5)]) (.str "5") config = .holds false) ∧
      columnText? ["a"] (.obj [("a", .null)]) = some .null ∧
        Sql.Comparator.eq.truth .null .null = .unknown ∧
        handler.judge (.obj [("a", .null)]) .null config = .holds true := by
  refine ⟨by rfl, ⟨by rfl, ?_, by rfl⟩, by rfl, by rfl, by rfl⟩
  decide +kernel

end PathEq
end RowQuery
