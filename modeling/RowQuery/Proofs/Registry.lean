import RowQuery.Proofs.Outcome
import RowQuery.Registry
/-!
Registries of built-in handlers.

A declaration can only name a handler that the registry knows, and a new registry knows the built-in
ones. So whatever is declared, every registration is of a built-in handler. Each of these makes
tests of one form.
-/

namespace RowQuery

/-! ### Tests of built-in handlers -/

section
variable {column : Sql.Column} {v : Filter.Value} {config : Json.Value} {t : Sql.Test}

theorem MultipleOf.test_eq_ok : handler.test column v config = .ok t ↔
    ∃ d, divisor v = .ok d ∧ .custom "MOD(CAST(" [(.column column, " AS NUMERIC), CAST("),
      (.bound ⟨d, none⟩, " AS NUMERIC)) = 0")] = t := by
  simp only [handler, bind_eq_ok, pure_eq_ok]

theorem Contains.test_eq_ok : handler.test column v config = .ok t ↔
    ∃ items, wanted v = .ok items ∧ .custom "" [(.column column, " @> CAST("),
      (.bound ⟨.text (Json.Value.arr items).text, none⟩, " AS JSONB)")] = t := by
  simp only [handler, bind_eq_ok, pure_eq_ok]

theorem PathEq.test_eq_ok : handler.test column v config = .ok t ↔
    ∃ keys p, path config = .ok keys ∧ extracted? v = some p ∧
      .custom "" [(.column column, " #>> '\x7b" ++ ",".intercalate keys ++ "\x7d' = "),
        (.bound ⟨p, none⟩, "")] = t := by
  simp only [handler, bind_eq_ok]
  cases extracted? v with
  | none => simp
  | some p => simp [pure_eq_ok]

end

/-! ### Registrations -/

/-- A handler that declarations can always name. -/
def Handler.IsBuiltIn (h : Handler) : Prop :=
  h = MultipleOf.handler ∨ h = Contains.handler ∨ h = PathEq.handler

namespace Registry

/-- Every registration is of a handler that declarations can always name. -/
def HoldsBuiltIn (r : Registry) : Prop :=
  ∀ key registration, r.find? key = some registration → registration.handler.IsBuiltIn

/-- Every handler known by name is one that declarations can always name. -/
def KnowsBuiltIn (r : Registry) : Prop :=
  ∀ name h, Dict.find? r.handlers name = some h → h.IsBuiltIn

theorem HoldsBuiltIn.of_lookup? {r : Registry} (h : r.HoldsBuiltIn) {operation : String}
    {type : Option ColumnType} {field : Option (String × String)} {registration : Registration}
    (hl : r.lookup? operation type field = some registration) :
    registration.handler.IsBuiltIn := by
  unfold lookup? at hl
  split at hl
  · rename_i found hfound
    obtain ⟨f, -, hf⟩ := Option.bind_eq_some_iff.1 hfound
    obtain rfl := Option.some.inj hl
    exact h _ _ hf
  · obtain ⟨t, -, ht⟩ := Option.bind_eq_some_iff.1 hl
    exact h _ _ ht

theorem empty_holdsBuiltIn : empty.HoldsBuiltIn := fun _ _ h => nomatch h

theorem empty_lookup? (operation : String) (type : Option ColumnType)
    (field : Option (String × String)) : empty.lookup? operation type field = none := by
  cases field <;> cases type <;> rfl

theorem empty_knowsBuiltIn : empty.KnowsBuiltIn := by
  intro name h hfind
  simp only [empty, builtIn, Dict.ofList, List.foldl_cons, List.foldl_nil,
    Dict.find?_insert] at hfind
  split at hfind
  · exact .inr (.inr (Option.some.inj hfind).symm)
  · split at hfind
    · exact .inr (.inl (Option.some.inj hfind).symm)
    · split at hfind
      · exact .inl (Option.some.inj hfind).symm
      · cases hfind

/-- A stored registration is found at its place, what stood elsewhere is found as before. -/
theorem find?_store (r : Registry) (key other : RegistryKey) (registration : Registration) :
    (r.store key registration).find? other
      = if key = other then some registration else r.find? other := by
  by_cases h : key = other
  · subst h
    simp [find?, store]
  · rw [if_neg h]
    simp only [find?, store, List.find?_cons, beq_eq_false_iff_ne.2 h, List.find?_filter]
    congr 2
    funext e
    by_cases he : e.1 = other
    · simp [he, Ne.symm h]
    · simp [he]

theorem HoldsBuiltIn.store {r : Registry} (h : r.HoldsBuiltIn) {registration : Registration}
    (hb : registration.handler.IsBuiltIn) (key : RegistryKey) :
    (r.store key registration).HoldsBuiltIn := by
  intro other found hfound
  rw [find?_store] at hfound
  split at hfound
  · obtain rfl := Option.some.inj hfound
    exact hb
  · exact h _ _ hfound

theorem HoldsBuiltIn.foldl_store {registration : Registration}
    (hb : registration.handler.IsBuiltIn) :
    ∀ (keys : List RegistryKey) {r : Registry}, r.HoldsBuiltIn →
      (keys.foldl (fun r key => r.store key registration) r).HoldsBuiltIn
  | [], _, h => h
  | key :: rest, _, h => foldl_store hb rest (h.store hb key)

theorem handlers_foldl_store (registration : Registration) :
    ∀ (keys : List RegistryKey) (r : Registry),
      (keys.foldl (fun r key => r.store key registration) r).handlers = r.handlers
  | [], _ => rfl
  | key :: rest, r => handlers_foldl_store registration rest (r.store key registration)

/-- One declaration keeps to the built-in handlers. -/
theorem HoldsBuiltIn.declare {r r' : Registry} {d : Declaration} (h : r.HoldsBuiltIn)
    (hk : r.KnowsBuiltIn) (hd : r.declare d = .ok r') : r'.HoldsBuiltIn ∧ r'.KnowsBuiltIn := by
  unfold Registry.declare at hd
  split at hd
  · cases hd
  · rename_i handler hhandler
    unfold register at hd
    split at hd
    · cases hd
    · cases hd
      refine ⟨h.foldl_store (hk _ _ hhandler) _, ?_⟩
      rw [KnowsBuiltIn, handlers_foldl_store]
      exact hk

theorem HoldsBuiltIn.declareAll : ∀ (ds : List Declaration) {r : Registry}, r.HoldsBuiltIn →
    r.KnowsBuiltIn → (r.declareAll ds).1.HoldsBuiltIn
  | [], _, h, _ => h
  | d :: rest, r, h, hk => by
    rw [Registry.declareAll]
    cases hd : r.declare d with
    | error e => exact h
    | ok r' =>
      obtain ⟨h', hk'⟩ := h.declare hk hd
      exact declareAll rest h' hk'

/-- A registry made by declarations holds built-in handlers only. -/
theorem holdsBuiltIn_of_withDeclarations {r : Registry} {ds : List Declaration}
    (hd : empty.withDeclarations ds = .ok r) : r.HoldsBuiltIn := by
  have h := empty_holdsBuiltIn.declareAll ds empty_knowsBuiltIn
  unfold withDeclarations at hd
  split at hd
  · rename_i r' hr'
    cases hd
    rw [hr'] at h
    exact h
  · cases hd

end Registry
end RowQuery
