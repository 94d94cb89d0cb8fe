import Mathlib.Data.List.Nodup
import RowQuery.Proofs.Registry
/-!
The log of a registry.

A registry is made by calls, some of which are refused, in whole or from some declaration on. What
they leave behind can be read off the list of the registrations that were accepted: for a place the
last one that covers it counts, and there are as many places as the list has covered. That a later
registration takes the place of an earlier one, and of no other, carries this through every run.
-/

namespace RowQuery.Registry

/-! ### Logs and calls -/

/-- A registration that is asked for: what is registered, on what and for which operations. -/
structure LogEntry where
  registration : Registration
  target : Target
  operations : List String

namespace LogEntry

/-- There are operations, all of them have proper names, and the target is not the empty list of
types. -/
def isAcceptable (l : LogEntry) : Bool :=
  !l.operations.isEmpty && l.operations.all isOperationName && decide (l.target ≠ .types [])

/-- Whether the registration is for a place. -/
def covers (l : LogEntry) : RegistryKey → Bool
  | .byType type operation =>
    (match l.target with
      | .types types => types.contains type
      | .field _ _ => false) && l.operations.contains operation
  | .byField entity field operation =>
    decide (l.target = .field entity field) && l.operations.contains operation

/-- What a declaration asks for, unless its handler is not known. -/
def ofDeclaration? (d : Declaration) : Option LogEntry :=
  (Dict.find? builtIn d.handler).map fun h => ⟨⟨h, d.config⟩, d.target, d.operations⟩

end LogEntry

/-- A call that registers. -/
inductive Call where
  | set (h : Handler) (target : Target) (operations : List String)
  | declare (ds : List Declaration)

namespace Call

/-- The registrations that a call asks for, in their order. -/
def requests : Call → List (Option LogEntry)
  | set h target operations => [some ⟨⟨h, .null⟩, target, operations⟩]
  | declare ds => ds.map LogEntry.ofDeclaration?

/-- The registrations of a call that are accepted: those before the first that is not. -/
def accepted (c : Call) : List LogEntry :=
  (c.requests.takeWhile (·.any LogEntry.isAcceptable)).filterMap id

end Call

/-- The registry after a call, with the fault if the call fails. -/
def perform (r : Registry) : Call → Registry × Option RegistryError
  | .set h target operations =>
    match r.setFilter h target operations with
    | .ok r' => (r', none)
    | .error fault => (r, some fault)
  | .declare ds => r.declareAll ds

/-- The registry after some calls. -/
def run (r : Registry) (calls : List Call) : Registry :=
  calls.foldl (fun r call => (r.perform call).1) r

/-- The registration for a place in a log, which ends with the latest. -/
def latest? (log : List LogEntry) (key : RegistryKey) : Option Registration :=
  (log.filter (·.covers key)).getLast?.map (·.registration)

theorem latest?_append (log : List LogEntry) (l : LogEntry) (key : RegistryKey) :
    latest? (log ++ [l]) key
      = if l.covers key then some l.registration else latest? log key := by
  simp only [latest?, List.filter_append, List.filter_singleton]
  cases l.covers key <;> simp

theorem isSome_latest? {log : List LogEntry} {key : RegistryKey} :
    (latest? log key).isSome = true ↔ ∃ l ∈ log, l.covers key = true := by
  simp [latest?]

/-! ### One registration -/

theorem fault?_eq_none_iff (l : LogEntry) (name : String) :
    fault? l.target l.operations name = none ↔ l.isAcceptable = true := by
  have hnames : l.operations.find? (fun op => !isOperationName op) = none
      ↔ l.operations.all isOperationName = true := by
    simp [List.find?_eq_none]
  unfold fault? LogEntry.isAcceptable
  cases hempty : l.operations.isEmpty with
  | true => simp
  | false =>
    cases hfind : l.operations.find? fun op => !isOperationName op with
    | some op =>
      have hall : ¬l.operations.all isOperationName = true := by
        rw [← hnames, hfind]
        exact Option.some_ne_none op
      simp [hall]
    | none =>
      rw [hnames.1 hfind]
      by_cases htarget : l.target = .types [] <;> simp [htarget]

theorem mem_keys {l : LogEntry} {key : RegistryKey} :
    key ∈ keys l.target l.operations ↔ l.covers key = true := by
  cases htarget : l.target <;> cases key <;>
    simp [keys, LogEntry.covers, htarget, and_comm, and_assoc]

theorem find?_foldl_store (registration : Registration) (key : RegistryKey) :
    ∀ (places : List RegistryKey) (r : Registry),
      (places.foldl (fun r place => r.store place registration) r).find? key
        = if key ∈ places then some registration else r.find? key
  | [], _ => rfl
  | place :: rest, r => by
    rw [List.foldl_cons, find?_foldl_store registration key rest, find?_store]
    by_cases hrest : key ∈ rest
    · rw [if_pos hrest, if_pos (List.mem_cons_of_mem _ hrest)]
    · by_cases hplace : place = key
      · rw [if_neg hrest, if_pos hplace, if_pos (hplace ▸ List.mem_cons_self ..)]
      · rw [if_neg hrest, if_neg hplace, if_neg (by simp [Ne.symm hplace, hrest])]

theorem nodup_store {r : Registry} (h : (r.entries.map (·.1)).Nodup) (key : RegistryKey)
    (registration : Registration) : ((r.store key registration).entries.map (·.1)).Nodup := by
  rw [store, List.map_cons, List.nodup_cons]
  refine ⟨by simp, h.sublist ((List.filter_sublist).map _)⟩

theorem nodup_foldl_store (registration : Registration) :
    ∀ (places : List RegistryKey) {r : Registry}, (r.entries.map (·.1)).Nodup →
      ((places.foldl (fun r place => r.store place registration) r).entries.map (·.1)).Nodup
  | [], _, h => h
  | place :: rest, _, h => nodup_foldl_store registration rest (nodup_store h place registration)

/-! ### Registries and their logs -/

/-- The registry holds what a log says, and knows the handlers that declarations can always name. -/
structure Reflects (r : Registry) (log : List LogEntry) : Prop where
  handlers : r.handlers = builtIn
  nodup : (r.entries.map (·.1)).Nodup
  found : ∀ key, r.find? key = latest? log key
  acceptable : ∀ l ∈ log, l.isAcceptable = true

theorem reflects_empty : empty.Reflects [] :=
  ⟨rfl, List.nodup_nil, fun _ => rfl, List.forall_mem_nil _⟩

section
variable {r : Registry} {log : List LogEntry}

/-- A registration is refused, or it goes to the end of the log. -/
theorem Reflects.register (h : r.Reflects log) (l : LogEntry) (name : String) :
    (l.isAcceptable = false ∧
        ∃ fault, r.register l.registration l.target l.operations name = .error fault) ∨
      (l.isAcceptable = true ∧
        ∃ r', r.register l.registration l.target l.operations name = .ok r' ∧
          r'.Reflects (log ++ [l])) := by
  have hiff := fault?_eq_none_iff l name
  unfold Registry.register
  cases hfault : fault? l.target l.operations name with
  | some fault =>
    rw [hfault] at hiff
    exact .inl ⟨by simpa using hiff, fault, rfl⟩
  | none =>
    have hl := hiff.1 hfault
    refine .inr ⟨hl, _, rfl, ?_⟩
    constructor
    case handlers => rw [handlers_foldl_store, h.handlers]
    case nodup => exact nodup_foldl_store _ _ h.nodup
    case found =>
      intro key
      simp only [find?_foldl_store, latest?_append, mem_keys, h.found key]
    case acceptable =>
      exact List.forall_mem_append.2 ⟨h.acceptable, List.forall_mem_singleton.2 hl⟩

/-- A declaration is refused, or what it asks for goes to the end of the log. -/
theorem Reflects.declare (h : r.Reflects log) (d : Declaration) :
    ((LogEntry.ofDeclaration? d).any LogEntry.isAcceptable = false ∧
        ∃ fault, r.declare d = .error fault) ∨
      ∃ l, LogEntry.ofDeclaration? d = some l ∧ l.isAcceptable = true ∧
        ∃ r', r.declare d = .ok r' ∧ r'.Reflects (log ++ [l]) := by
  unfold Registry.declare LogEntry.ofDeclaration?
  rw [h.handlers]
  cases Dict.find? builtIn d.handler with
  | none => exact .inl ⟨rfl, _, rfl⟩
  | some handler =>
    rcases h.register ⟨⟨handler, d.config⟩, d.target, d.operations⟩ d.handler with hbad | hgood
    · exact .inl hbad
    · exact .inr ⟨_, rfl, hgood⟩

end

/-! ### Calls and runs -/

/-- All that a call asks for is accepted, or it fails and all before the first fault is. -/
def Call.Ends (call : Call) (fault : Option RegistryError) : Prop :=
  (fault = none ∧ call.requests = call.accepted.map some) ∨
    ∃ bad after, fault ≠ none ∧ bad.any LogEntry.isAcceptable = false ∧
      call.requests = call.accepted.map some ++ bad :: after

theorem Call.accepted_declare_cons_of_bad {d : Declaration} {ds : List Declaration}
    (h : (LogEntry.ofDeclaration? d).any LogEntry.isAcceptable = false) :
    (Call.declare (d :: ds)).accepted = [] := by
  simp [accepted, requests, h]

theorem Call.accepted_declare_cons {d : Declaration} {l : LogEntry} {ds : List Declaration}
    (hd : LogEntry.ofDeclaration? d = some l) (hl : l.isAcceptable = true) :
    (Call.declare (d :: ds)).accepted = l :: (Call.declare ds).accepted := by
  simp [accepted, requests, hd, hl]

theorem Reflects.declareAll : ∀ (ds : List Declaration) {r : Registry} {log : List LogEntry},
    r.Reflects log → (r.declareAll ds).1.Reflects (log ++ (Call.declare ds).accepted) ∧
      (Call.declare ds).Ends (r.declareAll ds).2
  | [], _, _, h => by
    refine ⟨?_, .inl ⟨rfl, rfl⟩⟩
    rwa [show (Call.declare []).accepted = [] from rfl, List.append_nil]
  | d :: ds, r, log, h => by
    rw [Registry.declareAll]
    rcases h.declare d with ⟨hbad, fault, hd⟩ | ⟨l, hentry, hl, r', hd, h'⟩
    · rw [hd, Call.accepted_declare_cons_of_bad hbad, List.append_nil]
      refine ⟨h, .inr ⟨_, ds.map LogEntry.ofDeclaration?, Option.some_ne_none fault, hbad, ?_⟩⟩
      rw [Call.accepted_declare_cons_of_bad hbad]
      rfl
    · obtain ⟨hreflects, hends⟩ := declareAll ds h'
      rw [hd, Call.accepted_declare_cons hentry hl]
      refine ⟨by rwa [List.append_assoc] at hreflects, ?_⟩
      have hrequests : (Call.declare (d :: ds)).requests
          = some l :: (Call.declare ds).requests := by
        rw [← hentry]
        rfl
      rcases hends with ⟨hnone, hall⟩ | ⟨bad, after, hfault, hbad, hall⟩
      · refine .inl ⟨hnone, ?_⟩
        rw [hrequests, hall, Call.accepted_declare_cons hentry hl, List.map_cons]
      · refine .inr ⟨bad, after, hfault, hbad, ?_⟩
        rw [hrequests, hall, Call.accepted_declare_cons hentry hl, List.map_cons, List.cons_append]

/-- A call adds what it accepts to the log. -/
theorem Reflects.perform {r : Registry} {log : List LogEntry} (h : r.Reflects log) (call : Call) :
    (r.perform call).1.Reflects (log ++ call.accepted) ∧ call.Ends (r.perform call).2 := by
  cases call with
  | declare ds => exact Reflects.declareAll ds h
  | set handler target operations =>
    unfold Registry.perform setFilter
    rcases h.register ⟨⟨handler, .null⟩, target, operations⟩ inlineName with
      ⟨hl, fault, hset⟩ | ⟨hl, r', hset, h'⟩
    · have hnone : (Call.set handler target operations).accepted = [] := by
        simp [Call.accepted, Call.requests, hl]
      dsimp only at hset ⊢
      rw [hset, hnone, List.append_nil]
      refine ⟨h, .inr ⟨some ⟨⟨handler, .null⟩, target, operations⟩, [], Option.some_ne_none fault,
        hl, ?_⟩⟩
      rw [hnone]
      rfl
    · have hone : (Call.set handler target operations).accepted
          = [⟨⟨handler, .null⟩, target, operations⟩] := by
        simp [Call.accepted, Call.requests, hl]
      dsimp only at hset ⊢
      rw [hset, hone]
      exact ⟨h', .inl ⟨rfl, by rw [hone]; rfl⟩⟩

theorem Reflects.run : ∀ (calls : List Call) {r : Registry} {log : List LogEntry},
    r.Reflects log → (r.run calls).Reflects (log ++ calls.flatMap Call.accepted)
  | [], _, _, h => by rwa [List.flatMap_nil, List.append_nil]
  | call :: rest, _, _, h => by
    rw [List.flatMap_cons, ← List.append_assoc]
    exact run rest (h.perform call).1

/-! ### Answers -/

section
variable {r : Registry} {log : List LogEntry}

theorem mem_entries_iff {key : RegistryKey} :
    key ∈ r.entries.map (·.1) ↔ (r.find? key).isSome = true := by
  simp [find?]

theorem Reflects.mem_entries_iff (h : r.Reflects log) {key : RegistryKey} :
    key ∈ r.entries.map (·.1) ↔ ∃ l ∈ log, l.covers key = true := by
  rw [Registry.mem_entries_iff, h.found key, isSome_latest?]

theorem Reflects.lookup?_eq (h : r.Reflects log) (operation : String) (type : Option ColumnType)
    (field : Option (String × String)) : r.lookup? operation type field =
      (field.bind fun f => latest? log (.byField f.1 f.2 operation)).or
        (type.bind fun t => latest? log (.byType t operation)) := by
  simp only [lookup?, h.found]
  cases field.bind fun f => latest? log (.byField f.1 f.2 operation) <;> rfl

/-- A field has registrations of its own just when the log has one for it, as every registration
has an operation. -/
theorem Reflects.hasField_iff (h : r.Reflects log) (entity field : String) :
    r.hasField entity field = true ↔ ∃ l ∈ log, l.target = .field entity field := by
  have hplace : r.hasField entity field = true
      ↔ ∃ operation, .byField entity field operation ∈ r.entries.map (·.1) := by
    rw [hasField, List.any_eq_true]
    constructor
    · rintro ⟨⟨key, registration⟩, hmem, hkey⟩
      cases key with
      | byType => cases hkey
      | byField en f operation =>
        obtain ⟨rfl, rfl⟩ : en = entity ∧ f = field := by simpa using hkey
        exact ⟨operation, List.mem_map_of_mem hmem⟩
    · rintro ⟨operation, hmem⟩
      obtain ⟨e, he, hkey⟩ := List.mem_map.1 hmem
      exact ⟨e, he, by rw [hkey]; simp⟩
  rw [hplace]
  constructor
  · rintro ⟨operation, hmem⟩
    obtain ⟨l, hl, hcovers⟩ := h.mem_entries_iff.1 hmem
    simp only [LogEntry.covers, Bool.and_eq_true, decide_eq_true_eq] at hcovers
    exact ⟨l, hl, hcovers.1⟩
  · rintro ⟨l, hl, htarget⟩
    have hacceptable := h.acceptable l hl
    simp only [LogEntry.isAcceptable, Bool.and_eq_true, Bool.not_eq_true',
      List.isEmpty_eq_false_iff] at hacceptable
    obtain ⟨operation, rest, hoperations⟩ := List.exists_cons_of_ne_nil hacceptable.1.1
    refine ⟨operation, h.mem_entries_iff.2 ⟨l, hl, ?_⟩⟩
    simp [LogEntry.covers, htarget, hoperations]

end

/-- After any calls a registry answers from the log of what was accepted: the latest registration
for the field counts, else the latest for the column type. A field has registrations of its own if
one in the log is for it, and the size is the number of places that the log covers. A further call
is accepted as a whole, or up to its first fault. -/
theorem run_answers_from_log (calls : List Call) :
    let r := empty.run calls
    let log := calls.flatMap Call.accepted
    (∀ operation type field, r.lookup? operation type field =
      (field.bind fun f => latest? log (.byField f.1 f.2 operation)).or
        (type.bind fun t => latest? log (.byType t operation))) ∧
    (∀ entity field, r.hasField entity field = true ↔ ∃ l ∈ log, l.target = .field entity field) ∧
    (∃ places : List RegistryKey, places.Nodup ∧ r.size = places.length ∧
      ∀ key, key ∈ places ↔ ∃ l ∈ log, l.covers key = true) ∧
    ∀ call : Call, call.Ends (r.perform call).2 := by
  intro r log
  have h : r.Reflects log := by simpa using reflects_empty.run calls
  refine ⟨h.lookup?_eq, h.hasField_iff, ⟨r.entries.map (·.1), h.nodup, ?_, fun key => ?_⟩,
    fun call => (h.perform call).2⟩
  · rw [size, List.length_map]
  · exact h.mem_entries_iff

end RowQuery.Registry
