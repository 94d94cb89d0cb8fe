import Mathlib.Data.List.Induction
import Mathlib.Data.List.Sort
import Mathlib.Tactic.Common
import RowQuery.Dict
/-!
Maps made of lists of entries.

A map has no entries but those it is made of, and its keys ascend, so each key is there once. What
is found under a key is what the last entry with that key says. A map with ascending keys is known
by what is found in it.
-/

namespace RowQuery.Dict

variable {α : Type} {P : String × α → Prop} {v : α} {d : Dict α} {entries : List (String × α)}
  {key : String}

theorem forall_insert (hv : P (key, v)) (hd : ∀ e ∈ d, P e) :
    ∀ e ∈ insert key v d, P e := by
  induction d with
  | nil => exact List.forall_mem_singleton.2 hv
  | cons e rest ih =>
    obtain ⟨he, hrest⟩ := List.forall_mem_cons.1 hd
    simp only [insert]
    split
    · exact List.forall_mem_cons.2 ⟨hv, hd⟩
    · split
      · exact List.forall_mem_cons.2 ⟨hv, hrest⟩
      · exact List.forall_mem_cons.2 ⟨he, ih hrest⟩

/-- What an insertion keeps, holds of the map of entries if it holds of the empty one. -/
theorem ofList_induction {Q : Dict α → Prop} (hnil : Q [])
    (hinsert : ∀ e ∈ entries, ∀ d, Q d → Q (insert e.1 e.2 d)) : Q (ofList entries) := by
  have hfold : ∀ d, Q d → Q (entries.foldl (fun d e => insert e.1 e.2 d) d) := by
    induction entries with
    | nil => exact fun _ hd => hd
    | cons e rest ih =>
      obtain ⟨he, hrest⟩ := List.forall_mem_cons.1 hinsert
      exact fun d hd => ih hrest _ (he d hd)
  exact hfold [] hnil

/-- What holds of all entries holds of those of their map. -/
theorem forall_ofList (h : ∀ e ∈ entries, P e) : ∀ e ∈ ofList entries, P e :=
  ofList_induction (Q := fun d => ∀ e ∈ d, P e) (List.forall_mem_nil _) fun e he _ hd =>
    forall_insert (h e he) hd

/-! ### Ascending keys -/

theorem Sorted.insert (h : Sorted d) (key : String) (v : α) : Sorted (insert key v d) := by
  induction d with
  | nil => exact List.pairwise_singleton _ _
  | cons e rest ih =>
    obtain ⟨he, hrest⟩ := List.pairwise_cons.1 h
    simp only [Dict.insert]
    split
    · rename_i hlt
      exact List.pairwise_cons.2 ⟨List.forall_mem_cons.2 ⟨hlt, fun x hx => String.lt_trans hlt
        (he x hx)⟩, h⟩
    · split
      · rename_i heq
        exact List.pairwise_cons.2 ⟨fun x hx => heq ▸ he x hx, hrest⟩
      · rename_i hlt hne
        have hgt : e.1 < key :=
          String.not_le.1 fun hle => hne (String.le_antisymm hle (String.not_lt.1 hlt))
        exact List.pairwise_cons.2 ⟨forall_insert hgt he, ih hrest⟩

theorem sorted_ofList (entries : List (String × α)) : Sorted (ofList entries) :=
  ofList_induction List.Pairwise.nil fun e _ _ hd => hd.insert e.1 e.2

theorem find?_eq_none_iff : find? d key = none ↔ ∀ e ∈ d, e.1 ≠ key := by
  induction d with
  | nil => simp
  | cons e rest ih =>
    rw [find?_cons, List.forall_mem_cons, ← ih]
    by_cases he : e.1 = key
    · simp [he]
    · simp [he]

/-- The keys behind an entry of a map are others. -/
theorem Sorted.find?_eq_none (h : Sorted ((key, v) :: d)) : find? d key = none := by
  refine find?_eq_none_iff.2 ?_
  rintro e he rfl
  exact String.lt_irrefl e.1 ((List.pairwise_cons.1 h).1 e he)

theorem mem_of_find? (h : find? d key = some v) : (key, v) ∈ d := by
  induction d with
  | nil => cases h
  | cons e rest ih =>
    obtain ⟨k, w⟩ := e
    rw [find?_cons] at h
    split at h
    · rename_i hk
      obtain rfl := Option.some.inj h
      rw [hk]
      exact List.mem_cons_self ..
    · exact List.mem_cons_of_mem _ (ih h)

/-- In a map with ascending keys every entry is found under its key. -/
theorem Sorted.find?_eq_some_iff (h : Sorted d) : find? d key = some v ↔ (key, v) ∈ d := by
  constructor
  · exact mem_of_find?
  · intro hmem
    induction d with
    | nil => cases hmem
    | cons e rest ih =>
      obtain ⟨hlt, hrest⟩ := List.pairwise_cons.1 h
      rw [find?_cons]
      rcases List.mem_cons.1 hmem with rfl | hmem
      · rw [if_pos rfl]
      · have hbefore : e.1 < key := hlt (key, v) hmem
        have hne : e.1 ≠ key := by
          rintro rfl
          exact String.lt_irrefl _ hbefore
        rw [if_neg hne, ih hrest hmem]

/-- Maps with ascending keys are equal if they have the same value under every key. -/
theorem Sorted.ext {e : Dict α} (hd : Sorted d) (he : Sorted e)
    (h : ∀ key, find? d key = find? e key) : d = e := by
  have hirrefl : Std.Irrefl fun a b : String × α => a.1 < b.1 := ⟨fun a => String.lt_irrefl a.1⟩
  refine List.Pairwise.eq_of_mem_iff hd he ?_
  rintro ⟨key, v⟩
  rw [← hd.find?_eq_some_iff, ← he.find?_eq_some_iff, h]

/-! ### Lookup -/

/-- Of the entries with one key the last one counts. -/
theorem find?_ofList_eq (entries : List (String × α)) (key : String) :
    find? (ofList entries) key = find? entries.reverse key := by
  induction entries using List.reverseRecOn with
  | nil => rfl
  | append_singleton rest e ih =>
    rw [ofList, List.foldl_append, List.foldl_cons, List.foldl_nil, find?_insert, ← ofList, ih,
      List.reverse_append, List.reverse_singleton, List.singleton_append, find?_cons]

/-- Among entries that agree where their keys do, each is found. -/
theorem find?_ofList (hmem : (key, v) ∈ entries) (hagree : ∀ e ∈ entries, e.1 = key → e.2 = v) :
    find? (ofList entries) key = some v := by
  rw [find?_ofList_eq]
  cases hfind : find? entries.reverse key with
  | none => exact absurd rfl (find?_eq_none_iff.1 hfind _ (List.mem_reverse.2 hmem))
  | some w => exact congrArg some (hagree _ (List.mem_reverse.1 (mem_of_find? hfind)) rfl)

theorem find?_ofList_eq_none (h : ∀ e ∈ entries, e.1 ≠ key) :
    find? (ofList entries) key = none := by
  rw [find?_ofList_eq, find?_eq_none_iff]
  exact fun e he => h e (List.mem_reverse.1 he)

/-- A map made of the entries of a map is that map. -/
theorem Sorted.ofList_eq (h : Sorted d) : ofList d = d := by
  refine Sorted.ext (sorted_ofList d) h fun key => ?_
  cases hd : find? d key with
  | none => exact find?_ofList_eq_none (find?_eq_none_iff.1 hd)
  | some v =>
    refine find?_ofList (h.find?_eq_some_iff.1 hd) ?_
    rintro ⟨k, w⟩ hmem rfl
    exact Option.some.inj ((h.find?_eq_some_iff.2 hmem).symm.trans hd)

theorem ofList_eq_of_length_le_one (h : entries.length ≤ 1) : ofList entries = entries := by
  match entries with
  | [] | [_] => rfl
  | _ :: _ :: _ => simp at h

/-! ### Some of the keys, other values -/

section
variable {β : Type} (P : String → Bool) (g : α → β)

theorem find?_filter (d : Dict α) (key : String) :
    find? (d.filter fun e => P e.1) key = if P key then find? d key else none := by
  induction d with
  | nil => simp
  | cons e rest ih =>
    obtain ⟨k, v⟩ := e
    rw [List.filter_cons, find?_cons]
    by_cases hk : k = key
    · subst hk
      cases hP : P k with
      | false => simpa [hP] using ih
      | true => simp [find?_cons]
    · rw [if_neg hk, ← ih]
      cases P k with
      | false => rfl
      | true => rw [if_pos rfl, find?_cons, if_neg hk]

theorem find?_map (d : Dict α) (key : String) :
    find? (d.map fun e => (e.1, g e.2)) key = (find? d key).map g := by
  induction d with
  | nil => rfl
  | cons e rest ih =>
    rw [List.map_cons, find?_cons, find?_cons, ih]
    split <;> rfl

/-- Leaving out keys does not matter to which of the entries of a key counts. -/
theorem ofList_filter (entries : List (String × α)) :
    ofList (entries.filter fun e => P e.1) = (ofList entries).filter fun e => P e.1 := by
  refine Sorted.ext (sorted_ofList _) ((sorted_ofList entries).filter _) fun key => ?_
  rw [find?_ofList_eq, find?_filter, find?_ofList_eq, ← List.filter_reverse, find?_filter]

/-- Replacing values under their keys commutes with making a map. -/
theorem ofList_map (entries : List (String × α)) :
    ofList (entries.map fun e => (e.1, g e.2)) = (ofList entries).map fun e => (e.1, g e.2) := by
  have hsorted : Sorted ((ofList entries).map fun e => (e.1, g e.2)) :=
    (sorted_ofList entries).map _ fun _ _ h => h
  refine Sorted.ext (sorted_ofList _) hsorted fun key => ?_
  rw [find?_ofList_eq, find?_map, find?_ofList_eq, ← find?_map, List.map_reverse]

end

end RowQuery.Dict
