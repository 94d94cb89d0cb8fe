import Mathlib.Tactic.Common
import RowQuery.Sql.Text
/-!
Placeholders in the text of a statement.

A reader of the text goes from left to right and takes what stands between double quotes as a name;
everywhere else a dollar sign begins a placeholder. Fixed texts have none of their own, end outside
of names and do not begin with a digit, so the placeholders of a text are those of its bound values,
numbered one after another.
-/

namespace RowQuery.Sql

/-! ### Pieces -/

namespace Piece

/-- The values that are bound by pieces, in their order. -/
def values (ps : List Piece) : List Param := ps.filterMap param?

@[simp] theorem values_nil : values [] = [] := rfl

@[simp] theorem values_text (s : String) (ps : List Piece) : values (.text s :: ps) = values ps :=
  rfl

@[simp] theorem values_bind (p : Param) (ps : List Piece) :
    values (.bind p :: ps) = p :: values ps := rfl

@[simp] theorem values_append (ps qs : List Piece) : values (ps ++ qs) = values ps ++ values qs :=
  List.filterMap_append

theorem values_flatMap {α : Type} (f : α → List Piece) (xs : List α) :
    values (xs.flatMap f) = xs.flatMap fun x => values (f x) := by
  induction xs with
  | nil => rfl
  | cons x rest ih => rw [List.flatMap_cons, List.flatMap_cons, values_append, ih]

theorem values_separated (separator : String) (pss : List (List Piece)) :
    values (separated separator pss) = pss.flatMap values := by
  induction pss with
  | nil => rfl
  | cons ps rest ih =>
    cases rest with
    | nil => simp [separated]
    | cons qs rest =>
      rw [separated, values_append, values_text, ih]
      rfl

/-- The text of pieces goes on with the number that the values before leave. -/
theorem number_append (ps qs : List Piece) (next : Nat) :
    number next (ps ++ qs) = number next ps ++ number (next + (values ps).length) qs := by
  induction ps generalizing next with
  | nil => simp [number]
  | cons p rest ih =>
    cases p with
    | text s =>
      rw [List.cons_append, number, number, ih, values_text, String.append_assoc]
    | bind v =>
      rw [List.cons_append, number, number, ih, values_bind, List.length_cons, Nat.add_assoc,
        Nat.add_comm 1]
      simp only [String.append_assoc]

end Piece

/-! ### Reading placeholders -/

/-- The placeholders of a text, each by the digits after its dollar sign. Between double quotes
stands a name; a doubled quote closes the name and opens it again. -/
def placeholders (inName : Bool) : List Char → List (List Char)
  | [] => []
  | c :: rest =>
    if c = '"' then placeholders (!inName) rest
    else if c = '$' ∧ inName = false then
      rest.takeWhile Char.isDigit :: placeholders inName rest
    else placeholders inName rest

/-- Whether the end of a text stands in a name. -/
def endsInName (inName : Bool) : List Char → Bool
  | [] => inName
  | c :: rest => endsInName (if c = '"' then !inName else inName) rest

/-- The digits of some placeholders, numbered one after another. -/
def numbered (next count : Nat) : List (List Char) :=
  (List.range' next count).map fun n => n.repr.toList

/-- Placeholders behind a text without placeholders. -/
theorem placeholders_append {inName : Bool} {cs : List Char} (h : placeholders inName cs = [])
    (ds : List Char) :
    placeholders inName (cs ++ ds) = placeholders (endsInName inName cs) ds := by
  induction cs generalizing inName with
  | nil => rfl
  | cons c rest ih =>
    rw [placeholders] at h
    rw [List.cons_append, placeholders, endsInName]
    split
    · rw [if_pos ‹_›] at h
      exact ih h
    · rw [if_neg ‹_›] at h
      split
      · rw [if_pos ‹_›] at h
        cases h
      · rw [if_neg ‹_›] at h
        exact ih h

theorem endsInName_append (inName : Bool) (cs ds : List Char) :
    endsInName inName (cs ++ ds) = endsInName (endsInName inName cs) ds := by
  induction cs generalizing inName with
  | nil => rfl
  | cons c rest ih => exact ih _

theorem isDigit_of_mem_repr (n : Nat) : ∀ c ∈ n.repr.toList, c.isDigit = true := by
  intro c hc
  rw [Nat.repr, String.toList_ofList] at hc
  exact Nat.isDigit_of_mem_toDigits (by decide) (by decide) hc

theorem placeholders_of_digits {cs : List Char} (h : ∀ c ∈ cs, c.isDigit = true)
    (ds : List Char) : placeholders false (cs ++ ds) = placeholders false ds := by
  induction cs with
  | nil => rfl
  | cons c rest ih =>
    obtain ⟨hc, hrest⟩ := List.forall_mem_cons.1 h
    have hquote : c ≠ '"' := by rintro rfl; exact absurd hc (by decide)
    have hdollar : c ≠ '$' := by rintro rfl; exact absurd hc (by decide)
    rw [List.cons_append, placeholders, if_neg hquote, if_neg fun h => hdollar h.1, ih hrest]

/-! ### Fixed texts -/

/-- A text does not begin with a digit. -/
def StopsDigits (cs : List Char) : Prop := ∀ c ∈ cs.head?, c.isDigit = false

/-- A text that can stand anywhere between placeholders: it has none of its own, ends outside of
names and does not begin with a digit. -/
structure IsFixed (s : String) : Prop where
  noPlaceholder : placeholders false s.toList = []
  endsOutside : endsInName false s.toList = false
  stopsDigits : StopsDigits s.toList

theorem StopsDigits.append {cs ds : List Char} (hc : StopsDigits cs) (hd : StopsDigits ds) :
    StopsDigits (cs ++ ds) := by
  cases cs with
  | nil => exact hd
  | cons c rest => exact hc

instance : (cs : List Char) → Decidable (StopsDigits cs)
  | [] => isTrue fun _ h => nomatch h
  | c :: _ => decidable_of_iff (c.isDigit = false)
      ⟨fun h _ hd => Option.some.inj hd ▸ h, fun h => h c rfl⟩

instance (s : String) : Decidable (IsFixed s) :=
  decidable_of_iff (placeholders false s.toList = [] ∧ endsInName false s.toList = false ∧
      StopsDigits s.toList)
    ⟨fun ⟨h, h', h''⟩ => ⟨h, h', h''⟩, fun ⟨h, h', h''⟩ => ⟨h, h', h''⟩⟩

namespace IsFixed

theorem append {s t : String} (hs : IsFixed s) (ht : IsFixed t) : IsFixed (s ++ t) := by
  constructor
  · rw [String.toList_append, placeholders_append hs.noPlaceholder, hs.endsOutside,
      ht.noPlaceholder]
  · rw [String.toList_append, endsInName_append, hs.endsOutside, ht.endsOutside]
  · rw [String.toList_append]
    exact hs.stopsDigits.append ht.stopsDigits

theorem join {ss : List String} (h : ∀ s ∈ ss, IsFixed s) : IsFixed (String.join ss) := by
  induction ss with
  | nil => decide
  | cons s rest ih =>
    obtain ⟨hs, hrest⟩ := List.forall_mem_cons.1 h
    rw [String.join_cons]
    exact hs.append (ih hrest)

theorem intercalate {separator : String} {ss : List String} (hseparator : IsFixed separator)
    (h : ∀ s ∈ ss, IsFixed s) : IsFixed (separator.intercalate ss) := by
  induction ss with
  | nil =>
    rw [String.intercalate_nil]
    decide
  | cons s rest ih =>
    obtain ⟨hs, hrest⟩ := List.forall_mem_cons.1 h
    cases rest with
    | nil => rwa [String.intercalate_singleton]
    | cons t rest =>
      rw [String.intercalate_cons_cons]
      exact (hs.append hseparator).append (ih hrest)

/-- A name in quotes, whatever is in it. -/
theorem quoted (name : String) : IsFixed (quoted name) := by
  have hinside : ∀ cs : List Char,
      let doubled := cs.flatMap fun c => if c = '"' then ['"', '"'] else [c]
      placeholders true (doubled ++ ['"']) = [] ∧ endsInName true (doubled ++ ['"']) = false := by
    intro cs
    induction cs with
    | nil => decide
    | cons c rest ih =>
      by_cases hc : c = '"'
      -- the doubled quote ends the name and begins it again
      · subst hc
        exact ih
      · simpa [hc, placeholders, endsInName] using ih
  obtain ⟨hplaceholders, hends⟩ := hinside name.toList
  constructor <;> rw [Sql.quoted, String.toList_ofList]
  · exact hplaceholders
  · exact hends
  · intro c hc
    obtain rfl := Option.some.inj hc
    decide

end IsFixed

/-- The fixed texts among pieces can stand anywhere between placeholders. -/
def Piece.AreFixed (ps : List Piece) : Prop := ∀ s, .text s ∈ ps → IsFixed s

namespace Piece

theorem areFixed_nil : AreFixed [] := fun _ h => nomatch h

theorem areFixed_text {s : String} {ps : List Piece} (hs : IsFixed s) (hps : AreFixed ps) :
    AreFixed (.text s :: ps) := by
  intro t ht
  rcases List.mem_cons.1 ht with h | h
  · obtain rfl := Piece.text.inj h
    exact hs
  · exact hps t h

theorem areFixed_bind {v : Param} {ps : List Piece} (hps : AreFixed ps) :
    AreFixed (.bind v :: ps) := fun t ht =>
  (List.mem_cons.1 ht).elim (fun h => nomatch h) (hps t)

theorem AreFixed.append {ps qs : List Piece} (hps : AreFixed ps) (hqs : AreFixed qs) :
    AreFixed (ps ++ qs) := fun t ht => (List.mem_append.1 ht).elim (hps t) (hqs t)

theorem areFixed_separated {separator : String} {pss : List (List Piece)}
    (hseparator : IsFixed separator) (h : ∀ ps ∈ pss, AreFixed ps) :
    AreFixed (separated separator pss) := by
  induction pss with
  | nil => exact areFixed_nil
  | cons ps rest ih =>
    obtain ⟨hps, hrest⟩ := List.forall_mem_cons.1 h
    cases rest with
    | nil => exact hps
    | cons qs rest => exact hps.append (areFixed_text hseparator (ih hrest))

/-- The text of pieces begins with a dollar sign or a fixed text, so with no digit. -/
theorem AreFixed.stopsDigits {ps : List Piece} (h : AreFixed ps) (next : Nat) :
    StopsDigits (number next ps).toList := by
  induction ps generalizing next with
  | nil => exact fun c hc => nomatch hc
  | cons p rest ih =>
    have hrest : AreFixed rest := fun t ht => h t (List.mem_cons_of_mem _ ht)
    cases p with
    | text s =>
      rw [number, String.toList_append]
      exact (h s (List.mem_cons_self ..)).stopsDigits.append (ih hrest next)
    | bind v =>
      rw [number, String.append_assoc, String.toList_append]
      intro c hc
      obtain rfl := Option.some.inj hc
      decide

/-- The placeholders of a text are those of its values, numbered one after another. -/
theorem AreFixed.placeholders_eq {ps : List Piece} (h : AreFixed ps) (next : Nat) :
    placeholders false (number next ps).toList = numbered next (values ps).length := by
  induction ps generalizing next with
  | nil => rfl
  | cons p rest ih =>
    have hrest : AreFixed rest := fun t ht => h t (List.mem_cons_of_mem _ ht)
    cases p with
    | text s =>
      have hs := h s (List.mem_cons_self ..)
      rw [number, String.toList_append, placeholders_append hs.noPlaceholder, hs.endsOutside,
        ih hrest, values_text]
    | bind v =>
      have hdigits := isDigit_of_mem_repr next
      have htake : (next.repr.toList ++ (number (next + 1) rest).toList).takeWhile Char.isDigit
          = next.repr.toList := by
        rw [List.takeWhile_append_of_pos hdigits]
        -- the number ends there, because what follows does not begin with a digit
        have hstop := hrest.stopsDigits (next + 1)
        cases hcs : (number (next + 1) rest).toList with
        | nil => simp
        | cons c cs =>
          rw [hcs] at hstop
          simp [hstop c rfl]
      have htext : (number next (.bind v :: rest)).toList
          = '$' :: (next.repr.toList ++ (number (next + 1) rest).toList) := by
        rw [number, String.append_assoc, String.toList_append, String.toList_append]
        rfl
      rw [htext, placeholders, if_neg (by decide), if_pos ⟨rfl, rfl⟩, htake,
        placeholders_of_digits hdigits, ih hrest, values_bind, List.length_cons, numbered, numbered,
        List.range'_succ, List.map_cons]

end Piece
end RowQuery.Sql
