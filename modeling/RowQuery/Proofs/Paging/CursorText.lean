import RowQuery.Proofs.Json.NumberText
import RowQuery.Proofs.Paging.Cursor
/-!
Every cursor of scalars reads back.

A key set may hold any scalars, whatever rows they were taken from. Of a float it has to be known
that its text is read as the same float; everything else in the text of a cursor is read as it was
written. So no two cursors have one text, and no text that is written is taken for a short form.
-/

namespace RowQuery

/-- The text of a float, read alone, is that of the same float. -/
def Binary64.ReadsBack (x : Binary64) : Prop :=
  Json.Reader.number (Json.Writer.numberText (.float x)) = some (.float x, [])

namespace Cursor

/-- The value is null, a boolean, a text, a float or an integer of 64 bits, signed or not. -/
def IsScalar : Json.Value → Prop
  | .null | .bool _ | .str _ | .num (.float _) => True
  | .num (.int i) => Json.FitsJson i
  | .arr _ | .obj _ => False

/-- The values that a cursor holds. -/
def values : Cursor → List Json.Value
  | .position _ => []
  | .keyset fields => fields.map KeyField.value

/-- A position of 64 bits, or a key set of some scalars whose floats read back. -/
structure IsStorable (c : Cursor) : Prop where
  position : ∀ index, c = .position index → index ≤ Json.maxUInt64
  fields : ∀ fields, c = .keyset fields → fields ≠ []
  scalars : ∀ v ∈ c.values, IsScalar v
  floats : ∀ x, .float x ∈ c.values → x.ReadsBack

theorem isKey_of_isScalar {v : Json.Value} (h : IsScalar v)
    (hfloat : ∀ x, v = .float x → x.ReadsBack) : IsKey v := by
  cases v with
  | null | bool | str => exact ⟨rfl, trivial⟩
  | arr | obj => exact h.elim
  | num n => cases n with
    | int i => exact ⟨rfl, Json.readsBack_int h⟩
    | float x => exact ⟨rfl, Json.Number.readsBack_of_number (hfloat x rfl)⟩

theorem IsStorable.readable {c : Cursor} (h : c.IsStorable) : c.Readable := by
  cases c with
  | position index => exact h.position index rfl
  | keyset fields =>
    refine ⟨h.fields fields rfl, fun k hk => ?_⟩
    have hv : k.value ∈ (Cursor.keyset fields).values := List.mem_map_of_mem hk
    exact isKey_of_isScalar (h.scalars _ hv) fun x hx => h.floats x (hx ▸ hv)

/-- The bytes that the text of a cursor holds are no short form of a position. -/
theorem exists_bytes_of_encode (c : Cursor) :
    ∃ bytes, Base64.decode? c.encode.toList = some bytes ∧
      afterBytes? (Utf8.encode shortForm) bytes = none := by
  refine ⟨Utf8.encode (Json.Writer.compact c.payload), ?_, afterBytes?_payload c⟩
  rw [encode, String.toList_ofList, Base64.decode?_encode]

/-- A cursor reads back from its text, with or without blanks around it. No other cursor has that
text, and it is not taken for a short form. -/
theorem decode_encode_among_blanks {c : Cursor} (h : c.IsStorable) :
    (∀ before after : List Char, (∀ b ∈ before, isBlank b = true) →
      (∀ b ∈ after, isBlank b = true) →
      decode (String.ofList (before ++ c.encode.toList ++ after)) = .ok c) ∧
    (∀ d : Cursor, d.IsStorable → d.encode = c.encode → d = c) ∧
    ∃ bytes, Base64.decode? c.encode.toList = some bytes ∧
      afterBytes? (Utf8.encode shortForm) bytes = none := by
  refine ⟨fun _ _ => decode_of_readable h.readable, fun d hd heq => ?_, exists_bytes_of_encode c⟩
  have hdecode := decode_encode hd.readable
  rw [heq, decode_encode h.readable] at hdecode
  exact (Except.ok.inj hdecode).symm

/-- One and a half. -/
def threeHalves : Binary64 := ⟨false, 3 * 2 ^ 51, 1022, by decide⟩

/-- A key set with values of every kind, with an em space before its text and a line end after
it. -/
theorem decode_encode_among_blanks_all_kinds :
    let c := Cursor.keyset [⟨"n\"á\n", .str "€/\\\t"⟩, ⟨"", .null⟩, ⟨"done", .bool true⟩,
      ⟨"score", .float threeHalves⟩, ⟨"low", .int Json.minInt64⟩, ⟨"high", .nat Json.maxUInt64⟩]
    (∀ b ∈ [Char.ofNat 0x2003], isBlank b = true) ∧ (∀ b ∈ ['\n'], isBlank b = true) ∧
      c.IsStorable ∧
      decode (String.ofList ([Char.ofNat 0x2003] ++ c.encode.toList ++ ['\n'])) = .ok c := by
  intro c
  have hbefore : ∀ b ∈ [Char.ofNat 0x2003], isBlank b = true :=
    List.forall_mem_singleton.2 (by decide)
  have hafter : ∀ b ∈ ['\n'], isBlank b = true := List.forall_mem_singleton.2 (by decide)
  have hstorable : c.IsStorable := by
    refine ⟨fun _ h => (nomatch h), fun fields h => ?_, ?_, ?_⟩
    · rw [← Cursor.keyset.inj h]
      exact List.cons_ne_nil _ _
    · have hlow : Json.FitsJson Json.minInt64 := ⟨by decide, by decide⟩
      have hhigh : Json.FitsJson Json.maxUInt64 := ⟨by decide, by decide⟩
      simp only [c, values, List.map_cons, List.map_nil, List.forall_mem_cons, List.not_mem_nil,
        false_imp_iff, implies_true, and_true]
      exact ⟨trivial, trivial, trivial, trivial, hlow, hhigh⟩
    · intro x hx
      simp only [c, values, List.map_cons, List.map_nil, List.mem_cons, List.not_mem_nil,
        Json.Value.float, Json.Value.int, Json.Value.nat, reduceCtorEq, Json.Value.num.injEq,
        Json.Number.float.injEq, or_false, false_or] at hx
      subst hx
      exact show Json.Reader.number _ = _ by decide +kernel
  exact ⟨hbefore, hafter, hstorable,
    (decode_encode_among_blanks hstorable).1 _ _ hbefore hafter⟩

end Cursor
end RowQuery
