import Mathlib.Data.List.TakeWhile
import RowQuery.Paging.Cursor
import RowQuery.Proofs.Json.RoundTrip
import RowQuery.Proofs.Outcome
import RowQuery.Proofs.SortOrder.Comparison
import RowQuery.Proofs.Text.Base64
/-!
Cursors read back.

The text of a cursor is the base64 form of a JSON text, and both read back as what was written. The
JSON text begins with a brace, so it is no short form; base64 has no blanks, so trimming takes away
just what stands around it. A number may be read as another one, and then the cursor is read as the
one with that number.
-/

namespace RowQuery

/-! ### Trimming -/

theorem dropWhile_isBlank_append {s after : List Char} (hs : ∀ c ∈ s, isBlank c = false)
    (hafter : ∀ c ∈ after, isBlank c = true) :
    (s ++ after).dropWhile isBlank = if s = [] then [] else s ++ after := by
  cases s with
  | nil => rw [List.nil_append, List.dropWhile_eq_nil_iff.2 hafter, if_pos rfl]
  | cons c s =>
    rw [List.cons_append, List.dropWhile_cons, hs c (List.mem_cons_self ..)]
    rfl

/-- Trimming takes away the blanks around a text that has none in it. -/
theorem trimBlanks_append {before s after : List Char} (hbefore : ∀ c ∈ before, isBlank c = true)
    (hs : ∀ c ∈ s, isBlank c = false) (hafter : ∀ c ∈ after, isBlank c = true) :
    trimBlanks (before ++ s ++ after) = s := by
  rw [trimBlanks, List.append_assoc, List.dropWhile_append_of_pos hbefore,
    dropWhile_isBlank_append hs hafter]
  split
  · next hnil => rw [hnil]; rfl
  · next hne =>
    rw [List.reverse_append, List.dropWhile_append_of_pos fun c hc => hafter c (by simpa using hc),
      ← List.append_nil s.reverse, dropWhile_isBlank_append
        (fun c hc => hs c (by simpa using hc)) (fun c hc => absurd hc List.not_mem_nil),
      if_neg (by simpa using hne), List.append_nil, List.reverse_reverse]

namespace Cursor

/-! ### Payloads -/

/-- The value is null, a boolean, a text or a number that reads back. -/
def IsKey (v : Json.Value) : Prop := v.depth = 0 ∧ v.ReadsBack

/-- The cursors whose text reads back: positions of 64 bits, and key sets of some fields. -/
def Readable : Cursor → Prop
  | .position index => index ≤ Json.maxUInt64
  | .keyset fields => fields ≠ [] ∧ ∀ k ∈ fields, IsKey k.value

/-- How deep the value of a key field may be: it stands in an object in an array in an object. -/
def keyDepth : Nat := Json.maxDepth - 3

/-- The text of a key field is read as that of another one: it has the same name, and a plain value
that the text of the first one is read as. -/
structure KeyReadsAs (k k' : KeyField) : Prop where
  field : k'.field = k.field
  plain : k'.value.plain? true = some k'.value
  takes : Json.Takes (Json.Reader.value keyDepth) (Json.Writer.compact k.value) k'.value

/-- The text of a cursor is read as another one: a position as itself, a key set field by field. -/
inductive ReadsAs : Cursor → Cursor → Prop
  | position {index : Nat} : index ≤ Json.maxUInt64 → ReadsAs (.position index) (.position index)
  | keyset {fields fields' : List KeyField} : fields ≠ [] → List.Forall₂ KeyReadsAs fields fields' →
      ReadsAs (.keyset fields) (.keyset fields')

theorem plain?_of_depth {v : Json.Value} (h : v.depth = 0) (alone : Bool) :
    v.plain? alone = some v := by
  cases v with
  | null | bool | num | str => rfl
  | arr | obj => rw [Json.Value.depth] at h; omega

/-- A plain value that reads back is read as itself, also an array or an object. -/
theorem KeyReadsAs.of_readsBack {k : KeyField} (hplain : k.value.plain? true = some k.value)
    (hreads : k.value.ReadsBack) (hdepth : k.value.depth ≤ keyDepth) : KeyReadsAs k k :=
  ⟨rfl, hplain, Json.takes_value hreads hdepth⟩

theorem Readable.readsAs {c : Cursor} (h : c.Readable) : c.ReadsAs c := by
  cases c with
  | position index => exact .position h
  | keyset fields =>
    refine .keyset h.1 (List.forall₂_same.2 fun k hk => ?_)
    obtain ⟨hdepth, hreads⟩ := h.2 k hk
    exact .of_readsBack (plain?_of_depth hdepth true) hreads (by omega)

theorem read?_toJson {k : KeyField} (hplain : k.value.plain? true = some k.value) :
    KeyField.read? k.toJson = some k := by
  simp [KeyField.read?, KeyField.toJson, Json.Value.recordOf?, Json.Value.record?,
    Json.Record.required?, Json.Record.find?, Json.Value.text?, hplain]

theorem mapM_read?_toJson {fields fields' : List KeyField}
    (h : List.Forall₂ KeyReadsAs fields fields') :
    (fields'.map KeyField.toJson).mapM KeyField.read? = some fields' := by
  induction h with
  | nil => rfl
  | cons hk _ ih =>
    rw [List.map_cons, List.mapM_cons, read?_toJson hk.plain, ih]
    rfl

theorem uint64?_nat {n : Nat} (h : n ≤ Json.maxUInt64) : (Json.Value.nat n).uint64? = some n := by
  rw [Json.Value.nat, Json.Value.uint64?, if_pos ⟨Int.natCast_nonneg n, Int.ofNat_le.2 h⟩,
    Int.toNat_natCast]

theorem readVersion?_version : readVersion? (.nat version) = some version := by decide

section
variable {c d : Cursor} (h : c.ReadsAs d)
include h

/-- The payload of a cursor that was read is read as that cursor. -/
theorem readPayload?_payload : readPayload? d.payload = some (version, d) := by
  cases h with
  | position hindex =>
    have hindex := uint64?_nat hindex
    simp [readPayload?, payload, Json.Value.recordOf?, Json.Value.record?,
      Json.Record.required?, Json.Record.find?, Json.Value.text?, readVersion?_version, hindex]
  | keyset _ hfields =>
    have hfields := mapM_read?_toJson hfields
    simp [readPayload?, payload, Json.Value.recordOf?, Json.Value.record?,
      Json.Record.required?, Json.Record.find?, Json.Value.text?, Json.Value.listOf?,
      readVersion?_version, hfields, keysetKind, positionKind]

theorem checked_version : checked (version, d) = .ok d := by
  cases h with
  | position _ => rfl
  | keyset hne hfields =>
    cases hfields with
    | nil => exact absurd rfl hne
    | cons _ _ => rfl

end

/-! ### Texts -/

theorem takes_toJson {k k' : KeyField} (h : KeyReadsAs k k') :
    Json.Takes (Json.Reader.value (keyDepth + 1)) (Json.Writer.compact k.toJson) k'.toJson := by
  have hname : Json.Takes (Json.Reader.value keyDepth) (Json.Writer.compact (.str k.field))
      (.str k'.field) := h.field ▸ Json.takes_value trivial (Nat.zero_le _)
  exact Json.takes_value_obj (.cons ⟨rfl, hname⟩ (.cons ⟨rfl, h.takes⟩ .nil))

theorem takes_fields {fields fields' : List KeyField}
    (h : List.Forall₂ KeyReadsAs fields fields') :
    Json.Takes (Json.Reader.value (keyDepth + 2))
      (Json.Writer.compact (.arr (fields.map KeyField.toJson)))
      (.arr (fields'.map KeyField.toJson)) := by
  refine Json.takes_value_arr ?_ ?_
  · exact List.forall_mem_map.2 fun k _ => ⟨_, _, rfl, by decide, by decide⟩
  · rw [List.forall₂_map_left_iff, List.forall₂_map_right_iff]
    exact h.imp fun _ _ hk => takes_toJson hk

theorem fitsJson_nat {n : Nat} (h : n ≤ Json.maxUInt64) : Json.FitsJson n :=
  ⟨Int.le_trans (by decide) (Int.natCast_nonneg n), Int.ofNat_le.2 h⟩

theorem takes_nat {n : Nat} (h : n ≤ Json.maxUInt64) (depth : Nat) :
    Json.Takes (Json.Reader.value depth) (Json.Writer.compact (.nat n)) (.nat n) :=
  Json.takes_value (Json.readsBack_int (fitsJson_nat h)) (Nat.zero_le _)

/-- The text of a payload is read as the payload of the cursor that is read. -/
theorem takes_payload {c d : Cursor} (h : c.ReadsAs d) :
    Json.Takes (Json.Reader.value Json.maxDepth) (Json.Writer.compact c.payload) d.payload := by
  have hkind : ∀ kind : String, Json.Takes (Json.Reader.value 126) (Json.Writer.compact (.str kind))
      (.str kind) := fun _ => Json.takes_value trivial (Nat.zero_le _)
  have hversion := takes_nat (n := version) (by decide) 126
  cases h with
  | position hindex =>
    exact Json.takes_value_obj (.cons ⟨rfl, hkind _⟩ (.cons ⟨rfl, hversion⟩
      (.cons ⟨rfl, takes_nat hindex 126⟩ .nil)))
  | keyset _ hfields =>
    exact Json.takes_value_obj (.cons ⟨rfl, hkind _⟩ (.cons ⟨rfl, hversion⟩
      (.cons ⟨rfl, takes_fields hfields⟩ .nil)))

/-- The text of a payload is not taken for a short form. -/
theorem afterBytes?_payload (c : Cursor) :
    afterBytes? (Utf8.encode shortForm) (Utf8.encode (Json.Writer.compact c.payload)) = none := by
  have hshort : ∃ rest, Utf8.encode shortForm = 97 :: rest := ⟨_, by rfl⟩
  have htext : ∃ rest, Utf8.encode (Json.Writer.compact c.payload) = 123 :: rest := by
    cases c <;> exact ⟨_, rfl⟩
  obtain ⟨rest, hrest⟩ := hshort
  obtain ⟨text, htext⟩ := htext
  rw [hrest, htext, afterBytes?]
  rfl

/-- What is written is read, also with blanks around it. -/
theorem decode_of_readsAs {c d : Cursor} (h : c.ReadsAs d) {before after : List Char}
    (hbefore : ∀ b ∈ before, isBlank b = true) (hafter : ∀ b ∈ after, isBlank b = true) :
    decode (String.ofList (before ++ c.encode.toList ++ after)) = .ok d := by
  have hblank : ∀ b ∈ c.encode.toList, isBlank b = false := by
    rw [encode, String.toList_ofList]
    exact fun b hb => Base64.isBlank_of_mem_encode hb
  have htrim := trimBlanks_append hbefore hblank hafter
  rw [decode, String.toList_ofList, htrim, encode, String.toList_ofList, Base64.decode?_encode]
  simp only [ofBytes, afterBytes?_payload, Utf8.decode?_encode, Option.bind_some,
    Json.ofChars?_of_takes (takes_payload h), readPayload?_payload h, checked_version h]

/-- What reads back reads back with blanks around it, too. -/
theorem decode_of_readable {c : Cursor} (h : c.Readable) {before after : List Char}
    (hbefore : ∀ b ∈ before, isBlank b = true) (hafter : ∀ b ∈ after, isBlank b = true) :
    decode (String.ofList (before ++ c.encode.toList ++ after)) = .ok c :=
  decode_of_readsAs h.readsAs hbefore hafter

theorem decode_encode_of_readsAs {c d : Cursor} (h : c.ReadsAs d) : decode c.encode = .ok d := by
  have hdecode := decode_of_readsAs h (List.forall_mem_nil _) (List.forall_mem_nil _)
  rwa [List.nil_append, List.append_nil, String.ofList_toList] at hdecode

theorem decode_encode {c : Cursor} (h : c.Readable) : decode c.encode = .ok c :=
  decode_encode_of_readsAs h.readsAs

/-! ### Cursors of rows -/

theorem isKey_of_admits {kind : SortKind} {v : Json.Value} (hk : kind.IsExact)
    (hv : kind.Admits v) : IsKey v := by
  rcases hv with rfl | hv
  · exact ⟨rfl, trivial⟩
  cases kind with
  | integer =>
    obtain ⟨i, rfl, hi⟩ := SortKind.exists_int_of_ofValue? hv
    simp only [Json.fitsInt64, Bool.and_eq_true, decide_eq_true_eq] at hi
    exact ⟨rfl, Json.readsBack_int ⟨hi.1, Int.le_trans hi.2 (by decide)⟩⟩
  | text =>
    obtain ⟨t, rfl⟩ := SortKind.exists_str_of_ofValue? hv
    exact ⟨rfl, trivial⟩
  | truth =>
    obtain ⟨b, rfl⟩ := SortKind.exists_bool_of_ofValue? hv
    exact ⟨rfl, trivial⟩
  | float | collection => cases hk

/-- The cursor of a row reads back. -/
theorem decode_encode_ofRow {sort : SortOrder} {row : Json.Row} (hne : sort ≠ [])
    (hkinds : SortOrder.HasKinds sort [row]) :
    decode (ofRow row sort).encode = .ok (ofRow row sort) := by
  refine decode_encode ⟨by simpa using hne, fun k hk => ?_⟩
  obtain ⟨s, hs, rfl⟩ := List.mem_map.1 hk
  obtain ⟨kind, hexact, hvalues⟩ := hkinds s hs
  exact isKey_of_admits hexact (hvalues row (List.mem_cons_self ..))

end Cursor
end RowQuery
