import Mathlib.Data.List.Forall2
import Mathlib.Data.List.TakeDrop
import RowQuery.Json.Reader
import RowQuery.Json.Writer
/-!
Compact JSON text reads back.

Each reader takes just the text that the writer made of a value and leaves what follows. A number
needs something behind it that does not prolong it, which closing brackets and commas are. Integers
of 64 bits, signed or not, read back; of floats this is a condition here. Without it a text is read
as a value of the same shape whose numbers are those that the texts of the numbers are read as.
-/

namespace RowQuery.Json

open Writer Reader

/-! ### Strings -/

section
variable {c : Char} {rest : List Char}

theorem hex4_of_lt {n : Nat} (h : n < 0x100) (rest : List Char) :
    hex4 ('0' :: '0' :: Hex.digit (n / 16) :: Hex.digit (n % 16) :: rest) = some (n, rest) := by
  have hzero : Hex.value? '0' = some 0 := by decide
  simp only [hex4, hzero, Hex.value?_digit (show n / 16 < 16 by omega),
    Hex.value?_digit (show n % 16 < 16 by omega), Option.bind_eq_bind, Option.bind_some]
  rw [show ((0 * 16 + 0) * 16 + n / 16) * 16 + n % 16 = n by omega]

theorem codeEscape_of_lt (h : c.toNat < 0x20) (rest : List Char) :
    codeEscape ('0' :: '0' :: Hex.digit (c.toNat / 16) :: Hex.digit (c.toNat % 16) :: rest)
      = some (c, rest) := by
  rw [codeEscape, hex4_of_lt (by omega)]
  simp only [Option.bind_eq_bind, Option.bind_some]
  rw [if_neg (by omega), if_neg (by omega), Char.ofNat_toNat]

/-- One character of a string is read back, with the string behind it. -/
theorem stringTail_charText {fuel : Nat} {cs rest' : List Char}
    (h : stringTail fuel rest = some (cs, rest')) :
    stringTail (fuel + 1) (charText c ++ rest) = some (c :: cs, rest') := by
  have hshort : ∀ e, shortEscape? e = some c → e ≠ 'u' →
      stringTail (fuel + 1) ('\\' :: e :: rest) = some (c :: cs, rest') := by
    intro e he hu
    simp [stringTail, escape, hu, he, h]
  unfold charText
  split
  · next hc => exact hshort '"' (by rw [hc]; rfl) (by decide)
  split
  · next hc => exact hshort '\\' (by rw [hc]; rfl) (by decide)
  split
  · next hc => exact hshort 'b' (by rw [hc]; rfl) (by decide)
  split
  · next hc => exact hshort 'f' (by rw [hc]; rfl) (by decide)
  split
  · next hc => exact hshort 'n' (by rw [hc]; rfl) (by decide)
  split
  · next hc => exact hshort 'r' (by rw [hc]; rfl) (by decide)
  split
  · next hc => exact hshort 't' (by rw [hc]; rfl) (by decide)
  split
  · next hc => simp [stringTail, escape, codeEscape_of_lt hc, h]
  · next hquote hslash _ _ _ _ _ hcontrol =>
    simp [stringTail, hquote, hslash, hcontrol, h]

theorem stringTail_flatMap : ∀ (cs : List Char) {fuel : Nat} (rest : List Char),
    cs.length < fuel → stringTail fuel (cs.flatMap charText ++ '"' :: rest) = some (cs, rest)
  | [], fuel + 1, rest, _ => by simp [stringTail]
  | c :: cs, fuel + 1, rest, h => by
    rw [List.flatMap_cons, List.append_assoc]
    exact stringTail_charText (stringTail_flatMap cs rest (by simpa using h))

theorem length_le_flatMap_charText (cs : List Char) :
    cs.length ≤ (cs.flatMap charText).length := by
  induction cs with
  | nil => exact Nat.le_refl 0
  | cons c cs ih =>
    have hpos : 0 < (charText c).length := by
      unfold charText
      repeat' split
      all_goals simp
    rw [List.flatMap_cons, List.length_append, List.length_cons]
    omega

/-- A string reads back. -/
theorem string_stringText (s : String) (rest : List Char) :
    string (stringText s ++ rest) = some (s, rest) := by
  have hlength := length_le_flatMap_charText s.toList
  have htail : stringTail ((s.toList.flatMap charText ++ '"' :: rest).length + 1)
      (s.toList.flatMap charText ++ '"' :: rest) = some (s.toList, rest) :=
    stringTail_flatMap _ _ (by rw [List.length_append]; omega)
  rw [stringText, List.cons_append, List.append_assoc, List.singleton_append, string, htail]
  simp

end

/-! ### Numbers -/

/-- A text that does not prolong a number before it. -/
def StopsNumber (rest : List Char) : Prop :=
  ∀ c ∈ rest.head?, c.isDigit = false ∧ c ≠ '.' ∧ c ≠ 'e' ∧ c ≠ 'E'

/-- The text of a number begins like one and reads back before whatever does not prolong it. -/
structure Number.ReadsBack (n : Number) : Prop where
  begins : ∃ c cs, numberText n = c :: cs ∧ (c = '-' ∨ c.isDigit = true)
  reads : ∀ rest, StopsNumber rest → number (numberText n ++ rest) = some (n, rest)

section
variable {ds rest : List Char} (hrest : ∀ c ∈ rest.head?, c.isDigit = false)
include hrest

/-- Digits are read up to what is no digit. -/
theorem digits_append (hds : ∀ d ∈ ds, d.isDigit = true) (hne : ds ≠ []) :
    digits (ds ++ rest) = some (ds, rest) := by
  have htake : rest.takeWhile Char.isDigit = [] ∧ rest.dropWhile Char.isDigit = rest := by
    cases rest with
    | nil => exact ⟨rfl, rfl⟩
    | cons c rest => simp [hrest c rfl]
  have hspan : (ds ++ rest).span Char.isDigit = (ds, rest) := by
    rw [List.span_eq_takeWhile_dropWhile, List.takeWhile_append_of_pos hds,
      List.dropWhile_append_of_pos hds, htake.1, htake.2, List.append_nil]
  rw [digits, hspan]
  cases ds with
  | nil => exact absurd rfl hne
  | cons => rfl

/-- Digits that can stand before a point: no zero comes before another digit. -/
structure IsWhole (ds : List Char) : Prop where
  digits : ∀ d ∈ ds, d.isDigit = true
  nonempty : ds ≠ []
  zero : ∀ more, ds = '0' :: more → more = []

theorem wholePart_append (h : IsWhole ds) : wholePart (ds ++ rest) = some (ds, rest) := by
  have hdigits := digits_append hrest h.digits h.nonempty
  obtain ⟨c, more, rfl⟩ := List.exists_cons_of_ne_nil h.nonempty
  by_cases hc : c = '0'
  · subst hc
    rw [h.zero more rfl]
    rfl
  · rw [List.cons_append] at hdigits ⊢
    rw [wholePart]
    · exact hdigits
    · exact fun _ heq => hc (List.cons.inj heq).1

end

theorem exists_toDigits_ne_zero : ∀ {n : Nat}, n ≠ 0 →
    ∃ c cs, Nat.toDigits 10 n = c :: cs ∧ c ≠ '0'
  | n, h => by
    rw [Nat.toDigits_eq_if (by decide)]
    by_cases hn : n < 10
    · rw [if_pos hn]
      have hdigit : ∀ n < 10, n ≠ 0 → Nat.digitChar n ≠ '0' := by decide
      exact ⟨_, _, rfl, hdigit n hn h⟩
    · rw [if_neg hn]
      obtain ⟨c, cs, hcs, hc⟩ := exists_toDigits_ne_zero (n := n / 10) (by omega)
      exact ⟨c, cs ++ [_], by rw [hcs]; rfl, hc⟩
  termination_by n => n
  decreasing_by omega

theorem isDigit_of_mem_toDigits {n : Nat} {d : Char} (hd : d ∈ Nat.toDigits 10 n) :
    d.isDigit = true :=
  Nat.isDigit_of_mem_toDigits (b := 10) (n := n) (by decide) (by decide) hd

theorem isWhole_toDigits (n : Nat) : IsWhole (Nat.toDigits 10 n) where
  digits _ := isDigit_of_mem_toDigits
  nonempty := Nat.toDigits_ne_nil
  zero more hmore := by
    by_cases hn : n = 0
    · rw [hn, Nat.toDigits_zero] at hmore
      exact (List.cons.inj hmore).2.symm
    · obtain ⟨c, cs, hcs, hc⟩ := exists_toDigits_ne_zero hn
      exact absurd (List.cons.inj (hcs.symm.trans hmore)).1 hc

theorem unsigned_toDigits {negative : Bool} {n : Nat} {i : Int} {rest : List Char}
    (hrest : StopsNumber rest)
    (hi : Literal.int? ⟨Nat.toDigits 10 n, [], none⟩ negative = some i) :
    unsigned negative (Nat.toDigits 10 n ++ rest) = some (.int i, rest) := by
  have hwhole := wholePart_append (fun c hc => (hrest c hc).1) (isWhole_toDigits n)
  have hfraction : fractionPart rest = some ([], rest) := by
    cases rest with
    | nil => rfl
    | cons c rest =>
      rw [fractionPart]
      exact fun _ h => (hrest c rfl).2.1 (List.cons.inj h).1
  have hexponent : exponentPart rest = some (none, rest) := by
    cases rest with
    | nil => rfl
    | cons c rest =>
      obtain ⟨-, -, he, hE⟩ := hrest c rfl
      rw [exponentPart, if_neg (by simp [he, hE])]
  simp only [unsigned, hwhole, hfraction, hexponent, Option.bind_eq_bind,
    Option.bind_some, Literal.number?, hi]

/-- The integers that a JSON text can hold: those of 64 bits, signed or not. -/
def FitsJson (i : Int) : Prop := minInt64 ≤ i ∧ i ≤ maxUInt64

theorem exists_isDigit_toDigits (n : Nat) :
    ∃ c cs, Nat.toDigits 10 n = c :: cs ∧ c.isDigit = true := by
  obtain ⟨c, cs, hcs⟩ := List.exists_cons_of_ne_nil (Nat.toDigits_ne_nil (b := 10) (n := n))
  refine ⟨c, cs, hcs, isDigit_of_mem_toDigits (n := n) ?_⟩
  rw [hcs]
  exact List.mem_cons_self ..

theorem int?_toDigits {i : Int} (h : FitsJson i) :
    Literal.int? ⟨Nat.toDigits 10 i.natAbs, [], none⟩ (decide (i < 0)) = some i := by
  obtain ⟨hmin, hmax⟩ := h
  have hmin' : minInt64 = -(2 ^ 63) := rfl
  have hmax' : (maxUInt64 : Int) = 2 ^ 64 - 1 := rfl
  simp only [Literal.int?, Nat.ofDigitChars_ten_toDigits, List.isEmpty_nil, Option.isSome_none,
    Bool.not_true, Bool.or_self, Bool.false_eq_true, if_false, decide_eq_true_eq]
  by_cases hneg : i < 0
  · rw [if_pos hneg, if_pos (by omega)]
    congr 1
    omega
  · rw [if_neg hneg, if_pos (by omega)]
    congr 1
    omega

theorem readsBack_int {i : Int} (h : FitsJson i) : Number.ReadsBack (.int i) := by
  have hint := int?_toDigits h
  obtain ⟨c, cs, hcs, hc⟩ := exists_isDigit_toDigits i.natAbs
  by_cases hneg : i < 0
  · have htext : numberText (.int i) = '-' :: Nat.toDigits 10 i.natAbs := by
      rw [numberText, intText, if_pos hneg]; rfl
    rw [decide_eq_true hneg] at hint
    refine ⟨⟨_, _, htext, .inl rfl⟩, fun rest hrest => ?_⟩
    rw [htext, List.cons_append, number]
    exact unsigned_toDigits hrest hint
  · have htext : numberText (.int i) = Nat.toDigits 10 i.natAbs := by
      rw [numberText, intText, if_neg hneg]; rfl
    rw [decide_eq_false hneg] at hint
    refine ⟨⟨c, cs, htext.trans hcs, .inr hc⟩, fun rest hrest => ?_⟩
    rw [htext, number]
    · exact unsigned_toDigits hrest hint
    · rw [hcs, List.cons_append]
      intro _ h
      rw [(List.cons.inj h).1] at hc
      exact absurd hc (by decide)

/-! ### Values -/

mutual

/-- How deep arrays and objects stand in one another. -/
def Value.depth : Value → Nat
  | .arr items => 1 + Value.depthItems items
  | .obj members => 1 + Value.depthMembers members
  | .null | .bool _ | .num _ | .str _ => 0

/-- The greatest depth of an item. -/
def Value.depthItems : List Value → Nat
  | [] => 0
  | v :: rest => max (Value.depth v) (Value.depthItems rest)

/-- The greatest depth of the value of a member. -/
def Value.depthMembers : List (String × Value) → Nat
  | [] => 0
  | (_, v) :: rest => max (Value.depth v) (Value.depthMembers rest)

end

mutual

/-- Every number in the value reads back. -/
def Value.ReadsBack : Value → Prop
  | .num n => n.ReadsBack
  | .arr items => Value.ReadsBackItems items
  | .obj members => Value.ReadsBackMembers members
  | .null | .bool _ | .str _ => True

/-- `ReadsBack` of every item. -/
def Value.ReadsBackItems : List Value → Prop
  | [] => True
  | v :: rest => Value.ReadsBack v ∧ Value.ReadsBackItems rest

/-- `ReadsBack` of the value of every member. -/
def Value.ReadsBackMembers : List (String × Value) → Prop
  | [] => True
  | (_, v) :: rest => Value.ReadsBack v ∧ Value.ReadsBackMembers rest

end

theorem isBlank_of_isDigit {c : Char} (h : c.isDigit = true) : Reader.isBlank c = false := by
  cases hb : Reader.isBlank c with
  | false => rfl
  | true =>
    simp only [Reader.isBlank, Bool.or_eq_true, beq_iff_eq] at hb
    rcases hb with ((rfl | rfl) | rfl) | rfl <;> exact absurd h (by decide)

/-- What the text of a value begins with. -/
theorem exists_compact_eq_cons {v : Value} (h : v.ReadsBack) :
    ∃ c cs, compact v = c :: cs ∧ Reader.isBlank c = false ∧ c ≠ ']' ∧ c ≠ '}' := by
  cases v with
  | null | str | arr | obj => exact ⟨_, _, rfl, by decide, by decide, by decide⟩
  | bool b => cases b <;> exact ⟨_, _, rfl, by decide, by decide, by decide⟩
  | num n =>
    obtain ⟨⟨c, cs, hcs, hc⟩, -⟩ := h
    refine ⟨c, cs, hcs, ?_⟩
    rcases hc with rfl | hc
    · exact ⟨by decide, by decide, by decide⟩
    · refine ⟨isBlank_of_isDigit hc, ?_, ?_⟩ <;> (rintro rfl; exact absurd hc (by decide))

theorem dropBlanks_cons {c : Char} (h : Reader.isBlank c = false) (rest : List Char) :
    dropBlanks (c :: rest) = c :: rest := by
  rw [dropBlanks, List.dropWhile_cons, h]; rfl

/-! ### Collections -/

/-- Texts with commas between them. -/
def separated : List (List Char) → List Char
  | [] => []
  | [text] => text
  | text :: next :: rest => text ++ ',' :: separated (next :: rest)

theorem compactItems_eq : ∀ items : List Value,
    compactItems items = separated (items.map compact)
  | [] => rfl
  | [_] => rfl
  | v :: w :: rest => by
    rw [compactItems, compactItems_eq (w :: rest)]
    rfl

/-- The text of a member. -/
def memberText (m : String × Value) : List Char := stringText m.1 ++ ':' :: compact m.2

theorem compactMembers_eq : ∀ members : List (String × Value),
    compactMembers members = separated (members.map memberText)
  | [] => rfl
  | [_] => rfl
  | (k, v) :: m :: rest => by
    rw [compactMembers, compactMembers_eq (m :: rest)]
    simp [separated, memberText]

theorem length_le_separated : ∀ texts : List (List Char),
    texts.length ≤ (separated texts).length + 1
  | [] => by simp
  | [_] => by simp
  | text :: next :: rest => by
    have ih := length_le_separated (next :: rest)
    rw [separated, List.length_append]
    simp only [List.length_cons] at ih ⊢
    omega

theorem stopsNumber_comma (rest : List Char) : StopsNumber (',' :: rest) := by
  rintro c ⟨⟩
  decide

section
variable {α : Type} {item : Reader α} {close : Char}

/-- The reader takes just a text, and reads it as an item. -/
def Takes (item : Reader α) (text : List Char) (x : α) : Prop :=
  ∀ rest, StopsNumber rest → item (text ++ rest) = some (x, rest)

theorem sequence_separated (hclose : close ≠ ',') (hblank : Reader.isBlank close = false)
    (hstops : ∀ rest, StopsNumber (close :: rest)) (rest : List Char) :
    ∀ {texts : List (List Char)} {xs : List α} (fuel : Nat), texts ≠ [] → texts.length ≤ fuel →
      List.Forall₂ (Takes item) texts xs →
      Reader.sequence item close fuel (separated texts ++ close :: rest) = some (xs, rest)
  | [], _, _, hne, _, _ => absurd rfl hne
  | [_], [_], fuel + 1, _, _, .cons hx .nil => by
    simp only [separated, Reader.sequence, hx _ (hstops rest), dropBlanks_cons hblank,
      Option.bind_eq_bind, Option.bind_some, if_neg hclose, if_true]
  | text :: next :: texts, x :: xs, fuel + 1, _, hfuel, .cons hx hxs => by
    have ih := sequence_separated hclose hblank hstops rest fuel (List.cons_ne_nil next texts)
      (by simpa using hfuel) hxs
    simp only [separated, Reader.sequence, List.append_assoc, List.cons_append,
      hx _ (stopsNumber_comma _), dropBlanks_cons (show Reader.isBlank ',' = false by decide),
      Option.bind_eq_bind, Option.bind_some, if_true]
    rw [ih]
    rfl

theorem collection_separated (hclose : close ≠ ',') (hblank : Reader.isBlank close = false)
    (hstops : ∀ rest, StopsNumber (close :: rest)) {texts : List (List Char)} {xs : List α}
    (hbegins : ∀ text ∈ texts, ∃ c cs, text = c :: cs ∧ Reader.isBlank c = false ∧ c ≠ close)
    (hxs : List.Forall₂ (Takes item) texts xs) (rest : List Char) :
    collection item close (separated texts ++ close :: rest) = some (xs, rest) := by
  match texts, hxs with
  | [], .nil => simp [separated, collection, dropBlanks_cons hblank]
  | text :: more, hxs =>
    obtain ⟨c, cs, hcs, hc, hne⟩ := hbegins text (List.mem_cons_self ..)
    have htext : ∃ cs', separated (text :: more) ++ close :: rest = c :: cs' := by
      cases more <;> simp [separated, hcs]
    have hlength := length_le_separated (text :: more)
    have hseq := sequence_separated hclose hblank hstops rest
      (separated (text :: more) ++ close :: rest).length (List.cons_ne_nil _ _)
      (by simp only [List.length_append, List.length_cons] at hlength ⊢; omega) hxs
    obtain ⟨cs', hcs'⟩ := htext
    rw [hcs'] at hseq ⊢
    simp only [collection, dropBlanks_cons hc, if_neg hne]
    exact hseq

end

/-! ### Documents -/

theorem value_eq_scalar {c : Char} (hblank : Reader.isBlank c = false) (harr : c ≠ '[')
    (hobj : c ≠ '{') (depth : Nat) (rest : List Char) :
    value depth (c :: rest) = scalar (c :: rest) := by
  cases depth with
  | zero => simp only [value, dropBlanks_cons hblank]
  | succ depth =>
    simp only [value, dropBlanks_cons hblank]
    split
    · next heq => exact absurd (List.cons.inj heq).1 harr
    · next heq => exact absurd (List.cons.inj heq).1 hobj
    · rfl

theorem value_arr (depth : Nat) (rest : List Char) :
    value (depth + 1) ('[' :: rest)
      = (collection (value depth) ']' rest).map fun (items, s) => (.arr items, s) := rfl

theorem value_obj (depth : Nat) (rest : List Char) :
    value (depth + 1) ('{' :: rest)
      = (collection (member (value depth)) '}' rest).map
          fun (members, s) => (.obj members, s) := rfl

theorem takes_value_num {n n' : Number}
    (hbegins : ∃ c cs, numberText n = c :: cs ∧ (c = '-' ∨ c.isDigit = true))
    (h : Takes number (numberText n) n') (depth : Nat) :
    Takes (value depth) (compact (.num n)) (.num n') := by
  intro rest hrest
  obtain ⟨c, cs, hcs, hc⟩ := hbegins
  have hreads := h rest hrest
  have hne : ∀ d, d ≠ '-' → d.isDigit = false → c ≠ d := by
    rintro d hd hdigit rfl
    rcases hc with hc | hc
    · exact hd hc
    · rw [hdigit] at hc; exact absurd hc (by decide)
  have hblank : Reader.isBlank c = false := by
    rcases hc with rfl | hc
    · decide
    · exact isBlank_of_isDigit hc
  rw [compact]
  rw [hcs, List.cons_append] at hreads ⊢
  rw [value_eq_scalar hblank (hne _ (by decide) (by decide)) (hne _ (by decide) (by decide)),
    scalar, hreads]
  · rfl
  all_goals exact fun _ h => hne _ (by decide) (by decide) (List.cons.inj h).1

theorem exists_memberText_eq_cons (m : String × Value) :
    ∃ c cs, memberText m = c :: cs ∧ Reader.isBlank c = false ∧ c ≠ '}' :=
  ⟨_, _, rfl, by decide, by decide⟩

section
variable {depth : Nat}

theorem takes_member {m m' : String × Value} (hname : m'.1 = m.1)
    (h : Takes (value depth) (compact m.2) m'.2) :
    Takes (member (value depth)) (memberText m) m' := by
  intro rest hrest
  have hquote : dropBlanks (memberText m ++ rest) = memberText m ++ rest :=
    dropBlanks_cons (by decide) _
  rw [member, hquote, memberText, List.append_assoc, string_stringText]
  simp only [Option.bind_eq_bind, Option.bind_some, List.cons_append,
    dropBlanks_cons (show Reader.isBlank ':' = false by decide), h rest hrest, ← hname]

/-- An array is read as that of what its items are read as. -/
theorem takes_value_arr {items ws : List Value}
    (hbegins : ∀ v ∈ items, ∃ c cs, compact v = c :: cs ∧ Reader.isBlank c = false ∧ c ≠ ']')
    (h : List.Forall₂ (fun v w => Takes (value depth) (compact v) w) items ws) :
    Takes (value (depth + 1)) (compact (.arr items)) (.arr ws) := by
  intro rest _
  rw [compact, compactItems_eq, List.cons_append, List.append_assoc, value_arr,
    List.singleton_append, collection_separated (by decide) (by decide)
    (fun _ => by rintro c ⟨⟩; decide) (List.forall_mem_map.2 hbegins)
    (List.forall₂_map_left_iff.2 h)]
  rfl

/-- An object is read as that of what the values of its members are read as. -/
theorem takes_value_obj {members ms : List (String × Value)}
    (h : List.Forall₂ (fun m m' => m'.1 = m.1 ∧ Takes (value depth) (compact m.2) m'.2)
      members ms) :
    Takes (value (depth + 1)) (compact (.obj members)) (.obj ms) := by
  intro rest _
  rw [compact, compactMembers_eq, List.cons_append, List.append_assoc, value_obj,
    List.singleton_append, collection_separated (by decide) (by decide)
    (fun _ => by rintro c ⟨⟩; decide)
    (List.forall_mem_map.2 fun m _ => exists_memberText_eq_cons m)
    (List.forall₂_map_left_iff.2 (h.imp fun _ _ hm => takes_member hm.1 hm.2))]
  rfl

end

mutual

/-- A value reads back from its compact text, up to the depth allowed. -/
theorem takes_value : ∀ {v : Value} {depth : Nat}, v.ReadsBack → v.depth ≤ depth →
    Takes (value depth) (compact v) v
  | .null, depth, _, _ => fun rest _ => by
    simp only [compact, List.cons_append, List.nil_append]
    rw [value_eq_scalar (by decide) (by decide) (by decide)]
    rfl
  | .bool b, depth, _, _ => fun rest _ => by
    cases b <;>
    · simp only [compact, List.cons_append, List.nil_append]
      rw [value_eq_scalar (by decide) (by decide) (by decide)]
      rfl
  | .num n, depth, h, _ => takes_value_num h.begins h.reads depth
  | .str s, depth, _, _ => fun rest _ => by
    have hstring := string_stringText s rest
    rw [compact]
    rw [stringText, List.cons_append] at hstring ⊢
    rw [value_eq_scalar (by decide) (by decide) (by decide), scalar, hstring]
    rfl
  | .arr items, depth + 1, h, hdepth => by
    have hitems := @takes_items _ depth h (by rw [Value.depth] at hdepth; omega)
    exact takes_value_arr (fun v hv => (hitems v hv).1)
      (List.forall₂_same.2 fun v hv => (hitems v hv).2)
  | .obj members, depth + 1, h, hdepth => by
    have hmembers := @takes_members _ depth h (by rw [Value.depth] at hdepth; omega)
    exact takes_value_obj (List.forall₂_same.2 fun m hm => ⟨rfl, hmembers m hm⟩)
  | .arr _, 0, _, hdepth => by rw [Value.depth] at hdepth; omega
  | .obj _, 0, _, hdepth => by rw [Value.depth] at hdepth; omega

/-- `takes_value` for the items of an array, with what each begins with. -/
theorem takes_items : ∀ {items : List Value} {depth : Nat}, Value.ReadsBackItems items →
    Value.depthItems items ≤ depth → ∀ v ∈ items,
      (∃ c cs, compact v = c :: cs ∧ Reader.isBlank c = false ∧ c ≠ ']') ∧
        Takes (value depth) (compact v) v
  | [], _, _, _ => fun _ hv => absurd hv List.not_mem_nil
  | v :: rest, depth, h, hdepth => by
    rw [Value.depthItems] at hdepth
    intro w hw
    rcases List.mem_cons.1 hw with hw | hw
    · rw [hw]
      obtain ⟨c, cs, hcs, hblank, hclose, -⟩ := exists_compact_eq_cons h.1
      exact ⟨⟨c, cs, hcs, hblank, hclose⟩, takes_value h.1 (by omega)⟩
    · exact takes_items h.2 (by omega) w hw

/-- `takes_value` for the values of the members of an object. -/
theorem takes_members : ∀ {members : List (String × Value)} {depth : Nat},
    Value.ReadsBackMembers members → Value.depthMembers members ≤ depth →
      ∀ m ∈ members, Takes (value depth) (compact m.2) m.2
  | [], _, _, _ => fun _ hm => absurd hm List.not_mem_nil
  | (_, v) :: rest, depth, h, hdepth => by
    rw [Value.depthMembers] at hdepth
    intro m hm
    rcases List.mem_cons.1 hm with hm | hm
    · rw [hm]
      exact takes_value h.1 (Nat.le_trans (Nat.le_max_left ..) hdepth)
    · exact takes_members h.2 (by omega) m hm

end

/-- The compact text of a value is the text of what it is read as. -/
theorem ofChars?_of_takes {v w : Value} (h : Takes (value maxDepth) (compact v) w) :
    Value.ofChars? (compact v) = some w := by
  have hvalue := h [] (fun _ h => absurd h (by simp))
  rw [List.append_nil] at hvalue
  rw [Value.ofChars?, hvalue]
  rfl

end RowQuery.Json
