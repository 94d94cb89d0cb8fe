import RowQuery.Proofs.Registry
/-!
The segments of a path into a JSON column.

A path is taken when each of its segments is a plain identifier. The rejection of a segment shows
its first 64 bytes. Where they end inside a character there is nothing to show and the request is
given up, by the test of the database and by the judgement in memory alike.
-/

namespace RowQuery.PathEq

/-! ### Cuts between characters -/

section
variable {bytes : Nat} {text shown : List Char}

theorem cut?_zero (text : List Char) : cut? 0 text = some [] := by
  rw [cut?]

theorem cut?_nil (bytes : Nat) : cut? bytes [] = some [] := by
  cases bytes <;> rfl

theorem cut?_cons (h : 0 < bytes) (c : Char) (rest : List Char) : cut? bytes (c :: rest)
    = if c.utf8Size ≤ bytes then (cut? (bytes - c.utf8Size) rest).map (c :: ·) else none := by
  obtain ⟨n, rfl⟩ := Nat.exists_eq_succ_of_ne_zero (Nat.ne_of_gt h)
  rfl

theorem utf8ByteSize_ofList_cons (c : Char) (rest : List Char) :
    (String.ofList (c :: rest)).utf8ByteSize
      = c.utf8Size + (String.ofList rest).utf8ByteSize := by
  rw [String.ofList_cons, String.utf8ByteSize_append, String.utf8ByteSize_singleton]

theorem utf8ByteSize_eq_zero_iff : (String.ofList text).utf8ByteSize = 0 ↔ text = [] := by
  cases text with
  | nil => exact ⟨fun _ => rfl, fun _ => rfl⟩
  | cons c rest =>
    have := c.utf8Size_pos
    rw [utf8ByteSize_ofList_cons]
    exact ⟨fun h => absurd h (by omega), fun h => nomatch h⟩

/-- What is cut off is the beginning of the text with as many bytes as were asked for, or with all
that there are. -/
theorem cut?_eq_some_iff : cut? bytes text = some shown ↔ shown <+: text ∧
    (String.ofList shown).utf8ByteSize = min bytes (String.ofList text).utf8ByteSize := by
  induction text generalizing bytes shown with
  | nil =>
    rw [cut?_nil, List.prefix_nil, Option.some_inj, eq_comm, iff_self_and]
    rintro rfl
    exact (Nat.min_zero _).symm
  | cons c rest ih =>
    rcases Nat.eq_zero_or_pos bytes with rfl | hpos
    · rw [Nat.zero_min, utf8ByteSize_eq_zero_iff, cut?_zero, Option.some_inj, eq_comm,
        iff_and_self]
      rintro rfl
      exact List.nil_prefix
    · have hc := c.utf8Size_pos
      rw [cut?_cons hpos, utf8ByteSize_ofList_cons, Option.ite_none_right_eq_some,
        Option.map_eq_some_iff]
      cases shown with
      | nil =>
        -- A byte is asked for and there is one.
        have hempty : (String.ofList []).utf8ByteSize = 0 := utf8ByteSize_eq_zero_iff.2 rfl
        constructor
        · rintro ⟨-, more, -, h⟩
          cases h
        · rintro ⟨-, h⟩
          omega
      | cons d more =>
        rw [utf8ByteSize_ofList_cons, List.cons_prefix_cons]
        constructor
        · rintro ⟨hle, more, hmore, h⟩
          cases h
          obtain ⟨hbegins, hsize⟩ := ih.1 hmore
          exact ⟨⟨rfl, hbegins⟩, by omega⟩
        · rintro ⟨⟨rfl, hbegins⟩, hsize⟩
          exact ⟨by omega, more, ih.2 ⟨hbegins, by omega⟩, rfl⟩

end

/-- A text has more than so many bytes and the last of these is not the last of a character. -/
def BreaksAt (bytes : Nat) (text : String) : Prop :=
  bytes < text.utf8ByteSize ∧ ¬ String.Pos.Raw.IsValid text ⟨bytes⟩

/-- Nothing is cut off just where the cut would go through a character. -/
theorem cut?_eq_none_iff {bytes : Nat} {text : String} :
    cut? bytes text.toList = none ↔ BreaksAt bytes text := by
  have hsome : (∃ shown, cut? bytes text.toList = some shown)
      ↔ (bytes < text.utf8ByteSize → String.Pos.Raw.IsValid text ⟨bytes⟩) := by
    simp only [cut?_eq_some_iff, String.ofList_toList]
    rw [String.Pos.Raw.isValid_iff_exists_append]
    constructor
    · rintro ⟨shown, ⟨more, hmore⟩, hsize⟩ hlt
      refine ⟨String.ofList shown, String.ofList more, ?_, ?_⟩
      · rw [← String.ofList_append, hmore, String.ofList_toList]
      · rw [String.Pos.Raw.ext_iff, String.byteIdx_rawEndPos, hsize,
          Nat.min_eq_left (Nat.le_of_lt hlt)]
    · intro h
      rcases Nat.lt_or_ge bytes text.utf8ByteSize with hlt | hge
      · obtain ⟨front, back, rfl, hfront⟩ := h hlt
        refine ⟨front.toList, ?_, ?_⟩
        · rw [String.toList_append]
          exact List.prefix_append _ _
        · rw [String.ofList_toList, Nat.min_eq_left (Nat.le_of_lt hlt)]
          exact (String.Pos.Raw.ext_iff.1 hfront).symm
      · refine ⟨text.toList, List.prefix_rfl, ?_⟩
        rw [String.ofList_toList, Nat.min_eq_right hge]
  rw [BreaksAt, ← Classical.not_imp, ← hsome, Option.eq_none_iff_forall_ne_some, not_exists]

/-! ### Plain segments -/

/-- A name that may stand in the text of a statement as it is. -/
structure IsPlain (name : String) : Prop where
  nonempty : name.toList ≠ []
  characters : ∀ c ∈ name.toList, c.isAlpha = true ∨ c.isDigit = true ∨ c = '_'
  beginning : ∀ c rest, name.toList = c :: rest → c.isDigit = false
  size : name.utf8ByteSize ≤ 63

theorem isSafe_eq_true_iff {name : String} : isSafe name = true ↔ IsPlain name := by
  unfold isSafe
  split
  · rename_i hname
    exact ⟨fun h => (nomatch h), fun h => absurd hname h.nonempty⟩
  · rename_i c rest hname
    simp only [Bool.and_eq_true, decide_eq_true_eq, List.all_eq_true, Bool.not_eq_true', isWordChar,
      Char.isAlphanum, Bool.or_eq_true, beq_iff_eq, or_assoc]
    constructor
    · rintro ⟨⟨hsize, hchars⟩, hdigit⟩
      refine ⟨by rw [hname]; exact List.cons_ne_nil _ _, hname ▸ hchars, ?_, hsize⟩
      intro d more h
      obtain ⟨rfl, -⟩ := List.cons.inj (hname.symm.trans h)
      exact hdigit
    · intro h
      exact ⟨⟨h.size, hname ▸ h.characters⟩, h.beginning c rest hname⟩

/-- The segment that a configuration is rejected for: those before it are plain. -/
def FirstUnsafe (config : Json.Value) (segment : String) : Prop :=
  ∃ before after, segments config = before ++ segment :: after ∧
    (∀ name ∈ before, IsPlain name) ∧ ¬ IsPlain segment

section
variable {config : Json.Value} {keys : List String} {segment shown : String} {r : Rejection}

theorem find?_unsafe_eq_some_iff :
    (segments config).find? (fun s => !isSafe s) = some segment ↔ FirstUnsafe config segment := by
  simp only [List.find?_eq_some_iff_append, FirstUnsafe, Bool.not_not, Bool.not_eq_true',
    ← Bool.not_eq_true, isSafe_eq_true_iff]
  constructor
  · rintro ⟨hbad, before, after, hsegments, hbefore⟩
    exact ⟨before, after, hsegments, hbefore, hbad⟩
  · rintro ⟨before, after, hsegments, hbefore, hbad⟩
    exact ⟨hbad, before, after, hsegments, hbefore⟩

theorem find?_unsafe_eq_none_iff : (segments config).find? (fun s => !isSafe s) = none ↔
    ∀ name ∈ segments config, IsPlain name := by
  simp only [List.find?_eq_none, Bool.not_eq_true', Bool.not_eq_false, isSafe_eq_true_iff]

theorem path_eq_ok_iff : path config = .ok keys ↔
    segments config ≠ [] ∧ (∀ name ∈ segments config, IsPlain name) ∧ segments config = keys := by
  rw [path, ← find?_unsafe_eq_none_iff, ne_eq, ← List.isEmpty_iff]
  cases (segments config).isEmpty with
  | true => simp
  | false => cases (segments config).find? fun s => !isSafe s <;> simp

theorem path_eq_error_iff : path config = .error r ↔ segments config = [] ∧ r = .noPath ∨
    ∃ segment, FirstUnsafe config segment ∧ unsafeSegment segment = r := by
  simp only [path, ← find?_unsafe_eq_some_iff]
  cases segments config with
  | nil => simp [eq_comm]
  | cons name rest => cases (name :: rest).find? fun s => !isSafe s <;> simp

theorem unsafeSegment_eq_brokenCut_iff :
    unsafeSegment segment = .brokenCut ↔ BreaksAt 64 segment := by
  rw [unsafeSegment, ← cut?_eq_none_iff]
  cases cut? 64 segment.toList with
  | none => simp
  | some shown => simp

theorem unsafeSegment_eq_unsafeSegment_iff : unsafeSegment segment = .unsafeSegment shown ↔
    shown.toList <+: segment.toList ∧ shown.utf8ByteSize = min 64 segment.utf8ByteSize := by
  have hcut : cut? 64 segment.toList = some shown.toList ↔ _ := cut?_eq_some_iff
  rw [String.ofList_toList, String.ofList_toList] at hcut
  rw [unsafeSegment, ← hcut]
  cases cut? 64 segment.toList with
  | none => simp
  | some front =>
    rw [Rejection.unsafeSegment.injEq, Option.some_inj, ← String.toList_inj, String.toList_ofList]

/-- A path breaks off just where its first segment that is not plain does. -/
theorem path_eq_brokenCut_iff : path config = .error .brokenCut ↔
    ∃ segment, FirstUnsafe config segment ∧ BreaksAt 64 segment := by
  simp only [path_eq_error_iff, unsafeSegment_eq_brokenCut_iff, reduceCtorEq, and_false, false_or]

theorem path_eq_unsafeSegment_iff : path config = .error (.unsafeSegment shown) ↔
    ∃ segment, FirstUnsafe config segment ∧
      shown.toList <+: segment.toList ∧ shown.utf8ByteSize = min 64 segment.utf8ByteSize := by
  simp only [path_eq_error_iff, unsafeSegment_eq_unsafeSegment_iff, reduceCtorEq, and_false,
    false_or]

end

/-! ### The handler -/

section
variable {column : Sql.Column} {v : Filter.Value} {config actual : Json.Value} {r : Rejection}

theorem test_eq_error_iff (hr : r ≠ .notScalar) :
    handler.test column v config = .error r ↔ path config = .error r := by
  simp only [handler, bind_eq_error]
  cases extracted? v with
  | none => simp [hr.symm]
  | some p => simp [pure, Except.pure]

theorem judge_eq_aborted_iff :
    handler.judge actual v config = .aborted ↔ path config = .error .brokenCut := by
  simp only [handler]
  split
  · rename_i hpath
    exact iff_of_true rfl hpath
  · rename_i r hr hpath
    rw [hpath, Except.error.injEq]
    exact iff_of_false Verdict.noConfusion hr
  · rename_i keys hpath
    rw [hpath]
    cases valueAt? keys actual <;> simp

end

/-- The test and the judgement are given up just when 64 bytes of the first segment that is not
plain end inside a character. Any other such segment is rejected with the text of its first 64
bytes, or all of it. A test is made just for a scalar and plain segments, which it spells out. -/
theorem gives_up_iff (column : Sql.Column) (v : Filter.Value) (config actual : Json.Value)
    (shown : String) (t : Sql.Test) :
    (handler.test column v config = .error .brokenCut ↔
      ∃ segment, FirstUnsafe config segment ∧ BreaksAt 64 segment) ∧
    (handler.judge actual v config = .aborted ↔
      ∃ segment, FirstUnsafe config segment ∧ BreaksAt 64 segment) ∧
    (handler.test column v config = .error (.unsafeSegment shown) ↔
      ∃ segment, FirstUnsafe config segment ∧ shown.toList <+: segment.toList ∧
        shown.utf8ByteSize = min 64 segment.utf8ByteSize) ∧
    (handler.test column v config = .ok t ↔
      ∃ p, segments config ≠ [] ∧ (∀ name ∈ segments config, IsPlain name) ∧
        extracted? v = some p ∧
        .custom "" [(.column column,
          " #>> '\x7b" ++ ",".intercalate (segments config) ++ "\x7d' = "),
          (.bound ⟨p, none⟩, "")] = t) := by
  refine ⟨?_, ?_, ?_, ?_⟩
  · rw [test_eq_error_iff Rejection.noConfusion, path_eq_brokenCut_iff]
  · rw [judge_eq_aborted_iff, path_eq_brokenCut_iff]
  · rw [test_eq_error_iff Rejection.noConfusion, path_eq_unsafeSegment_iff]
  · rw [test_eq_ok]
    constructor
    · rintro ⟨keys, p, hpath, hp, rfl⟩
      obtain ⟨hne, hplain, rfl⟩ := path_eq_ok_iff.1 hpath
      exact ⟨p, hne, hplain, hp, rfl⟩
    · rintro ⟨p, hne, hplain, hp, rfl⟩
      exact ⟨segments config, p, path_eq_ok_iff.2 ⟨hne, hplain, rfl⟩, hp, rfl⟩

/-- A segment of 63 letters and one character of two bytes: its first 64 bytes are no text. -/
theorem gives_up_inside_a_character :
    let segment := String.ofList (List.replicate 63 'a' ++ ['é'])
    let config : Json.Value := .obj [("path", .arr [.str segment])]
    handler.test ⟨"t", "m"⟩ (.str "x") config = .error .brokenCut ∧
      handler.judge (.obj [("a", .int 1)]) (.str "x") config = .aborted := by
  decide +kernel

end RowQuery.PathEq
