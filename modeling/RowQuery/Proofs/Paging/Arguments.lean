import Mathlib.Data.Option.Basic
import RowQuery.Paging.Page
import RowQuery.Proofs.Outcome
/-!
Which paging arguments are accepted.

Every argument belongs to one of three styles. Arguments of two styles are refused, whatever they
say. Arguments of one style are accepted if none of their numbers is negative, the size is within
the policy and the cursor can be decoded, and the page is then the one of that style.
-/

namespace RowQuery

/-- The policy has no largest size, or one that a size does not exceed. -/
def PagingPolicy.Allows (p : PagingPolicy) (size : Nat) : Prop :=
  ∀ max, p.maxSize = some max → size ≤ max

theorem PagingPolicy.check_eq_ok {p : PagingPolicy} {size n : Nat} :
    p.check size = .ok n ↔ p.Allows size ∧ size = n := by
  unfold check Allows
  split
  · next hmax => simp [hmax]
  · next max hmax =>
    split
    · next hle => simp [hmax, hle]
    · next hlt => simp [hmax, hlt]

/-! ### Parts of a page -/

namespace Page

/-- The cursor that a text is decoded to, and none if there is no text. -/
def Decodes (text : Option String) (cursor : Option Cursor) : Prop :=
  Option.Rel (fun text cursor => Cursor.decode text = .ok cursor) text cursor

@[simp] theorem decodes_none {cursor : Option Cursor} : Decodes none cursor ↔ cursor = none := by
  constructor
  · rintro ⟨⟩
    rfl
  · rintro rfl
    exact .none

theorem exists_decodes_iff {text : Option String} :
    (∃ cursor, Decodes text cursor) ↔ ∀ t, text = some t → ∃ c, Cursor.decode t = .ok c := by
  cases text with
  | none => exact ⟨fun _ _ h => (nomatch h), fun _ => ⟨none, .none⟩⟩
  | some t =>
    constructor
    · rintro ⟨_, ⟨hc⟩⟩ _ ⟨⟩
      exact ⟨_, hc⟩
    · intro h
      obtain ⟨c, hc⟩ := h t rfl
      exact ⟨some c, .some hc⟩

theorem cursor?_eq_ok {text : Option String} {cursor : Option Cursor} :
    cursor? text = .ok cursor ↔ Decodes text cursor := by
  cases text with
  | none => simp [cursor?, eq_comm]
  | some t =>
    simp only [cursor?]
    cases hdecode : Cursor.decode t with
    | error fault =>
      constructor
      · rintro ⟨⟩
      · rintro ⟨hc⟩
        cases hdecode.symm.trans hc
    | ok c =>
      constructor
      · rintro ⟨⟩
        exact .some hdecode
      · rintro ⟨hc⟩
        cases hdecode.symm.trans hc
        rfl

theorem count_eq_ok {name : String} {default : Nat} {given : Option Int} {n : Nat} :
    count name default given = .ok n ↔
      (∀ i, given = some i → 0 ≤ i) ∧ given.elim default Int.toNat = n := by
  cases given with
  | none => simp [count]
  | some i => by_cases hi : i < 0 <;> simp [count, hi, Int.not_le.2, Int.not_lt.1]

theorem count_natCast (name : String) (default n : Nat) :
    count name default (some (n : Int)) = .ok n := by
  refine count_eq_ok.2 ⟨?_, Int.toNat_natCast n⟩
  rintro _ ⟨⟩
  exact Int.natCast_nonneg n

/-- A page of a size and a cursor is made if the size is not negative and within the policy and the
cursor can be decoded. -/
theorem sized_eq_ok {name : String} {policy : PagingPolicy} {given : Option Int}
    {text : Option String} {make : Nat → Option Cursor → Page} {page : Page} :
    (do
      let size ← count name policy.defaultSize given
      let cursor ← cursor? text
      let size ← policy.check size
      return make size cursor) = .ok page ↔
      (∀ i, given = some i → 0 ≤ i) ∧ policy.Allows (given.elim policy.defaultSize Int.toNat) ∧
        ∃ cursor, Decodes text cursor ∧
          make (given.elim policy.defaultSize Int.toNat) cursor = page := by
  simp only [bind_eq_ok, pure_eq_ok, count_eq_ok, cursor?_eq_ok, PagingPolicy.check_eq_ok]
  constructor
  · rintro ⟨_, ⟨hgiven, rfl⟩, cursor, hcursor, _, ⟨hsize, rfl⟩, hpage⟩
    exact ⟨hgiven, hsize, cursor, hcursor, hpage⟩
  · rintro ⟨hgiven, hsize, cursor, hcursor, hpage⟩
    exact ⟨_, ⟨hgiven, rfl⟩, cursor, hcursor, _, ⟨hsize, rfl⟩, hpage⟩

/-- A window is made if neither its limit nor its offset is negative and the limit is within the
policy. -/
theorem window_eq_ok {policy : PagingPolicy} {limit offset : Option Int} {page : Page} :
    (do
      let size ← count "limit" policy.defaultSize limit
      let start ← count "offset" 0 offset
      let size ← policy.check size
      return window size start) = .ok page ↔
      (∀ i, limit = some i → 0 ≤ i) ∧ (∀ i, offset = some i → 0 ≤ i) ∧
        policy.Allows (limit.elim policy.defaultSize Int.toNat) ∧
        window (limit.elim policy.defaultSize Int.toNat) (offset.elim 0 Int.toNat) = page := by
  simp only [bind_eq_ok, pure_eq_ok, count_eq_ok, PagingPolicy.check_eq_ok]
  constructor
  · rintro ⟨_, ⟨hlimit, rfl⟩, _, ⟨hoffset, rfl⟩, _, ⟨hsize, rfl⟩, hpage⟩
    exact ⟨hlimit, hoffset, hsize, hpage⟩
  · rintro ⟨hlimit, hoffset, hsize, hpage⟩
    exact ⟨_, ⟨hlimit, rfl⟩, _, ⟨hoffset, rfl⟩, _, ⟨hsize, rfl⟩, hpage⟩

end Page

/-! ### Styles -/

/-- The styles in which a page can be asked for. -/
inductive PagingStyle where
  /-- A number of rows after a cursor. -/
  | forward
  /-- A number of rows before a cursor. -/
  | backward
  /-- A limit with an offset. -/
  | window
deriving DecidableEq

/-- The page of a style. -/
def PagingStyle.page (size : Nat) (cursor : Option Cursor) (offset : Nat) : PagingStyle → Page
  | forward => .forward size cursor
  | backward => .backward size cursor
  | window => .window size offset

namespace PagingArguments

/-- Whether an argument of a style is given. -/
def uses (a : PagingArguments) : PagingStyle → Bool
  | .forward => a.first.isSome || a.after.isSome
  | .backward => a.last.isSome || a.before.isSome
  | .window => a.limit.isSome || a.offset.isSome

/-- All arguments that are given belong to one style. -/
def OneStyle (a : PagingArguments) : Prop := ∃ style, ∀ used, a.uses used = true → used = style

/-- The style of the arguments: forward unless others are given. -/
def style (a : PagingArguments) : PagingStyle :=
  if a.uses .window then .window else if a.uses .backward then .backward else .forward

/-- The size that is given. -/
def size? (a : PagingArguments) : Option Int := a.first.or (a.last.or a.limit)

/-- The size that is asked for: the one that is given, or the default of the policy. -/
def sizeUnder (a : PagingArguments) (policy : PagingPolicy) : Nat :=
  a.size?.elim policy.defaultSize Int.toNat

/-- The text of the cursor that is given. -/
def cursorText? (a : PagingArguments) : Option String := a.after.or a.before

/-- No size and no offset that is given is negative. -/
def NonNegative (a : PagingArguments) : Prop :=
  ∀ given ∈ [a.first, a.last, a.limit, a.offset], ∀ i, given = some i → 0 ≤ i

/-- The faults of arguments of two styles. -/
def mixtures : List PagingFault :=
  [.mixedStyles, .firstAndLast, .firstWithBefore, .lastWithAfter, .afterAndBefore]

variable {a : PagingArguments}

/-- Every pair of arguments of different styles is looked for. -/
theorem isSome_mixture? (a : PagingArguments) : a.mixture?.isSome
    = (a.uses .forward && a.uses .backward
      || a.uses .window && (a.uses .forward || a.uses .backward)) := by
  obtain ⟨first, after, last, before, limit, offset⟩ := a
  cases first <;> cases after <;> cases last <;> cases before <;> cases limit <;> cases offset <;>
    rfl

theorem mem_mixtures {fault : PagingFault} (h : a.mixture? = some fault) : fault ∈ mixtures := by
  unfold mixture? at h
  split_ifs at h <;> cases h <;> decide

theorem uses_eq_false_iff :
    (a.uses .forward = false ↔ a.first = .none ∧ a.after = .none) ∧
      (a.uses .backward = false ↔ a.last = .none ∧ a.before = .none) ∧
      (a.uses .window = false ↔ a.limit = .none ∧ a.offset = .none) := by
  simp [uses]

theorem mixture?_eq_none_iff : a.mixture? = .none ↔ a.OneStyle := by
  rw [← Option.not_isSome_iff_eq_none, isSome_mixture?]
  constructor
  · intro h
    refine ⟨a.style, fun used hused => ?_⟩
    cases used <;> simp_all [style]
  · rintro ⟨style, h⟩
    have hforward := h .forward
    have hbackward := h .backward
    have hwindow := h .window
    cases style <;> simp_all

theorem OneStyle.not_uses (h : a.OneStyle) {used other : PagingStyle}
    (hused : a.uses used = true) (hne : other ≠ used) : a.uses other = false := by
  obtain ⟨style, hstyle⟩ := h
  by_contra hother
  exact hne ((hstyle other (by simpa using hother)).trans (hstyle used hused).symm)

/-- Arguments of one style are none but those of the style. -/
theorem OneStyle.form (h : a.OneStyle) :
    (a.style = .window ∧ a.usesOffset = true ∧
      ∃ limit offset, a = ⟨.none, .none, .none, .none, limit, offset⟩) ∨
    (a.style = .backward ∧ (a.last.isSome || a.before.isSome) = true ∧
      ∃ last before, a = ⟨.none, .none, last, before, .none, .none⟩) ∨
    (a.style = .forward ∧
      ∃ first after, a = ⟨first, after, .none, .none, .none, .none⟩) := by
  obtain ⟨hforward, hbackward, hwindow⟩ := uses_eq_false_iff (a := a)
  by_cases hw : a.uses .window = true
  · have hf := hforward.1 (h.not_uses hw (by decide))
    have hb := hbackward.1 (h.not_uses hw (by decide))
    refine .inl ⟨by rw [style, if_pos hw], hw, a.limit, a.offset, ?_⟩
    cases a
    simp_all
  · by_cases hb : a.uses .backward = true
    · have hf := hforward.1 (h.not_uses hb (by decide))
      have hw' := hwindow.1 (by simpa using hw)
      refine .inr (.inl ⟨by rw [style, if_neg hw, if_pos hb], hb, a.last, a.before, ?_⟩)
      cases a
      simp_all
    · have hb' := hbackward.1 (by simpa using hb)
      have hw' := hwindow.1 (by simpa using hw)
      refine .inr (.inr ⟨by rw [style, if_neg hw, if_neg hb], a.first, a.after, ?_⟩)
      cases a
      simp_all

theorem ofArguments_eq_ok_iff {policy : PagingPolicy} {page : Page} :
    Page.ofArguments a policy = .ok page ↔
      a.OneStyle ∧ a.NonNegative ∧ policy.Allows (a.sizeUnder policy) ∧
        ∃ cursor, Page.Decodes a.cursorText? cursor ∧
          a.style.page (a.sizeUnder policy) cursor (a.offset.elim 0 Int.toNat) = page := by
  rw [Page.ofArguments]
  cases hmixture : a.mixture? with
  | some fault =>
    have hmixed : ¬ a.OneStyle := by simp [← mixture?_eq_none_iff, hmixture]
    simp [hmixed]
  | none =>
    have hone := mixture?_eq_none_iff.1 hmixture
    simp only [hone, true_and]
    rcases hone.form with ⟨hstyle, huses, limit, offset, rfl⟩ |
      ⟨hstyle, huses, last, before, rfl⟩ | ⟨hstyle, first, after, rfl⟩
    · rw [hstyle, Page.ofStyle, if_pos huses, Page.window_eq_ok]
      simp [NonNegative, sizeUnder, size?, cursorText?, PagingStyle.page, and_assoc]
    · have hoffset : usesOffset ⟨.none, .none, last, before, .none, .none⟩ = false := rfl
      rw [hstyle, Page.ofStyle, hoffset, if_neg Bool.false_ne_true, if_pos huses, Page.sized_eq_ok]
      simp [NonNegative, sizeUnder, size?, cursorText?, PagingStyle.page]
    · have hoffset : usesOffset ⟨first, after, .none, .none, .none, .none⟩ = false := rfl
      rw [hstyle, Page.ofStyle, hoffset, if_neg Bool.false_ne_true, if_neg (by simp),
        Page.sized_eq_ok]
      simp [NonNegative, sizeUnder, size?, cursorText?, PagingStyle.page]

/-- Arguments of two styles are refused for that, whatever else is wrong with them. -/
theorem exists_mixture {policy : PagingPolicy} (h : ¬ a.OneStyle) :
    ∃ fault ∈ mixtures, Page.ofArguments a policy = .error (.paging fault) := by
  obtain ⟨fault, hfault⟩ := Option.ne_none_iff_exists'.1 (mt mixture?_eq_none_iff.1 h)
  exact ⟨fault, mem_mixtures hfault, by rw [Page.ofArguments, hfault]⟩

/-- Arguments are accepted just when all of them belong to one style, none of their numbers is
negative, the size that is given, or else the default, is within the policy, and the cursor, if one
is given, can be decoded. The page is then that of the style with this size, this cursor and the
offset, which is zero if none is given. Arguments of two styles are refused as such. -/
theorem accepted_in_one_style (a : PagingArguments) (policy : PagingPolicy) :
    ((∃ page, Page.ofArguments a policy = .ok page) ↔
      a.OneStyle ∧ a.NonNegative ∧ policy.Allows (a.sizeUnder policy) ∧
        ∀ text, a.cursorText? = some text → ∃ cursor, Cursor.decode text = .ok cursor) ∧
    (∀ page, Page.ofArguments a policy = .ok page →
      ∃ cursor, Page.Decodes a.cursorText? cursor ∧
        page = a.style.page (a.sizeUnder policy) cursor (a.offset.elim 0 Int.toNat)) ∧
    (¬ a.OneStyle → ∃ fault ∈ mixtures, Page.ofArguments a policy = .error (.paging fault)) := by
  refine ⟨?_, fun page hpage => ?_, exists_mixture⟩
  · rw [← Page.exists_decodes_iff]
    constructor
    · rintro ⟨page, hpage⟩
      obtain ⟨hstyle, hnumbers, hsize, cursor, hcursor, -⟩ := ofArguments_eq_ok_iff.1 hpage
      exact ⟨hstyle, hnumbers, hsize, cursor, hcursor⟩
    · rintro ⟨hstyle, hnumbers, hsize, cursor, hcursor⟩
      exact ⟨_, ofArguments_eq_ok_iff.2 ⟨hstyle, hnumbers, hsize, cursor, hcursor, rfl⟩⟩
  · obtain ⟨-, -, -, cursor, hcursor, rfl⟩ := ofArguments_eq_ok_iff.1 hpage
    exact ⟨cursor, hcursor, rfl⟩

/-- The last rows before a short-form cursor, and arguments of all three styles of which each is
wrong on its own, too. -/
theorem accepted_in_one_style_last :
    let a := (ofLast 3).withBefore "YXJyYXljb25uZWN0aW9uOjc="
    let mixed : PagingArguments :=
      ⟨some (-1), .none, .none, some "%%%", some 500, .none⟩
    a.OneStyle ∧ Page.ofArguments a .standard = .ok (.backward 3 (some (.position 7))) ∧
      ¬ mixed.OneStyle ∧
      ∃ fault ∈ mixtures, Page.ofArguments mixed .standard = .error (.paging fault) := by
  intro a mixed
  have hone : a.OneStyle := mixture?_eq_none_iff.1 rfl
  have hdecode : Cursor.decode "YXJyYXljb25uZWN0aW9uOjc=" = .ok (.position 7) := by rfl
  have hmixed : ¬ mixed.OneStyle := mt mixture?_eq_none_iff.2 (by decide)
  obtain ⟨hiff, hpage, -⟩ := accepted_in_one_style a .standard
  have haccepted : ∃ page, Page.ofArguments a .standard = .ok page := by
    refine hiff.2 ⟨hone, ?_, ?_, ?_⟩
    · simp [NonNegative, a, ofLast, withBefore, none]
    · simp [PagingPolicy.Allows, PagingPolicy.standard, sizeUnder, size?, a, ofLast, withBefore,
        none]
    · rintro _ ⟨⟩
      exact ⟨_, hdecode⟩
  obtain ⟨page, hargs⟩ := haccepted
  obtain ⟨cursor, hcursor, rfl⟩ := hpage page hargs
  obtain rfl : cursor = some (.position 7) := by
    obtain ⟨hcursor⟩ := hcursor
    exact congrArg some (Except.ok.inj (hcursor.symm.trans hdecode))
  exact ⟨hone, hargs, hmixed, (accepted_in_one_style mixed .standard).2.2 hmixed⟩

end PagingArguments
end RowQuery
