import RowQuery.Config
import RowQuery.Proofs.Paging.Arguments
import RowQuery.Proofs.Text.Integer
/-!
The paging policy of a configuration.

The default size of a page and the largest one come from variables of their own, each with its own
grammar. A configuration is accepted whatever the two are to each other, so a request that names no
size is refused where the default is larger than the largest size.
-/

namespace RowQuery
namespace Config

/-- What a text says of the largest size of a page. -/
inductive SaysMax (text : String) : Option Nat → Prop
  | unlimited : (trimBlanks text.toList).map Char.toLower = unlimited → SaysMax text none
  | negative {i : Int} : Integer.Denotes (trimBlanks text.toList) i → Json.minInt64 ≤ i → i < 0 →
    SaysMax text none
  | size {n : Nat} : Integer.Denotes (trimBlanks text.toList) n → n ≤ Json.maxInt64 →
    SaysMax text (some n)

theorem toLower_of_isDigit {c : Char} (h : c.isDigit = true) : c.toLower = c := by
  simp only [Char.isDigit, Bool.and_eq_true, decide_eq_true_eq] at h
  have hupper : ¬ (c.val ≥ 'A'.val ∧ c.val ≤ 'Z'.val) := by
    rintro ⟨hlower, -⟩
    exact absurd (UInt32.le_trans hlower h.2) (by decide)
  exact dif_neg hupper

/-- The word is no integer. -/
theorem ne_unlimited_of_denotes {s : List Char} {i : Int} (h : Integer.Denotes s i) :
    s.map Char.toLower ≠ unlimited := by
  obtain ⟨c, rest, rfl, hc⟩ := h.exists_cons
  intro hword
  have hlower : c.toLower = 'u' := (List.cons.inj hword).1
  rcases hc with hc | rfl | rfl
  · rw [toLower_of_isDigit hc] at hlower
    exact absurd (hlower ▸ hc) (by decide)
  · exact absurd hlower (by decide)
  · exact absurd hlower (by decide)

/-- A text is read as a largest size just when it says so. -/
theorem readMaxSize_eq_ok {text : String} {max : Option Nat} :
    readMaxSize text = .ok max ↔ SaysMax text max := by
  have hmax : (Json.maxInt64.toNat : Int) = Json.maxInt64 := by decide
  have hmin : -(Json.maxInt64 + 1) = Json.minInt64 := by decide
  rw [readMaxSize]
  constructor
  · intro h
    split at h
    · next hword =>
      cases h
      exact .unlimited hword
    · obtain ⟨i, hi, rfl⟩ := map_eq_ok.1 h
      obtain ⟨hdenotes, hlower, hupper⟩ := Integer.readInt_eq_ok.1 hi
      rw [hmax] at hlower hupper
      split
      · next hneg => exact .negative hdenotes (by omega) hneg
      · next hnonneg =>
        have hcast : (i.toNat : Int) = i := Int.toNat_of_nonneg (by omega)
        exact .size (hcast ▸ hdenotes) (hcast ▸ hupper)
  · rintro (hword | ⟨hdenotes, hlower, hneg⟩ | ⟨hdenotes, hupper⟩)
    · exact if_pos hword
    · rw [if_neg (ne_unlimited_of_denotes hdenotes)]
      exact map_eq_ok.2 ⟨_, Integer.readInt_eq_ok.2 ⟨hdenotes, by omega, by omega⟩, if_pos hneg⟩
    · rw [if_neg (ne_unlimited_of_denotes hdenotes)]
      exact map_eq_ok.2 ⟨_, Integer.readInt_eq_ok.2 ⟨hdenotes, by omega, by omega⟩,
        if_neg (by omega)⟩

theorem parts_of_fromLookup {lookup : String → Option String} {config : Config}
    (h : fromLookup lookup = .ok config) :
    Integer.DenotesNat ((lookup "QUARRY_DEFAULT_PAGE_SIZE").getD "10").toList config.defaultSize ∧
      SaysMax ((lookup "QUARRY_MAX_PAGE_SIZE").getD "100") config.maxSize := by
  obtain ⟨size, hsize, h⟩ := bind_eq_ok.1 h
  obtain ⟨max, hmax, h⟩ := bind_eq_ok.1 h
  obtain ⟨connections, -, h⟩ := bind_eq_ok.1 h
  obtain ⟨timeout, -, h⟩ := bind_eq_ok.1 h
  obtain rfl := pure_eq_ok.1 h
  exact ⟨(Integer.readNat_eq_ok.1 (mapError_eq_ok.1 hsize)).1,
    readMaxSize_eq_ok.1 (mapError_eq_ok.1 hmax)⟩

/-- A request without paging arguments asks for the first rows, as many as is the default. -/
theorem ofArguments_none (p : PagingPolicy) :
    Page.ofArguments .none p = (p.check p.defaultSize).map fun size => .forward size none := rfl

/-- A request that names no size gets a page of the default size just when the largest size, if
there is one, is no smaller; otherwise it is refused for a size that it did not ask for. -/
theorem plain_accepted_iff {lookup : String → Option String} {config : Config}
    (h : fromLookup lookup = .ok config) :
    ∃ size max,
      Integer.DenotesNat ((lookup "QUARRY_DEFAULT_PAGE_SIZE").getD "10").toList size ∧
      SaysMax ((lookup "QUARRY_MAX_PAGE_SIZE").getD "100") max ∧ config.policy = ⟨size, max⟩ ∧
      ((∃ page, Page.ofArguments .none config.policy = .ok page) ↔
        ∀ largest, max = some largest → size ≤ largest) ∧
      (∀ page, Page.ofArguments .none config.policy = .ok page → page = .forward size none) ∧
      ∀ largest, max = some largest → largest < size →
        Page.ofArguments .none config.policy = .error (.pageSizeExceeded size largest) := by
  obtain ⟨hsize, hmax⟩ := parts_of_fromLookup h
  refine ⟨config.defaultSize, config.maxSize, hsize, hmax, rfl, ?_, ?_, ?_⟩
  · rw [ofArguments_none]
    constructor
    · rintro ⟨page, hpage⟩
      obtain ⟨size, hcheck, -⟩ := map_eq_ok.1 hpage
      exact (PagingPolicy.check_eq_ok.1 hcheck).1
    · intro hallows
      exact ⟨_, map_eq_ok.2 ⟨_, PagingPolicy.check_eq_ok.2 ⟨hallows, rfl⟩, rfl⟩⟩
  · intro page hpage
    obtain ⟨size, hcheck, rfl⟩ := map_eq_ok.1 (ofArguments_none _ ▸ hpage)
    obtain ⟨-, rfl⟩ := PagingPolicy.check_eq_ok.1 hcheck
    rfl
  · intro largest hlargest hlt
    have hcheck : config.policy.check config.defaultSize
        = .error (.pageSizeExceeded config.defaultSize largest) := by
      rw [PagingPolicy.check, show config.policy.maxSize = some largest from hlargest]
      exact if_neg (Nat.not_le.2 hlt)
    rw [ofArguments_none]
    exact map_eq_error.2 hcheck

/-- A default with a sign, and the word for no largest size in capitals and between blanks. -/
theorem plain_accepted_iff_unlimited :
    let lookup (name : String) : Option String :=
      if name = "QUARRY_DEFAULT_PAGE_SIZE" then some "+250"
      else if name = "QUARRY_MAX_PAGE_SIZE" then some " UNLIMITED\n" else none
    let config : Config := ⟨250, none, none, none, 5, 10000⟩
    fromLookup lookup = .ok config ∧ SaysMax " UNLIMITED\n" none ∧
      Page.ofArguments .none config.policy = .ok (.forward 250 none) := by
  intro lookup config
  have hconfig : fromLookup lookup = .ok config := by decide
  obtain ⟨size, max, -, hmax, hpolicy, hiff, hpage, -⟩ := plain_accepted_iff hconfig
  obtain ⟨rfl, rfl⟩ := PagingPolicy.mk.inj hpolicy
  obtain ⟨page, haccepted⟩ := hiff.2 (by simp)
  obtain rfl := hpage page haccepted
  exact ⟨hconfig, hmax, haccepted⟩

/-- With a default of two hundred rows and no other variable set, the largest size is a hundred, and
with a largest size of five the default is ten. -/
theorem plain_refused :
    (∃ config, fromLookup (fun name =>
        if name = "QUARRY_DEFAULT_PAGE_SIZE" then some "200" else none) = .ok config ∧
      Page.ofArguments .none config.policy = .error (.pageSizeExceeded 200 100)) ∧
    ∃ config, fromLookup (fun name =>
        if name = "QUARRY_MAX_PAGE_SIZE" then some "5" else none) = .ok config ∧
      Page.ofArguments .none config.policy = .error (.pageSizeExceeded 10 5) :=
  ⟨⟨⟨200, some 100, none, none, 5, 10000⟩, by decide, rfl⟩,
    ⟨10, some 5, none, none, 5, 10000⟩, by decide, rfl⟩

end Config
end RowQuery
