import Mathlib.Tactic.Common
import RowQuery.Regex.Matching
/-!
What a regular expression matches.

The nodes match from a place of a text on if each of them takes what it stands for and the next one
goes on from there. The matcher keeps places instead, and a repetition leaves out what it reaches
again. It may do so because the places that it has are closed under the repetition: what is reached
from one of them is among them.
-/

namespace RowQuery.Regex

variable {flags : Flags} {takes : Char → Bool} {text : List Char}

/-- The nodes match from a place on, given by the text before it and the text behind it. -/
def MatchesAt (flags : Flags) : List Node → List Char → List Char → Prop
  | [], _, _ => True
  | .start :: nodes, before, rest => before = [] ∧ MatchesAt flags nodes before rest
  | .stop :: nodes, before, rest => rest = [] ∧ MatchesAt flags nodes before rest
  | .one a :: nodes, before, rest => ∃ c after, rest = c :: after ∧ a.takes flags c = true ∧
    MatchesAt flags nodes (before ++ [c]) after
  | .many a :: nodes, before, rest => ∃ taken after, rest = taken ++ after ∧
    (∀ c ∈ taken, a.takes flags c = true) ∧ MatchesAt flags nodes (before ++ taken) after

namespace Place

/-- A place of a text. -/
def Of (text : List Char) (p : Place) : Prop :=
  ∃ before, before ++ p.rest = text ∧ p.before = before.length

/-- A text has one place with so many characters before it. -/
theorem Of.eq {p q : Place} (hp : p.Of text) (hq : q.Of text) (h : p.before = q.before) :
    p = q := by
  obtain ⟨n, rest⟩ := p
  obtain ⟨m, rest'⟩ := q
  obtain ⟨before, rfl, hn⟩ := hp
  obtain ⟨before', htext, hm⟩ := hq
  obtain rfl : n = m := h
  exact congrArg (mk n) (List.append_inj htext (hm.symm.trans hn)).2.symm

/-- A place is reached from another one by characters that are taken. -/
def Reaches (takes : Char → Bool) (p q : Place) : Prop :=
  ∃ taken, p.rest = taken ++ q.rest ∧ q.before = p.before + taken.length ∧
    ∀ c ∈ taken, takes c = true

theorem Reaches.refl (p : Place) : p.Reaches takes p :=
  ⟨[], rfl, rfl, fun _ h => absurd h List.not_mem_nil⟩

theorem Reaches.trans {p q r : Place} (hpq : p.Reaches takes q) (hqr : q.Reaches takes r) :
    p.Reaches takes r := by
  obtain ⟨taken, hrest, hbefore, htakes⟩ := hpq
  obtain ⟨more, hrest', hbefore', htakes'⟩ := hqr
  refine ⟨taken ++ more, ?_, ?_, fun c hc => (List.mem_append.1 hc).elim (htakes c) (htakes' c)⟩
  · rw [hrest, hrest', List.append_assoc]
  · rw [hbefore', hbefore, List.length_append, Nat.add_assoc]

theorem Reaches.of {p q : Place} (h : p.Reaches takes q) (hp : p.Of text) : q.Of text := by
  obtain ⟨taken, hrest, hbefore, -⟩ := h
  obtain ⟨before, rfl, hlength⟩ := hp
  exact ⟨before ++ taken, by rw [hrest, List.append_assoc], by
    rw [hbefore, hlength, List.length_append]⟩

theorem reaches_nil {n : Nat} {q : Place} : (mk n []).Reaches takes q ↔ q = ⟨n, []⟩ := by
  constructor
  · rintro ⟨taken, hrest, hbefore, -⟩
    obtain ⟨rfl, hq⟩ := List.append_eq_nil_iff.1 hrest.symm
    obtain ⟨m, rest⟩ := q
    obtain rfl : rest = [] := hq
    exact congrArg (mk · []) hbefore
  · rintro rfl
    exact Reaches.refl _

/-- A place further on is reached by the first character, which has to be taken. -/
theorem reaches_cons {n : Nat} {c : Char} {rest : List Char} {q : Place} :
    (mk n (c :: rest)).Reaches takes q ↔
      q = ⟨n, c :: rest⟩ ∨ takes c = true ∧ (mk (n + 1) rest).Reaches takes q := by
  constructor
  · rintro ⟨taken, hrest, hbefore, htakes⟩
    obtain ⟨m, after⟩ := q
    cases taken with
    | nil =>
      obtain rfl : c :: rest = after := hrest
      exact .inl (congrArg (mk · _) hbefore)
    | cons d taken =>
      obtain ⟨rfl, rfl⟩ := List.cons.inj hrest
      refine .inr ⟨htakes c (List.mem_cons_self ..), taken, rfl, ?_, fun d hd =>
        htakes d (List.mem_cons_of_mem _ hd)⟩
      exact hbefore.trans (Nat.add_right_comm n taken.length 1)
  · rintro (rfl | ⟨hc, htaken⟩)
    · exact Reaches.refl _
    · refine Reaches.trans ⟨[c], rfl, rfl, fun d hd => ?_⟩ htaken
      rwa [List.mem_singleton.1 hd]

theorem reaches_next {n : Nat} {c : Char} {rest : List Char} (hc : takes c = true) :
    (mk n (c :: rest)).Reaches takes ⟨n + 1, rest⟩ :=
  reaches_cons.2 (.inr ⟨hc, Reaches.refl _⟩)

theorem next?_eq_some {p q : Place} : p.next? takes = some q ↔
    ∃ c rest, p.rest = c :: rest ∧ takes c = true ∧ q = ⟨p.before + 1, rest⟩ := by
  obtain ⟨n, rest⟩ := p
  cases rest with
  | nil => simp [next?]
  | cons c rest =>
    by_cases hc : takes c = true
    · simp only [next?, hc, if_true, Option.some.injEq, List.cons.injEq]
      constructor
      · rintro rfl
        exact ⟨c, rest, ⟨rfl, rfl⟩, hc, rfl⟩
      · rintro ⟨_, _, ⟨rfl, rfl⟩, -, rfl⟩
        rfl
    · simp only [next?, hc, Bool.false_eq_true, if_false, reduceCtorEq, List.cons.injEq, false_iff]
      rintro ⟨_, _, ⟨rfl, -⟩, htakes, -⟩
      exact hc htakes

end Place

/-! ### The places after a node -/

/-- A node leads from one place to another. -/
def Node.Leads (flags : Flags) : Node → Place → Place → Prop
  | .start, p, q => q = p ∧ p.before = 0
  | .stop, p, q => q = p ∧ p.rest = []
  | .one a, p, q => p.next? (a.takes flags) = some q
  | .many a, p, q => p.Reaches (a.takes flags) q

theorem Node.Leads.of {node : Node} {p q : Place} (h : node.Leads flags p q) (hp : p.Of text) :
    q.Of text := by
  cases node with
  | start | stop =>
    obtain ⟨rfl, -⟩ := h
    exact hp
  | one a =>
    obtain ⟨n, rest⟩ := p
    obtain ⟨c, rest, rfl, hc, rfl⟩ := Place.next?_eq_some.1 h
    exact (Place.reaches_next hc).of hp
  | many a => exact Place.Reaches.of h hp

theorem mem_of_isFirst {reached : List Place} {p : Place} (hreached : ∀ q ∈ reached, q.Of text)
    (hp : p.Of text) (h : isFirst p.before reached = true) : p ∈ reached := by
  cases reached with
  | nil => cases h
  | cons q others =>
    have hq := hreached q (List.mem_cons_self ..)
    rw [hp.eq hq (eq_of_beq h).symm]
    exact List.mem_cons_self ..

/-- Spreading adds just what is reached, as long as what was reached before is closed. -/
theorem mem_spread {reached : List Place} (hreached : ∀ p ∈ reached, p.Of text)
    (hclosed : ∀ p ∈ reached, ∀ q, p.Reaches takes q → q ∈ reached) {q : Place} :
    ∀ {rest : List Char} {n : Nat}, (Place.mk n rest).Of text →
      (q ∈ spread takes reached n rest ↔ q ∈ reached ∨ (Place.mk n rest).Reaches takes q)
  | rest, n, hplace => by
    have hstop : isFirst n reached = true →
        (q ∈ reached ↔ q ∈ reached ∨ (Place.mk n rest).Reaches takes q) := fun hfirst =>
      (or_iff_left_of_imp (hclosed _ (mem_of_isFirst hreached hplace hfirst) q)).symm
    cases rest with
    | nil =>
      rw [spread]
      split
      · exact hstop ‹_›
      · rw [List.mem_cons, Place.reaches_nil, or_comm]
    | cons c rest =>
      rw [spread]
      split
      · exact hstop ‹_›
      rw [List.mem_cons, Place.reaches_cons]
      by_cases hc : takes c = true
      · rw [if_pos hc, mem_spread hreached hclosed ((Place.reaches_next hc).of hplace)]
        simp only [hc, true_and]
        exact or_left_comm
      · simp [hc, or_comm]

theorem mem_foldr_spread {q : Place} : ∀ {places : List Place}, (∀ p ∈ places, p.Of text) →
    (q ∈ places.foldr (fun p reached => spread takes reached p.before p.rest) [] ↔
      ∃ p ∈ places, p.Reaches takes q) := by
  intro places
  induction places generalizing q with
  | nil => simp
  | cons p places ih =>
    intro hplaces
    obtain ⟨hp, hplaces⟩ := List.forall_mem_cons.1 hplaces
    rw [List.foldr_cons, mem_spread (fun r hr => ?_) (fun r hr s hs => ?_) hp, ih hplaces]
    · simp only [List.mem_cons, or_and_right, exists_or, exists_eq_left]
      exact or_comm
    · obtain ⟨r', hr', hreaches⟩ := (ih hplaces).1 hr
      exact hreaches.of (hplaces r' hr')
    · obtain ⟨r', hr', hreaches⟩ := (ih hplaces).1 hr
      exact (ih hplaces).2 ⟨r', hr', hreaches.trans hs⟩

/-- The places after a node are just those that it leads to. -/
theorem mem_leave {node : Node} {places : List Place} (h : ∀ p ∈ places, p.Of text) {q : Place} :
    q ∈ node.leave flags places ↔ ∃ p ∈ places, node.Leads flags p q := by
  cases node with
  | start => simp [Node.leave, Node.Leads]
  | stop => simp [Node.leave, Node.Leads]
  | one a => rw [Node.leave, List.mem_filterMap]; rfl
  | many a => exact mem_foldr_spread h

/-! ### The whole expression -/

/-- A match begins with a step of its first node. -/
theorem matchesAt_cons {node : Node} {nodes : List Node} {before rest : List Char} :
    MatchesAt flags (node :: nodes) before rest ↔
      ∃ before' rest', before' ++ rest' = before ++ rest ∧
        node.Leads flags ⟨before.length, rest⟩ ⟨before'.length, rest'⟩ ∧
        MatchesAt flags nodes before' rest' := by
  cases node with
  | start =>
    constructor
    · rintro ⟨rfl, h⟩
      exact ⟨[], rest, rfl, ⟨rfl, rfl⟩, h⟩
    · rintro ⟨before', rest', htext, ⟨hplace, hstart⟩, h⟩
      obtain rfl : rest' = rest := congrArg Place.rest hplace
      obtain rfl := List.append_cancel_right htext
      exact ⟨List.length_eq_zero_iff.1 hstart, h⟩
  | stop =>
    constructor
    · rintro ⟨rfl, h⟩
      exact ⟨before, [], rfl, ⟨rfl, rfl⟩, h⟩
    · rintro ⟨before', rest', htext, ⟨hplace, hstop⟩, h⟩
      obtain rfl : rest' = rest := congrArg Place.rest hplace
      obtain rfl := List.append_cancel_right htext
      exact ⟨hstop, h⟩
  | one a =>
    constructor
    · rintro ⟨c, after, rfl, hc, h⟩
      refine ⟨before ++ [c], after, List.append_assoc .., Place.next?_eq_some.2 ?_, h⟩
      exact ⟨c, after, rfl, hc, by rw [List.length_append]; rfl⟩
    · rintro ⟨before', rest', htext, hleads, h⟩
      obtain ⟨c, after, rfl, hc, hplace⟩ := Place.next?_eq_some.1 hleads
      obtain rfl : rest' = after := congrArg Place.rest hplace
      obtain rfl : before' = before ++ [c] :=
        List.append_cancel_right (htext.trans (List.append_assoc before [c] rest').symm)
      exact ⟨c, rest', rfl, hc, h⟩
  | many a =>
    constructor
    · rintro ⟨taken, after, rfl, htakes, h⟩
      exact ⟨before ++ taken, after, List.append_assoc .., ⟨taken, rfl, List.length_append, htakes⟩,
        h⟩
    · rintro ⟨before', rest', htext, ⟨taken, rfl, -, htakes⟩, h⟩
      obtain rfl : before' = before ++ taken :=
        List.append_cancel_right (htext.trans (List.append_assoc before taken rest').symm)
      exact ⟨taken, rest', rfl, htakes, h⟩

/-- A place is left at the end just if the nodes match from one of the places at the beginning. -/
theorem foldl_leave_iff : ∀ (nodes : List Node) {places : List Place}, (∀ p ∈ places, p.Of text) →
    (nodes.foldl (fun places node => node.leave flags places) places ≠ [] ↔
      ∃ before rest, before ++ rest = text ∧ ⟨before.length, rest⟩ ∈ places ∧
        MatchesAt flags nodes before rest)
  | [], places, hplaces => by
    rw [List.foldl_nil]
    constructor
    · intro h
      obtain ⟨⟨n, rest⟩, hp⟩ := List.exists_mem_of_ne_nil places h
      obtain ⟨before, htext, rfl⟩ := hplaces _ hp
      exact ⟨before, rest, htext, hp, trivial⟩
    · rintro ⟨before, rest, -, hp, -⟩
      exact List.ne_nil_of_mem hp
  | node :: nodes, places, hplaces => by
    have hleave : ∀ q ∈ node.leave flags places, q.Of text := fun q hq => by
      obtain ⟨p, hp, hleads⟩ := (mem_leave hplaces).1 hq
      exact hleads.of (hplaces p hp)
    rw [List.foldl_cons, foldl_leave_iff nodes hleave]
    constructor
    · rintro ⟨before', rest', htext', hmem, h⟩
      obtain ⟨⟨n, rest⟩, hp, hleads⟩ := (mem_leave hplaces).1 hmem
      obtain ⟨before, htext, rfl⟩ := hplaces _ hp
      exact ⟨before, rest, htext, hp,
        matchesAt_cons.2 ⟨before', rest', htext'.trans htext.symm, hleads, h⟩⟩
    · rintro ⟨before, rest, htext, hp, h⟩
      obtain ⟨before', rest', htext', hleads, h⟩ := matchesAt_cons.1 h
      exact ⟨before', rest', htext'.trans htext, (mem_leave hplaces).2 ⟨_, hp, hleads⟩, h⟩

theorem mem_places {n : Nat} {rest : List Char} {q : Place} :
    q ∈ places n rest ↔ (Place.mk n rest).Reaches (fun _ => true) q := by
  induction rest generalizing n with
  | nil => rw [places, List.mem_singleton, Place.reaches_nil]
  | cons c rest ih => rw [places, List.mem_cons, ih, Place.reaches_cons, and_iff_right rfl]

/-- An expression matches a text just if its nodes match from some place of the text on. -/
theorem isMatch_iff {r : Regex} :
    r.isMatch text = true ↔
      ∃ before rest, before ++ rest = text ∧ MatchesAt r.flags r.nodes before rest := by
  have hplaces : ∀ p ∈ places 0 text, p.Of text := fun p hp =>
    (mem_places.1 hp).of ⟨[], rfl, rfl⟩
  have hnonempty : r.isMatch text = true ↔
      r.nodes.foldl (fun places node => node.leave r.flags places) (places 0 text) ≠ [] := by
    simp [Regex.isMatch]
  rw [hnonempty, foldl_leave_iff r.nodes hplaces]
  refine exists₂_congr fun before rest => and_congr_right fun htext => and_iff_right ?_
  exact mem_places.2 ⟨before, htext.symm, (Nat.zero_add _).symm, fun _ _ => rfl⟩

end RowQuery.Regex
