import RowQuery.Regex.Syntax
import RowQuery.Text.Casing
/-!
Matching an expression.

The nodes are taken one after the other, and for those taken so far every place of the text is kept
that they can end at. A search may begin anywhere, so it starts from all places. A repetition adds
to a place the ones that it reaches, up to the first one which is reached from a later place too, so
the cost grows with the product of the two lengths.
-/

namespace RowQuery

namespace Regex

/-- How an expression is matched. -/
structure Flags where
  anyCase : Bool
  dotMatchesNewLine : Bool
deriving DecidableEq, Repr

/-- Whether a character is taken for one character of an expression. -/
def Atom.takes (flags : Flags) : Atom → Char → Bool
  | .any, d => flags.dotMatchesNewLine || d != '\n'
  | .char c, d => if flags.anyCase then Casing.same c d else c == d

/-- A place in a text: how many characters are before it, and what is behind it. -/
structure Place where
  before : Nat
  rest : List Char

/-- The places of a text from the first one on, which has some characters before it. -/
def places (before : Nat) : List Char → List Place
  | [] => [⟨before, []⟩]
  | c :: rest => ⟨before, c :: rest⟩ :: places (before + 1) rest

/-- The place behind one character. -/
def Place.next? (takes : Char → Bool) (p : Place) : Option Place :=
  match p.rest with
  | [] => none
  | c :: rest => if takes c then some ⟨p.before + 1, rest⟩ else none

/-- Whether the first of some places is the one with so many characters before it. -/
def isFirst (before : Nat) (reached : List Place) : Bool :=
  reached.head?.any fun p => p.before == before

/-- Adds the places that a repetition reaches from one place, given by its two parts, to those
reached from later places. -/
def spread (takes : Char → Bool) (reached : List Place) (before : Nat) : List Char → List Place
  | [] => if isFirst before reached then reached else ⟨before, []⟩ :: reached
  | c :: rest =>
    if isFirst before reached then reached
    else ⟨before, c :: rest⟩ :: if takes c then spread takes reached (before + 1) rest else reached

/-- The places that a node can end at when it begins at one of some places. -/
def Node.leave (flags : Flags) (node : Node) (places : List Place) : List Place :=
  match node with
  | .start => places.filter fun p => p.before == 0
  | .stop => places.filter fun p => p.rest.isEmpty
  | .one a => places.filterMap (Place.next? (a.takes flags))
  | .many a => places.foldr (fun p reached => spread (a.takes flags) reached p.before p.rest) []

end Regex

/-- An expression with the way it is matched. -/
structure Regex where
  flags : Regex.Flags
  nodes : List Regex.Node
deriving DecidableEq, Repr

/-- Whether an expression matches a text somewhere. -/
def Regex.isMatch (r : Regex) (text : List Char) : Bool :=
  !(r.nodes.foldl (fun places node => node.leave r.flags places) (places 0 text)).isEmpty

end RowQuery
