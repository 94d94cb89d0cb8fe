import RowQuery.Number.Binary64
import RowQuery.Regex.Matching
/-!
Building an expression, and the size of what is built.

An expression is matched by a machine that reads a text byte by byte in UTF-8, and a machine of more
than ten mebibytes is not built. A state takes 32 bytes and a choice between states four for each of
them, or eight where it is made by ranges of bytes. Each node has states of its own: a character one
for each of its bytes; several characters, such as those that differ in case, one for each different
beginning of their bytes. Characters with neighbouring codes share their states as far as their
bytes differ in the last one only.
-/

namespace RowQuery

namespace Casing

/-- The codes of the characters that differ from one in case at most, in ascending order. -/
def variants (c : Char) : List Nat :=
  let folded := fold c
  let unfolded := runs.filterMap fun r =>
    let code := ((folded.toNat : Int) - r.shift).toNat
    if r.has code then some code else none
  (folded.toNat :: unfolded).mergeSort

end Casing

namespace Regex

/-- The bytes that a state takes. -/
def stateSize : Nat := 32

/-- Codes in ascending order as runs of neighbours whose bytes differ in the last one only. -/
def byteRuns : List Nat → List (Nat × Nat)
  | [] => []
  | code :: rest =>
    match byteRuns rest with
    | (first, last) :: more =>
      if first = code + 1 ∧ (last < 0x80 ∨ 0x80 ≤ code ∧ code / 64 = last / 64) then
        (code, last) :: more
      else (code, code) :: (first, last) :: more
    | [] => [(code, code)]

/-- The bytes of a run: at each place the first and the last one. -/
def runBytes (run : Nat × Nat) : List (UInt8 × UInt8) :=
  (String.utf8EncodeChar (Char.ofNat run.1)).zip (String.utf8EncodeChar (Char.ofNat run.2))

/-- The beginnings of a list, the empty one apart. -/
def beginnings {α : Type} : List α → List (List α)
  | [] => []
  | x :: rest => [x] :: (beginnings rest).map (x :: ·)

/-- The size of the states for one of several characters, given by their codes in ascending order.
In ASCII two states are enough; otherwise there are one before the choice and one after it too. -/
def choiceSize (codes : List Nat) : Nat :=
  let runs := byteRuns codes
  if codes.all fun code => decide (code < 0x80) then 2 * stateSize + 8 * runs.length
  else
    let states := (runs.flatMap fun run => beginnings (runBytes run)).eraseDups.length
    (states + 2) * stateSize + 4 * runs.length

/-- The size of the states for any one character. The bytes of several have eight forms with 26
states; a single byte has one form, or two where the line break is left out. -/
def anySize (dotMatchesNewLine : Bool) : Nat :=
  let single := if dotMatchesNewLine then 1 else 2
  (26 + single + 2) * stateSize + 4 * (8 + single)

/-- The size of the states for a character. -/
def charSize (anyCase : Bool) (c : Char) : Nat :=
  match anyCase, Casing.variants c with
  | false, _ | true, [_] => stateSize * c.utf8Size
  | true, codes => choiceSize codes

/-- The size of the states for one character of an expression. -/
def Atom.size (flags : Flags) : Atom → Nat
  | .any => anySize flags.dotMatchesNewLine
  | .char c => charSize flags.anyCase c

/-- The size of the states for a node. A repetition has one for going on or not. -/
def Node.size (flags : Flags) : Node → Nat
  | .start | .stop => stateSize
  | .one a => a.size flags
  | .many a => stateSize + 4 * 2 + a.size flags

/-- Whether one character has more states when its bytes are read from the last one to the first
one. -/
def Atom.isWide (flags : Flags) : Atom → Bool
  | .any => true
  | .char c =>
    let codes := Casing.variants c
    flags.anyCase && decide (1 < codes.length) && codes.any fun code => decide (0x80 ≤ code)

/-- Whether a node has more states in that direction. -/
def Node.isWide (flags : Flags) : Node → Bool
  | .start | .stop => false
  | .one a | .many a => a.isWide flags

/-- The size of the machine for the larger of the two directions, with four states around the nodes,
or two when it reads from the end. -/
def size (r : Regex) : Nat :=
  (r.nodes.map (Node.size r.flags)).sum
    + stateSize * (if r.nodes.any (Node.isWide r.flags) then 2 else 4)

/-- The largest size of a machine. -/
def maxSize : Nat := 10 * 2 ^ 20

/-- Whether an expression is too large. Ten thousand nodes are never too many. -/
def isTooLarge (r : Regex) : Bool :=
  decide (10000 < r.nodes.length) && decide (maxSize < r.size)

/-- Why an expression is not built. -/
inductive Fault where
  | unread
  | tooLarge
deriving DecidableEq, Repr

/-- The text of a fault. What is wrong with a text that is not read would follow. -/
def Fault.message : Fault → String
  | unread => "regex parse error:"
  | tooLarge => s!"Compiled regex exceeds size limit of {maxSize} bytes."

/-- The expression of a text. -/
def build (flags : Flags) (text : List Char) : Except Fault Regex :=
  match read? text with
  | none => .error .unread
  | some nodes => if isTooLarge ⟨flags, nodes⟩ then .error .tooLarge else .ok ⟨flags, nodes⟩

end Regex
end RowQuery
