import CompletionRing.Log.Pattern.Mode
import CompletionRing.Text.Hexadecimal

namespace CompletionRing.Pattern

-- What an escape stands for.
inductive Escape where
  | char (c : Char)
  -- digits, blanks or parts of words, or all but these
  | kind (negated : Bool)
  -- where the text begins or ends
  | textEdge
  -- where words begin or end
  | wordEdge
deriving DecidableEq

namespace Escape

-- Controls that have a letter of their own.
def controls : List (Char × Char) :=
  [('a', '\x07'), ('f', '\x0c'), ('n', '\n'), ('r', '\r'), ('t', '\t'), ('v', '\x0b')]

-- A number of so many more hexadecimal digits, behind those whose value is given.
def readDigits (m : Mode) : Nat → Nat → List Char → Option (Nat × List Char)
  | 0, high, cs => some (high, cs)
  | count + 1, high, cs =>
      match m.skip cs with
      | [] => none
      | c :: rest => do readDigits m count (high * 16 + (← Text.hexDigit c)) rest

-- A character by its number, which has to lie below a bound.
def readNumber (m : Mode) (bound count : Nat) (cs : List Char) : Option (Escape × List Char) := do
  let (code, rest) ← readDigits m count 0 cs
  if code.isValidChar && code < bound then some (.char (Char.ofNat code), rest) else none

-- What stands behind a backslash. Two digits name a byte, more of them a character.
def read (m : Mode) : List Char → Option (Escape × List Char)
  | [] => none
  | 'x' :: cs => readNumber m (if m.unicode then 0x100 else 0x80) 2 cs
  | 'u' :: cs => readNumber m 0x110000 4 cs
  | 'U' :: cs => readNumber m 0x110000 8 cs
  | c :: cs => do
      let escape ←
        if "dsw".contains c then some (.kind false)
        else if "DSW".contains c then some (.kind true)
        else if "Az".contains c then some .textEdge
        else if "bB<>".contains c then some .wordEdge
        else if c.isAlphanum || 0x80 ≤ c.toNat then (controls.lookup c).map .char
        else some (.char c)
      some (escape, cs)

-- Kinds of characters have no table, and what is left out of a kind of bytes has parts of longer
-- characters.
def mayStand (m : Mode) : Escape → Bool
  | .char _ => m.knowsCases
  | .kind negated => !m.unicode && !negated
  | .textEdge => true
  | .wordEdge => !m.unicode

def mayStandInSet (m : Mode) : Escape → Bool
  | .char c => m.mayHold c
  | .kind negated => !m.unicode && !negated
  | _ => false

end Escape

end CompletionRing.Pattern
