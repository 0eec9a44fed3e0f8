import CompletionRing.Decimal.Numeral
import CompletionRing.Text.Quoted

namespace CompletionRing.Json

-- One character of a string. Quotes, backslashes and controls are escaped and nothing else.
def escapedChar (c : Char) : List Char :=
  if c = '"' then ['\\', '"']
  else if c = '\\' then ['\\', '\\']
  else if c = '\n' then ['\\', 'n']
  else if c = '\r' then ['\\', 'r']
  else if c = '\t' then ['\\', 't']
  else if c = '\x08' then ['\\', 'b']
  else if c = '\x0c' then ['\\', 'f']
  else if c.toNat < 0x20 then
    ['\\', 'u', '0', '0', Nat.digitChar (c.toNat / 16), Nat.digitChar (c.toNat % 16)]
  else [c]

def writeString (s : String) : List Char :=
  '"' :: s.toList.flatMap escapedChar ++ ['"']

def writeInteger (n : Int) : List Char :=
  Decimal.numeral n

-- An object from its keys and the texts of their values, without blanks.
def writeObject (members : List (String × List Char)) : List Char :=
  let written := members.map fun member => writeString member.1 ++ ':' :: member.2
  '\x7b' :: [','].intercalate written ++ ['\x7d']

end CompletionRing.Json
