import CompletionRing.Json.Element

namespace CompletionRing.Json

-- The two ways in which values nest.
inductive Bracket where
  | list
  | object
deriving DecidableEq

def Bracket.closing : Bracket → Char
  | .list => ']'
  | .object => '\x7d'

def Bracket.endInside : Bracket → Cause
  | .list => .endInList
  | .object => .endInObject

def Bracket.expected : Bracket → Cause
  | .list => .expectedCommaOrBracket
  | .object => .expectedCommaOrBrace

-- From the start of an element to its value. Only in an object is there anything before it.
def skipToValue (bracket : Bracket) (cs : List Char) : Except Fault (List Char) :=
  match bracket with
  | .list => .ok cs
  | .object =>
      match skipBlanks cs with
      | [] => .error (.before .endInObject [])
      | '"' :: rest => do readColon (← skipText rest)
      | rest => .error (.at .keyNotString rest)

-- From behind a value out of all brackets that close here, up to the next value. The brackets around
-- that value are given with it; where there are none, the outermost value has ended.
def leaveBrackets : List Bracket → List Char → Except Fault (List Bracket × List Char)
  | [], cs => .ok ([], cs)
  | bracket :: outer, cs =>
      match skipBlanks cs with
      | [] => .error (.before bracket.endInside [])
      | c :: rest =>
          if c = ',' then do .ok (bracket :: outer, ← skipToValue bracket rest)
          else if c = bracket.closing then leaveBrackets outer rest
          else .error (.at bracket.expected (c :: rest))

-- From behind an opening bracket up to the next value.
def enterBracket (bracket : Bracket) (outer : List Bracket) (cs : List Char) :
    Except Fault (List Bracket × List Char) :=
  match skipBlanks cs with
  | [] => .error (.before bracket.endInside [])
  | c :: rest =>
      if c = bracket.closing then leaveBrackets outer rest
      else do .ok (bracket :: outer, ← skipToValue bracket (c :: rest))

-- One value, or the opening bracket of one, with all that can be left behind after it.
def skipStep (around : List Bracket) (cs : List Char) : Except Fault (List Bracket × List Char) :=
  match skipBlanks cs with
  | [] => .error (.before .endInValue [])
  | 'n' :: rest => do leaveBrackets around (← readLiteral ['u', 'l', 'l'] rest)
  | 't' :: rest => do leaveBrackets around (← readLiteral ['r', 'u', 'e'] rest)
  | 'f' :: rest => do leaveBrackets around (← readLiteral ['a', 'l', 's', 'e'] rest)
  | '"' :: rest => do leaveBrackets around (← skipText rest)
  | '[' :: rest => enterBracket .list around rest
  | '\x7b' :: rest => enterBracket .object around rest
  | '-' :: rest => do
      let (_, rest) ← scanNumber .invalidNumber true rest
      leaveBrackets around rest
  | c :: rest =>
      if c.isDigit then do
        let (_, rest) ← scanNumber .invalidNumber false (c :: rest)
        leaveBrackets around rest
      else .error (.at .expectedValue (c :: rest))

-- Each step takes the first character of a value, so a size beyond the length is never used up.
def skipWithin : Nat → List Bracket → List Char → Except Fault (List Char)
  | 0, _, _ => .error (.before .endInValue [])
  | size + 1, around, cs => do
      let (around, rest) ← skipStep around cs
      if around = [] then .ok rest else skipWithin size around rest

-- A value that nobody will look at. It may nest to any depth, its numbers may have any size.
def skipValue (cs : List Char) : Except Fault (List Char) :=
  skipWithin (cs.length + 1) [] cs

end CompletionRing.Json
