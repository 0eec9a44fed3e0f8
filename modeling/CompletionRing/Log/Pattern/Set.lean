import CompletionRing.Log.Pattern.Escape

namespace CompletionRing.Pattern

-- How high some parts are together. One alone stands for itself, several make a level of their own.
def heightOf : List Nat → Nat
  | [] => 0
  | [height] => height
  | heights => heights.foldl max 0 + 1

-- The sets that have a name.
def setNames : List String :=
  ["alnum", "alpha", "ascii", "blank", "cntrl", "digit", "graph", "lower", "print", "punct", "space",
    "upper", "word", "xdigit"]

-- A named set behind its first bracket, and whether it is what lies outside.
def readNamedSet : List Char → Option (Bool × List Char)
  | ':' :: cs =>
      let negated := cs.head? = some '^'
      match (if negated then cs.drop 1 else cs).span (· ≠ ':') with
      | (name, ':' :: ']' :: rest) =>
          if setNames.contains (String.ofList name) then some (negated, rest) else none
      | _ => none
  | _ => none

-- One member of a set.
def readMember (m : Mode) : List Char → Option (Escape × List Char)
  | [] => none
  | '\\' :: cs => Escape.read m cs
  | c :: cs => some (.char c, cs)

-- One member of a set, or a range of characters by its ends.
def readMembers (m : Mode) (cs : List Char) : Option (List Char) := do
  let (first, rest) ← readMember m cs
  let single := if first.mayStandInSet m then some (m.skip rest) else none
  match m.skip rest with
  | '-' :: rest =>
      if m.next? rest = some ']' || m.next? rest = some '-' then single
      else
        let (last, rest) ← readMember m (m.skip rest)
        match first, last with
        | .char low, .char high =>
            if low ≤ high && m.mayHold low && m.mayHold high then some rest else none
        | _, _ => none
  | _ => single

-- The sign of an operation on sets.
def readOperator : List Char → Option (List Char)
  | '&' :: '&' :: rest => some rest
  | '-' :: '-' :: rest => some rest
  | '~' :: '~' :: rest => some rest
  | _ => none

-- A set as far as it has been read.
structure OpenSet where
  -- whether it holds nothing but hyphens so far, which stand for themselves there
  fresh : Bool
  -- the height of all that stands before the last operator
  before : Option Nat
  -- the heights of the members since
  members : List Nat

namespace OpenSet

def initial : OpenSet := ⟨true, none, []⟩

def addHyphen (s : OpenSet) : OpenSet :=
  { s with members := 0 :: s.members }

def add (s : OpenSet) (height : Nat) : OpenSet :=
  ⟨false, s.before, height :: s.members⟩

-- An operator joins all that stands before it with the members behind it.
def height (s : OpenSet) : Nat :=
  match s.before with
  | none => heightOf s.members
  | some before => max before (heightOf s.members) + 1

def operate (s : OpenSet) : OpenSet :=
  ⟨false, some s.height, []⟩

end OpenSet

-- What follows the bracket of a set. The bytes outside of a set would be parts of longer characters.
def enterSet (m : Mode) (cs : List Char) : Option (List Char) :=
  match m.skip cs with
  | '^' :: rest => if m.unicode then some rest else none
  | rest => some rest

-- The rest of a set and of the sets around it, with the height of the outermost. A closing bracket that
-- comes first stands for itself. Each round takes a character, so a size beyond the length is never
-- used up.
def readSetWithin (m : Mode) : Nat → OpenSet → List OpenSet → List Char → Option (Nat × List Char)
  | 0, _, _, _ => none
  | size + 1, s, outer, cs =>
      match m.skip cs with
      | '[' :: rest =>
          match readNamedSet rest with
          | some (negated, rest) =>
              if m.knowsCases && (m.unicode || !negated) then readSetWithin m size (s.add 0) outer rest
              else none
          | none => do readSetWithin m size .initial (s :: outer) (← enterSet m rest)
      | ']' :: rest =>
          if s.fresh && s.members = [] then
            if m.mayHold ']' then readSetWithin m size (s.add 0) outer rest else none
          else
            match outer with
            | [] => some (s.height + 1, rest)
            | parent :: outer => readSetWithin m size (parent.add (s.height + 1)) outer rest
      | rest =>
          if s.fresh && rest.head? = some '-' then
            if m.mayHold '-' then readSetWithin m size s.addHyphen outer (rest.drop 1) else none
          else
            match readOperator rest with
            | some rest => readSetWithin m size s.operate outer rest
            | none => do readSetWithin m size (s.add 0) outer (← readMembers m rest)

-- The height of a set and what follows it, behind its bracket.
def readSet (m : Mode) (cs : List Char) : Option (Nat × List Char) := do
  readSetWithin m (cs.length + 1) .initial [] (← enterSet m cs)

end CompletionRing.Pattern
