import CompletionRing.Log.Pattern.Set
import CompletionRing.Text.Alphanumeric

namespace CompletionRing.Pattern

-- Which texts are regular expressions. A repetition by number never is one here: it ends with a brace,
-- and the fields that hold patterns end before theirs.

-- How many levels of groups, repetitions, sets, alternatives and sequences may lie inside each other.
def maxHeight : Nat := 250

-- A group as far as it has been read.
structure Group where
  mode : Mode
  -- the heights of the alternatives before the last
  alternatives : List Nat
  -- the heights of the parts of the last one, the last part first
  parts : List Nat

namespace Group

def initial (mode : Mode) : Group := ⟨mode, [], []⟩

def add (g : Group) (height : Nat) : Group :=
  { g with parts := height :: g.parts }

-- Repeats the last part.
def repeatLast (g : Group) : Group :=
  { g with parts := g.parts.modifyHead (· + 1) }

def nextAlternative (g : Group) : Group :=
  ⟨g.mode, heightOf g.parts :: g.alternatives, []⟩

def height (g : Group) : Nat :=
  heightOf (heightOf g.parts :: g.alternatives)

end Group

-- Where a reader stands.
structure Reader where
  group : Group
  -- the groups around it, the innermost first
  outer : List Group
  -- whether the last part may be repeated
  repeatable : Bool
  -- the names of groups
  names : List (List Char)

namespace Reader

def initial : Reader := ⟨.initial .initial, [], false, []⟩

def mode (r : Reader) : Mode :=
  r.group.mode

-- Behind a part of a given height.
def behind (r : Reader) (height : Nat) : Reader :=
  { r with group := r.group.add height, repeatable := true }

-- Inside a new group.
def enter (r : Reader) (mode : Mode) : Reader :=
  { r with group := .initial mode, outer := r.group :: r.outer, repeatable := false }

-- Inside a new group of which the name comes next.
def enterNamed (r : Reader) (cs : List Char) : Option (Reader × List Char) :=
  let mayContinue (c : Char) := Text.isAlphanumeric c || ['_', '.', '[', ']'].contains c
  match cs.span (· ≠ '>') with
  | (first :: more, _ :: rest) =>
      let name := first :: more
      if (first = '_' || Text.isAlphabetic first) && more.all mayContinue && !r.names.contains name then
        some ({ r.enter r.mode with names := name :: r.names }, rest)
      else none
  | _ => none

-- Behind the bracket of a group, or of switches for the rest of the group around. The switches are a
-- part of it that cannot be repeated.
def openGroup (r : Reader) (cs : List Char) : Option (Reader × List Char) :=
  match r.mode.skip cs with
  | '?' :: 'P' :: '<' :: rest => r.enterNamed rest
  | '?' :: '<' :: rest => r.enterNamed rest
  | '?' :: rest =>
      let (switches, rest) := rest.span fun c => c ≠ ':' && c ≠ ')'
      let mode := r.mode.set switches
      if !Mode.mayBeSet switches then none
      else
        match rest with
        | [] => none
        | ':' :: rest => some (r.enter mode, rest)
        | _ :: rest =>
            if switches = [] then none
            else some ({ r with group := { r.group.add 0 with mode }, repeatable := false }, rest)
  | rest => some (r.enter r.mode, rest)

def closeGroup (r : Reader) : Option Reader :=
  match r.outer with
  | [] => none
  | group :: outer => some ({ r with group, outer }.behind (r.group.height + 1))

-- Behind the sign of a repetition, and behind the mark of one that takes as little as it can.
def repeatLast (r : Reader) (cs : List Char) : Option (Reader × List Char) :=
  let rest := if cs.head? = some '?' then cs.drop 1 else cs
  if r.repeatable then some ({ r with group := r.group.repeatLast }, rest) else none

def step (r : Reader) : List Char → Option (Reader × List Char)
  | [] => none
  | '(' :: cs => r.openGroup cs
  | ')' :: cs => r.closeGroup.map fun r => (r, cs)
  | '|' :: cs => some ({ r with group := r.group.nextAlternative, repeatable := false }, cs)
  | '[' :: cs => (readSet r.mode cs).map fun (height, rest) => (r.behind height, rest)
  | '\\' :: cs => do
      let (escape, cs) ← Escape.read r.mode cs
      if escape.mayStand r.mode then some (r.behind 0, cs) else none
  | '{' :: _ => none
  | '.' :: cs => if r.mode.unicode then some (r.behind 0, cs) else none
  | c :: cs =>
      if c = '?' || c = '*' || c = '+' then r.repeatLast cs
      else if c = '^' || c = '$' || r.mode.knowsCases then some (r.behind 0, cs)
      else none

-- Whether the rest is that of a pattern. Each round takes a character, so a size beyond the length is
-- never used up.
def finishesWithin : Nat → Reader → List Char → Bool
  | 0, _, _ => false
  | size + 1, r, cs =>
      match r.mode.skip cs with
      | [] => r.outer.isEmpty && r.group.height ≤ maxHeight
      | rest =>
          match r.step rest with
          | some (r, rest) => finishesWithin size r rest
          | none => false

end Reader

def isPattern (cs : List Char) : Bool :=
  Reader.initial.finishesWithin (cs.length + 1) cs

end CompletionRing.Pattern
