import CompletionRing.Text.Blank

namespace CompletionRing.Pattern

-- What holds from a place on to the end of the group around it.
structure Mode where
  -- letters stand for both of their cases (`i`)
  caseless : Bool
  -- characters are meant, and not bytes (`u`)
  unicode : Bool
  -- blanks and comments stand for nothing (`x`)
  spaced : Bool
deriving DecidableEq

namespace Mode

def initial : Mode := ⟨false, true, false⟩

-- Goes over blanks and comments, inside a comment at first or outside.
def skipSpacing : Bool → List Char → List Char
  | _, [] => []
  | true, c :: cs => skipSpacing (c ≠ '\n') cs
  | false, c :: cs =>
      if Text.isBlank c then skipSpacing false cs
      else if c = '#' then skipSpacing true cs
      else c :: cs

def skip (m : Mode) (cs : List Char) : List Char :=
  if m.spaced then skipSpacing false cs else cs

-- The character that decides what a hyphen in a set means. Blanks and one number sign are passed over
-- on the way to it, but not the comment that the sign begins.
def next? (m : Mode) (cs : List Char) : Option Char :=
  if m.spaced then
    match cs.dropWhile Text.isBlank with
    | '#' :: rest => (rest.dropWhile Text.isBlank).head?
    | rest => rest.head?
  else cs.head?

-- The cases of letters are known for bytes only.
def knowsCases (m : Mode) : Bool :=
  !(m.caseless && m.unicode)

-- Whether a set may hold a character. Sets of bytes hold no parts of longer characters.
def mayHold (m : Mode) (c : Char) : Bool :=
  m.knowsCases && (m.unicode || c.toNat < 0x80)

-- The letters of the three switches above, and of four that tell only how a text is searched.
def letters : List Char := ['i', 'm', 's', 'U', 'u', 'R', 'x']

-- Switches before a hyphen are set, those behind it are cleared.
def mayBeSet (switches : List Char) : Bool :=
  let signs := '-' :: letters
  switches.all signs.contains && signs.all (fun c => switches.count c ≤ 1) &&
    switches.getLast? ≠ some '-'

def set (m : Mode) (switches : List Char) : Mode :=
  let (on, off) := switches.span (· ≠ '-')
  let state (c : Char) (now : Bool) := on.contains c || (now && !off.contains c)
  ⟨state 'i' m.caseless, state 'u' m.unicode, state 'x' m.spaced⟩

end Mode

end CompletionRing.Pattern
