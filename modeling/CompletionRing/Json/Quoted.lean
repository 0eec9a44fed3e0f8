import CompletionRing.Json.Blank
import CompletionRing.Text.Hexadecimal

namespace CompletionRing.Json

-- The four digits of an escape by number. They are taken as four bytes, whatever these are.
def readHex (rest : List Char) : Except Fault (Reading Nat) :=
  if Text.bytes rest < 4 then .error (.before .endInString [])
  else
    match rest with
    | a :: b :: c :: d :: after =>
        match Text.hexDigit a, Text.hexDigit b, Text.hexDigit c, Text.hexDigit d with
        | some a, some b, some c, some d => .ok (((a * 16 + b) * 16 + c) * 16 + d, after)
        | _, _, _, _ => .error (.inside .invalidEscape 4 rest)
    | _ => .error (.inside .invalidEscape 4 rest)

-- The second half of a character that needs two escapes by number.
def readSecondHalf (first : Nat) : List Char → Except Fault (Reading Char)
  | [] => .error (.before .endInString [])
  | '\\' :: [] => .error (.before .endInString [])
  | '\\' :: 'u' :: rest => do
      let (second, rest) ← readHex rest
      if 0xdc00 ≤ second && second ≤ 0xdfff then
        .ok (Char.ofNat (0x10000 + (first - 0xd800) * 1024 + (second - 0xdc00)), rest)
      else .error (.before .loneSurrogate rest)
  | '\\' :: rest => .error (.at .endOfSurrogate rest)
  | rest => .error (.at .endOfSurrogate rest)

-- What an escape stands for, by the letter that follows the backslash. An escape by number is
-- `none` here.
def escapeLetter : Char → Option Char
  | '"' => some '"'
  | '\\' => some '\\'
  | '/' => some '/'
  | 'b' => some '\x08'
  | 'f' => some '\x0c'
  | 'n' => some '\n'
  | 'r' => some '\r'
  | 't' => some '\t'
  | _ => none

def readEscape : List Char → Except Fault (Reading Char)
  | [] => .error (.before .endInString [])
  | 'u' :: rest => do
      let (code, rest) ← readHex rest
      if 0xdc00 ≤ code && code ≤ 0xdfff then .error (.before .loneSurrogate rest)
      else if 0xd800 ≤ code && code ≤ 0xdbff then readSecondHalf code rest
      else .ok (Char.ofNat code, rest)
  | c :: rest =>
      match escapeLetter c with
      | some meant => .ok (meant, rest)
      | none => .error (.at .invalidEscape (c :: rest))

-- An escape in a text that nobody will look at: two halves need not match.
def skipEscape : List Char → Except Fault (List Char)
  | [] => .error (.before .endInString [])
  | 'u' :: rest => (readHex rest).map (·.2)
  | c :: rest =>
      match escapeLetter c with
      | some _ => .ok rest
      | none => .error (.at .invalidEscape (c :: rest))

-- Each round takes one character of the string or one escape, so a size beyond the length is never
-- used up.
def readTextWithin : Nat → List Char → Except Fault (Reading (List Char))
  | 0, rest => .error (.before .endInString rest)
  | _, [] => .error (.before .endInString [])
  | _, '"' :: rest => .ok ([], rest)
  | size + 1, '\\' :: rest => do
      let (c, rest) ← readEscape rest
      let (text, rest) ← readTextWithin size rest
      .ok (c :: text, rest)
  | size + 1, c :: rest =>
      if c.toNat < 0x20 then .error (.at .controlCharacter (c :: rest))
      else do
        let (text, rest) ← readTextWithin size rest
        .ok (c :: text, rest)

-- A string behind its opening quote. An unescaped control character is taken in before it is refused.
def readText (cs : List Char) : Except Fault (Reading (List Char)) :=
  readTextWithin (cs.length + 1) cs

def skipTextWithin : Nat → List Char → Except Fault (List Char)
  | 0, rest => .error (.before .endInString rest)
  | _, [] => .error (.before .endInString [])
  | _, '"' :: rest => .ok rest
  | size + 1, '\\' :: rest => do
      let rest ← skipEscape rest
      skipTextWithin size rest
  | size + 1, c :: rest =>
      if c.toNat < 0x20 then .error (.before .controlCharacter (c :: rest))
      else skipTextWithin size rest

-- A string that nobody will look at, behind its opening quote. An unescaped control character is
-- refused where it stands.
def skipText (cs : List Char) : Except Fault (List Char) :=
  skipTextWithin (cs.length + 1) cs

end CompletionRing.Json
