import CompletionRing.Decimal.Numeral
import CompletionRing.Log
import CompletionRing.Log.Pattern
import CompletionRing.Text.Bytes

namespace CompletionRing

-- Which levels a filter lets through: all up to one, or none.
abbrev Threshold := Option Level

def Level.rank : Level → Nat
  | .error => 1
  | .warn => 2
  | .info => 3
  | .debug => 4
  | .trace => 5

def Threshold.passes (threshold : Threshold) (level : Level) : Bool :=
  match threshold with
  | some least => level.rank ≤ least.rank
  | none => false

def Threshold.ofText? (cs : List Char) : Option Threshold :=
  let digits := match cs with
    | '+' :: rest => rest
    | cs => cs
  if digits ≠ [] && digits.all Char.isDigit then
    match Decimal.value digits with
    | 0 => some none
    | 1 => some (some .error)
    | 2 => some (some .warn)
    | 3 => some (some .info)
    | 4 => some (some .debug)
    | 5 => some (some .trace)
    | _ => none
  else
    match String.ofList (cs.map Char.toLower) with
    | "off" => some none
    | "error" => some (some .error)
    | "warn" => some (some .warn)
    | "info" => some (some .info)
    | "debug" => some (some .debug)
    | "trace" => some (some .trace)
    | _ => none

-- A field that an event has to carry, and the value that it has to have there.
structure FieldTest where
  name : String
  value : Option (List Char)
deriving DecidableEq

namespace FieldTest

def isExponent : List Char → Bool
  | [] => true
  | c :: cs =>
      let digits := if cs.head? = some '+' || cs.head? = some '-' then cs.drop 1 else cs
      (c = 'e' || c = 'E') && digits ≠ [] && digits.all Char.isDigit

-- Numbers, finite or not, with a sign or without.
def isNumber (cs : List Char) : Bool :=
  let size := if cs.head? = some '+' || cs.head? = some '-' then cs.drop 1 else cs
  let (whole, rest) := size.span Char.isDigit
  let (fraction, rest) := if rest.head? = some '.' then (rest.drop 1).span Char.isDigit else ([], rest)
  ["inf", "infinity", "nan"].contains (String.ofList (size.map Char.toLower)) ||
    (whole ++ fraction ≠ [] && isExponent rest)

-- A field's name, with a value or a pattern of values behind the first equals sign. What follows a
-- second one does not count.
def ofText? (cs : List Char) : Option FieldTest :=
  match cs.span (· ≠ '=') with
  | ([], []) => none
  | (name, []) => some ⟨String.ofList name, none⟩
  | (name, _ :: rest) =>
      let value := rest.takeWhile (· ≠ '=')
      if isNumber value || Pattern.isPattern value then some ⟨String.ofList name, some value⟩
      else none

end FieldTest

-- A threshold for the events whose source begins in a given way. Where a span is given, it is for
-- those that happen inside one of that name; where a field is given, for those that carry it.
structure Directive where
  source : List Char
  span : Option (List Char)
  field : Option FieldTest
  threshold : Threshold
deriving DecidableEq

namespace Directive

def general (threshold : Threshold) : Directive :=
  ⟨[], none, none, threshold⟩

inductive Fault where
  | unreadable
  -- a part of it begins or ends inside a character
  | splitCharacter
deriving DecidableEq

-- A directive is read without the blanks around it, but its parts are taken from the text as it was
-- given, with as many bytes before them. So blanks before a directive shift its parts.
def part (given : List Char) (start stop : Nat) : Except Fault (List Char) :=
  match Text.between start stop given with
  | some part => .ok part
  | none => .error .splitCharacter

-- The threshold at the end of a directive. Where it is left out all levels pass.
def readThreshold (given : List Char) (start : Nat) : Except Fault Threshold :=
  match Text.behind start given with
  | none => .error .splitCharacter
  | some [] => .ok (some .trace)
  | some level =>
      match Threshold.ofText? level with
      | some threshold => .ok threshold
      | none => .error .unreadable

-- What follows the brackets of a span.
def readEnd (given : List Char) (d : Directive) (start : Nat) : List Char → Except Fault Directive
  | [] => .ok d
  | '=' :: _ => do .ok { d with threshold := ← readThreshold given (start + 1) }
  | _ => .error .unreadable

-- A field behind its brace.
def readField (given : List Char) (d : Directive) (start : Nat) (cs : List Char) :
    Except Fault Directive :=
  let (field, rest) := cs.span (· ≠ '\x7d')
  let stop := start + Text.bytes field
  match rest with
  | [] => .error .unreadable
  | _ :: rest => do
      match FieldTest.ofText? (← part given start stop), rest with
      | some field, ']' :: rest => readEnd given { d with field := some field } (stop + 2) rest
      | _, _ => .error .unreadable

-- A span behind its bracket. One with a field needs no name.
def readSpan (given : List Char) (d : Directive) (start : Nat) (cs : List Char) :
    Except Fault Directive :=
  let (name, rest) := cs.span fun c => c ≠ ']' && c ≠ '\x7b'
  let stop := start + Text.bytes name
  match rest with
  | [] => .error .unreadable
  | ']' :: rest => do readEnd given { d with span := some (← part given start stop) } (stop + 1) rest
  | _ :: rest => do
      let name ← part given start stop
      readField given { d with span := if name = [] then none else some name } (stop + 1) rest

-- A source begins with a letter, a number or one of these.
def mayBegin (c : Char) : Bool :=
  Text.isAlphanumeric c || c = '-' || c = ':' || c = '_'

-- A directive is a threshold, a source, or a source or span with a threshold behind an equals sign.
def ofText (given : List Char) : Except Fault Directive :=
  let cs := Text.trim given
  let (source, rest) := cs.span fun c => c ≠ '=' && c ≠ '['
  let stop := Text.bytes source
  if !(cs.head?.any fun c => c = '[' || mayBegin c) then .error .unreadable
  else
    match rest with
    | [] =>
        match Threshold.ofText? given with
        | some threshold => .ok (general threshold)
        | none => .ok { general (some .trace) with source := given }
    | '=' :: _ => do
        let source ← part given 0 stop
        .ok { general (← readThreshold given (stop + 1)) with source }
    | _ :: rest => do
        let source ← part given 0 stop
        readSpan given { general (some .trace) with source } (stop + 1) rest

end Directive

end CompletionRing
