import CompletionRing.Decimal.Numeral
import CompletionRing.Decimal.Shortest
import CompletionRing.Text.Bytes
import CompletionRing.Text.Fields
import CompletionRing.Text.Quoted

namespace CompletionRing.Json

-- What a reader met where it had to see what kind of value begins. Scalars have been read to their
-- end; a bracket stands for all that it opens.
inductive Found where
  | null
  | boolean (value : Bool)
  | integer (value : Int)
  | double (negative : Bool) (size : Decimal.Double)
  | string (value : String)
  | sequence
  | map
deriving DecidableEq

def Found.text : Found → String
  | .null => "null"
  | .boolean value => "boolean `" ++ Text.truth value ++ "`"
  | .integer value => "integer `" ++ Decimal.text value ++ "`"
  | .double negative size => "floating point `" ++ Decimal.doubleText negative size ++ "`"
  | .string value => "string " ++ Text.quoted value
  | .sequence => "sequence"
  | .map => "map"

inductive Cause where
  | endInValue
  | endInString
  | endInList
  | endInObject
  | expectedValue
  | expectedLiteral
  | expectedColon
  | expectedCommaOrBracket
  | expectedCommaOrBrace
  | keyNotString
  | trailingComma
  | trailingCharacters
  | controlCharacter
  | invalidEscape
  | loneSurrogate
  | endOfSurrogate
  | invalidNumber
  | numberOutOfRange
  | tooDeep
  | wrongType (found : Found) (expected : String)
  | wrongValue (found : Int) (expected : String)
  | wrongLength (found : Nat) (expected : String)
  | unknownVariant (found : String) (variants : List String)
  | missingField (name : String)
  | duplicateField (name : String)
deriving DecidableEq

private def inBackticks (s : String) : String :=
  "`" ++ s ++ "`"

def Cause.message : Cause → String
  | .endInValue => "EOF while parsing a value"
  | .endInString => "EOF while parsing a string"
  | .endInList => "EOF while parsing a list"
  | .endInObject => "EOF while parsing an object"
  | .expectedValue => "expected value"
  | .expectedLiteral => "expected ident"
  | .expectedColon => "expected `:`"
  | .expectedCommaOrBracket => "expected `,` or `]`"
  | .expectedCommaOrBrace => "expected `,` or `\x7d`"
  | .keyNotString => "key must be a string"
  | .trailingComma => "trailing comma"
  | .trailingCharacters => "trailing characters"
  | .controlCharacter => "control character (\\u0000-\\u001F) found while parsing a string"
  | .invalidEscape => "invalid escape"
  | .loneSurrogate => "lone leading surrogate in hex escape"
  | .endOfSurrogate => "unexpected end of hex escape"
  | .invalidNumber => "invalid number"
  | .numberOutOfRange => "number out of range"
  | .tooDeep => "recursion limit exceeded"
  | .wrongType found expected => "invalid type: " ++ found.text ++ ", expected " ++ expected
  | .wrongValue found expected => "invalid value: " ++ (Found.integer found).text ++ ", expected " ++ expected
  | .wrongLength found expected => "invalid length " ++ Decimal.text found ++ ", expected " ++ expected
  | .unknownVariant found variants =>
      "unknown variant " ++ inBackticks found ++ ", expected one of " ++
        ", ".intercalate (variants.map inBackticks)
  | .missingField name => "missing field " ++ inBackticks name
  | .duplicateField name => "duplicate field " ++ inBackticks name

-- A cause together with the number of bytes of the document that lie behind its place.
structure Fault where
  cause : Cause
  unread : Nat
deriving DecidableEq

-- A fault just before the rest of the document.
def Fault.before (cause : Cause) (rest : List Char) : Fault :=
  ⟨cause, Text.bytes rest⟩

-- A fault some bytes into the rest of the document, or at its end if that comes first.
def Fault.inside (cause : Cause) (count : Nat) (rest : List Char) : Fault :=
  ⟨cause, Text.bytes rest - count⟩

-- A fault at the next byte, which the place takes in.
def Fault.at (cause : Cause) (rest : List Char) : Fault :=
  .inside cause 1 rest

-- A place in a document: the line from one, and the bytes passed on it.
structure Place where
  line : Nat
  column : Nat
deriving DecidableEq

def Place.advance (place : Place) (count : Nat) : List Char → Place
  | [] => place
  | c :: rest =>
      if count = 0 then place
      else if c = '\n' then advance ⟨place.line + 1, 0⟩ (count - 1) rest
      else advance ⟨place.line, place.column + min c.utf8Size count⟩ (count - c.utf8Size) rest

structure Refusal where
  cause : Cause
  place : Place
deriving DecidableEq

def Fault.refusal (fault : Fault) (document : List Char) : Refusal :=
  ⟨fault.cause, Place.advance ⟨1, 0⟩ (Text.bytes document - fault.unread) document⟩

def Refusal.message (refusal : Refusal) : String :=
  refusal.cause.message ++ " at line " ++ Decimal.text refusal.place.line ++
    " column " ++ Decimal.text refusal.place.column

-- A value that has been read and the rest of the document.
abbrev Reading (α : Type) := α × List Char

end CompletionRing.Json
