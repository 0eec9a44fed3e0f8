import CompletionRing.Json.Skip
import CompletionRing.Json.Value

namespace CompletionRing.Json

-- The integers that a field may hold, and what a document calls them.
structure IntegerRange where
  name : String
  least : Int
  greatest : Int
deriving DecidableEq

namespace IntegerRange

def unsigned32 : IntegerRange := ⟨"u32", 0, UInt32.size - 1⟩
def unsigned64 : IntegerRange := ⟨"u64", 0, UInt64.size - 1⟩
def size : IntegerRange := ⟨"usize", 0, UInt64.size - 1⟩
def signed32 : IntegerRange := ⟨"i32", Int32.minValue.toInt, Int32.maxValue.toInt⟩

def holds (range : IntegerRange) (n : Int) : Bool :=
  range.least ≤ n && n ≤ range.greatest

-- The integer that was found, or why it is none for this field. There is no rounding and no wrapping.
def take (range : IntegerRange) : Found → Except Cause Int
  | .integer n => if range.holds n then .ok n else .error (.wrongValue n range.name)
  | found => .error (.wrongType found range.name)

end IntegerRange

structure Field where
  name : String
  range : IntegerRange
deriving DecidableEq

-- Fields with the integers that a document gives them.
abbrev Assignment := List (String × Int)

def readInteger (range : IntegerRange) (cs : List Char) : Except Fault (Reading Int) := do
  let (found, rest) ← readFound cs
  match range.take found with
  | .ok n => .ok (n, rest)
  | .error cause => .error (.before cause rest)

-- Each round takes a key, so a size beyond the length is never used up.
def readFieldsWithin (fields : List Field) :
    Nat → Bool → Assignment → List Char → Except Fault (Reading Assignment)
  | 0, _, _, rest => .error (.before .endInObject rest)
  | size + 1, first, given, cs => do
      match ← nextMember first cs with
      | .closed rest => .ok (given, rest)
      | .key name rest =>
          match fields.find? fun field => field.name = name with
          | none => readFieldsWithin fields size false given (← skipValue (← readColon rest))
          | some field =>
              if (given.lookup name).isSome then .error (.ofObject (.duplicateField name) rest)
              else
                let (n, rest) ← readInteger field.range (← readColon rest)
                readFieldsWithin fields size false ((name, n) :: given) rest

-- The members of an object behind its opening brace. A field may be given once; members that are no
-- fields may hold anything.
def readFields (fields : List Field) (cs : List Char) : Except Fault (Reading Assignment) :=
  readFieldsWithin fields (cs.length + 1) true [] cs

-- The elements of a list behind its opening bracket, one for each field. The list may end early.
def readElements : List Field → Bool → List Char → Except Fault (Reading Assignment)
  | [], _, cs => do .ok ([], ← closeList cs)
  | field :: fields, first, cs => do
      match ← nextItem first cs with
      | .closed rest => .ok ([], rest)
      | .element rest =>
          let (n, rest) ← readInteger field.range rest
          let (given, rest) ← readElements fields false rest
          .ok ((field.name, n) :: given, rest)

-- Takes the fields out of an object that has been kept.
def takeFields (fields : List Field) : Assignment → List (String × Value) → Except Cause Assignment
  | given, [] => .ok given
  | given, (name, value) :: members =>
      match fields.find? fun field => field.name = name with
      | none => takeFields fields given members
      | some field =>
          if (given.lookup name).isSome then .error (.duplicateField name)
          else do
            let n ← field.range.take value.found
            takeFields fields ((name, n) :: given) members

def missing (fields : List Field) (given : Assignment) : Option Cause :=
  (fields.find? fun field => (given.lookup field.name).isNone).map fun field => .missingField field.name

def readDocument {α : Type} (read : List Char → Except Fault (Reading α)) (document : String) :
    Except Refusal α :=
  let cs := document.toList
  match read cs with
  | .error fault => .error (fault.refusal cs)
  | .ok (value, rest) =>
      if skipBlanks rest = [] then .ok value
      else .error ((Fault.at .trailingCharacters (skipBlanks rest)).refusal cs)

end CompletionRing.Json
