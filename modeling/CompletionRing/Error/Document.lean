import CompletionRing.Error
import CompletionRing.Json.Record
import CompletionRing.Json.Write

namespace CompletionRing.RingError

-- An error is an object that names its variant in one member and holds the details in another.
def variantKey : String := "error_type"
def detailsKey : String := "details"

inductive Variant where
  | invalidLayout
  | overflow
  | config
deriving DecidableEq

namespace Variant

def all : List Variant := [.invalidLayout, .overflow, .config]

def name : Variant → String
  | .invalidLayout => "invalid_layout"
  | .overflow => "overflow"
  | .config => "config"

def ofName (found : String) : Except Json.Cause Variant :=
  match all.find? fun variant => variant.name = found with
  | some variant => .ok variant
  | none => .error (.unknownVariant found (all.map name))

def readName (cs : List Char) : Except Json.Fault (Json.Reading Variant) := do
  match ← Json.readFound cs with
  | (.string found, rest) =>
      match ofName found with
      | .ok variant => .ok (variant, rest)
      | .error cause => .error (.before cause rest)
  | (found, rest) => .error (.before (.wrongType found "variant identifier") rest)

-- A variant's name as the first key of an object.
def readKey (cs : List Char) : Except Json.Fault (Json.Reading Variant) :=
  match Json.skipBlanks cs with
  | [] => .error (.before .endInObject [])
  | '\x7d' :: rest => .error (.at .expectedValue ('\x7d' :: rest))
  | '"' :: rest => readName ('"' :: rest)
  | rest => .error (.at .keyNotString rest)

def closeObject (cs : List Char) : Except Json.Fault (List Char) :=
  match Json.skipBlanks cs with
  | '\x7d' :: rest => .ok rest
  | [] => .error (.before .endInObject [])
  | rest => .error (.before .expectedValue rest)

-- A variant is named by a string, or by the only key of an object whose value is null.
def read (cs : List Char) : Except Json.Fault (Json.Reading Variant) :=
  match Json.skipBlanks cs with
  | [] => .error (.before .endInValue [])
  | '"' :: rest => readName ('"' :: rest)
  | '\x7b' :: rest => do
      let (variant, rest) ← readKey rest
      match ← Json.readFound (← Json.readColon rest) with
      | (.null, rest) => .ok (variant, ← closeObject rest)
      | (found, rest) => .error (.before (.wrongType found "unit") rest)
  | rest => .error (.at .expectedValue rest)

end Variant

def overflowFields : List Json.Field :=
  [⟨"pending", .unsigned32⟩, ⟨"capacity", .unsigned32⟩]

def ofOverflowFields (given : Json.Assignment) : Except Json.Cause RingError :=
  match Json.missing overflowFields given with
  | some cause => .error cause
  | none =>
      let number name := UInt32.ofInt ((given.lookup name).getD 0)
      .ok (.overflow (number "pending") (number "capacity"))

def ofDetail : Variant → String → RingError
  | .config, detail => .config detail
  | _, detail => .invalidLayout detail

def expectedDetail : String := "a string"
def expectedOverflow : String := "struct variant RingError::Overflow"
def expectedError : String := "adjacently tagged enum RingError"

-- The details of an overflow. A list is opened before it is refused.
def readOverflow (cs : List Char) : Except Json.Fault (Json.Reading RingError) := do
  match ← Json.readFound cs with
  | (.map, _ :: inner) =>
      let (given, rest) ← Json.readFields overflowFields inner
      match ofOverflowFields given with
      | .ok error => .ok (error, rest)
      | .error cause => .error (.before cause rest)
  | (.sequence, _ :: inner) => .error (.ofList (.wrongType .sequence expectedOverflow) inner)
  | (found, rest) => .error (.before (.wrongType found expectedOverflow) rest)

def readDetails (variant : Variant) (cs : List Char) : Except Json.Fault (Json.Reading RingError) :=
  if variant = .overflow then readOverflow cs
  else do
    match ← Json.readFound cs with
    | (.string detail, rest) => .ok (ofDetail variant detail, rest)
    | (found, rest) => .error (.before (.wrongType found expectedDetail) rest)

-- The details of an error out of a value that was kept.
def takeDetails (variant : Variant) (kept : Json.Value) : Except Json.Cause RingError :=
  match variant, kept with
  | .overflow, .object members => do
      ofOverflowFields (← Json.takeFields overflowFields [] members)
  | .overflow, kept => .error (.wrongType kept.found expectedOverflow)
  | variant, .scalar (.string detail) => .ok (ofDetail variant detail)
  | _, kept => .error (.wrongType kept.found expectedDetail)

-- The two members that count.
inductive Part where
  | variant
  | details

def Part.key : Part → String
  | .variant => variantKey
  | .details => detailsKey

-- Where an object stands before a member that counts.
inductive Next where
  | closed (rest : List Char)
  | part (part : Part) (rest : List Char)

-- Each round takes a key, so a size beyond the length is never used up.
def nextPartWithin : Nat → Bool → List Char → Except Json.Fault Next
  | 0, _, rest => .error (.before .endInObject rest)
  | size + 1, first, cs => do
      match ← Json.nextMember first cs with
      | .closed rest => .ok (.closed rest)
      | .key name rest =>
          if name = variantKey then .ok (.part .variant rest)
          else if name = detailsKey then .ok (.part .details rest)
          else nextPartWithin size false (← Json.skipValue (← Json.readColon rest))

-- Goes to the next member that counts, over all others.
def nextPart (first : Bool) (cs : List Char) : Except Json.Fault Next :=
  nextPartWithin (cs.length + 1) first cs

def finish (error : RingError) (cs : List Char) : Except Json.Fault (Json.Reading RingError) := do
  match ← nextPart false cs with
  | .closed rest => .ok (error, rest)
  | .part part rest => .error (.ofObject (.duplicateField part.key) rest)

-- How deep details may nest that stand before their variant.
def keptDepth : Nat := 127

-- The members of an error's object. Details that stand behind the variant are read as what they have to
-- be; details before it are kept, and judged as soon as the variant is known.
def readMembers (cs : List Char) : Except Json.Fault (Json.Reading RingError) := do
  match ← nextPart true cs with
  | .closed rest => .error (.before (.missingField variantKey) rest)
  | .part .variant rest =>
      let (variant, rest) ← Variant.read (← Json.readColon rest)
      match ← nextPart false rest with
      | .closed rest => .error (.before (.missingField detailsKey) rest)
      | .part .variant rest => .error (.ofObject (.duplicateField variantKey) rest)
      | .part .details rest =>
          let (error, rest) ← readDetails variant (← Json.readColon rest)
          finish error rest
  | .part .details rest =>
      let (kept, rest) ← Json.readValue keptDepth (← Json.readColon rest)
      match ← nextPart false rest with
      | .closed rest => .error (.before (.missingField variantKey) rest)
      | .part .details rest => .error (.ofObject (.duplicateField detailsKey) rest)
      | .part .variant rest =>
          let (variant, rest) ← Variant.read (← Json.readColon rest)
          match takeDetails variant kept with
          | .ok error => finish error rest
          | .error cause => .error (.ofObject cause rest)

-- An error as a list of its variant's name and its details.
def readElements (cs : List Char) : Except Json.Fault (Json.Reading RingError) := do
  match ← Json.nextItem true cs with
  | .closed rest => .error (.before (.wrongLength 0 expectedError) rest)
  | .element rest =>
      let (variant, rest) ← Variant.readName rest
      match ← Json.nextItem false rest with
      | .closed rest => .error (.before (.wrongLength 1 expectedError) rest)
      | .element rest =>
          let (error, rest) ← readDetails variant rest
          .ok (error, ← Json.closeList rest)

def read (cs : List Char) : Except Json.Fault (Json.Reading RingError) := do
  match ← Json.readFound cs with
  | (.map, _ :: inner) => readMembers inner
  | (.sequence, _ :: inner) => readElements inner
  | (found, rest) => .error (.before (.wrongType found expectedError) rest)

def ofDocument (document : String) : Except Json.Refusal RingError :=
  Json.readDocument read document

def variant : RingError → Variant
  | .invalidLayout _ => .invalidLayout
  | .overflow _ _ => .overflow
  | .config _ => .config

def details : RingError → List Char
  | .invalidLayout detail => Json.writeString detail
  | .overflow pending capacity =>
      Json.writeObject [("pending", Json.writeInteger pending.toNat),
        ("capacity", Json.writeInteger capacity.toNat)]
  | .config detail => Json.writeString detail

def members (error : RingError) : List (String × List Char) :=
  [(variantKey, Json.writeString error.variant.name), (detailsKey, error.details)]

def document (error : RingError) : String :=
  String.ofList (Json.writeObject error.members)

end CompletionRing.RingError
