import CompletionRing.Completion
import CompletionRing.Json.Record
import CompletionRing.Json.Write

namespace CompletionRing.Completion

def documentFields : List Json.Field :=
  [⟨"user_data", .unsigned64⟩, ⟨"result", .signed32⟩, ⟨"flags", .unsigned32⟩]

-- A field that is not given counts as zero here; a reader asks for all of them before.
def ofAssignment (given : Json.Assignment) : Completion :=
  let number name := (given.lookup name).getD 0
  { userData := .ofInt (number "user_data")
    result := .ofInt (number "result")
    flags := .ofInt (number "flags") }

-- A record is an object with all three fields, or the list of the three numbers.
def read (cs : List Char) : Except Json.Fault (Json.Reading Completion) := do
  let (found, rest) ← Json.readFound cs
  match found, rest with
  | .map, _ :: inner =>
      let (given, rest) ← Json.readFields documentFields inner
      match Json.missing documentFields given with
      | some cause => .error (.before cause rest)
      | none => .ok (ofAssignment given, rest)
  | .sequence, _ :: inner =>
      let (given, rest) ← Json.readElements documentFields true inner
      if given.length < documentFields.length then
        .error (.before (.wrongLength given.length "struct Completion with 3 elements") rest)
      else .ok (ofAssignment given, rest)
  | found, rest => .error (.before (.wrongType found "struct Completion") rest)

def ofDocument (document : String) : Except Json.Refusal Completion :=
  Json.readDocument read document

def members (c : Completion) : List (String × List Char) :=
  [("user_data", Json.writeInteger c.userData.toNat), ("result", Json.writeInteger c.result.toInt),
    ("flags", Json.writeInteger c.flags.toNat)]

def document (c : Completion) : String :=
  String.ofList (Json.writeObject c.members)

end CompletionRing.Completion
