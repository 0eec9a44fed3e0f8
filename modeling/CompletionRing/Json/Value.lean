import CompletionRing.Json.Element

namespace CompletionRing.Json

-- A value kept until it is known what it has to be.
inductive Value where
  | scalar (found : Found)
  | list (items : List Value)
  | object (members : List (String × Value))

-- What a reader would have found at the value.
def Value.found : Value → Found
  | .scalar found => found
  | .list _ => .sequence
  | .object _ => .map

-- Every step takes a character at least, so the size of the document bounds their number.
mutual

def readValueWithin : Nat → Nat → List Char → Except Fault (Reading Value)
  | 0, _, rest => .error (.before .endInValue rest)
  | size + 1, depth, cs => do
      let (found, rest) ← readFound cs
      match found, rest with
      | .sequence, _ :: inner =>
          if depth ≤ 1 then .error (.at .tooDeep rest)
          else
            let (items, rest) ← readItemsWithin size (depth - 1) true inner
            .ok (.list items, rest)
      | .map, _ :: inner =>
          if depth ≤ 1 then .error (.at .tooDeep rest)
          else
            let (members, rest) ← readMembersWithin size (depth - 1) true inner
            .ok (.object members, rest)
      | found, rest => .ok (.scalar found, rest)

def readItemsWithin : Nat → Nat → Bool → List Char → Except Fault (Reading (List Value))
  | 0, _, _, rest => .error (.before .endInList rest)
  | size + 1, depth, first, cs => do
      match ← nextItem first cs with
      | .closed rest => .ok ([], rest)
      | .element rest =>
          let (value, rest) ← readValueWithin size depth rest
          let (items, rest) ← readItemsWithin size depth false rest
          .ok (value :: items, rest)

def readMembersWithin : Nat → Nat → Bool → List Char → Except Fault (Reading (List (String × Value)))
  | 0, _, _, rest => .error (.before .endInObject rest)
  | size + 1, depth, first, cs => do
      match ← nextMember first cs with
      | .closed rest => .ok ([], rest)
      | .key name rest =>
          let rest ← readColon rest
          let (value, rest) ← readValueWithin size depth rest
          let (members, rest) ← readMembersWithin size depth false rest
          .ok ((name, value) :: members, rest)

end

-- A whole value, in which fewer than `depth` brackets may be open at once.
def readValue (depth : Nat) (cs : List Char) : Except Fault (Reading Value) :=
  readValueWithin (2 * cs.length + 1) depth cs

end CompletionRing.Json
