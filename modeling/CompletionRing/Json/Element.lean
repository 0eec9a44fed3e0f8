import CompletionRing.Json.Number
import CompletionRing.Json.Quoted

namespace CompletionRing.Json

-- What stands where a value is expected. A scalar is read to its end; a bracket is left standing.
def readFound (cs : List Char) : Except Fault (Reading Found) :=
  match skipBlanks cs with
  | [] => .error (.before .endInValue [])
  | 'n' :: rest => do .ok (.null, ← readLiteral ['u', 'l', 'l'] rest)
  | 't' :: rest => do .ok (.boolean true, ← readLiteral ['r', 'u', 'e'] rest)
  | 'f' :: rest => do .ok (.boolean false, ← readLiteral ['a', 'l', 's', 'e'] rest)
  | '"' :: rest => do
      let (text, rest) ← readText rest
      .ok (.string (String.ofList text), rest)
  | '[' :: rest => .ok (.sequence, '[' :: rest)
  | '\x7b' :: rest => .ok (.map, '\x7b' :: rest)
  | '-' :: rest => do
      let (number, rest) ← scanNumber .endInValue true rest
      number.found rest
  | c :: rest =>
      if c.isDigit then do
        let (number, rest) ← scanNumber .endInValue false (c :: rest)
        number.found rest
      else .error (.at .expectedValue (c :: rest))

-- Where a list stands before an element: closed, or at the element.
inductive Item where
  | closed (rest : List Char)
  | element (rest : List Char)

-- Goes to the next element of a list, over the comma that has to precede all but the first.
def nextItem (first : Bool) (cs : List Char) : Except Fault Item :=
  match skipBlanks cs with
  | [] => .error (.before .endInList [])
  | ']' :: rest => .ok (.closed rest)
  | c :: rest =>
      if first then .ok (.element (c :: rest))
      else if c = ',' then
        match skipBlanks rest with
        | [] => .error (.before .endInValue [])
        | ']' :: rest => .error (.at .trailingComma (']' :: rest))
        | rest => .ok (.element rest)
      else .error (.at .expectedCommaOrBracket (c :: rest))

-- The end of a list that has given all that was wanted of it.
def closeList (cs : List Char) : Except Fault (List Char) :=
  match skipBlanks cs with
  | [] => .error (.before .endInList [])
  | ']' :: rest => .ok rest
  | ',' :: rest =>
      match skipBlanks rest with
      | ']' :: rest => .error (.at .trailingComma (']' :: rest))
      | rest => .error (.at .trailingCharacters rest)
  | rest => .error (.at .trailingCharacters rest)

-- Where an object stands before a member: closed, or behind the member's key.
inductive Member where
  | closed (rest : List Char)
  | key (name : String) (rest : List Char)

-- Goes to the next member of an object and reads its key.
def nextMember (first : Bool) (cs : List Char) : Except Fault Member :=
  match skipBlanks cs with
  | [] => .error (.before .endInObject [])
  | '\x7d' :: rest => .ok (.closed rest)
  | c :: rest =>
      if first then key (c :: rest)
      else if c = ',' then
        match skipBlanks rest with
        | [] => .error (.before .endInValue [])
        | '\x7d' :: rest => .error (.at .trailingComma ('\x7d' :: rest))
        | rest => key rest
      else .error (.at .expectedCommaOrBrace (c :: rest))
where
  key : List Char → Except Fault Member
    | '"' :: rest => do
        let (name, rest) ← readText rest
        .ok (.key (String.ofList name) rest)
    | rest => .error (.at .keyNotString rest)

def readColon (cs : List Char) : Except Fault (List Char) :=
  match skipBlanks cs with
  | [] => .error (.before .endInObject [])
  | ':' :: rest => .ok rest
  | rest => .error (.at .expectedColon rest)

-- A fault of an object as a whole has its place behind the object if the object closes here.
def Fault.ofObject (cause : Cause) (cs : List Char) : Fault :=
  match skipBlanks cs with
  | '\x7d' :: rest => .before cause rest
  | rest => .before cause rest

-- A fault of a list as a whole has its place behind the list if the list closes here, and otherwise
-- behind the next comma.
def Fault.ofList (cause : Cause) (cs : List Char) : Fault :=
  match skipBlanks cs with
  | ']' :: rest => .before cause rest
  | ',' :: rest => .before cause (skipBlanks rest)
  | rest => .before cause rest

end CompletionRing.Json
