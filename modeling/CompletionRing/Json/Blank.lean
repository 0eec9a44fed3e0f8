import CompletionRing.Json.Fault

namespace CompletionRing.Json

-- The four characters that may stand between the tokens of a document.
def isBlank (c : Char) : Bool :=
  c = ' ' || c = '\n' || c = '\t' || c = '\r'

def skipBlanks (cs : List Char) : List Char :=
  cs.dropWhile isBlank

theorem skipBlanks_cons_of_not {c : Char} (rest : List Char) (h : isBlank c = false) :
    skipBlanks (c :: rest) = c :: rest := by
  simp [skipBlanks, h]

theorem skipBlanks_append {blanks : List Char} (rest : List Char) (h : ∀ c ∈ blanks, isBlank c = true) :
    skipBlanks (blanks ++ rest) = skipBlanks rest := by
  simp [skipBlanks, List.dropWhile_append_of_pos h]

-- The rest of a literal whose first letter has been read.
def readLiteral : List Char → List Char → Except Fault (List Char)
  | [], rest => .ok rest
  | _ :: _, [] => .error (.before .endInValue [])
  | expected :: more, c :: rest =>
      if c = expected then readLiteral more rest else .error (.at .expectedLiteral (c :: rest))

end CompletionRing.Json
