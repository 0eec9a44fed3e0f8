namespace CompletionRing.Text

-- The size of a text in bytes.
def bytes : List Char → Nat
  | [] => 0
  | c :: cs => c.utf8Size + bytes cs

-- A text parted behind so many bytes, unless this would split a character or pass the end.
def splitBytes : Nat → List Char → Option (List Char × List Char)
  | 0, cs => some ([], cs)
  | _, [] => none
  | count, c :: cs =>
      if count < c.utf8Size then none
      else (splitBytes (count - c.utf8Size) cs).map fun (front, back) => (c :: front, back)

-- What a text holds between two places, given by the bytes before each.
def between (start stop : Nat) (cs : List Char) : Option (List Char) := do
  let (_, cs) ← splitBytes start cs
  let (part, _) ← splitBytes (stop - start) cs
  some part

-- What a text holds from a place to its end.
def behind (start : Nat) (cs : List Char) : Option (List Char) :=
  (splitBytes start cs).map (·.2)

end CompletionRing.Text
