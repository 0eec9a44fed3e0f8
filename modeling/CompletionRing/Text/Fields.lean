namespace CompletionRing.Text

-- A value shown by its type's name and its fields, on one line.
def fields (name : String) (entries : List (String × String)) : String :=
  let shown := entries.map fun entry => entry.1 ++ ": " ++ entry.2
  name ++ " \x7b " ++ ", ".intercalate shown ++ " \x7d"

-- The same with a line for each field, indented by four blanks and closed by a comma.
def fieldLines (name : String) (entries : List (String × String)) : String :=
  let shown := entries.map fun entry => "    " ++ entry.1 ++ ": " ++ entry.2 ++ ",\n"
  name ++ " \x7b\n" ++ String.join shown ++ "\x7d"

-- A truth value.
def truth (b : Bool) : String :=
  if b then "true" else "false"

end CompletionRing.Text
