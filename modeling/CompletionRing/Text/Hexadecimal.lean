namespace CompletionRing.Text

-- A number in lower-case hexadecimal.
def hexadecimal (n : Nat) : List Char :=
  Nat.toDigits 16 n

-- The value of a hexadecimal digit of either case.
def hexDigit (c : Char) : Option Nat :=
  if c.isDigit then some (c.toNat - '0'.toNat)
  else if 'a' ≤ c && c ≤ 'f' then some (c.toNat - 'a'.toNat + 10)
  else if 'A' ≤ c && c ≤ 'F' then some (c.toNat - 'A'.toNat + 10)
  else none

end CompletionRing.Text
