namespace CompletionRing.Decimal

-- The canonical numeral of an integer: no leading zeros, and a minus sign only below zero.
def numeral (n : Int) : List Char :=
  if n < 0 then '-' :: Nat.toDigits 10 n.natAbs else Nat.toDigits 10 n.natAbs

def text (n : Int) : String :=
  String.ofList (numeral n)

-- The number that a run of decimal digits stands for. Leading zeros count nothing.
def value (digits : List Char) : Nat :=
  Nat.ofDigitChars 10 digits 0

theorem value_toDigits (n : Nat) : value (Nat.toDigits 10 n) = n :=
  Nat.ofDigitChars_ten_toDigits

theorem numeral_natCast (n : Nat) : numeral n = Nat.toDigits 10 n := by
  simp [numeral]

theorem text_eq_toString (n : Int) : text n = toString n := by
  cases n with
  | ofNat n => exact congrArg String.ofList (numeral_natCast n)
  | negSucc n =>
      have hneg : numeral (.negSucc n) = ['-'] ++ Nat.toDigits 10 (n + 1) := if_pos (Int.negSucc_lt_zero n)
      rw [text, hneg, String.ofList_append]
      rfl

end CompletionRing.Decimal
