import CompletionRing.Decimal.Double

namespace CompletionRing.Decimal

-- A decimal `digits * 10 ^ exponent`.
structure Scientific where
  digits : Nat
  exponent : Int
deriving DecidableEq, Repr

-- Whether a decimal lies in the interval of numbers that round to a double. Its ends, halfway to
-- the neighbours, belong to it when the significand is even. Below a power of two the
-- neighbour is only half as far.
def Scientific.readsBack (s : Scientific) (x : Double) : Bool :=
  let lowStep := if x.significand = Nat.pow 2 52 && -1074 < x.exponent then 1 else 2
  -- all in quarters of the double's last place
  let (n, d) := Double.scaled 1 (x.exponent - 2)
  let low := (4 * x.significand - lowStep) * n
  let high := (4 * x.significand + 2) * n
  let (num, den) :=
    if 0 ≤ s.exponent then (s.digits * Nat.pow 10 s.exponent.toNat, 1)
    else (s.digits, Nat.pow 10 (-s.exponent).toNat)
  if x.significand % 2 = 0 then low * den ≤ num * d && num * d ≤ high * den
  else low * den < num * d && num * d < high * den

-- The power of ten of the first decimal digit of a positive ratio.
def leadingPower (num den : Nat) : Int :=
  if den ≤ num then (Nat.toDigits 10 (num / den)).length - 1
  else
    -- the quotient is below one: `den / num` rounded up has one digit more than the zeros passed
    -(Nat.toDigits 10 ((den - 1) / num)).length

-- The neighbours of a ratio among the decimals of `count` digits, the nearer one first. Of two
-- equally near ones the even one comes first. Above the largest of them comes a power of ten,
-- for which one digit is enough.
def neighbours (num den count : Nat) : List Scientific :=
  let exponent := leadingPower num den - (count - 1 : Int)
  let (n, d) :=
    if 0 ≤ exponent then (num, den * Nat.pow 10 exponent.toNat)
    else (num * Nat.pow 10 (-exponent).toNat, den)
  let floor := n / d
  let twice := 2 * (n % d)
  let below : Scientific := ⟨floor, exponent⟩
  let above : Scientific :=
    if floor + 1 = Nat.pow 10 count then ⟨1, exponent + count⟩ else ⟨floor + 1, exponent⟩
  if twice < d || (twice = d && floor % 2 = 0) then [below, above] else [above, below]

-- The fewest digits that read back as the same double, and of those the nearest.
def shortest (x : Double) : Scientific :=
  let (num, den) := Double.scaled x.significand x.exponent
  let candidates := (List.range 17).flatMap fun i =>
    (neighbours num den (i + 1)).filter fun s => s.readsBack x
  candidates.headD ⟨x.significand, 0⟩

-- Digits with the point placed among them. Between 10^-5 and 10^16 the number is written out, and
-- a whole one ends in `.0`; elsewhere the point follows the first digit and the power of ten is
-- given after `e`, with its sign.
def Scientific.text (s : Scientific) : String :=
  let digits := Nat.toDigits 10 s.digits
  let power := s.exponent + digits.length - 1
  let zeros (n : Int) : List Char := List.replicate n.toNat '0'
  String.ofList <|
    if -5 ≤ power && power ≤ 15 then
      if power < 0 then ['0', '.'] ++ zeros (-power - 1) ++ digits
      else if 0 ≤ s.exponent then digits ++ zeros s.exponent ++ ['.', '0']
      else digits.take (power.toNat + 1) ++ '.' :: digits.drop (power.toNat + 1)
    else
      let fraction := if digits.length = 1 then [] else '.' :: digits.drop 1
      digits.take 1 ++ fraction ++ ['e', if power < 0 then '-' else '+'] ++
        Nat.toDigits 10 power.natAbs

def doubleText (negative : Bool) (x : Double) : String :=
  (if negative then "-" else "") ++
    if x.significand = 0 then "0.0" else (shortest x).text

end CompletionRing.Decimal
