namespace CompletionRing.Decimal

-- A double-precision number without sign: `significand * 2 ^ exponent`. Normal numbers have a
-- significand of 53 bits; subnormal ones and zero have the exponent -1074.
structure Double where
  significand : Nat
  exponent : Int
deriving DecidableEq, Repr

namespace Double

def zero : Double := ⟨0, -1074⟩

-- The integer nearest to `num / den`; a tie goes to the even neighbour.
def nearest (num den : Nat) : Nat :=
  let floor := num / den
  let twice := 2 * (num % den)
  if twice < den then floor
  else if den < twice then floor + 1
  else if floor % 2 = 0 then floor else floor + 1

-- `n * 2 ^ e` as a numerator and a denominator.
def scaled (n : Nat) (e : Int) : Nat × Nat :=
  if 0 ≤ e then (n * Nat.pow 2 e.toNat, 1) else (n, Nat.pow 2 (-e).toNat)

-- The largest `e` with `2 ^ e ≤ num / den`, for a positive ratio.
def magnitude (num den : Nat) : Int :=
  let guess : Int := (Nat.log2 num : Int) - Nat.log2 den
  let (n, d) := scaled den guess
  if num * d < n then guess - 1 else guess

-- The double nearest to `num / den`, or `none` where that is beyond the largest one.
def round (num den : Nat) : Option Double :=
  if num = 0 then some zero
  else
    let exponent := max (magnitude num den - 52) (-1074)
    let (n, d) := scaled den exponent
    let significand := nearest (num * d) n
    let result : Double :=
      if significand = Nat.pow 2 53 then ⟨Nat.pow 2 52, exponent + 1⟩ else ⟨significand, exponent⟩
    if 971 < result.exponent then none else some result

def powerOfTen (k : Nat) : Double :=
  (round (Nat.pow 10 k) 1).getD zero

def mul (a b : Double) : Option Double :=
  let (n, d) := scaled (a.significand * b.significand) (a.exponent + b.exponent)
  round n d

-- The quotient by a double that is not zero.
def div (a b : Double) : Option Double :=
  let (n, d) := scaled a.significand (a.exponent - b.exponent)
  round n (d * b.significand)

-- `significand * 10 ^ exponent`, by one rounded product or quotient with a power of ten. Exponents
-- below -308 are first brought up, 308 at a time; a number that has vanished stays zero.
def ofDecimal (significand : Nat) (exponent : Int) : Option Double :=
  (round significand 1).bind fun start => bring start exponent 3
where
  bring (x : Double) (exponent : Int) : Nat → Option Double
    | 0 => some zero
    | steps + 1 =>
        if x.significand = 0 then some zero
        else if 308 < exponent then none
        else if 0 ≤ exponent then x.mul (powerOfTen exponent.toNat)
        else if -308 ≤ exponent then x.div (powerOfTen (-exponent).toNat)
        else (x.div (powerOfTen 308)).bind fun smaller => bring smaller (exponent + 308) steps

end Double

end CompletionRing.Decimal
