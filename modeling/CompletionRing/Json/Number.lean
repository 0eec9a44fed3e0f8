import CompletionRing.Json.Blank

namespace CompletionRing.Json

structure Number where
  negative : Bool
  whole : List Char
  -- the digits behind the point, if there is one
  fraction : Option (List Char)
  -- whether the power of ten is negative, and its digits
  power : Option (Bool × List Char)
deriving DecidableEq

def spanDigits (cs : List Char) : List Char × List Char :=
  (cs.takeWhile Char.isDigit, cs.dropWhile Char.isDigit)

def scanPower (atEnd : Cause) (start : Number) (rest : List Char) : Except Fault (Reading Number) :=
  let (negative, rest) := match rest with
    | '+' :: rest => (false, rest)
    | '-' :: rest => (true, rest)
    | rest => (false, rest)
  match rest with
  | [] => .error (.before atEnd [])
  | c :: _ =>
      if c.isDigit then
        let (digits, rest) := spanDigits rest
        .ok ({ start with power := some (negative, digits) }, rest)
      else .error (.at .invalidNumber rest)

def scanTail (atEnd : Cause) (start : Number) : List Char → Except Fault (Reading Number)
  | c :: rest => if c = 'e' || c = 'E' then scanPower atEnd start rest else .ok (start, c :: rest)
  | [] => .ok (start, [])

def scanFraction (atEnd : Cause) (start : Number) : List Char → Except Fault (Reading Number)
  | '.' :: rest =>
      let (digits, rest) := spanDigits rest
      if digits = [] then
        .error (.at (if rest = [] then atEnd else .invalidNumber) rest)
      else scanTail atEnd { start with fraction := some digits } rest
  | rest => scanTail atEnd start rest

-- A number behind its sign. A document that ends where a digit has to follow is refused
-- for the cause given.
def scanNumber (atEnd : Cause) (negative : Bool) : List Char → Except Fault (Reading Number)
  | [] => .error (.before atEnd [])
  | '0' :: rest =>
      if (rest.head?.map Char.isDigit).getD false then .error (.at .invalidNumber rest)
      else scanFraction atEnd ⟨negative, ['0'], none, none⟩ rest
  | c :: rest =>
      if c.isDigit then
        let (digits, rest) := spanDigits (c :: rest)
        scanFraction atEnd ⟨negative, digits, none, none⟩ rest
      else .error (.at .invalidNumber (c :: rest))

-- Appends digits to a number as long as it fits 64 bits. Gives the number and the count of digits
-- that it took.
def takeDigits (start : Nat) : List Char → Nat × Nat
  | [] => (start, 0)
  | c :: rest =>
      let next := 10 * start + (c.toNat - '0'.toNat)
      if next < UInt64.size then
        let (final, count) := takeDigits next rest
        (final, count + 1)
      else (start, 0)

-- The digits of a power of ten that are left once it has outgrown 31 bits.
def powerOverflow (start : Nat) : List Char → Option (List Char)
  | [] => none
  | c :: rest =>
      let next := 10 * start + (c.toNat - '0'.toNat)
      if next < Nat.pow 2 31 then powerOverflow next rest else some rest

-- The number as a double: the leading digits that fit 64 bits, times a power of ten.
def Number.double (number : Number) (rest : List Char) : Except Fault (Reading Found) :=
  let (leading, taken) := takeDigits 0 number.whole
  let dropped : Int := number.whole.length - taken
  let (significand, places) := takeDigits leading (number.fraction.getD [])
  let start := dropped - places
  let (negativePower, digits) := number.power.getD (false, [])
  let exponent : Int := if negativePower then start - Decimal.value digits else start + Decimal.value digits
  match powerOverflow 0 digits with
  | some left =>
      if significand ≠ 0 && !negativePower then .error (.before .numberOutOfRange (left ++ rest))
      else .ok (.double number.negative .zero, rest)
  | none =>
      match Decimal.Double.ofDecimal significand exponent with
      | some size => .ok (.double number.negative size, rest)
      | none => .error (.before .numberOutOfRange rest)

-- What a scanned number stands for. A numeral without point and power is an integer if it fits 64
-- bits, with a sign 63; the others, and minus zero, are doubles.
def Number.found (number : Number) (rest : List Char) : Except Fault (Reading Found) :=
  let size := Decimal.value number.whole
  if number.fraction.isSome || number.power.isSome then number.double rest
  else if number.negative then
    if 0 < size && size ≤ Nat.pow 2 63 then .ok (.integer (-size), rest) else number.double rest
  else if size < UInt64.size then .ok (.integer size, rest)
  else number.double rest

end CompletionRing.Json
