import CompletionRing.Json.Skip
import CompletionRing.Proofs.Json.Spelling
import Mathlib.Algebra.Order.Ring.Int

namespace CompletionRing.Json

-- What comes of a reading, wherever its fault may be placed.
def outcome {α : Type} (reading : Except Fault α) : Except Cause α :=
  reading.mapError Fault.cause

section

variable {α β : Type}

@[simp] theorem outcome_ok (a : α) : outcome (.ok a) = .ok a := rfl

@[simp] theorem outcome_error (fault : Fault) : outcome (.error fault : Except Fault α) = .error fault.cause := rfl

@[simp] theorem outcome_bind (r : Except Fault α) (f : α → Except Fault β) :
    outcome (r >>= f) = outcome r >>= fun a => outcome (f a) := by
  cases r <;> rfl

theorem outcome_eq_ok_iff {r : Except Fault α} {a : α} : outcome r = .ok a ↔ r = .ok a := by
  cases r <;> simp

end

-- Nothing in front of which a numeral would go on.
def Ends (rest : List Char) : Prop :=
  ∀ c, rest.head? = some c → c.isDigit = false ∧ c ≠ '.' ∧ c ≠ 'e' ∧ c ≠ 'E'

theorem ends_cons {c : Char} (rest : List Char) (hc : c ∈ [' ', '\n', '\t', '\r', ',', ']', '\x7d']) :
    Ends (c :: rest) := by
  intro first hfirst
  cases hfirst
  simp only [List.mem_cons, List.not_mem_nil, or_false] at hc
  rcases hc with rfl | rfl | rfl | rfl | rfl | rfl | rfl
  all_goals decide

theorem Ends.blankText {rest : List Char} (h : Ends rest) (blanks : List Blank) :
    Ends (blankText blanks ++ rest) := by
  cases blanks with
  | nil => exact h
  | cons blank blanks =>
      apply ends_cons
      cases blank <;> decide

theorem isDigit_of_mem_toDigits {n : Nat} {c : Char} (hc : c ∈ Nat.toDigits 10 n) : c.isDigit = true :=
  Nat.isDigit_of_mem_toDigits (by decide) (by decide) hc

-- A numeral begins with a zero only if it is one.
theorem exists_toDigits_eq_cons (n : Nat) :
    ∃ c cs, Nat.toDigits 10 n = c :: cs ∧ (c = '0' → n = 0) := by
  induction n using Nat.strongRecOn with
  | ind n ih =>
      rcases Nat.lt_or_ge n 10 with hlt | hge
      · refine ⟨Nat.digitChar n, [], Nat.toDigits_of_lt_base hlt, ?_⟩
        have hall : ∀ n < 10, Nat.digitChar n = '0' → n = 0 := by decide
        exact hall n hlt
      · obtain ⟨c, cs, hdigits, hzero⟩ := ih (n / 10) (by omega)
        refine ⟨c, cs ++ [Nat.digitChar (n % 10)], ?_, fun hc => ?_⟩
        · rw [Nat.toDigits_of_base_le (by decide) hge, hdigits]
          rfl
        · have hsmall := hzero hc
          omega

theorem spanDigits_toDigits (n : Nat) {rest : List Char} (h : Ends rest) :
    spanDigits (Nat.toDigits 10 n ++ rest) = (Nat.toDigits 10 n, rest) := by
  have hdigits : ∀ c ∈ Nat.toDigits 10 n, c.isDigit = true := fun c => isDigit_of_mem_toDigits
  have hrest : rest.takeWhile Char.isDigit = [] ∧ rest.dropWhile Char.isDigit = rest := by
    cases rest with
    | nil => exact ⟨rfl, rfl⟩
    | cons c rest => simp [(h c rfl).1]
  rw [spanDigits, List.takeWhile_append_of_pos hdigits, List.dropWhile_append_of_pos hdigits, hrest.1, hrest.2,
    List.append_nil]

-- An integer as it is scanned.
def whole (negative : Bool) (size : Nat) : Number :=
  ⟨negative, Nat.toDigits 10 size, none, none⟩

theorem scanFraction_of_ends (atEnd : Cause) (start : Number) {rest : List Char} (h : Ends rest) :
    scanFraction atEnd start rest = .ok (start, rest) := by
  cases rest with
  | nil => rfl
  | cons c rest =>
      obtain ⟨_, hpoint, hsmall, hlarge⟩ := h c rfl
      simp [scanFraction, scanTail, hpoint, hsmall, hlarge]

theorem scanNumber_toDigits (atEnd : Cause) (negative : Bool) (size : Nat) {rest : List Char} (h : Ends rest) :
    scanNumber atEnd negative (Nat.toDigits 10 size ++ rest) = .ok (whole negative size, rest) := by
  obtain ⟨c, cs, hdigits, hzero⟩ := exists_toDigits_eq_cons size
  have hspan := spanDigits_toDigits size h
  by_cases hc : c = '0'
  · have hnone : (rest.head?.map Char.isDigit).getD false = false := by
      cases rest with
      | nil => rfl
      | cons c rest => exact (h c rfl).1
    obtain rfl := hzero hc
    rw [Nat.toDigits_zero]
    simp only [List.cons_append, List.nil_append, scanNumber, hnone]
    exact scanFraction_of_ends atEnd _ h
  · have hdigit : c.isDigit = true := isDigit_of_mem_toDigits (hdigits ▸ List.mem_cons_self)
    rw [hdigits] at hspan
    simp only [hdigits, List.cons_append] at hspan ⊢
    simp only [scanNumber, hdigit, if_true, hspan]
    rw [← hdigits]
    exact scanFraction_of_ends atEnd _ h

theorem ne_of_isDigit {c other : Char} (hc : c.isDigit = true) (hother : other.isDigit = false) : c ≠ other := by
  rintro rfl
  exact absurd hc (hother ▸ Bool.false_ne_true)

theorem isBlank_of_isDigit {c : Char} (hc : c.isDigit = true) : isBlank c = false := by
  simp [isBlank, ne_of_isDigit hc]

section

variable (blanks : List Blank) (cs : List Char)

@[simp] theorem readFound_blankText : readFound (blankText blanks ++ cs) = readFound cs := by
  simp only [readFound, skipBlanks_blankText]

@[simp] theorem skipStep_blankText (around : List Bracket) :
    skipStep around (blankText blanks ++ cs) = skipStep around cs := by
  simp only [skipStep, skipBlanks_blankText]

end

-- A digit is none of the characters with which a reader tells other values.
theorem readers_of_isDigit {c : Char} (hc : c.isDigit = true) (rest : List Char) :
    readFound (c :: rest) = (scanNumber .endInValue false (c :: rest) >>= fun reading => reading.1.found reading.2) ∧
      skipStep [] (c :: rest) =
        (scanNumber .invalidNumber false (c :: rest) >>= fun reading => leaveBrackets [] reading.2) := by
  have hskip := skipBlanks_cons_of_not rest (isBlank_of_isDigit hc)
  have hnull : c ≠ 'n' := ne_of_isDigit hc rfl
  have htrue : c ≠ 't' := ne_of_isDigit hc rfl
  have hfalse : c ≠ 'f' := ne_of_isDigit hc rfl
  have hquote : c ≠ '"' := ne_of_isDigit hc rfl
  have hbracket : c ≠ '[' := ne_of_isDigit hc rfl
  have hbrace : c ≠ '\x7b' := ne_of_isDigit hc rfl
  have hminus : c ≠ '-' := ne_of_isDigit hc rfl
  constructor
  · simp [readFound, hskip, hc]
  · simp [skipStep, hskip, hc]

-- What is found does not depend on what follows, only where a fault is placed does.
theorem outcome_double (number : Number) (rest : List Char) :
    outcome (number.double rest) = outcome (number.double []) >>= fun reading => .ok (reading.1, rest) := by
  unfold Number.double
  dsimp only
  split
  · split <;> rfl
  · split <;> rfl

theorem outcome_found (number : Number) (rest : List Char) :
    outcome (number.found rest) = outcome (number.found []) >>= fun reading => .ok (reading.1, rest) := by
  unfold Number.found
  dsimp only
  repeat' split
  all_goals first | exact outcome_double number rest | rfl

-- A double is not an integer.
theorem double_ne_integer (number : Number) (rest rest' : List Char) (n : Int) :
    number.double rest ≠ .ok (.integer n, rest') := by
  unfold Number.double
  dsimp only
  split
  · split <;> simp
  · split <;> simp

-- An integer that fits its word is found as such, and any other as a double.
theorem found_whole_eq_integer_iff (negative : Bool) (size : Nat) (n : Int) :
    (whole negative size).found [] = .ok (.integer n, []) ↔
      (negative = decide (n < 0) ∧ size = n.natAbs) ∧ -2 ^ 63 ≤ n ∧ n < 2 ^ 64 := by
  have hsize : Decimal.value (Nat.toDigits 10 size) = size := Decimal.value_toDigits size
  cases negative with
  | true =>
      have hfound : (whole true size).found [] =
          if 0 < size && size ≤ Nat.pow 2 63 then .ok (.integer (-size), []) else (whole true size).double [] := by
        rw [Number.found, whole, hsize]
        rfl
      by_cases hfits : 0 < size ∧ size ≤ 2 ^ 63
      · rw [hfound, if_pos (by simpa using hfits), Except.ok.injEq, Prod.mk.injEq, Found.integer.injEq]
        constructor
        · rintro ⟨rfl, _⟩
          exact ⟨⟨(decide_eq_true (by omega)).symm, by omega⟩, by omega, by omega⟩
        · rintro ⟨⟨hsign, rfl⟩, _⟩
          have hneg : n < 0 := of_decide_eq_true hsign.symm
          exact ⟨by omega, rfl⟩
      · rw [hfound, if_neg (by simpa using hfits)]
        refine iff_of_false (double_ne_integer _ _ _ _) ?_
        rintro ⟨⟨hsign, rfl⟩, _⟩
        have hneg : n < 0 := of_decide_eq_true hsign.symm
        omega
  | false =>
      have hfound : (whole false size).found [] =
          if size < UInt64.size then .ok (.integer size, []) else (whole false size).double [] := by
        rw [Number.found, whole, hsize]
        rfl
      have hword : UInt64.size = 2 ^ 64 := rfl
      by_cases hfits : size < UInt64.size
      · rw [hfound, if_pos hfits, Except.ok.injEq, Prod.mk.injEq, Found.integer.injEq]
        constructor
        · rintro ⟨rfl, _⟩
          exact ⟨⟨(decide_eq_false (by omega)).symm, by omega⟩, by omega, by omega⟩
        · rintro ⟨⟨hsign, rfl⟩, _⟩
          have hneg : ¬ n < 0 := of_decide_eq_false hsign.symm
          exact ⟨by omega, rfl⟩
      · rw [hfound, if_neg hfits]
        refine iff_of_false (double_ne_integer _ _ _ _) ?_
        rintro ⟨⟨hsign, rfl⟩, _⟩
        have hneg : ¬ n < 0 := of_decide_eq_false hsign.symm
        omega

theorem readFound_quote (spelled : List Spelling) (rest : List Char) :
    readFound ('"' :: (spelledText spelled ++ '"' :: rest)) = .ok (.string (spelledString spelled), rest) := by
  have hread := readText_spelledText spelled rest
  simp [readFound, skipBlanks_cons_of_not, isBlank, hread, spelledString]

theorem readFound_writeString (s : String) (rest : List Char) :
    readFound (writeString s ++ rest) = .ok (.string s, rest) := by
  have hread := readFound_quote (canonicalSpelling s) rest
  rw [spelledString_canonicalSpelling] at hread
  simp [writeString_eq, hread]

-- A value without members or elements, in any way in which it may be written.
inductive Scalar where
  | null
  | boolean (value : Bool)
  -- digits without leading zeros, perhaps behind a minus
  | numeral (negative : Bool) (size : Nat)
  | string (spelled : List Spelling)

namespace Scalar

def text : Scalar → List Char
  | .null => ['n', 'u', 'l', 'l']
  | .boolean true => ['t', 'r', 'u', 'e']
  | .boolean false => ['f', 'a', 'l', 's', 'e']
  | .numeral true size => '-' :: Nat.toDigits 10 size
  | .numeral false size => Nat.toDigits 10 size
  | .string spelled => '"' :: spelledText spelled ++ ['"']

-- The integer in its canonical numeral.
def integer (n : Int) : Scalar :=
  .numeral (n < 0) n.natAbs

theorem integer_injective {n m : Int} (h : integer n = integer m) : n = m := by
  obtain ⟨hsign, hsize⟩ := numeral.inj h
  rw [decide_eq_decide] at hsign
  omega

theorem text_integer (n : Int) : (integer n).text = writeInteger n := by
  by_cases h : n < 0 <;> simp [integer, text, writeInteger, Decimal.numeral, h]

theorem exists_text_eq_cons (s : Scalar) :
    ∃ c cs, s.text = c :: cs ∧ isBlank c = false ∧ c ≠ ']' := by
  cases s with
  | null => exact ⟨_, _, rfl, rfl, by decide⟩
  | boolean value => cases value <;> exact ⟨_, _, rfl, rfl, by decide⟩
  | string spelled => exact ⟨_, _, rfl, rfl, by decide⟩
  | numeral negative size =>
      cases negative with
      | true => exact ⟨_, _, rfl, rfl, by decide⟩
      | false =>
          obtain ⟨c, cs, hdigits, _⟩ := exists_toDigits_eq_cons size
          have hdigit : c.isDigit = true := isDigit_of_mem_toDigits (hdigits ▸ List.mem_cons_self)
          exact ⟨c, cs, hdigits, isBlank_of_isDigit hdigit, ne_of_isDigit hdigit rfl⟩

-- What a reader finds at the value.
def found : Scalar → Except Cause Found
  | .null => .ok .null
  | .boolean value => .ok (.boolean value)
  | .numeral negative size => outcome ((whole negative size).found []) >>= fun reading => .ok reading.1
  | .string spelled => .ok (.string (spelledString spelled))

theorem outcome_readFound (s : Scalar) (blanks : List Blank) {rest : List Char} (h : Ends rest) :
    outcome (readFound (blankText blanks ++ (s.text ++ rest))) = s.found >>= fun found => .ok (found, rest) := by
  cases s with
  | null => simp [text, found, readFound, skipBlanks_cons_of_not, isBlank, readLiteral]
  | boolean value =>
      cases value <;> simp [text, found, readFound, skipBlanks_cons_of_not, isBlank, readLiteral]
  | numeral negative size =>
      have hscan := scanNumber_toDigits .endInValue negative size h
      cases negative with
      | true =>
          simp [text, found, readFound, skipBlanks_cons_of_not, isBlank, hscan, outcome_found _ rest]
      | false =>
          obtain ⟨c, cs, hdigits, _⟩ := exists_toDigits_eq_cons size
          have hdigit : c.isDigit = true := isDigit_of_mem_toDigits (hdigits ▸ List.mem_cons_self)
          rw [hdigits, List.cons_append] at hscan
          simp [text, found, hdigits, (readers_of_isDigit hdigit _).1, hscan, outcome_found _ rest]
  | string spelled => simp [text, found, readFound_quote]

-- Nothing but a canonical numeral within 64 bits is found as an integer.
theorem found_eq_integer_iff (s : Scalar) (n : Int) :
    s.found = .ok (.integer n) ↔ s = integer n ∧ -2 ^ 63 ≤ n ∧ n < 2 ^ 64 := by
  cases s with
  | null => simp [found, integer]
  | boolean value => simp [found, integer]
  | string spelled => simp [found, integer]
  | numeral negative size =>
      rw [integer, numeral.injEq, ← found_whole_eq_integer_iff, ← outcome_eq_ok_iff, found]
      have hrest := outcome_found (whole negative size) []
      cases hfound : outcome ((whole negative size).found []) with
      | error cause => simp
      | ok reading =>
          rw [hfound, ok_bind, Except.ok.injEq] at hrest
          rw [hrest]
          simp

theorem skipValue_text (s : Scalar) (blanks : List Blank) {rest : List Char} (h : Ends rest) :
    skipValue (blankText blanks ++ (s.text ++ rest)) = .ok rest := by
  have hstep : skipStep [] (blankText blanks ++ (s.text ++ rest)) = .ok ([], rest) := by
    cases s with
    | null => simp [text, skipStep, skipBlanks_cons_of_not, isBlank, readLiteral, leaveBrackets]
    | boolean value =>
        cases value <;> simp [text, skipStep, skipBlanks_cons_of_not, isBlank, readLiteral, leaveBrackets]
    | numeral negative size =>
        have hscan := scanNumber_toDigits .invalidNumber negative size h
        cases negative with
        | true => simp [text, skipStep, skipBlanks_cons_of_not, isBlank, hscan, leaveBrackets]
        | false =>
            obtain ⟨c, cs, hdigits, _⟩ := exists_toDigits_eq_cons size
            have hdigit : c.isDigit = true := isDigit_of_mem_toDigits (hdigits ▸ List.mem_cons_self)
            rw [hdigits, List.cons_append] at hscan
            simp [text, hdigits, (readers_of_isDigit hdigit _).2, hscan, leaveBrackets]
    | string spelled =>
        have hskip := skipText_spelledText spelled rest
        simp [text, skipStep, skipBlanks_cons_of_not, isBlank, hskip, leaveBrackets]
  simp [skipValue, skipWithin, hstep]

end Scalar

end CompletionRing.Json
