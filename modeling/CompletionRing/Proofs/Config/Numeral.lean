import CompletionRing.Config.Environment
import Mathlib.Data.List.TakeWhile
import Mathlib.Data.List.Induction

namespace CompletionRing

namespace Text

-- The characters with the White_Space property, in their order.
def whiteSpace : List Nat :=
  [0x9, 0xa, 0xb, 0xc, 0xd, 0x20, 0x85, 0xa0, 0x1680, 0x2000, 0x2001, 0x2002, 0x2003, 0x2004, 0x2005, 0x2006, 0x2007,
    0x2008, 0x2009, 0x200a, 0x2028, 0x2029, 0x202f, 0x205f, 0x3000]

theorem isBlank_iff (c : Char) : isBlank c = true ↔ c.toNat ∈ whiteSpace := by
  simp only [isBlank, whiteSpace, Bool.or_eq_true, Bool.and_eq_true, decide_eq_true_eq, List.mem_cons,
    List.not_mem_nil, or_false]
  omega

theorem isBlank_eq_false_iff (c : Char) : isBlank c = false ↔ c.toNat ∉ whiteSpace := by
  rw [← isBlank_iff, Bool.not_eq_true]

-- A part of a text that neither begins nor ends with white space, with nothing but white space around it.
structure Trimmed (raw core : List Char) : Prop where
  parts : ∃ left right, raw = left ++ core ++ right ∧ (∀ c ∈ left, c.toNat ∈ whiteSpace) ∧
    ∀ c ∈ right, c.toNat ∈ whiteSpace
  head (c : Char) (h : core.head? = some c) : c.toNat ∉ whiteSpace
  last (c : Char) (h : core.getLast? = some c) : c.toNat ∉ whiteSpace

theorem isBlank_head_dropWhile {cs : List Char} {c : Char} (h : (cs.dropWhile isBlank).head? = some c) :
    isBlank c = false := by
  have hhead := List.head?_dropWhile_not isBlank cs
  rwa [h] at hhead

theorem dropWhile_of_head {cs : List Char} (h : ∀ c, cs.head? = some c → isBlank c = false) :
    cs.dropWhile isBlank = cs := by
  cases cs with
  | nil => rfl
  | cons c cs => simp [h c rfl]

theorem trimmed_trim (raw : List Char) : Trimmed raw (trim raw) := by
  let inner := raw.dropWhile isBlank
  let behind := (inner.reverse.takeWhile isBlank).reverse
  have hinner : inner = trim raw ++ behind := by
    have hsplit := List.takeWhile_append_dropWhile (p := isBlank) (l := inner.reverse)
    rw [← inner.reverse_reverse, ← hsplit, List.reverse_append]
    rfl
  constructor
  case parts =>
    refine ⟨raw.takeWhile isBlank, behind, ?_, fun c hc => ?_, fun c hc => ?_⟩
    · rw [List.append_assoc, ← hinner]
      exact List.takeWhile_append_dropWhile.symm
    · exact (isBlank_iff c).mp (List.mem_takeWhile_imp hc)
    · exact (isBlank_iff c).mp (List.mem_takeWhile_imp (List.mem_reverse.mp hc))
  case head =>
    intro c hc
    obtain ⟨rest, hrest⟩ := List.head?_eq_some_iff.mp hc
    have hfirst : inner.head? = some c := by
      rw [hinner, hrest]
      rfl
    exact (isBlank_eq_false_iff c).mp (isBlank_head_dropWhile hfirst)
  case last =>
    intro c hc
    rw [trim, List.getLast?_reverse] at hc
    exact (isBlank_eq_false_iff c).mp (isBlank_head_dropWhile hc)

theorem Trimmed.eq_trim {raw core : List Char} (h : Trimmed raw core) : core = trim raw := by
  obtain ⟨⟨left, right, rfl, hleft, hright⟩, hhead, hlast⟩ := h
  simp only [← isBlank_iff, Bool.not_eq_true] at hleft hright hhead hlast
  have hright' : ∀ c ∈ right.reverse, isBlank c = true := fun c hc => hright c (List.mem_reverse.mp hc)
  rw [trim, List.append_assoc, List.dropWhile_append_of_pos hleft]
  cases core with
  | nil =>
      rw [List.nil_append, List.dropWhile_eq_nil_iff.mpr hright]
      rfl
  | cons c core =>
      have hfront : (c :: core ++ right).dropWhile isBlank = c :: core ++ right :=
        dropWhile_of_head fun first hfirst => hhead first hfirst
      have hback : (c :: core).reverse.dropWhile isBlank = (c :: core).reverse :=
        dropWhile_of_head fun last hend => hlast last (by rwa [List.head?_reverse] at hend)
      rw [hfront, List.reverse_append, List.dropWhile_append_of_pos hright', hback, List.reverse_reverse]

end Text

namespace Decimal

def digit (d : Fin 10) : Char :=
  .ofNat ('0'.toNat + d)

-- A run of digits, one at least, and the number that it stands for.
inductive Counts : List Char → Nat → Prop where
  | one (d : Fin 10) : Counts [digit d] d
  | more {digits : List Char} {n : Nat} (h : Counts digits n) (d : Fin 10) :
      Counts (digits ++ [digit d]) (10 * n + d)

theorem isDigit_digit (d : Fin 10) : (digit d).isDigit = true := by
  revert d
  decide

theorem toNat_digit (d : Fin 10) : (digit d).toNat - '0'.toNat = d := by
  revert d
  decide

theorem exists_eq_digit {c : Char} (h : c.isDigit = true) : ∃ d, c = digit d := by
  simp only [Char.isDigit, ge_iff_le, Bool.and_eq_true, decide_eq_true_eq, UInt32.le_iff_toNat_le] at h
  have hlow : '0'.toNat ≤ c.toNat := h.1
  have hhigh : c.toNat ≤ '0'.toNat + 9 := h.2
  refine ⟨⟨c.toNat - '0'.toNat, by omega⟩, ?_⟩
  change c = Char.ofNat ('0'.toNat + (c.toNat - '0'.toNat))
  rw [Nat.add_sub_cancel' hlow, Char.ofNat_toNat]

theorem value_append_digit (digits : List Char) (d : Fin 10) :
    value (digits ++ [digit d]) = 10 * value digits + d := by
  simp only [value, Nat.ofDigitChars_append, Nat.ofDigitChars_cons, Nat.ofDigitChars_nil, toNat_digit]

theorem counts_iff (digits : List Char) (n : Nat) :
    Counts digits n ↔ digits ≠ [] ∧ digits.all Char.isDigit = true ∧ value digits = n := by
  constructor
  · intro h
    induction h with
    | one d => exact ⟨List.cons_ne_nil _ _, by simp [isDigit_digit], (value_append_digit [] d).trans (Nat.zero_add _)⟩
    | more h d ih =>
        obtain ⟨_, hall, rfl⟩ := ih
        exact ⟨by simp, by simp [hall, isDigit_digit], value_append_digit _ d⟩
  · rintro ⟨hsome, hall, rfl⟩
    -- The last digit is the one that the count adds, so the run is taken apart from its end.
    induction digits using List.reverseRecOn with
    | nil => exact absurd rfl hsome
    | append_singleton digits c ih =>
        rw [List.all_append, Bool.and_eq_true, List.all_cons, Bool.and_eq_true] at hall
        obtain ⟨d, rfl⟩ := exists_eq_digit hall.2.1
        rw [value_append_digit]
        by_cases hfirst : digits = []
        · subst hfirst
          have hone := Counts.one d
          rwa [← Nat.zero_add d.val] at hone
        · exact (ih hfirst hall.1).more d

end Decimal

namespace Config

-- A numeral without a sign or with a single plus.
inductive Numeral : List Char → Nat → Prop where
  | plain {digits : List Char} {n : Nat} (h : Decimal.Counts digits n) : Numeral digits n
  | signed {digits : List Char} {n : Nat} (h : Decimal.Counts digits n) : Numeral ('+' :: digits) n

theorem not_counts_plus (rest : List Char) (n : Nat) : ¬ Decimal.Counts ('+' :: rest) n := by
  intro h
  have hall := ((Decimal.counts_iff _ n).mp h).2.1
  rw [List.all_cons, Bool.and_eq_true] at hall
  exact absurd hall.1 (by decide)

theorem unsigned?_eq_some_iff (bound : Nat) (cs : List Char) (n : Nat) :
    unsigned? bound cs = some n ↔ Numeral cs n ∧ n < bound := by
  have hread (digits : List Char) :
      (if digits = [] then none
        else if !digits.all Char.isDigit then none
        else if Decimal.value digits < bound then some (Decimal.value digits) else none) = some n ↔
        Decimal.Counts digits n ∧ n < bound := by
    rw [Decimal.counts_iff]
    by_cases hsome : digits = []
    · simp [hsome]
    · cases hall : digits.all Char.isDigit with
      | false => simp [hsome]
      | true =>
          simp only [hsome, Bool.not_true, Bool.false_eq_true, ↓reduceIte, Option.ite_none_right_eq_some,
            Option.some.injEq, ne_eq, not_false_eq_true, true_and]
          constructor
          · rintro ⟨hlt, rfl⟩
            exact ⟨rfl, hlt⟩
          · rintro ⟨rfl, hlt⟩
            exact ⟨hlt, rfl⟩
  by_cases hsign : ∃ rest, cs = '+' :: rest
  · obtain ⟨rest, rfl⟩ := hsign
    refine (hread rest).trans (and_congr_left' ⟨Numeral.signed, ?_⟩)
    intro h
    cases h with
    | plain h => exact absurd h (not_counts_plus rest n)
    | signed h => exact h
  · have hdigits : unsigned? bound cs =
        if cs = [] then none
        else if !cs.all Char.isDigit then none
        else if Decimal.value cs < bound then some (Decimal.value cs) else none := by
      have hplain : ∀ rest, cs = '+' :: rest → False := fun rest h => hsign ⟨rest, h⟩
      simp only [unsigned?]
    rw [hdigits]
    refine (hread cs).trans (and_congr_left' ⟨Numeral.plain, ?_⟩)
    intro h
    cases h with
    | plain h => exact h
    | signed h => exact absurd ⟨_, rfl⟩ hsign

end Config

end CompletionRing
