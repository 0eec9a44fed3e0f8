import CompletionRing.Text.Quoted
import Mathlib.Data.List.TakeWhile

namespace CompletionRing.Text

-- The characters that are written as a letter behind a backslash, each with its letter.
def escapeLetters : List (Char × Char) :=
  [('"', '"'), ('\\', '\\'), ('\n', 'n'), ('\r', 'r'), ('\t', 't'), ('\x00', '0')]

-- How a character is written between quotes: by its letter, by its number where it cannot be seen, or as it is.
inductive Writes : Char → List Char → Prop where
  | letter {c letter : Char} (h : (c, letter) ∈ escapeLetters) : Writes c ['\\', letter]
  | number {c : Char} (hletter : c ∉ escapeLetters.map Prod.fst) (hhidden : isHidden c = true) :
      Writes c (['\\', 'u', '\x7b'] ++ Nat.toDigits 16 c.toNat ++ ['\x7d'])
  | plain {c : Char} (hletter : c ∉ escapeLetters.map Prod.fst) (hshown : isHidden c = false) : Writes c [c]

-- A text with each of its characters written so.
inductive Escaped : List Char → List Char → Prop where
  | nil : Escaped [] []
  | cons {c : Char} {part cs shown : List Char} (h : Writes c part) (hrest : Escaped cs shown) :
      Escaped (c :: cs) (part ++ shown)

theorem hexDigit_digitChar {d : Nat} (h : d < 16) : hexDigit d.digitChar = some d := by
  revert d
  decide

-- A numeral to the base 16 is taken apart from its end, for it is there that it grows by one digit.
theorem toDigits_sixteen (n : Nat) :
    Nat.toDigits 16 n = (if n < 16 then [] else Nat.toDigits 16 (n / 16)) ++ [(n % 16).digitChar] := by
  rw [Nat.toDigits_eq_if (by decide)]
  split
  case isTrue hlt => rw [Nat.mod_eq_of_lt hlt, List.nil_append]
  case isFalse => rfl

theorem isSome_hexDigit_of_mem (n : Nat) : ∀ c ∈ Nat.toDigits 16 n, (hexDigit c).isSome = true := by
  induction n using Nat.strongRecOn with
  | ind n ih =>
      intro c hc
      rw [toDigits_sixteen, List.mem_append, List.mem_singleton] at hc
      rcases hc with hc | rfl
      · split at hc
        case isTrue => cases hc
        case isFalse hle => exact ih (n / 16) (by omega) c hc
      · rw [hexDigit_digitChar (Nat.mod_lt n (by decide))]
        rfl

-- The number that hexadecimal digits stand for.
def hexValue (digits : List Char) : Nat :=
  digits.foldl (fun n d => 16 * n + (hexDigit d).getD 0) 0

theorem hexValue_toDigits (n : Nat) : hexValue (Nat.toDigits 16 n) = n := by
  induction n using Nat.strongRecOn with
  | ind n ih =>
      have hhigh : hexValue (if n < 16 then [] else Nat.toDigits 16 (n / 16)) = n / 16 := by
        split
        case isTrue hlt => exact (Nat.div_eq_of_lt hlt).symm
        case isFalse hle => exact ih (n / 16) (by omega)
      rw [toDigits_sixteen, hexValue, List.foldl_append]
      change 16 * hexValue _ + (hexDigit (n % 16).digitChar).getD 0 = n
      rw [hhigh, hexDigit_digitChar (Nat.mod_lt n (by decide)), Option.getD_some]
      exact Nat.div_add_mod n 16

-- The brace ends the digits, so what is behind it cannot be taken for one.
theorem toDigits_append_inj {n m : Nat} {rest rest' : List Char}
    (h : Nat.toDigits 16 n ++ '\x7d' :: rest = Nat.toDigits 16 m ++ '\x7d' :: rest') : n = m ∧ rest = rest' := by
  have hdigits (n : Nat) (rest : List Char) :
      (Nat.toDigits 16 n ++ '\x7d' :: rest).takeWhile (fun c => (hexDigit c).isSome) = Nat.toDigits 16 n := by
    rw [List.takeWhile_append_of_pos (isSome_hexDigit_of_mem n), List.takeWhile_cons_of_neg (by decide),
      List.append_nil]
  have hsame : Nat.toDigits 16 n = Nat.toDigits 16 m := by rw [← hdigits n rest, h, hdigits m rest']
  rw [hsame] at h
  refine ⟨?_, List.tail_eq_of_cons_eq (List.append_cancel_left h)⟩
  rw [← hexValue_toDigits n, hsame, hexValue_toDigits]

theorem mem_escapeLetters_iff (c : Char) :
    c ∈ escapeLetters.map Prod.fst ↔
      c = '"' ∨ c = '\\' ∨ c = '\n' ∨ c = '\r' ∨ c = '\t' ∨ c = '\x00' := by
  simp only [escapeLetters, List.map_cons, List.map_nil, List.mem_cons, List.not_mem_nil, or_false]

theorem quotedChar_of_not_mem {c : Char} (h : c ∉ escapeLetters.map Prod.fst) :
    quotedChar c = if isHidden c then ['\\', 'u', '\x7b'] ++ Nat.toDigits 16 c.toNat ++ ['\x7d'] else [c] := by
  rw [mem_escapeLetters_iff] at h
  simp only [not_or] at h
  obtain ⟨hquote, hbackslash, hnewline, hreturn, htab, hnull⟩ := h
  have hzero : c.toNat ≠ 0 := fun hzero => hnull (Char.toNat_inj.mp hzero)
  simp only [quotedChar, hquote, hbackslash, hnewline, hreturn, htab, hzero, if_false, hexadecimal]

theorem writes_quotedChar (c : Char) : Writes c (quotedChar c) := by
  by_cases hletter : c ∈ escapeLetters.map Prod.fst
  · rcases (mem_escapeLetters_iff c).mp hletter with rfl | rfl | rfl | rfl | rfl | rfl <;>
      exact .letter (by decide)
  · rw [quotedChar_of_not_mem hletter]
    cases hhidden : isHidden c with
    | true => exact .number hletter hhidden
    | false => exact .plain hletter hhidden

theorem escaped_quoted (cs : List Char) : Escaped cs (cs.flatMap quotedChar) := by
  induction cs with
  | nil => exact .nil
  | cons c cs ih => exact .cons (writes_quotedChar c) ih

theorem fst_eq_of_escapeLetters {c c' letter : Char} (h : (c, letter) ∈ escapeLetters)
    (h' : (c', letter) ∈ escapeLetters) : c = c' := by
  have hall : ∀ entry ∈ escapeLetters, ∀ entry' ∈ escapeLetters, entry.2 = entry'.2 → entry.1 = entry'.1 := by
    decide
  exact hall _ h _ h' rfl

theorem letter_ne_u {c letter : Char} (h : (c, letter) ∈ escapeLetters) : letter ≠ 'u' := by
  have hall : ∀ entry ∈ escapeLetters, entry.2 ≠ 'u' := by decide
  exact hall _ h

-- What stands first between the quotes is one character, whatever follows it.
theorem Writes.unique {c c' : Char} {part part' rest rest' : List Char} (h : Writes c part) (h' : Writes c' part')
    (heq : part ++ rest = part' ++ rest') : c = c' ∧ rest = rest' := by
  cases h with
  | letter h =>
      cases h' with
      | letter h' =>
          simp only [List.cons_append, List.nil_append, List.cons.injEq, true_and] at heq
          obtain ⟨rfl, hrest⟩ := heq
          exact ⟨fst_eq_of_escapeLetters h h', hrest⟩
      | number =>
          simp only [List.cons_append, List.nil_append, List.cons.injEq, true_and] at heq
          exact absurd heq.1 (letter_ne_u h)
      | plain hletter =>
          simp only [List.cons_append, List.nil_append, List.cons.injEq] at heq
          exact absurd (heq.1 ▸ by decide) hletter
  | number =>
      cases h' with
      | letter h' =>
          simp only [List.cons_append, List.nil_append, List.cons.injEq, true_and] at heq
          exact absurd heq.1.symm (letter_ne_u h')
      | number =>
          simp only [List.cons_append, List.nil_append, List.append_assoc, List.cons.injEq, true_and] at heq
          obtain ⟨hnumber, hrest⟩ := toDigits_append_inj heq
          exact ⟨Char.toNat_inj.mp hnumber, hrest⟩
      | plain hletter =>
          simp only [List.cons_append, List.nil_append, List.cons.injEq] at heq
          exact absurd (heq.1 ▸ by decide) hletter
  | plain hletter =>
      cases h' with
      | letter =>
          simp only [List.cons_append, List.nil_append, List.cons.injEq] at heq
          exact absurd (heq.1 ▸ by decide) hletter
      | number =>
          simp only [List.cons_append, List.nil_append, List.cons.injEq] at heq
          exact absurd (heq.1 ▸ by decide) hletter
      | plain => exact ⟨List.head_eq_of_cons_eq heq, List.tail_eq_of_cons_eq heq⟩

theorem Writes.ne_nil {c : Char} {part : List Char} (h : Writes c part) : part ≠ [] := by
  cases h <;> exact List.cons_ne_nil _ _

-- So a text can be told from how it is written.
theorem Escaped.unique {cs cs' shown : List Char} (h : Escaped cs shown) (h' : Escaped cs' shown) : cs = cs' := by
  generalize hshown : shown = shown' at h'
  induction h generalizing cs' shown' with
  | nil =>
      cases h' with
      | nil => rfl
      | cons h' => exact absurd (List.append_eq_nil_iff.mp hshown.symm).1 h'.ne_nil
  | cons h _ ih =>
      cases h' with
      | nil => exact absurd (List.append_eq_nil_iff.mp hshown).1 h.ne_nil
      | cons h' hrest' =>
          obtain ⟨rfl, rfl⟩ := h.unique h' hshown
          rw [ih _ rfl hrest']

theorem isHidden_of_visible {c : Char} (hlow : 32 ≤ c.toNat) (hhigh : c.toNat < 127) : isHidden c = false := by
  have hranges : ∀ range ∈ hiddenRanges, range.2 < 32 ∨ 127 ≤ range.1 := by decide +kernel
  rw [← Bool.not_eq_true, isHidden, inRanges_iff]
  rintro ⟨range, hrange, hfirst, hlast⟩
  have := hranges range hrange
  omega

theorem quoted_eq (s : String) : quoted s = "\"" ++ String.ofList (s.toList.flatMap quotedChar) ++ "\"" := by
  have hquotes : quoted s = String.ofList (['"'] ++ s.toList.flatMap quotedChar ++ ['"']) := rfl
  rw [hquotes, String.ofList_append, String.ofList_append]

theorem quotedChar_of_visible {c : Char} (hlow : 32 ≤ c.toNat) (hhigh : c.toNat < 127) (hquote : c ≠ '"')
    (hbackslash : c ≠ '\\') : quotedChar c = [c] := by
  have hletter : c ∉ escapeLetters.map Prod.fst := by
    rw [mem_escapeLetters_iff]
    rintro (h | h | rfl | rfl | rfl | rfl)
    · exact hquote h
    · exact hbackslash h
    all_goals exact absurd hlow (by decide)
  rw [quotedChar_of_not_mem hletter, isHidden_of_visible hlow hhigh]
  rfl

-- Printable characters of seven bits stand as they are, but for the quote and the backslash.
theorem quoted_of_visible {s : String}
    (h : ∀ c ∈ s.toList, 32 ≤ c.toNat ∧ c.toNat < 127 ∧ c ≠ '"' ∧ c ≠ '\\') :
    quoted s = "\"" ++ s ++ "\"" := by
  have hparts : s.toList.map quotedChar = s.toList.map fun c => [c] := List.map_congr_left fun c hc => by
    obtain ⟨hlow, hhigh, hquote, hbackslash⟩ := h c hc
    exact quotedChar_of_visible hlow hhigh hquote hbackslash
  have hchars : s.toList.flatMap quotedChar = s.toList := by
    rw [List.flatMap_def, hparts, ← List.flatMap_def, List.flatMap_singleton']
  rw [quoted_eq, hchars, String.ofList_toList]

end CompletionRing.Text
