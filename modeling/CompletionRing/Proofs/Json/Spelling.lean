import CompletionRing.Json.Quoted
import CompletionRing.Json.Write
import Mathlib.Tactic.ByContra

namespace CompletionRing.Json

@[simp] theorem ok_bind {ε α β : Type} (a : α) (f : α → Except ε β) : Except.ok a >>= f = f a := rfl

@[simp] theorem error_bind {ε α β : Type} (e : ε) (f : α → Except ε β) : Except.error e >>= f = .error e := rfl

theorem bind_eq_ok_iff {ε α β : Type} {r : Except ε α} {f : α → Except ε β} {b : β} :
    r >>= f = .ok b ↔ ∃ a, r = .ok a ∧ f a = .ok b := by
  cases r <;> simp

-- What may stand between the tokens of a document.
inductive Blank where
  | space
  | newline
  | tab
  | carriageReturn

def Blank.char : Blank → Char
  | .space => ' '
  | .newline => '\n'
  | .tab => '\t'
  | .carriageReturn => '\r'

def blankText (blanks : List Blank) : List Char :=
  blanks.map Blank.char

theorem isBlank_char (blank : Blank) : isBlank blank.char = true := by
  cases blank <;> rfl

@[simp] theorem skipBlanks_blankText (blanks : List Blank) (rest : List Char) :
    skipBlanks (blankText blanks ++ rest) = skipBlanks rest := by
  apply skipBlanks_append
  intro c hc
  obtain ⟨blank, _, rfl⟩ := List.mem_map.mp hc
  exact isBlank_char blank

-- A hexadecimal digit of either case.
structure HexDigit where
  value : Fin 16
  upper : Bool

def HexDigit.char (digit : HexDigit) : Char :=
  let lower := Nat.digitChar digit.value
  if digit.upper then lower.toUpper else lower

theorem hexDigit_char (digit : HexDigit) : Text.hexDigit digit.char = some digit.value.val := by
  obtain ⟨value, upper⟩ := digit
  revert value upper
  decide

-- The four digits of an escape by number.
structure CodeUnit where
  first : HexDigit
  second : HexDigit
  third : HexDigit
  fourth : HexDigit

namespace CodeUnit

def value (u : CodeUnit) : Nat :=
  ((u.first.value * 16 + u.second.value) * 16 + u.third.value) * 16 + u.fourth.value

def text (u : CodeUnit) : List Char :=
  [u.first.char, u.second.char, u.third.char, u.fourth.char]

theorem readHex_text (u : CodeUnit) (rest : List Char) : readHex (u.text ++ rest) = .ok (u.value, rest) := by
  have hbytes : ¬ Text.bytes (u.text ++ rest) < 4 := by
    have hpos (c : Char) : 0 < c.utf8Size := c.utf8Size_pos
    have hfirst := hpos u.first.char
    have hsecond := hpos u.second.char
    have hthird := hpos u.third.char
    have hfourth := hpos u.fourth.char
    simp only [text, List.cons_append, List.nil_append, Text.bytes]
    omega
  simp only [text, List.cons_append, List.nil_append] at hbytes ⊢
  simp only [readHex, hbytes, if_false, hexDigit_char, value]

end CodeUnit

-- Whether a character may stand in a string as it is.
def IsPlain (c : Char) : Prop :=
  0x20 ≤ c.toNat ∧ c ≠ '"' ∧ c ≠ '\\'

instance (c : Char) : Decidable (IsPlain c) :=
  inferInstanceAs (Decidable (_ ∧ _ ∧ _))

-- The letters of the short escapes, each with the character that it stands for.
def shortEscapes : List (Char × Char) :=
  [('"', '"'), ('\\', '\\'), ('/', '/'), ('b', '\x08'), ('f', '\x0c'), ('n', '\n'), ('r', '\r'), ('t', '\t')]

-- One character of a string in one of the ways in which it may be written: as it is, by a letter, by the number
-- of its code unit, or by the numbers of two that are its halves.
inductive Spelling where
  | plain (c : Char) (h : IsPlain c)
  | short (letter meant : Char) (h : (letter, meant) ∈ shortEscapes)
  | unit (code : CodeUnit) (h : code.value < 0xd800 ∨ 0xdfff < code.value)
  | pair (high low : CodeUnit) (hhigh : 0xd800 ≤ high.value ∧ high.value ≤ 0xdbff)
      (hlow : 0xdc00 ≤ low.value ∧ low.value ≤ 0xdfff)

namespace Spelling

def meaning : Spelling → Char
  | .plain c _ => c
  | .short _ meant _ => meant
  | .unit code _ => .ofNat code.value
  | .pair high low _ _ => .ofNat (0x10000 + (high.value - 0xd800) * 0x400 + (low.value - 0xdc00))

def text : Spelling → List Char
  | .plain c _ => [c]
  | .short letter _ _ => ['\\', letter]
  | .unit code _ => '\\' :: 'u' :: code.text
  | .pair high low _ _ => '\\' :: 'u' :: high.text ++ '\\' :: 'u' :: low.text

theorem escapeLetter_of_mem {letter meant : Char} (h : (letter, meant) ∈ shortEscapes) :
    letter ≠ 'u' ∧ escapeLetter letter = some meant := by
  have hall : ∀ entry ∈ shortEscapes, entry.1 ≠ 'u' ∧ escapeLetter entry.1 = some entry.2 := by decide
  exact hall _ h

theorem length_text_pos (s : Spelling) : 0 < s.text.length := by
  cases s <;> simp [text]

theorem readTextWithin_text (s : Spelling) (size : Nat) (rest : List Char) :
    readTextWithin (size + 1) (s.text ++ rest) =
      readTextWithin size rest >>= fun reading => .ok (s.meaning :: reading.1, reading.2) := by
  cases s with
  | plain c h =>
      obtain ⟨hcontrol, hquote, hbackslash⟩ := h
      have hcontrol : ¬ c.toNat < 0x20 := Nat.not_lt.mpr hcontrol
      simp [text, meaning, readTextWithin, hcontrol]
  | short letter meant h =>
      obtain ⟨hletter, hmeant⟩ := escapeLetter_of_mem h
      have hread : readEscape (letter :: rest) = .ok (meant, rest) := by simp [readEscape, hmeant]
      simp [text, meaning, readTextWithin, hread]
  | unit code h =>
      have hread : readEscape ('u' :: (code.text ++ rest)) = .ok (.ofNat code.value, rest) := by
        have hlow : ¬ (0xdc00 ≤ code.value ∧ code.value ≤ 0xdfff) := by omega
        have hhigh : ¬ (0xd800 ≤ code.value ∧ code.value ≤ 0xdbff) := by omega
        simp [readEscape, code.readHex_text, hlow, hhigh]
      simp [text, meaning, readTextWithin, hread]
  | pair high low hhigh hlow =>
      have hsecond : readSecondHalf high.value ('\\' :: 'u' :: (low.text ++ rest)) =
          .ok (.ofNat (0x10000 + (high.value - 0xd800) * 0x400 + (low.value - 0xdc00)), rest) := by
        simp [readSecondHalf, low.readHex_text, hlow]
      have hread : readEscape ('u' :: (high.text ++ '\\' :: 'u' :: (low.text ++ rest))) =
          .ok (.ofNat (0x10000 + (high.value - 0xd800) * 0x400 + (low.value - 0xdc00)), rest) := by
        have hnot : ¬ (0xdc00 ≤ high.value ∧ high.value ≤ 0xdfff) := by omega
        simp [readEscape, high.readHex_text, hhigh, hnot, hsecond]
      simp [text, meaning, readTextWithin, hread]

-- The two halves of a pair are passed over one after the other.
theorem exists_skipTextWithin_text (s : Spelling) (size : Nat) (rest : List Char) (hsize : s.text.length ≤ size) :
    ∃ left, size ≤ left + s.text.length ∧ skipTextWithin size (s.text ++ rest) = skipTextWithin left rest := by
  obtain ⟨left, rfl⟩ : ∃ n, size = n + 1 := ⟨size - 1, have := s.length_text_pos; by omega⟩
  cases s with
  | plain c h =>
      obtain ⟨hcontrol, hquote, hbackslash⟩ := h
      have hcontrol : ¬ c.toNat < 0x20 := Nat.not_lt.mpr hcontrol
      exact ⟨left, by simp [text], by simp [text, skipTextWithin, hcontrol]⟩
  | short letter meant h =>
      obtain ⟨hletter, hmeant⟩ := escapeLetter_of_mem h
      have hskip : skipEscape (letter :: rest) = .ok rest := by simp [skipEscape, hmeant]
      exact ⟨left, by simp [text], by simp [text, skipTextWithin, hskip]⟩
  | unit code h =>
      have hskip : skipEscape ('u' :: (code.text ++ rest)) = .ok rest := by
        simp [skipEscape, code.readHex_text, Except.map]
      exact ⟨left, by simp [text], by simp [text, skipTextWithin, hskip]⟩
  | pair high low hhigh hlow =>
      have hfirst : skipEscape ('u' :: (high.text ++ '\\' :: 'u' :: (low.text ++ rest))) =
          .ok ('\\' :: 'u' :: (low.text ++ rest)) := by
        simp [skipEscape, high.readHex_text, Except.map]
      have hsecond : skipEscape ('u' :: (low.text ++ rest)) = .ok rest := by
        simp [skipEscape, low.readHex_text, Except.map]
      simp only [text, List.length_cons, List.length_append] at hsize
      obtain ⟨left, rfl⟩ : ∃ n, left = n + 1 := ⟨left - 1, by omega⟩
      refine ⟨left, ?_, by simp [text, skipTextWithin, hfirst, hsecond]⟩
      simp only [text, List.length_cons, List.length_append]
      omega

-- The spelling of a character in written documents.
def canonical (c : Char) : Spelling :=
  if h : IsPlain c then .plain c h
  else
    match h : shortEscapes.find? fun entry => entry.2 = c with
    | some (letter, meant) => .short letter meant (List.mem_of_find?_eq_some h)
    | none => .unit ⟨⟨0, false⟩, ⟨0, false⟩, ⟨.ofNat 16 (c.toNat / 16), false⟩, ⟨.ofNat 16 c.toNat, false⟩⟩ (by
        simp [CodeUnit.value]; omega)

-- The characters that may not stand as they are lie below 128, so all of them are tried.
theorem canonical_spells (c : Char) : (canonical c).meaning = c ∧ (canonical c).text = escapedChar c := by
  by_cases h : IsPlain c
  · obtain ⟨hcontrol, hquote, hbackslash⟩ := h
    have hcanonical : canonical c = .plain c ⟨hcontrol, hquote, hbackslash⟩ := dif_pos _
    have hne (n : Nat) (hn : (Char.ofNat n).toNat < 0x20) : c ≠ Char.ofNat n := by
      rintro rfl
      omega
    rw [hcanonical]
    refine ⟨rfl, ?_⟩
    rw [escapedChar, if_neg hquote, if_neg hbackslash, if_neg (hne 0x0a (by decide)), if_neg (hne 0x0d (by decide)),
      if_neg (hne 0x09 (by decide)), if_neg (hne 0x08 (by decide)), if_neg (hne 0x0c (by decide)),
      if_neg (Nat.not_lt.mpr hcontrol)]
    rfl
  · have hall : ∀ n < 0x80, ¬ IsPlain (Char.ofNat n) → (canonical (Char.ofNat n)).meaning = Char.ofNat n ∧
        (canonical (Char.ofNat n)).text = escapedChar (Char.ofNat n) := by decide
    have hlt : c.toNat < 0x80 := by
      by_contra hge
      refine h ⟨by omega, ?_, ?_⟩
      · rintro rfl
        exact hge (by decide)
      · rintro rfl
        exact hge (by decide)
    have hc := hall c.toNat hlt
    rw [Char.ofNat_toNat] at hc
    exact hc h

end Spelling

def spelledText (spelled : List Spelling) : List Char :=
  spelled.flatMap Spelling.text

-- The string that is spelled.
def spelledString (spelled : List Spelling) : String :=
  .ofList (spelled.map Spelling.meaning)

def canonicalSpelling (s : String) : List Spelling :=
  s.toList.map Spelling.canonical

@[simp] theorem spelledString_canonicalSpelling (s : String) : spelledString (canonicalSpelling s) = s := by
  have hmeaning : Spelling.meaning ∘ Spelling.canonical = id := funext fun c => (Spelling.canonical_spells c).1
  rw [spelledString, canonicalSpelling, List.map_map, hmeaning, List.map_id, String.ofList_toList]

theorem writeString_eq (s : String) : writeString s = '"' :: spelledText (canonicalSpelling s) ++ ['"'] := by
  have htext : Spelling.text ∘ Spelling.canonical = escapedChar := funext fun c => (Spelling.canonical_spells c).2
  rw [writeString, spelledText, canonicalSpelling, List.flatMap_map, ← htext]
  rfl

theorem length_le_spelledText (spelled : List Spelling) : spelled.length ≤ (spelledText spelled).length := by
  induction spelled with
  | nil => exact Nat.le_refl 0
  | cons s spelled ih =>
      have hpos := s.length_text_pos
      simp only [spelledText, List.flatMap_cons, List.length_cons, List.length_append] at ih ⊢
      omega

theorem readTextWithin_spelledText (spelled : List Spelling) {size : Nat} (rest : List Char)
    (h : spelled.length < size) :
    readTextWithin size (spelledText spelled ++ '"' :: rest) = .ok (spelled.map Spelling.meaning, rest) := by
  obtain ⟨size, rfl⟩ : ∃ n, size = n + 1 := ⟨size - 1, by omega⟩
  induction spelled generalizing size with
  | nil => simp [spelledText, readTextWithin]
  | cons s spelled ih =>
      obtain ⟨size, rfl⟩ : ∃ n, size = n + 1 := ⟨size - 1, by simp only [List.length_cons] at h; omega⟩
      have hrest := ih size (Nat.lt_of_succ_lt_succ h)
      simp only [spelledText, List.flatMap_cons, List.append_assoc] at hrest ⊢
      rw [s.readTextWithin_text, hrest]
      rfl

theorem readText_spelledText (spelled : List Spelling) (rest : List Char) :
    readText (spelledText spelled ++ '"' :: rest) = .ok (spelled.map Spelling.meaning, rest) := by
  apply readTextWithin_spelledText
  have hlength := length_le_spelledText spelled
  simp only [List.length_append]
  omega

theorem skipTextWithin_spelledText (spelled : List Spelling) {size : Nat} (rest : List Char)
    (h : (spelledText spelled).length < size) :
    skipTextWithin size (spelledText spelled ++ '"' :: rest) = .ok rest := by
  induction spelled generalizing size with
  | nil =>
      obtain ⟨size, rfl⟩ : ∃ n, size = n + 1 := ⟨size - 1, by omega⟩
      simp [spelledText, skipTextWithin]
  | cons s spelled ih =>
      simp only [spelledText, List.flatMap_cons, List.length_append, List.append_assoc] at h ih ⊢
      obtain ⟨left, hleft, hskip⟩ :=
        s.exists_skipTextWithin_text size (spelled.flatMap Spelling.text ++ '"' :: rest) (by omega)
      rw [hskip]
      exact ih (by omega)

theorem skipText_spelledText (spelled : List Spelling) (rest : List Char) :
    skipText (spelledText spelled ++ '"' :: rest) = .ok rest := by
  apply skipTextWithin_spelledText
  simp only [List.length_append]
  omega

end CompletionRing.Json
