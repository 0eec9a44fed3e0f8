import CompletionRing.Json.Record
import CompletionRing.Proofs.Json.Scalar
import Mathlib.Data.List.Nodup

namespace CompletionRing.Json

@[simp] theorem cause_before (cause : Cause) (rest : List Char) : (Fault.before cause rest).cause = cause := rfl

@[simp] theorem cause_ofObject (cause : Cause) (rest : List Char) : (Fault.ofObject cause rest).cause = cause := by
  unfold Fault.ofObject
  split <;> rfl

-- A member of an object with the blanks in and around it.
structure Entry where
  before : List Blank
  spelled : List Spelling
  beforeColon : List Blank
  afterColon : List Blank
  value : Scalar
  after : List Blank

namespace Entry

def member (e : Entry) : String × Scalar :=
  (spelledString e.spelled, e.value)

def text (e : Entry) : List Char :=
  blankText e.before ++ '"' :: (spelledText e.spelled ++ '"' :: (blankText e.beforeColon ++
    ':' :: (blankText e.afterColon ++ (e.value.text ++ blankText e.after))))

end Entry

-- An element of a list with the blanks around it.
structure Element where
  before : List Blank
  value : Scalar
  after : List Blank

def Element.text (e : Element) : List Char :=
  blankText e.before ++ (e.value.text ++ blankText e.after)

-- An object. The blanks stand behind its brace, for one that is empty may hold some too.
structure Object where
  blanks : List Blank
  entries : List Entry

def Object.members (o : Object) : List (String × Scalar) :=
  o.entries.map Entry.member

-- What stands behind the brace.
def Object.inner (o : Object) : List Char :=
  blankText o.blanks ++ ([','].intercalate (o.entries.map Entry.text) ++ ['\x7d'])

def Object.text (o : Object) : List Char :=
  '\x7b' :: o.inner

structure Listing where
  blanks : List Blank
  elements : List Element

def Listing.values (l : Listing) : List Scalar :=
  l.elements.map Element.value

def Listing.inner (l : Listing) : List Char :=
  blankText l.blanks ++ ([','].intercalate (l.elements.map Element.text) ++ [']'])

def Listing.text (l : Listing) : List Char :=
  '[' :: l.inner

-- An object without blanks, in canonical spelling.
def Object.canonical (members : List (String × Scalar)) : Object :=
  ⟨[], members.map fun member => ⟨[], canonicalSpelling member.1, [], [], member.2, []⟩⟩

@[simp] theorem Object.members_canonical (members : List (String × Scalar)) :
    (canonical members).members = members := by
  simp [canonical, Object.members, Entry.member, Function.comp_def]

theorem writeObject_eq (members : List (String × Scalar)) :
    writeObject (members.map fun member => (member.1, member.2.text)) = (Object.canonical members).text := by
  simp [writeObject, Object.text, Object.inner, Object.canonical, Entry.text, blankText, writeString_eq,
    Function.comp_def]

-- A document that holds a text between blanks.
def laidOut (before : List Blank) (text : List Char) (after : List Blank) : String :=
  .ofList (blankText before ++ (text ++ blankText after))

def Refusal.outcome {α : Type} (r : Except Refusal α) : Except Cause α :=
  r.mapError Refusal.cause

theorem outcome_readDocument {α : Type} {read : List Char → Except Fault (Reading α)} {text : List Char}
    {r : Except Cause α} (before after : List Blank)
    (h : Json.outcome (read (blankText before ++ (text ++ blankText after))) =
      r >>= fun a => .ok (a, blankText after)) :
    Refusal.outcome (readDocument read (laidOut before text after)) = r := by
  have hblanks : skipBlanks (blankText after) = [] := by
    have hskip := skipBlanks_blankText after []
    rwa [List.append_nil] at hskip
  rw [readDocument, laidOut, String.toList_ofList]
  cases hread : read (blankText before ++ (text ++ blankText after)) with
  | error fault =>
      rw [hread] at h
      cases r with
      | error cause => simpa [Refusal.outcome, Except.mapError, Fault.refusal] using h
      | ok a => cases h
  | ok reading =>
      rw [hread] at h
      cases r with
      | error cause => cases h
      | ok a =>
          cases h
          simp [hblanks, Refusal.outcome, Except.mapError]

theorem Refusal.outcome_eq_ok_iff {α : Type} {r : Except Refusal α} {a : α} :
    Refusal.outcome r = .ok a ↔ r = .ok a := by
  cases r <;> simp [Refusal.outcome, Except.mapError]

theorem Refusal.outcome_eq_error_iff {α : Type} {r : Except Refusal α} {cause : Cause} :
    Refusal.outcome r = .error cause ↔ ∃ refusal, r = .error refusal ∧ refusal.cause = cause := by
  cases r <;> simp [Refusal.outcome, Except.mapError]

theorem intercalate_comma_cons (text : List Char) (texts : List (List Char)) :
    [','].intercalate (text :: texts) = text ++ texts.flatMap (',' :: ·) := by
  induction texts generalizing text with
  | nil => simp
  | cons next texts ih => rw [List.intercalate_cons_cons, ih]; simp

section

variable (blanks : List Blank) (cs : List Char)

@[simp] theorem nextMember_blankText (first : Bool) :
    nextMember first (blankText blanks ++ cs) = nextMember first cs := by
  simp only [nextMember, skipBlanks_blankText]

@[simp] theorem nextItem_blankText (first : Bool) :
    nextItem first (blankText blanks ++ cs) = nextItem first cs := by
  simp only [nextItem, skipBlanks_blankText]

@[simp] theorem readColon_blankText : readColon (blankText blanks ++ cs) = readColon cs := by
  simp only [readColon, skipBlanks_blankText]

@[simp] theorem closeList_blankText : closeList (blankText blanks ++ cs) = closeList cs := by
  simp only [closeList, skipBlanks_blankText]

-- Only where a fault is placed depends on the blanks.
@[simp] theorem outcome_readFieldsWithin_blankText (fields : List Field) (size : Nat) (first : Bool)
    (given : Assignment) :
    outcome (readFieldsWithin fields size first given (blankText blanks ++ cs)) =
      outcome (readFieldsWithin fields size first given cs) := by
  cases size with
  | zero => rfl
  | succ size => simp only [readFieldsWithin, nextMember_blankText]

@[simp] theorem readElements_blankText (fields : List Field) (first : Bool) :
    readElements fields first (blankText blanks ++ cs) = readElements fields first cs := by
  cases fields <;> simp only [readElements, nextItem_blankText, closeList_blankText]

end

-- What stands in front of a member or an element: a comma, but for the first.
def lead (first : Bool) : List Char :=
  if first then [] else [',']

theorem readFound_object (o : Object) (rest : List Char) :
    readFound (o.text ++ rest) = .ok (.map, '\x7b' :: (o.inner ++ rest)) := by
  simp [readFound, Object.text, skipBlanks_cons_of_not, isBlank]

theorem readFound_listing (l : Listing) (rest : List Char) :
    readFound (l.text ++ rest) = .ok (.sequence, '[' :: (l.inner ++ rest)) := by
  simp [readFound, Listing.text, skipBlanks_cons_of_not, isBlank]

theorem readColon_colon (rest : List Char) : readColon (':' :: rest) = .ok rest := by
  simp [readColon, skipBlanks_cons_of_not, isBlank]

theorem nextMember_closed (first : Bool) (rest : List Char) :
    nextMember first ('\x7d' :: rest) = .ok (.closed rest) := by
  simp [nextMember, skipBlanks_cons_of_not, isBlank]

theorem nextMember_quote (first : Bool) (blanks : List Blank) (spelled : List Spelling) (rest : List Char) :
    nextMember first (lead first ++ (blankText blanks ++ '"' :: (spelledText spelled ++ '"' :: rest))) =
      .ok (.key (spelledString spelled) rest) := by
  have hread := readText_spelledText spelled rest
  cases first with
  | true => simp [lead, nextMember, nextMember.key, skipBlanks_cons_of_not, isBlank, hread, spelledString]
  | false => simp [lead, nextMember, nextMember.key, skipBlanks_cons_of_not, isBlank, hread, spelledString]

-- What one member does to the integers that fields have been given so far.
def give (fields : List Field) (given : Assignment) (member : String × Scalar) : Except Cause Assignment :=
  match fields.find? fun field => field.name = member.1 with
  | none => .ok given
  | some field =>
      if (given.lookup member.1).isSome then .error (.duplicateField member.1)
      else do
        let n ← field.range.take (← member.2.found)
        .ok ((member.1, n) :: given)

theorem outcome_readInteger (range : IntegerRange) (s : Scalar) (blanks : List Blank) {rest : List Char}
    (h : Ends rest) :
    outcome (readInteger range (blankText blanks ++ (s.text ++ rest))) =
      s.found >>= fun found => range.take found >>= fun n => .ok (n, rest) := by
  rw [readInteger, outcome_bind, s.outcome_readFound blanks h]
  cases s.found with
  | error cause => rfl
  | ok found => cases htake : range.take found <;> simp [htake]

theorem outcome_readFieldsWithin_entry (fields : List Field) (size : Nat) (first : Bool) (given : Assignment)
    (e : Entry) {rest : List Char} (h : Ends rest) :
    outcome (readFieldsWithin fields (size + 1) first given (lead first ++ (e.text ++ rest))) =
      give fields given e.member >>= fun given => outcome (readFieldsWithin fields size false given rest) := by
  have hends : Ends (blankText e.after ++ rest) := h.blankText e.after
  have hkey := nextMember_quote first e.before e.spelled
  dsimp only [give, Entry.member]
  simp only [Entry.text, List.append_assoc, List.cons_append, readFieldsWithin, hkey, ok_bind]
  cases fields.find? fun field => field.name = spelledString e.spelled with
  | none => simp [readColon_colon, e.value.skipValue_text e.afterColon hends]
  | some field =>
      by_cases hgiven : (given.lookup (spelledString e.spelled)).isSome = true
      · simp [hgiven]
      · simp [hgiven, readColon_colon, outcome_readInteger field.range e.value e.afterColon hends]

theorem ends_flatMap_comma (texts : List (List Char)) {rest : List Char} (h : Ends rest) :
    Ends (texts.flatMap (',' :: ·) ++ rest) := by
  cases texts with
  | nil => exact h
  | cons text texts => exact ends_cons _ (by decide)

theorem outcome_readFieldsWithin_entries (fields : List Field) (entries : List Entry) {size : Nat}
    (given : Assignment) (rest : List Char) (h : entries.length < size) :
    outcome (readFieldsWithin fields size false given
        ((entries.map Entry.text).flatMap (',' :: ·) ++ '\x7d' :: rest)) =
      (entries.map Entry.member).foldlM (give fields) given >>= fun given => .ok (given, rest) := by
  obtain ⟨size, rfl⟩ : ∃ n, size = n + 1 := ⟨size - 1, by omega⟩
  induction entries generalizing size given with
  | nil => simp [readFieldsWithin, nextMember_closed, pure, Except.pure]
  | cons e entries ih =>
      obtain ⟨size, rfl⟩ : ∃ n, size = n + 1 := ⟨size - 1, by simp only [List.length_cons] at h; omega⟩
      have hends := ends_flatMap_comma (entries.map Entry.text) (ends_cons (c := '\x7d') rest (by decide))
      have hfirst := outcome_readFieldsWithin_entry fields (size + 1) false given e hends
      have hothers := fun given => ih given size (Nat.lt_of_succ_lt_succ h)
      simp only [List.map_cons, List.flatMap_cons, List.foldlM_cons, List.append_assoc, bind_assoc, hothers] at hfirst ⊢
      exact hfirst

theorem length_le_flatMap_comma (texts : List (List Char)) :
    texts.length ≤ (texts.flatMap (',' :: ·)).length := by
  induction texts with
  | nil => exact Nat.le_refl 0
  | cons text texts ih =>
      simp only [List.flatMap_cons, List.length_append, List.length_cons]
      omega

theorem Object.inner_cons (blanks : List Blank) (e : Entry) (entries : List Entry) (rest : List Char) :
    Object.inner ⟨blanks, e :: entries⟩ ++ rest =
      blankText blanks ++ (e.text ++ ((entries.map Entry.text).flatMap (',' :: ·) ++ '\x7d' :: rest)) := by
  simp [Object.inner, intercalate_comma_cons]

theorem Object.length_entries_le (o : Object) : o.entries.length ≤ o.inner.length := by
  obtain ⟨blanks, entries⟩ := o
  cases entries with
  | nil => exact Nat.zero_le _
  | cons e entries =>
      have hlength := length_le_flatMap_comma (entries.map Entry.text)
      have hinner := Object.inner_cons blanks e entries []
      simp only [List.append_nil, List.length_map] at hlength hinner
      simp only [hinner, List.length_append, List.length_cons]
      omega

theorem outcome_readFieldsWithin_inner (fields : List Field) (o : Object) {size : Nat} (rest : List Char)
    (h : o.entries.length < size) :
    outcome (readFieldsWithin fields size true [] (o.inner ++ rest)) =
      o.members.foldlM (give fields) [] >>= fun given => .ok (given, rest) := by
  obtain ⟨size, rfl⟩ : ∃ n, size = n + 1 := ⟨size - 1, by omega⟩
  obtain ⟨blanks, entries⟩ := o
  cases entries with
  | nil => simp [Object.inner, Object.members, readFieldsWithin, nextMember_closed, pure, Except.pure]
  | cons e entries =>
      have hends := ends_flatMap_comma (entries.map Entry.text) (ends_cons (c := '\x7d') rest (by decide))
      have hfirst := outcome_readFieldsWithin_entry fields size true [] e hends
      have hothers := fun given =>
        outcome_readFieldsWithin_entries fields entries given rest (Nat.lt_of_succ_lt_succ h)
      rw [Object.inner_cons, outcome_readFieldsWithin_blankText]
      refine hfirst.trans ?_
      simp only [hothers, Object.members, List.map_cons, List.foldlM_cons, bind_assoc]

-- What a reader makes of an object is told by its members.
theorem outcome_readFields (fields : List Field) (o : Object) (rest : List Char) :
    outcome (readFields fields (o.inner ++ rest)) =
      o.members.foldlM (give fields) [] >>= fun given => .ok (given, rest) := by
  apply outcome_readFieldsWithin_inner
  have hlength := o.length_entries_le
  simp only [List.length_append]
  omega

theorem nextItem_closed (first : Bool) (rest : List Char) : nextItem first (']' :: rest) = .ok (.closed rest) := by
  simp [nextItem, skipBlanks_cons_of_not, isBlank]

theorem nextItem_text (first : Bool) (s : Scalar) (blanks : List Blank) (rest : List Char) :
    nextItem first (lead first ++ (blankText blanks ++ (s.text ++ rest))) = .ok (.element (s.text ++ rest)) := by
  obtain ⟨c, cs, htext, hblank, hbracket⟩ := s.exists_text_eq_cons
  have hskip := skipBlanks_cons_of_not (cs ++ rest) hblank
  cases first with
  | true => simp [lead, nextItem, htext, hskip]
  | false =>
      simp [lead, nextItem, skipBlanks_cons_of_not, isBlank, htext, hskip]
      split <;> simp_all

-- What an element gives to the field at its place.
def giveInPlace (pair : Field × Scalar) : Except Cause (String × Int) := do
  let n ← pair.1.range.take (← pair.2.found)
  .ok (pair.1.name, n)

theorem outcome_readElements_cons (field : Field) (fields : List Field) (first : Bool) (e : Element)
    {rest : List Char} (h : Ends rest) :
    outcome (readElements (field :: fields) first (lead first ++ (e.text ++ rest))) =
      giveInPlace (field, e.value) >>= fun entry =>
        outcome (readElements fields false rest) >>= fun reading => .ok (entry :: reading.1, reading.2) := by
  have hitem := nextItem_text first e.value e.before (blankText e.after ++ rest)
  have hinteger : outcome (readInteger field.range (e.value.text ++ (blankText e.after ++ rest))) = _ :=
    outcome_readInteger field.range e.value [] (h.blankText e.after)
  simp [Element.text, readElements, hitem, giveInPlace, hinteger]

theorem readElements_closed (fields : List Field) (first : Bool) (rest : List Char) :
    readElements fields first (']' :: rest) = .ok ([], rest) := by
  cases fields with
  | nil => simp [readElements, closeList, skipBlanks_cons_of_not, isBlank]
  | cons field fields => simp [readElements, nextItem_closed]

-- A list may end before the fields do, but not hold more elements than there are fields.
theorem outcome_readElements_elements (fields : List Field) (elements : List Element) (rest : List Char)
    (h : elements.length ≤ fields.length) :
    outcome (readElements fields false ((elements.map Element.text).flatMap (',' :: ·) ++ ']' :: rest)) =
      (fields.zip (elements.map Element.value)).mapM giveInPlace >>= fun given => .ok (given, rest) := by
  induction elements generalizing fields with
  | nil => simp [readElements_closed, pure, Except.pure]
  | cons e elements ih =>
      cases fields with
      | nil => simp at h
      | cons field fields =>
          have hends := ends_flatMap_comma (elements.map Element.text) (ends_cons (c := ']') rest (by decide))
          have hfirst := outcome_readElements_cons field fields false e hends
          have hothers := ih fields (Nat.le_of_succ_le_succ h)
          simp only [List.map_cons, List.flatMap_cons, List.zip_cons_cons, List.mapM_cons, List.append_assoc,
            bind_assoc, hothers] at hfirst ⊢
          exact hfirst

theorem Listing.inner_cons (blanks : List Blank) (e : Element) (elements : List Element) (rest : List Char) :
    Listing.inner ⟨blanks, e :: elements⟩ ++ rest =
      blankText blanks ++ (e.text ++ ((elements.map Element.text).flatMap (',' :: ·) ++ ']' :: rest)) := by
  simp [Listing.inner, intercalate_comma_cons]

theorem outcome_readElements (fields : List Field) (l : Listing) (rest : List Char)
    (h : l.values.length ≤ fields.length) :
    outcome (readElements fields true (l.inner ++ rest)) =
      (fields.zip l.values).mapM giveInPlace >>= fun given => .ok (given, rest) := by
  obtain ⟨blanks, elements⟩ := l
  cases elements with
  | nil => simp [Listing.inner, Listing.values, readElements_closed, pure, Except.pure]
  | cons e elements =>
      cases fields with
      | nil => simp [Listing.values] at h
      | cons field fields =>
          have hends := ends_flatMap_comma (elements.map Element.text) (ends_cons (c := ']') rest (by decide))
          have hfirst := outcome_readElements_cons field fields true e hends
          have hothers := outcome_readElements_elements fields elements rest (by simpa [Listing.values] using h)
          rw [Listing.inner_cons, readElements_blankText]
          refine hfirst.trans ?_
          simp only [hothers, Listing.values, List.map_cons, List.zip_cons_cons, List.mapM_cons, bind_assoc]
          rfl

-- Where all fields have had their elements, the list has to close.
theorem exists_closeList_text (first : Bool) (e : Element) (rest : List Char) :
    ∃ fault, closeList (lead first ++ (e.text ++ rest)) = .error fault := by
  cases first with
  | false =>
      simp only [lead, Bool.false_eq_true, if_false, List.cons_append, List.nil_append, closeList,
        skipBlanks_cons_of_not (c := ',') _ rfl]
      split <;> exact ⟨_, rfl⟩
  | true =>
      obtain ⟨c, cs, htext, hblank, hbracket⟩ := e.value.exists_text_eq_cons
      simp only [lead, if_true, List.nil_append, Element.text, List.append_assoc, closeList, skipBlanks_blankText,
        htext, List.cons_append, skipBlanks_cons_of_not _ hblank]
      split
      · exact ⟨_, rfl⟩
      · simp_all
      · split <;> exact ⟨_, rfl⟩
      · exact ⟨_, rfl⟩

theorem exists_outcome_readElements_cons (fields : List Field) (first : Bool) (e : Element) (elements : List Element)
    (rest : List Char) (h : fields.length ≤ elements.length) :
    ∃ cause, outcome (readElements fields first
      (lead first ++ (e.text ++ ((elements.map Element.text).flatMap (',' :: ·) ++ ']' :: rest)))) = .error cause := by
  induction fields generalizing first e elements with
  | nil =>
      obtain ⟨fault, hfault⟩ := exists_closeList_text first e
        ((elements.map Element.text).flatMap (',' :: ·) ++ ']' :: rest)
      exact ⟨fault.cause, by rw [readElements, hfault]; rfl⟩
  | cons field fields ih =>
      cases elements with
      | nil => simp at h
      | cons next elements =>
          have hends := ends_flatMap_comma ((next :: elements).map Element.text) (ends_cons (c := ']') rest (by decide))
          obtain ⟨cause, hcause⟩ := ih false next elements (Nat.le_of_succ_le_succ h)
          rw [outcome_readElements_cons field fields first e hends]
          cases giveInPlace (field, e.value) with
          | error cause => exact ⟨cause, rfl⟩
          | ok entry =>
              refine ⟨cause, ?_⟩
              simp only [lead, Bool.false_eq_true, if_false, List.cons_append, List.nil_append] at hcause
              simp [hcause]

theorem exists_outcome_readElements (fields : List Field) (l : Listing) (rest : List Char)
    (h : fields.length < l.values.length) :
    ∃ cause, outcome (readElements fields true (l.inner ++ rest)) = .error cause := by
  obtain ⟨blanks, elements⟩ := l
  cases elements with
  | nil => simp [Listing.values] at h
  | cons e elements =>
      rw [Listing.inner_cons, readElements_blankText]
      apply exists_outcome_readElements_cons fields true e elements rest
      simp only [Listing.values, List.map_cons, List.length_cons, List.length_map] at h
      omega

end CompletionRing.Json
