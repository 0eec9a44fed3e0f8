import CompletionRing.Proofs.Json.Record

namespace CompletionRing.Json

-- A number is an integer or a double, so it opens nothing.
theorem Number.found_ne_bracket {number : Number} {rest rest' : List Char} {found : Found}
    (h : number.found rest = .ok (found, rest')) : found ≠ .sequence ∧ found ≠ .map := by
  unfold Number.found Number.double at h
  dsimp only at h
  repeat' split at h
  all_goals cases h
  all_goals simp

theorem Scalar.found_ne_bracket (s : Scalar) {found : Found} (h : s.found = .ok found) :
    found ≠ .sequence ∧ found ≠ .map := by
  cases s with
  | null => cases h; simp
  | boolean value => cases h; simp
  | string spelled => cases h; simp
  | numeral negative size =>
      obtain ⟨⟨number, rest⟩, hnumber, heq⟩ := bind_eq_ok_iff.mp h
      cases heq
      exact Number.found_ne_bracket (outcome_eq_ok_iff.mp hnumber)

-- What is kept of a member.
def keep (member : String × Scalar) : Except Cause (String × Value) := do
  .ok (member.1, .scalar (← member.2.found))

theorem outcome_readValueWithin_scalar (s : Scalar) (size depth : Nat) (blanks : List Blank) {rest : List Char}
    (h : Ends rest) :
    outcome (readValueWithin (size + 1) depth (blankText blanks ++ (s.text ++ rest))) =
      s.found >>= fun found => .ok (.scalar found, rest) := by
  rw [readValueWithin, outcome_bind, s.outcome_readFound blanks h, bind_assoc]
  cases hfound : s.found with
  | error cause => rfl
  | ok found =>
      obtain ⟨hsequence, hmap⟩ := s.found_ne_bracket hfound
      simp [hsequence, hmap]

-- Only where a fault is placed depends on the blanks.
@[simp] theorem outcome_readMembersWithin_blankText (size depth : Nat) (first : Bool) (blanks : List Blank)
    (cs : List Char) :
    outcome (readMembersWithin size depth first (blankText blanks ++ cs)) =
      outcome (readMembersWithin size depth first cs) := by
  cases size with
  | zero => rfl
  | succ size => simp only [readMembersWithin, nextMember_blankText]

theorem outcome_readMembersWithin_entry (size depth : Nat) (first : Bool) (e : Entry) {rest : List Char}
    (h : Ends rest) :
    outcome (readMembersWithin (size + 2) depth first (lead first ++ (e.text ++ rest))) =
      keep e.member >>= fun member => outcome (readMembersWithin (size + 1) depth false rest) >>= fun reading =>
        .ok (member :: reading.1, reading.2) := by
  have hends : Ends (blankText e.after ++ rest) := h.blankText e.after
  have hkey := nextMember_quote first e.before e.spelled
  have hvalue := outcome_readValueWithin_scalar e.value size depth e.afterColon hends
  simp only [Entry.text, List.append_assoc, List.cons_append]
  rw [readMembersWithin, hkey]
  simp [readColon_colon, hvalue, keep, Entry.member]

theorem outcome_readMembersWithin_entries (entries : List Entry) (depth : Nat) {size : Nat} (rest : List Char)
    (h : entries.length < size) :
    outcome (readMembersWithin size depth false ((entries.map Entry.text).flatMap (',' :: ·) ++ '\x7d' :: rest)) =
      (entries.map Entry.member).mapM keep >>= fun members => .ok (members, rest) := by
  obtain ⟨size, rfl⟩ : ∃ n, size = n + 1 := ⟨size - 1, by omega⟩
  induction entries generalizing size with
  | nil => simp [readMembersWithin, nextMember_closed, pure, Except.pure]
  | cons e entries ih =>
      obtain ⟨size, rfl⟩ : ∃ n, size = n + 1 := ⟨size - 1, by simp only [List.length_cons] at h; omega⟩
      have hends := ends_flatMap_comma (entries.map Entry.text) (ends_cons (c := '\x7d') rest (by decide))
      have hfirst := outcome_readMembersWithin_entry size depth false e hends
      have hothers := ih size (Nat.lt_of_succ_lt_succ h)
      simp only [List.map_cons, List.flatMap_cons, List.mapM_cons, List.append_assoc, bind_assoc, hothers] at hfirst ⊢
      exact hfirst

theorem outcome_readMembersWithin_inner (o : Object) (depth : Nat) {size : Nat} (rest : List Char)
    (h : o.entries.length < size) :
    outcome (readMembersWithin size depth true (o.inner ++ rest)) =
      o.members.mapM keep >>= fun members => .ok (members, rest) := by
  obtain ⟨size, rfl⟩ : ∃ n, size = n + 1 := ⟨size - 1, by omega⟩
  obtain ⟨blanks, entries⟩ := o
  cases entries with
  | nil => simp [Object.inner, Object.members, readMembersWithin, nextMember_closed, pure, Except.pure]
  | cons e entries =>
      obtain ⟨size, rfl⟩ : ∃ n, size = n + 1 := ⟨size - 1, by simp only [List.length_cons] at h; omega⟩
      have hends := ends_flatMap_comma (entries.map Entry.text) (ends_cons (c := '\x7d') rest (by decide))
      have hfirst := outcome_readMembersWithin_entry size depth true e hends
      have hothers := outcome_readMembersWithin_entries entries depth rest (Nat.lt_of_succ_lt_succ h)
      rw [Object.inner_cons, outcome_readMembersWithin_blankText]
      refine hfirst.trans ?_
      simp only [hothers, Object.members, List.map_cons, List.mapM_cons, bind_assoc]
      rfl

theorem outcome_readValue_object (o : Object) {depth : Nat} (rest : List Char) (h : 1 < depth) :
    outcome (readValue depth (o.text ++ rest)) =
      o.members.mapM keep >>= fun members => .ok (.object members, rest) := by
  have hsize : o.entries.length < 2 * (o.text ++ rest).length := by
    have hlength := o.length_entries_le
    simp only [Object.text, List.length_append, List.length_cons]
    omega
  have hmembers := outcome_readMembersWithin_inner o (depth - 1) rest hsize
  rw [readValue, readValueWithin, readFound_object]
  simp only [ok_bind, Nat.not_le.mpr h, if_false, outcome_bind, hmembers, bind_assoc, outcome_ok]

-- Fields that are taken out of an object that was kept get what they would have got as it was read.
theorem takeFields_eq_foldlM (fields : List Field) (given : Assignment) {members : List (String × Scalar)}
    {kept : List (String × Value)} (h : members.mapM keep = .ok kept) :
    takeFields fields given kept = members.foldlM (give fields) given := by
  induction members generalizing given kept with
  | nil =>
      cases h
      rfl
  | cons member members ih =>
      obtain ⟨name, s⟩ := member
      rw [List.mapM_cons] at h
      obtain ⟨_, hmember, h⟩ := bind_eq_ok_iff.mp h
      obtain ⟨found, hfound, heq⟩ := bind_eq_ok_iff.mp hmember
      cases heq
      obtain ⟨others, hothers, heq⟩ := bind_eq_ok_iff.mp h
      cases heq
      rw [List.foldlM_cons, takeFields]
      dsimp only [give]
      cases fields.find? fun field => field.name = name with
      | none => exact ih given hothers
      | some field =>
          dsimp only at hfound ⊢
          by_cases hgiven : (given.lookup name).isSome = true
          · simp [hgiven]
          · simp [hgiven, hfound, Value.found, ih _ hothers]

end CompletionRing.Json
