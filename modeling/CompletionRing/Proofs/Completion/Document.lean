import CompletionRing.Completion.Document
import CompletionRing.Proofs.Json.Assignment

namespace CompletionRing.Completion

-- The names under which documents give the fields, in their order.
def keys : List String :=
  ["user_data", "result", "flags"]

def assignment (c : Completion) : Json.Assignment :=
  [("user_data", c.userData.toNat), ("result", c.result.toInt), ("flags", c.flags.toNat)]

-- The record whose fields the members of an object give: those with the name of a field are its three integers, in
-- any order.
def GivenBy (c : Completion) (members : List (String × Json.Scalar)) : Prop :=
  (Json.named keys members).Perm (Json.integers c.assignment)

theorem document_eq (c : Completion) :
    c.document = Json.laidOut [] (Json.Object.canonical (Json.integers c.assignment)).text [] := by
  rw [document, Json.laidOut, ← Json.writeObject_eq]
  simp [members, Json.integers, assignment, Json.blankText, Json.Scalar.text_integer]

theorem nodup_documentFields : (documentFields.map Json.Field.name).Nodup := by
  decide

theorem isWord_documentFields : ∀ field ∈ documentFields, field.range.IsWord := by
  decide

theorem gives_assignment (c : Completion) :
    Json.Gives documentFields (Json.integers c.assignment) c.assignment := by
  apply Json.gives_zip nodup_documentFields [c.userData.toNat, c.result.toInt, c.flags.toNat] (by simp [documentFields])
  simp only [documentFields, List.zip_cons_cons, List.zip_nil_right, List.forall_mem_cons]
  exact ⟨Json.holds_unsigned64 _, Json.holds_signed32 _, Json.holds_unsigned32 _, by simp⟩

-- Integers that fields may hold are taken as they are.
theorem ofInt_eq_iff {userData result flags : Int} (c : Completion)
    (huserData : Json.IntegerRange.unsigned64.holds userData = true)
    (hresult : Json.IntegerRange.signed32.holds result = true)
    (hflags : Json.IntegerRange.unsigned32.holds flags = true) :
    (⟨.ofInt userData, .ofInt result, .ofInt flags⟩ : Completion) = c ↔
      userData = c.userData.toNat ∧ result = c.result.toInt ∧ flags = c.flags.toNat := by
  obtain ⟨u, r, f⟩ := c
  rw [mk.injEq, ← UInt64.toNat_inj, ← Int.ofNat_inj, Json.toNat_ofInt64 huserData, ← Int32.toInt_inj,
    Json.toInt_ofInt32 hresult, ← UInt32.toNat_inj, ← Int.ofNat_inj, Json.toNat_ofInt32 hflags]

section

variable {numbers : Json.Assignment} (hnodup : (numbers.map Prod.fst).Nodup)
include hnodup

theorem perm_assignment_iff (c : Completion) (hnames : ∀ name ∈ numbers.map Prod.fst, name ∈ keys) :
    numbers.Perm c.assignment ↔ numbers.lookup "user_data" = some (c.userData.toNat : Int) ∧
      numbers.lookup "result" = some c.result.toInt ∧ numbers.lookup "flags" = some (c.flags.toNat : Int) := by
  rw [Json.perm_iff_lookup_eq hnodup c.gives_assignment.nodup]
  constructor
  · intro hlookup
    exact ⟨hlookup _, hlookup _, hlookup _⟩
  · rintro ⟨huserData, hresult, hflags⟩ name
    by_cases hname : name ∈ keys
    · simp only [keys, List.mem_cons, List.not_mem_nil, or_false] at hname
      rcases hname with rfl | rfl | rfl
      · exact huserData
      · exact hresult
      · exact hflags
    · have hnone (entries : Json.Assignment) (h : ∀ name ∈ entries.map Prod.fst, name ∈ keys) :
          entries.lookup name = none := by
        rw [List.lookup_eq_none_iff]
        intro entry hentry
        rw [bne_iff_ne]
        rintro rfl
        exact hname (h _ (List.mem_map_of_mem hentry))
      rw [hnone numbers hnames, hnone c.assignment (fun name h => h)]

-- A record comes out of integers exactly if these are its fields, and all of them.
theorem ofAssignment_eq_iff (c : Completion) (hnames : ∀ name ∈ numbers.map Prod.fst, name ∈ keys)
    (hholds : ∀ field n, field ∈ documentFields → (field.name, n) ∈ numbers → field.range.holds n = true) :
    Json.missing documentFields numbers = none ∧ ofAssignment numbers = c ↔ numbers.Perm c.assignment := by
  have hrange (field : Json.Field) (hfield : field ∈ documentFields) :
      ∀ n ∈ numbers.lookup field.name, field.range.holds n = true :=
    fun n hn => hholds field n hfield ((Json.lookup_eq_some_iff_mem hnodup field.name n).mp hn)
  simp only [documentFields, List.forall_mem_cons] at hrange
  obtain ⟨huserData, hresult, hflags, _⟩ := hrange
  rw [perm_assignment_iff hnodup c hnames]
  cases hu : numbers.lookup "user_data" with
  | none => simp [Json.missing, documentFields, hu]
  | some userData =>
      cases hr : numbers.lookup "result" with
      | none => simp [Json.missing, documentFields, hu, hr]
      | some result =>
          cases hf : numbers.lookup "flags" with
          | none => simp [Json.missing, documentFields, hu, hr, hf]
          | some flags =>
              have hiff := ofInt_eq_iff c (huserData _ hu) (hresult _ hr) (hflags _ hf)
              simp [Json.missing, documentFields, ofAssignment, hu, hr, hf, hiff]

end

-- The record that an object gives, if no field is missing.
def ofGiven (given : Json.Assignment) : Except Json.Cause Completion :=
  match Json.missing documentFields given with
  | some cause => .error cause
  | none => .ok (ofAssignment given)

-- The record that a list gives, if it has an element for every field.
def ofListed (given : Json.Assignment) : Except Json.Cause Completion :=
  if given.length < documentFields.length then
    .error (.wrongLength given.length "struct Completion with 3 elements")
  else .ok (ofAssignment given)

theorem ofGiven_eq_ok_iff (given : Json.Assignment) (c : Completion) :
    ofGiven given = .ok c ↔ Json.missing documentFields given = none ∧ ofAssignment given = c := by
  unfold ofGiven
  cases Json.missing documentFields given <;> simp

-- The same for integers that already stand under all the names.
theorem ofAssignment_eq_iff_of_keys {numbers : Json.Assignment} (c : Completion) (hkeys : numbers.map Prod.fst = keys)
    (hholds : ∀ field n, field ∈ documentFields → (field.name, n) ∈ numbers → field.range.holds n = true) :
    ofAssignment numbers = c ↔ numbers = c.assignment := by
  have hlength : numbers.length = 3 := by
    rw [← List.length_map Prod.fst, hkeys]
    rfl
  obtain ⟨⟨_, userData⟩, ⟨_, result⟩, ⟨_, flags⟩, rfl⟩ := List.length_eq_three.mp hlength
  simp only [List.map_cons, List.map_nil, keys, List.cons.injEq, and_true] at hkeys
  obtain ⟨rfl, rfl, rfl⟩ := hkeys
  have huserData := hholds ⟨"user_data", .unsigned64⟩ userData (by decide) (by simp)
  have hresult := hholds ⟨"result", .signed32⟩ result (by decide) (by simp)
  have hflags := hholds ⟨"flags", .unsigned32⟩ flags (by decide) (by simp)
  refine (ofInt_eq_iff c huserData hresult hflags).trans ?_
  simp [assignment]

-- A list gives a record exactly if it holds the three integers in their order.
theorem mapM_ofListed_eq_ok_iff {values : List Json.Scalar} (h : values.length ≤ 3) (c : Completion) :
    (documentFields.zip values).mapM Json.giveInPlace >>= ofListed = .ok c ↔
      values = [.integer c.userData.toNat, .integer c.result.toInt, .integer c.flags.toNat] := by
  rw [Json.bind_eq_ok_iff]
  simp only [Json.mapM_giveInPlace_eq_ok_iff nodup_documentFields isWord_documentFields]
  constructor
  · rintro ⟨given, hfits, hrecord⟩
    have hzip : keys.zip values = Json.integers given := (Json.named_zip keys values).symm.trans hfits.named_eq
    have hall : ¬ given.length < documentFields.length := by
      intro hlt
      simp [ofListed, hlt] at hrecord
    have hvalues : keys.length ≤ values.length := by
      have hlength := congrArg List.length hzip
      simp only [List.length_zip, Json.integers, List.length_map] at hlength
      simp only [documentFields, keys, List.length_cons, List.length_nil] at hall hlength ⊢
      omega
    have hkeys : given.map Prod.fst = keys := by
      have hnames := congrArg (List.map Prod.fst) hzip
      rw [List.map_fst_zip hvalues, Json.integers, List.map_map] at hnames
      exact hnames.symm
    rw [ofListed, if_neg hall, Except.ok.injEq, ofAssignment_eq_iff_of_keys c hkeys hfits.holds] at hrecord
    have hnumbers := congrArg (List.map Prod.snd) hzip
    rwa [List.map_snd_zip h, hrecord] at hnumbers
  · rintro rfl
    refine ⟨c.assignment, ⟨rfl, fun _ _ _ => rfl, c.gives_assignment.nodup, c.gives_assignment.holds⟩, ?_⟩
    have hrecord := (ofAssignment_eq_iff_of_keys c rfl c.gives_assignment.holds).mpr rfl
    exact congrArg Except.ok hrecord

section

variable (before after : List Json.Blank)

theorem outcome_ofDocument_object (o : Json.Object) :
    Json.Refusal.outcome (ofDocument (Json.laidOut before o.text after)) =
      o.members.foldlM (Json.give documentFields) [] >>= ofGiven := by
  apply Json.outcome_readDocument
  rw [read, Json.readFound_blankText, Json.readFound_object]
  simp only [Json.ok_bind, Json.outcome_bind, Json.outcome_readFields, bind_assoc]
  refine congrArg _ (funext fun given => ?_)
  unfold ofGiven
  cases Json.missing documentFields given <;> rfl

theorem outcome_ofDocument_listing (l : Json.Listing) (h : l.values.length ≤ 3) :
    Json.Refusal.outcome (ofDocument (Json.laidOut before l.text after)) =
      (documentFields.zip l.values).mapM Json.giveInPlace >>= ofListed := by
  apply Json.outcome_readDocument
  rw [read, Json.readFound_blankText, Json.readFound_listing]
  simp only [Json.ok_bind, Json.outcome_bind, Json.outcome_readElements documentFields l _ h, bind_assoc]
  refine congrArg _ (funext fun given => ?_)
  unfold ofListed
  split <;> rfl

theorem exists_outcome_ofDocument_listing (l : Json.Listing) (h : 3 < l.values.length) :
    ∃ cause, Json.Refusal.outcome (ofDocument (Json.laidOut before l.text after)) = .error cause := by
  obtain ⟨cause, hcause⟩ := Json.exists_outcome_readElements documentFields l (Json.blankText after) h
  refine ⟨cause, Json.outcome_readDocument before after ?_⟩
  rw [read, Json.readFound_blankText, Json.readFound_listing]
  simp only [Json.ok_bind, Json.outcome_bind, hcause, Json.error_bind]

theorem ofDocument_object_eq_ok_iff (o : Json.Object) (c : Completion) :
    ofDocument (Json.laidOut before o.text after) = .ok c ↔ c.GivenBy o.members := by
  rw [← Json.Refusal.outcome_eq_ok_iff, outcome_ofDocument_object, Json.bind_eq_ok_iff]
  simp only [ofGiven_eq_ok_iff]
  constructor
  · rintro ⟨given, hgiven, hrecord⟩
    have hgives := Json.gives_of_foldlM nodup_documentFields isWord_documentFields hgiven
    have hnames : ∀ name ∈ given.map Prod.fst, name ∈ keys := hgives.names_subset
    exact hgives.perm.trans (((ofAssignment_eq_iff hgives.nodup c hnames hgives.holds).mp hrecord).map _)
  · intro hgiven
    have hgives : Json.Gives documentFields o.members c.assignment :=
      ⟨hgiven, c.gives_assignment.nodup, c.gives_assignment.holds⟩
    obtain ⟨given, hperm, hfold⟩ := hgives.exists_foldlM nodup_documentFields isWord_documentFields
    have hgives' := Json.gives_of_foldlM nodup_documentFields isWord_documentFields hfold
    have hnames : ∀ name ∈ given.map Prod.fst, name ∈ keys := hgives'.names_subset
    exact ⟨given, hfold, (ofAssignment_eq_iff hgives'.nodup c hnames hgives'.holds).mpr hperm⟩

theorem ofDocument_listing_eq_ok_iff (l : Json.Listing) (c : Completion) :
    ofDocument (Json.laidOut before l.text after) = .ok c ↔
      l.values = [.integer c.userData.toNat, .integer c.result.toInt, .integer c.flags.toNat] := by
  rw [← Json.Refusal.outcome_eq_ok_iff]
  by_cases hlong : 3 < l.values.length
  · obtain ⟨cause, hcause⟩ := exists_outcome_ofDocument_listing before after l hlong
    rw [hcause]
    constructor
    · intro h
      cases h
    · intro h
      simp [h] at hlong
  · rw [outcome_ofDocument_listing before after l (Nat.le_of_not_lt hlong)]
    exact mapM_ofListed_eq_ok_iff (Nat.le_of_not_lt hlong) c

end

theorem GivenBy.count_eq_one {c : Completion} {members : List (String × Json.Scalar)} (h : c.GivenBy members)
    {key : String} (hkey : key ∈ keys) : (members.map Prod.fst).count key = 1 := by
  have hnames : ((Json.named keys members).map Prod.fst).Perm keys := by
    have hmap := h.map Prod.fst
    rwa [Json.integers, List.map_map] at hmap
  rw [← Json.count_named hkey, hnames.count_eq]
  exact List.count_eq_one_of_mem (by decide) hkey

theorem GivenBy.holds {c : Completion} {members : List (String × Json.Scalar)} (h : c.GivenBy members)
    {field : Json.Field} (hfield : field ∈ documentFields) {n : Int}
    (hmem : (field.name, Json.Scalar.integer n) ∈ members) : field.range.holds n = true := by
  have hkey : field.name ∈ keys := List.mem_map_of_mem (f := Json.Field.name) hfield
  have hinteger := h.subset (List.mem_filter.mpr ⟨hmem, decide_eq_true hkey⟩)
  obtain ⟨⟨name, m⟩, hentry, heq⟩ := List.mem_map.mp hinteger
  obtain ⟨rfl, hm⟩ := Prod.mk.inj heq
  obtain rfl := Json.Scalar.integer_injective hm
  exact c.gives_assignment.holds field m hfield hentry

-- A document gives a record if its object has the three fields, each once, and if each one holds an integer that the
-- field can hold. The order of the members, blanks, the spelling of strings and members of other names say nothing.
-- A list gives a record if it holds just the three integers. Anything else is refused, and nothing wraps.
theorem document_gives_exactly :
    (∀ c : Completion, ofDocument c.document = .ok c) ∧
    (∀ (before after : List Json.Blank) (o : Json.Object),
      let result := ofDocument (Json.laidOut before o.text after)
      (∀ c : Completion, result = .ok c ↔ c.GivenBy o.members) ∧
      (∀ key ∈ keys, (o.members.map Prod.fst).count key ≠ 1 → ∃ refusal, result = .error refusal) ∧
      ∀ field ∈ documentFields, ∀ n, (field.name, Json.Scalar.integer n) ∈ o.members → field.range.holds n = false →
        ∃ refusal, result = .error refusal) ∧
    ∀ (before after : List Json.Blank) (l : Json.Listing) (c : Completion),
      ofDocument (Json.laidOut before l.text after) = .ok c ↔
        l.values = [.integer c.userData.toNat, .integer c.result.toInt, .integer c.flags.toNat] := by
  refine ⟨fun c => ?_, fun before after o => ⟨ofDocument_object_eq_ok_iff before after o, ?_, ?_⟩,
    ofDocument_listing_eq_ok_iff⟩
  · rw [document_eq, ofDocument_object_eq_ok_iff, Json.Object.members_canonical]
    exact c.gives_assignment.perm
  · intro key hkey hcount
    cases hresult : ofDocument (Json.laidOut before o.text after) with
    | error refusal => exact ⟨refusal, rfl⟩
    | ok c =>
        have hgiven := (ofDocument_object_eq_ok_iff before after o c).mp hresult
        exact absurd (hgiven.count_eq_one hkey) hcount
  · intro field hfield n hmem hrange
    cases hresult : ofDocument (Json.laidOut before o.text after) with
    | error refusal => exact ⟨refusal, rfl⟩
    | ok c =>
        have hgiven := (ofDocument_object_eq_ok_iff before after o c).mp hresult
        exact absurd (hgiven.holds hfield hmem) (hrange ▸ Bool.false_ne_true)

-- A record at the ends of its ranges, with the last field first and a foreign member between blanks, and the same as a
-- list. Without its flags, with its user data twice, or with a result beyond its range it is refused.
theorem document_gives_exactly_in_any_order :
    let member (key : String) (n : Int) : Json.Entry := ⟨[], Json.canonicalSpelling key, [], [], .integer n, []⟩
    let foreign : Json.Entry :=
      ⟨[.newline], [.short '/' '/' (by decide)], [.space], [.tab], .string [.short 'n' '\n' (by decide)], []⟩
    let userData := member "user_data" 18446744073709551615
    let result := member "result" (-2147483648)
    let flags := member "flags" 4294967295
    let o : Json.Object := ⟨[], [flags, foreign, userData, result]⟩
    let l : Json.Listing := ⟨[], [⟨[], userData.value, []⟩, ⟨[.space], result.value, []⟩, ⟨[.space], flags.value, []⟩]⟩
    let lacking : Json.Object := ⟨[], [userData, result]⟩
    let twice : Json.Object := ⟨[], [userData, result, flags, userData]⟩
    let beyond : Json.Object := ⟨[], [userData, member "result" 2147483648, flags]⟩
    let c : Completion := ⟨18446744073709551615, -2147483648, 4294967295⟩
    Json.laidOut [] o.text [] =
        "\x7b\"flags\":4294967295,\n\"\\/\" :\t\"\\n\",\"user_data\":18446744073709551615,\"result\":-2147483648\x7d" ∧
      Json.laidOut [] l.text [] = "[18446744073709551615, -2147483648, 4294967295]" ∧
      ofDocument (Json.laidOut [] o.text []) = .ok c ∧ ofDocument (Json.laidOut [] l.text []) = .ok c ∧
      (∃ refusal, ofDocument (Json.laidOut [] lacking.text []) = .error refusal) ∧
      (∃ refusal, ofDocument (Json.laidOut [] twice.text []) = .error refusal) ∧
      ∃ refusal, ofDocument (Json.laidOut [] beyond.text []) = .error refusal := by
  intro member foreign userData result flags o l lacking twice beyond c
  obtain ⟨_, hobject, hlist⟩ := document_gives_exactly
  have hnamed : Json.named keys o.members =
      Json.integers [("flags", 4294967295), ("user_data", 18446744073709551615), ("result", -2147483648)] := by
    rfl
  have hgiven : c.GivenBy o.members := by
    rw [GivenBy, hnamed]
    exact (List.Perm.swap _ _ _).trans (.cons _ (.swap _ _ _))
  have hbeyond : ("result", Json.Scalar.integer 2147483648) ∈ beyond.members := by
    simp [beyond, member, Json.Object.members, Json.Entry.member]
  refine ⟨by decide +kernel, by decide +kernel, ((hobject [] [] o).1 c).mpr hgiven, (hlist [] [] l c).mpr rfl,
    ?_, ?_, ?_⟩
  · exact (hobject [] [] lacking).2.1 "flags" (by decide) (by decide +kernel)
  · exact (hobject [] [] twice).2.1 "user_data" (by decide) (by decide +kernel)
  · exact (hobject [] [] beyond).2.2 ⟨"result", .signed32⟩ (by decide) 2147483648 hbeyond (by decide)

end CompletionRing.Completion
