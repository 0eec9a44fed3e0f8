import CompletionRing.Config.Document
import CompletionRing.Proofs.Config.Check
import CompletionRing.Proofs.Json.Assignment

namespace CompletionRing.Config

-- The names under which documents give the fields, in their order.
def keys : List String :=
  ["cq_entries", "batch_limit", "poll_interval_ms", "producer_batch", "total_completions"]

-- The standard configuration but for the fields that are given integers. Each integer is taken as it is, so it
-- lies within the range of its field.
structure OverriddenBy (c : Config) (numbers : Json.Assignment) : Prop where
  entries_eq : (c.entries.toNat : Int) = (numbers.lookup "cq_entries").getD standard.entries.toNat
  batchLimit_eq : (c.batchLimit.toNat : Int) = (numbers.lookup "batch_limit").getD standard.batchLimit.toNat
  pollInterval_eq : (c.pollInterval.toNat : Int) = (numbers.lookup "poll_interval_ms").getD standard.pollInterval.toNat
  producerBatch_eq : (c.producerBatch.toNat : Int) = (numbers.lookup "producer_batch").getD standard.producerBatch.toNat
  total_eq : (c.total.toNat : Int) = (numbers.lookup "total_completions").getD standard.total.toNat

-- The standard configuration with what the members of an object set: of those with the name of a field, each one
-- holds an integer and no two have the same name.
def SetBy (c : Config) (members : List (String × Json.Scalar)) : Prop :=
  ∃ numbers : Json.Assignment, (Json.named keys members).Perm (Json.integers numbers) ∧
    (numbers.map Prod.fst).Nodup ∧ c.OverriddenBy numbers

variable {c c' : Config} {numbers numbers' : Json.Assignment}

theorem OverriddenBy.unique (h : c.OverriddenBy numbers) (h' : c'.OverriddenBy numbers) : c = c' := by
  obtain ⟨_, _, _, _, _⟩ := c
  obtain ⟨_, _, _, _, _⟩ := c'
  obtain rfl := UInt32.toNat_inj.mp (Int.ofNat_inj.mp (h.entries_eq.trans h'.entries_eq.symm))
  obtain rfl := UInt64.toNat_inj.mp (Int.ofNat_inj.mp (h.batchLimit_eq.trans h'.batchLimit_eq.symm))
  obtain rfl := UInt64.toNat_inj.mp (Int.ofNat_inj.mp (h.pollInterval_eq.trans h'.pollInterval_eq.symm))
  obtain rfl := UInt32.toNat_inj.mp (Int.ofNat_inj.mp (h.producerBatch_eq.trans h'.producerBatch_eq.symm))
  obtain rfl := UInt64.toNat_inj.mp (Int.ofNat_inj.mp (h.total_eq.trans h'.total_eq.symm))
  rfl

theorem toNat_getD_ofInt32 {number : Option Int} (standard : UInt32)
    (h : ∀ n ∈ number, Json.IntegerRange.unsigned32.holds n = true) :
    (((number.map UInt32.ofInt).getD standard).toNat : Int) = number.getD standard.toNat := by
  cases number with
  | none => rfl
  | some n => exact Json.toNat_ofInt32 (h n rfl)

theorem toNat_getD_ofInt64 {number : Option Int} (standard : UInt64)
    (h : ∀ n ∈ number, Json.IntegerRange.unsigned64.holds n = true) :
    (((number.map UInt64.ofInt).getD standard).toNat : Int) = number.getD standard.toNat := by
  cases number with
  | none => rfl
  | some n => exact Json.toNat_ofInt64 (h n rfl)

theorem nodup_documentFields : (documentFields.map Json.Field.name).Nodup := by
  decide

theorem isWord_documentFields : ∀ field ∈ documentFields, field.range.IsWord := by
  decide

theorem overriddenBy_override (hnodup : (numbers.map Prod.fst).Nodup)
    (h : ∀ field n, field ∈ documentFields → (field.name, n) ∈ numbers → field.range.holds n = true) :
    (standard.override numbers).OverriddenBy numbers := by
  have hlookup (field : Json.Field) (hfield : field ∈ documentFields) :
      ∀ n ∈ numbers.lookup field.name, field.range.holds n = true :=
    fun n hn => h field n hfield ((Json.lookup_eq_some_iff_mem hnodup field.name n).mp hn)
  simp only [documentFields, List.forall_mem_cons] at hlookup
  obtain ⟨hentries, hlimit, hpoll, hbatch, htotal, _⟩ := hlookup
  exact ⟨toNat_getD_ofInt32 _ hentries, toNat_getD_ofInt64 _ hlimit, toNat_getD_ofInt64 _ hpoll,
    toNat_getD_ofInt32 _ hbatch, toNat_getD_ofInt64 _ htotal⟩

theorem OverriddenBy.of_perm (h : c.OverriddenBy numbers) (hperm : numbers.Perm numbers')
    (hnodup : (numbers.map Prod.fst).Nodup) : c.OverriddenBy numbers' := by
  obtain ⟨hentries, hlimit, hpoll, hbatch, htotal⟩ := h
  simp only [Json.lookup_eq_of_perm hperm hnodup] at hentries hlimit hpoll hbatch htotal
  exact ⟨hentries, hlimit, hpoll, hbatch, htotal⟩

theorem OverriddenBy.holds (h : c.OverriddenBy numbers) (hnodup : (numbers.map Prod.fst).Nodup) (field : Json.Field)
    (n : Int) (hfield : field ∈ documentFields) (hmem : (field.name, n) ∈ numbers) : field.range.holds n = true := by
  have hlookup := (Json.lookup_eq_some_iff_mem hnodup field.name n).mpr hmem
  obtain ⟨hentries, hlimit, hpoll, hbatch, htotal⟩ := h
  simp only [documentFields, List.mem_cons, List.not_mem_nil, or_false] at hfield
  rcases hfield with rfl | rfl | rfl | rfl | rfl
  · obtain rfl : (c.entries.toNat : Int) = n := hentries.trans (congrArg (Option.getD · _) hlookup)
    exact Json.holds_unsigned32 _
  · obtain rfl : (c.batchLimit.toNat : Int) = n := hlimit.trans (congrArg (Option.getD · _) hlookup)
    exact Json.holds_unsigned64 _
  · obtain rfl : (c.pollInterval.toNat : Int) = n := hpoll.trans (congrArg (Option.getD · _) hlookup)
    exact Json.holds_unsigned64 _
  · obtain rfl : (c.producerBatch.toNat : Int) = n := hbatch.trans (congrArg (Option.getD · _) hlookup)
    exact Json.holds_unsigned32 _
  · obtain rfl : (c.total.toNat : Int) = n := htotal.trans (congrArg (Option.getD · _) hlookup)
    exact Json.holds_unsigned64 _

theorem override_eq_of_perm (c : Config) (hperm : numbers.Perm numbers') (hnodup : (numbers.map Prod.fst).Nodup) :
    c.override numbers = c.override numbers' := by
  simp only [override, Json.lookup_eq_of_perm hperm hnodup]

theorem exists_foldlM_of_setBy {members : List (String × Json.Scalar)} (h : c.SetBy members) :
    ∃ given, members.foldlM (Json.give documentFields) [] = .ok given ∧ standard.override given = c := by
  obtain ⟨numbers, hperm, hnodup, hover⟩ := h
  have hgives : Json.Gives documentFields members numbers := ⟨hperm, hnodup, hover.holds hnodup⟩
  obtain ⟨given, hgiven, hread⟩ := hgives.exists_foldlM nodup_documentFields isWord_documentFields
  have hread' := Json.gives_of_foldlM nodup_documentFields isWord_documentFields hread
  refine ⟨given, hread, ?_⟩
  exact (overriddenBy_override hread'.nodup hread'.holds).unique (hover.of_perm hgiven.symm hnodup)

theorem setBy_of_foldlM {members : List (String × Json.Scalar)} {given : Json.Assignment}
    (h : members.foldlM (Json.give documentFields) [] = .ok given) : (standard.override given).SetBy members := by
  have hgives := Json.gives_of_foldlM nodup_documentFields isWord_documentFields h
  exact ⟨given, hgives.perm, hgives.nodup, overriddenBy_override hgives.nodup hgives.holds⟩

section

variable (before after : List Json.Blank)

theorem outcome_read_object (o : Json.Object) :
    Json.outcome (read (Json.blankText before ++ (o.text ++ Json.blankText after))) =
      (o.members.foldlM (Json.give documentFields) [] >>= fun given => .ok (standard.override given)) >>=
        fun c => .ok (c, Json.blankText after) := by
  rw [read, Json.readFound_blankText, Json.readFound_object]
  simp [Json.outcome_readFields]

theorem outcome_read_listing (l : Json.Listing) (h : l.values.length ≤ 5) :
    Json.outcome (read (Json.blankText before ++ (l.text ++ Json.blankText after))) =
      ((documentFields.zip l.values).mapM Json.giveInPlace >>= fun given => .ok (standard.override given)) >>=
        fun c => .ok (c, Json.blankText after) := by
  rw [read, Json.readFound_blankText, Json.readFound_listing]
  simp [Json.outcome_readElements documentFields l _ h]

end

-- What is read is checked, and what cannot be read is refused.
theorem ofDocument_of_ok {document : String} (h : Json.Refusal.outcome (Json.readDocument read document) = .ok c) :
    c.Judged (ofDocument document) := by
  rw [Json.Refusal.outcome_eq_ok_iff] at h
  rw [ofDocument, h]
  exact judged_checked c

theorem ofDocument_of_error {document : String} {cause : Json.Cause}
    (h : Json.Refusal.outcome (Json.readDocument read document) = .error cause) :
    ∃ refusal : Json.Refusal, refusal.cause = cause ∧ ofDocument document = .error (.document refusal) := by
  obtain ⟨refusal, hrefusal, hcause⟩ := Json.Refusal.outcome_eq_error_iff.mp h
  exact ⟨refusal, hcause, by rw [ofDocument, hrefusal]⟩

def assignment (c : Config) : Json.Assignment :=
  c.numbers.map fun entry => (entry.1, entry.2)

theorem document_eq (c : Config) :
    c.document = Json.laidOut [] (Json.Object.canonical (Json.integers c.assignment)).text [] := by
  rw [document, Json.laidOut, ← Json.writeObject_eq]
  simp [Json.integers, assignment, Json.blankText, Json.Scalar.text_integer, Function.comp_def]

theorem setBy_integers (c : Config) : c.SetBy (Json.integers c.assignment) := by
  have hnames : c.assignment.map Prod.fst = keys := rfl
  refine ⟨c.assignment, ?_, ?_, ?_⟩
  · rw [Json.named_integers (fun name hname => hnames ▸ hname)]
  · rw [hnames]
    decide
  · exact ⟨rfl, rfl, rfl, rfl, rfl⟩

theorem ofDocument_object (before after : List Json.Blank) (o : Json.Object) :
    let result := ofDocument (Json.laidOut before o.text after)
    (∀ c : Config, c.SetBy o.members → c.Judged result) ∧
      ((¬ ∃ c : Config, c.SetBy o.members) → ∃ refusal, result = .error (.document refusal)) := by
  have hread := Json.outcome_readDocument before after (outcome_read_object before after o)
  constructor
  · intro c hc
    obtain ⟨given, hgiven, rfl⟩ := exists_foldlM_of_setBy hc
    rw [hgiven] at hread
    exact ofDocument_of_ok hread
  · intro hnone
    cases hgiven : o.members.foldlM (Json.give documentFields) [] with
    | ok given => exact absurd ⟨_, setBy_of_foldlM hgiven⟩ hnone
    | error cause =>
        rw [hgiven] at hread
        obtain ⟨refusal, _, hrefusal⟩ := ofDocument_of_error hread
        exact ⟨refusal, hrefusal⟩

theorem setBy_congr {members members' : List (String × Json.Scalar)}
    (h : (Json.named keys members).Perm (Json.named keys members')) : c.SetBy members ↔ c.SetBy members' := by
  constructor
  · rintro ⟨numbers, hperm, hrest⟩
    exact ⟨numbers, h.symm.trans hperm, hrest⟩
  · rintro ⟨numbers, hperm, hrest⟩
    exact ⟨numbers, h.trans hperm, hrest⟩

-- A list does what an object would do that gives its elements to the first fields.
theorem ofDocument_listing (before after before' after' : List Json.Blank) (l : Json.Listing) (o : Json.Object)
    (hlength : l.values.length ≤ 5) (hperm : (Json.named keys o.members).Perm (keys.zip l.values)) :
    let result := ofDocument (Json.laidOut before l.text after)
    let result' := ofDocument (Json.laidOut before' o.text after')
    (∃ c : Config, c.SetBy o.members ∧ c.Judged result ∧ result = result') ∨
      ∃ refusal refusal' : Json.Refusal, result = .error (.document refusal) ∧ result' = .error (.document refusal') ∧
        (Json.named keys o.members = keys.zip l.values → refusal.cause = refusal'.cause) := by
  have hlist := Json.outcome_readDocument before after (outcome_read_listing before after l hlength)
  have hobject := Json.outcome_readDocument before' after' (outcome_read_object before' after' o)
  have hzip : (keys.zip l.values).foldlM (Json.give documentFields) [] =
      (documentFields.zip l.values).mapM Json.giveInPlace >>= fun entries => .ok (entries.reverse ++ []) :=
    Json.foldlM_give_zip nodup_documentFields documentFields (fun _ h => h) nodup_documentFields (fun _ _ => rfl)
      l.values
  have hset : ∀ c : Config, c.SetBy o.members ↔ c.SetBy (keys.zip l.values) :=
    fun c => setBy_congr (by rwa [Json.named_zip])
  cases hentries : (documentFields.zip l.values).mapM Json.giveInPlace with
  | ok entries =>
      rw [hentries, Json.ok_bind, List.append_nil] at hzip
      rw [hentries] at hlist
      have hgives := Json.gives_of_foldlM nodup_documentFields isWord_documentFields hzip
      have hover := override_eq_of_perm standard (List.reverse_perm entries) hgives.nodup
      have hc := (hset _).mpr (setBy_of_foldlM hzip)
      have hjudged := ofDocument_of_ok hlist
      rw [← hover] at hjudged
      exact .inl ⟨_, hc, hjudged, hjudged.unique ((ofDocument_object before' after' o).1 _ hc)⟩
  | error cause =>
      rw [hentries, Json.error_bind] at hzip
      rw [hentries] at hlist
      obtain ⟨refusal, hcause, hrefusal⟩ := ofDocument_of_error hlist
      cases hgiven : o.members.foldlM (Json.give documentFields) [] with
      | ok given =>
          obtain ⟨_, hok, _⟩ := exists_foldlM_of_setBy ((hset _).mp (setBy_of_foldlM hgiven))
          exact absurd (hok.symm.trans hzip) (by simp)
      | error cause' =>
          rw [hgiven] at hobject
          obtain ⟨refusal', hcause', hrefusal'⟩ := ofDocument_of_error hobject
          refine .inr ⟨refusal, refusal', hrefusal, hrefusal', fun hnamed => ?_⟩
          have hnames : Json.named keys o.members = Json.named (documentFields.map Json.Field.name) o.members := rfl
          rw [← Json.foldlM_give_named, ← hnames, hnamed, hzip] at hgiven
          cases hgiven
          rw [hcause, hcause']

-- A document means the standard configuration with the fields that it gives put in their place, and it is accepted or
-- refused as the check of that has it. The order of its members, its blanks, the spelling of its strings and members
-- of other names say nothing. A field that is given twice, or anything but an integer of its range, has the document
-- refused; there is no rounding and no wrapping. A list gives the first fields by their places, and only the place
-- that is told with a fault is another than in the object.
theorem document_overrides_standard :
    (∀ c : Config, c.Judged (ofDocument c.document)) ∧
    (∀ (before after : List Json.Blank) (o : Json.Object),
      let result := ofDocument (Json.laidOut before o.text after)
      (∀ c : Config, c.SetBy o.members → c.Judged result) ∧
      ((¬ ∃ c : Config, c.SetBy o.members) → ∃ refusal, result = .error (.document refusal))) ∧
    (∀ (before after before' after' : List Json.Blank) (l : Json.Listing) (o : Json.Object), l.values.length ≤ 5 →
      (Json.named keys o.members).Perm (keys.zip l.values) →
      let result := ofDocument (Json.laidOut before l.text after)
      let result' := ofDocument (Json.laidOut before' o.text after')
      (∃ c : Config, c.SetBy o.members ∧ c.Judged result ∧ result = result') ∨
        ∃ refusal refusal' : Json.Refusal, result = .error (.document refusal) ∧
          result' = .error (.document refusal') ∧
          (Json.named keys o.members = keys.zip l.values → refusal.cause = refusal'.cause)) ∧
    ∀ refusal, (Fault.document refusal).error = .config refusal.message := by
  refine ⟨fun c => ?_, ofDocument_object, ofDocument_listing, fun _ => rfl⟩
  rw [document_eq]
  apply (ofDocument_object [] [] _).1
  rw [Json.Object.members_canonical]
  exact setBy_integers c

-- Two fields with blanks and a foreign member between them, the one behind a key with an escape, and the same two as
-- a list. A field that is given twice is refused, though it is given the same. Three slots are read as they stand and
-- refused by the check, and so is a configuration that was written with more per publication than there are slots.
theorem document_overrides_standard_in_any_spelling :
    let escaped : Json.Spelling := .unit ⟨⟨0, false⟩, ⟨0, false⟩, ⟨6, false⟩, ⟨3, false⟩⟩ (.inl (by decide))
    let entries : Json.Entry :=
      ⟨[], escaped :: Json.canonicalSpelling "q_entries", [.tab], [], .integer 64, []⟩
    let o : Json.Object := ⟨[], [⟨[.space], Json.canonicalSpelling "batch_limit", [], [.space], .integer 8, [.newline]⟩,
      ⟨[], Json.canonicalSpelling "note", [], [], .string (Json.canonicalSpelling "\""), []⟩, entries]⟩
    let l : Json.Listing := ⟨[], [⟨[], .integer 64, []⟩, ⟨[.space], .integer 8, []⟩]⟩
    let twice : Json.Object := ⟨[], [entries, entries]⟩
    let three : Json.Object := ⟨[], [⟨[], Json.canonicalSpelling "cq_entries", [], [], .integer 3, []⟩]⟩
    let c : Config := { standard with entries := 64, batchLimit := 8 }
    let crowded : Config := { standard with producerBatch := 8192 }
    Json.laidOut [] o.text [.newline] =
        "\x7b \"batch_limit\": 8\n,\"note\":\"\\\"\",\"\\u0063q_entries\"\t:64\x7d\n" ∧
      Json.laidOut [] l.text [] = "[64, 8]" ∧
      c.SetBy o.members ∧ l.values.length ≤ 5 ∧ (Json.named keys o.members).Perm (keys.zip l.values) ∧
      ofDocument (Json.laidOut [] o.text [.newline]) = .ok c ∧ ofDocument (Json.laidOut [] l.text []) = .ok c ∧
      (¬ ∃ c : Config, c.SetBy twice.members) ∧
      (∃ refusal, ofDocument (Json.laidOut [] twice.text []) = .error (.document refusal)) ∧
      ofDocument (Json.laidOut [] three.text []) = .error (.entriesNotPowerOfTwo 3) ∧
      ofDocument crowded.document = .error (.producerBatchOutOfRange 4096 8192) := by
  intro escaped entries o l twice three c crowded
  have hnamed : Json.named keys o.members = Json.integers [("batch_limit", 8), ("cq_entries", 64)] := by
    rfl
  have hset : c.SetBy o.members :=
    ⟨[("batch_limit", 8), ("cq_entries", 64)], .of_eq hnamed, by decide, ⟨rfl, rfl, rfl, rfl, rfl⟩⟩
  have hzip : (Json.named keys o.members).Perm (keys.zip l.values) := by
    rw [hnamed]
    exact .swap _ _ []
  have htwice : ¬ ∃ c : Config, c.SetBy twice.members := by
    rintro ⟨c, numbers, hperm, hnodup, _⟩
    have hnames : (numbers.map Prod.fst).Perm ["cq_entries", "cq_entries"] := by
      have hmap := (hperm.map Prod.fst).symm
      rwa [Json.integers, List.map_map] at hmap
    exact absurd (hnames.nodup_iff.mp hnodup) (by decide)
  have hthree : ({ standard with entries := 3 } : Config).SetBy three.members :=
    ⟨[("cq_entries", 3)], .of_eq rfl, by decide, ⟨rfl, rfl, rfl, rfl, rfl⟩⟩
  have haccepted : c.check = .ok () := by decide +kernel
  obtain ⟨hwritten, hobject, hlist, _⟩ := document_overrides_standard
  have hread : ofDocument (Json.laidOut [] o.text [.newline]) = .ok c :=
    ((hobject [] [.newline] o).1 c hset).unique (.accepted haccepted)
  refine ⟨by decide +kernel, by decide +kernel, hset, by decide, hzip, hread, ?_, htwice,
    (hobject [] [] twice).2 htwice, ((hobject [] [] three).1 _ hthree).unique (.refused (by decide +kernel)),
    (hwritten crowded).unique (.refused (by decide +kernel))⟩
  obtain ⟨c', _, _, hsame⟩ | ⟨_, refusal', _, ho, _⟩ := hlist [] [] [] [.newline] l o (by decide) hzip
  · exact hsame.trans hread
  · cases hread.symm.trans ho

end CompletionRing.Config
