import CompletionRing.Error.Document
import CompletionRing.Proofs.Json.Assignment
import CompletionRing.Proofs.Json.Kept

namespace CompletionRing.RingError

theorem nextPart_closed (first : Bool) (rest : List Char) : nextPart first ('\x7d' :: rest) = .ok (.closed rest) := by
  simp [nextPart, nextPartWithin, Json.nextMember_closed]

theorem nextPart_key (first : Bool) (part : Part) (rest : List Char) :
    nextPart first (Json.lead first ++ (Json.writeString part.key ++ rest)) = .ok (.part part rest) := by
  have hkey : Json.nextMember first (Json.lead first ++ (Json.writeString part.key ++ rest)) =
      .ok (.key part.key rest) := by
    have hquote := Json.nextMember_quote first [] (Json.canonicalSpelling part.key) rest
    rw [Json.spelledString_canonicalSpelling] at hquote
    simpa [Json.writeString_eq, Json.blankText] using hquote
  rw [nextPart, nextPartWithin, hkey]
  cases part with
  | variant => rfl
  | details => rfl

theorem ofName_name (v : Variant) : Variant.ofName v.name = .ok v := by
  cases v <;> rfl

theorem read_name (v : Variant) (rest : List Char) :
    Variant.read (Json.writeString v.name ++ rest) = .ok (v, rest) := by
  have hfound := Json.readFound_writeString v.name rest
  have hquote : ∃ cs, Json.writeString v.name ++ rest = '"' :: cs := ⟨_, rfl⟩
  obtain ⟨cs, hcs⟩ := hquote
  rw [hcs] at hfound ⊢
  simp [Variant.read, Variant.readName, Json.skipBlanks_cons_of_not, Json.isBlank, hfound, ofName_name]

-- The members of an overflow's details.
def overflowNumbers (pending capacity : UInt32) : Json.Assignment :=
  [("pending", pending.toNat), ("capacity", capacity.toNat)]

theorem details_overflow (pending capacity : UInt32) :
    (overflow pending capacity).details =
      (Json.Object.canonical (Json.integers (overflowNumbers pending capacity))).text := by
  rw [details, ← Json.writeObject_eq]
  simp [Json.integers, overflowNumbers, Json.Scalar.text_integer]

theorem gives_overflowNumbers (pending capacity : UInt32) :
    Json.Gives overflowFields (Json.integers (overflowNumbers pending capacity))
      (overflowNumbers pending capacity) := by
  apply Json.gives_zip (by decide) [pending.toNat, capacity.toNat] (by simp [overflowFields])
  simp only [overflowFields, List.zip_cons_cons, List.zip_nil_right, List.forall_mem_cons]
  exact ⟨Json.holds_unsigned32 _, Json.holds_unsigned32 _, by simp⟩

theorem exists_overflow_given (pending capacity : UInt32) :
    ∃ given, (Json.integers (overflowNumbers pending capacity)).foldlM (Json.give overflowFields) [] = .ok given ∧
      ofOverflowFields given = .ok (overflow pending capacity) := by
  have hgives := gives_overflowNumbers pending capacity
  obtain ⟨given, hperm, hgiven⟩ := hgives.exists_foldlM (by decide) (by decide)
  have hlookup := Json.lookup_eq_of_perm hperm.symm hgives.nodup
  have hpending : given.lookup "pending" = some (pending.toNat : Int) := (hlookup "pending").symm
  have hcapacity : given.lookup "capacity" = some (capacity.toNat : Int) := (hlookup "capacity").symm
  have hofInt (x : UInt32) : UInt32.ofInt x.toNat = x :=
    UInt32.toNat_inj.mp (Int.ofNat_inj.mp (Json.toNat_ofInt32 (Json.holds_unsigned32 x)))
  refine ⟨given, hgiven, ?_⟩
  simp [ofOverflowFields, Json.missing, overflowFields, hpending, hcapacity, hofInt]

theorem readDetails_details (e : RingError) (rest : List Char) :
    readDetails e.variant (e.details ++ rest) = .ok (e, rest) := by
  cases e with
  | invalidLayout detail => simp [readDetails, variant, details, Json.readFound_writeString, ofDetail]
  | config detail => simp [readDetails, variant, details, Json.readFound_writeString, ofDetail]
  | overflow pending capacity =>
      obtain ⟨given, hgiven, hoverflow⟩ := exists_overflow_given pending capacity
      have hread := Json.outcome_readFields overflowFields
        (Json.Object.canonical (Json.integers (overflowNumbers pending capacity))) rest
      rw [Json.Object.members_canonical, hgiven, Json.ok_bind, Json.outcome_eq_ok_iff] at hread
      rw [details_overflow]
      simp [readDetails, variant, readOverflow, Json.readFound_object, hread, hoverflow]

theorem exists_kept_overflow (pending capacity : UInt32) :
    ∃ kept, (Json.integers (overflowNumbers pending capacity)).mapM Json.keep = .ok kept := by
  have hfound (x : UInt32) : (Json.Scalar.integer x.toNat).found = .ok (.integer x.toNat) := by
    have hlt := x.toNat_lt
    exact ((Json.Scalar.integer x.toNat).found_eq_integer_iff x.toNat).mpr ⟨rfl, by omega, by omega⟩
  exact ⟨_, by simp [Json.integers, overflowNumbers, Json.keep, hfound]; rfl⟩

-- Details that stand before their variant are kept, and what is kept of them gives the same error.
theorem exists_kept_details (e : RingError) (rest : List Char) :
    ∃ kept, Json.readValue keptDepth (e.details ++ rest) = .ok (kept, rest) ∧ takeDetails e.variant kept = .ok e := by
  have hstring (detail : String) :
      Json.readValue keptDepth (Json.writeString detail ++ rest) = .ok (.scalar (.string detail), rest) := by
    simp [Json.readValue, Json.readValueWithin, Json.readFound_writeString]
  cases e with
  | invalidLayout detail => exact ⟨_, hstring detail, rfl⟩
  | config detail => exact ⟨_, hstring detail, rfl⟩
  | overflow pending capacity =>
      obtain ⟨given, hgiven, hoverflow⟩ := exists_overflow_given pending capacity
      obtain ⟨kept, hkept⟩ := exists_kept_overflow pending capacity
      have hread := Json.outcome_readValue_object
        (Json.Object.canonical (Json.integers (overflowNumbers pending capacity))) rest (by decide : 1 < keptDepth)
      rw [Json.Object.members_canonical, hkept, ← details_overflow] at hread
      refine ⟨.object kept, Json.outcome_eq_ok_iff.mp hread, ?_⟩
      simp [takeDetails, variant, Json.takeFields_eq_foldlM overflowFields [] hkept, hgiven, hoverflow]

theorem finish_closed (e : RingError) (rest : List Char) : finish e ('\x7d' :: rest) = .ok (e, rest) := by
  simp [finish, nextPart_closed]

theorem readMembers_members (e : RingError) (rest : List Char) :
    readMembers (Json.writeString variantKey ++ ':' :: (Json.writeString e.variant.name ++
      ',' :: (Json.writeString detailsKey ++ ':' :: (e.details ++ '\x7d' :: rest)))) = .ok (e, rest) := by
  have hvariant (cs : List Char) : nextPart true (Json.writeString variantKey ++ cs) = .ok (.part .variant cs) :=
    nextPart_key true .variant cs
  have hdetails (cs : List Char) :
      nextPart false (',' :: (Json.writeString detailsKey ++ cs)) = .ok (.part .details cs) :=
    nextPart_key false .details cs
  simp [readMembers, hvariant, hdetails, Json.readColon_colon, read_name, readDetails_details, finish_closed]

theorem readMembers_reverse_members (e : RingError) (rest : List Char) :
    readMembers (Json.writeString detailsKey ++ ':' :: (e.details ++
      ',' :: (Json.writeString variantKey ++ ':' :: (Json.writeString e.variant.name ++ '\x7d' :: rest)))) =
        .ok (e, rest) := by
  have hdetails (cs : List Char) : nextPart true (Json.writeString detailsKey ++ cs) = .ok (.part .details cs) :=
    nextPart_key true .details cs
  have hvariant (cs : List Char) :
      nextPart false (',' :: (Json.writeString variantKey ++ cs)) = .ok (.part .variant cs) :=
    nextPart_key false .variant cs
  obtain ⟨kept, hkept, htake⟩ := exists_kept_details e
    (',' :: (Json.writeString variantKey ++ ':' :: (Json.writeString e.variant.name ++ '\x7d' :: rest)))
  simp [readMembers, hvariant, hdetails, Json.readColon_colon, read_name, hkept, htake, finish_closed]

theorem writeObject_members (e : RingError) :
    Json.writeObject e.members = '\x7b' :: (Json.writeString variantKey ++ ':' :: (Json.writeString e.variant.name ++
      ',' :: (Json.writeString detailsKey ++ ':' :: (e.details ++ ['\x7d'])))) := by
  simp [Json.writeObject, members]

theorem writeObject_reverse_members (e : RingError) :
    Json.writeObject e.members.reverse = '\x7b' :: (Json.writeString detailsKey ++ ':' :: (e.details ++
      ',' :: (Json.writeString variantKey ++ ':' :: (Json.writeString e.variant.name ++ ['\x7d'])))) := by
  simp [Json.writeObject, members]

theorem ofDocument_of_readMembers {e : RingError} {inner : List Char} (h : readMembers inner = .ok (e, [])) :
    ofDocument (.ofList ('\x7b' :: inner)) = .ok e := by
  have hfound : Json.readFound ('\x7b' :: inner) = .ok (.map, '\x7b' :: inner) := by
    simp [Json.readFound, Json.skipBlanks_cons_of_not, Json.isBlank]
  simp [ofDocument, Json.readDocument, read, hfound, h, Json.skipBlanks]

theorem ofDocument_document (e : RingError) : ofDocument e.document = .ok e := by
  rw [document, writeObject_members]
  exact ofDocument_of_readMembers (readMembers_members e [])

-- An error is read back from its document, whatever the characters of its detail may be and whichever of its two
-- members stands first. So no two errors have the same document.
theorem survives_document :
    (∀ e : RingError, ofDocument e.document = .ok e) ∧
      (∀ e : RingError, ofDocument (.ofList (Json.writeObject e.members.reverse)) = .ok e) ∧
      Function.Injective document := by
  refine ⟨ofDocument_document, fun e => ?_, fun e e' h => ?_⟩
  · rw [writeObject_reverse_members]
    exact ofDocument_of_readMembers (readMembers_reverse_members e [])
  · have hboth : Except.ok e = (Except.ok e' : Except Json.Refusal RingError) := by
      rw [← ofDocument_document e, ← ofDocument_document e', h]
    exact Except.ok.inj hboth

example : (config "\"\n").document = "\x7b\"error_type\":\"config\",\"details\":\"\\\"\\n\"\x7d" := by
  decide +kernel

end CompletionRing.RingError
