import CompletionRing.Proofs.Json.Record
import Mathlib.Data.Set.List
import Mathlib.Data.List.Perm.Basic

namespace CompletionRing.Json

-- Integers with 64 bits, signed or not.
def IntegerRange.IsWord (range : IntegerRange) : Prop :=
  -2 ^ 63 ≤ range.least ∧ range.greatest < 2 ^ 64

instance (range : IntegerRange) : Decidable range.IsWord :=
  inferInstanceAs (Decidable (_ ∧ _))

theorem IntegerRange.take_eq_ok_iff (range : IntegerRange) (found : Found) (n : Int) :
    range.take found = .ok n ↔ found = .integer n ∧ range.holds n = true := by
  cases found with
  | integer m =>
      by_cases hholds : range.holds m = true
      · simp [take, hholds]
        rintro rfl
        exact hholds
      · simp [take, hholds]
        rintro rfl
        exact Bool.not_eq_true _ ▸ hholds
  | _ => simp [take]

theorem holds_iff (range : IntegerRange) (n : Int) : range.holds n = true ↔ range.least ≤ n ∧ n ≤ range.greatest := by
  simp [IntegerRange.holds]

-- An integer that a field may hold is taken as it is.
theorem toNat_ofInt32 {n : Int} (h : IntegerRange.unsigned32.holds n = true) : ((UInt32.ofInt n).toNat : Int) = n := by
  rw [holds_iff] at h
  simp [IntegerRange.unsigned32, UInt32.size] at h
  simp [UInt32.ofInt]
  omega

theorem toNat_ofInt64 {n : Int} (h : IntegerRange.unsigned64.holds n = true) : ((UInt64.ofInt n).toNat : Int) = n := by
  rw [holds_iff] at h
  simp [IntegerRange.unsigned64, UInt64.size] at h
  simp [UInt64.ofInt]
  omega

theorem toInt_ofInt32 {n : Int} (h : IntegerRange.signed32.holds n = true) : (Int32.ofInt n).toInt = n := by
  rw [holds_iff] at h
  have hleast : Int32.minValue.toInt = -2 ^ 31 := rfl
  have hgreatest : Int32.maxValue.toInt = 2 ^ 31 - 1 := rfl
  simp only [IntegerRange.signed32] at h
  exact Int32.toInt_ofInt_of_le (by omega) (by omega)

theorem holds_unsigned32 (x : UInt32) : IntegerRange.unsigned32.holds x.toNat = true := by
  have hlt := x.toNat_lt
  rw [holds_iff]
  simp [IntegerRange.unsigned32, UInt32.size]
  omega

theorem holds_unsigned64 (x : UInt64) : IntegerRange.unsigned64.holds x.toNat = true := by
  have hlt := x.toNat_lt
  rw [holds_iff]
  simp [IntegerRange.unsigned64, UInt64.size]
  omega

theorem holds_signed32 (x : Int32) : IntegerRange.signed32.holds x.toInt = true := by
  rw [holds_iff]
  exact ⟨x.minValue_le_toInt, x.toInt_le⟩

-- There is no other way for a field to come to an integer than its canonical numeral.
theorem take_found_iff {range : IntegerRange} (hrange : range.IsWord) (s : Scalar) (n : Int) :
    (s.found >>= range.take) = .ok n ↔ s = .integer n ∧ range.holds n = true := by
  simp only [bind_eq_ok_iff, range.take_eq_ok_iff]
  constructor
  · rintro ⟨found, hfound, rfl, hholds⟩
    exact ⟨((s.found_eq_integer_iff n).mp hfound).1, hholds⟩
  · rintro ⟨rfl, hholds⟩
    refine ⟨.integer n, ((Scalar.integer n).found_eq_integer_iff n).mpr ⟨rfl, ?_⟩, rfl, hholds⟩
    simp only [IntegerRange.holds, Bool.and_eq_true, decide_eq_true_eq] at hholds
    exact ⟨Int.le_trans hrange.1 hholds.1, Int.lt_of_le_of_lt hholds.2 hrange.2⟩

theorem giveInPlace_eq_ok_iff {field : Field} (hword : field.range.IsWord) (s : Scalar) (entry : String × Int) :
    giveInPlace (field, s) = .ok entry ↔
      ∃ n, s = .integer n ∧ field.range.holds n = true ∧ entry = (field.name, n) := by
  rw [giveInPlace, ← bind_assoc, bind_eq_ok_iff]
  simp only [take_found_iff hword, Except.ok.injEq, and_assoc, eq_comm]

-- The members of an object whose names are among those given.
def named (names : List String) (members : List (String × Scalar)) : List (String × Scalar) :=
  members.filter fun member => member.1 ∈ names

-- Integers as members, in canonical numerals.
def integers (numbers : Assignment) : List (String × Scalar) :=
  numbers.map fun entry => (entry.1, .integer entry.2)

theorem named_integers {names : List String} {numbers : Assignment} (h : ∀ name ∈ numbers.map Prod.fst, name ∈ names) :
    named names (integers numbers) = integers numbers := by
  apply List.filter_eq_self.mpr
  intro member hmember
  obtain ⟨entry, hentry, rfl⟩ := List.mem_map.mp hmember
  exact decide_eq_true (h entry.1 (List.mem_map_of_mem hentry))

theorem named_zip (names : List String) (values : List Scalar) :
    named names (names.zip values) = names.zip values := by
  apply List.filter_eq_self.mpr
  intro member hmember
  exact decide_eq_true (List.of_mem_zip hmember).1

theorem count_named {names : List String} {name : String} (h : name ∈ names) (members : List (String × Scalar)) :
    ((named names members).map Prod.fst).count name = (members.map Prod.fst).count name := by
  simp only [List.count_eq_countP, List.countP_map, named, List.countP_filter]
  refine congrArg (List.countP · members) (funext fun member => ?_)
  by_cases hname : member.1 = name
  · simp [hname, h]
  · simp [hname]

theorem lookup_eq_some_iff_mem {numbers : Assignment} (h : (numbers.map Prod.fst).Nodup) (name : String) (n : Int) :
    numbers.lookup name = some n ↔ (name, n) ∈ numbers := by
  induction numbers with
  | nil => simp
  | cons entry numbers ih =>
      obtain ⟨first, m⟩ := entry
      simp only [List.map_cons, List.nodup_cons] at h
      by_cases hname : name = first
      · subst hname
        have hnone : (name, n) ∉ numbers := fun hmem => h.1 (List.mem_map_of_mem hmem)
        simp [hnone, eq_comm]
      · have hbeq : (name == first) = false := beq_eq_false_iff_ne.mpr hname
        simp only [List.lookup_cons, hbeq, ih h.2, List.mem_cons, Prod.mk.injEq, hname, false_and, false_or]

theorem lookup_eq_of_perm {numbers numbers' : Assignment} (hperm : numbers.Perm numbers')
    (h : (numbers.map Prod.fst).Nodup) (name : String) : numbers.lookup name = numbers'.lookup name := by
  have h' : (numbers'.map Prod.fst).Nodup := (hperm.map Prod.fst).nodup_iff.mp h
  ext n
  rw [lookup_eq_some_iff_mem h, lookup_eq_some_iff_mem h', hperm.mem_iff]

theorem perm_iff_lookup_eq {numbers numbers' : Assignment} (h : (numbers.map Prod.fst).Nodup)
    (h' : (numbers'.map Prod.fst).Nodup) :
    numbers.Perm numbers' ↔ ∀ name, numbers.lookup name = numbers'.lookup name := by
  constructor
  · intro hperm name
    exact lookup_eq_of_perm hperm h name
  · intro hlookup
    rw [List.perm_ext_iff_of_nodup h.of_map h'.of_map]
    rintro ⟨name, n⟩
    rw [← lookup_eq_some_iff_mem h, ← lookup_eq_some_iff_mem h', hlookup]

theorem find?_name_eq_some_iff {fields : List Field} (h : (fields.map Field.name).Nodup) (name : String)
    (field : Field) :
    fields.find? (fun f => f.name = name) = some field ↔ field ∈ fields ∧ field.name = name := by
  constructor
  · intro hfind
    exact ⟨List.mem_of_find?_eq_some hfind, by simpa using List.find?_some hfind⟩
  · rintro ⟨hmem, rfl⟩
    obtain ⟨other, hfind⟩ : ∃ other, fields.find? (fun f => f.name = field.name) = some other := by
      rw [← Option.isSome_iff_exists, List.find?_isSome]
      exact ⟨field, hmem, by simp⟩
    have hname : other.name = field.name := by simpa using List.find?_some hfind
    rw [hfind, List.inj_on_of_nodup_map h (List.mem_of_find?_eq_some hfind) hmem hname]

-- Members of which those that are fields hold integers within the ranges of these, each one once and none of
-- those that were given before.
structure Fits (fields : List Field) (given : Assignment) (members : List (String × Scalar)) (numbers : Assignment) :
    Prop where
  named_eq : named (fields.map Field.name) members = integers numbers
  fresh (name : String) (n : Int) (h : (name, n) ∈ numbers) : given.lookup name = none
  nodup : (numbers.map Prod.fst).Nodup
  holds (field : Field) (n : Int) (hfield : field ∈ fields) (h : (field.name, n) ∈ numbers) :
    field.range.holds n = true

variable {fields : List Field} {given : Assignment} {members : List (String × Scalar)} {numbers : Assignment}
  {name : String}

theorem lookup_cons_eq_none_iff (n : Int) (other : String) :
    List.lookup other ((name, n) :: given) = none ↔ other ≠ name ∧ given.lookup other = none := by
  by_cases h : other = name
  · simp [h]
  · have hbeq : (other == name) = false := beq_eq_false_iff_ne.mpr h
    simp [List.lookup_cons, hbeq, h]

theorem fits_nil_iff : Fits fields given [] numbers ↔ numbers = [] := by
  constructor
  · intro h
    exact List.map_eq_nil_iff.mp h.named_eq.symm
  · rintro rfl
    exact ⟨rfl, by simp, by simp, by simp⟩

theorem fits_cons_of_not_mem (s : Scalar) (hname : name ∉ fields.map Field.name) :
    Fits fields given ((name, s) :: members) numbers ↔ Fits fields given members numbers := by
  have hnamed : named (fields.map Field.name) ((name, s) :: members) = named (fields.map Field.name) members :=
    List.filter_cons_of_neg (by simpa using hname)
  constructor
  · rintro ⟨heq, hfresh, hnodup, hholds⟩
    exact ⟨hnamed.symm.trans heq, hfresh, hnodup, hholds⟩
  · rintro ⟨heq, hfresh, hnodup, hholds⟩
    exact ⟨hnamed.trans heq, hfresh, hnodup, hholds⟩

section

variable (hnodup : (fields.map Field.name).Nodup) (hwords : ∀ field ∈ fields, field.range.IsWord)
include hnodup

theorem fits_cons_of_mem {field : Field} (hfield : field ∈ fields) (s : Scalar) :
    Fits fields given ((field.name, s) :: members) numbers ↔
      given.lookup field.name = none ∧ ∃ n numbers', s = .integer n ∧ field.range.holds n = true ∧
        numbers = (field.name, n) :: numbers' ∧ Fits fields ((field.name, n) :: given) members numbers' := by
  have hnamed : named (fields.map Field.name) ((field.name, s) :: members) =
      (field.name, s) :: named (fields.map Field.name) members :=
    List.filter_cons_of_pos (by simpa using ⟨field, hfield, rfl⟩)
  constructor
  · rintro ⟨heq, hfresh, hdistinct, hholds⟩
    rw [hnamed] at heq
    obtain ⟨⟨name, n⟩, numbers, rfl, hhead, htail⟩ := List.map_eq_cons_iff.mp heq.symm
    obtain ⟨rfl, rfl⟩ := Prod.mk.inj hhead
    simp only [List.map_cons, List.nodup_cons] at hdistinct
    refine ⟨hfresh _ n List.mem_cons_self, n, numbers, rfl, hholds field n hfield List.mem_cons_self, rfl, ?_⟩
    refine ⟨htail.symm, fun other m hmem => ?_, hdistinct.2, fun f m hf hmem => hholds f m hf (.tail _ hmem)⟩
    rw [lookup_cons_eq_none_iff]
    refine ⟨?_, hfresh other m (.tail _ hmem)⟩
    rintro rfl
    exact hdistinct.1 (List.mem_map_of_mem hmem)
  · rintro ⟨hnone, n, numbers, rfl, hn, rfl, heq, hfresh, hdistinct, hholds⟩
    have hother : ∀ other m, (other, m) ∈ numbers → other ≠ field.name ∧ given.lookup other = none :=
      fun other m hmem => (lookup_cons_eq_none_iff n other).mp (hfresh other m hmem)
    constructor
    case named_eq =>
      rw [hnamed, heq]
      rfl
    case fresh =>
      intro other m hmem
      rcases List.mem_cons.mp hmem with hhead | htail
      · cases hhead
        exact hnone
      · exact (hother other m htail).2
    case nodup =>
      refine List.nodup_cons.mpr ⟨fun hmem => ?_, hdistinct⟩
      obtain ⟨⟨other, m⟩, hentry, hname⟩ := List.mem_map.mp hmem
      exact (hother other m hentry).1 hname
    case holds =>
      intro f m hf hmem
      rcases List.mem_cons.mp hmem with hhead | htail
      · obtain ⟨hname, rfl⟩ := Prod.mk.inj hhead
        rwa [List.inj_on_of_nodup_map hnodup hf hfield hname]
      · exact hholds f m hf htail

-- A field that has not been given is given what an element at its place would give.
theorem give_of_fresh {field : Field} (hfield : field ∈ fields) (hfresh : given.lookup field.name = none) (s : Scalar) :
    give fields given (field.name, s) = giveInPlace (field, s) >>= fun entry => .ok (entry :: given) := by
  have hfind := (find?_name_eq_some_iff hnodup field.name field).mpr ⟨hfield, rfl⟩
  simp [give, hfind, hfresh, giveInPlace]

theorem foldlM_give_zip (todo : List Field) (hsubset : ∀ field ∈ todo, field ∈ fields)
    (htodo : (todo.map Field.name).Nodup) (hfresh : ∀ field ∈ todo, given.lookup field.name = none)
    (values : List Scalar) :
    ((todo.map Field.name).zip values).foldlM (give fields) given =
      (todo.zip values).mapM giveInPlace >>= fun entries => .ok (entries.reverse ++ given) := by
  induction todo generalizing values given with
  | nil => rfl
  | cons field todo ih =>
      cases values with
      | nil => rfl
      | cons s values =>
          simp only [List.map_cons, List.nodup_cons] at htodo
          simp only [List.map_cons, List.zip_cons_cons, List.foldlM_cons, List.mapM_cons,
            give_of_fresh hnodup (hsubset field List.mem_cons_self) (hfresh field List.mem_cons_self) s, bind_assoc]
          cases hentry : giveInPlace (field, s) with
          | error cause => rfl
          | ok entry =>
              obtain ⟨n, _, hn⟩ := bind_eq_ok_iff.mp hentry
              obtain ⟨m, _, hm⟩ := bind_eq_ok_iff.mp hn
              cases hm
              have hfresh' : ∀ f ∈ todo, List.lookup f.name ((field.name, m) :: given) = none := fun f hf =>
                (lookup_cons_eq_none_iff m f.name).mpr
                  ⟨fun heq => htodo.1 (heq ▸ List.mem_map_of_mem hf), hfresh f (.tail _ hf)⟩
              have hothers := ih (fun f hf => hsubset f (.tail _ hf)) htodo.2 hfresh' values
              simp [hothers, pure, Except.pure]

include hwords

theorem give_eq_ok_iff {field : Field} (hfield : field ∈ fields) (s : Scalar) (given' : Assignment) :
    give fields given (field.name, s) = .ok given' ↔
      given.lookup field.name = none ∧
        ∃ n, s = .integer n ∧ field.range.holds n = true ∧ given' = (field.name, n) :: given := by
  have hfind := (find?_name_eq_some_iff hnodup field.name field).mpr ⟨hfield, rfl⟩
  cases hgiven : given.lookup field.name with
  | some n => simp [give, hfind, hgiven]
  | none =>
      rw [give_of_fresh hnodup hfield hgiven, bind_eq_ok_iff]
      simp only [giveInPlace_eq_ok_iff (hwords field hfield), Except.ok.injEq, true_and]
      constructor
      · rintro ⟨_, ⟨n, rfl, hn, rfl⟩, rfl⟩
        exact ⟨n, rfl, hn, rfl⟩
      · rintro ⟨n, rfl, hn, rfl⟩
        exact ⟨_, ⟨n, rfl, hn, rfl⟩, rfl⟩

-- What the members of an object give together.
theorem foldlM_give_eq_ok_iff (members : List (String × Scalar)) (given final : Assignment) :
    members.foldlM (give fields) given = .ok final ↔
      ∃ numbers, Fits fields given members numbers ∧ final = numbers.reverse ++ given := by
  induction members generalizing given with
  | nil => simp [fits_nil_iff, pure, Except.pure, eq_comm]
  | cons member members ih =>
      obtain ⟨name, s⟩ := member
      rw [List.foldlM_cons, bind_eq_ok_iff]
      simp only [ih]
      by_cases hname : name ∈ fields.map Field.name
      · obtain ⟨field, hfield, rfl⟩ := List.mem_map.mp hname
        simp only [fits_cons_of_mem hnodup hfield, give_eq_ok_iff hnodup hwords hfield]
        constructor
        · rintro ⟨_, ⟨hnone, n, rfl, hn, rfl⟩, numbers, hfits, rfl⟩
          exact ⟨(field.name, n) :: numbers, ⟨hnone, n, numbers, rfl, hn, rfl, hfits⟩, by simp⟩
        · rintro ⟨_, ⟨hnone, n, numbers, rfl, hn, rfl, hfits⟩, rfl⟩
          exact ⟨_, ⟨hnone, n, rfl, hn, rfl⟩, numbers, hfits, by simp⟩
      · have hfind : fields.find? (fun f => f.name = name) = none := by
          simpa using hname
        simp [give, hfind, fits_cons_of_not_mem s hname]

-- A list gives what an object would give that has its elements under the names of the first fields.
theorem mapM_giveInPlace_eq_ok_iff (values : List Scalar) (entries : Assignment) :
    (fields.zip values).mapM giveInPlace = .ok entries ↔
      Fits fields [] ((fields.map Field.name).zip values) entries := by
  have hzip : ((fields.map Field.name).zip values).foldlM (give fields) [] = _ :=
    foldlM_give_zip hnodup fields (fun _ h => h) hnodup (fun _ _ => rfl) values
  have hfold := foldlM_give_eq_ok_iff hnodup hwords ((fields.map Field.name).zip values) [] (entries.reverse ++ [])
  rw [hzip] at hfold
  constructor
  · intro h
    rw [h, ok_bind] at hfold
    obtain ⟨numbers, hfits, heq⟩ := hfold.mp rfl
    rwa [List.reverse_inj.mp (List.append_cancel_right heq)]
  · intro h
    obtain ⟨entries', hentries, heq⟩ := bind_eq_ok_iff.mp (hfold.mpr ⟨entries, h, rfl⟩)
    rwa [← List.reverse_inj.mp (List.append_cancel_right (Except.ok.inj heq))]

end

-- Members that are no fields do nothing.
theorem foldlM_give_named (fields : List Field) (given : Assignment) (members : List (String × Scalar)) :
    (named (fields.map Field.name) members).foldlM (give fields) given = members.foldlM (give fields) given := by
  induction members generalizing given with
  | nil => rfl
  | cons member members ih =>
      by_cases hname : member.1 ∈ fields.map Field.name
      · rw [named, List.filter_cons_of_pos (by simpa using hname), List.foldlM_cons, List.foldlM_cons]
        exact congrArg _ (funext ih)
      · have hfind : fields.find? (fun f => f.name = member.1) = none := by simpa using hname
        rw [named, List.filter_cons_of_neg (by simpa using hname), List.foldlM_cons]
        exact (ih given).trans (by simp [give, hfind])

-- Members that give integers to fields, each within its range and no field twice. Their order does not matter.
structure Gives (fields : List Field) (members : List (String × Scalar)) (numbers : Assignment) : Prop where
  perm : (named (fields.map Field.name) members).Perm (integers numbers)
  nodup : (numbers.map Prod.fst).Nodup
  holds (field : Field) (n : Int) (hfield : field ∈ fields) (h : (field.name, n) ∈ numbers) :
    field.range.holds n = true

theorem exists_integers_of_perm {members : List (String × Scalar)} {numbers : Assignment}
    (h : members.Perm (integers numbers)) :
    ∃ numbers' : Assignment, members = integers numbers' ∧ numbers'.Perm numbers := by
  let member : String × Int → String × Scalar := fun entry => (entry.1, .integer entry.2)
  have hinjective : Function.Injective member := by
    rintro ⟨name, n⟩ ⟨name', n'⟩ heq
    obtain ⟨hname, hinteger⟩ := Prod.mk.inj heq
    exact Prod.ext hname (Scalar.integer_injective hinteger)
  have hrange : members ∈ Set.range (List.map member) := by
    rw [Set.range_list_map]
    intro m hm
    obtain ⟨entry, _, rfl⟩ := List.mem_map.mp (h.subset hm)
    exact ⟨entry, rfl⟩
  obtain ⟨numbers', rfl⟩ := hrange
  exact ⟨numbers', rfl, (List.map_perm_map_iff hinjective).mp h⟩

theorem Gives.names_subset (h : Gives fields members numbers) :
    ∀ name ∈ numbers.map Prod.fst, name ∈ fields.map Field.name := by
  intro name hname
  obtain ⟨entry, hentry, rfl⟩ := List.mem_map.mp hname
  have hmem : (entry.1, Scalar.integer entry.2) ∈ named (fields.map Field.name) members :=
    h.perm.symm.subset (List.mem_map_of_mem hentry)
  exact of_decide_eq_true (List.mem_filter.mp hmem).2

section

variable (hnodup : (fields.map Field.name).Nodup)
include hnodup

-- Integers that are each within the range of the field at their place.
theorem gives_zip (ns : List Int) (hlength : fields.length ≤ ns.length)
    (hholds : ∀ pair ∈ fields.zip ns, pair.1.range.holds pair.2 = true) :
    Gives fields (integers ((fields.map Field.name).zip ns)) ((fields.map Field.name).zip ns) := by
  have hnames : ((fields.map Field.name).zip ns).map Prod.fst = fields.map Field.name :=
    List.map_fst_zip (by rwa [List.length_map])
  constructor
  case perm =>
    rw [named_integers]
    intro name hname
    rwa [hnames] at hname
  case nodup => rwa [hnames]
  case holds =>
    intro field n hfield hmem
    rw [List.zip_map_left] at hmem
    obtain ⟨⟨other, m⟩, hpair, heq⟩ := List.mem_map.mp hmem
    obtain ⟨hname, rfl⟩ := Prod.mk.inj heq
    rw [← List.inj_on_of_nodup_map hnodup (List.of_mem_zip hpair).1 hfield hname]
    exact hholds _ hpair

variable (hwords : ∀ field ∈ fields, field.range.IsWord)
include hwords

theorem gives_of_foldlM {members : List (String × Scalar)} {given : Assignment}
    (h : members.foldlM (give fields) [] = .ok given) : Gives fields members given := by
  obtain ⟨numbers, hfits, rfl⟩ := (foldlM_give_eq_ok_iff hnodup hwords members [] given).mp h
  rw [List.append_nil]
  have hperm : numbers.Perm numbers.reverse := (List.reverse_perm numbers).symm
  constructor
  case perm =>
    rw [hfits.named_eq]
    exact hperm.map _
  case nodup => exact (hperm.map Prod.fst).nodup_iff.mp hfits.nodup
  case holds =>
    intro field n hfield hmem
    exact hfits.holds field n hfield (hperm.mem_iff.mpr hmem)

theorem Gives.exists_foldlM (h : Gives fields members numbers) :
    ∃ given : Assignment, given.Perm numbers ∧ members.foldlM (give fields) [] = .ok given := by
  obtain ⟨numbers', hnamed, hperm⟩ := exists_integers_of_perm h.perm
  have hfits : Fits fields [] members numbers' := {
    named_eq := hnamed
    fresh := fun _ _ _ => rfl
    nodup := (hperm.map Prod.fst).nodup_iff.mpr h.nodup
    holds := fun field n hfield hmem => h.holds field n hfield (hperm.mem_iff.mp hmem) }
  refine ⟨numbers'.reverse, (List.reverse_perm numbers').trans hperm, ?_⟩
  exact (foldlM_give_eq_ok_iff hnodup hwords members [] _).mpr ⟨numbers', hfits, (List.append_nil _).symm⟩

end

end CompletionRing.Json
