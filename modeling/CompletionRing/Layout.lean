import CompletionRing.Error
import CompletionRing.Limits
import CompletionRing.PowerOfTwo

namespace CompletionRing

-- Where the parts of a mapped completion ring lie, as ring setup describes it. Only the first five
-- fields are interpreted.
structure Layout where
  headAddress : UInt64
  tailAddress : UInt64
  mask : UInt32
  entries : UInt32
  entriesAddress : UInt64
  size : UInt64
  address : UInt64
  fd : Int32
  capacity : UInt32
deriving DecidableEq

namespace Layout

inductive Part where
  | head
  | tail
  | entries
deriving DecidableEq

namespace Part

def name : Part → String
  | .head => "head"
  | .tail => "tail"
  | .entries => "entries"

-- The cursors are words of four bytes, the records begin with a token of eight.
def alignment : Part → UInt64
  | .head => 4
  | .tail => 4
  | .entries => 8

end Part

inductive Fault where
  | null (part : Part)
  | misaligned (part : Part) (address : UInt64)
  | entriesNotPowerOfTwo (entries : UInt32)
  | maskMismatch (mask entries : UInt32)
  | simulatedEntries (entries : UInt32)
deriving DecidableEq

def Fault.message : Fault → String
  | .null part => part.name ++ " address is null"
  | .misaligned part address =>
      part.name ++ " address 0x" ++ String.ofList (Text.hexadecimal address.toNat) ++ " is not " ++
        Decimal.text part.alignment.toNat ++ "-byte aligned"
  | .entriesNotPowerOfTwo entries =>
      "ring entries " ++ Decimal.text entries.toNat ++ " is not a non-zero power of two"
  | .maskMismatch mask entries =>
      "mask " ++ Decimal.text mask.toNat ++ " does not match " ++ Decimal.text entries.toNat ++ " entries"
  | .simulatedEntries entries =>
      "simulated ring needs a power of two in 1..=" ++ Decimal.text Limits.maxEntries.toNat ++
        " entries, got " ++ Decimal.text entries.toNat

def Fault.error (fault : Fault) : RingError :=
  .invalidLayout fault.message

def checkAddress (part : Part) (address : UInt64) : Except Fault Unit :=
  if address = 0 then .error (.null part)
  else if address % part.alignment ≠ 0 then .error (.misaligned part address)
  else .ok ()

-- What a reader of the ring relies on. The first rule that is broken is reported. Each address is looked at by itself,
-- so parts that overlap pass.
def check (l : Layout) : Except Fault Unit := do
  checkAddress .head l.headAddress
  checkAddress .tail l.tailAddress
  checkAddress .entries l.entriesAddress
  if !isPowerOfTwo l.entries then .error (.entriesNotPowerOfTwo l.entries)
  else if l.mask ≠ l.entries - 1 then .error (.maskMismatch l.mask l.entries)
  else .ok ()

def fieldText (l : Layout) : String :=
  Text.fields "CompletionRingParams" [("head_address", Decimal.text l.headAddress.toNat),
    ("tail_address", Decimal.text l.tailAddress.toNat), ("ring_mask", Decimal.text l.mask.toNat),
    ("ring_entries", Decimal.text l.entries.toNat), ("entries_address", Decimal.text l.entriesAddress.toNat),
    ("ring_size", Decimal.text l.size.toNat), ("ring_address", Decimal.text l.address.toNat),
    ("ring_fd", Decimal.text l.fd.toInt), ("ring_capacity", Decimal.text l.capacity.toNat)]

theorem entries_rules_of_check {l : Layout} (h : l.check = .ok ()) :
    isPowerOfTwo l.entries = true ∧ l.mask = l.entries - 1 := by
  unfold check at h
  cases hhead : checkAddress .head l.headAddress with
  | error _ => simp [hhead, bind, Except.bind] at h
  | ok _ =>
      cases htail : checkAddress .tail l.tailAddress with
      | error _ => simp [hhead, htail, bind, Except.bind] at h
      | ok _ =>
          cases hentries : checkAddress .entries l.entriesAddress with
          | error _ => simp [hhead, htail, hentries, bind, Except.bind] at h
          | ok _ =>
              simp only [hhead, htail, hentries, bind, Except.bind] at h
              split at h
              · cases h
              · split at h
                · cases h
                · simp_all

end Layout

-- A layout that has passed its check. All that lives in one ring is indexed by it.
structure Mapping where
  layout : Layout
  checked : layout.check = .ok ()

namespace Mapping

def entries (ring : Mapping) : UInt32 := ring.layout.entries

def mask (ring : Mapping) : UInt32 := ring.layout.mask

def size (ring : Mapping) : Nat := ring.entries.toNat

theorem isPowerOfTwo_entries (ring : Mapping) : isPowerOfTwo ring.entries = true :=
  (Layout.entries_rules_of_check ring.checked).1

theorem mask_eq (ring : Mapping) : ring.mask = ring.entries - 1 :=
  (Layout.entries_rules_of_check ring.checked).2

theorem size_pos (ring : Mapping) : 0 < ring.size := by
  have h := ring.isPowerOfTwo_entries
  simp only [isPowerOfTwo, Bool.and_eq_true, bne_iff_ne, ne_eq] at h
  have hne : ring.entries.toNat ≠ 0 := fun h0 => h.1 (UInt32.toNat_inj.mp h0)
  exact Nat.pos_of_ne_zero hne

-- A cursor's slot lies inside the array, whatever the cursor.
theorem toNat_and_mask_lt (ring : Mapping) (cursor : UInt32) :
    (cursor &&& ring.mask).toNat < ring.size := by
  have hpos := ring.size_pos
  have hle : 1 ≤ ring.entries := by
    rw [UInt32.le_iff_toNat_le]
    exact hpos
  have hand : (cursor &&& ring.mask).toNat ≤ ring.mask.toNat := by
    rw [UInt32.toNat_and]
    exact Nat.and_le_right
  rw [ring.mask_eq, UInt32.toNat_sub_of_le _ _ hle] at hand
  rw [ring.mask_eq]
  have hone : (1 : UInt32).toNat = 1 := rfl
  unfold size at *
  omega

def slot (ring : Mapping) (cursor : UInt32) : Fin ring.size :=
  ⟨(cursor &&& ring.mask).toNat, ring.toNat_and_mask_lt cursor⟩

def of? (layout : Layout) : Except Layout.Fault Mapping :=
  match h : layout.check with
  | .ok () => .ok ⟨layout, h⟩
  | .error fault => .error fault

end Mapping

end CompletionRing
