import CompletionRing.Proofs.Config.Check
import CompletionRing.Proofs.Cursor
import CompletionRing.Simulated

namespace CompletionRing

theorem Mapping.of?_eq_ok_iff (layout : Layout) (ring : Mapping) :
    of? layout = .ok ring ↔ ring.layout = layout := by
  obtain ⟨other, hother⟩ := ring
  unfold of?
  split
  case h_1 hcheck =>
    simp only [Except.ok.injEq, mk.injEq]
    exact eq_comm
  case h_2 fault hfault =>
    simp only [reduceCtorEq, false_iff]
    rintro rfl
    simp [hother] at hfault

namespace Simulated

theorem create_eq_ok_iff (entries start : UInt32) (s : Simulated) :
    create entries start = .ok s ↔
      (isPowerOfTwo entries = true ∧ entries ≤ Limits.maxEntries) ∧ s = ⟨entries, start⟩ := by
  unfold create
  cases hpow : isPowerOfTwo entries with
  | false => simp
  | true =>
      by_cases hmax : Limits.maxEntries < entries
      · simp [hmax, UInt32.not_le.mpr hmax]
      · simp [hmax, UInt32.not_lt.mp hmax, eq_comm]

theorem toNat_add_offset {base : UInt64} {offset : Nat} (hfits : base.toNat + offset < 2 ^ 64) :
    (base + .ofNat offset).toNat = base.toNat + offset := by
  rw [UInt64.toNat_add, UInt64.toNat_ofNat', Nat.add_mod_mod, Nat.mod_eq_of_lt hfits]

theorem checkAddress_offset (part : Layout.Part) {base : UInt64} (offset : Nat) (hbase : base ≠ 0)
    (haligned : base.toNat % 64 = 0) (hoffset : offset % 64 = 0) (hfits : base.toNat + offset < 2 ^ 64) :
    Layout.checkAddress part (base + .ofNat offset) = .ok () := by
  have haddress := toNat_add_offset hfits
  have hpos : base.toNat ≠ 0 := fun h => hbase (UInt64.toNat_inj.mp h)
  have hne : base + .ofNat offset ≠ 0 := by
    rw [Ne, ← UInt64.toNat_inj, haddress]
    change base.toNat + offset ≠ 0
    omega
  have hmod : (base + .ofNat offset) % part.alignment = 0 := by
    rw [← UInt64.toNat_inj, UInt64.toNat_mod, haddress]
    cases part with
    | head | tail | entries =>
        change (base.toNat + offset) % _ = 0
        simp only [Layout.Part.alignment, UInt64.reduceToNat]
        omega
  simp [Layout.checkAddress, hne, hmod]

-- A region passes the checks of a reader wherever its allocation may have put it.
theorem check_layout (s : Simulated) {base : UInt64} (hpow : isPowerOfTwo s.entries = true)
    (hbase : base ≠ 0) (haligned : base.toNat % 64 = 0) (hfits : base.toNat + s.regionSize ≤ 2 ^ 64) :
    (s.layout base).check = .ok () := by
  have hentries : s.entries.toNat ≠ 0 := by
    intro h
    have hzero : s.entries = 0 := UInt32.toNat_inj.mp h
    simp [isPowerOfTwo, hzero] at hpow
  have hend : base.toNat + entriesOffset < 2 ^ 64 := by
    simp only [regionSize, Limits.recordSize] at hfits
    omega
  have hhead := checkAddress_offset .head headOffset hbase haligned rfl
    (by simp only [headOffset, entriesOffset, Limits.regionAlignment] at *; omega)
  have htail := checkAddress_offset .tail tailOffset hbase haligned rfl
    (by simp only [tailOffset, entriesOffset, Limits.regionAlignment] at *; omega)
  have hrecords := checkAddress_offset .entries entriesOffset hbase haligned rfl hend
  simp only [Layout.check, layout, hhead, htail, hrecords, bind, Except.bind]
  simp [hpow]

-- Splitting a fresh ring gives halves that have met nothing yet, wherever the ring lies.
theorem split_eq_ok_iff (s : Simulated) (base : UInt64) (ring : Mapping) (halves : Halves ring) :
    s.split base = .ok ⟨ring, halves⟩ ↔
      ring.layout = s.layout base ∧ halves = .split (.fresh ring s.start) := by
  rw [← Mapping.of?_eq_ok_iff]
  unfold split
  cases hring : Mapping.of? (s.layout base) with
  | error fault => simp [bind, Except.bind]
  | ok other =>
      simp only [bind, Except.bind, Except.ok.injEq, Sigma.mk.injEq]
      constructor
      · rintro ⟨rfl, h⟩
        exact ⟨rfl, (eq_of_heq h).symm⟩
      · rintro ⟨rfl, rfl⟩
        exact ⟨rfl, HEq.rfl⟩

-- A configuration that passes its check gets a ring of its size, and the ring is split.
theorem ofConfig_of_check {c : Config} (h : c.check = .ok ()) : ofConfig c = .ok ⟨c.entries, 0⟩ := by
  obtain ⟨hpow, hmax, _⟩ := c.check_eq_ok_iff.mp h
  exact (create_eq_ok_iff c.entries 0 _).mpr ⟨⟨hpow, hmax⟩, rfl⟩

theorem split_placement_of_check {c : Config} (h : c.check = .ok ()) :
    ∃ ring, (⟨c.entries, 0⟩ : Simulated).split placement = .ok ⟨ring, .split (.fresh ring 0)⟩ := by
  obtain ⟨hpow, hmax, _⟩ := c.check_eq_ok_iff.mp h
  have hentries : c.entries.toNat ≤ 65536 := UInt32.le_iff_toNat_le.mp hmax
  have hfits : placement.toNat + (⟨c.entries, 0⟩ : Simulated).regionSize ≤ 2 ^ 64 := by
    change 4096 + (2 * 64 + c.entries.toNat * 16) ≤ 2 ^ 64
    omega
  have hcheck := check_layout ⟨c.entries, 0⟩ hpow (by decide) (by decide) hfits
  exact ⟨⟨_, hcheck⟩, (split_eq_ok_iff _ _ _ _).mpr ⟨rfl, rfl⟩⟩

end Simulated

end CompletionRing
