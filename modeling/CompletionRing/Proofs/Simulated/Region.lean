import CompletionRing.Config.Document
import CompletionRing.Config.Environment
import CompletionRing.Proofs.Simulated
import Mathlib.Order.Interval.Set.Basic

namespace CompletionRing

namespace Config

theorem check_of_checked {c c' : Config} (h : c.checked = .ok c') : c'.check = .ok () := by
  obtain ⟨hcheck, rfl⟩ := checked_eq_ok_iff.mp h
  exact hcheck

theorem check_of_ofDocument {document : String} {c : Config} (h : ofDocument document = .ok c) :
    c.check = .ok () := by
  unfold ofDocument at h
  split at h
  · exact check_of_checked h
  · cases h

theorem check_of_ofEnvironment {env : Environment} {c : Config} (h : ofEnvironment env = .ok c) :
    c.check = .ok () := by
  unfold ofEnvironment at h
  cases hentries : readVariable env entriesVariable UInt32.size with
  | error fault => simp [hentries, bind, Except.bind] at h
  | ok entries =>
      cases hlimit : readVariable env batchLimitVariable UInt64.size with
      | error fault => simp [hentries, hlimit, bind, Except.bind] at h
      | ok limit =>
          cases hpoll : readVariable env pollIntervalVariable UInt64.size with
          | error fault => simp [hentries, hlimit, hpoll, bind, Except.bind] at h
          | ok poll =>
              simp only [hentries, hlimit, hpoll, bind, Except.bind] at h
              exact check_of_checked h

-- The ways in which a configuration is accepted.
inductive Accepted (c : Config) : Prop where
  | check (h : c.check = .ok ())
  | document (document : String) (h : ofDocument document = .ok c)
  | environment (env : Environment) (h : ofEnvironment env = .ok c)

theorem Accepted.check_eq {c : Config} (h : c.Accepted) : c.check = .ok () := by
  cases h with
  | check h => exact h
  | document _ h => exact check_of_ofDocument h
  | environment _ h => exact check_of_ofEnvironment h

end Config

namespace Layout

def addressOf (l : Layout) : Part → UInt64
  | .head => l.headAddress
  | .tail => l.tailAddress
  | .entries => l.entriesAddress

-- The bytes that a part takes. A cursor is a word of four.
def bytesOf (l : Layout) : Part → Nat
  | .head => 4
  | .tail => 4
  | .entries => l.entries.toNat * Limits.recordSize

def range (l : Layout) (part : Part) : Set Nat :=
  Set.Ico (l.addressOf part).toNat ((l.addressOf part).toNat + l.bytesOf part)

def region (l : Layout) : Set Nat :=
  Set.Ico l.address.toNat (l.address.toNat + l.size.toNat)

-- A layout whose parts lie in its region, each at an address that suits it, without touching each other. The
-- records are the last part and reach to the end.
structure WellPlaced (l : Layout) : Prop where
  disjoint : ∀ part other, part ≠ other → ∀ address ∈ l.range part, address ∉ l.range other
  aligned : ∀ part, part.alignment.toNat ∣ (l.addressOf part).toNat
  inside : ∀ part, l.range part ⊆ l.region
  end_eq : (l.addressOf .entries).toNat + l.bytesOf .entries = l.address.toNat + l.size.toNat

end Layout

-- Two halves of a ring that nothing has been done to, both at the cursor they began with.
structure Halves.Untouched {ring : Mapping} (halves : Halves ring) (start : UInt32) : Prop where
  closed_eq : halves.queue.closed = false
  queueHead_eq : halves.queue.head = start
  head_eq : halves.memory.head = start
  tail_eq : halves.memory.tail = start
  producerTail_eq : halves.producer.tail = start
  count_eq : halves.queue.count halves.memory = 0
  hasCompletions_eq : halves.queue.hasCompletions halves.memory = false
  unpublished_eq : halves.producer.unpublished halves.memory = 0
  available_eq : halves.producer.available halves.memory = ring.entries

theorem Halves.untouched_split (ring : Mapping) (start : UInt32) :
    (Halves.split (Memory.fresh ring start)).Untouched start where
  closed_eq := rfl
  queueHead_eq := rfl
  head_eq := rfl
  tail_eq := rfl
  producerTail_eq := rfl
  count_eq := UInt32.sub_self start
  hasCompletions_eq := by simp [Halves.split, Queue.attach, Memory.fresh, Queue.hasCompletions]
  unpublished_eq := UInt32.sub_self start
  available_eq := by
    have hpending : (Producer.attach (Memory.fresh ring start)).pending (Memory.fresh ring start) = 0 :=
      UInt32.sub_self start
    simp [Halves.split, Producer.available, hpending]

namespace Simulated

theorem exists_create_iff (entries start : UInt32) :
    (∃ s, create entries start = .ok s) ↔
      (∃ k, entries.toNat = 2 ^ k) ∧ 1 ≤ entries.toNat ∧ entries.toNat ≤ 65536 := by
  have hmax : entries ≤ Limits.maxEntries ↔ entries.toNat ≤ 65536 := UInt32.le_iff_toNat_le
  simp only [create_eq_ok_iff, exists_eq_right, isPowerOfTwo_iff, hmax]
  constructor
  · rintro ⟨⟨k, hk⟩, hle⟩
    exact ⟨⟨k, hk⟩, hk ▸ Nat.two_pow_pos k, hle⟩
  · rintro ⟨hpow, _, hle⟩
    exact ⟨hpow, hle⟩

-- Head and tail have a cache line each, and the records begin with the third.
theorem wellPlaced_layout (s : Simulated) {base : UInt64} (haligned : 64 ∣ base.toNat)
    (hfits : base.toNat + s.regionSize ≤ 2 ^ 64) (hentries : 1 ≤ s.entries.toNat) :
    (s.layout base).WellPlaced := by
  have hregion : s.regionSize = 128 + s.entries.toNat * 16 := rfl
  have hlt := s.entries.toNat_lt
  have hhead : ((s.layout base).addressOf .head).toNat = base.toNat :=
    toNat_add_offset (by omega : base.toNat + 0 < 2 ^ 64)
  have htail : ((s.layout base).addressOf .tail).toNat = base.toNat + 64 :=
    toNat_add_offset (by omega : base.toNat + 64 < 2 ^ 64)
  have hrecords : ((s.layout base).addressOf .entries).toNat = base.toNat + 128 :=
    toNat_add_offset (by omega : base.toNat + 128 < 2 ^ 64)
  have hlength : (s.layout base).bytesOf .entries = s.entries.toNat * 16 := rfl
  have haddress : (s.layout base).address.toNat = base.toNat := rfl
  have hsize : (s.layout base).size.toNat = 128 + s.entries.toNat * 16 := by
    change (UInt64.ofNat s.regionSize).toNat = _
    rw [UInt64.toNat_ofNat', Nat.mod_eq_of_lt (by omega), hregion]
  constructor
  case disjoint =>
    intro part other hne address hin hin'
    simp only [Layout.range, Set.mem_Ico] at hin hin'
    cases part <;> cases other
    case head.head | tail.tail | entries.entries => exact hne rfl
    all_goals
      simp only [hhead, htail, hrecords, Layout.bytesOf] at hin hin'
      omega
  case aligned =>
    intro part
    cases part with
    | head =>
        rw [hhead]
        exact Nat.dvd_trans (by decide) haligned
    | tail =>
        rw [htail]
        exact Nat.dvd_trans (by decide) (Nat.dvd_add haligned (Nat.dvd_refl 64))
    | entries =>
        rw [hrecords]
        exact Nat.dvd_trans (by decide) (Nat.dvd_add haligned (by decide : 64 ∣ 128))
  case inside =>
    intro part
    apply Set.Ico_subset_Ico
    · cases part <;> omega
    · rw [hsize, haddress]
      cases part with
      | head =>
          rw [hhead, Layout.bytesOf]
          omega
      | tail =>
          rw [htail, Layout.bytesOf]
          omega
      | entries =>
          rw [hrecords, hlength]
          omega
  case end_eq =>
    rw [hrecords, hlength, haddress, hsize]
    omega

end Simulated

-- A configuration that is accepted gets the ring of its size, a ring is made in just the sizes that a reader can
-- check, and its region passes that check wherever it lies.
theorem sizing_checks_agree :
    (∀ c : Config, c.Accepted →
      Simulated.ofConfig c = .ok ⟨c.entries, 0⟩ ∧ Simulated.create c.entries 0 = .ok ⟨c.entries, 0⟩) ∧
    ∀ entries start : UInt32,
      ((∃ s, Simulated.create entries start = .ok s) ↔
        (∃ k, entries.toNat = 2 ^ k) ∧ 1 ≤ entries.toNat ∧ entries.toNat ≤ 65536) ∧
      ∀ s, Simulated.create entries start = .ok s → ∀ base : UInt64, base ≠ 0 → 64 ∣ base.toNat →
        base.toNat + s.regionSize ≤ 2 ^ 64 →
          (s.layout base).check = .ok () ∧ (s.layout base).WellPlaced ∧
          ∃ ring halves, s.split base = .ok ⟨ring, halves⟩ ∧ ring.layout = s.layout base ∧
            ring.entries = entries ∧ halves.Untouched start := by
  refine ⟨fun c hc => ?_, fun entries start => ⟨?_, ?_⟩⟩
  · have hring := Simulated.ofConfig_of_check hc.check_eq
    exact ⟨hring, hring⟩
  · exact Simulated.exists_create_iff entries start
  · intro s hs base hbase haligned hfits
    obtain ⟨_, hpos, _⟩ := (Simulated.exists_create_iff entries start).mp ⟨s, hs⟩
    obtain ⟨⟨hpow, _⟩, rfl⟩ := (Simulated.create_eq_ok_iff entries start s).mp hs
    have hcheck := Simulated.check_layout _ hpow hbase (Nat.mod_eq_zero_of_dvd haligned) hfits
    let ring : Mapping := ⟨_, hcheck⟩
    refine ⟨hcheck, Simulated.wellPlaced_layout _ haligned hfits hpos, ring,
      .split (.fresh ring start), ?_, rfl, rfl, Halves.untouched_split ring start⟩
    exact (Simulated.split_eq_ok_iff _ base ring _).mpr ⟨rfl, rfl⟩

-- The standard configuration with its ring in the first place there is, and the largest ring, its cursors at the last
-- value before they wrap, in the last place where its region fits.
theorem sizing_checks_agree_at_top :
    Simulated.ofConfig .standard = .ok ⟨4096, 0⟩ ∧ ((⟨4096, 0⟩ : Simulated).layout 64).WellPlaced ∧
    ∃ ring halves, (⟨65536, 4294967295⟩ : Simulated).split 18446744073708502912 = .ok ⟨ring, halves⟩ ∧
      ring.layout.WellPlaced ∧ ring.entries = 65536 ∧ halves.Untouched 4294967295 := by
  obtain ⟨haccepted, hrings⟩ := sizing_checks_agree
  have hstandard : Config.ofEnvironment (fun _ => none) = .ok .standard := rfl
  obtain ⟨hring, hcreated⟩ := haccepted _ (.environment _ hstandard)
  obtain ⟨_, hconfigured⟩ := hrings 4096 0
  obtain ⟨_, hfirst, _⟩ := hconfigured _ hcreated 64 (by decide) (by decide) (by decide)
  obtain ⟨_, hplaced⟩ := hrings 65536 4294967295
  have hcreate : Simulated.create 65536 4294967295 = .ok ⟨65536, 4294967295⟩ := by decide
  obtain ⟨_, hwell, ring, halves, hsplit, hlayout, hentries, huntouched⟩ :=
    hplaced _ hcreate 18446744073708502912 (by decide) (by decide) (by decide)
  exact ⟨hring, hfirst, ring, halves, hsplit, hlayout ▸ hwell, hentries, huntouched⟩

end CompletionRing
