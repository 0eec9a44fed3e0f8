import CompletionRing.Proofs.Config.Numeral
import CompletionRing.Proofs.Cursor
import CompletionRing.Proofs.Simulated
import CompletionRing.Proofs.Text.Quoted

namespace CompletionRing

theorem Text.fromUTF8?_eq_some_iff (bytes : ByteArray) (s : String) :
    String.fromUTF8? bytes = some s ↔ bytes = s.toUTF8 := by
  unfold String.fromUTF8?
  constructor
  · intro h
    split at h
    · cases h
      rfl
    · cases h
  · rintro rfl
    exact dif_pos s.isValidUTF8

namespace Environment

-- The number that a variable overrides a default with, if any. Bytes that are no text override nothing.
inductive Overrides (env : Environment) (name : String) (bound : Nat) : Option Nat → Prop where
  | unset (h : env name = none) : env.Overrides name bound none
  | unreadable {bytes : ByteArray} (h : env name = some bytes) (hbytes : ∀ s : String, bytes ≠ s.toUTF8) :
      env.Overrides name bound none
  | number {raw : String} {core : List Char} {n : Nat} (h : env name = some raw.toUTF8)
      (hcore : Text.Trimmed raw.toList core) (hnumeral : Config.Numeral core n) (hbound : n < bound) :
      env.Overrides name bound (some n)

-- A variable that holds a text other than a numeral below the bound.
structure Malformed (env : Environment) (name : String) (bound : Nat) (raw : String) : Prop where
  holds : env name = some raw.toUTF8
  not_number (core : List Char) (n : Nat) (hcore : Text.Trimmed raw.toList core) (hnumeral : Config.Numeral core n) :
    ¬ n < bound

variable {env : Environment} {name : String} {bound : Nat}

theorem text?_eq_some_iff {raw : String} : env.text? name = some raw ↔ env name = some raw.toUTF8 := by
  unfold text?
  cases h : env name with
  | none => simp
  | some bytes => rw [Option.bind_some, Text.fromUTF8?_eq_some_iff, Option.some.injEq]

theorem text?_eq_none_iff :
    env.text? name = none ↔ env name = none ∨ ∃ bytes, env name = some bytes ∧ ∀ s : String, bytes ≠ s.toUTF8 := by
  rw [Option.eq_none_iff_forall_ne_some]
  simp only [ne_eq, text?_eq_some_iff]
  cases h : env name with
  | none => simp
  | some bytes => simp

theorem overrides_none_iff : env.Overrides name bound none ↔ env.text? name = none := by
  rw [text?_eq_none_iff]
  constructor
  · intro h
    cases h with
    | unset h => exact .inl h
    | unreadable h hbytes => exact .inr ⟨_, h, hbytes⟩
  · rintro (h | ⟨bytes, h, hbytes⟩)
    · exact .unset h
    · exact .unreadable h hbytes

theorem overrides_some_iff {n : Nat} :
    env.Overrides name bound (some n) ↔
      ∃ raw, env.text? name = some raw ∧ Config.unsigned? bound (Text.trim raw.toList) = some n := by
  simp only [text?_eq_some_iff, Config.unsigned?_eq_some_iff]
  constructor
  · intro h
    cases h with
    | number h hcore hnumeral hbound =>
        obtain rfl := hcore.eq_trim
        exact ⟨_, h, hnumeral, hbound⟩
  · rintro ⟨raw, h, hnumeral, hbound⟩
    exact .number h (Text.trimmed_trim _) hnumeral hbound

theorem malformed_iff {raw : String} :
    env.Malformed name bound raw ↔
      env.text? name = some raw ∧ Config.unsigned? bound (Text.trim raw.toList) = none := by
  rw [text?_eq_some_iff, Option.eq_none_iff_forall_ne_some]
  simp only [ne_eq, Config.unsigned?_eq_some_iff, not_and]
  constructor
  · rintro ⟨h, hnone⟩
    exact ⟨h, fun n => hnone _ n (Text.trimmed_trim _)⟩
  · rintro ⟨h, hnone⟩
    refine ⟨h, fun core n hcore hnumeral => ?_⟩
    obtain rfl := hcore.eq_trim
    exact hnone n hnumeral

theorem readVariable_eq_ok_iff (number : Option Nat) :
    Config.readVariable env name bound = .ok number ↔ env.Overrides name bound number := by
  unfold Config.readVariable
  cases htext : env.text? name with
  | none =>
      cases number with
      | none => simp [overrides_none_iff, htext]
      | some n => simp [overrides_some_iff, htext]
  | some raw =>
      cases number with
      | none =>
          cases hread : Config.unsigned? bound (Text.trim raw.toList) <;>
            simp [overrides_none_iff, htext, hread]
      | some n =>
          cases hread : Config.unsigned? bound (Text.trim raw.toList) <;>
            simp [overrides_some_iff, htext, hread]

theorem readVariable_eq_error_iff (fault : Config.Fault) :
    Config.readVariable env name bound = .error fault ↔
      ∃ raw, env.Malformed name bound raw ∧ fault = .variable name raw := by
  unfold Config.readVariable
  cases htext : env.text? name with
  | none => simp [malformed_iff, htext]
  | some raw =>
      cases hread : Config.unsigned? bound (Text.trim raw.toList) <;> simp [malformed_iff, htext, hread, eq_comm]

theorem Overrides.read {number : Option Nat} (h : env.Overrides name bound number) :
    Config.readVariable env name bound = .ok number :=
  (readVariable_eq_ok_iff number).mpr h

theorem Malformed.read {raw : String} (h : env.Malformed name bound raw) :
    Config.readVariable env name bound = .error (.variable name raw) :=
  (readVariable_eq_error_iff _).mpr ⟨raw, h, rfl⟩

end Environment

namespace Config

-- The standard configuration with some of its fields overridden.
structure Overridden (c : Config) (entries batchLimit pollInterval : Option Nat) : Prop where
  entries_eq : c.entries.toNat = entries.getD standard.entries.toNat
  batchLimit_eq : c.batchLimit.toNat = batchLimit.getD standard.batchLimit.toNat
  pollInterval_eq : c.pollInterval.toNat = pollInterval.getD standard.pollInterval.toNat
  producerBatch_eq : c.producerBatch = standard.producerBatch
  total_eq : c.total = standard.total

-- What an environment comes to. The first variable that is malformed is reported, whatever the later ones hold, and
-- what they override is reported as its check has it.
inductive Gives (env : Environment) : Except Fault Config → Prop where
  | noEntries {raw : String} (h : env.Malformed "URING_CQ_ENTRIES" (2 ^ 32) raw) :
      Gives env (.error (.variable "URING_CQ_ENTRIES" raw))
  | noBatchLimit {entries : Option Nat} {raw : String} (hentries : env.Overrides "URING_CQ_ENTRIES" (2 ^ 32) entries)
      (h : env.Malformed "URING_BATCH_LIMIT" (2 ^ 64) raw) : Gives env (.error (.variable "URING_BATCH_LIMIT" raw))
  | noPollInterval {entries batchLimit : Option Nat} {raw : String}
      (hentries : env.Overrides "URING_CQ_ENTRIES" (2 ^ 32) entries)
      (hbatchLimit : env.Overrides "URING_BATCH_LIMIT" (2 ^ 64) batchLimit)
      (h : env.Malformed "URING_POLL_INTERVAL_MS" (2 ^ 64) raw) :
      Gives env (.error (.variable "URING_POLL_INTERVAL_MS" raw))
  | checked {entries batchLimit pollInterval : Option Nat} {c : Config} {result : Except Fault Config}
      (hentries : env.Overrides "URING_CQ_ENTRIES" (2 ^ 32) entries)
      (hbatchLimit : env.Overrides "URING_BATCH_LIMIT" (2 ^ 64) batchLimit)
      (hpollInterval : env.Overrides "URING_POLL_INTERVAL_MS" (2 ^ 64) pollInterval)
      (h : c.Overridden entries batchLimit pollInterval) (hresult : c.Judged result) : Gives env result

variable {env : Environment} {c c' : Config} {entries batchLimit pollInterval : Option Nat}

theorem Overridden.unique (h : c.Overridden entries batchLimit pollInterval)
    (h' : c'.Overridden entries batchLimit pollInterval) : c = c' := by
  obtain ⟨_, _, _, _, _⟩ := c
  obtain ⟨_, _, _, _, _⟩ := c'
  obtain rfl := UInt32.toNat_inj.mp (h.entries_eq.trans h'.entries_eq.symm)
  obtain rfl := UInt64.toNat_inj.mp (h.batchLimit_eq.trans h'.batchLimit_eq.symm)
  obtain rfl := UInt64.toNat_inj.mp (h.pollInterval_eq.trans h'.pollInterval_eq.symm)
  obtain rfl := h.producerBatch_eq.trans h'.producerBatch_eq.symm
  obtain rfl := h.total_eq.trans h'.total_eq.symm
  rfl

theorem lt_of_overrides {name : String} {bound : Nat} {number : Option Nat}
    (h : env.Overrides name bound number) : ∀ n ∈ number, n < bound := by
  rintro n rfl
  cases h with
  | number _ _ _ hbound => exact hbound

theorem toNat_getD_ofNat32 {number : Option Nat} (standard : UInt32) (h : ∀ n ∈ number, n < 2 ^ 32) :
    ((number.map UInt32.ofNat).getD standard).toNat = number.getD standard.toNat := by
  cases number with
  | none => rfl
  | some n => exact UInt32.toNat_ofNat_of_lt' (h n rfl)

theorem toNat_getD_ofNat64 {number : Option Nat} (standard : UInt64) (h : ∀ n ∈ number, n < 2 ^ 64) :
    ((number.map UInt64.ofNat).getD standard).toNat = number.getD standard.toNat := by
  cases number with
  | none => rfl
  | some n => exact UInt64.toNat_ofNat_of_lt' (h n rfl)

def overriding (entries batchLimit pollInterval : Option Nat) : Config :=
  { standard with
    entries := (entries.map UInt32.ofNat).getD standard.entries
    batchLimit := (batchLimit.map UInt64.ofNat).getD standard.batchLimit
    pollInterval := (pollInterval.map UInt64.ofNat).getD standard.pollInterval }

theorem overridden_overriding (hentries : env.Overrides "URING_CQ_ENTRIES" (2 ^ 32) entries)
    (hbatchLimit : env.Overrides "URING_BATCH_LIMIT" (2 ^ 64) batchLimit)
    (hpollInterval : env.Overrides "URING_POLL_INTERVAL_MS" (2 ^ 64) pollInterval) :
    (overriding entries batchLimit pollInterval).Overridden entries batchLimit pollInterval where
  entries_eq := toNat_getD_ofNat32 _ (lt_of_overrides hentries)
  batchLimit_eq := toNat_getD_ofNat64 _ (lt_of_overrides hbatchLimit)
  pollInterval_eq := toNat_getD_ofNat64 _ (lt_of_overrides hpollInterval)
  producerBatch_eq := rfl
  total_eq := rfl

theorem gives_ofEnvironment (env : Environment) : Gives env (ofEnvironment env) := by
  unfold ofEnvironment
  cases hentries : readVariable env entriesVariable UInt32.size with
  | error fault =>
      obtain ⟨raw, hraw, rfl⟩ := (Environment.readVariable_eq_error_iff fault).mp hentries
      exact .noEntries hraw
  | ok entries =>
      have hentries := (Environment.readVariable_eq_ok_iff entries).mp hentries
      cases hlimit : readVariable env batchLimitVariable UInt64.size with
      | error fault =>
          obtain ⟨raw, hraw, rfl⟩ := (Environment.readVariable_eq_error_iff fault).mp hlimit
          exact .noBatchLimit hentries hraw
      | ok batchLimit =>
          have hlimit := (Environment.readVariable_eq_ok_iff batchLimit).mp hlimit
          cases hpoll : readVariable env pollIntervalVariable UInt64.size with
          | error fault =>
              obtain ⟨raw, hraw, rfl⟩ := (Environment.readVariable_eq_error_iff fault).mp hpoll
              exact .noPollInterval hentries hlimit hraw
          | ok pollInterval =>
              have hpoll := (Environment.readVariable_eq_ok_iff pollInterval).mp hpoll
              exact .checked hentries hlimit hpoll (overridden_overriding hentries hlimit hpoll) (judged_checked _)

theorem ofEnvironment_eq_of_gives {result : Except Fault Config} (h : Gives env result) :
    ofEnvironment env = result := by
  unfold ofEnvironment
  cases h with
  | noEntries h =>
      have hentries : readVariable env entriesVariable UInt32.size = _ := h.read
      simp only [hentries, bind, Except.bind]
  | noBatchLimit hentries h =>
      have hentries : readVariable env entriesVariable UInt32.size = _ := hentries.read
      have hlimit : readVariable env batchLimitVariable UInt64.size = _ := h.read
      simp only [hentries, hlimit, bind, Except.bind]
  | noPollInterval hentries hlimit h =>
      have hentries : readVariable env entriesVariable UInt32.size = _ := hentries.read
      have hlimit : readVariable env batchLimitVariable UInt64.size = _ := hlimit.read
      have hpoll : readVariable env pollIntervalVariable UInt64.size = _ := h.read
      simp only [hentries, hlimit, hpoll, bind, Except.bind]
  | checked hentries hlimit hpoll h hresult =>
      obtain rfl := h.unique (overridden_overriding hentries hlimit hpoll)
      rw [hresult.eq_checked]
      have hentries : readVariable env entriesVariable UInt32.size = _ := hentries.read
      have hlimit : readVariable env batchLimitVariable UInt64.size = _ := hlimit.read
      have hpoll : readVariable env pollIntervalVariable UInt64.size = _ := hpoll.read
      simp only [hentries, hlimit, hpoll, bind, Except.bind]
      rfl

-- A ring below the batch of the demo is refused, for nothing overrides that.
theorem check_iff_of_overridden (h : c.Overridden entries batchLimit pollInterval) :
    c.check = .ok () ↔ (∀ n ∈ entries, (∃ k, n = 2 ^ k) ∧ 32 ≤ n ∧ n ≤ 65536) ∧ ∀ n ∈ batchLimit, n ≠ 0 := by
  have hentries : isPowerOfTwo c.entries = true ∧ c.entries ≤ Limits.maxEntries ∧ c.producerBatch ≤ c.entries ↔
      ∀ n ∈ entries, (∃ k, n = 2 ^ k) ∧ 32 ≤ n ∧ n ≤ 65536 := by
    rw [isPowerOfTwo_iff, UInt32.le_iff_toNat_le, UInt32.le_iff_toNat_le, h.entries_eq, h.producerBatch_eq]
    change _ ∧ _ ≤ 65536 ∧ 32 ≤ _ ↔ _
    cases entries with
    | none => simpa using ⟨⟨12, rfl⟩, by decide, by decide⟩
    | some n =>
        simp only [Option.getD_some, Option.mem_def, Option.some.injEq, forall_eq']
        exact and_congr_right fun _ => and_comm
  have hlimit : c.batchLimit ≠ 0 ↔ ∀ n ∈ batchLimit, n ≠ 0 := by
    rw [Ne, ← UInt64.toNat_inj, h.batchLimit_eq]
    cases batchLimit with
    | none => simpa using by decide
    | some n => simp
  have hproducer : c.producerBatch ≠ 0 := by
    rw [h.producerBatch_eq]
    decide
  rw [c.check_eq_ok_iff, ← hentries, ← hlimit]
  tauto

theorem error_variable (name : String) {raw inner : String} (h : Text.quoted raw = "\"" ++ inner ++ "\"") :
    (Fault.variable name raw).error = .config (name ++ " has invalid value \"" ++ inner ++ "\"") := by
  have hspace : " has invalid value " ++ "\"" = " has invalid value \"" := by decide +kernel
  have hmessage :=
    calc name ++ " has invalid value " ++ Text.quoted raw
      _ = name ++ " has invalid value " ++ ("\"" ++ inner ++ "\"") := by rw [h]
      _ = name ++ (" has invalid value " ++ "\"") ++ inner ++ "\"" := by simp only [String.append_assoc]
      _ = name ++ " has invalid value \"" ++ inner ++ "\"" := by rw [hspace]
  exact congrArg RingError.config hmessage

end Config

-- An environment is read by its grammar and by nothing else. What it overrides is checked like any configuration. The
-- first fault is told with the whole text that holds it between quotes, from which no other text can be read.
theorem environment_gives_exactly (env : Environment) :
    (∀ result, Config.ofEnvironment env = result ↔ Config.Gives env result) ∧
    (∀ entries batchLimit pollInterval, env.Overrides "URING_CQ_ENTRIES" (2 ^ 32) entries →
      env.Overrides "URING_BATCH_LIMIT" (2 ^ 64) batchLimit →
      env.Overrides "URING_POLL_INTERVAL_MS" (2 ^ 64) pollInterval →
        ((∃ c, Config.ofEnvironment env = .ok c) ↔
          (∀ n ∈ entries, (∃ k, n = 2 ^ k) ∧ 32 ≤ n ∧ n ≤ 65536) ∧ ∀ n ∈ batchLimit, n ≠ 0) ∧
        ∀ c, Config.ofEnvironment env = .ok c → c.Overridden entries batchLimit pollInterval) ∧
    (∀ name raw : String, ∃ shown : List Char, Text.Escaped raw.toList shown ∧
      (∀ other : String, Text.Escaped other.toList shown → other = raw) ∧
      (Config.Fault.variable name raw).error =
        .config (name ++ " has invalid value \"" ++ String.ofList shown ++ "\"")) ∧
    ∀ name raw : String, (∀ c ∈ raw.toList, 32 ≤ c.toNat ∧ c.toNat < 127 ∧ c ≠ '"' ∧ c ≠ '\\') →
      (Config.Fault.variable name raw).error = .config (name ++ " has invalid value \"" ++ raw ++ "\"") := by
  refine ⟨fun result => ⟨?_, Config.ofEnvironment_eq_of_gives⟩, ?_, ?_, ?_⟩
  · rintro rfl
    exact Config.gives_ofEnvironment env
  · intro entries batchLimit pollInterval hentries hlimit hpoll
    have hover := Config.overridden_overriding hentries hlimit hpoll
    rw [Config.ofEnvironment_eq_of_gives (.checked hentries hlimit hpoll hover (Config.judged_checked _))]
    simp only [Config.checked_eq_ok_iff]
    constructor
    · rw [exists_and_left, ← Config.check_iff_of_overridden hover]
      simp
    · rintro c ⟨_, rfl⟩
      exact hover
  · intro name raw
    have hescaped := Text.escaped_quoted raw.toList
    refine ⟨raw.toList.flatMap Text.quotedChar, hescaped, fun other hother => ?_, ?_⟩
    · exact String.toList_inj.mp (hother.unique hescaped)
    · exact Config.error_variable name (Text.quoted_eq raw)
  · intro name raw hvisible
    exact Config.error_variable name (Text.quoted_of_visible hvisible)

-- Blanks, a sign and leading zeros do no harm, and bytes that are no text are passed over. Two numerals are none, and
-- they are told with the blanks around them. A quote, a line's end and a wide blank are told behind backslashes.
theorem environment_gives_exactly_in_order :
    let env : Environment := fun name =>
      if name = "URING_CQ_ENTRIES" then some "\u2003+0064\n".toUTF8
      else if name = "URING_BATCH_LIMIT" then some ⟨#[255]⟩ else none
    let other : Environment := fun name =>
      if name = "URING_BATCH_LIMIT" then some " 1 2 ".toUTF8
      else if name = "URING_POLL_INTERVAL_MS" then some "-1".toUTF8 else env name
    env.Overrides "URING_CQ_ENTRIES" (2 ^ 32) (some 64) ∧
      (∃ c, Config.ofEnvironment env = .ok c ∧ c.Overridden (some 64) none none) ∧
      Config.ofEnvironment other = .error (.variable "URING_BATCH_LIMIT" " 1 2 ") ∧
      (Config.Fault.variable "URING_BATCH_LIMIT" " 1 2 ").error =
        .config "URING_BATCH_LIMIT has invalid value \" 1 2 \"" ∧
      (Config.Fault.variable "URING_BATCH_LIMIT" "\"1\n\u2003").error =
        .config "URING_BATCH_LIMIT has invalid value \"\\\"1\\n\\u\x7b2003\x7d\"" := by
  intro env other
  have hentries : env.Overrides "URING_CQ_ENTRIES" (2 ^ 32) (some 64) :=
    Environment.overrides_some_iff.mpr ⟨"\u2003+0064\n", by decide +kernel, by decide +kernel⟩
  have hlimit : env.Overrides "URING_BATCH_LIMIT" (2 ^ 64) none :=
    Environment.overrides_none_iff.mpr (by decide +kernel)
  have hother : other.Overrides "URING_CQ_ENTRIES" (2 ^ 32) (some 64) :=
    Environment.overrides_some_iff.mpr ⟨"\u2003+0064\n", by decide +kernel, by decide +kernel⟩
  have hmalformed : other.Malformed "URING_BATCH_LIMIT" (2 ^ 64) " 1 2 " :=
    Environment.malformed_iff.mpr ⟨by decide +kernel, by decide +kernel⟩
  have hvisible : ∀ c ∈ " 1 2 ".toList, 32 ≤ c.toNat ∧ c.toNat < 127 ∧ c ≠ '"' ∧ c ≠ '\\' := by
    have hchars : " 1 2 ".toList = [' ', '1', ' ', '2', ' '] := by decide +kernel
    rw [hchars]
    simp
  obtain ⟨_, hall, _⟩ := environment_gives_exactly env
  obtain ⟨hgives, _, _, hquoted⟩ := environment_gives_exactly other
  obtain ⟨hok, hoverridden⟩ := hall (some 64) none none hentries hlimit (.unset rfl)
  obtain ⟨c, hc⟩ := hok.mpr ⟨by simpa using ⟨6, rfl⟩, by simp⟩
  exact ⟨hentries, ⟨c, hc, hoverridden c hc⟩, (hgives _).mpr (.noBatchLimit hother hmalformed),
    (hquoted "URING_BATCH_LIMIT" " 1 2 " hvisible).trans (by decide +kernel), by decide +kernel⟩

end CompletionRing
