import CompletionRing.Config
import CompletionRing.Text.Blank

namespace CompletionRing

-- The variables that a program was started with, as raw bytes.
abbrev Environment := String → Option ByteArray

-- A variable that holds text. One that does not counts as unset.
def Environment.text? (env : Environment) (name : String) : Option String :=
  (env name).bind String.fromUTF8?

namespace Config

-- An unsigned numeral below a bound: at most one plus sign, then digits.
def unsigned? (bound : Nat) (cs : List Char) : Option Nat :=
  let digits := match cs with
    | '+' :: rest => rest
    | cs => cs
  if digits = [] then none
  else if !digits.all Char.isDigit then none
  else
    let n := Decimal.value digits
    if n < bound then some n else none

-- The number that a variable holds, if it is set. Blanks around the number do not count.
def readVariable (env : Environment) (name : String) (bound : Nat) : Except Fault (Option Nat) :=
  match env.text? name with
  | none => .ok none
  | some raw =>
      match unsigned? bound (Text.trim raw.toList) with
      | some n => .ok (some n)
      | none => .error (.variable name raw)

def entriesVariable : String := "URING_CQ_ENTRIES"
def batchLimitVariable : String := "URING_BATCH_LIMIT"
def pollIntervalVariable : String := "URING_POLL_INTERVAL_MS"

-- The usual configuration with what the environment overrides.
def ofEnvironment (env : Environment) : Except Fault Config := do
  let entries ← readVariable env entriesVariable UInt32.size
  let batchLimit ← readVariable env batchLimitVariable UInt64.size
  let pollInterval ← readVariable env pollIntervalVariable UInt64.size
  checked { standard with
    entries := (entries.map UInt32.ofNat).getD standard.entries
    batchLimit := (batchLimit.map UInt64.ofNat).getD standard.batchLimit
    pollInterval := (pollInterval.map UInt64.ofNat).getD standard.pollInterval }

end Config

end CompletionRing
