import CompletionRing.Config
import CompletionRing.Json.Record
import CompletionRing.Json.Write

namespace CompletionRing.Config

def documentFields : List Json.Field :=
  [⟨entriesKey, .unsigned32⟩, ⟨batchLimitKey, .size⟩, ⟨pollIntervalKey, .unsigned64⟩,
    ⟨producerBatchKey, .unsigned32⟩, ⟨totalKey, .unsigned64⟩]

def override (c : Config) (given : Json.Assignment) : Config where
  entries := ((given.lookup entriesKey).map UInt32.ofInt).getD c.entries
  batchLimit := ((given.lookup batchLimitKey).map UInt64.ofInt).getD c.batchLimit
  pollInterval := ((given.lookup pollIntervalKey).map UInt64.ofInt).getD c.pollInterval
  producerBatch := ((given.lookup producerBatchKey).map UInt32.ofInt).getD c.producerBatch
  total := ((given.lookup totalKey).map UInt64.ofInt).getD c.total

-- A configuration is an object, or the list of its first fields. What it leaves out is as usual.
def read (cs : List Char) : Except Json.Fault (Json.Reading Config) := do
  match ← Json.readFound cs with
  | (.map, _ :: inner) =>
      let (given, rest) ← Json.readFields documentFields inner
      .ok (standard.override given, rest)
  | (.sequence, _ :: inner) =>
      let (given, rest) ← Json.readElements documentFields true inner
      .ok (standard.override given, rest)
  | (found, rest) => .error (.before (.wrongType found "struct RingConfig") rest)

def ofDocument (document : String) : Except Fault Config :=
  match Json.readDocument read document with
  | .ok c => c.checked
  | .error refusal => .error (.document refusal)

def document (c : Config) : String :=
  String.ofList (Json.writeObject (c.numbers.map fun entry => (entry.1, Json.writeInteger entry.2)))

end CompletionRing.Config
