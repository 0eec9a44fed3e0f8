import CompletionRing.Error
import CompletionRing.Json.Fault
import CompletionRing.Limits
import CompletionRing.PowerOfTwo

namespace CompletionRing

-- The sizes of a ring and of the loop that drains it.
structure Config where
  entries : UInt32
  -- completions handed out per drain at most
  batchLimit : UInt64
  -- milliseconds between two looks at the ring
  pollInterval : UInt64
  -- completions that the demo publishes at once
  producerBatch : UInt32
  -- completions that the demo posts in all
  total : UInt64
deriving DecidableEq

namespace Config

def standard : Config where
  entries := Limits.defaultEntries
  batchLimit := Limits.defaultBatchLimit
  pollInterval := 1
  producerBatch := 32
  total := 100000

def small : Config where
  entries := 8
  batchLimit := 4
  pollInterval := 1
  producerBatch := 1
  total := 64

inductive Fault where
  | entriesNotPowerOfTwo (entries : UInt32)
  | tooManyEntries (entries : UInt32)
  | noBatch
  | producerBatchOutOfRange (entries batch : UInt32)
  | variable (name value : String)
  | document (refusal : Json.Refusal)
deriving DecidableEq

def Fault.message : Fault → String
  | .entriesNotPowerOfTwo entries =>
      "cq_entries must be a non-zero power of two, got " ++ Decimal.text entries.toNat
  | .tooManyEntries entries =>
      "cq_entries " ++ Decimal.text entries.toNat ++ " exceeds maximum " ++
        Decimal.text Limits.maxEntries.toNat
  | .noBatch => "batch_limit must be at least 1"
  | .producerBatchOutOfRange entries batch =>
      "producer_batch must be within 1..=" ++ Decimal.text entries.toNat ++ ", got " ++
        Decimal.text batch.toNat
  | .variable name value => name ++ " has invalid value " ++ Text.quoted value
  | .document refusal => refusal.message

def Fault.error (fault : Fault) : RingError :=
  .config fault.message

-- The sizes have to fit each other. The first rule that is broken is reported.
def check (c : Config) : Except Fault Unit :=
  if !isPowerOfTwo c.entries then .error (.entriesNotPowerOfTwo c.entries)
  else if Limits.maxEntries < c.entries then .error (.tooManyEntries c.entries)
  else if c.batchLimit = 0 then .error .noBatch
  else if c.producerBatch = 0 || c.entries < c.producerBatch then
    .error (.producerBatchOutOfRange c.entries c.producerBatch)
  else .ok ()

def checked (c : Config) : Except Fault Config := do
  c.check
  .ok c

def pollSeconds (c : Config) : Nat := c.pollInterval.toNat / 1000
def pollMilliseconds (c : Config) : Nat := c.pollInterval.toNat % 1000

-- The fields by the names that documents and texts use, in their order.
def entriesKey : String := "cq_entries"
def batchLimitKey : String := "batch_limit"
def pollIntervalKey : String := "poll_interval_ms"
def producerBatchKey : String := "producer_batch"
def totalKey : String := "total_completions"

def numbers (c : Config) : List (String × Nat) :=
  [(entriesKey, c.entries.toNat), (batchLimitKey, c.batchLimit.toNat), (pollIntervalKey, c.pollInterval.toNat),
    (producerBatchKey, c.producerBatch.toNat), (totalKey, c.total.toNat)]

def fieldText (c : Config) : String :=
  Text.fields "RingConfig" (c.numbers.map fun entry => (entry.1, Decimal.text entry.2))

end Config

end CompletionRing
