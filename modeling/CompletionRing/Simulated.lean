import CompletionRing.Config
import CompletionRing.Producer
import CompletionRing.Queue

namespace CompletionRing

-- A ring in memory of its own, where no real one is at hand. Head and tail take a cache line each, the
-- records follow.
structure Simulated where
  entries : UInt32
  -- both cursors begin here
  start : UInt32
deriving DecidableEq

namespace Simulated

def headOffset : Nat := 0
def tailOffset : Nat := Limits.regionAlignment
def entriesOffset : Nat := 2 * Limits.regionAlignment

def create (entries start : UInt32) : Except Layout.Fault Simulated :=
  if !isPowerOfTwo entries || Limits.maxEntries < entries then .error (.simulatedEntries entries)
  else .ok ⟨entries, start⟩

def ofConfig (c : Config) : Except Layout.Fault Simulated :=
  create c.entries 0

def regionSize (s : Simulated) : Nat :=
  entriesOffset + s.entries.toNat * Limits.recordSize

def createEvent (s : Simulated) : Event :=
  .ringCreated s.entries s.start s.regionSize

-- The layout of the ring with its region at an address.
def layout (s : Simulated) (base : UInt64) : Layout where
  headAddress := base + .ofNat headOffset
  tailAddress := base + .ofNat tailOffset
  mask := s.entries - 1
  entries := s.entries
  entriesAddress := base + .ofNat entriesOffset
  size := .ofNat s.regionSize
  address := base
  fd := -1
  capacity := s.entries

-- An address for a region of any accepted size, where nobody asks for another.
def placement : UInt64 := 4096

end Simulated

structure Halves (ring : Mapping) where
  memory : Memory ring
  producer : Producer ring
  queue : Queue ring

-- Splits a ring into its two halves. Whatever was not published before is lost to both.
def Halves.split {ring : Mapping} (m : Memory ring) : Halves ring :=
  ⟨m, .attach m, .attach m⟩

namespace Simulated

def split (s : Simulated) (base : UInt64) : Except Layout.Fault ((ring : Mapping) × Halves ring) := do
  let ring ← Mapping.of? (s.layout base)
  .ok ⟨ring, .split (.fresh ring s.start)⟩

end Simulated

end CompletionRing
