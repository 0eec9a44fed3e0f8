import CompletionRing.Session.Course
import CompletionRing.Simulated

namespace CompletionRing

structure Session (ring : Mapping) where
  halves : Halves ring
  -- the monitors made of the present queue; all see the same
  monitors : Nat

inductive Step (α : Type) where
  | act (action : α)
  | drain (conduct : Conduct α)
  | reap (max : Nat)
  | snapshot
  | text
  | fieldText
  | fieldLines
  | close
  | state
  | layout
  | makeMonitor
  | cloneMonitor (index : Nat)
  | readMonitor (index : Nat)
  | split

-- What a drain reports: how many records it handed out, how it ended, and what its handler met.
structure Report where
  processed : Nat
  ending : Ending String
  trace : Trace

inductive Answer where
  | attached
  | outcome (outcome : Outcome)
  | report (report : Report)
  | records (records : List Completion)
  | text (text : String)
  | nothing
  | layout (layout : Layout)
  | monitor (index : Nat)
  | sighting (sighting : Sighting)
  | noSuchMonitor

namespace Session

variable {ring : Mapping} {α : Type}

-- A ring is split when its session begins and may be split again later. The monitors go with the queue.
def begin (m : Memory ring) : Session ring × List Event :=
  let halves := Halves.split m
  (⟨halves, 0⟩, [halves.queue.attachEvent])

def addMonitor (s : Session ring) : Answer × List Event × Session ring :=
  (.monitor s.monitors, [], { s with monitors := s.monitors + 1 })

def step [Actor α] (s : Session ring) (step : Step α) : Answer × List Event × Session ring :=
  let ⟨⟨m, p, q⟩, monitors⟩ := s
  match step with
  | .act action =>
      let (outcome, p, m) := Actor.perform action p m
      (.outcome outcome, [], ⟨⟨m, p, q⟩, monitors⟩)
  | .drain conduct =>
      let d := q.drain (Conduct.handler conduct) m (p, Trace.empty)
      (.report ⟨d.processed, d.ending, d.state.2⟩, d.events, ⟨⟨d.memory, d.state.1, d.queue⟩, monitors⟩)
  | .reap max =>
      let d := q.reap max m
      (.records d.state.toList, d.events, ⟨⟨d.memory, p, d.queue⟩, monitors⟩)
  | .snapshot => (.records (q.snapshot m), [], ⟨⟨m, p, q⟩, monitors⟩)
  | .text => (.text (q.text m), [], ⟨⟨m, p, q⟩, monitors⟩)
  | .fieldText => (.text (q.fieldText m), [], ⟨⟨m, p, q⟩, monitors⟩)
  | .fieldLines => (.text (q.fieldLines m), [], ⟨⟨m, p, q⟩, monitors⟩)
  | .close => (.outcome .done, q.closeEvents, ⟨⟨m, p, q.close⟩, monitors⟩)
  | .state => (.nothing, [], ⟨⟨m, p, q⟩, monitors⟩)
  | .layout => (.layout ring.layout, [], ⟨⟨m, p, q⟩, monitors⟩)
  | .makeMonitor => addMonitor ⟨⟨m, p, q⟩, monitors⟩
  | .cloneMonitor index =>
      if index < monitors then addMonitor ⟨⟨m, p, q⟩, monitors⟩
      else (.noSuchMonitor, [], ⟨⟨m, p, q⟩, monitors⟩)
  | .readMonitor index =>
      let sighting := Sighting.of q m
      if index < monitors then (.sighting sighting, [], ⟨⟨m, p, q⟩, monitors⟩)
      else (.noSuchMonitor, [], ⟨⟨m, p, q⟩, monitors⟩)
  | .split =>
      let (s, events) := begin m
      (.attached, events, s)

-- All the steps of a run in their order, each with its answer and the state it leaves.
def run [Actor α] (s : Session ring) : List (Step α) → List (Answer × List Event × Session ring)
  | [] => []
  | next :: steps =>
      let result := s.step next
      result :: run result.2.2 steps

end Session

namespace Simulated

def session (entries start : UInt32) (base : UInt64) :
    Except Layout.Fault ((ring : Mapping) × Session ring × List Event) := do
  let ring ← Mapping.of? ((← create entries start).layout base)
  .ok ⟨ring, Session.begin (.fresh ring start)⟩

end Simulated

-- Memory laid out by hand: both cursors and the first slots.
structure RawMemory where
  head : UInt32
  tail : UInt32
  slots : List Completion

-- The memory for a ring. Slots that are not given are blank; records beyond the last slot are not there.
def RawMemory.memory (raw : RawMemory) (ring : Mapping) : Memory ring :=
  fill 0 raw.slots { Memory.fresh ring raw.head with tail := raw.tail }
where
  fill (slot : Nat) : List Completion → Memory ring → Memory ring
    | [], m => m
    | c :: rest, m => fill (slot + 1) rest (if h : slot < ring.size then m.setSlot ⟨slot, h⟩ c else m)

def RawMemory.session (raw : RawMemory) (layout : Layout) :
    Except Layout.Fault ((ring : Mapping) × Session ring × List Event) := do
  let ring ← Mapping.of? layout
  .ok ⟨ring, Session.begin (raw.memory ring)⟩

end CompletionRing
