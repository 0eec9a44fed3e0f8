import CompletionRing.Demo.Feed
import CompletionRing.Demo.Tally
import CompletionRing.Simulated

namespace CompletionRing

-- What a draining loop does next, step by step as a producer may see it.
inductive Drainer.Phase where
  -- looks whether anything is pending
  | poll
  -- loads the tail, which the batch will not pass
  | load
  -- reads one more record
  | read (tail : UInt32)
  -- publishes its head
  | release
  -- asks whether the total has arrived
  | settle
  | finished
deriving DecidableEq

structure Drainer where
  total : Nat
  tally : Tally
  batch : Nat
  phase : Drainer.Phase
deriving DecidableEq

namespace Drainer

variable {ring : Mapping}

def start (total limit : Nat) : Drainer :=
  ⟨total, .start limit, 0, .poll⟩

def step (d : Drainer) (q : Queue ring) (m : Memory ring) : Drainer × Queue ring × Memory ring :=
  match d.phase with
  | .poll =>
      if q.hasCompletions m then ({ d with tally := d.tally.newBatch, phase := .load }, q, m)
      else ({ d with phase := .settle }, q, m)
  | .load => ({ d with phase := .read m.tail }, q, m)
  | .read tail =>
      if q.head = tail then ({ d with phase := .release }, q, m)
      else
        let tally := d.tally.count (m.read q.head)
        let phase := if tally.wantsMore then .read tail else .release
        ({ d with tally, phase }, q.advance, m)
  | .release => ({ d with batch := d.batch + 1, phase := .poll }, q, { m with head := q.head })
  | .settle =>
      ({ d with phase := if d.total ≤ d.tally.received then .finished else .poll }, q, m)
  | .finished => (d, q, m)

end Drainer

-- A producing loop and a draining loop at the two ends of one ring.
structure Pipeline (ring : Mapping) where
  halves : Halves ring
  feed : Feed
  drainer : Drainer

-- The two sides take their steps in any order.
inductive Turn where
  | feed
  | drain
deriving DecidableEq

namespace Pipeline

variable {ring : Mapping}

def start (halves : Halves ring) (total batch limit : Nat) : Pipeline ring :=
  ⟨halves, .start total batch, .start total limit⟩

def step (pipeline : Pipeline ring) (turn : Turn) : Pipeline ring :=
  let ⟨⟨m, p, q⟩, feed, drainer⟩ := pipeline
  match turn with
  | .feed =>
      let (feed, p, m) := feed.step q.closed p m
      ⟨⟨m, p, q⟩, feed, drainer⟩
  | .drain =>
      let (drainer, q, m) := drainer.step q m
      ⟨⟨m, p, q⟩, feed, drainer⟩

def run (pipeline : Pipeline ring) (turns : List Turn) : Pipeline ring :=
  turns.foldl step pipeline

def isFinished (pipeline : Pipeline ring) : Bool :=
  pipeline.feed.phase = .finished && pipeline.drainer.phase = .finished

def alternate : Nat → Pipeline ring → Pipeline ring
  | 0, pipeline => pipeline
  | left + 1, pipeline =>
      if pipeline.isFinished then pipeline else alternate left ((pipeline.step .feed).step .drain)

-- A run in which the two sides take turns. Among any few turns of each there is a push or a read, until
-- all records have gone through.
def finish (pipeline : Pipeline ring) : Pipeline ring :=
  alternate (32 * pipeline.feed.total + 64) pipeline

end Pipeline

inductive Production.Mode where
  -- alone, until it finishes
  | alone
  -- until the ring is full; then the queue is closed
  | closeWhenFull
  -- against a draining loop whose batches have a limit
  | pump (limit : Nat)

structure Production where
  total : Nat
  batch : Nat
  -- records that are posted before
  before : List Completion
  closed : Bool
  mode : Production.Mode

inductive Production.Report where
  | pending (snapshot : List Completion) (count : UInt32) (events : List Event)
  | pumped (tally : Tally) (head count : UInt32) (events : List Event)

namespace Production

variable {ring : Mapping}

def postAll : List Completion → Producer ring → Memory ring → Producer ring × Memory ring
  | [], p, m => (p, m)
  | c :: rest, p, m =>
      match p.post m c with
      | .ok (p, m) => postAll rest p m
      | .error _ => postAll rest p m

def run (production : Production) (halves : Halves ring) : Report :=
  let (p, m) := postAll production.before halves.producer halves.memory
  let q := if production.closed then halves.queue.close else halves.queue
  let feed := Feed.start production.total production.batch
  match production.mode with
  | .alone =>
      let (feed, _, m) := feed.run q.closed p m
      .pending (q.snapshot m) (q.count m) feed.events
  | .closeWhenFull =>
      let (feed, p, m) := feed.run q.closed p m
      let snapshot := q.snapshot m
      let q := q.close
      let (feed, _, m) := feed.run q.closed p m
      .pending snapshot (q.count m) feed.events
  | .pump limit =>
      let pipeline := (Pipeline.start ⟨m, p, q⟩ production.total production.batch limit).finish
      let halves := pipeline.halves
      .pumped pipeline.drainer.tally halves.queue.head (halves.queue.count halves.memory) pipeline.feed.events

end Production

end CompletionRing
