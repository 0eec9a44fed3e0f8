import CompletionRing.Log
import CompletionRing.Producer

namespace CompletionRing

-- The demo posts records with the tokens 0, 1, 2 and so on. Every seventh has failed for want of
-- resources, the others have moved 512 bytes.
def demoRecord (n : Nat) : Completion :=
  ⟨.ofNat n, if n % 7 = 6 then -11 else 512, 0⟩

inductive Feed.Phase where
  -- asks whether records are left and the queue is open
  | check
  -- pushes one more record of a batch
  | fill (pushed : Nat)
  | publish
  | finished
deriving DecidableEq

-- A loop that pushes records in batches and publishes after each. A record that found the ring full is
-- tried again in the next batch.
structure Feed where
  total : Nat
  batch : Nat
  -- the records pushed so far, and so the token of the next one
  next : Nat
  phase : Feed.Phase
deriving DecidableEq

namespace Feed

variable {ring : Mapping}

def start (total batch : Nat) : Feed :=
  ⟨total, batch, 0, .check⟩

def step (f : Feed) (closed : Bool) (p : Producer ring) (m : Memory ring) :
    Feed × Producer ring × Memory ring :=
  match f.phase with
  | .check =>
      if f.next < f.total && !closed then ({ f with phase := .fill 0 }, p, m)
      else ({ f with phase := .finished }, p, m)
  | .fill pushed =>
      if pushed < f.batch && f.next < f.total then
        match p.push m (demoRecord f.next) with
        | .ok (p, m) => ({ f with next := f.next + 1, phase := .fill (pushed + 1) }, p, m)
        | .error _ => ({ f with phase := .publish }, p, m)
      else ({ f with phase := .publish }, p, m)
  | .publish => ({ f with phase := .check }, p, p.publish m)
  | .finished => (f, p, m)

-- Whether the loop would only turn in place: all is published, records are left, and none fits.
def isBlocked (f : Feed) (closed : Bool) (p : Producer ring) (m : Memory ring) : Bool :=
  f.phase = .check && f.next < f.total && !closed && (f.batch = 0 || p.available m = 0)

def runSteps (closed : Bool) : Nat → Feed → Producer ring → Memory ring → Feed × Producer ring × Memory ring
  | 0, f, p, m => (f, p, m)
  | left + 1, f, p, m =>
      if f.phase = .finished || f.isBlocked closed p m then (f, p, m)
      else
        let (f, p, m) := f.step closed p m
        runSteps closed left f p m

-- Runs the loop alone until it finishes or is blocked. A batch costs three steps and one for each of its
-- records, and every batch before the last pushes one at least.
def run (f : Feed) (closed : Bool) (p : Producer ring) (m : Memory ring) : Feed × Producer ring × Memory ring :=
  runSteps closed (4 * (f.total - f.next) + 8) f p m

def events (f : Feed) : List Event :=
  if f.phase = .finished then [.producerFinished f.next] else []

end Feed

end CompletionRing
