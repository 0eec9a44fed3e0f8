import CompletionRing.Config.Environment
import CompletionRing.Demo.DrainLoop
import CompletionRing.Demo.Pipeline
import CompletionRing.Log.Filter

namespace CompletionRing.CommandLine

inductive Failure where
  | config (fault : Config.Fault)
  | layout (fault : Layout.Fault)
  | splitDirective
  | zeroPeriod
  | outOfOrder (count : Nat)
deriving DecidableEq

-- A crash is told below an empty line.
def Failure.text : Failure → String
  | .config fault => "Error: " ++ fault.error.fieldText
  | .layout fault => "Error: " ++ fault.error.fieldText
  | .splitDirective => "\na log directive has a part that splits a character"
  | .zeroPeriod => "\n" ++ ZeroPeriod.message {}
  | .outOfOrder count =>
      "Error: " ++ Text.quoted (Decimal.text count ++ " completions arrived out of order")

-- A directive that cannot be cut and a clock that cannot tick crash the demo. All else is an error of
-- its user. The code is seen only where the demo comes to its end.
def Failure.exitCode : Failure → Nat
  | .splitDirective => 101
  | .zeroPeriod => 101
  | _ => 1

structure Report where
  -- whether the log is written as documents
  json : Bool
  events : List Event
  failure : Option Failure

def logVariable : String := "RUST_LOG"
def formatVariable : String := "URING_TRACE_JSON"

-- The filter that the environment asks for. A text that cannot be read asks for none.
def filter (env : Environment) : Except Failure Filter :=
  match (env.text? logVariable).map Filter.ofText with
  | some (.ok f) => .ok f
  | some (.error .splitCharacter) => .error .splitDirective
  | _ => .ok .standard

def wantsJson (env : Environment) : Bool :=
  env.text? formatVariable = some "1" || env.text? formatVariable = some "true"

def verdict (t : Tally) : Option Failure :=
  if 0 < t.outOfOrder then some (.outOfOrder t.outOfOrder) else none

-- Puts all records of a configuration through a ring of its size.
def pump (c : Config) : List Event × Option Failure :=
  match Simulated.ofConfig c with
  | .error fault => ([], some (.layout fault))
  | .ok simulated =>
      match simulated.split Simulated.placement with
      | .error fault => ([simulated.createEvent], some (.layout fault))
      | .ok ⟨_, halves⟩ =>
          let begun := [simulated.createEvent, halves.queue.attachEvent]
          if c.pollInterval = 0 then (begun, some .zeroPeriod)
          else
            let pipeline :=
              (Pipeline.start halves c.total.toNat c.producerBatch.toNat c.batchLimit.toNat).finish
            let ⟨m, _, q⟩ := pipeline.halves
            let tally := pipeline.drainer.tally
            (begun ++ pipeline.feed.events ++ [.drained (q.text m)] ++ q.closeEvents ++
              [.finished tally.received tally.failures tally.outOfOrder], verdict tally)

def work (env : Environment) : List Event × Option Failure :=
  let initialized := Event.initialized (wantsJson env)
  match Config.ofEnvironment env with
  | .error fault => ([initialized], some (.config fault))
  | .ok c =>
      let (events, failure) := pump c
      (initialized :: .starting c.entries c.batchLimit c.total :: events, failure)

-- The demo run in an environment. Nothing is done without a filter.
def run (env : Environment) : Report :=
  match filter env with
  | .error failure => ⟨wantsJson env, [], some failure⟩
  | .ok f =>
      let (events, failure) := work env
      ⟨wantsJson env, events.filter f.passes, failure⟩

def Report.exitCode (r : Report) : Nat :=
  (r.failure.map Failure.exitCode).getD 0

-- Whether the demo comes to its end. A clock that cannot tick stops the draining side alone, and the other side is
-- waited for. That one is left with slots that nobody frees, for no environment asks for fewer records than the
-- largest ring has slots.
def Report.ends (r : Report) : Bool :=
  r.failure ≠ some .zeroPeriod

end CompletionRing.CommandLine
