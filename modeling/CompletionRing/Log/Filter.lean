import CompletionRing.Log.Directive

namespace CompletionRing

namespace Event

-- The part of the program that an event comes from.
def source : Event → String
  | .ringCreated .. => "uring_completion::ring::simulated"
  | .queueAttached .. => "uring_completion::ring::completion"
  | .queueClosed .. => "uring_completion::ring::completion"
  | .batchStopped .. => "uring_completion::ring::completion"
  | .drainFinished .. => "uring_completion::monitoring::tracer"
  | .initialized .. => "uring_completion::monitoring::tracer"
  | .producerFinished .. => "completion_drain"
  | .starting .. => "completion_drain"
  | .drained .. => "completion_drain"
  | .finished .. => "completion_drain"

-- Fields that differ from run to run. Filters see them, `fields` leaves them out.
def variableNames : Event → List String
  | .drainFinished .. => ["duration_us"]
  | .producerFinished .. => ["overflows"]
  | .finished .. => ["batches"]
  | _ => []

-- The names of all that an event carries.
def names (e : Event) : List String :=
  "message" :: e.fields.map (·.1) ++ e.variableNames

end Event

namespace Directive

-- Whether a directive is meant for an event that happens inside no span. One that names a span or a
-- value waits for a span.
def fits (d : Directive) (event : Event) : Bool :=
  d.span = none && d.field.all (fun test => test.value = none && event.names.contains test.name) &&
    d.source.isPrefixOf event.source.toList

-- Longer sources count more, then fields more than none, then fields with later names.
def countsAtMost (d e : Directive) : Bool :=
  d.source.length < e.source.length ||
    (d.source.length = e.source.length &&
      match d.field, e.field with
      | none, _ => true
      | some _, none => false
      | some test, some other => !(other.name < test.name))

end Directive

-- A filter is made of directives. Of those that fit an event the one that counts most decides, the
-- last if there are several.
structure Filter where
  directives : List Directive
deriving DecidableEq

namespace Filter

def standard : Filter :=
  ⟨[.general (some .info)]⟩

-- Splits at commas.
def pieces : List Char → List (List Char)
  | [] => [[]]
  | c :: rest =>
      match pieces rest with
      | [] => [[c]]
      | piece :: more => if c = ',' then [] :: piece :: more else (c :: piece) :: more

-- The filter of a text. Without a directive only errors pass.
def ofText (text : String) : Except Directive.Fault Filter := do
  let read ← ((pieces text.toList).filter (· ≠ [])).mapM Directive.ofText
  .ok ⟨if read = [] then [.general (some .error)] else read⟩

def decisive (f : Filter) (event : Event) : Option Directive :=
  (f.directives.filter (·.fits event)).foldl
    (fun best d => if best.all (·.countsAtMost d) then some d else best) none

def passes (f : Filter) (event : Event) : Bool :=
  match f.decisive event with
  | some d => d.threshold.passes event.level
  | none => false

end Filter

end CompletionRing
