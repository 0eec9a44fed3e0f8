import CompletionRing.Decimal.Numeral

namespace CompletionRing

-- How much an event matters; the later the less.
inductive Level where
  | error
  | warn
  | info
  | debug
  | trace
deriving DecidableEq

def Level.name : Level → String
  | .error => "ERROR"
  | .warn => "WARN"
  | .info => "INFO"
  | .debug => "DEBUG"
  | .trace => "TRACE"

-- What is told about the work of a ring.
inductive Event where
  | ringCreated (entries start : UInt32) (size : Nat)
  | queueAttached (fd : Int32) (entries head : UInt32)
  | queueClosed (fd : Int32) (head : UInt32)
  | batchStopped (processed remaining : Nat)
  | drainFinished (batch processed : Nat)
  | producerFinished (published : Nat)
  | initialized (json : Bool)
  | starting (entries : UInt32) (batchLimit total : UInt64)
  | drained (queue : String)
  | finished (received failures outOfOrder : Nat)
deriving DecidableEq

namespace Event

inductive Field where
  | number (value : Int)
  | truth (value : Bool)
  | text (value : String)
deriving DecidableEq

def level : Event → Level
  | .ringCreated .. => .debug
  | .queueAttached .. => .debug
  | .queueClosed .. => .debug
  | .batchStopped .. => .trace
  | .drainFinished .. => .debug
  | .producerFinished .. => .info
  | .initialized .. => .info
  | .starting .. => .info
  | .drained .. => .debug
  | .finished .. => .info

def message : Event → String
  | .ringCreated .. => "Simulated completion ring created"
  | .queueAttached .. => "Completion queue attached"
  | .queueClosed .. => "Completion queue closed"
  | .batchStopped .. => "Completion batch stopped early"
  | .drainFinished .. => "completion drain finished"
  | .producerFinished .. => "producer finished"
  | .initialized .. => "Structured tracing initialized"
  | .starting .. => "Completion drain starting"
  | .drained .. => "final ring state"
  | .finished .. => "Completion drain finished"

def fields : Event → List (String × Field)
  | .ringCreated entries start size =>
      [("entries", .number entries.toNat), ("start", .number start.toNat), ("size", .number size)]
  | .queueAttached fd entries head =>
      [("ring_fd", .number fd.toInt), ("entries", .number entries.toNat), ("head", .number head.toNat)]
  | .queueClosed fd head => [("ring_fd", .number fd.toInt), ("head", .number head.toNat)]
  | .batchStopped processed remaining =>
      [("processed", .number processed), ("remaining", .number remaining)]
  | .drainFinished batch processed => [("batch", .number batch), ("processed", .number processed)]
  | .producerFinished published => [("published", .number published)]
  | .initialized json => [("json", .truth json)]
  | .starting entries batchLimit total =>
      [("cq_entries", .number entries.toNat), ("batch_limit", .number batchLimit.toNat),
        ("total", .number total.toNat)]
  | .drained queue => [("queue", .text queue)]
  | .finished received failures outOfOrder =>
      [("received", .number received), ("failures", .number failures), ("out_of_order", .number outOfOrder)]

end Event

end CompletionRing
