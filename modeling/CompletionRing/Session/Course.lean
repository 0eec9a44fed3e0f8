import CompletionRing.Queue.Drain
import CompletionRing.Session.Action

namespace CompletionRing

-- All that a handler has met in a drain so far: the records, the counts that it looked up, and what came
-- of its actions.
structure Trace where
  seen : Array Completion
  observed : Array UInt32
  acted : Array Outcome

def Trace.empty : Trace := ⟨#[], #[], #[]⟩

-- What is done about one record. A course may look through a monitor and act on the ring as often as it
-- likes, each time knowing what came of it, and then gives its verdict.
inductive Course (α : Type) where
  | answer (verdict : Verdict String)
  | look (next : UInt32 → Course α)
  | act (action : α) (next : Outcome → Course α)

def Course.run {ring : Mapping} {α : Type} [Actor α] :
    Course α → Memory ring → Producer ring → Trace → Verdict String × Memory ring × Producer ring × Trace
  | .answer verdict, m, p, trace => (verdict, m, p, trace)
  | .look next, m, p, trace =>
      let count := Sighting.count ⟨false, m.head, m.tail⟩
      (next count).run m p { trace with observed := trace.observed.push count }
  | .act action next, m, p, trace =>
      let (outcome, p, m) := Actor.perform action p m
      (next outcome).run m p { trace with acted := trace.acted.push outcome }

-- A handler by what it does about a record, given all it has met before.
abbrev Conduct (α : Type) := Trace → Completion → Course α

def Conduct.handler {ring : Mapping} {α : Type} [Actor α] (conduct : Conduct α) :
    Handler ring (Producer ring × Trace) String := fun c m state =>
  let course := conduct state.2 c
  let (verdict, m, p, trace) := course.run m state.1 { state.2 with seen := state.2.seen.push c }
  (verdict, m, p, trace)

end CompletionRing
