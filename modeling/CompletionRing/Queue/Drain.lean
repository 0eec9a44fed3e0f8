import CompletionRing.Queue

namespace CompletionRing

inductive Verdict (ε : Type) where
  | proceed
  | stop
  | fail (error : ε)
  | panic (message : String)

-- A handler is called with each record, the memory as it then stands and its own state. It may change
-- both.
abbrev Handler (ring : Mapping) (σ ε : Type) :=
  Completion → Memory ring → σ → Verdict ε × Memory ring × σ

-- How a drain ended: at the tail it had loaded, or with a handler that wanted no more while some
-- records remained.
inductive Ending (ε : Type) where
  | emptied
  | stopped (remaining : Nat)
  | failed (error : ε)
  | panicked (message : String)

structure Drained (ring : Mapping) (σ ε : Type) where
  queue : Queue ring
  memory : Memory ring
  state : σ
  -- the number of records handed out, the last one included
  processed : Nat
  ending : Ending ε

def Drained.events {ring : Mapping} {σ ε : Type} (d : Drained ring σ ε) : List Event :=
  match d.ending with
  | .stopped remaining => [.batchStopped d.processed remaining]
  | _ => []

namespace Queue

variable {ring : Mapping} {σ ε : Type}

def advance (q : Queue ring) : Queue ring :=
  { q with head := q.head + 1 }

-- However a drain ends, the head it has come to is published.
def release (q : Queue ring) (m : Memory ring) (state : σ) (processed : Nat) (ending : Ending ε) :
    Drained ring σ ε :=
  ⟨q, { m with head := q.head }, state, processed, ending⟩

-- Hands out the records that are left. A record is read and passed before its handler is called.
def drainLoop (h : Handler ring σ ε) :
    (left processed : Nat) → Queue ring → Memory ring → σ → Drained ring σ ε
  | 0, processed, q, m, state => q.release m state processed .emptied
  | left + 1, processed, q, m, state =>
      match h (m.read q.head) m state with
      | (.proceed, m, state) => drainLoop h left (processed + 1) q.advance m state
      | (.stop, m, state) => q.advance.release m state (processed + 1) (.stopped left)
      | (.fail error, m, state) => q.advance.release m state (processed + 1) (.failed error)
      | (.panic message, m, state) => q.advance.release m state (processed + 1) (.panicked message)

-- Hands the records that are published now to a handler, in order. Those published meanwhile wait for
-- the next drain. The distance to the tail is taken as it is, even if it is longer than the ring.
def drain (q : Queue ring) (h : Handler ring σ ε) (m : Memory ring) (state : σ) : Drained ring σ ε :=
  if q.closed then ⟨q, m, state, 0, .emptied⟩
  else drainLoop h (m.tail - q.head).toNat 0 q m state

def collect (max : Nat) : Handler ring (Array Completion) Empty := fun c m kept =>
  let kept := kept.push c
  (if kept.size < max then .proceed else .stop, m, kept)

-- Takes records out, in order and not more than a limit. A limit of zero leaves all as it is.
def reap (q : Queue ring) (max : Nat) (m : Memory ring) : Drained ring (Array Completion) Empty :=
  if max = 0 then ⟨q, m, #[], 0, .emptied⟩ else q.drain (collect max) m #[]

end Queue

def Handler.recording {ring : Mapping} {σ ε : Type} (h : Handler ring σ ε) :
    Handler ring (σ × Array Completion) ε := fun c m state =>
  let (verdict, m, inner) := h c m state.1
  (verdict, m, inner, state.2.push c)

end CompletionRing
