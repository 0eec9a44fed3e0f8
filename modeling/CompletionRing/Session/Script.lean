import CompletionRing.Session.Course

namespace CompletionRing

inductive Rule.Effect (α : Type) where
  | stop
  | fail (message : String)
  | panic (message : String)
  | act (action : α)

-- A rule applies to the records of one token.
structure Rule (α : Type) where
  userData : UInt64
  effect : Rule.Effect α

structure Script (α : Type) where
  -- how many records it wants
  stopAfter : Option Nat
  stopOnError : Bool
  -- whether it looks at the ring before each record
  observe : Bool
  rules : List (Rule α)

namespace Script

variable {α : Type}

-- The rules in their order. A failure or a panic ends them at once; a handler that cannot fail
-- stops instead.
def follow (canFail : Bool) (goOn : Bool) : List (Rule α) → Course α
  | [] => .answer (if goOn then .proceed else .stop)
  | rule :: rules =>
      match rule.effect with
      | .stop => follow canFail false rules
      | .fail message => .answer (if canFail then .fail message else .stop)
      | .panic message => .answer (.panic message)
      | .act action => .act action fun _ => follow canFail goOn rules

-- Whether a script wants more after a record, by its limits alone.
def wantsMore (s : Script α) (seen : Nat) (c : Completion) : Bool :=
  (match s.stopAfter with
    | some limit => seen < limit
    | none => true) && !(s.stopOnError && c.isError)

def conduct (s : Script α) (canFail : Bool) : Conduct α := fun trace c =>
  let rules := s.rules.filter fun rule => rule.userData = c.userData
  let course := follow canFail (s.wantsMore (trace.seen.size + 1) c) rules
  if s.observe then .look fun _ => course else course

end Script

end CompletionRing
