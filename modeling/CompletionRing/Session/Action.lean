import CompletionRing.Producer

namespace CompletionRing

inductive Outcome where
  | done
  | refused (overflow : Overflow)
  | pushed (count : Nat) (overflow : Option Overflow)
deriving DecidableEq

-- Ways to act on the far side of a ring, from the consumer's point of view.
class Actor (α : Type) where
  perform {ring : Mapping} : α → Producer ring → Memory ring → Outcome × Producer ring × Memory ring

inductive Feeding where
  | push (c : Completion)
  | post (c : Completion)
  | publish
  | pushAll (records : Progression)

def Feeding.perform {ring : Mapping} (feeding : Feeding) (p : Producer ring) (m : Memory ring) :
    Outcome × Producer ring × Memory ring :=
  match feeding with
  | .push c =>
      match p.push m c with
      | .ok (p, m) => (.done, p, m)
      | .error overflow => (.refused overflow, p, m)
  | .post c =>
      match p.post m c with
      | .ok (p, m) => (.done, p, m)
      | .error overflow => (.refused overflow, p, m)
  | .publish => (.done, p, p.publish m)
  | .pushAll records =>
      let (count, overflow, p, m) := p.pushAll m records.count records.record
      (.pushed count overflow, p, m)

instance : Actor Feeding := ⟨Feeding.perform⟩

-- What anyone can do who may write to the memory. There is nothing beyond the last slot.
inductive Tampering where
  | setHead (value : UInt32)
  | setTail (value : UInt32)
  | writeSlot (slot : Nat) (c : Completion)

def Tampering.perform {ring : Mapping} (tampering : Tampering) (p : Producer ring) (m : Memory ring) :
    Outcome × Producer ring × Memory ring :=
  match tampering with
  | .setHead value => (.done, p, { m with head := value })
  | .setTail value => (.done, p, { m with tail := value })
  | .writeSlot slot c => (.done, p, if h : slot < ring.size then m.setSlot ⟨slot, h⟩ c else m)

instance : Actor Tampering := ⟨Tampering.perform⟩

end CompletionRing
