import CompletionRing.Decimal.Numeral
import CompletionRing.Limits
import CompletionRing.Text.Fields

namespace CompletionRing

-- The record of one finished operation.
structure Completion where
  -- the token of the submission
  userData : UInt64
  -- what the operation gave, or a negated error number
  result : Int32
  flags : UInt32
deriving DecidableEq, Inhabited

namespace Completion

def blank : Completion := ⟨0, 0, 0⟩

def isError (c : Completion) : Bool :=
  c.result < 0

-- The error number. The least result has no negation and stays as it is.
def errorNumber (c : Completion) : Option Int32 :=
  if c.isError then some (-c.result) else none

def outcome (c : Completion) : Except Int32 UInt32 :=
  match c.errorNumber with
  | some number => .error number
  | none => .ok c.result.toUInt32

def hasFlag (c : Completion) (flag : UInt32) : Bool :=
  c.flags &&& flag != 0

def hasMore (c : Completion) : Bool :=
  c.hasFlag Limits.moreFlag

def hasBuffer (c : Completion) : Bool :=
  c.hasFlag Limits.bufferFlag

def socketNonempty (c : Completion) : Bool :=
  c.hasFlag Limits.socketFlag

def isNotification (c : Completion) : Bool :=
  c.hasFlag Limits.notificationFlag

def bufferId (c : Completion) : Option UInt16 :=
  if c.hasBuffer then some (c.flags >>> Limits.bufferShift).toUInt16 else none

def text (c : Completion) : String :=
  "(res=" ++ Decimal.text c.result.toInt ++ ", flags=" ++ Decimal.text c.flags.toNat ++
    ", udata=" ++ Decimal.text c.userData.toNat ++ ")"

-- The record with the names of its fields, as it is decoded.
def fieldText (c : Completion) : String :=
  Text.fields "Completion" [("user_data", Decimal.text c.userData.toNat),
    ("result", Decimal.text c.result.toInt), ("flags", Decimal.text c.flags.toNat)]

-- The record with the names of its fields, as it lies in the ring.
def entryText (c : Completion) : String :=
  Text.fields "Cqe" [("user_data", Decimal.text c.userData.toNat),
    ("res", Decimal.text c.result.toInt), ("flags", Decimal.text c.flags.toNat)]

end Completion

-- Records whose three numbers each go up by a fixed step.
structure Progression where
  count : Nat
  first : Completion
  userDataStep : UInt64
  resultStep : Int32
  flagsStep : UInt32

-- The record at a position. Every number wraps at its own width.
def Progression.record (p : Progression) (i : Nat) : Completion where
  userData := p.first.userData + p.userDataStep * .ofNat i
  result := p.first.result + p.resultStep * .ofNat i
  flags := p.first.flags + p.flagsStep * .ofNat i

end CompletionRing
