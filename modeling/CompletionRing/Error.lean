import CompletionRing.Decimal.Numeral
import CompletionRing.Text.Fields
import CompletionRing.Text.Quoted

namespace CompletionRing

-- What a caller is told when a ring cannot be set up, filled or configured. Draining never fails.
inductive RingError where
  | invalidLayout (detail : String)
  | overflow (pending capacity : UInt32)
  | config (detail : String)
deriving DecidableEq

namespace RingError

def message : RingError → String
  | .invalidLayout detail => "Invalid ring layout: " ++ detail
  | .overflow pending capacity =>
      "Completion ring overflow: " ++ Decimal.text pending.toNat ++ " of " ++
        Decimal.text capacity.toNat ++ " entries unconsumed"
  | .config detail => "Invalid configuration: " ++ detail

def kind : RingError → String
  | .invalidLayout _ => "InvalidLayout"
  | .overflow _ _ => "Overflow"
  | .config _ => "Config"

def fieldText : RingError → String
  | .invalidLayout detail => "InvalidLayout(" ++ Text.quoted detail ++ ")"
  | .overflow pending capacity =>
      Text.fields "Overflow" [("pending", Decimal.text pending.toNat), ("capacity", Decimal.text capacity.toNat)]
  | .config detail => "Config(" ++ Text.quoted detail ++ ")"

-- A code that stays the same when the wording changes.
def code : RingError → String
  | .invalidLayout _ => "ring::invalid_layout"
  | .overflow _ _ => "ring::overflow"
  | .config _ => "ring::config"

def help : RingError → String
  | .invalidLayout _ =>
      "Entries must be a non-zero power of two, mask must be entries - 1 and addresses must be non-null and aligned."
  | .overflow _ _ =>
      "The consumer is not draining fast enough. Call process() before posting more completions."
  | .config _ => "Check URING_* environment variables and the configuration document."

end RingError

end CompletionRing
