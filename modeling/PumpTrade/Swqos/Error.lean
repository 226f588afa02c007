import Mathlib.Data.List.Infix
import PumpTrade.Base.Outcome

/-!
# Errors

`TradeError` of `swqos/common.rs`, and the errors that pass through the trading code: a
`TradeError`, or any other error, known by its text.
-/

namespace PumpTrade

/-- A trade or on-chain error with its code and the index of its instruction. -/
structure TradeError where
  code : UInt32
  message : String
  instruction : Option UInt8
  deriving DecidableEq, Repr

/-- An error: one that downcasts to `TradeError`, or another with its text. -/
inductive Error where
  | trade (e : TradeError)
  | other (message : String)
  deriving DecidableEq, Repr

/-- The text an error is displayed as. -/
def Error.toText : Error → String
  | trade e => e.message
  | other message => message

/-- `text` contains `part`. -/
def containsText (text part : String) : Bool := decide (part.toList <:+: text.toList)

/-- The conversion of any error into a `TradeError`. -/
def TradeError.ofError : Error → TradeError
  | .trade e => e
  | .other message => { code := 500, message, instruction := none }

end PumpTrade
