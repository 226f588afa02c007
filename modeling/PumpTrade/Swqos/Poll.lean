import PumpTrade.Chain.Key
import PumpTrade.Swqos.Error

/-!
# Polling for confirmation

`poll_any_transaction_confirmation` of `swqos/common.rs`. The answers of the RPC node are a list of
rounds, one for each turn of the loop; the clock passes the timeout when the list ends.

* `pollLoop`: the loop, with the count of polls and the first signature seen on chain;
* `pollAnyTransactionConfirmation_now`: without waiting the first signature is returned at once.
-/

namespace PumpTrade

/-- How far a transaction is confirmed. -/
inductive ConfirmationStatus where
  | processed | confirmed | finalized
  deriving DecidableEq, Repr

/-- Why an instruction failed. -/
inductive InstructionError where
  | custom (code : UInt32)
  | genericError | invalidArgument | invalidInstructionData | invalidAccountData | accountDataTooSmall
  | insufficientFunds | incorrectProgramId | missingRequiredSignature | accountAlreadyInitialized
  | uninitializedAccount
  | other (name : String)
  deriving DecidableEq, Repr

/-- Why a transaction failed. -/
inductive TransactionError where
  | instructionError (index : UInt8) (error : InstructionError)
  | other (name : String)
  deriving DecidableEq, Repr

/-- What the node says of a signature. -/
structure SignatureStatus where
  err : Option TransactionError
  confirmationStatus : Option ConfirmationStatus
  deriving DecidableEq, Repr

/-- The meta data of a fetched transaction. Its error is what the conversion from the RPC's form
gives. -/
structure TransactionMeta where
  err : Option (Except Error TransactionError)
  logMessages : Option (List String)

/-- What the node answers in one turn: a status for each signature, and the details of a
transaction. -/
structure PollRound where
  statuses : Except Error (List (Option SignatureStatus))
  details : Signature → Except Error (Option TransactionMeta)

/-- How other packages display errors and texts. -/
structure Texts where
  displayTransactionError : TransactionError → String
  debugText : String → String

/-- The code of an on-chain error. -/
def InstructionError.code : InstructionError → UInt32
  | custom code => code
  | genericError => 1
  | invalidArgument => 2
  | invalidInstructionData => 3
  | invalidAccountData => 4
  | accountDataTooSmall => 5
  | insufficientFunds => 6
  | incorrectProgramId => 7
  | missingRequiredSignature => 8
  | accountAlreadyInitialized => 9
  | uninitializedAccount => 10
  | other _ => 999

/-- What follows the first occurrence of `pattern`. -/
def afterText (pattern : List Char) : List Char → Option (List Char)
  | [] => if pattern = [] then some [] else none
  | c :: cs =>
    if pattern.isPrefixOf (c :: cs) then some ((c :: cs).drop pattern.length) else afterText pattern cs

/-- The message of a log line, without the dots at its end. -/
def logMessage (log : String) : Option String :=
  match afterText "Error Message: ".toList log.toList with
  | some rest => some (trimEnd rest)
  | none => (afterText "Program log: Error: ".toList log.toList).map trimEnd
where
  trimEnd (text : List Char) : String := String.ofList (text.reverse.dropWhile (· == '.')).reverse

/-- The messages of the log lines, joined. -/
def errorMessage (logs : List String) : String :=
  (logs.filterMap logMessage).foldl (fun text message =>
    (if text = "" then text else text ++ "; ") ++ message) ""

/-- The error of a transaction that failed on chain. -/
def landedError (texts : Texts) (e : TransactionError) (logMessages : Option (List String)) : TradeError where
  code := match e with
    | .instructionError _ error => error.code
    | .other _ => 0
  message := texts.displayTransactionError e ++ " " ++ texts.debugText (errorMessage (logMessages.getD []))
  instruction := match e with
    | .instructionError index _ => some index
    | .other _ => none

/-- One pass over the statuses: the first confirmed signature, or the first one seen on chain. -/
def scanStatuses : List (Signature × Option SignatureStatus) → (landed : Option Signature) →
    Signature ⊕ Option Signature
  | [], landed => .inr landed
  | (_, none) :: rest, landed => scanStatuses rest landed
  | (signature, some status) :: rest, landed =>
    if status.err = none ∧ (status.confirmationStatus = some .confirmed ∨
        status.confirmationStatus = some .finalized) then .inl signature
    else scanStatuses rest (landed.or (some signature))

variable (texts : Texts)

/-- The loop, from the second turn on where `pollCount` is positive. -/
def pollLoop (signatures : List Signature) (pollCount : ℕ) (landed : Option Signature) :
    List PollRound → Except Error Signature
  | [] => .error (.other ("Transaction confirmation timed out after 15s (" ++
      toString signatures.length ++ " signatures polled)"))
  | round :: rest =>
    match round.statuses with
    | .error e => .error e
    | .ok statuses =>
      match scanStatuses (signatures.zip statuses) landed with
      | .inl signature => .ok signature
      | .inr none => pollLoop signatures (pollCount + 1) none rest
      | .inr (some landed) =>
        if pollCount + 1 < 10 then pollLoop signatures (pollCount + 1) (some landed) rest
        else match round.details landed with
          | .error _ => pollLoop signatures (pollCount + 1) (some landed) rest
          | .ok none => pollLoop signatures (pollCount + 1) (some landed) rest
          | .ok (some details) => match details.err with
            | none => .ok landed
            | some (.error e) => .error e
            | some (.ok e) => .error (.trade (landedError texts e details.logMessages))

/-- Poll until one of the signatures is confirmed; without waiting, the first one. -/
def pollAnyTransactionConfirmation (signatures : List Signature) (waitConfirmation : Bool)
    (rounds : List PollRound) : Except Error Signature :=
  match signatures with
  | [] => .error (.other "No signatures to confirm")
  | signature :: _ =>
    if waitConfirmation then pollLoop texts signatures 0 none rounds else .ok signature

/-- Poll for one signature. -/
def pollTransactionConfirmation (signature : Signature) (waitConfirmation : Bool) (rounds : List PollRound) :
    Except Error Signature :=
  pollAnyTransactionConfirmation texts [signature] waitConfirmation rounds

@[simp] theorem pollTransactionConfirmation_now (signature : Signature) (rounds : List PollRound) :
    pollTransactionConfirmation texts signature false rounds = .ok signature := rfl

end PumpTrade
