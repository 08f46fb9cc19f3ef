import LedgerEvm.Abi.Selector
import LedgerEvm.Bytes
import LedgerEvm.ResponseCode
import LedgerEvm.SemanticVersion

namespace LedgerEvm

/-!
# Errors

One type per layer, each constructor a cause, and for each type one function that
words it.  A layer's error becomes an error of the layer above by the functions
named `of…`.
-/

/-- Why a frame halts exceptionally. -/
inductive HaltReason where
  | selfDestructToSelf
  | contractIsTreasury
  | transactionRequiresZeroTokenBalances
  | contractStillOwnsNfts
  | invalidSolidityAddress
  | insufficientGas
  | invalidOperation
  | illegalStateChange
  | tooManyStackItems
  | insufficientStackItems
  | invalidJumpDestination
  | outOfBounds
  | missingEntity
  | precompileFailure (code : ResponseCode)
  deriving Repr, DecidableEq

namespace HaltReason

/-- The fixed tag of a reason. -/
def tag : HaltReason → String
  | .selfDestructToSelf => "SELF_DESTRUCT_TO_SELF"
  | .contractIsTreasury => "CONTRACT_IS_TREASURY"
  | .transactionRequiresZeroTokenBalances => "TRANSACTION_REQUIRES_ZERO_TOKEN_BALANCES"
  | .contractStillOwnsNfts => "CONTRACT_STILL_OWNS_NFTS"
  | .invalidSolidityAddress => "INVALID_SOLIDITY_ADDRESS"
  | .insufficientGas => "INSUFFICIENT_GAS"
  | .invalidOperation => "INVALID_OPERATION"
  | .illegalStateChange => "ILLEGAL_STATE_CHANGE"
  | .tooManyStackItems => "TOO_MANY_STACK_ITEMS"
  | .insufficientStackItems => "INSUFFICIENT_STACK_ITEMS"
  | .invalidJumpDestination => "INVALID_JUMP_DESTINATION"
  | .outOfBounds => "OUT_OF_BOUNDS"
  | .missingEntity => "MISSING_ENTITY"
  | .precompileFailure _ => "PRECOMPILE_FAILURE"

/-- The tag, followed by the response code of a failed token operation. -/
def text : HaltReason → String
  | .precompileFailure code => "PRECOMPILE_FAILURE(" ++ code.name ++ ")"
  | reason => reason.tag

end HaltReason

/-- Failures of reading or writing the ledger state. -/
inductive StateError where
  | missingEntity (what : String)
  | unsupported (operation : String)
  | snapshot (what : String)
  deriving Repr, DecidableEq

namespace StateError

/-- The wording of a state error. -/
def message : StateError → String
  | .missingEntity what => "missing entity: " ++ what
  | .unsupported operation => "unsupported operation: " ++ operation
  | .snapshot what => "snapshot error: " ++ what

end StateError

/-- Failures inside the virtual machine. -/
inductive VmError where
  | outOfGas
  | stackOverflow
  | stackUnderflow
  | invalidOpcode (byte : UInt8)
  | invalidJump (target : Nat)
  | codeSizeExceeded (size max : Nat)
  | initCodeSizeExceeded (size max : Nat)
  | writeInStaticContext
  | insufficientBalance (required available : Word)
  | state (error : StateError)
  | revert (reason : String)
  | halt (reason : HaltReason)
  | memoryLimitExceeded (requested max : Nat)
  | returnDataOutOfBounds (offset size available : Nat)
  | invalidCodePrefix
  | cancelled
  | timeout (elapsed max : UInt64)
  | gasLimitExceeded (requested max : UInt64)
  | internal (what : String)
  deriving Repr, DecidableEq

namespace VmError

/-- The wording of a machine error. -/
def message : VmError → String
  | .outOfGas => "out of gas"
  | .stackOverflow => "stack overflow"
  | .stackUnderflow => "stack underflow"
  | .invalidOpcode byte => "invalid opcode: 0x" ++ Bytes.upperHex byte
  | .invalidJump target => "invalid jump destination: " ++ toString target
  | .codeSizeExceeded size max =>
      "code size exceeded: " ++ toString size ++ " > " ++ toString max ++ " bytes"
  | .initCodeSizeExceeded size max =>
      "init code size exceeded: " ++ toString size ++ " > " ++ toString max ++ " bytes"
  | .writeInStaticContext => "write operation in static context"
  | .insufficientBalance required available =>
      "insufficient balance: required " ++ toString required.toNat ++ ", available " ++
        toString available.toNat
  | .state error => "state error: " ++ error.message
  | .revert reason => "revert: " ++ reason
  | .halt reason => "halt: " ++ reason.text
  | .memoryLimitExceeded requested max =>
      "memory limit exceeded: " ++ toString requested ++ " > " ++ toString max ++ " bytes"
  | .returnDataOutOfBounds offset size available =>
      "return data out of bounds: offset " ++ toString offset ++ ", size " ++ toString size ++
        ", available " ++ toString available
  | .invalidCodePrefix => "code starts with 0xEF byte (reserved for EOF)"
  | .cancelled => "execution cancelled"
  | .timeout elapsed max =>
      "execution timeout: " ++ toString elapsed.toNat ++ "ms > " ++ toString max.toNat ++ "ms"
  | .gasLimitExceeded requested max =>
      "gas limit " ++ toString requested.toNat ++ " exceeds maximum " ++ toString max.toNat
  | .internal what => "internal error: " ++ what

/-- Whether the caller of a failing frame may go on as after a revert. -/
def isRecoverable : VmError → Bool
  | .revert _ => true
  | _ => false

/-- Whether a frame that fails this way loses its remaining gas. -/
def consumesAllGas : VmError → Bool
  | .revert _ => false
  | .halt (.precompileFailure _) => false
  | _ => true

/-- Whether the failure ends the whole transaction and not only a frame. -/
def isAbort : VmError → Bool
  | .cancelled => true
  | .timeout _ _ => true
  | .internal _ => true
  | .state (.snapshot _) => true
  | .state (.unsupported _) => true
  | _ => false

/-- The reason a frame halts with, for failures that halt one. -/
def haltReason? : VmError → Option HaltReason
  | .outOfGas => some .insufficientGas
  | .stackOverflow => some .tooManyStackItems
  | .stackUnderflow => some .insufficientStackItems
  | .invalidOpcode _ => some .invalidOperation
  | .invalidCodePrefix => some .invalidOperation
  | .invalidJump _ => some .invalidJumpDestination
  | .codeSizeExceeded _ _ => some .outOfBounds
  | .initCodeSizeExceeded _ _ => some .outOfBounds
  | .memoryLimitExceeded _ _ => some .outOfBounds
  | .returnDataOutOfBounds _ _ _ => some .outOfBounds
  | .writeInStaticContext => some .illegalStateChange
  | .state (.missingEntity _) => some .missingEntity
  | .halt reason => some reason
  | _ => none

/-- A failure that ends the whole transaction gives no frame a reason to halt. -/
theorem haltReason?_eq_none_of_isAbort
    {error : VmError}
    (abort : error.isAbort = true) :
    error.haltReason? = none := by
  cases error with
  | cancelled | timeout | internal =>
      rfl
  | state cause =>
      cases cause with
      | missingEntity => cases abort
      | unsupported | snapshot => rfl
  | _ =>
      cases abort

end VmError

/-- Failures of a system contract. -/
inductive PrecompileError where
  | decode (what : String)
  | unsupportedSelector (selector : Selector)
  | failed (code : ResponseCode)
  | missingEntity (what : String)
  | invalidInput (what : String)
  | outOfGas
  | staticStateChange
  | state (error : StateError)
  deriving Repr, DecidableEq

namespace PrecompileError

/-- The wording of a system contract's error. -/
def message : PrecompileError → String
  | .decode what => "failed to decode precompile input: " ++ what
  | .unsupportedSelector selector =>
      "unsupported operation: selector " ++ selector.toBytes.toHex
  | .failed code => "precompile failed: " ++ code.name
  | .missingEntity what => "missing entity: " ++ what
  | .invalidInput what => "invalid input: " ++ what
  | .outOfGas => "precompile out of gas"
  | .staticStateChange => "state change in static context"
  | .state error => error.message

/-- A missing entity is a cause of its own here. -/
def ofState : StateError → PrecompileError
  | .missingEntity what => .missingEntity what
  | error => .state error

end PrecompileError

namespace VmError

/-- A failed lookup of a system contract stays one; a malformed call reverts. -/
def ofPrecompile : PrecompileError → VmError
  | .outOfGas => .outOfGas
  | .staticStateChange => .halt .illegalStateChange
  | .failed code => .halt (.precompileFailure code)
  | .missingEntity what => .state (.missingEntity what)
  | .state error => .state error
  | error => .revert error.message

end VmError

/-- Failures of finding a price. -/
inductive PricingError where
  | missingFeeSchedule (function : String) (seconds : Int64)
  | missingExchangeRate (seconds : Int64)
  | invalidExchangeRate (hbarEquiv centEquiv : Int32)
  | unknownFunction (kind : String)
  | state (error : StateError)
  deriving Repr, DecidableEq

namespace PricingError

/-- The wording of a pricing error. -/
def message : PricingError → String
  | .missingFeeSchedule function seconds =>
      "no fee schedule for " ++ function ++ " at " ++ toString seconds.toInt ++ "s"
  | .missingExchangeRate seconds =>
      "no exchange rate at " ++ toString seconds.toInt ++ "s"
  | .invalidExchangeRate hbarEquiv centEquiv =>
      "invalid exchange rate: " ++ toString hbarEquiv.toInt ++ "/" ++ toString centEquiv.toInt
  | .unknownFunction kind => "unknown transaction kind: " ++ kind
  | .state error => "state lookup failed: " ++ error.message

end PricingError

namespace VmError

/-- Inside the machine a missing price is not the program's fault. -/
def ofPricing (error : PricingError) : VmError :=
  .internal error.message

end VmError

namespace PrecompileError

/-- A failed lookup stays one; any other pricing error makes the input invalid. -/
def ofPricing : PricingError → PrecompileError
  | .state error => ofState error
  | error => .invalidInput error.message

end PrecompileError

/-- Failures of reading a configuration. -/
inductive ConfigError where
  | emptyVersionTable
  | unorderedVersionTable (version : SemanticVersion)
  | unknownVersion (version : SemanticVersion)
  | invalidValue (key value : String)
  deriving Repr, DecidableEq

namespace ConfigError

/-- The wording of a configuration error. -/
def message : ConfigError → String
  | .emptyVersionTable => "version table is empty"
  | .unorderedVersionTable version => "version table not ordered at " ++ version.text
  | .unknownVersion version => "unregistered protocol version: " ++ version.text
  | .invalidValue key value => "invalid value for " ++ key ++ ": " ++ value

end ConfigError

end LedgerEvm
