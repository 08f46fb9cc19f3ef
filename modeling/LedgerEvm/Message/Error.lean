import LedgerEvm.Error
import LedgerEvm.Message.Datum
import LedgerEvm.TokenService.Output

namespace LedgerEvm

/-!
# Errors in answers

An error is answered by the name of its kind and its wording.
-/

namespace Datum

/-- The answer that tells an error. -/
def failure (kind message : String) : Datum :=
  .record [("error", .text kind), ("message", .text message)]

end Datum

namespace StateError

/-- The name of an error's kind. -/
def kind : StateError → String
  | .missingEntity _ => "StateError.MissingEntity"
  | .unsupported _ => "StateError.Unsupported"
  | .snapshot _ => "StateError.Snapshot"

instance : ToDatum StateError := ⟨fun error => .failure error.kind error.message⟩

end StateError

namespace VmError

/-- The name of an error's kind. -/
def kind : VmError → String
  | .outOfGas => "VmError.OutOfGas"
  | .stackOverflow => "VmError.StackOverflow"
  | .stackUnderflow => "VmError.StackUnderflow"
  | .invalidOpcode _ => "VmError.InvalidOpcode"
  | .invalidJump _ => "VmError.InvalidJump"
  | .codeSizeExceeded _ _ => "VmError.CodeSizeExceeded"
  | .initCodeSizeExceeded _ _ => "VmError.InitCodeSizeExceeded"
  | .writeInStaticContext => "VmError.WriteInStaticContext"
  | .insufficientBalance _ _ => "VmError.InsufficientBalance"
  | .state _ => "VmError.StateError"
  | .revert _ => "VmError.Revert"
  | .halt _ => "VmError.Halt"
  | .memoryLimitExceeded _ _ => "VmError.MemoryLimitExceeded"
  | .returnDataOutOfBounds _ _ _ => "VmError.ReturnDataOutOfBounds"
  | .invalidCodePrefix => "VmError.InvalidCodePrefix"
  | .cancelled => "VmError.Cancelled"
  | .timeout _ _ => "VmError.Timeout"
  | .gasLimitExceeded _ _ => "VmError.GasLimitExceeded"
  | .internal _ => "VmError.Internal"

instance : ToDatum VmError := ⟨fun error => .failure error.kind error.message⟩

end VmError

namespace PrecompileError

/-- The name of an error's kind. -/
def kind : PrecompileError → String
  | .decode _ => "PrecompileError.Decode"
  | .unsupportedSelector _ => "PrecompileError.UnsupportedSelector"
  | .failed _ => "PrecompileError.Failed"
  | .missingEntity _ => "PrecompileError.MissingEntity"
  | .invalidInput _ => "PrecompileError.InvalidInput"
  | .outOfGas => "PrecompileError.OutOfGas"
  | .staticStateChange => "PrecompileError.StaticStateChange"
  | .state _ => "PrecompileError.State"

instance : ToDatum PrecompileError := ⟨fun error => .failure error.kind error.message⟩

end PrecompileError

instance : ToDatum AbiError := ⟨fun error => .of (PrecompileError.ofAbi error)⟩

namespace PricingError

/-- The name of an error's kind. -/
def kind : PricingError → String
  | .missingFeeSchedule _ _ => "PricingError.MissingFeeSchedule"
  | .missingExchangeRate _ => "PricingError.MissingExchangeRate"
  | .invalidExchangeRate _ _ => "PricingError.InvalidExchangeRate"
  | .unknownFunction _ => "PricingError.UnknownFunction"
  | .state _ => "PricingError.State"

instance : ToDatum PricingError := ⟨fun error => .failure error.kind error.message⟩

end PricingError

namespace ConfigError

/-- The name of an error's kind. -/
def kind : ConfigError → String
  | .emptyVersionTable => "ConfigError.EmptyVersionTable"
  | .unorderedVersionTable _ => "ConfigError.UnorderedVersionTable"
  | .unknownVersion _ => "ConfigError.UnknownVersion"
  | .invalidValue _ _ => "ConfigError.InvalidValue"

instance : ToDatum ConfigError := ⟨fun error => .failure error.kind error.message⟩

end ConfigError

/-- A result is answered by itself, a failure by its error. -/
instance {ε α : Type} [ToDatum ε] [ToDatum α] : ToDatum (Except ε α) where
  toDatum
    | .ok result => .of result
    | .error error => .of error

instance : ToDatum HaltReason := ⟨fun reason => .text reason.text⟩

end LedgerEvm
