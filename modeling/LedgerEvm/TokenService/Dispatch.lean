import LedgerEvm.TokenService.Call
import LedgerEvm.TokenService.Operation

namespace LedgerEvm

/-!
# System contracts

Calls of the token service, of tokens themselves, of the exchange rate and of the
random seed are answered without code.  A call is read, priced and carried out; when
any of these fails, nothing is written.
-/

/-- What a system contract knows about the call it answers. -/
structure SystemCall where
  sender : Address
  timestamp : Timestamp
  gasLimit : UInt64
  isStatic : Bool
  deriving Repr, DecidableEq

/-- What a system contract answers. -/
structure SystemAnswer where
  gasCost : UInt64
  output : Bytes
  stateChanged : Bool
  deriving Repr, DecidableEq

namespace SystemCall

/-- The gas of a question before a fifth is added, at least. -/
def queryMinimumGas : UInt64 :=
  100

/-- The gas of a conversion between currency units. -/
def exchangeRateGas : UInt64 :=
  100

/-- The selector at the start of an input. -/
def readSelector (input : Bytes) : Except PrecompileError Selector :=
  match Selector.ofInput? input with
  | some selector => .ok selector
  | none =>
      .error (.decode ("input of " ++ toString input.length ++ " bytes has no selector"))

/-- The function that a table has under a selector. -/
def find
    (table : List (Selector × TokenFunction))
    (selector : Selector) :
    Except PrecompileError TokenFunction :=
  match table.find? fun entry => entry.1 == selector with
  | some entry => .ok entry.2
  | none => .error (.unsupportedSelector selector)

/-- Refuse a call that costs more gas than it has. -/
def checkGas (call : SystemCall) (gas : UInt64) : Except PrecompileError Unit :=
  if call.gasLimit < gas then .error .outOfGas else .ok ()

/-- A price, or the error of a call whose price cannot be found. -/
def priced {α : Type} (price : Except PricingError α) : Except PrecompileError α :=
  price.mapError .ofPricing

/-- The gas of a call that has been read. -/
def gasOf
    (call : SystemCall)
    (source : PriceSource)
    (world : World) :
    TokenCall → Except PrecompileError UInt64
  | .write body kind => priced do
      let minimum ← source.minimumPrice kind call.timestamp
      source.operationGas call.timestamp minimum body call.sender world
  | .query _ => priced (source.queryGas call.timestamp queryMinimumGas)

/-- Carry out a call that has been read; only a transaction writes. -/
def perform (call : SystemCall) : TokenCall → TokenAction (TokenResult × Bool)
  | .write body _ => do
      pure (← (TokenAction.run body call.sender).framed, true)
  | .query query => do
      pure (.getApproved (← TokenAction.approvedSpender query), false)

/-- Answer a call of a function. -/
def execute
    (call : SystemCall)
    (source : PriceSource)
    (function : TokenFunction)
    (input : Bytes)
    (setting : CallSetting) :
    TokenAction SystemAnswer := do
  if call.isStatic ∧ !function.isView then
    throw .staticStateChange
  let read ← liftExcept (function.readCall input setting call.sender)
  let gasCost ← liftExcept (call.gasOf source (← get) read)
  liftExcept (call.checkGas gasCost)
  let (result, stateChanged) ← call.perform read
  pure { gasCost, output := function.output.encode result, stateChanged }
where
  /-- A result that does not depend on the world. -/
  liftExcept {α : Type} (result : Except PrecompileError α) : TokenAction α :=
    match result with
    | .ok value => pure value
    | .error error => throw error

/-- Answer a call of the token service. -/
def answerService
    (call : SystemCall)
    (source : PriceSource)
    (input : Bytes) :
    TokenAction SystemAnswer := do
  match (readSelector input).bind (find TokenFunction.serviceTable) with
  | .ok function => call.execute source function input .plain
  | .error error => throw error

/-- The surroundings of a call at a token's address. -/
def settingAt
    (call : SystemCall)
    (token : Token)
    (address : Address)
    (selector : Selector) :
    TokenFunction → CallSetting
  | .ercTransfer => .transfer ⟨selector, call.sender, address, token.isNonFungible⟩
  | .ercTransferFrom => .transfer ⟨selector, call.sender, address, token.isNonFungible⟩
  | _ => .approval ⟨address, call.sender, call.sender, !token.isNonFungible⟩

/-- Answer a call at a token's address. -/
def answerToken
    (call : SystemCall)
    (source : PriceSource)
    (address : Address)
    (input : Bytes) :
    TokenAction SystemAnswer := do
  match readSelector input with
  | .ok selector =>
      match find TokenFunction.tokenTable selector with
      | .ok function =>
          let token ← TokenAction.knownToken address
          call.execute source function input (call.settingAt token address selector function)
      | .error error => throw error
  | .error error => throw error

/-- The selector of the conversion from cents to currency. -/
def toTinybars : Selector :=
  Selector.ofSignature "tinycentsToTinybars(uint256)"

/-- The selector of the conversion from currency to cents. -/
def toTinycents : Selector :=
  Selector.ofSignature "tinybarsToTinycents(uint256)"

/-- Currency becomes cents at the rate; what is out of range becomes the greatest amount. -/
def tinycentsAt (rate : ExchangeRate) (tinybars : Int64) : Int64 :=
  let hbar := max rate.hbarEquiv.toInt 1
  let value := (tinybars.toInt * rate.centEquiv.toInt).tdiv hbar
  if Int64.minValue.toInt ≤ value ∧ value ≤ Int64.maxValue.toInt then
    Int64.ofInt value
  else
    Int64.maxValue

/-- The amount that a conversion is asked for, below 2^63. -/
def readAmount (selector : Selector) (input : Bytes) : Except PrecompileError Int64 := do
  let amount ←
    TokenFunction.readArguments selector [.uint] input (ValueReader.nextAs AbiValue.asUInt64)
  match Int64.ofUInt64? amount with
  | some value => return value
  | none => throw (.invalidInput (toString amount.toNat ++ " exceeds int64"))

/-- Answer a call of the exchange rate. -/
def answerExchangeRate
    (call : SystemCall)
    (source : PriceSource)
    (input : Bytes) :
    Except PrecompileError SystemAnswer := do
  call.checkGas exchangeRateGas
  let selector ← readSelector input
  if selector ≠ toTinybars ∧ selector ≠ toTinycents then
    throw (.unsupportedSelector selector)
  let amount ← readAmount selector input
  let rate ← priced (source.rates.rateAt call.timestamp)
  let converted :=
    if selector = toTinybars then rate.tinybars amount else tinycentsAt rate amount
  let output := AbiValue.encode [.uint (BitVec.ofNat 256 converted.toInt.toNat)]
  return { gasCost := exchangeRateGas, output, stateChanged := false }

/-- The selector of the question for a random seed. -/
def toRandomSeed : Selector :=
  Selector.ofSignature "getPseudorandomSeed()"

/-- Answer a call for the random seed. -/
def answerRandomSeed
    (call : SystemCall)
    (source : PriceSource)
    (input : Bytes)
    (seed : Hash) :
    Except PrecompileError SystemAnswer := do
  let selector ← readSelector input
  if selector ≠ toRandomSeed then
    throw (.unsupportedSelector selector)
  let gasCost ← priced (source.minimumGas call.timestamp .randomSeed)
  call.checkGas gasCost
  return { gasCost, output := seed.toBytes, stateChanged := false }

end SystemCall

end LedgerEvm
