import LedgerEvm.Configuration
import LedgerEvm.Machine.Transact

namespace LedgerEvm

/-!
# The simulation service

The service answers requests to simulate a call against one snapshot.  Every request
sees the snapshot as it is: nothing that a simulation writes is there for the next
one.  Only the statistics remember requests.

The clock is left out.  A service may cancel a request that has taken longer than the
configuration allows; here every request is answered in time, so that its answer
depends on the service, the request and nothing else.
-/

/-- A request to simulate a call, or a creation when it names no target. -/
structure CallRequest where
  sender : Address
  target : Option Address
  value : Word := 0
  gasLimit : UInt64 := 15000000
  gasPrice : Word := 1
  data : Bytes
  block : Block
  version : Option SemanticVersion := none
  isStatic : Bool := false
  deriving Repr, DecidableEq

/-- Counts of what the service has done. -/
structure ServiceStats where
  calls : Nat := 0
  succeeded : Nat := 0
  failed : Nat := 0
  timeouts : Nat := 0
  rejected : Nat := 0
  gas : UInt64 := 0
  deriving Repr, DecidableEq

namespace ServiceStats

/-- Count a request that was refused. -/
def countRejected (stats : ServiceStats) : ServiceStats :=
  { stats with rejected := stats.rejected + 1 }

/-- Count a call with a result. -/
def countResult (stats : ServiceStats) (result : CallResult) : ServiceStats :=
  { stats with
    calls := stats.calls + 1
    succeeded := if result.success then stats.succeeded + 1 else stats.succeeded
    failed := if result.success then stats.failed else stats.failed + 1
    gas := stats.gas.addClamp result.gasUsed }

/-- Count a call that was cut off; any other failure leaves no count. -/
def countError (stats : ServiceStats) : VmError → ServiceStats
  | .cancelled => { stats with timeouts := stats.timeouts + 1 }
  | .timeout _ _ => { stats with timeouts := stats.timeouts + 1 }
  | _ => stats

end ServiceStats

/-- A service over one snapshot, without a clock. -/
structure Service where
  configuration : Configuration
  timeline : Timeline
  snapshot : Snapshot
  prices : PriceSource
  blockHashes : BlockHashes

namespace Service

/-- The number of the first entity that a simulation creates. -/
def firstNum : UInt64 :=
  1000000000

/-- The service of a configuration; its version table has to be in order. -/
def ofConfiguration
    (configuration : Configuration)
    (snapshot : Snapshot)
    (prices : PriceSource)
    (blockHashes : BlockHashes) :
    Except ConfigError Service := do
  let timeline ← Timeline.ofTable configuration.versions
  return { configuration, timeline, snapshot, prices, blockHashes }

/-- The environment of a request: the rules of its version, or of its block's time. -/
def environment (service : Service) (request : CallRequest) : Environment where
  rules := service.timeline.resolve request.block.timestamp request.version
  prices := service.prices
  blockHashes := service.blockHashes
  limits := { maxCallDepth := service.configuration.maxCallDepth }
  deadline := { maxMillis := service.configuration.timeoutMillis }

/-- The context of a request's first frame. -/
def context (request : CallRequest) : FrameContext :=
  { FrameContext.ofTransaction request.sender (request.target.getD Address.zero) request.value
      request.data request.gasLimit request.gasPrice request.block with
    isStatic := request.isStatic }

/-- The world that a request starts from. -/
def world (service : Service) (request : CallRequest) : World :=
  World.ofSnapshot service.snapshot service.configuration.redirectsTokenCalls
    request.block.timestamp firstNum

/-- Simulate a request that has been accepted. -/
def simulate
    (service : Service)
    (request : CallRequest)
    (trace : Trace) :
    Except VmError CallResult :=
  (service.environment request).transact (context request) request.target.isNone
    (service.world request) trace

/-- An action of the service, which keeps statistics. -/
abbrev Action := EStateM VmError ServiceStats

/--
Simulate a request unless it asks for too much gas.  It is never cancelled for the time
that it takes by the clock.
-/
def execute (service : Service) (request : CallRequest) (trace : Trace) : Action CallResult :=
  fun stats =>
    let maximum := service.configuration.maxGasLimit
    if maximum < request.gasLimit then
      .error (.gasLimitExceeded request.gasLimit maximum) stats.countRejected
    else
      match service.simulate request trace with
      | .ok result => .ok result (stats.countResult result)
      | .error error => .error error (stats.countError error)

/-- Simulate a request. -/
def call (service : Service) (request : CallRequest) : Action CallResult :=
  service.execute request Trace.off

/-- Simulate a request and record its instructions. -/
def trace (service : Service) (request : CallRequest) (options : TraceOptions) :
    Action CallResult :=
  service.execute request (Trace.ofMode .opcode options)

/-- Whether a request succeeds with another gas limit. -/
def succeedsWith
    (service : Service)
    (request : CallRequest)
    (gasLimit : Nat) :
    Action Bool := do
  return (← service.call { request with gasLimit := UInt64.ofNat gasLimit }).success

/--
Halve the gap between a limit that is too low and one that suffices until they are
neighbours.  The first argument bounds the number of halvings.
-/
def narrow (service : Service) (request : CallRequest) :
    Nat → Nat → Nat → Action Nat
  | 0, _, high => return high
  | halvings + 1, low, high => do
      if low + 1 < high then
        let middle := low + (high - low) / 2
        if ← service.succeedsWith request middle then
          narrow service request halvings low middle
        else
          narrow service request halvings middle high
      else
        return high

/-- The text of a result that is no success. -/
def failureText (result : CallResult) : String :=
  ((result.revertReason).or (result.haltReason.map HaltReason.text)).getD "execution failed"

/--
A gas limit with which a request succeeds, found by halving between what the first
try used and what the request allows.  A gap of 64 bits is closed after 64 halvings.
-/
def estimate (service : Service) (request : CallRequest) : Action Nat := do
  let first ← service.call request
  if !first.success then
    throw (.revert (failureText first))
  let low := (first.gasUsed.addClamp first.gasRefund).toNat - 1
  service.narrow request 64 low request.gasLimit.toNat

end Service

end LedgerEvm
