import LedgerEvm.Message.Fee
import LedgerEvm.Message.Ledger
import LedgerEvm.Message.Version
import LedgerEvm.Service

namespace LedgerEvm

/-!
# Simulations in requests and answers

A request tells who calls what in which block; the answer tells the result of the
call and, when asked for, the instructions that were executed.
-/

instance : OfDatum Block where
  ofDatum datum :=
    let standard : Block := { }
    { number := datum.get "number"
      timestamp := datum.get "timestamp"
      coinbase := datum.getD "coinbase" standard.coinbase
      gasLimit := datum.getD "gas_limit" standard.gasLimit
      baseFee := datum.get "base_fee"
      chainId := datum.getD "chain_id" standard.chainId
      hash := datum.get "hash" }

instance : OfDatum BlockHashes := ⟨fun datum => ⟨datum.read⟩⟩

/-- A request can only tell a flag that stays as it is. -/
instance : OfDatum Cancellation := ⟨fun datum => .constant datum.read⟩

/-- The request that a record writes, without the version that it may name. -/
instance : OfDatum CallRequest where
  ofDatum datum :=
    { sender := datum.get "sender"
      target := datum.get? "to"
      value := datum.get "value"
      gasLimit := datum.getD "gas_limit" 15000000
      gasPrice := datum.getD "gas_price" 1
      data := datum.get "data"
      block := datum.get "block"
      isStatic := datum.get "static" }

instance : OfDatum TraceOptions where
  ofDatum datum := ⟨datum.get "stack", datum.get "memory", datum.get "storage"⟩

instance : ToDatum TraceStep where
  toDatum step := .record
    [("pc", .of step.position), ("op", .of step.name), ("gas", .of step.gas),
     ("gas_cost", .of step.gasCost), ("depth", .of step.depth), ("stack", .of step.stack),
     ("memory", .of step.memory), ("storage", .of step.storage), ("reason", .of step.reason)]

instance : ToDatum Log where
  toDatum log := .record
    [("address", .of log.address), ("topics", .of log.topics), ("data", .of log.data)]

instance : ToDatum CallResult where
  toDatum result := .record
    [("success", .of result.success), ("output", .of result.output),
     ("gas_used", .of result.gasUsed), ("gas_refund", .of result.gasRefund),
     ("revert_reason", .of result.revertReason), ("halt_reason", .of result.haltReason),
     ("created", .of result.created), ("logs", .of result.logs), ("steps", .of result.steps)]

instance : OfDatum Limits where
  ofDatum datum :=
    let standard : Limits := { }
    { maxCallDepth := datum.getD "max_call_depth" standard.maxCallDepth
      maxCodeSize := datum.getD "max_code_size" standard.maxCodeSize
      maxInitCodeSize := datum.getD "max_init_code_size" standard.maxInitCodeSize
      maxMemorySize := datum.getD "max_memory_size" standard.maxMemorySize }

instance : ToDatum ServiceStats where
  toDatum stats := .record
    [("calls", .decimal stats.calls), ("ok", .decimal stats.succeeded),
     ("failed", .decimal stats.failed), ("timeouts", .decimal stats.timeouts),
     ("rejected", .decimal stats.rejected), ("gas", .of stats.gas)]

/-! ## Configurations -/

instance : ToDatum Expiry where
  toDatum
    | .never => .list [.text "never"]
    | .afterWrite lifetime => .list [.text "after_write", .decimal lifetime]
    | .afterAccess lifetime => .list [.text "after_access", .decimal lifetime]

instance : ToDatum CachePolicy where
  toDatum policy := .record [("size", .of policy.maxSize), ("expiry", .of policy.expiry)]

instance : ToDatum CacheSettings where
  toDatum caches := .record
    [("record_file_latest", .of caches.recordFileLatest),
     ("record_file_index", .of caches.recordFileIndex),
     ("record_file_timestamp", .of caches.recordFileTimestamp),
     ("record_file_earliest", .of caches.recordFileEarliest), ("entity", .of caches.entity),
     ("token", .of caches.token), ("contract", .of caches.contract),
     ("contract_slots", .of caches.contractSlots),
     ("system_account", .of caches.systemAccount), ("fee_schedule", .of caches.feeSchedule)]

namespace Configuration

/-- The standard configuration with what a record changes. -/
def ofDatum (datum : Datum) : Except VersionError Configuration := do
  let standard : Configuration := { }
  let versions ←
    match datum.field "versions" with
    | .list rows =>
        VersionEntry.tableOfDatum (.list rows) fun second => Timestamp.ofSeconds second.read
    | _ => pure standard.versions
  return { standard with
    redirectsTokenCalls := !datum.get "no_redirect"
    maxGasLimit := datum.getD "max_gas_limit" standard.maxGasLimit
    maxCallDepth := datum.getD "max_call_depth" standard.maxCallDepth
    versions }

instance : ToDatum Configuration where
  toDatum configuration := .record
    [("chain_id", .of configuration.chainId),
     ("redirect", .of configuration.redirectsTokenCalls),
     ("max_gas_limit", .of configuration.maxGasLimit),
     ("max_call_depth", .of configuration.maxCallDepth),
     ("timeout_ms", .of configuration.timeoutMillis),
     ("timeout", .of configuration.timeoutMillis), ("trace_mode", .of configuration.traceMode),
     ("versions", .of configuration.versions), ("cache", .of configuration.caches)]

end Configuration

end LedgerEvm
