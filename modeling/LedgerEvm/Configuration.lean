import LedgerEvm.Cache
import LedgerEvm.Machine.Ruleset
import LedgerEvm.Machine.Trace
import LedgerEvm.Text.Blank
import LedgerEvm.Text.Decimal

namespace LedgerEvm

/-!
# Configuration

Every setting has a default, and a variable of the surroundings may replace it.  A
variable that is set but cannot be read is an error.  A flag can always be read:
anything but a yes is a no.
-/

/-- The policies of the caches. -/
structure CacheSettings where
  recordFileLatest : CachePolicy := ⟨1, .afterWrite 500⟩
  recordFileIndex : CachePolicy := ⟨10000, .afterWrite 600000⟩
  recordFileTimestamp : CachePolicy := ⟨10000, .afterAccess 600000⟩
  recordFileEarliest : CachePolicy := ⟨1, .never⟩
  entity : CachePolicy := ⟨10000, .afterWrite 1000⟩
  token : CachePolicy := ⟨2000, .afterWrite 1000⟩
  contract : CachePolicy := ⟨1000, .afterWrite 1000⟩
  contractSlots : CachePolicy := ⟨50000, .afterWrite 1000⟩
  systemAccount : CachePolicy := ⟨1000, .afterWrite 1000⟩
  feeSchedule : CachePolicy := ⟨20, .afterWrite 1000⟩
  deriving Repr, DecidableEq

namespace VersionEntry

/-- The versions and the seconds from which they have been in force. -/
def standardTable : List VersionEntry :=
  [ofSeconds ⟨0, 30, 0⟩ 0,
   ofSeconds ⟨0, 34, 0⟩ 1676000000,
   ofSeconds ⟨0, 38, 0⟩ 1691000000,
   ofSeconds ⟨0, 46, 0⟩ 1707000000,
   ofSeconds ⟨0, 50, 0⟩ 1716000000,
   ofSeconds ⟨0, 51, 0⟩ 1721000000]

/-- The part before the first separator and the part behind it. -/
def splitFirst? (separator : Char) (text : List Char) : Option (List Char × List Char) :=
  match text.dropWhile fun character => character != separator with
  | [] => none
  | _ :: rest => some (text.takeWhile fun character => character != separator, rest)

/-- One row of a version table: a version, `@` and a second. -/
def parseRow? (row : List Char) : Option VersionEntry := do
  let (version, seconds) ← splitFirst? '@' row
  let version ← SemanticVersion.parseChars? version
  let seconds ← (Text.integer? (Text.trim seconds)).bind Int64.ofInt?
  return ofSeconds version seconds

/-- The rows of a version table between commas, blank ones left out. -/
def parseTable? (text : List Char) : Option (List VersionEntry) :=
  ((Text.fields (· == ',') text).filter fun row => !(Text.trim row).isEmpty).mapM parseRow?

end VersionEntry

/-- The settings of the service. -/
structure Configuration where
  chainId : UInt64 := 0x128
  redirectsTokenCalls : Bool := true
  maxGasLimit : UInt64 := 15000000
  maxCallDepth : UInt16 := 1024
  timeoutMillis : UInt64 := 10000
  versions : List VersionEntry := VersionEntry.standardTable
  traceMode : TraceMode := .operation
  caches : CacheSettings := { }
  deriving Repr, DecidableEq

/-- The settings of the log output. -/
structure LogSettings where
  level : String := "info"
  asJson : Bool := false
  deriving Repr, DecidableEq

/-- The variables of the surroundings: the text of each that is set. -/
abbrev Variables := String → Option String

namespace Variables

/-- The name of one of this program's variables. -/
def nameOf (setting : String) : String :=
  "MIRROR_EVM_" ++ setting

/-- A variable read by a reader of its own, or the default when it is not set. -/
def readAs
    {α : Type}
    (given : Variables)
    (setting : String)
    (default : α)
    (read? : String → Option α) :
    Except ConfigError α :=
  match given (nameOf setting) with
  | none => .ok default
  | some text =>
      match read? text with
      | some value => .ok value
      | none => .error (.invalidValue (nameOf setting) text)

/-- A number that fits, read by a conversion; blanks around it do not count. -/
def number? {α : Type} (fit? : Nat → Option α) (text : String) : Option α :=
  (Text.natural? (Text.trim text.toList)).bind fit?

/-- A flag: `true` in any case or `1` is a yes. -/
def isYes (text : String) : Bool :=
  text.toList.map Char.toLower == ['t', 'r', 'u', 'e'] || text == "1"

/-- A flag, or the default when it is not set. -/
def flag (given : Variables) (setting : String) (default : Bool) : Bool :=
  ((given (nameOf setting)).map isYes).getD default

/-- An upper-case letter for each letter that has an ASCII one; the dotless i has one too. -/
def toUpper (character : Char) : Char :=
  if character = 'ı' then 'I' else character.toUpper

/-- The trace mode that a text names, in any case. -/
def traceMode? (text : String) : Option TraceMode :=
  let name := String.ofList (text.toList.map toUpper)
  if name = "OPCODE" then some .opcode
  else if name = "OPERATION" then some .operation
  else none

/-- The configuration with what the variables set. -/
def configuration (given : Variables) : Except ConfigError Configuration := do
  let standard : Configuration := { }
  let versions ← given.readAs "VERSIONS" standard.versions fun text =>
    VersionEntry.parseTable? text.toList
  let traceMode ← given.readAs "TRACE_MODE" standard.traceMode traceMode?
  let chainId ← given.readAs "CHAIN_ID" standard.chainId (number? UInt64.ofNat?)
  let redirectsTokenCalls := given.flag "REDIRECT_TOKEN_CALLS" standard.redirectsTokenCalls
  let maxGasLimit ← given.readAs "MAX_GAS_LIMIT" standard.maxGasLimit (number? UInt64.ofNat?)
  let maxCallDepth ← given.readAs "MAX_CALL_DEPTH" standard.maxCallDepth (number? UInt16.ofNat?)
  let timeoutMillis ← given.readAs "TIMEOUT_MS" standard.timeoutMillis (number? UInt64.ofNat?)
  return {
    chainId
    redirectsTokenCalls
    maxGasLimit
    maxCallDepth
    timeoutMillis
    versions
    traceMode
    caches := standard.caches }

/-- The log settings with what the variables set. -/
def logSettings (given : Variables) : LogSettings where
  level := ((given (nameOf "LOG_LEVEL")).or (given "RUST_LOG")).getD "info"
  asJson := given.flag "JSON_LOGS" false

end Variables

end LedgerEvm
