import LedgerEvm.Error
import LedgerEvm.Machine.Instruction
import LedgerEvm.Timestamp

namespace LedgerEvm

/-!
# Rulesets

A protocol version fixes the generation of the instruction set, what is asked
before a contract may destroy itself, and how addresses are checked before they are
looked up.  The versions in force over time are kept in a timeline.
-/

/-- What is asked before a contract may destroy itself. -/
structure SelfDestructRule where
  validatesBeneficiary : Bool
  sparesOldContracts : Bool
  deriving Repr, DecidableEq

/-- How an address is checked before it is looked up. -/
structure AddressRule where
  validatesExistence : Bool
  detectsSystemAccounts : Bool
  deriving Repr, DecidableEq

/-- The rules of one protocol version. -/
structure Ruleset where
  version : SemanticVersion
  spec : Spec
  selfDestruct : SelfDestructRule
  addresses : AddressRule
  deriving Repr, DecidableEq

namespace Ruleset

/-- Whether an instruction may be executed. -/
def enables (rules : Ruleset) (instruction : Instruction) : Bool :=
  match instruction.introduced? with
  | some introduced => rules.spec.includes introduced
  | none => false

/-- The instruction at a byte, when it is defined and enabled. -/
def instruction? (rules : Ruleset) (byte : UInt8) : Option Instruction :=
  (Instruction.ofByte? byte).filter rules.enables

/-- The bytes of all enabled instructions in order. -/
def enabledBytes (rules : Ruleset) : Bytes :=
  ((List.range 256).map UInt8.ofNat).filter fun byte => (rules.instruction? byte).isSome

/-- The rules of a version that has some. -/
def ofVersion? (version : SemanticVersion) : Option Ruleset :=
  let plain : SelfDestructRule := ⟨false, false⟩
  let validated : SelfDestructRule := ⟨true, false⟩
  let sparing : SelfDestructRule := ⟨true, true⟩
  let existence : AddressRule := ⟨true, false⟩
  let system : AddressRule := ⟨true, true⟩
  if version.major ≠ 0 then none
  else if version.minor = 30 then some ⟨version, .london, plain, existence⟩
  else if version.minor = 34 then some ⟨version, .paris, plain, existence⟩
  else if version.minor = 38 then some ⟨version, .shanghai, validated, system⟩
  else if version.minor = 46 then some ⟨version, .shanghai, validated, system⟩
  else if version.minor = 50 then some ⟨version, .cancun, sparing, system⟩
  else if version.minor = 51 then some ⟨version, .cancun, sparing, system⟩
  else none

/-- Rules found for a version are that version's. -/
theorem version_of_ofVersion?
    {version : SemanticVersion}
    {rules : Ruleset}
    (found : ofVersion? version = some rules) :
    rules.version = version := by
  simp only [ofVersion?] at found
  repeat' split at found
  all_goals simp_all
  all_goals simp [← found]

end Ruleset

/-- A version with the instant from which it is in force. -/
structure VersionEntry where
  version : SemanticVersion
  effective : Timestamp
  deriving Repr, DecidableEq

namespace VersionEntry

/-- A version in force from a second on. -/
def ofSeconds (version : SemanticVersion) (seconds : Int64) : VersionEntry :=
  ⟨version, Timestamp.ofSeconds seconds⟩

end VersionEntry

/-- The rulesets over time, of which there is at least one. -/
structure Timeline where
  first : Timestamp × Ruleset
  later : List (Timestamp × Ruleset)
  deriving Repr, DecidableEq

namespace Timeline

/-- Every ruleset with its instant, the first first. -/
def entries (timeline : Timeline) : List (Timestamp × Ruleset) :=
  timeline.first :: timeline.later

/-- The ruleset of a table entry that must come after an instant. -/
def readEntry
    (previous : Option Timestamp)
    (entry : VersionEntry) :
    Except ConfigError (Timestamp × Ruleset) :=
  if previous.any fun instant => entry.effective.nanos ≤ instant.nanos then
    .error (.unorderedVersionTable entry.version)
  else
    match Ruleset.ofVersion? entry.version with
    | some rules => .ok (entry.effective, rules)
    | none => .error (.unknownVersion entry.version)

/-- The rulesets of table entries, each after the one before. -/
def readEntries :
    Option Timestamp → List VersionEntry → Except ConfigError (List (Timestamp × Ruleset))
  | _, [] => .ok []
  | previous, entry :: rest => do
      let read ← readEntry previous entry
      return read :: (← readEntries (some entry.effective) rest)

/-- The timeline of a version table. -/
def ofTable (table : List VersionEntry) : Except ConfigError Timeline := do
  match ← readEntries none table with
  | [] => throw .emptyVersionTable
  | first :: later => return ⟨first, later⟩

/-- The ruleset of one of the table's versions. -/
def get? (timeline : Timeline) (version : SemanticVersion) : Option Ruleset :=
  (timeline.entries.find? fun entry => entry.2.version == version).map Prod.snd

/--
The number of rulesets that have come into force by an instant, of those from one place to
below another.  The places are halved, so the earlier rulesets have to come first.
-/
def countInForce
    (entries : List (Timestamp × Ruleset))
    (instant : Timestamp)
    (low high : Nat)
    (within : high ≤ entries.length) :
    Nat :=
  if isOpen : low < high then
    let middle := low + (high - low) / 2
    have inside : middle < entries.length := by omega
    if entries[middle].1.nanos ≤ instant.nanos then
      countInForce entries instant (middle + 1) high within
    else
      countInForce entries instant low middle (by omega)
  else
    low
termination_by high - low

/-- The place of the ruleset in force at an instant; the first one's also before its own time. -/
def placeAt (timeline : Timeline) (instant : Timestamp) : Nat :=
  countInForce timeline.entries instant 0 timeline.entries.length (Nat.le_refl _) - 1

/-- No more rulesets are counted than there are places. -/
theorem countInForce_le
    (entries : List (Timestamp × Ruleset))
    (instant : Timestamp)
    {low high : Nat}
    (ordered : low ≤ high)
    (within : high ≤ entries.length) :
    countInForce entries instant low high within ≤ high := by
  fun_induction countInForce entries instant low high within with
  | case1 low high within isOpen middle inside inForce rest =>
      exact rest (by omega)
  | case2 low high within isOpen middle inside late rest =>
      exact Nat.le_trans (rest (by omega)) (by omega)
  | case3 low high within isClosed =>
      exact ordered

theorem placeAt_lt
    (timeline : Timeline)
    (instant : Timestamp) :
    timeline.placeAt instant < timeline.entries.length := by
  have counted :=
    countInForce_le timeline.entries instant (Nat.zero_le _) (Nat.le_refl _)
  have nonempty : 0 < timeline.entries.length := Nat.succ_pos _
  unfold placeAt
  omega

/-- The ruleset in force at an instant; the first one also before its own time. -/
def atTime (timeline : Timeline) (instant : Timestamp) : Ruleset :=
  (timeline.entries.get ⟨timeline.placeAt instant, timeline.placeAt_lt instant⟩).2

/-- The ruleset of the hinted version when the table has it, else the one in force. -/
def resolve
    (timeline : Timeline)
    (instant : Timestamp)
    (hint : Option SemanticVersion) :
    Ruleset :=
  match hint.bind timeline.get? with
  | some rules => rules
  | none => timeline.atTime instant

/-- The last ruleset. -/
def latest (timeline : Timeline) : Ruleset :=
  (timeline.later.getLast?.getD timeline.first).2

/-- The number of rulesets. -/
def size (timeline : Timeline) : Nat :=
  timeline.entries.length

end Timeline

end LedgerEvm
