import LedgerEvm.Machine.Ruleset
import LedgerEvm.Message.Error
import LedgerEvm.Message.Name

namespace LedgerEvm

/-!
# Versions in requests

A request names a version by its text, or spells out the rules it wants.
-/

/-- Failures of reading a version. -/
inductive VersionError where
  | invalid (text : String)
  | unknown (version : SemanticVersion)
  deriving Repr, DecidableEq

namespace VersionError

instance : ToDatum VersionError where
  toDatum
    | .invalid text => .failure "SemanticVersion" (SemanticVersion.invalidMessage text)
    | .unknown version => .failure "UnknownVersion" version.text

end VersionError

namespace SemanticVersion

instance : ToDatum SemanticVersion := ⟨fun version => .text version.text⟩

/-- The version that a text writes. -/
def ofDatum (datum : Datum) : Except VersionError SemanticVersion :=
  match parse? datum.content with
  | some version => .ok version
  | none => .error (.invalid datum.content)

/-- The version under a key, when there is one. -/
def under? (datum : Datum) (key : String) : Except VersionError (Option SemanticVersion) :=
  (datum.get? key : Option Datum).mapM ofDatum

end SemanticVersion

namespace Ruleset

/-- The rules of the version that is named, or the rules that are spelled out. -/
def ofDatum (datum : Datum) : Except VersionError Ruleset := do
  match datum with
  | .text _ =>
      let version ← SemanticVersion.ofDatum datum
      match ofVersion? version with
      | some rules => return rules
      | none => throw (.unknown version)
  | _ =>
      return {
        version := ⟨9, 9, 9⟩
        spec := datum.get "spec"
        selfDestruct := ⟨datum.get "validate_beneficiary", datum.get "eip6780"⟩
        addresses := ⟨datum.get "validate_existence", datum.get "detect_system_accounts"⟩ }

instance : ToDatum Ruleset where
  toDatum rules := .record
    [("version", .of rules.version), ("spec", .of rules.spec),
     ("prevrandao", .of rules.spec.hasRandomValue),
     ("limits_init_code", .of rules.spec.limitsInitCode),
     ("validate_beneficiary", .of rules.selfDestruct.validatesBeneficiary),
     ("eip6780", .of rules.selfDestruct.sparesOldContracts),
     ("validate_existence", .of rules.addresses.validatesExistence),
     ("detect_system_accounts", .of rules.addresses.detectsSystemAccounts),
     ("enabled", .of rules.enabledBytes)]

end Ruleset

namespace VersionEntry

/-- The rows of a version table, whose second items tell the instants. -/
def tableOfDatum
    (datum : Datum)
    (effective : Datum → Timestamp) :
    Except VersionError (List VersionEntry) :=
  datum.items.mapM fun row => do
    return ⟨← SemanticVersion.ofDatum (row.item 0), effective (row.item 1)⟩

instance : ToDatum VersionEntry := ⟨fun entry => .of (entry.version, entry.effective)⟩

end VersionEntry

end LedgerEvm
