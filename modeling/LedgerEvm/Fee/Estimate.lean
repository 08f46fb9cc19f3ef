import LedgerEvm.Fee.Charge
import LedgerEvm.Ledger.World

namespace LedgerEvm

/-!
# Estimated usage

The usage of bodies that are not counted by reading them: a fixed share for the
memo and the signatures, and what the body adds.  Associating an account with
tokens uses storage for the rest of the account's lifetime.
-/

/-- A length as a signed 64-bit number. -/
def lengthOf {α : Type} (items : List α) : Int64 :=
  Int64.ofNatClamp items.length

/-- The length of a text in UTF-8. -/
def textLength (text : String) : Int64 :=
  Int64.ofNatClamp text.utf8ByteSize

/-- Usage under estimation; byte seconds stay byte seconds until the end. -/
structure Estimate where
  signatures : SignatureUsage
  bpt : Int64
  vpt : Int64
  rbs : Int64
  sbs : Int64
  networkRbs : Int64
  deriving Repr, DecidableEq

namespace Estimate

/-- The bytes that every transaction uses. -/
def baseBpt (transaction : Transaction) (signatures : SignatureUsage) : Int64 :=
  (Size.transactionBody.addClamp (textLength transaction.memo)).addClamp
    signatures.sigsSize.toInt64

/-- The receipt byte seconds that every transaction uses. -/
def baseNetworkRbs : Int64 :=
  Size.receipt * Size.receiptSeconds

/-- The seconds from the start of a transaction to an expiry, none when it has passed. -/
def relativeLifetime (transaction : Transaction) (expiry : Int64) : Int64 :=
  Int64.larger (expiry.subClamp transaction.validStart.seconds) 0

/-- The estimate before the body is considered. -/
def ofTransaction (transaction : Transaction) (signatures : SignatureUsage) : Estimate where
  signatures
  bpt := baseBpt transaction signatures
  vpt := signatures.numSigs.toInt64
  rbs := 0
  sbs := 0
  networkRbs := baseNetworkRbs

/-- Add bytes of the transaction. -/
def addBpt (estimate : Estimate) (amount : Int64) : Estimate :=
  { estimate with bpt := estimate.bpt.addClamp amount }

/-- Add receipt byte seconds of the service. -/
def addRbs (estimate : Estimate) (amount : Int64) : Estimate :=
  { estimate with rbs := estimate.rbs.addClamp amount }

/-- Add storage byte seconds of the service. -/
def addSbs (estimate : Estimate) (amount : Int64) : Estimate :=
  { estimate with sbs := estimate.sbs.addClamp amount }

/-- Add receipt byte seconds of the network. -/
def addNetworkRbs (estimate : Estimate) (amount : Int64) : Estimate :=
  { estimate with networkRbs := estimate.networkRbs.addClamp amount }

/-- The estimated amounts of every resource. -/
def amounts (estimate : Estimate) : FeeData where
  node :=
    { constant := 1
      bpt := estimate.bpt
      vpt := estimate.signatures.numPayerKeys.toInt64
      bpr := Size.int }
  network :=
    { constant := 1
      bpt := estimate.bpt
      vpt := estimate.vpt
      rbh := positiveQuotient estimate.networkRbs Size.hour }
  service :=
    { constant := 1
      rbh := positiveQuotient estimate.rbs Size.hour
      sbh := positiveQuotient estimate.sbs Size.hour }

end Estimate

/-- The ways of estimating a body. -/
inductive Estimator where
  | tokenAssociate
  | tokenDelete
  | base
  deriving Repr, DecidableEq

namespace Estimator

/-- Whether a body is estimated this way. -/
def appliesTo : Estimator → TransactionBody → Bool
  | .tokenAssociate, .tokenAssociateToAccount _ => true
  | .tokenDelete, .tokenDelete _ => true
  | .base, _ => true
  | _, _ => false

/-- The error about a body that is not estimated this way. -/
def wrongBody (body : TransactionBody) : PricingError :=
  .unknownFunction body.functionalityOrNone.name

/-- The amounts a transaction uses; an association of an unknown account uses none. -/
def amounts
    (estimator : Estimator)
    (transaction : Transaction)
    (signatures : SignatureUsage)
    (world : World) :
    Except PricingError FeeData :=
  let estimate := Estimate.ofTransaction transaction signatures
  match estimator, transaction.body with
  | .tokenAssociate, .tokenAssociateToAccount relations =>
      match world.accountEntry relations.account with
      | .error error => .error (.state error)
      | .ok none => .ok { }
      | .ok (some account) =>
          let numTokens := lengthOf relations.tokens
          let lifetime := Estimate.relativeLifetime transaction account.expiry
          .ok
            ((estimate.addBpt (Size.entityId.mulClamp (numTokens.addClamp 1))).addRbs
              ((Size.tokenRelation.mulClamp numTokens).mulClamp lifetime)).amounts
  | .tokenDelete, .tokenDelete _ => .ok (estimate.addBpt Size.entityId).amounts
  | .base, _ => .ok estimate.amounts
  | _, body => .error (wrongBody body)

/-- The estimator for a body that is not counted. -/
def forBody (body : TransactionBody) : Estimator :=
  if Estimator.tokenAssociate.appliesTo body then .tokenAssociate
  else if Estimator.tokenDelete.appliesTo body then .tokenDelete
  else .base

/-- The chosen estimator applies. -/
theorem appliesTo_forBody
    (body : TransactionBody) :
    (forBody body).appliesTo body = true := by
  unfold forBody
  split
  · assumption
  · split
    · assumption
    · rfl

end Estimator

end LedgerEvm
