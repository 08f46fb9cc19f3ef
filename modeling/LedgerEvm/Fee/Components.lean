import LedgerEvm.Clamp

namespace LedgerEvm

/-!
# Fee components

Prices and usage are listed by resource.  A price is in thousandths of a tinycent
per unit; every list exists once for each of the three parties to a fee: the node,
the network and the service.
-/

/-- An amount of every resource, with the least and the greatest fee they may cost. -/
structure FeeComponents where
  min : Int64 := 0
  max : Int64 := 0
  constant : Int64 := 0
  bpt : Int64 := 0
  vpt : Int64 := 0
  rbh : Int64 := 0
  sbh : Int64 := 0
  gas : Int64 := 0
  tv : Int64 := 0
  bpr : Int64 := 0
  sbpr : Int64 := 0
  deriving Repr, DecidableEq

/--
The resources: a constant, bytes and verifications per transaction, receipt and
storage byte hours, gas, transferred value, and bytes and stored bytes per
response.
-/
inductive Resource where
  | constant
  | bpt
  | vpt
  | rbh
  | sbh
  | gas
  | tv
  | bpr
  | sbpr
  deriving Repr, DecidableEq

namespace Resource

/-- Every resource, in the order in which they are summed. -/
def all : List Resource :=
  [.constant, .bpt, .vpt, .rbh, .sbh, .gas, .tv, .bpr, .sbpr]

/-- The list of resources misses none. -/
theorem mem_all
    (resource : Resource) :
    resource ∈ all := by
  cases resource <;> simp [all]

end Resource

namespace FeeComponents

/-- The amount of one resource. -/
def amount (components : FeeComponents) : Resource → Int64
  | .constant => components.constant
  | .bpt => components.bpt
  | .vpt => components.vpt
  | .rbh => components.rbh
  | .sbh => components.sbh
  | .gas => components.gas
  | .tv => components.tv
  | .bpr => components.bpr
  | .sbpr => components.sbpr

end FeeComponents

/-- Variants of one functionality that have prices of their own. -/
inductive PriceVariant where
  | standard
  | fungibleToken
  | nonFungibleToken
  deriving Repr, DecidableEq

/-- Components for the three parties. -/
structure FeeData where
  node : FeeComponents := { }
  network : FeeComponents := { }
  service : FeeComponents := { }
  variant : PriceVariant := .standard
  deriving Repr, DecidableEq

/-- A fee, split by party. -/
structure Fees where
  node : Int64 := 0
  network : Int64 := 0
  service : Int64 := 0
  deriving Repr, DecidableEq

namespace Fees

/-- The whole fee. -/
def total (fees : Fees) : Int64 :=
  (fees.node.addClamp fees.network).addClamp fees.service

end Fees

end LedgerEvm
