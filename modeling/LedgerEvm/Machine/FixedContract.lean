import LedgerEvm.Address
import LedgerEvm.Clamp
import LedgerEvm.Error
import LedgerEvm.Hash.Sha256

namespace LedgerEvm

/-!
# Fixed contracts

Two addresses answer without code: one hashes its input, one returns it.  Their gas
grows with the words of the input.
-/

/-- A contract that the machine answers for itself. -/
inductive FixedContract where
  | sha256
  | identity
  deriving Repr, DecidableEq

namespace FixedContract

/-- The address of a fixed contract. -/
def address : FixedContract → Address
  | .sha256 => Address.sha256
  | .identity => Address.identity

/-- The fixed contract at an address. -/
def at? (address : Address) : Option FixedContract :=
  if address = Address.sha256 then some .sha256
  else if address = Address.identity then some .identity
  else none

/-- A base and a charge for each word of the input. -/
def linearCost (base perWord : UInt64) (bytes : Nat) : UInt64 :=
  base.addClamp (perWord.mulClamp (UInt64.ofNatClamp ((bytes + 31) / 32)))

/-- The gas for an input. -/
def cost (contract : FixedContract) (input : Bytes) : UInt64 :=
  match contract with
  | .sha256 => linearCost 60 12 input.length
  | .identity => linearCost 15 3 input.length

/-- The output for an input. -/
def output (contract : FixedContract) (input : Bytes) : Bytes :=
  match contract with
  | .sha256 => (Sha256.sha256 input).toBytes
  | .identity => input

/-- Gas and output for an input, when the gas is there. -/
def execute
    (contract : FixedContract)
    (input : Bytes)
    (gasLimit : UInt64) :
    Except PrecompileError (UInt64 × Bytes) :=
  let gas := contract.cost input
  if gasLimit < gas then
    .error .outOfGas
  else
    .ok (gas, contract.output input)

/-- Each fixed contract is found at its address. -/
@[simp] theorem at?_address
    (contract : FixedContract) :
    at? contract.address = some contract := by
  cases contract <;> decide

end FixedContract

end LedgerEvm
