import LedgerEvm.Address
import LedgerEvm.Hash.Keccak256
import LedgerEvm.Table

namespace LedgerEvm

/-!
# Accounts

An account holds currency and, for a contract, code.  Beside them it keeps counts
of its token holdings, which the ledger asks before an account may be removed.
-/

/-- What an account stands for. -/
inductive AccountKind where
  | regular
  | contract
  | token
  deriving Repr, DecidableEq

/-- An entry of the ledger's account table. -/
structure Account where
  address : Address
  kind : AccountKind := .regular
  balance : Word := 0
  nonce : UInt64 := 0
  code : Bytes := []
  deleted : Bool := false
  expiry : Int64 := 0
  numAssociations : UInt32 := 0
  numPositiveBalances : UInt32 := 0
  numTreasuryTitles : UInt32 := 0
  ownedNfts : UInt64 := 0
  deriving Repr, DecidableEq

namespace Account

/-- The entity whose number the account's address carries. -/
def id? (account : Account) : Option EntityId :=
  EntityId.ofAddress? account.address

/-- A new contract without currency. -/
def newContract (address : Address) (code : Bytes) : Account :=
  { address, kind := .contract, code }

/-- The account shown in place of a token when calls to tokens are redirected. -/
def ofToken (address : Address) : Account :=
  { address, kind := .token }

/-- Whether the account stands for a token. -/
def isToken (account : Account) : Bool :=
  account.kind == .token

/-- The hash of the account's code. -/
def codeHash (account : Account) : Hash :=
  Keccak.keccak256 account.code

/-- Whether the account holds no currency, has sent nothing and has no code. -/
def isEmpty (account : Account) : Bool :=
  account.balance == 0 && account.nonce == 0 && account.code.isEmpty

end Account

/-- A storage slot of an account. -/
structure Slot where
  account : Address
  key : Word
  deriving Repr, DecidableEq

namespace Address

/-- Addresses are numbered by their bits. -/
instance : Numbered Address where
  number address := address.bits.toNat
  number_injective := by
    intro left right same
    cases left
    cases right
    simpa [BitVec.toNat_inj] using same

end Address

namespace Slot

/-- Slots are numbered by the account above the key. -/
instance : Numbered Slot where
  number slot := slot.account.bits.toNat <<< 256 + slot.key.toNat
  number_injective := by
    rintro ⟨⟨leftAccount⟩, leftKey⟩ ⟨⟨rightAccount⟩, rightKey⟩ same
    have leftBound := leftKey.isLt
    have rightBound := rightKey.isLt
    simp only at same
    have keys : leftKey = rightKey := BitVec.eq_of_toNat_eq (by omega)
    have accounts : leftAccount = rightAccount := BitVec.eq_of_toNat_eq (by omega)
    rw [keys, accounts]

end Slot

end LedgerEvm
