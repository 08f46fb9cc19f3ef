import LedgerEvm.Address
import LedgerEvm.Ledger.Account

namespace LedgerEvm

/-!
# Tokens

A token is fungible, held in amounts, or non-fungible, held as numbered pieces.
An account must be associated with a token before it can hold it; the relationship
carries the balance, which for a non-fungible token counts the pieces.
-/

/-- How a token is held. -/
inductive TokenKind where
  | fungible
  | nonFungible
  deriving Repr, DecidableEq

/-- An entry of the ledger's token table. -/
structure Token where
  address : Address
  kind : TokenKind := .fungible
  treasury : Address := Address.zero
  totalSupply : UInt64 := 0
  maxSupply : UInt64 := 0
  decimals : UInt32 := 0
  name : String := ""
  symbol : String := ""
  deleted : Bool := false
  paused : Bool := false
  hasSupplyKey : Bool := false
  hasWipeKey : Bool := false
  freezeDefault : Bool := false
  lastUsedSerial : Int64 := 0
  deriving Repr, DecidableEq

namespace Token

/-- Whether the token is held as numbered pieces. -/
def isNonFungible (token : Token) : Bool :=
  token.kind == .nonFungible

end Token

/-- The association of an account with a token. -/
structure Relationship where
  account : Address
  token : Address
  balance : UInt64 := 0
  frozen : Bool := false
  kycGranted : Bool := false
  deriving Repr, DecidableEq

/-- One numbered piece of a non-fungible token. -/
structure Nft where
  token : Address
  serial : Int64
  owner : Address
  spender : Address
  metadata : Bytes
  deriving Repr, DecidableEq

/-- The key of a relationship. -/
structure Holding where
  account : Address
  token : Address
  deriving Repr, DecidableEq

/-- The key of a numbered piece. -/
structure NftId where
  token : Address
  serial : Int64
  deriving Repr, DecidableEq

/-- The key of an allowance. -/
structure Grant where
  owner : Address
  token : Address
  spender : Address
  deriving Repr, DecidableEq

namespace Holding

/-- Holdings are numbered by the account above the token. -/
instance : Numbered Holding where
  number holding := holding.account.bits.toNat <<< 160 + holding.token.bits.toNat
  number_injective := by
    rintro ⟨⟨leftAccount⟩, ⟨leftToken⟩⟩ ⟨⟨rightAccount⟩, ⟨rightToken⟩⟩ same
    have leftBound := leftToken.isLt
    have rightBound := rightToken.isLt
    simp only at same
    have tokens : leftToken = rightToken := BitVec.eq_of_toNat_eq (by omega)
    have accounts : leftAccount = rightAccount := BitVec.eq_of_toNat_eq (by omega)
    rw [tokens, accounts]

end Holding

namespace NftId

/-- Pieces are numbered by the token above the serial number's bits. -/
instance : Numbered NftId where
  number piece := piece.token.bits.toNat <<< 64 + piece.serial.toBitVec.toNat
  number_injective := by
    rintro ⟨⟨leftToken⟩, leftSerial⟩ ⟨⟨rightToken⟩, rightSerial⟩ same
    have leftBound := leftSerial.toBitVec.isLt
    have rightBound := rightSerial.toBitVec.isLt
    simp only at same
    have serials : leftSerial = rightSerial :=
      Int64.toBitVec_inj.mp (BitVec.eq_of_toNat_eq (by omega))
    have tokens : leftToken = rightToken := BitVec.eq_of_toNat_eq (by omega)
    rw [tokens, serials]

end NftId

namespace Grant

/-- Grants are numbered by owner, token and spender, from high to low. -/
instance : Numbered Grant where
  number grant :=
    (grant.owner.bits.toNat <<< 160 + grant.token.bits.toNat) <<< 160 +
      grant.spender.bits.toNat
  number_injective := by
    rintro ⟨⟨leftOwner⟩, ⟨leftToken⟩, ⟨leftSpender⟩⟩ ⟨⟨rightOwner⟩, ⟨rightToken⟩, ⟨rightSpender⟩⟩
      same
    have leftTokenBound := leftToken.isLt
    have rightTokenBound := rightToken.isLt
    have leftSpenderBound := leftSpender.isLt
    have rightSpenderBound := rightSpender.isLt
    simp only at same
    have spenders : leftSpender = rightSpender := BitVec.eq_of_toNat_eq (by omega)
    have tokens : leftToken = rightToken := BitVec.eq_of_toNat_eq (by omega)
    have owners : leftOwner = rightOwner := BitVec.eq_of_toNat_eq (by omega)
    rw [owners, tokens, spenders]

end Grant

end LedgerEvm
