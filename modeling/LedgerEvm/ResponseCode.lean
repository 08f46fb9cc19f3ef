namespace LedgerEvm

/-!
# Response codes

The ledger answers a token operation with one of these codes.  Contracts see the
number, messages show the name.
-/

/-- The ledger's answer to an operation. -/
inductive ResponseCode where
  | ok
  | invalidTransactionBody
  | invalidAccountId
  | success
  | insufficientAccountBalance
  | accountFrozenForToken
  | invalidTokenId
  | invalidTreasuryAccountForToken
  | accountKycNotGrantedForToken
  | insufficientTokenBalance
  | tokenWasDeleted
  | tokenHasNoSupplyKey
  | tokenHasNoWipeKey
  | invalidTokenMintAmount
  | invalidTokenBurnAmount
  | tokenNotAssociatedToAccount
  | cannotWipeTokenTreasuryAccount
  | invalidWipingAmount
  | tokenAlreadyAssociatedToAccount
  | transactionRequiresZeroTokenBalances
  | accountIsTreasury
  | tokenIdRepeatedInTokenList
  | emptyTokenList
  | invalidNftId
  | tokenMaxSupplyReached
  | senderDoesNotOwnNftSerialNo
  | tokenIsPaused
  | spenderDoesNotHaveAllowance
  | amountExceedsAllowance
  | invalidAllowanceOwnerId
  | invalidAllowanceSpenderId
  deriving Repr, DecidableEq

namespace ResponseCode

/-- The number of a code. -/
def code : ResponseCode → Int64
  | .ok => 0
  | .invalidTransactionBody => 7
  | .invalidAccountId => 15
  | .success => 22
  | .insufficientAccountBalance => 28
  | .accountFrozenForToken => 165
  | .invalidTokenId => 167
  | .invalidTreasuryAccountForToken => 170
  | .accountKycNotGrantedForToken => 176
  | .insufficientTokenBalance => 178
  | .tokenWasDeleted => 179
  | .tokenHasNoSupplyKey => 180
  | .tokenHasNoWipeKey => 181
  | .invalidTokenMintAmount => 182
  | .invalidTokenBurnAmount => 183
  | .tokenNotAssociatedToAccount => 184
  | .cannotWipeTokenTreasuryAccount => 185
  | .invalidWipingAmount => 192
  | .tokenAlreadyAssociatedToAccount => 194
  | .transactionRequiresZeroTokenBalances => 195
  | .accountIsTreasury => 196
  | .tokenIdRepeatedInTokenList => 197
  | .emptyTokenList => 223
  | .invalidNftId => 226
  | .tokenMaxSupplyReached => 229
  | .senderDoesNotOwnNftSerialNo => 237
  | .tokenIsPaused => 254
  | .spenderDoesNotHaveAllowance => 292
  | .amountExceedsAllowance => 293
  | .invalidAllowanceOwnerId => 300
  | .invalidAllowanceSpenderId => 301

/-- The name of a code. -/
def name : ResponseCode → String
  | .ok => "OK"
  | .invalidTransactionBody => "INVALID_TRANSACTION_BODY"
  | .invalidAccountId => "INVALID_ACCOUNT_ID"
  | .success => "SUCCESS"
  | .insufficientAccountBalance => "INSUFFICIENT_ACCOUNT_BALANCE"
  | .accountFrozenForToken => "ACCOUNT_FROZEN_FOR_TOKEN"
  | .invalidTokenId => "INVALID_TOKEN_ID"
  | .invalidTreasuryAccountForToken => "INVALID_TREASURY_ACCOUNT_FOR_TOKEN"
  | .accountKycNotGrantedForToken => "ACCOUNT_KYC_NOT_GRANTED_FOR_TOKEN"
  | .insufficientTokenBalance => "INSUFFICIENT_TOKEN_BALANCE"
  | .tokenWasDeleted => "TOKEN_WAS_DELETED"
  | .tokenHasNoSupplyKey => "TOKEN_HAS_NO_SUPPLY_KEY"
  | .tokenHasNoWipeKey => "TOKEN_HAS_NO_WIPE_KEY"
  | .invalidTokenMintAmount => "INVALID_TOKEN_MINT_AMOUNT"
  | .invalidTokenBurnAmount => "INVALID_TOKEN_BURN_AMOUNT"
  | .tokenNotAssociatedToAccount => "TOKEN_NOT_ASSOCIATED_TO_ACCOUNT"
  | .cannotWipeTokenTreasuryAccount => "CANNOT_WIPE_TOKEN_TREASURY_ACCOUNT"
  | .invalidWipingAmount => "INVALID_WIPING_AMOUNT"
  | .tokenAlreadyAssociatedToAccount => "TOKEN_ALREADY_ASSOCIATED_TO_ACCOUNT"
  | .transactionRequiresZeroTokenBalances => "TRANSACTION_REQUIRES_ZERO_TOKEN_BALANCES"
  | .accountIsTreasury => "ACCOUNT_IS_TREASURY"
  | .tokenIdRepeatedInTokenList => "TOKEN_ID_REPEATED_IN_TOKEN_LIST"
  | .emptyTokenList => "EMPTY_TOKEN_LIST"
  | .invalidNftId => "INVALID_NFT_ID"
  | .tokenMaxSupplyReached => "TOKEN_MAX_SUPPLY_REACHED"
  | .senderDoesNotOwnNftSerialNo => "SENDER_DOES_NOT_OWN_NFT_SERIAL_NO"
  | .tokenIsPaused => "TOKEN_IS_PAUSED"
  | .spenderDoesNotHaveAllowance => "SPENDER_DOES_NOT_HAVE_ALLOWANCE"
  | .amountExceedsAllowance => "AMOUNT_EXCEEDS_ALLOWANCE"
  | .invalidAllowanceOwnerId => "INVALID_ALLOWANCE_OWNER_ID"
  | .invalidAllowanceSpenderId => "INVALID_ALLOWANCE_SPENDER_ID"

/-- Every code, in the order of the numbers. -/
def all : List ResponseCode :=
  [.ok, .invalidTransactionBody, .invalidAccountId, .success, .insufficientAccountBalance,
   .accountFrozenForToken, .invalidTokenId, .invalidTreasuryAccountForToken,
   .accountKycNotGrantedForToken, .insufficientTokenBalance, .tokenWasDeleted,
   .tokenHasNoSupplyKey, .tokenHasNoWipeKey, .invalidTokenMintAmount,
   .invalidTokenBurnAmount, .tokenNotAssociatedToAccount, .cannotWipeTokenTreasuryAccount,
   .invalidWipingAmount, .tokenAlreadyAssociatedToAccount,
   .transactionRequiresZeroTokenBalances, .accountIsTreasury, .tokenIdRepeatedInTokenList,
   .emptyTokenList, .invalidNftId, .tokenMaxSupplyReached, .senderDoesNotOwnNftSerialNo,
   .tokenIsPaused, .spenderDoesNotHaveAllowance, .amountExceedsAllowance,
   .invalidAllowanceOwnerId, .invalidAllowanceSpenderId]

/-- The list of codes misses none. -/
theorem mem_all
    (response : ResponseCode) :
    response ∈ all := by
  cases response <;> simp [all]

/-- Different codes have different numbers. -/
theorem code_injective
    {left right : ResponseCode}
    (same : left.code = right.code) :
    left = right := by
  revert same
  cases left <;> cases right <;> decide

end ResponseCode

end LedgerEvm
