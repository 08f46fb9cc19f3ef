import LedgerEvm.TokenService.Approval
import LedgerEvm.TokenService.Association
import LedgerEvm.TokenService.Creation
import LedgerEvm.TokenService.Output
import LedgerEvm.TokenService.Transfer

namespace LedgerEvm

/-!
# Carrying out transactions

Each kind of transaction that the token service knows has its action and its kind
of result.
-/

namespace TransactionBody

/-- A text between the braces that stand around fields. -/
def braced (kind fields : String) : String :=
  kind ++ " \x7b " ++ fields ++ " \x7d"

/-- The text of a body that the token service does not know. -/
def text : TransactionBody → String
  | .contractCall call =>
      "ContractCall(" ++
        braced "ContractCallBody"
          ("contract: " ++ call.contract.text ++ ", gas: " ++ toString call.gas.toNat ++
            ", amount: " ++ toString call.amount.toInt ++ ", function_parameters: " ++
            call.parameters.summary) ++
        ")"
  | .tokenDelete token =>
      "TokenDelete(" ++ braced "TokenDeleteBody" ("token: " ++ token.text) ++ ")"
  | .unrecognized kind => "Unrecognized(" ++ Text.quote kind ++ ")"
  | body => body.functionalityOrNone.name

end TransactionBody

namespace TokenAction

/-- Carry out a transaction for the sender. -/
def run (body : TransactionBody) (sender : Address) : TokenAction TokenResult :=
  match body with
  | .tokenAssociateToAccount relations => do
      associate relations
      pure .status
  | .tokenDissociateFromAccount relations => do
      dissociate relations
      pure .status
  | .tokenMint mint => do
      pure (.mint (← TokenAction.mint mint))
  | .tokenBurn burn => do
      pure (.burn (← TokenAction.burn burn))
  | .tokenAccountWipe wipe => do
      pure (.wipe (← TokenAction.wipe wipe))
  | .cryptoTransfer transfer => do
      TokenAction.transfer transfer sender
      pure .status
  | .cryptoApproveAllowance approval => do
      approve approval
      pure (.approve true)
  | .tokenCreate creation => do
      pure (.create (← create creation sender))
  | other => throw (.decode ("no token logic for " ++ other.text))

/-- Run an action in a frame of its own: its writes are kept only when it succeeds. -/
def framed {α : Type} (action : TokenAction α) : TokenAction α := fun world =>
  match action world.push with
  | .ok result inner => .ok result inner.commit
  | .error error inner => .error error inner.revert

end TokenAction

end LedgerEvm
