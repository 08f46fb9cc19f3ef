import LedgerEvm.Fee.Estimate
import LedgerEvm.Ledger.Token
import LedgerEvm.Machine.Admission
import LedgerEvm.Machine.Trace
import LedgerEvm.Message.Datum
import LedgerEvm.TokenService.Function
import LedgerEvm.TokenService.Pricing

namespace LedgerEvm

/-!
# Names

Choices among a few possibilities are written by name.
-/

/-- Types whose values have names. -/
class Named (α : Type) where
  /-- What a missing or unknown name stands for. -/
  standard : α
  /-- The names with what they stand for. -/
  names : List (String × α)

namespace Named

variable {α : Type} [Named α]

/-- The value that a name stands for. -/
def ofName (name : String) : α :=
  (((names : List (String × α)).find? fun entry => entry.1 == name).map Prod.snd).getD standard

/-- The name of a value. -/
def name? [DecidableEq α] (value : α) : Option String :=
  ((names : List (String × α)).find? fun entry => entry.2 = value).map Prod.fst

instance : OfDatum α := ⟨fun datum => ofName datum.content⟩
instance [DecidableEq α] : ToDatum α := ⟨fun value => .of (name? value)⟩

end Named

instance : Named AccountKind where
  standard := .regular
  names := [("Regular", .regular), ("Contract", .contract), ("Token", .token)]

instance : Named TokenKind where
  standard := .fungible
  names := [("FungibleCommon", .fungible), ("NonFungibleUnique", .nonFungible)]

instance : Named PriceVariant where
  standard := .standard
  names :=
    [("Default", .standard), ("TokenFungibleCommon", .fungibleToken),
     ("TokenNonFungibleUnique", .nonFungibleToken)]

instance : Named Functionality where
  standard := .none
  names := Functionality.all.map fun functionality => (functionality.name, functionality)

instance : Named Spec where
  standard := .london
  names :=
    [("London", .london), ("Paris", .paris), ("Shanghai", .shanghai), ("Cancun", .cancun)]

instance : Named TraceMode where
  standard := .operation
  names := [("Opcode", .opcode), ("Operation", .operation)]

instance : Named AddressVerdict where
  standard := .regular
  names :=
    [("Regular", .regular), ("SystemAccount", .systemAccount), ("Invalid", .invalid)]

instance : Named Resource where
  standard := .constant
  names :=
    [("Constant", .constant), ("Bpt", .bpt), ("Vpt", .vpt), ("Rbh", .rbh), ("Sbh", .sbh),
     ("Gas", .gas), ("Tv", .tv), ("Bpr", .bpr), ("Sbpr", .sbpr)]

instance : Named Estimator where
  standard := .base
  names := [("associate", .tokenAssociate), ("delete", .tokenDelete), ("base", .base)]

instance : Named OperationKind where
  standard := .associate
  names :=
    [("Associate", .associate), ("Dissociate", .dissociate), ("MintFungible", .mintFungible),
     ("MintNft", .mintNft), ("BurnFungible", .burnFungible), ("BurnNft", .burnNft),
     ("WipeFungible", .wipeFungible), ("WipeNft", .wipeNft),
     ("TransferFungible", .transferFungible), ("TransferNft", .transferNft),
     ("Approve", .approve), ("Create", .create), ("Prng", .randomSeed)]

instance : Named TokenFunction where
  standard := .associateToken
  names :=
    [("AssociateToken", .associateToken), ("AssociateTokens", .associateTokens),
     ("DissociateToken", .dissociateToken), ("DissociateTokens", .dissociateTokens),
     ("MintToken", .mintToken), ("BurnToken", .burnToken),
     ("WipeTokenAccount", .wipeTokenAccount), ("WipeTokenAccountNft", .wipeTokenAccountNft),
     ("TransferToken", .transferToken), ("TransferNft", .transferNft),
     ("TransferTokens", .transferTokens), ("Approve", .approve), ("ApproveNft", .approveNft),
     ("GetApproved", .getApproved), ("CreateFungibleToken", .createFungibleToken),
     ("ErcApprove", .ercApprove), ("ErcTransfer", .ercTransfer),
     ("ErcTransferFrom", .ercTransferFrom), ("ErcGetApproved", .ercGetApproved)]

instance : Named OutputShape where
  standard := .status
  names :=
    [("Status", .status), ("Mint", .mint), ("Burn", .burn), ("Approve", .approve),
     ("GetApproved", .getApproved), ("Create", .create), ("ErcBool", .ercBool),
     ("ErcAddress", .ercAddress)]

end LedgerEvm
