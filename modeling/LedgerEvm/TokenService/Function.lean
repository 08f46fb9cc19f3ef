import LedgerEvm.Abi.Selector

namespace LedgerEvm

/-!
# Functions of the token service

The service's own address answers fifteen functions.  Every token's address answers
four more, which concern that token.
-/

/-- The functions that the token service answers. -/
inductive TokenFunction where
  | associateToken
  | associateTokens
  | dissociateToken
  | dissociateTokens
  | mintToken
  | burnToken
  | wipeTokenAccount
  | wipeTokenAccountNft
  | transferToken
  | transferNft
  | transferTokens
  | approve
  | approveNft
  | getApproved
  | createFungibleToken
  | ercApprove
  | ercTransfer
  | ercTransferFrom
  | ercGetApproved
  deriving Repr, DecidableEq

/-- The shapes of what functions return. -/
inductive OutputShape where
  | status
  | mint
  | burn
  | approve
  | getApproved
  | create
  | ercBool
  | ercAddress
  deriving Repr, DecidableEq

namespace TokenFunction

/-- The functions at the service's own address. -/
def ofService : List TokenFunction :=
  [.associateToken, .associateTokens, .dissociateToken, .dissociateTokens, .mintToken,
   .burnToken, .wipeTokenAccount, .wipeTokenAccountNft, .transferToken, .transferNft,
   .transferTokens, .approve, .approveNft, .getApproved, .createFungibleToken]

/-- The functions at the address of a token. -/
def ofTokens : List TokenFunction :=
  [.ercApprove, .ercTransfer, .ercTransferFrom, .ercGetApproved]

/-- The name of a function. -/
def name : TokenFunction → String
  | .associateToken => "associateToken"
  | .associateTokens => "associateTokens"
  | .dissociateToken => "dissociateToken"
  | .dissociateTokens => "dissociateTokens"
  | .mintToken => "mintToken"
  | .burnToken => "burnToken"
  | .wipeTokenAccount => "wipeTokenAccount"
  | .wipeTokenAccountNft => "wipeTokenAccountNFT"
  | .transferToken => "transferToken"
  | .transferNft => "transferNFT"
  | .transferTokens => "transferTokens"
  | .approve => "approve"
  | .approveNft => "approveNFT"
  | .getApproved => "getApproved"
  | .createFungibleToken => "createFungibleToken"
  | .ercApprove => "approve"
  | .ercTransfer => "transfer"
  | .ercTransferFrom => "transferFrom"
  | .ercGetApproved => "getApproved"

/-- The parameter types of a function as its signature writes them. -/
def parameters : TokenFunction → String
  | .associateToken => "(address,address)"
  | .associateTokens => "(address,address[])"
  | .dissociateToken => "(address,address)"
  | .dissociateTokens => "(address,address[])"
  | .mintToken => "(address,uint64,bytes[])"
  | .burnToken => "(address,uint64,int64[])"
  | .wipeTokenAccount => "(address,address,uint32)"
  | .wipeTokenAccountNft => "(address,address,int64[])"
  | .transferToken => "(address,address,address,int64)"
  | .transferNft => "(address,address,address,int64)"
  | .transferTokens => "(address,address[],int64[])"
  | .approve => "(address,address,uint256)"
  | .approveNft => "(address,address,uint256)"
  | .getApproved => "(address,uint256)"
  | .createFungibleToken => "(string,string,address,uint64,uint32)"
  | .ercApprove => "(address,uint256)"
  | .ercTransfer => "(address,uint256)"
  | .ercTransferFrom => "(address,address,uint256)"
  | .ercGetApproved => "(uint256)"

/-- The signature of a function. -/
def signature (function : TokenFunction) : String :=
  function.name ++ function.parameters

/-- The selector of a function. -/
def selector (function : TokenFunction) : Selector :=
  Selector.ofSignature function.signature

/-- The shape of what a function returns. -/
def output : TokenFunction → OutputShape
  | .mintToken => .mint
  | .burnToken => .burn
  | .approve => .approve
  | .getApproved => .getApproved
  | .createFungibleToken => .create
  | .ercApprove => .ercBool
  | .ercTransfer => .ercBool
  | .ercTransferFrom => .ercBool
  | .ercGetApproved => .ercAddress
  | _ => .status

/-- Whether a function only reads. -/
def isView : TokenFunction → Bool
  | .getApproved => true
  | .ercGetApproved => true
  | _ => false

/-- The functions at the service's own address with their selectors. -/
def serviceTable : List (Selector × TokenFunction) :=
  ofService.map fun function => (function.selector, function)

/-- The functions at the address of a token with their selectors. -/
def tokenTable : List (Selector × TokenFunction) :=
  ofTokens.map fun function => (function.selector, function)

/-- Every function is answered somewhere. -/
theorem mem_ofService_or_mem_ofTokens
    (function : TokenFunction) :
    function ∈ ofService ∨ function ∈ ofTokens := by
  cases function <;> simp [ofService, ofTokens]

end TokenFunction

end LedgerEvm
