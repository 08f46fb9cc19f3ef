import LedgerEvm.Ledger.World
import LedgerEvm.Range

namespace LedgerEvm

/-!
# Token actions

A token action reads and writes the world and may be refused.  What it wrote
before it was refused is still there: whoever runs it decides whether to keep it.
-/

/-- An action of the token service on the world. -/
abbrev TokenAction := EStateM PrecompileError World

namespace TokenAction

/-- The answer of the world to a question. -/
def ask {α : Type} (question : World → Except StateError α) : TokenAction α := fun world =>
  match question world with
  | .ok answer => .ok answer world
  | .error error => .error (.ofState error) world

/-- Change the world. -/
def change (update : World → World) : TokenAction Unit :=
  modify update

/-- Refuse with a response code. -/
def refuse {α : Type} (code : ResponseCode) : TokenAction α :=
  throw (.failed code)

/-- Refuse with a response code unless a condition holds. -/
def ensure (condition : Bool) (code : ResponseCode) : TokenAction Unit :=
  if condition then pure () else refuse code

/-- A result, or a refusal with a response code. -/
def require {α : Type} (result : Option α) (code : ResponseCode) : TokenAction α :=
  match result with
  | some value => pure value
  | none => refuse code

/-- The token at an address, deleted or not; there has to be one. -/
def knownToken (address : Address) : TokenAction Token := do
  match ← ask fun world => world.token address with
  | some token => pure token
  | none => throw (.missingEntity ("token " ++ address.text))

/-- The token at an address, neither deleted nor paused. -/
def liveToken (address : Address) : TokenAction Token := do
  let token ← knownToken address
  ensure (!token.deleted) .tokenWasDeleted
  ensure (!token.paused) .tokenIsPaused
  pure token

/-- Refuse unless an address reaches an account that stands for no token. -/
def ensureAccount (address : Address) (code : ResponseCode) : TokenAction Unit := do
  let account ← ask fun world => world.get address
  ensure (account.any fun found => !found.isToken) code

/-- Refuse unless the account that an operation is about can be its subject. -/
def ensureSubject (address : Address) : TokenAction Unit := do
  match ← ask fun world => world.get address with
  | some account => ensure (!account.isToken) .invalidAccountId
  | none => throw (.missingEntity ("account " ++ address.text))

/-- The association of an account with a token; there has to be one. -/
def relationship (account token : Address) : TokenAction Relationship := do
  require (← ask fun world => world.relationship account token) .tokenNotAssociatedToAccount

/-- A numbered piece of a token; it has to exist. -/
def piece (token : Address) (serial : Int64) : TokenAction Nft := do
  require (← ask fun world => world.nft token serial) .invalidNftId

/-- Change an account; where none can be reached nothing happens. -/
def adjust (address : Address) (update : Account → Account) : TokenAction Unit := fun world =>
  match world.updateAccount address update with
  | .ok (_, changed) => .ok () changed
  | .error error => .error (.ofState error) world

/-- Write the balance of an association and count the account's positive balances. -/
def setBalance (holding : Relationship) (balance : UInt64) : TokenAction Unit := do
  change fun world =>
    world.putRelationship holding.account holding.token (some { holding with balance })
  if holding.balance = 0 ∧ balance > 0 then
    adjust holding.account fun account =>
      { account with numPositiveBalances := account.numPositiveBalances + 1 }
  else if holding.balance > 0 ∧ balance = 0 then
    adjust holding.account fun account =>
      { account with numPositiveBalances := account.numPositiveBalances.subClamp 1 }

/-- A balance after a credit or debit, or a refusal when it leaves the range. -/
def shifted (balance : UInt64) (delta : Int64) (code : ResponseCode) : TokenAction UInt64 :=
  require (UInt64.ofInt? (balance.toNat + delta.toInt)) code

/-- A balance after a deduction, or a refusal when there is too little. -/
def reduced (balance amount : UInt64) (code : ResponseCode) : TokenAction UInt64 :=
  if amount ≤ balance then pure (balance - amount) else refuse code

end TokenAction

end LedgerEvm
