import LedgerEvm.Ledger.Transfer
import LedgerEvm.Machine.Admission
import LedgerEvm.Machine.Frame

namespace LedgerEvm

/-!
# Effects of instructions

What each instruction does, except those that start another frame.  An instruction
takes its operands, pays what it costs beyond its static share, and leaves its
result.
-/

namespace Exec

/-! ## Computation -/

/-- Leave a function of one word. -/
def unary (operation : Word → Word) : Exec Unit := do
  push (operation (← pop))

/-- Leave a function of two words. -/
def binary (operation : Word → Word → Word) : Exec Unit := do
  let (first, second) ← pop2
  push (operation first second)

/-- Leave whether two words are related. -/
def relation (test : Word → Word → Bool) : Exec Unit := do
  let (first, second) ← pop2
  pushBool (test first second)

/-- Leave a function of three words. -/
def ternary (operation : Word → Word → Word → Word) : Exec Unit := do
  let (first, second, third) ← pop3
  push (operation first second third)

/-- Leave a power and pay for the size of the exponent. -/
def power : Exec Unit := do
  let (base, exponent) ← pop2
  charge ((Gas.pow exponent).subClamp Gas.powBase)
  push (Word.pow base exponent)

/-- Leave the hash of a window of memory. -/
def hashMemory : Exec Unit := do
  let (offset, size) ← pop2
  let (start, length) ← expand offset size
  charge (Gas.keccakWords length)
  push (Keccak.keccak256 (← readMemory start length)).word

/-! ## Surroundings -/

/-- Leave a word that the context tells. -/
def pushContext (read : FrameContext → Word) : Exec Unit := do
  push (read (← context))

/-- The word of a byte string at an offset, with zeros past the end. -/
def wordAt (bytes : Bytes) (offset : Word) : Word :=
  Word.ofBytes (bytes.window (Nat.min offset.toNat bytes.length) 32)

/--
Look at an address under the rules of the version and pay for the access.  A system
account is not looked up: it answers with nothing, at the price of a repeated read.
-/
def inspect (rule : AddressRule) (address : Address) : Exec Bool := do
  match ← ask fun world => world.judge rule address with
  | .systemAccount =>
      charge Gas.warmRead
      return false
  | .invalid => throw (.halt .invalidSolidityAddress)
  | .regular =>
      access address
      return true
where
  /-- Pay for the access to an account, which is warm from now on. -/
  access (address : Address) : Exec Unit := do
    let wasWarm ← ask fun world => .ok (world.isWarmAccount address)
    updateWorld fun world => world.warmAccount address
    charge (Gas.accountAccess wasWarm)

/-- A look at an address that answers with a default for system accounts. -/
def lookUp
    {α : Type}
    (rule : AddressRule)
    (address : Address)
    (default : α)
    (question : World → Except StateError α) :
    Exec α := do
  if ← inspect rule address then
    ask question
  else
    return default

/-- Leave the balance of an address. -/
def balance (rule : AddressRule) : Exec Unit := do
  let address ← popAddress
  push (← lookUp rule address 0 fun world => world.balance address)

/-- Leave the size of the code at an address. -/
def extCodeSize (rule : AddressRule) : Exec Unit := do
  let address ← popAddress
  let code ← lookUp rule address [] fun world => world.code address
  pushNat code.length

/-- Copy the code at an address into memory. -/
def extCodeCopy (rule : AddressRule) : Exec Unit := do
  let address ← popAddress
  let (destination, offset, size) ← pop3
  let code ← lookUp rule address [] fun world => world.code address
  copyToMemory destination offset size code

/-- The hash of the code at an address; where nothing is, zero. -/
def codeHashAt (world : World) (address : Address) : Except StateError Word := do
  match ← world.get address with
  | some account => return if account.isEmpty then 0 else account.codeHash.word
  | none => return 0

/-- Leave the hash of the code at an address. -/
def extCodeHash (rule : AddressRule) : Exec Unit := do
  let address ← popAddress
  push (← lookUp rule address 0 fun world => codeHashAt world address)

/-- Copy what the last call returned into memory; all of the window has to be there. -/
def returnDataCopy : Exec Unit := do
  let (destination, offset, size) ← pop3
  let data := (← frame).returnData
  if data.length < offset.toNat + size.toNat then
    throw
      (.returnDataOutOfBounds (offset.toNat % UInt64.size) (size.toNat % UInt64.size)
        data.length)
  copyToMemory destination offset size data

/-- Leave the hash of an earlier block, zero when it is not known. -/
def blockHash (hashes : BlockHashes) : Exec Unit := do
  let number ← pop
  let current := (← context).block.number
  let hash :=
    (UInt64.ofNat? number.toNat).bind fun number => hashes.visible? number current
  push ((hash.map Hash.word).getD 0)

/-- Leave the random value of the block, zero before there was one. -/
def randomValue (spec : Spec) : Exec Unit := do
  let block := (← context).block
  push (if spec.hasRandomValue then block.randomSeed.word else 0)

/-! ## Memory and storage -/

/-- Leave the word at an offset of memory. -/
def memoryLoad : Exec Unit := do
  let (start, _) ← expand (← pop) 32
  let memory := (← frame).memory
  push (memory.load start)

/-- Write a word to memory. -/
def memoryStore : Exec Unit := do
  let (offset, word) ← pop2
  let (start, _) ← expand offset 32
  updateMemory fun memory => memory.store start word

/-- Write the lowest byte of a word to memory. -/
def memoryStoreByte : Exec Unit := do
  let (offset, word) ← pop2
  let (start, _) ← expand offset 1
  updateMemory fun memory => memory.storeByte start (UInt8.ofNat word.toNat)

/-- Copy a window of memory to another place. -/
def memoryCopy : Exec Unit := do
  let (destination, source, size) ← pop3
  let (_, length) ← expand (if destination < source then source else destination) size
  charge (Gas.copy length)
  if length > 0 then
    updateMemory fun memory => memory.copy destination.toNat source.toNat length

/-- Leave the value of a storage slot. -/
def storageLoad : Exec Unit := do
  let key ← pop
  let address := (← context).address
  let wasWarm ← ask fun world => .ok (world.isWarmSlot address key)
  updateWorld fun world => world.warmSlot address key
  charge (Gas.storageLoad wasWarm)
  let value ← ask fun world => world.storage address key
  updateTrace fun trace => trace.recordStorage key value
  push value

/-- Write a storage slot; a frame that has hardly any gas left may not. -/
def storageStore : Exec Unit := do
  if (← frame).gas ≤ Gas.storageSentry then
    throw .outOfGas
  let (key, value) ← pop2
  let address := (← context).address
  let initial ← ask fun world => world.initialStorage address key
  let current ← ask fun world => world.storage address key
  let wasWarm ← ask fun world => .ok (world.isWarmSlot address key)
  updateWorld fun world => world.warmSlot address key
  let (cost, refund) := Gas.storageStore initial current value wasWarm
  charge cost
  updateFrame fun frame => { frame with refund := frame.refund + refund }
  updateWorld fun world => world.setStorage address key value
  updateTrace fun trace => trace.recordStorage key value

/-- Leave the value of a transient slot. -/
def transientLoad : Exec Unit := do
  let key ← pop
  let address := (← context).address
  push (← ask fun world => .ok (world.transient address key))

/-- Write a transient slot. -/
def transientStore : Exec Unit := do
  let (key, value) ← pop2
  let address := (← context).address
  updateWorld fun world => world.setTransient address key value

/-! ## Flow -/

/-- Go on at a jump destination when a condition is not zero. -/
def jumpIf : Exec Unit := do
  let (destination, condition) ← pop2
  if condition ≠ 0 then
    jump destination

/-- Leave the bytes of code that follow and go on behind them. -/
def pushImmediate (size : Nat) : Exec Unit := do
  let frame ← frame
  updateFrame fun frame => { frame with position := frame.position + size }
  push (frame.program.immediate frame.position size)

/-- End the frame with a window of memory as its output. -/
def finishWith (ending : FrameEnding) : Exec Unit := do
  let (offset, size) ← pop2
  let (start, length) ← expand offset size
  let output ← readMemory start length
  updateFrame fun frame => { frame with output }
  finish ending

/-- Leave a log with so many topics. -/
def log (prices : PriceSource) (count : Nat) : Exec Unit := do
  let (offset, size) ← pop2
  let topics ← popList count
  let (start, length) ← expand offset size
  let context ← context
  let charged := Gas.LogContext.contractCall context.block.timestamp context.gasPrice
  match Gas.log prices charged length count with
  | .ok cost => charge cost
  | .error error => throw (.ofPricing error)
  let data ← readMemory start length
  let log : Log := ⟨context.address, topics.map Hash.mk, data⟩
  updateFrame fun frame => { frame with logs := frame.logs.push log }

/--
Destroy the contract that is running: what it holds goes to the beneficiary.  Where
old contracts are spared, one that was there before the transaction only loses its
balance.
-/
def selfDestruct (rule : SelfDestructRule) : Exec Unit := do
  let contract := (← context).address
  let beneficiary ← popAddress
  match ← ask fun world => world.objectionToSelfDestruct? rule contract beneficiary with
  | some reason => throw (.halt reason)
  | none => pure ()
  let wasWarm ← ask fun world => .ok (world.isWarmAccount beneficiary)
  updateWorld fun world => world.warmAccount beneficiary
  let balance ← ask fun world => world.balance contract
  let beneficiaryAccount ← ask fun world => world.get beneficiary
  let isEmpty := (beneficiaryAccount.map Account.isEmpty).getD true
  charge (Gas.selfDestruct isEmpty balance + (if wasWarm then 0 else Gas.coldAccount))
  onSimulation (SimAction.change fun world => do
    return ((), ← world.transfer contract beneficiary balance))
  let isCreated ← ask fun world => .ok (world.isCreated contract)
  if !rule.sparesOldContracts || isCreated then
    onSimulation (SimAction.change fun world =>
      match world.deleteAccount contract with
      | .ok changed => .ok ((), changed)
      | .error error => .error (.state error))
  finish .stopped

end Exec

end LedgerEvm
