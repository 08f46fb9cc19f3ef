import LedgerEvm.Proofs.TokenService.Calls
import LedgerEvm.Proofs.TokenService.SteadyTransactions

namespace LedgerEvm

/-!
# Steady calls of the token service

Whatever the input of a call, it is read and priced alike over both snapshots, and what it is
read into is carried out alike.  A call that cannot be read, that has no price or that is
refused fails in a way that ends no more than its frame.
-/

/-! ## Reading -/

namespace ValueReader

variable
  {tolerance : Tolerance}
  {α β : Type}

/-- Whatever is read, a failure to read it may be shared. -/
def Steady (tolerance : Tolerance) (reader : ValueReader α) : Prop :=
  ∀ values, tolerance.Matches Eq (reader values) (reader values)

theorem steady_pure
    (result : α) :
    Steady tolerance (pure result) :=
  fun _ => .ok rfl

theorem steady_throw
    (what : String) :
    Steady tolerance (throwThe PrecompileError (.decode what) : ValueReader α) :=
  fun _ => .error (tolerance.shares rfl)

theorem steady_bind
    {first : ValueReader β}
    {next : β → ValueReader α}
    (begins : Steady tolerance first)
    (goesOn : ∀ value, Steady tolerance (next value)) :
    Steady tolerance (first >>= next) :=
  fun values => (begins values).bind_eq fun found => goesOn found.1 found.2

theorem steady_next :
    Steady tolerance next := by
  intro values
  cases values with
  | nil => exact .error (tolerance.shares rfl)
  | cons value rest => exact .ok rfl

theorem steady_nextAs
    (convert : AbiValue → Except AbiError α) :
    Steady tolerance (nextAs convert) := by
  refine steady_bind steady_next fun value => ?_
  split
  · exact steady_pure _
  · exact steady_throw _

theorem steady_nextList
    (convert : AbiValue → Except AbiError α) :
    Steady tolerance (nextList convert) := by
  refine steady_bind (steady_nextAs _) fun items => ?_
  split
  · exact steady_pure _
  · exact steady_throw _

theorem matches_readFrom
    {reader : ValueReader α}
    (steady : Steady tolerance reader)
    (values : Except AbiError (List AbiValue)) :
    tolerance.Matches Eq (readFrom values reader) (readFrom values reader) := by
  unfold readFrom
  split
  · exact (steady _).bind_eq fun _ => .ok rfl
  · exact .error (tolerance.shares rfl)

end ValueReader

namespace TokenFunction

open ValueReader (steady_pure steady_throw steady_bind steady_nextAs steady_nextList
  matches_readFrom)

variable {tolerance : Tolerance}

theorem matches_readRelations
    (selector : Selector)
    (input : Bytes)
    (several : Bool) :
    tolerance.Matches Eq (readRelations selector input several)
      (readRelations selector input several) := by
  unfold readRelations
  split
  · refine matches_readFrom ?_ _
    refine steady_bind (steady_nextAs _) fun account => ?_
    exact steady_bind (steady_nextList _) fun _ => steady_pure _
  · refine matches_readFrom ?_ _
    refine steady_bind (steady_nextAs _) fun account => ?_
    exact steady_bind (steady_nextAs _) fun _ => steady_pure _

theorem matches_readMint
    (selector : Selector)
    (input : Bytes) :
    tolerance.Matches Eq (readMint selector input) (readMint selector input) := by
  refine matches_readFrom ?_ _
  refine steady_bind (steady_nextAs _) fun token => ?_
  refine steady_bind (steady_nextAs _) fun amount => ?_
  exact steady_bind (steady_nextList _) fun _ => steady_pure _

theorem matches_readBurn
    (selector : Selector)
    (input : Bytes) :
    tolerance.Matches Eq (readBurn selector input) (readBurn selector input) := by
  refine matches_readFrom ?_ _
  refine steady_bind (steady_nextAs _) fun token => ?_
  refine steady_bind (steady_nextAs _) fun amount => ?_
  exact steady_bind (steady_nextList _) fun _ => steady_pure _

theorem matches_readWipe
    (selector : Selector)
    (input : Bytes) :
    tolerance.Matches Eq (readWipe selector input) (readWipe selector input) := by
  refine matches_readFrom ?_ _
  refine steady_bind (steady_nextAs _) fun token => ?_
  refine steady_bind (steady_nextAs _) fun account => ?_
  exact steady_bind (steady_nextAs _) fun _ => steady_pure _

theorem matches_readWipePieces
    (selector : Selector)
    (input : Bytes) :
    tolerance.Matches Eq (readWipePieces selector input) (readWipePieces selector input) := by
  refine matches_readFrom ?_ _
  refine steady_bind (steady_nextAs _) fun token => ?_
  refine steady_bind (steady_nextAs _) fun account => ?_
  exact steady_bind (steady_nextList _) fun _ => steady_pure _

theorem matches_readTransfer
    (selector : Selector)
    (input : Bytes)
    (isNonFungible : Bool) :
    tolerance.Matches Eq (readTransfer selector input isNonFungible)
      (readTransfer selector input isNonFungible) := by
  refine matches_readFrom ?_ _
  refine steady_bind (steady_nextAs _) fun token => ?_
  refine steady_bind (steady_nextAs _) fun source => ?_
  refine steady_bind (steady_nextAs _) fun target => ?_
  exact steady_bind (steady_nextAs _) fun _ => steady_pure _

theorem matches_readTransferList
    (selector : Selector)
    (input : Bytes) :
    tolerance.Matches Eq (readTransferList selector input)
      (readTransferList selector input) := by
  refine matches_readFrom ?_ _
  refine steady_bind (steady_nextAs _) fun token => ?_
  refine steady_bind (steady_nextList _) fun accounts => ?_
  refine steady_bind (steady_nextList _) fun amounts => ?_
  dsimp only
  split
  · exact steady_bind (steady_throw _) fun _ => steady_pure _
  · exact steady_pure _

theorem matches_readOwnTransfer
    (input : Bytes)
    (setting : TransferSetting) :
    tolerance.Matches Eq (readOwnTransfer input setting) (readOwnTransfer input setting) := by
  refine matches_readFrom ?_ _
  refine steady_bind (steady_nextAs _) fun target => ?_
  exact steady_bind (steady_nextAs _) fun _ => steady_pure _

theorem matches_readTransferFor
    (input : Bytes)
    (setting : TransferSetting) :
    tolerance.Matches Eq (readTransferFor input setting) (readTransferFor input setting) := by
  refine matches_readFrom ?_ _
  refine steady_bind (steady_nextAs _) fun source => ?_
  refine steady_bind (steady_nextAs _) fun target => ?_
  exact steady_bind (steady_nextAs _) fun _ => steady_pure _

theorem steady_readGrant
    (setting : ApprovalSetting)
    (token : Address) :
    ValueReader.Steady tolerance (readGrant setting token) := by
  refine steady_bind (steady_nextAs _) fun spender => ?_
  split
  · exact steady_bind (steady_nextAs _) fun _ => steady_pure _
  · exact steady_bind (steady_nextAs _) fun _ => steady_pure _

theorem matches_readApproval
    (selector : Selector)
    (input : Bytes)
    (setting : ApprovalSetting) :
    tolerance.Matches Eq (readApproval selector input setting)
      (readApproval selector input setting) := by
  refine matches_readFrom ?_ _
  exact steady_bind (steady_nextAs _) fun token => steady_readGrant setting token

theorem matches_readQuery
    (selector : Selector)
    (input : Bytes) :
    tolerance.Matches Eq (readQuery selector input) (readQuery selector input) := by
  refine matches_readFrom ?_ _
  refine steady_bind (steady_nextAs _) fun token => ?_
  exact steady_bind (steady_nextAs _) fun _ => steady_pure _

theorem matches_readCreation
    (selector : Selector)
    (input : Bytes) :
    tolerance.Matches Eq (readCreation selector input) (readCreation selector input) := by
  refine matches_readFrom ?_ _
  refine steady_bind (steady_nextAs _) fun name => ?_
  refine steady_bind (steady_nextAs _) fun symbol => ?_
  refine steady_bind (steady_nextAs _) fun treasury => ?_
  refine steady_bind (steady_nextAs _) fun initialSupply => ?_
  refine steady_bind (steady_nextAs _) fun decimals => ?_
  split
  · exact steady_pure _
  · exact steady_throw _

theorem matches_readCall
    (function : TokenFunction)
    (input : Bytes)
    (setting : CallSetting)
    (sender : Address) :
    tolerance.Matches Eq (readCall function input setting sender)
      (readCall function input setting sender) := by
  have missing : tolerance.Matches Eq
      (Except.error function.missingToken : Except PrecompileError TokenCall)
      (.error function.missingToken) :=
    .error (tolerance.shares rfl)
  cases function with
  | associateToken | associateTokens | dissociateToken | dissociateTokens =>
      exact (matches_readRelations _ _ _).bind_eq fun _ => .ok rfl
  | mintToken => exact (matches_readMint _ _).bind_eq fun _ => .ok rfl
  | burnToken => exact (matches_readBurn _ _).bind_eq fun _ => .ok rfl
  | wipeTokenAccount => exact (matches_readWipe _ _).bind_eq fun _ => .ok rfl
  | wipeTokenAccountNft => exact (matches_readWipePieces _ _).bind_eq fun _ => .ok rfl
  | transferToken | transferNft => exact (matches_readTransfer _ _ _).bind_eq fun _ => .ok rfl
  | transferTokens => exact (matches_readTransferList _ _).bind_eq fun _ => .ok rfl
  | approve | approveNft => exact (matches_readApproval _ _ _).bind_eq fun _ => .ok rfl
  | getApproved => exact (matches_readQuery _ _).bind_eq fun _ => .ok rfl
  | createFungibleToken => exact (matches_readCreation _ _).bind_eq fun _ => .ok rfl
  | ercApprove =>
      cases setting with
      | approval approval =>
          exact (matches_readFrom (steady_readGrant _ _) _).bind_eq fun _ => .ok rfl
      | _ => exact missing
  | ercTransfer =>
      cases setting with
      | transfer transfer => exact (matches_readOwnTransfer _ _).bind_eq fun _ => .ok rfl
      | _ => exact missing
  | ercTransferFrom =>
      cases setting with
      | transfer transfer => exact (matches_readTransferFor _ _).bind_eq fun _ => .ok rfl
      | _ => exact missing
  | ercGetApproved =>
      cases setting with
      | approval approval =>
          refine (matches_readFrom ?_ _).bind_eq fun _ => .ok rfl
          exact steady_bind (steady_nextAs _) fun _ => steady_pure _
      | _ => exact missing

end TokenFunction

/-! ## Pricing -/

namespace PriceSource

variable {tolerance : Tolerance}

theorem matches_pricesOf
    (schedule : FeeSchedule)
    (functionality : Functionality)
    (instant : Timestamp) :
    tolerance.Matches Eq (schedule.pricesOf functionality instant)
      (schedule.pricesOf functionality instant) := by
  unfold FeeSchedule.pricesOf
  dsimp only
  split
  · exact .error (tolerance.shares rfl)
  · exact .ok rfl

theorem matches_standardPrices
    (schedule : FeeSchedule)
    (functionality : Functionality)
    (instant : Timestamp) :
    tolerance.Matches Eq (schedule.standardPrices functionality instant)
      (schedule.standardPrices functionality instant) := by
  refine (matches_pricesOf _ _ _).bind_eq fun prices => ?_
  split
  · exact .ok rfl
  · exact .error (tolerance.shares rfl)

theorem matches_variantPrices
    (schedule : FeeSchedule)
    (functionality : Functionality)
    (variant : PriceVariant)
    (instant : Timestamp) :
    tolerance.Matches Eq (schedule.variantPrices functionality variant instant)
      (schedule.variantPrices functionality variant instant) := by
  refine (matches_pricesOf _ _ _).bind_eq fun prices => ?_
  split
  · exact .ok rfl
  · exact .error (tolerance.shares rfl)

theorem matches_rateAt
    (rates : RateTable)
    (instant : Timestamp) :
    tolerance.Matches Eq (rates.rateAt instant) (rates.rateAt instant) := by
  unfold RateTable.rateAt
  dsimp only
  split
  · exact .ok rfl
  · exact .error (tolerance.shares rfl)

theorem matches_price
    (source : PriceSource)
    (functionality : Functionality)
    (resource : Resource)
    (instant : Timestamp) :
    tolerance.Matches Eq (source.price functionality resource instant)
      (source.price functionality resource instant) := by
  have tinycents :
      tolerance.Matches Eq (source.tinycents functionality resource instant)
        (source.tinycents functionality resource instant) :=
    (matches_standardPrices _ _ _).bind_eq fun _ => .ok rfl
  exact tinycents.bind_eq fun _ => (matches_rateAt _ _).bind_eq fun _ => .ok rfl

theorem matches_minimumPrice
    (source : PriceSource)
    (kind : OperationKind)
    (instant : Timestamp) :
    tolerance.Matches Eq (source.minimumPrice kind instant)
      (source.minimumPrice kind instant) :=
  (matches_rateAt _ _).bind_eq fun _ => .ok rfl

theorem matches_callGasPrice
    (source : PriceSource)
    (instant : Timestamp) :
    tolerance.Matches Eq (source.callGasPrice instant) (source.callGasPrice instant) :=
  (matches_price _ _ _ _).bind_eq fun _ => .ok rfl

theorem matches_queryGas
    (source : PriceSource)
    (instant : Timestamp)
    (minimumGas : UInt64) :
    tolerance.Matches Eq (source.queryGas instant minimumGas)
      (source.queryGas instant minimumGas) :=
  (matches_callGasPrice _ _).bind_eq fun _ => (matches_price _ _ _ _).bind_eq fun _ => .ok rfl

theorem matches_minimumGas
    (source : PriceSource)
    (instant : Timestamp)
    (kind : OperationKind) :
    tolerance.Matches Eq (source.minimumGas instant kind) (source.minimumGas instant kind) :=
  (matches_callGasPrice _ _).bind_eq fun _ =>
    (matches_minimumPrice _ _ _).bind_eq fun _ => .ok rfl

variable
  {comparison : Comparison}
  {first second : World}

/-- Estimating what a transaction uses may look an account up. -/
theorem matches_amounts
    (besides : World.Beside comparison first second)
    (estimator : Estimator)
    (transaction : Transaction)
    (signatures : SignatureUsage) :
    comparison.Matches Eq (estimator.amounts transaction signatures first)
      (estimator.amounts transaction signatures second) := by
  unfold Estimator.amounts
  dsimp only
  split
  · rename_i relations _
    have entry := besides.accountEntry relations.account
    generalize first.accountEntry relations.account = answer at entry ⊢
    generalize second.accountEntry relations.account = answer' at entry ⊢
    cases entry with
    | error shares => exact .error (Failure.inMachine_state _ ▸ shares)
    | excused excuse => exact .excused (Failure.inMachine_state _ ▸ excuse)
    | @ok account? _ same =>
        subst same
        cases account? with
        | none => exact .ok rfl
        | some account => exact .ok rfl
  · exact .ok rfl
  · exact .ok rfl
  · exact .error (comparison.shares rfl)

theorem matches_fees
    (besides : World.Beside comparison first second)
    (signed : SignedTransaction)
    (numPayerKeys : Int32)
    (source : PriceSource)
    (instant : Timestamp) :
    comparison.Matches Eq (signed.fees numPayerKeys source first instant)
      (signed.fees numPayerKeys source second instant) := by
  refine (matches_variantPrices _ _ _ _).bind_eq fun prices => ?_
  refine (matches_rateAt _ _).bind_eq fun rate => ?_
  have validated : comparison.Matches Eq rate.validate rate.validate := by
    unfold ExchangeRate.validate
    split
    · exact .error (comparison.shares rfl)
    · exact .ok rfl
  refine validated.bind_eq fun _ => ?_
  split
  · have assessed :
        comparison.Matches Eq
          (Assessment.assess signed (signed.signatureUsage numPayerKeys))
          (Assessment.assess signed (signed.signatureUsage numPayerKeys)) := by
      unfold Assessment.assess
      split
      · exact .ok rfl
      · exact .error (comparison.shares rfl)
    have counted :
        comparison.Matches Eq (countedFees signed prices rate numPayerKeys)
          (countedFees signed prices rate numPayerKeys) :=
      assessed.bind_eq fun _ => .ok rfl
    exact counted.bind_eq fun _ => .ok rfl
  · exact (matches_amounts besides _ _ _).bind_eq fun _ => .ok rfl

theorem matches_operationGas
    (besides : World.Beside comparison first second)
    (source : PriceSource)
    (instant : Timestamp)
    (minimum : Int64)
    (body : TransactionBody)
    (sender : Address) :
    comparison.Matches Eq (source.operationGas instant minimum body sender first)
      (source.operationGas instant minimum body sender second) := by
  refine (matches_callGasPrice _ _).bind_eq fun gasPrice => ?_
  have known (transaction : Transaction) :
      comparison.Matches Eq (SignedTransaction.ofTransaction transaction)
        (SignedTransaction.ofTransaction transaction) := by
    have kind :
        comparison.Matches Eq transaction.body.functionality transaction.body.functionality := by
      unfold TransactionBody.functionality
      split
      · exact .ok rfl
      · exact .error (comparison.shares rfl)
    exact kind.bind_eq fun _ => .ok rfl
  refine (known _).bind_eq fun signed => ?_
  exact (matches_fees besides signed 0 source instant).bind_eq fun _ => .ok rfl

end PriceSource

/-! ## Answering -/

namespace SystemCall

variable
  {tolerance : Tolerance}
  {comparison : Comparison}
  {first second : World}

theorem matches_readSelector
    (input : Bytes) :
    tolerance.Matches Eq (readSelector input) (readSelector input) := by
  unfold readSelector
  split
  · exact .ok rfl
  · exact .error (tolerance.shares rfl)

theorem matches_find
    (table : List (Selector × TokenFunction))
    (selector : Selector) :
    tolerance.Matches Eq (find table selector) (find table selector) := by
  unfold find
  split
  · exact .ok rfl
  · exact .error (tolerance.shares rfl)

theorem matches_checkGas
    (call : SystemCall)
    (gas : UInt64) :
    tolerance.Matches Eq (call.checkGas gas) (call.checkGas gas) := by
  unfold checkGas
  split
  · exact .error (tolerance.shares rfl)
  · exact .ok rfl

theorem matches_priced
    {α : Type}
    {price price' : Except PricingError α}
    (same : tolerance.Matches Eq price price') :
    tolerance.Matches Eq (priced price) (priced price') :=
  same.mapError fun _ => rfl

theorem matches_gasOf
    (besides : World.Beside comparison first second)
    (call : SystemCall)
    (source : PriceSource)
    (read : TokenCall) :
    comparison.Matches Eq (call.gasOf source first read) (call.gasOf source second read) := by
  cases read with
  | write body kind =>
      refine matches_priced ((PriceSource.matches_minimumPrice _ _ _).bind_eq fun _ => ?_)
      exact PriceSource.matches_operationGas besides _ _ _ _ _
  | query query => exact matches_priced (PriceSource.matches_queryGas _ _ _)

theorem matches_answerExchangeRate
    (call : SystemCall)
    (source : PriceSource)
    (input : Bytes) :
    tolerance.Matches Eq (call.answerExchangeRate source input)
      (call.answerExchangeRate source input) := by
  refine (matches_checkGas _ _).bind_eq fun _ => ?_
  refine (matches_readSelector _).bind_eq fun selector => ?_
  dsimp only
  split
  · exact .error (tolerance.shares rfl)
  · have amount : tolerance.Matches Eq (readAmount selector input) (readAmount selector input) := by
      refine (ValueReader.matches_readFrom (ValueReader.steady_nextAs _) _).bind_eq
        fun amount => ?_
      split
      · exact .ok rfl
      · exact .error (tolerance.shares rfl)
    refine amount.bind_eq fun _ => ?_
    exact (matches_priced (PriceSource.matches_rateAt _ _)).bind_eq fun _ => .ok rfl

theorem matches_answerRandomSeed
    (call : SystemCall)
    (source : PriceSource)
    (input : Bytes)
    (seed : Hash) :
    tolerance.Matches Eq (call.answerRandomSeed source input seed)
      (call.answerRandomSeed source input seed) := by
  refine (matches_readSelector _).bind_eq fun selector => ?_
  dsimp only
  split
  · exact .error (tolerance.shares rfl)
  · refine (matches_priced (PriceSource.matches_minimumGas _ _ _)).bind_eq fun _ => ?_
    exact (matches_checkGas _ _).bind_eq fun _ => .ok rfl

/-- The transaction that a call of a function carries out, when nothing stands against that. -/
def paidBody?
    (call : SystemCall)
    (source : PriceSource)
    (function : TokenFunction)
    (input : Bytes)
    (setting : CallSetting)
    (world : World) :
    Option TransactionBody :=
  if call.isStatic ∧ !function.isView then
    none
  else
    match function.readCall input setting call.sender with
    | .ok (.write body kind) =>
        match call.gasOf source world (.write body kind) >>= call.checkGas with
        | .ok _ => some body
        | .error _ => none
    | _ => none

theorem follows_liftExcept
    {α : Type}
    {result result' : Except PrecompileError α}
    (besides : World.Beside comparison first second)
    (same : comparison.Matches Eq result result') :
    comparison.Follows (World.Beside comparison) (execute.liftExcept result first)
      (execute.liftExcept result' second) := by
  cases same with
  | ok same =>
      subst same
      exact .ok besides
  | error shares => exact .error shares besides
  | excused excuse => exact .excused excuse

theorem follows_perform
    {call : SystemCall}
    {read : TokenCall}
    (besides : World.Beside comparison first second)
    (finds : ∀ body kind,
      read = .write body kind →
      ∀ world ∈ TokenAction.drawing? body second.push, world.Finds comparison call.sender) :
    comparison.Follows (World.Beside comparison) (call.perform read first)
      (call.perform read second) := by
  cases read with
  | query query =>
      exact ((TokenAction.steady_approvedSpender query).bind fun _ => .pure _) first second besides
  | write body kind =>
      have carriedOut :=
        TokenAction.follows_framed (TokenAction.follows_run besides.push (finds body kind rfl))
      exact carriedOut.bind fun _ _ _ _ besides => .ok besides

theorem follows_execute
    {call : SystemCall}
    {source : PriceSource}
    {function : TokenFunction}
    {input : Bytes}
    {setting : CallSetting}
    (besides : World.Beside comparison first second)
    (finds : ∀ body ∈ call.paidBody? source function input setting second,
      ∀ world ∈ TokenAction.drawing? body second.push, world.Finds comparison call.sender) :
    comparison.Follows (World.Beside comparison)
      (call.execute source function input setting first)
      (call.execute source function input setting second) := by
  unfold execute
  unfold paidBody? at finds
  dsimp only
  split
  · exact .error (comparison.shares rfl) besides
  rename_i allowed
  rw [if_neg allowed] at finds
  refine (follows_liftExcept besides (TokenFunction.matches_readCall _ _ _ _)).bind
    fun read first' second' lifted besides => ?_
  obtain ⟨same, isRead⟩ := of_liftExcept lifted
  subst second'
  have seen (world : World) : (get : TokenAction World) world = .ok world world :=
    rfl
  rw [bind_eq_of_ok (seen first'), bind_eq_of_ok (seen second)]
  refine (follows_liftExcept besides (matches_gasOf besides call source read)).bind
    fun gasCost first' second' lifted besides => ?_
  obtain ⟨same, costs⟩ := of_liftExcept lifted
  subst second'
  refine (follows_liftExcept besides (matches_checkGas call gasCost)).bind
    fun _ first' second' lifted besides => ?_
  obtain ⟨same, paid⟩ := of_liftExcept lifted
  subst second'
  refine Tolerance.Follows.bind (follows_perform besides fun body kind write => ?_)
    fun _ _ _ _ besides => .ok besides
  subst write
  exact finds body (by simp [isRead, costs, paid, bind, Except.bind])

end SystemCall

namespace DispatchedCall

variable
  {comparison : Comparison}
  {first second : World}
  {dispatched : DispatchedCall}

/-- The transaction that the call carries out, when nothing stands against that. -/
def paidBody? (dispatched : DispatchedCall) (world : World) : Option TransactionBody := do
  let (function, setting) ← dispatched.called? world
  dispatched.call.paidBody? dispatched.source function dispatched.input setting world

/-- Where and for whom the call draws an address, if it gets to draw one for a token. -/
def drawing? (dispatched : DispatchedCall) (world : World) : Option (World × Address) := do
  let body ← dispatched.paidBody? world
  let drawing ← TokenAction.drawing? body world.push
  return (drawing, dispatched.call.sender)

/-- A dispatched call is answered alike, if it finds an address for a token that it creates. -/
theorem follows_answer
    (besides : World.Beside comparison first second)
    (finds : ∀ drawing ∈ dispatched.drawing? second, drawing.1.Finds comparison drawing.2) :
    comparison.Follows (World.Beside comparison) (dispatched.answer first)
      (dispatched.answer second) := by
  have executed {function : TokenFunction} {setting : CallSetting} {first : World}
      (besides : World.Beside comparison first second)
      (called : dispatched.called? second = some (function, setting)) :
      comparison.Follows (World.Beside comparison)
        (dispatched.call.execute dispatched.source function dispatched.input setting first)
        (dispatched.call.execute dispatched.source function dispatched.input setting second) := by
    refine SystemCall.follows_execute besides fun body paid world draws => ?_
    refine finds (world, dispatched.call.sender) ?_
    have paid : dispatched.paidBody? second = some body := by
      rw [paidBody?, called]
      exact paid
    rw [drawing?, paid, Option.bind_eq_bind, Option.bind_some, draws]
    rfl
  have unread {α : Type} {result : Except PrecompileError α} {error : PrecompileError}
      (fails : result = .error error)
      (same : comparison.Matches Eq result result) :
      comparison.Follows (World.Beside comparison)
        ((throw error : TokenAction SystemAnswer) first)
        ((throw error : TokenAction SystemAnswer) second) := by
    subst fails
    cases same with
    | error shares => exact .error shares besides
    | excused excuse => exact .excused excuse
  unfold answer
  cases target : dispatched.token? with
  | none =>
      unfold SystemCall.answerService
      dsimp only
      cases found :
          (SystemCall.readSelector dispatched.input).bind
            (SystemCall.find TokenFunction.serviceTable) with
      | error error =>
          exact unread found ((SystemCall.matches_readSelector _).bind_eq fun _ =>
            SystemCall.matches_find _ _)
      | ok function =>
          obtain ⟨selector, read, found⟩ := exists_of_bind_eq_ok found
          apply executed besides
          simp only [called?, target, read, found, Except.toOption, Option.bind_eq_bind,
            Option.bind_some, Option.pure_def]
  | some address =>
      unfold SystemCall.answerToken
      dsimp only
      cases read : SystemCall.readSelector dispatched.input with
      | error error => exact unread read (SystemCall.matches_readSelector _)
      | ok selector =>
          dsimp only
          cases found : SystemCall.find TokenFunction.tokenTable selector with
          | error error => exact unread found (SystemCall.matches_find _ _)
          | ok function =>
              have known : TokenAction.Steady comparison (TokenAction.knownToken address) :=
                TokenAction.steady_knownToken address
              refine (known first second besides).bind fun token first' second' asked besides => ?_
              obtain ⟨same, tokenFound⟩ := (TokenAction.ensures_knownToken address).of_ok asked rfl
              subst second'
              apply executed besides
              simp only [called?, target, read, found, tokenFound, Except.toOption,
                Option.bind_eq_bind, Option.bind_some, Option.pure_def, Option.join_some]

end DispatchedCall

end LedgerEvm
