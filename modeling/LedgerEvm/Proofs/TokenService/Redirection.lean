import LedgerEvm.Proofs.TokenService.Arguments
import LedgerEvm.Proofs.TokenService.DispatchedCalls

/-!
# Calls at a token's address and calls of the service

Every function at a token's address has a function of the service that asks for the same.  The
two are looked up in different tables and have different arguments; what they are read into
differs at most in whether a debit of nothing is on approval, which neither the price nor the
transfer depends on.
-/

namespace LedgerEvm

/-- A function with its arguments, as a caller writes them. -/
structure TokenRequest where
  function : TokenFunction
  arguments : TokenArguments function

namespace TokenRequest

/-- The input of a call. -/
def input (request : TokenRequest) : Bytes :=
  AbiValue.encodeCall request.function.selector request.arguments.values

/-- What is asked of the service instead of the token at an address. -/
def atService (caller own : Address) (isNonFungible : Bool) : TokenRequest → TokenRequest
  | ⟨_, .ercApprove spender value⟩ =>
      if isNonFungible then
        ⟨_, .approveNft own spender value⟩
      else
        ⟨_, .approve own spender value⟩
  | ⟨_, .ercTransfer target value⟩ =>
      if isNonFungible then
        ⟨_, .transferNft own caller target value.toInt64⟩
      else
        ⟨_, .transferToken own caller target value.toInt64⟩
  | ⟨_, .ercTransferFrom source target value⟩ =>
      if isNonFungible then
        ⟨_, .transferNft own source target value.toInt64⟩
      else
        ⟨_, .transferToken own source target value.toInt64⟩
  | ⟨_, .ercGetApproved serial⟩ => ⟨_, .getApproved own serial⟩
  | request => request

end TokenRequest

/-! ## Debits of nothing -/

/-- Only a debit takes notice of being on approval. -/
theorem TokenAction.applyLeg_congr
    {amount : Int64}
    {isApproval isApproval' : Bool}
    (debit : amount < 0 → isApproval = isApproval')
    (token spender account : Address) :
    applyLeg token spender ⟨account, amount, isApproval⟩ =
      applyLeg token spender ⟨account, amount, isApproval'⟩ := by
  by_cases negative : amount < 0
  · rw [debit negative]
  · simp only [applyLeg, negative, and_false, if_false]

/-- A transfer is the same whether a first leg that is not a debit is on approval or not. -/
theorem TokenAction.run_moveAmounts_congr
    {amount : Int64}
    {isApproval isApproval' : Bool}
    (debit : amount < 0 → isApproval = isApproval')
    (token account sender : Address)
    (legs : List AccountAmount) :
    run (.moveAmounts token (⟨account, amount, isApproval⟩ :: legs)) sender =
      run (.moveAmounts token (⟨account, amount, isApproval'⟩ :: legs)) sender := by
  have loop :
      List.forM (⟨account, amount, isApproval⟩ :: legs) (applyLeg token sender) =
        List.forM (⟨account, amount, isApproval'⟩ :: legs) (applyLeg token sender) :=
    congrArg (fun first => first >>= fun _ => legs.forM (applyLeg token sender))
      (applyLeg_congr debit token sender account)
  have moved :
      transferToken sender ⟨token, ⟨account, amount, isApproval⟩ :: legs, []⟩ =
        transferToken sender ⟨token, ⟨account, amount, isApproval'⟩ :: legs, []⟩ := by
    simp only [transferToken, List.isEmpty_cons, netAmount, List.foldr_cons, loop]
  simp only [TransactionBody.moveAmounts, run, transfer]
  exact congrArg
    (fun moving => do
      transferCurrency []
      moving >>= fun _ => pure ()
      pure TokenResult.status)
    moved

/-- The price of a transfer depends on how many legs it has. -/
theorem PriceSource.operationGas_moveAmounts
    {legs legs' : List AccountAmount}
    (sameLength : legs.length = legs'.length)
    (source : PriceSource)
    (instant : Timestamp)
    (minimum : Int64)
    (token sender : Address)
    (world : World) :
    source.operationGas instant minimum (.moveAmounts token legs) sender world =
      source.operationGas instant minimum (.moveAmounts token legs') sender world := by
  let signed (legs : List AccountAmount) : SignedTransaction :=
    { transaction := { payer := sender, validStart := instant, memo := "",
                       body := .moveAmounts token legs }
      functionality := .cryptoTransfer }
  have assessed (signatures : SignatureUsage) :
      Assessment.assess (signed legs) signatures = Assessment.assess (signed legs') signatures := by
    simp only [signed, Assessment.assess, TransactionBody.moveAmounts, Assessment.addBody?,
      Assessment.addTransfer, Assessment.total, lengthOf, List.map_cons, List.map_nil, sameLength]
    rfl
  have fees :
      (signed legs).fees 0 source world instant = (signed legs').fees 0 source world instant := by
    have functionality (legs : List AccountAmount) :
        (signed legs).functionality = .cryptoTransfer := rfl
    have variant (legs : List AccountAmount) : (signed legs).variant = .standard := rfl
    have signatures : (signed legs).signatureUsage 0 = (signed legs').signatureUsage 0 := rfl
    have counts : Assessment.counts .cryptoTransfer = true := by decide
    simp only [SignedTransaction.fees, functionality, variant, counts, if_true, countedFees,
      signatures, assessed]
  have ofTransaction (legs : List AccountAmount) :
      SignedTransaction.ofTransaction
          { payer := sender, validStart := instant, memo := "", body := .moveAmounts token legs } =
        .ok (signed legs) :=
    rfl
  unfold operationGas
  rw [ofTransaction legs, ofTransaction legs']
  simp only [bind, Except.bind, fees]

/-! ## Tables -/

namespace SystemCall

variable
  {call : SystemCall}
  {source : PriceSource}
  {request : TokenRequest}
  {world : World}

theorem readSelector_input
    (request : TokenRequest) :
    readSelector request.input = .ok request.function.selector := by
  rw [readSelector, TokenRequest.input, AbiValue.encodeCall, Selector.ofInput?_toBytes_append]

/-- The functions of the service have different selectors. -/
theorem find_serviceTable :
    ∀ function ∈ TokenFunction.ofService,
      find TokenFunction.serviceTable function.selector = .ok function := by
  decide +kernel

/-- The functions of tokens have different selectors. -/
theorem find_tokenTable :
    ∀ function ∈ TokenFunction.ofTokens,
      find TokenFunction.tokenTable function.selector = .ok function := by
  decide +kernel

/-- The service carries out the function that is asked for. -/
theorem answerService_input
    (served : request.function ∈ TokenFunction.ofService) :
    call.answerService source request.input =
      call.execute source request.function request.input .plain := by
  rw [answerService, readSelector_input]
  simp only [Except.bind, find_serviceTable request.function served]

/-- A token that there is carries out the function that is asked for. -/
theorem answerToken_input
    {own : Address}
    {token : Token}
    (known : world.token own = .ok (some token))
    (served : request.function ∈ TokenFunction.ofTokens) :
    call.answerToken source own request.input world =
      call.execute source request.function request.input
        (call.settingAt token own request.function.selector request.function) world := by
  have found : TokenAction.knownToken own world = .ok token world := by
    simp only [TokenAction.knownToken, TokenAction.ask, bind, EStateM.bind, known]
    rfl
  rw [answerToken, readSelector_input]
  simp only [find_tokenTable request.function served]
  exact bind_eq_of_ok found

theorem liftExcept_bind
    {α β : Type}
    (result : Except PrecompileError α)
    (next : α → TokenAction β)
    (world : World) :
    (execute.liftExcept result >>= next) world =
      match result with
      | .ok value => next value world
      | .error error => .error error world := by
  cases result <;> rfl

theorem get_bind
    {β : Type}
    (next : World → TokenAction β)
    (world : World) :
    ((get : TokenAction World) >>= next) world = next world world :=
  rfl

/-- A call that is read is priced, paid for and carried out. -/
theorem execute_of_readCall
    {function : TokenFunction}
    {input : Bytes}
    {setting : CallSetting}
    {read : TokenCall}
    (isRead : function.readCall input setting call.sender = .ok read)
    (world : World) :
    call.execute source function input setting world =
      if call.isStatic ∧ !function.isView then
        .error .staticStateChange world
      else
        match (call.gasOf source world read).bind fun gas => do
            call.checkGas gas
            pure gas with
        | .error error => .error error world
        | .ok gasCost =>
            match call.perform read world with
            | .error error after => .error error after
            | .ok (result, stateChanged) after =>
                .ok { gasCost, output := function.output.encode result, stateChanged } after := by
  unfold execute
  rw [isRead]
  dsimp only
  split
  · rfl
  · simp only [liftExcept_bind, get_bind]
    cases call.gasOf source world read with
    | error error => rfl
    | ok gasCost =>
        cases checked : call.checkGas gasCost with
        | error error => simp only [Except.bind, bind, checked]
        | ok _ =>
            simp only [Except.bind, bind, checked, pure, Except.pure, EStateM.bind]
            cases call.perform read world <;> rfl

end SystemCall

/-! ## Agreement -/

/-- No function of the service is one of a token's own. -/
theorem TokenFunction.not_mem_ofTokens
    {function : TokenFunction}
    (served : function ∈ ofService) :
    function ∉ ofTokens := by
  cases function <;> simp [ofService, ofTokens] at served ⊢

/--
Two answers that agree: one error in one world, or one gas cost, one world and the outputs of one
result, which is a spender when the call only reads.
-/
inductive AgreeingAnswers (function function' : TokenFunction) :
    EStateM.Result PrecompileError World SystemAnswer →
    EStateM.Result PrecompileError World SystemAnswer → Prop where
  | refused (error : PrecompileError) (after : World) :
      AgreeingAnswers function function' (.error error after) (.error error after)
  | answered
      (gasCost : UInt64)
      (result : TokenResult)
      (stateChanged : Bool)
      (after : World)
      (spender : function.isView = true → ∃ spender, result = .getApproved spender) :
      AgreeingAnswers function function'
        (.ok { gasCost, output := function.output.encode result, stateChanged } after)
        (.ok { gasCost, output := function'.output.encode result, stateChanged } after)

namespace TokenRequest

/-- What holds of each of the four functions holds of all requests at a token's address. -/
theorem ofTokens_cases
    {motive : (request : TokenRequest) → request.function ∈ TokenFunction.ofTokens → Prop}
    (approve :
      ∀ spender value, motive ⟨_, .ercApprove spender value⟩ (by simp [TokenFunction.ofTokens]))
    (transfer :
      ∀ target value, motive ⟨_, .ercTransfer target value⟩ (by simp [TokenFunction.ofTokens]))
    (transferFrom :
      ∀ source target value,
        motive ⟨_, .ercTransferFrom source target value⟩ (by simp [TokenFunction.ofTokens]))
    (getApproved :
      ∀ serial, motive ⟨_, .ercGetApproved serial⟩ (by simp [TokenFunction.ofTokens]))
    (request : TokenRequest)
    (redirected : request.function ∈ TokenFunction.ofTokens) :
    motive request redirected := by
  obtain ⟨function, arguments⟩ := request
  cases arguments with
  | ercApprove spender value => exact approve spender value
  | ercTransfer target value => exact transfer target value
  | ercTransferFrom source target value => exact transferFrom source target value
  | ercGetApproved serial => exact getApproved serial
  | _ => simp [TokenFunction.ofTokens] at redirected

variable {request : TokenRequest}

/-- The service has the function that is asked for instead, and it reads when that one reads. -/
theorem function_atService
    (redirected : request.function ∈ TokenFunction.ofTokens)
    (caller own : Address)
    (isNonFungible : Bool) :
    (request.atService caller own isNonFungible).function ∈ TokenFunction.ofService ∧
      (request.atService caller own isNonFungible).function.isView = request.function.isView := by
  cases request, redirected using ofTokens_cases with
  | getApproved serial => exact ⟨by simp [atService, TokenFunction.ofService], rfl⟩
  | _ => cases isNonFungible <;> exact ⟨by simp [atService, TokenFunction.ofService], rfl⟩

/-- The arguments all stand in the words behind the selector. -/
theorem areReadable_values
    (redirected : request.function ∈ TokenFunction.ofTokens) :
    AbiValue.AreReadable request.arguments.values := by
  cases request, redirected using ofTokens_cases with
  | _ =>
      refine ⟨trivial, ?_⟩
      simp [TokenArguments.values, AbiValue.ofUInt64, AbiValue.IsReadable.address,
        AbiValue.IsReadable.uint]

theorem areReadable_values_atService
    (redirected : request.function ∈ TokenFunction.ofTokens)
    (caller own : Address)
    (isNonFungible : Bool) :
    AbiValue.AreReadable (request.atService caller own isNonFungible).arguments.values := by
  cases request, redirected using ofTokens_cases with
  | getApproved serial =>
      refine ⟨trivial, ?_⟩
      simp [atService, TokenArguments.values, AbiValue.IsReadable.address, AbiValue.IsReadable.uint]
  | _ =>
      cases isNonFungible with
      | _ =>
          refine ⟨trivial, ?_⟩
          simp [atService, TokenArguments.values, AbiValue.ofUInt64, AbiValue.IsReadable.address,
            AbiValue.IsReadable.uint, AbiValue.IsReadable.int]

/-- The service takes the arguments that the token takes. -/
theorem inRange_atService
    (redirected : request.function ∈ TokenFunction.ofTokens)
    {isNonFungible : Bool}
    (inRange : request.arguments.InRange isNonFungible)
    (caller own : Address) :
    (request.atService caller own isNonFungible).arguments.InRange isNonFungible := by
  have above {value : UInt64} (small : value.toNat < 2 ^ 63) : Int64.minValue < value.toInt64 := by
    rw [Int64.lt_iff_toInt_lt, UInt64.toInt_toInt64 small, Int64.toInt_minValue]
    omega
  cases request, redirected using ofTokens_cases with
  | approve spender value =>
      cases isNonFungible with
      | true => exact inRange rfl
      | false => trivial
  | transfer target value =>
      cases isNonFungible with
      | true => trivial
      | false => exact above inRange
  | transferFrom source target value =>
      cases isNonFungible with
      | true => trivial
      | false => exact above inRange
  | getApproved serial => trivial

/-- What the two are read into has one price. -/
theorem gasOf_meaning_atService
    (redirected : request.function ∈ TokenFunction.ofTokens)
    (call : SystemCall)
    (source : PriceSource)
    (world : World)
    (own : Address)
    (isNonFungible : Bool) :
    call.gasOf source world (request.arguments.meaning call.sender own isNonFungible) =
      call.gasOf source world
        ((request.atService call.sender own isNonFungible).arguments.meaning call.sender own
          isNonFungible) := by
  cases request, redirected using ofTokens_cases with
  | getApproved serial => rfl
  | transferFrom owner target value =>
      cases isNonFungible with
      | true => rfl
      | false =>
          refine congrArg SystemCall.priced (congrArg (source.minimumPrice _ _ >>= ·) ?_)
          funext minimum
          exact source.operationGas_moveAmounts rfl call.timestamp minimum own call.sender world
  | _ => cases isNonFungible <;> rfl

/-- What the two are read into does the same. -/
theorem perform_meaning_atService
    (redirected : request.function ∈ TokenFunction.ofTokens)
    (call : SystemCall)
    (own : Address)
    (isNonFungible : Bool) :
    call.perform (request.arguments.meaning call.sender own isNonFungible) =
      call.perform
        ((request.atService call.sender own isNonFungible).arguments.meaning call.sender own
          isNonFungible) := by
  cases request, redirected using ofTokens_cases with
  | getApproved serial => rfl
  | transferFrom owner target value =>
      cases isNonFungible with
      | true => rfl
      | false =>
          have debit :
              -value.toInt64 < 0 →
                decide (owner ≠ call.sender) =
                  decide (-value.toInt64 < 0 ∧ owner ≠ call.sender) := by
            intro negative
            simp [negative]
          exact congrArg (fun action => do pure (← TokenAction.framed action, true))
            (TokenAction.run_moveAmounts_congr debit own owner call.sender _)
  | _ => cases isNonFungible <;> rfl

/-- What is read only to answer is read into a question. -/
theorem exists_spender_of_perform
    (redirected : request.function ∈ TokenFunction.ofTokens)
    {call : SystemCall}
    {own : Address}
    {isNonFungible : Bool}
    {world after : World}
    {result : TokenResult × Bool}
    (isView : request.function.isView = true)
    (performed :
      call.perform (request.arguments.meaning call.sender own isNonFungible) world =
        .ok result after) :
    ∃ spender, result.1 = .getApproved spender := by
  cases request, redirected using ofTokens_cases with
  | getApproved serial =>
      obtain ⟨spender, middle, _, done⟩ := exists_of_run_eq_ok performed
      cases done
      exact ⟨spender, rfl⟩
  | _ => cases isView

end TokenRequest

/--
A call at the address of a token that there is agrees with the call of the service that asks for
the same, whoever calls, with whatever gas, and whether it succeeds or fails.
-/
theorem SystemCall.answerToken_agrees
    {request : TokenRequest}
    {own : Address}
    {token : Token}
    {world : World}
    (known : world.token own = .ok (some token))
    (redirected : request.function ∈ TokenFunction.ofTokens)
    (inRange : request.arguments.InRange token.isNonFungible)
    (call : SystemCall)
    (source : PriceSource) :
    AgreeingAnswers request.function
      (request.atService call.sender own token.isNonFungible).function
      (call.answerToken source own request.input world)
      (call.answerService source
        (request.atService call.sender own token.isNonFungible).input world) := by
  obtain ⟨served, sameView⟩ :=
    TokenRequest.function_atService redirected call.sender own token.isNonFungible
  have read :
      request.function.readCall request.input
          (call.settingAt token own request.function.selector request.function) call.sender =
        .ok _ :=
    TokenArguments.readCall_eq_meaning call own (TokenRequest.areReadable_values redirected)
      inRange fun _ => rfl
  have read' :
      (request.atService call.sender own token.isNonFungible).function.readCall
          (request.atService call.sender own token.isNonFungible).input .plain call.sender =
        .ok _ :=
    TokenArguments.readCall_eq_meaning call own
      (TokenRequest.areReadable_values_atService redirected call.sender own token.isNonFungible)
      (TokenRequest.inRange_atService redirected inRange call.sender own)
      fun member => absurd member (TokenFunction.not_mem_ofTokens served)
  rw [answerToken_input known redirected, answerService_input served,
    execute_of_readCall read, execute_of_readCall read',
    ← TokenRequest.gasOf_meaning_atService redirected,
    ← TokenRequest.perform_meaning_atService redirected, sameView]
  split
  · exact .refused _ _
  · split
    · exact .refused _ _
    · split
      · exact .refused _ _
      · rename_i performed
        exact .answered _ _ _ _ fun isView =>
          TokenRequest.exists_spender_of_perform redirected isView performed

/-- The approved spender of a piece takes it in either way. -/
theorem SystemCall.approved_move_is_answered_alike :
    let owner := Address.ofNum 1001
    let caller := Address.ofNum 1002
    let token : Token :=
      { address := Address.ofNum 2001, kind := .nonFungible, treasury := owner
        totalSupply := 1, lastUsedSerial := 1 }
    let piece : Nft :=
      { token := token.address, serial := 1, owner, spender := caller, metadata := [] }
    let contents := Snapshot.Contents.ofPiece token piece [caller]
    let world := (World.ofSnapshot (.ofContents contents) false ⟨0⟩ 5000).push
    let source : PriceSource :=
      { schedule := FeeSchedule.empty.list ⟨0⟩ [.cryptoTransfer, .contractCall] { }
        rates := RateTable.empty.list ⟨0⟩ (.lasting 1 12) }
    let call : SystemCall := ⟨caller, ⟨0⟩, 10000000, false⟩
    let request : TokenRequest := ⟨_, .ercTransferFrom owner caller 1⟩
    world.token token.address = .ok (some token) ∧
      request.function ∈ TokenFunction.ofTokens ∧
      request.arguments.InRange token.isNonFungible ∧
      ((call.answerToken source token.address request.input).run' world).isSome ∧
      AgreeingAnswers .ercTransferFrom .transferNft
        (call.answerToken source token.address request.input world)
        (call.answerService source
          (TokenRequest.input ⟨_, .transferNft token.address owner caller 1⟩) world) := by
  intro owner caller token piece contents world source call request
  have known : world.token token.address = .ok (some token) := by decide +kernel
  have redirected : request.function ∈ TokenFunction.ofTokens := by decide
  have inRange : request.arguments.InRange token.isNonFungible :=
    (by decide : (1 : UInt64).toNat < 2 ^ 63)
  have answered :
      ((call.answerToken source token.address request.input).run' world).isSome := by
    decide +kernel
  exact
    ⟨known, redirected, inRange, answered,
      answerToken_agrees known redirected inRange call source⟩

end LedgerEvm
