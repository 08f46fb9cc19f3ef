import LedgerEvm.Proofs.TokenService.Evolution

namespace LedgerEvm

/-!
# Calls of the token service

A call is read into a transaction or a question.  No transaction that is read moves
currency, and only functions that change nothing are read into questions, so a call from
a static frame leaves the world alone and any other call evolves it.
-/

/-! ## Reading calls -/

namespace ValueReader

variable {α β : Type}

/-- Whatever is read has a property. -/
def Returns (reader : ValueReader α) (property : α → Prop) : Prop :=
  ∀ values result rest, reader values = .ok (result, rest) → property result

theorem returns_pure
    {property : α → Prop}
    {result : α}
    (holds : property result) :
    Returns (pure result) property := by
  intro values found rest read
  cases read
  exact holds

theorem returns_throw
    {property : α → Prop}
    (error : PrecompileError) :
    Returns (throwThe PrecompileError error : ValueReader α) property := by
  intro values found rest read
  cases read

theorem returns_bind
    {property : α → Prop}
    (first : ValueReader β)
    {next : β → ValueReader α}
    (goesOn : ∀ value, Returns (next value) property) :
    Returns (first >>= next) property := by
  intro values found rest read
  obtain ⟨⟨value, middle⟩, _, read⟩ := exists_of_bind_eq_ok read
  exact goesOn value middle found rest read

/-- What the first reader returns may be used about how reading goes on. -/
theorem returns_bind_given
    {property : α → Prop}
    {fact : β → Prop}
    {first : ValueReader β}
    {next : β → ValueReader α}
    (begins : Returns first fact)
    (goesOn : ∀ value, fact value → Returns (next value) property) :
    Returns (first >>= next) property := by
  intro values found rest read
  obtain ⟨⟨value, middle⟩, began, read⟩ := exists_of_bind_eq_ok read
  exact goesOn value (begins values value middle began) middle found rest read

/-- A value that is read next is one that the conversion gives. -/
theorem returns_nextAs
    {property : α → Prop}
    {convert : AbiValue → Except AbiError α}
    (converts : ∀ value result, convert value = .ok result → property result) :
    Returns (nextAs convert) property := by
  unfold nextAs
  refine returns_bind _ fun value => ?_
  cases converted : convert value with
  | ok result => exact returns_pure (converts value result converted)
  | error error => exact returns_throw _

theorem of_readFrom
    {property : α → Prop}
    {reader : ValueReader α}
    (returns : Returns reader property)
    {values : Except AbiError (List AbiValue)}
    {result : α}
    (read : readFrom values reader = .ok result) :
    property result := by
  unfold readFrom at read
  cases values with
  | error error =>
      cases read
  | ok found =>
      obtain ⟨⟨value, rest⟩, ran, done⟩ := exists_of_bind_eq_ok read
      cases done
      exact returns found value rest ran

end ValueReader

namespace CryptoTransfer

/-- The transfer moves tokens only. -/
def MovesNoCurrency (transfer : CryptoTransfer) : Prop :=
  transfer.hbarTransfers = []

end CryptoTransfer

namespace TransactionBody

/-- A transfer that the transaction asks for moves tokens only. -/
def MovesNoCurrency : TransactionBody → Prop
  | .cryptoTransfer transfer => transfer.MovesNoCurrency
  | _ => True

end TransactionBody

namespace TokenFunction

open ValueReader (Returns returns_pure returns_throw returns_bind of_readFrom)

variable {selector : Selector} {input : Bytes} {transfer : CryptoTransfer}

theorem movesNoCurrency_of_readTransfer
    {isNonFungible : Bool}
    (read : readTransfer selector input isNonFungible = .ok transfer) :
    transfer.MovesNoCurrency := by
  refine of_readFrom ?_ read
  refine returns_bind _ fun token => ?_
  refine returns_bind _ fun source => ?_
  refine returns_bind _ fun target => ?_
  refine returns_bind _ fun value => ?_
  refine returns_pure ?_
  split <;> rfl

theorem movesNoCurrency_of_readTransferList
    (read : readTransferList selector input = .ok transfer) :
    transfer.MovesNoCurrency := by
  refine of_readFrom ?_ read
  refine returns_bind _ fun token => ?_
  refine returns_bind _ fun accounts => ?_
  refine returns_bind _ fun amounts => ?_
  dsimp only
  split
  · exact returns_bind _ fun _ => returns_pure rfl
  · exact returns_pure rfl

theorem movesNoCurrency_transferAt
    (setting : TransferSetting)
    (source target : Address)
    (value : Int64)
    (isApproval : Bool) :
    (transferAt setting source target value isApproval).MovesNoCurrency := by
  unfold transferAt
  split <;> rfl

theorem movesNoCurrency_of_readOwnTransfer
    {setting : TransferSetting}
    (read : readOwnTransfer input setting = .ok transfer) :
    transfer.MovesNoCurrency := by
  refine of_readFrom ?_ read
  refine returns_bind _ fun target => ?_
  refine returns_bind _ fun value => ?_
  exact returns_pure (movesNoCurrency_transferAt _ _ _ _ _)

theorem movesNoCurrency_of_readTransferFor
    {setting : TransferSetting}
    (read : readTransferFor input setting = .ok transfer) :
    transfer.MovesNoCurrency := by
  refine of_readFrom ?_ read
  refine returns_bind _ fun source => ?_
  refine returns_bind _ fun target => ?_
  refine returns_bind _ fun value => ?_
  exact returns_pure (movesNoCurrency_transferAt _ _ _ _ _)

/-- What a call may be read into, given the function that is called. -/
def Reads (function : TokenFunction) : TokenCall → Prop
  | .write body _ => function.isView = false ∧ body.MovesNoCurrency
  | .query _ => function.isView = true

/-- Only functions that change nothing are read into questions. -/
theorem reads_of_readCall
    {function : TokenFunction}
    {setting : CallSetting}
    {sender : Address}
    {call : TokenCall}
    (read : function.readCall input setting sender = .ok call) :
    function.Reads call := by
  cases function with
  | transferToken | transferNft =>
      obtain ⟨transfer, found, done⟩ := exists_of_bind_eq_ok read
      cases done
      have noCurrency := movesNoCurrency_of_readTransfer found
      exact ⟨rfl, noCurrency⟩
  | transferTokens =>
      obtain ⟨transfer, found, done⟩ := exists_of_bind_eq_ok read
      cases done
      have noCurrency := movesNoCurrency_of_readTransferList found
      exact ⟨rfl, noCurrency⟩
  | ercTransfer =>
      cases setting with
      | transfer setting =>
          obtain ⟨transfer, found, done⟩ := exists_of_bind_eq_ok read
          cases done
          exact ⟨rfl, movesNoCurrency_of_readOwnTransfer found⟩
      | _ => cases read
  | ercTransferFrom =>
      cases setting with
      | transfer setting =>
          obtain ⟨transfer, found, done⟩ := exists_of_bind_eq_ok read
          cases done
          exact ⟨rfl, movesNoCurrency_of_readTransferFor found⟩
      | _ => cases read
  | ercApprove =>
      cases setting with
      | approval setting =>
          obtain ⟨approval, _, done⟩ := exists_of_bind_eq_ok read
          cases done
          exact ⟨rfl, trivial⟩
      | _ => cases read
  | ercGetApproved =>
      cases setting with
      | approval setting =>
          obtain ⟨query, _, done⟩ := exists_of_bind_eq_ok read
          cases done
          rfl
      | _ => cases read
  | getApproved =>
      obtain ⟨query, _, done⟩ := exists_of_bind_eq_ok read
      cases done
      rfl
  | _ =>
      obtain ⟨_, _, done⟩ := exists_of_bind_eq_ok read
      cases done
      exact ⟨rfl, trivial⟩

end TokenFunction

/-! ## Carrying calls out -/

namespace TokenAction

open World (Evolves)

/-- Every transaction that moves no currency and creates no token keeps what supplies keep. -/
theorem KeptBySupply.run
    {invariant : World → Prop}
    (kept : KeptBySupply invariant)
    {body : TransactionBody}
    (noCurrency : body.MovesNoCurrency)
    (noCreation : ∀ creation, body ≠ .tokenCreate creation)
    (sender : Address) :
    Keeps invariant (run body sender) := by
  cases body with
  | tokenAssociateToAccount relations =>
      exact (kept.associate relations).bind fun _ => Keeps.pure _
  | tokenDissociateFromAccount relations =>
      exact (kept.dissociate relations).bind fun _ => Keeps.pure _
  | tokenMint mint =>
      exact (kept.mint mint).bind fun _ => Keeps.pure _
  | tokenBurn burn =>
      exact (kept.burn burn).bind fun _ => Keeps.pure _
  | tokenAccountWipe wipe =>
      exact (kept.wipe wipe).bind fun _ => Keeps.pure _
  | cryptoTransfer transfer =>
      exact (kept.transfer noCurrency sender).bind fun _ => Keeps.pure _
  | cryptoApproveAllowance approval =>
      exact (kept.approve approval).bind fun _ => Keeps.pure _
  | tokenCreate creation =>
      exact (noCreation creation rfl).elim
  | _ =>
      exact Keeps.throw _

/-- Every transaction that moves no currency keeps what all operations on tokens keep. -/
theorem KeptByTokens.run
    {invariant : World → Prop}
    (kept : KeptByTokens invariant)
    {body : TransactionBody}
    (noCurrency : body.MovesNoCurrency)
    (sender : Address) :
    Keeps invariant (run body sender) := by
  cases body with
  | tokenCreate creation =>
      exact (kept.create creation sender).bind fun _ => Keeps.pure _
  | _ =>
      exact kept.toKeptBySupply.run noCurrency nofun sender

/-- An action in a frame of its own evolves the world when it evolves every world. -/
theorem keeps_framed
    {α : Type}
    {action : TokenAction α}
    (evolves : ∀ start, Keeps (Evolves false start) action)
    (start : World) :
    Keeps (Evolves false start) action.framed := by
  intro world reached
  have inside := evolves world.push world.push (.refl _)
  unfold framed
  cases result : action world.push with
  | ok answer inner =>
      rw [result] at inside
      exact reached.kept inside
  | error error inner =>
      rw [result] at inside
      exact reached.dropped inside

end TokenAction

namespace SystemCall

open World (Evolves)

variable {α : Type} {invariant : World → Prop}

theorem keeps_liftExcept
    (result : Except PrecompileError α) :
    Keeps invariant (execute.liftExcept result) := by
  cases result with
  | ok value => exact Keeps.pure value
  | error error => exact Keeps.throw error

/-- What is lifted successfully was successful. -/
theorem ensures_liftExcept
    (result : Except PrecompileError α) :
    Ensures invariant (execute.liftExcept result)
      (fun value world => invariant world ∧ result = .ok value)
      (fun _ => invariant) := by
  intro world holds
  cases result with
  | ok value => exact ⟨holds, rfl⟩
  | error error => exact holds

/-- A question leaves the world alone, a transaction evolves it. -/
theorem keeps_perform
    (call : SystemCall)
    (start : World)
    {isStatic : Bool}
    {function : TokenFunction}
    {read : TokenCall}
    (reads : function.Reads read)
    (mayWrite : isStatic = true → function.isView = true) :
    Keeps (Evolves isStatic start) (call.perform read) := by
  cases read with
  | query query =>
      exact (TokenAction.keeps_approvedSpender query).bind fun _ => Keeps.pure _
  | write body kind =>
      cases isStatic with
      | true =>
          rw [reads.1] at mayWrite
          cases mayWrite rfl
      | false =>
          refine Keeps.bind ?_ fun _ => Keeps.pure _
          exact TokenAction.keeps_framed
            (fun start => (TokenAction.keptByTokens_evolves start).run reads.2 call.sender) start

theorem keeps_execute
    (call : SystemCall)
    (source : PriceSource)
    (function : TokenFunction)
    (input : Bytes)
    (setting : CallSetting)
    (start : World)
    {isStatic : Bool}
    (static : isStatic = true → call.isStatic = true) :
    Keeps (Evolves isStatic start) (call.execute source function input setting) := by
  unfold execute
  dsimp only
  split
  · exact Keeps.throw _
  · rename_i allowed
    have mayWrite : isStatic = true → function.isView = true := by
      intro inStatic
      simpa [static inStatic] using allowed
    refine Ensures.bind (ensures_liftExcept _) fun read => ?_
    refine KeepsGiven.of_fact fun found => ?_
    have reads := TokenFunction.reads_of_readCall found
    refine Keeps.bind (fun _ holds => holds) fun world => ?_
    refine (keeps_liftExcept _).bind fun gasCost => ?_
    refine (keeps_liftExcept _).bind fun _ => ?_
    refine (keeps_perform call start reads mayWrite).bind fun answer => ?_
    exact Keeps.pure _

/-- A call of the token service evolves the world, from a static frame not at all. -/
theorem keeps_answerService
    (call : SystemCall)
    (source : PriceSource)
    (input : Bytes)
    (start : World)
    {isStatic : Bool}
    (static : isStatic = true → call.isStatic = true) :
    Keeps (Evolves isStatic start) (call.answerService source input) := by
  unfold answerService
  split
  · exact keeps_execute call source _ input _ start static
  · exact Keeps.throw _

/-- A call at a token's address evolves the world, from a static frame not at all. -/
theorem keeps_answerToken
    (call : SystemCall)
    (source : PriceSource)
    (address : Address)
    (input : Bytes)
    (start : World)
    {isStatic : Bool}
    (static : isStatic = true → call.isStatic = true) :
    Keeps (Evolves isStatic start) (call.answerToken source address input) := by
  unfold answerToken
  split
  · split
    · refine (TokenAction.keeps_knownToken address).bind fun token => ?_
      exact keeps_execute call source _ input _ start static
    · exact Keeps.throw _
  · exact Keeps.throw _

/-- What is lifted successfully leaves the world alone and was successful. -/
theorem of_liftExcept
    {result : Except PrecompileError α}
    {value : α}
    {world after : World}
    (lifted : execute.liftExcept result world = .ok value after) :
    after = world ∧ result = .ok value := by
  cases result with
  | ok value => cases lifted; exact ⟨rfl, rfl⟩
  | error error => cases lifted

/-- A call of a function that is answered has been read and carried out. -/
theorem exists_of_execute
    {call : SystemCall}
    {source : PriceSource}
    {function : TokenFunction}
    {input : Bytes}
    {setting : CallSetting}
    {world after : World}
    {answer : SystemAnswer}
    (answered : call.execute source function input setting world = .ok answer after) :
    ∃ read result,
      function.readCall input setting call.sender = .ok read ∧
        call.perform read world = .ok result after := by
  unfold execute at answered
  dsimp only at answered
  split at answered
  · cases answered
  · obtain ⟨read, first, lifted, answered⟩ := exists_of_run_eq_ok answered
    obtain ⟨same, found⟩ := of_liftExcept lifted
    subst first
    obtain ⟨_, _, seen, answered⟩ := exists_of_run_eq_ok answered
    cases seen
    obtain ⟨gasCost, priced, lifted, answered⟩ := exists_of_run_eq_ok answered
    obtain ⟨same, _⟩ := of_liftExcept lifted
    subst priced
    obtain ⟨_, checked, lifted, answered⟩ := exists_of_run_eq_ok answered
    obtain ⟨same, _⟩ := of_liftExcept lifted
    subst checked
    obtain ⟨result, _, performed, answered⟩ := exists_of_run_eq_ok answered
    cases answered
    exact ⟨read, result, found, performed⟩

/--
A call of a function does what the transaction does that it is read into; one that is read
into a question, or is refused, does nothing.
-/
theorem ensures_execute
    (call : SystemCall)
    (source : PriceSource)
    (function : TokenFunction)
    (input : Bytes)
    (setting : CallSetting)
    {world : World}
    {succeeded failed : World → Prop}
    (refused : failed world)
    (asked :
      ∀ query, function.readCall input setting call.sender = .ok (.query query) →
        succeeded world)
    (carriedOut :
      ∀ body kind, function.readCall input setting call.sender = .ok (.write body kind) →
        Ensures (· = world) (TokenAction.run body call.sender).framed
          (fun _ => succeeded) fun _ => failed) :
    Ensures (· = world) (call.execute source function input setting)
      (fun _ => succeeded) fun _ => failed := by
  have lifted {β : Type} (result : Except PrecompileError β) :
      Ensures (· = world) (execute.liftExcept result)
        (fun value after => after = world ∧ result = .ok value) fun _ => failed :=
    (ensures_liftExcept result).imp_failed fun _ _ same => same ▸ refused
  unfold execute
  dsimp only
  split
  · exact Ensures.throw fun _ same => same ▸ refused
  refine (lifted _).bind fun read => ?_
  refine Ensures.of_fact fun found => ?_
  have seen :
      Ensures (· = world) (get : TokenAction World) (fun _ after => after = world)
        fun _ => failed :=
    fun _ same => same
  refine seen.bind fun _ => ?_
  refine (lifted _).bind fun gasCost => ?_
  refine Ensures.of_fact fun _ => ?_
  refine (lifted _).bind fun _ => ?_
  refine Ensures.of_fact fun _ => ?_
  refine Ensures.bind ?_ fun _ => Ensures.pure fun _ => id
  cases read with
  | query query =>
      have questioned : Keeps (· = world) (TokenAction.approvedSpender query) :=
        TokenAction.keeps_approvedSpender query
      refine (questioned.imp_failed fun _ _ same => same ▸ refused).bind fun _ => ?_
      exact Ensures.pure fun _ same => same ▸ asked query found
  | write body kind =>
      exact (carriedOut body kind found).bind fun _ => Ensures.pure fun _ => id

theorem exists_of_answerService
    {call : SystemCall}
    {source : PriceSource}
    {input : Bytes}
    {world after : World}
    {answer : SystemAnswer}
    (answered : call.answerService source input world = .ok answer after) :
    ∃ selector function read result,
      readSelector input = .ok selector ∧
        find TokenFunction.serviceTable selector = .ok function ∧
          function.readCall input .plain call.sender = .ok read ∧
            call.perform read world = .ok result after := by
  unfold answerService at answered
  cases named : (readSelector input).bind (find TokenFunction.serviceTable) with
  | error error =>
      rw [named] at answered
      cases answered
  | ok function =>
      rw [named] at answered
      obtain ⟨selector, known, found⟩ := exists_of_bind_eq_ok named
      obtain ⟨read, result, done⟩ := exists_of_execute answered
      exact ⟨selector, function, read, result, known, found, done⟩

theorem exists_of_answerToken
    {call : SystemCall}
    {source : PriceSource}
    {address : Address}
    {input : Bytes}
    {world after : World}
    {answer : SystemAnswer}
    (answered : call.answerToken source address input world = .ok answer after) :
    ∃ selector function token read result,
      readSelector input = .ok selector ∧
        find TokenFunction.tokenTable selector = .ok function ∧
          world.token address = .ok (some token) ∧
            function.readCall input (call.settingAt token address selector function)
                call.sender =
              .ok read ∧
              call.perform read world = .ok result after := by
  unfold answerToken at answered
  cases known : readSelector input with
  | error error =>
      rw [known] at answered
      cases answered
  | ok selector =>
      simp only [known] at answered
      cases found : find TokenFunction.tokenTable selector with
      | error error =>
          rw [found] at answered
          cases answered
      | ok function =>
          simp only [found] at answered
          obtain ⟨token, middle, asked, answered⟩ := exists_of_run_eq_ok answered
          have read :
              Ensures (· = world) (TokenAction.knownToken address)
                (fun token middle => middle = world ∧ middle.token address = .ok (some token))
                fun _ => (· = world) :=
            TokenAction.ensures_knownToken address
          obtain ⟨same, tokenFound⟩ := read.of_ok asked rfl
          subst middle
          obtain ⟨read, result, done⟩ := exists_of_execute answered
          exact ⟨selector, function, token, read, result, rfl, found, tokenFound, done⟩

end SystemCall

/-! ## Dispatched calls -/

/-- A call to the token service, or to the token at an address. -/
structure DispatchedCall where
  call : SystemCall
  source : PriceSource
  token? : Option Address
  input : Bytes

namespace DispatchedCall

variable {world after : World} {dispatched : DispatchedCall}

/-- The answer of the service or of the token that is called. -/
def answer (dispatched : DispatchedCall) : TokenAction SystemAnswer :=
  match dispatched.token? with
  | none => dispatched.call.answerService dispatched.source dispatched.input
  | some address => dispatched.call.answerToken dispatched.source address dispatched.input

/-- The answer evolves the world, in a static frame as static. -/
theorem evolves_answer
    (dispatched : DispatchedCall)
    (start : World)
    {isStatic : Bool}
    (static : isStatic = true → dispatched.call.isStatic = true) :
    Keeps (World.Evolves isStatic start) dispatched.answer := by
  unfold answer
  split
  · exact dispatched.call.keeps_answerService _ _ start static
  · exact dispatched.call.keeps_answerToken _ _ _ start static

/-- The function that is called, with what it needs to read its input. -/
def called? (dispatched : DispatchedCall) (world : World) :
    Option (TokenFunction × CallSetting) := do
  let selector ← (SystemCall.readSelector dispatched.input).toOption
  match dispatched.token? with
  | none =>
      let function ← (SystemCall.find TokenFunction.serviceTable selector).toOption
      pure (function, .plain)
  | some address =>
      let function ← (SystemCall.find TokenFunction.tokenTable selector).toOption
      let token ← (world.token address).toOption.join
      pure (function, dispatched.call.settingAt token address selector function)

/-- The transaction that the call is read into, if it is one. -/
def body? (dispatched : DispatchedCall) (world : World) : Option TransactionBody := do
  let (function, setting) ← dispatched.called? world
  match function.readCall dispatched.input setting dispatched.call.sender with
  | .ok (.write body _) => some body
  | _ => none

theorem mem_body?_iff
    {function : TokenFunction}
    {setting : CallSetting}
    (called : dispatched.called? world = some (function, setting))
    {body : TransactionBody} :
    body ∈ dispatched.body? world ↔
      ∃ kind,
        function.readCall dispatched.input setting dispatched.call.sender =
          .ok (.write body kind) := by
  simp only [body?, called, Option.bind_eq_bind, Option.bind_some]
  split
  · rename_i other kind read
    simp [read]
  · rename_i noWrite
    simp only [Option.not_mem_none, false_iff]
    rintro ⟨kind, read⟩
    exact noWrite body kind read

/-- The function that reads a transaction is the one that is called. -/
theorem exists_of_mem_body?
    {body : TransactionBody}
    (member : body ∈ dispatched.body? world) :
    ∃ function setting kind,
      dispatched.called? world = some (function, setting) ∧
        function.readCall dispatched.input setting dispatched.call.sender =
          .ok (.write body kind) := by
  obtain ⟨⟨function, setting⟩, called, _⟩ := Option.bind_eq_some_iff.mp member
  obtain ⟨kind, read⟩ := (mem_body?_iff called).mp member
  exact ⟨function, setting, kind, called, read⟩

/--
A dispatched call does what the transaction does that it is read into; one that is read into
none does nothing.
-/
theorem ensures_answer
    (dispatched : DispatchedCall)
    {succeeded failed : World → Prop}
    (refused : failed world)
    (asked : dispatched.body? world = none → succeeded world)
    (carriedOut :
      ∀ body ∈ dispatched.body? world,
        Ensures (· = world) (TokenAction.run body dispatched.call.sender).framed
          (fun _ => succeeded) fun _ => failed) :
    Ensures (· = world) dispatched.answer (fun _ => succeeded) fun _ => failed := by
  have executed {function : TokenFunction} {setting : CallSetting}
      (called : dispatched.called? world = some (function, setting)) :
      Ensures (· = world)
        (dispatched.call.execute dispatched.source function dispatched.input setting)
        (fun _ => succeeded) fun _ => failed := by
    refine dispatched.call.ensures_execute dispatched.source function dispatched.input
      setting refused (fun query read => asked ?_) fun body kind read => ?_
    · simp only [body?, called, Option.bind_eq_bind, Option.bind_some, read]
    · exact carriedOut body ((mem_body?_iff called).mpr ⟨kind, read⟩)
  have unread {error : PrecompileError} {after : SystemAnswer → World → Prop} :
      Ensures (· = world) (throw error : TokenAction SystemAnswer) after fun _ => failed :=
    Ensures.throw fun _ same => same ▸ refused
  unfold answer
  split
  · rename_i service
    unfold SystemCall.answerService
    split
    · rename_i function found
      obtain ⟨selector, read, found⟩ := exists_of_bind_eq_ok found
      apply executed
      simp only [called?, service, read, found, Except.toOption, Option.bind_eq_bind,
        Option.bind_some, Option.pure_def]
    · exact unread
  · rename_i address atToken
    unfold SystemCall.answerToken
    split
    · rename_i selector read
      split
      · rename_i function found
        have known :
            Ensures (· = world) (TokenAction.knownToken address)
              (fun token after => after = world ∧ world.token address = .ok (some token))
              fun _ => failed :=
          (TokenAction.ensures_knownToken address).imp (fun _ => id)
            (fun _ _ found => ⟨found.1, found.1 ▸ found.2⟩) fun _ _ same => same ▸ refused
        refine known.bind fun token => Ensures.of_fact fun tokenFound => ?_
        apply executed
        simp only [called?, atToken, read, found, tokenFound, Except.toOption,
          Option.bind_eq_bind, Option.bind_some, Option.pure_def, Option.join_some]
      · exact unread
    · exact unread

/-- A dispatched call that is answered has been read and carried out. -/
theorem exists_of_answer
    {answer : SystemAnswer}
    (answered : dispatched.answer world = .ok answer after) :
    ∃ function setting read result,
      dispatched.called? world = some (function, setting) ∧
        function.readCall dispatched.input setting dispatched.call.sender = .ok read ∧
          dispatched.call.perform read world = .ok result after := by
  unfold DispatchedCall.answer at answered
  cases target : dispatched.token? with
  | none =>
      simp only [target] at answered
      obtain ⟨selector, function, read, result, known, found, done⟩ :=
        SystemCall.exists_of_answerService answered
      refine ⟨function, .plain, read, result, ?_, done⟩
      simp only [called?, target, known, found, Except.toOption, Option.bind_eq_bind,
        Option.bind_some, Option.pure_def]
  | some address =>
      simp only [target] at answered
      obtain ⟨selector, function, token, read, result, known, found, tokenFound, done⟩ :=
        SystemCall.exists_of_answerToken answered
      refine ⟨function, _, read, result, ?_, done⟩
      simp only [called?, target, known, found, tokenFound, Except.toOption,
        Option.bind_eq_bind, Option.bind_some, Option.pure_def, Option.join_some]

/-- The transaction that an answered call is read into has been carried out. -/
theorem exists_of_body?
    {answer : SystemAnswer}
    {body : TransactionBody}
    (answered : dispatched.answer world = .ok answer after)
    (read : body ∈ dispatched.body? world) :
    ∃ result, (TokenAction.run body dispatched.call.sender).framed world = .ok result after := by
  obtain ⟨function, setting, call, result, called, found, performed⟩ := exists_of_answer answered
  obtain ⟨kind, written⟩ := (mem_body?_iff called).mp read
  cases found.symm.trans written
  obtain ⟨result, middle, framed, done⟩ := exists_of_run_eq_ok performed
  cases done
  exact ⟨result, framed⟩

end DispatchedCall

end LedgerEvm
