import LedgerEvm.Proofs.TokenService.Evolution

namespace LedgerEvm

/-!
# Refusals

Whatever is asked of the token service is checked before it is written, apart from
transfers and approvals, whose items are checked and written one by one.  Once something
has been written only a failing lookup can end an action.  So an action that is refused,
with a response code or because an entity is missing, has left the world as it was.
-/

/--
Absence is an answer: an account, a token or a relationship that is not there is answered
as such, and a lookup that fails does so for another reason.
-/
structure Snapshot.AnswersAbsence (snapshot : Snapshot) : Prop where
  account : ∀ address what, snapshot.account address ≠ .error (.missingEntity what)
  token : ∀ address what, snapshot.token address ≠ .error (.missingEntity what)
  relationship :
    ∀ account token what, snapshot.relationship account token ≠ .error (.missingEntity what)

/-- The lookups of finite tables do not fail. -/
theorem Snapshot.answersAbsence_ofContents
    (contents : Contents) :
    (ofContents contents).AnswersAbsence where
  account _ _ failed := by cases failed
  token _ _ failed := by cases failed
  relationship _ _ _ failed := by cases failed

/-- Errors of a kind that no failing lookup ends in. -/
structure PrecompileError.ApartFrom
    (refused : PrecompileError → Prop)
    (snapshot : Snapshot) : Prop where
  account :
    ∀ {address : Address} {error : StateError},
      snapshot.account address = .error error → ¬ refused (.ofState error)
  token :
    ∀ {address : Address} {error : StateError},
      snapshot.token address = .error error → ¬ refused (.ofState error)
  relationship :
    ∀ {account token : Address} {error : StateError},
      snapshot.relationship account token = .error error → ¬ refused (.ofState error)
  exhausted : ∀ what, ¬ refused (.ofState (.snapshot what))

namespace PrecompileError

/-- A response code comes from the token service alone. -/
theorem apartFrom_failed
    (code : ResponseCode)
    (snapshot : Snapshot) :
    ApartFrom (· = .failed code) snapshot := by
  have apart (error : StateError) : ofState error ≠ .failed code := by
    cases error <;> exact nofun
  exact ⟨fun _ => apart _, fun _ => apart _, fun _ => apart _, fun _ => apart _⟩

/-- Where absence is answered, a missing entity is reported by the token service alone. -/
theorem apartFrom_missingEntity
    {snapshot : Snapshot}
    (answers : snapshot.AnswersAbsence)
    (what : String) :
    ApartFrom (· = .missingEntity what) snapshot := by
  have missing {error : StateError} (same : ofState error = .missingEntity what) :
      error = .missingEntity what := by
    cases error <;> cases same
    rfl
  refine ⟨fun failed same => ?_, fun failed same => ?_, fun failed same => ?_, fun _ => nofun⟩
  · exact answers.account _ what (missing same ▸ failed)
  · exact answers.token _ what (missing same ▸ failed)
  · exact answers.relationship _ _ what (missing same ▸ failed)

end PrecompileError

/-- A transfer or an approval lists items that are checked and written one by one. -/
def TransactionBody.ListsItems : TransactionBody → Prop
  | .cryptoTransfer _ => True
  | .cryptoApproveAllowance _ => True
  | _ => False

/-! ## Failing lookups -/

namespace World

variable {world : World} {address : Address} {error : StateError}

theorem token_eq_error
    (failed : world.token address = .error error) :
    world.snapshot.token address = .error error := by
  unfold token at failed
  split at failed
  · cases failed
  · exact failed

theorem accountEntry_eq_error
    (failed : world.accountEntry address = .error error) :
    world.snapshot.account address = .error error := by
  unfold accountEntry at failed
  split at failed
  · cases failed
  · exact failed

theorem relationship_eq_error
    {account token : Address}
    (failed : world.relationship account token = .error error) :
    world.snapshot.relationship account token = .error error := by
  unfold relationship at failed
  split at failed
  · cases failed
  · exact failed

/-- What is reached is not known only where the account or the token cannot be looked up. -/
theorem get_eq_error
    (failed : world.get address = .error error) :
    world.snapshot.account address = .error error ∨
      world.snapshot.token address = .error error := by
  by_cases isPlain : world.IsPlain address
  · rw [get_of_isPlain isPlain] at failed
    cases entry : world.accountEntry address with
    | ok found =>
        rw [entry] at failed
        cases failed
    | error cause =>
        rw [entry] at failed
        cases failed
        exact .inl (accountEntry_eq_error entry)
  · simp only [IsPlain, Classical.not_imp] at isPlain
    simp only [get, isPlain.1, if_true] at failed
    cases found : world.token address with
    | ok token? =>
        rw [found] at failed isPlain
        cases token? with
        | none => exact (isPlain.2 rfl).elim
        | some token => cases failed
    | error cause =>
        rw [found] at failed
        cases failed
        exact .inr (token_eq_error found)

/-- An account cannot be changed only where it, or the token there, cannot be looked up. -/
theorem updateAccount_eq_error
    {change : Account → Account}
    (failed : world.updateAccount address change = .error error) :
    world.snapshot.account address = .error error ∨
      world.snapshot.token address = .error error := by
  rw [updateAccount_eq] at failed
  unfold claim? at failed
  split at failed
  · cases failed
  · cases reached : world.get address with
    | ok found =>
        rw [reached] at failed
        cases failed
    | error cause =>
        rw [reached] at failed
        cases failed
        exact get_eq_error reached

theorem isFree_eq_error
    (failed : world.isFree address = .error error) :
    world.snapshot.account address = .error error ∨
      world.snapshot.token address = .error error := by
  unfold isFree at failed
  cases entry : world.accountEntry address with
  | error cause =>
      rw [entry] at failed
      cases failed
      exact .inl (accountEntry_eq_error entry)
  | ok found =>
      rw [entry] at failed
      cases found with
      | some account => cases failed
      | none =>
          cases token : world.token address with
          | ok found =>
              rw [token] at failed
              cases failed
          | error cause =>
              rw [token] at failed
              cases failed
              exact .inr (token_eq_error token)

/-- The search for a free address fails with a lookup or for want of a free address. -/
theorem drawFreeAddress_eq_error
    {sponsor : Address}
    {attempts : Nat}
    {drawn : World}
    (failed : drawFreeAddress sponsor attempts world = (.error error, drawn)) :
    (∃ address,
        world.snapshot.account address = .error error ∨
          world.snapshot.token address = .error error) ∨
      ∃ what, error = .snapshot what := by
  induction attempts generalizing world with
  | zero =>
      cases failed
      exact .inr ⟨_, rfl⟩
  | succ attempts inductionHypothesis =>
      unfold drawFreeAddress at failed
      dsimp only at failed
      split at failed
      · rename_i cause unknown
        cases failed
        exact .inl ⟨_, isFree_eq_error unknown⟩
      · cases failed
      · have sameSnapshot : (world.nextAddress sponsor).2.snapshot = world.snapshot := rfl
        rw [← sameSnapshot]
        exact inductionHypothesis failed

end World

/-! ## Checks before writes -/

namespace TokenAction

variable
  {α β : Type}
  {refused : PrecompileError → Prop}
  {world : World}
  {snapshot : Snapshot}

/-- Nothing is refused any more, whatever has been written over the snapshot. -/
def Finishes
    (refused : PrecompileError → Prop)
    (snapshot : Snapshot)
    (action : TokenAction α) : Prop :=
  Ensures (fun world => world.snapshot = snapshot) action
    (fun _ world => world.snapshot = snapshot)
    fun error _ => ¬ refused error

/-- What is refused has been refused before anything was written. -/
def ChecksFirst
    (refused : PrecompileError → Prop)
    (world : World)
    (action : TokenAction α) : Prop :=
  Ensures (· = world) action
    (fun _ after => after.snapshot = world.snapshot)
    fun error after => refused error → after = world

namespace Finishes

theorem pure
    (answer : α) :
    Finishes refused snapshot (Pure.pure answer) :=
  fun _ same => same

theorem bind
    {first : TokenAction β}
    {next : β → TokenAction α}
    (begins : Finishes refused snapshot first)
    (goesOn : ∀ answer, Finishes refused snapshot (next answer)) :
    Finishes refused snapshot (first >>= next) :=
  Ensures.bind begins goesOn

theorem guarded
    {condition : Prop}
    [Decidable condition]
    {first : TokenAction PUnit}
    {rest : TokenAction α}
    (begins : Finishes refused snapshot first)
    (goesOn : Finishes refused snapshot rest) :
    Finishes refused snapshot (if condition then first >>= fun _ => rest else rest) := by
  split
  · exact begins.bind fun _ => goesOn
  · exact goesOn

theorem forM
    {step : β → TokenAction PUnit}
    (finishes : ∀ item, Finishes refused snapshot (step item))
    (items : List β) :
    Finishes refused snapshot (items.forM step) := by
  induction items with
  | nil => exact Finishes.pure _
  | cons item rest inductionHypothesis =>
      exact (finishes item).bind fun _ => inductionHypothesis

theorem mapM
    {step : β → TokenAction α}
    (finishes : ∀ item, Finishes refused snapshot (step item))
    (items : List β) :
    Finishes refused snapshot (items.mapM step) := by
  induction items with
  | nil => exact Finishes.pure _
  | cons item rest inductionHypothesis =>
      rw [List.mapM_cons]
      refine (finishes item).bind fun _ => ?_
      exact inductionHypothesis.bind fun _ => Finishes.pure _

theorem checksFirst
    {action : TokenAction α}
    (finishes : Finishes refused world.snapshot action) :
    ChecksFirst refused world action :=
  Ensures.imp finishes (fun _ same => congrArg World.snapshot same) (fun _ _ => id)
    fun _ _ accepted refusal => (accepted refusal).elim

end Finishes

namespace ChecksFirst

/-- A check before other checks. -/
theorem check
    {first : TokenAction β}
    {next : β → TokenAction α}
    (reads : Keeps (· = world) first)
    (goesOn : ∀ answer, ChecksFirst refused world (next answer)) :
    ChecksFirst refused world (first >>= next) :=
  Ensures.bind (reads.imp_failed fun _ _ same _ => same) goesOn

/-- Nothing is refused after the last check. -/
theorem finish
    {first : TokenAction β}
    {next : β → TokenAction α}
    (checks : ChecksFirst refused world first)
    (goesOn : ∀ answer, Finishes refused world.snapshot (next answer)) :
    ChecksFirst refused world (first >>= next) :=
  Ensures.bind checks fun answer =>
    (goesOn answer).imp_failed fun _ _ accepted refusal => (accepted refusal).elim

/-- A check that is only made under a condition. -/
theorem guarded
    {condition : Prop}
    [Decidable condition]
    {first : TokenAction PUnit}
    {rest : TokenAction α}
    (reads : Keeps (· = world) first)
    (goesOn : ChecksFirst refused world rest) :
    ChecksFirst refused world (if condition then first >>= fun _ => rest else rest) := by
  split
  · exact check reads fun _ => goesOn
  · exact goesOn

end ChecksFirst

/-! ## Writes -/

theorem finishes_record
    (change : Journal → Journal) :
    Finishes refused snapshot (TokenAction.change fun world => world.record change) :=
  fun world same => (World.snapshot_record world change).trans same

section

variable (apart : PrecompileError.ApartFrom refused snapshot)
include apart

theorem finishes_adjust
    (address : Address)
    (update : Account → Account) :
    Finishes refused snapshot (adjust address update) := by
  intro world same
  subst same
  unfold adjust
  cases changed : world.updateAccount address update with
  | ok result => exact (World.SameBelow.updateAccount changed).snapshot
  | error error =>
      rcases World.updateAccount_eq_error changed with failed | failed
      · exact apart.account failed
      · exact apart.token failed

theorem finishes_setBalance
    (holding : Relationship)
    (balance : UInt64) :
    Finishes refused snapshot (setBalance holding balance) := by
  refine (finishes_record _).bind fun _ => ?_
  split
  · exact finishes_adjust apart _ _
  · split
    · exact finishes_adjust apart _ _
    · exact Finishes.pure _

theorem finishes_shrink
    (token : Token)
    (holding : Relationship)
    (amount balance : UInt64)
    (serials : List Int64) :
    Finishes refused snapshot (shrink token holding amount balance serials) := by
  refine (finishes_record _).bind fun _ => ?_
  exact (finishes_setBalance apart _ _).bind fun _ => Finishes.pure _

theorem finishes_removeRelationship
    (account address : Address) :
    Finishes refused snapshot (removeRelationship account address) := by
  refine Finishes.bind ?_ fun _ => (finishes_record _).bind fun _ => Finishes.pure _
  intro world same
  subst same
  simp only [ask]
  cases asked : world.relationship account address with
  | ok answer => rfl
  | error error => exact apart.relationship (World.relationship_eq_error asked)

theorem finishes_freshAddress
    (sponsor : Address) :
    Finishes refused snapshot (freshAddress sponsor) := by
  intro world same
  subst same
  unfold freshAddress World.newContractAddress
  cases draws : World.drawFreeAddress sponsor World.addressAttempts world with
  | mk answer drawn =>
      cases answer with
      | ok address =>
          have drawsOnly := World.drawFreeAddress_eq sponsor World.addressAttempts world
          rw [draws] at drawsOnly
          exact (congrArg World.snapshot drawsOnly :)
      | error error =>
          rcases World.drawFreeAddress_eq_error draws with ⟨_, failed | failed⟩ | ⟨_, rfl⟩
          · exact apart.account failed
          · exact apart.token failed
          · exact apart.exhausted _

end

/-! ## What is checked first -/

section

variable (apart : PrecompileError.ApartFrom refused world.snapshot)
include apart

theorem checksFirst_associate
    (relations : TokenRelations) :
    ChecksFirst refused world (associate relations) := by
  refine ChecksFirst.check (keeps_checkRelations _) fun _ => ?_
  refine ChecksFirst.check (keeps_ensureSubject _) fun _ => ?_
  refine ChecksFirst.check (Keeps.mapM fun token _ => keeps_newRelationship _ token)
    fun created => ?_
  refine Finishes.checksFirst ((Finishes.forM (fun _ => finishes_record _) _).bind fun _ => ?_)
  exact finishes_adjust apart _ _

theorem checksFirst_dissociate
    (relations : TokenRelations) :
    ChecksFirst refused world (dissociate relations) := by
  refine ChecksFirst.check (keeps_checkRelations _) fun _ => ?_
  refine ChecksFirst.check (keeps_ensureSubject _) fun _ => ?_
  refine ChecksFirst.check (Keeps.forM fun token _ => keeps_checkDissociation _ token)
    fun _ => ?_
  refine Finishes.checksFirst
    ((Finishes.mapM (fun _ => finishes_removeRelationship apart _ _) _).bind fun _ => ?_)
  exact finishes_adjust apart _ _

theorem checksFirst_mint
    (body : TokenMint) :
    ChecksFirst refused world (mint body) := by
  refine ChecksFirst.check (keeps_liveToken _) fun token => ?_
  refine ChecksFirst.check (keeps_ensure _ _) fun _ => ?_
  refine ChecksFirst.check (keeps_relationship _ _) fun holding => ?_
  refine ChecksFirst.check (keeps_mintedAmount _ _) fun ⟨minted, serials⟩ => ?_
  refine ChecksFirst.check (keeps_require _ _) fun totalSupply => ?_
  refine ChecksFirst.check (keeps_ensure _ _) fun _ => ?_
  refine ChecksFirst.check (keeps_shifted _ _ _) fun balance => ?_
  refine Finishes.checksFirst ((Finishes.forM (fun _ => finishes_record _) _).bind fun _ => ?_)
  refine Finishes.guarded (finishes_adjust apart _ _) ?_
  refine (finishes_record _).bind fun _ => ?_
  exact (finishes_setBalance apart _ _).bind fun _ => Finishes.pure _

theorem checksFirst_removePieces
    (token : Address)
    (serials : List Int64)
    (owner : Address)
    (whenEmpty : ResponseCode) :
    ChecksFirst refused world (removePieces token serials owner whenEmpty) := by
  refine ChecksFirst.check (keeps_ensure _ _) fun _ => ?_
  refine ChecksFirst.check (keeps_ensure _ _) fun _ => ?_
  refine ChecksFirst.check (Keeps.forM fun serial _ => keeps_checkOwned _ _ serial) fun _ => ?_
  refine Finishes.checksFirst ((Finishes.forM (fun _ => finishes_record _) _).bind fun _ => ?_)
  exact finishes_adjust apart _ _

theorem checksFirst_burn
    (body : TokenBurn) :
    ChecksFirst refused world (burn body) := by
  refine ChecksFirst.check (keeps_liveToken _) fun token => ?_
  refine ChecksFirst.check (keeps_ensure _ _) fun _ => ?_
  refine ChecksFirst.check (keeps_relationship _ _) fun holding => ?_
  dsimp only
  split
  · refine ChecksFirst.check (keeps_ensure _ _) fun _ => ?_
    refine ChecksFirst.check (keeps_reduced _ _ _) fun balance => ?_
    exact (checksFirst_removePieces apart _ _ _ _).finish fun _ => finishes_shrink apart _ _ _ _ _
  · refine ChecksFirst.check (keeps_ensure _ _) fun _ => ?_
    refine ChecksFirst.check (keeps_reduced _ _ _) fun balance => ?_
    exact (finishes_shrink apart _ _ _ _ _).checksFirst

theorem checksFirst_wipe
    (body : TokenWipe) :
    ChecksFirst refused world (wipe body) := by
  refine ChecksFirst.check (keeps_liveToken _) fun token => ?_
  refine ChecksFirst.check (keeps_ensure _ _) fun _ => ?_
  refine ChecksFirst.check (keeps_ensureSubject _) fun _ => ?_
  refine ChecksFirst.check (keeps_ensure _ _) fun _ => ?_
  refine ChecksFirst.check (keeps_relationship _ _) fun holding => ?_
  dsimp only
  refine ChecksFirst.guarded (keeps_ensure _ _) ?_
  refine ChecksFirst.check (keeps_reduced _ _ _) fun balance => ?_
  split
  · exact (checksFirst_removePieces apart _ _ _ _).finish fun _ => finishes_shrink apart _ _ _ _ _
  · exact (finishes_shrink apart _ _ _ _ _).checksFirst

theorem checksFirst_create
    (body : TokenCreate)
    (sponsor : Address) :
    ChecksFirst refused world (create body sponsor) := by
  refine ChecksFirst.check (keeps_ensureAccount _ _) fun _ => ?_
  refine ChecksFirst.check (keeps_ensure _ _) fun _ => ?_
  refine Finishes.checksFirst ((finishes_freshAddress apart _).bind fun address => ?_)
  refine (finishes_record _).bind fun _ => ?_
  refine (finishes_record _).bind fun _ => ?_
  exact (finishes_adjust apart _ _).bind fun _ => Finishes.pure _

/-- What is checked first is refused before it has been written. -/
theorem ChecksFirst.run
    {body : TransactionBody}
    (single : ¬ body.ListsItems)
    (sender : Address) :
    ChecksFirst refused world (run body sender) := by
  have answered {β : Type} {first : TokenAction β} (checks : ChecksFirst refused world first)
      (answer : β → TokenResult) :
      ChecksFirst refused world (first >>= fun result => Pure.pure (answer result)) :=
    checks.finish fun _ => Finishes.pure _
  cases body with
  | tokenAssociateToAccount relations =>
      exact answered (checksFirst_associate apart relations) fun _ => .status
  | tokenDissociateFromAccount relations =>
      exact answered (checksFirst_dissociate apart relations) fun _ => .status
  | tokenMint body => exact answered (checksFirst_mint apart body) .mint
  | tokenBurn body => exact answered (checksFirst_burn apart body) .burn
  | tokenAccountWipe body => exact answered (checksFirst_wipe apart body) .wipe
  | tokenCreate body => exact answered (checksFirst_create apart body sender) .create
  | cryptoTransfer => exact (single trivial).elim
  | cryptoApproveAllowance => exact (single trivial).elim
  | _ => exact Ensures.throw fun _ same _ => same

end

/--
A transaction of the token service that is refused, with a response code or because an
entity is missing, has left the world as it was, unless it lists items that are carried
out one by one.  Of the snapshot it is relied on only that it answers what is absent.
-/
theorem refused_run_leaves_world
    {body : TransactionBody}
    (single : ¬ body.ListsItems)
    {sender : Address}
    {error : PrecompileError}
    {after : World}
    (fails : run body sender world = .error error after) :
    (∀ code, error = .failed code → after = world) ∧
      ∀ what, error = .missingEntity what → world.snapshot.AnswersAbsence → after = world := by
  constructor
  · intro code refusal
    have apart := PrecompileError.apartFrom_failed code world.snapshot
    exact (ChecksFirst.run apart single sender).of_error fails rfl refusal
  · intro what refusal answers
    have apart := PrecompileError.apartFrom_missingEntity answers what
    exact (ChecksFirst.run apart single sender).of_error fails rfl refusal

/--
A burn is refused for its second piece, which belongs to another account, and an
association for its second token, which does not exist: what comes first in the list is
still there in the one case and not written in the other.
-/
theorem refused_for_second_item :
    let treasury : Account := { address := Address.ofNum 1001 }
    let holder : Account := { address := Address.ofNum 1002 }
    let token : Token :=
      { address := Address.ofNum 2001, kind := .nonFungible, treasury := treasury.address
        totalSupply := 2, lastUsedSerial := 2, hasSupplyKey := true }
    let piece (serial : Int64) (owner : Account) : NftId × Nft :=
      (⟨token.address, serial⟩,
        { token := token.address, serial, owner := owner.address, spender := Address.zero
          metadata := [] })
    let contents : Snapshot.Contents :=
      { accounts :=
          Table.ofList ([treasury, holder].map fun account => (account.address, account))
        tokens := Table.ofList [(token.address, token)]
        relationships :=
          Table.ofList
            [(⟨treasury.address, token.address⟩,
              { account := treasury.address, token := token.address, balance := 2 })]
        nfts := Table.ofList [piece 1 treasury, piece 2 holder] }
    let world := World.ofSnapshot (.ofContents contents) false ⟨0⟩ 5000
    let burning : TransactionBody := .tokenBurn ⟨token.address, 0, [1, 2]⟩
    let joining : TransactionBody :=
      .tokenAssociateToAccount ⟨holder.address, [token.address, Address.ofNum 2002]⟩
    let missing := "token " ++ (Address.ofNum 2002).text
    ¬ burning.ListsItems ∧ ¬ joining.ListsItems ∧ world.snapshot.AnswersAbsence ∧
      (∃ after,
        run burning treasury.address world =
            .error (.failed .senderDoesNotOwnNftSerialNo) after ∧
          after = world) ∧
      ∃ after,
        run joining holder.address world = .error (.missingEntity missing) after ∧
          after = world := by
  intro treasury holder token piece contents world burning joining missing
  have answers : world.snapshot.AnswersAbsence := Snapshot.answersAbsence_ofContents contents
  obtain ⟨afterBurning, burnFails⟩ :
      ∃ after,
        run burning treasury.address world =
          .error (.failed .senderDoesNotOwnNftSerialNo) after :=
    exists_of_answerOf_eq_error (by decide +kernel)
  obtain ⟨afterJoining, joinFails⟩ :
      ∃ after, run joining holder.address world = .error (.missingEntity missing) after :=
    exists_of_answerOf_eq_error (by decide +kernel)
  refine ⟨id, id, answers, ⟨afterBurning, burnFails, ?_⟩, ⟨afterJoining, joinFails, ?_⟩⟩
  · exact (refused_run_leaves_world id burnFails).1 _ rfl
  · exact (refused_run_leaves_world id joinFails).2 _ rfl answers

end TokenAction

end LedgerEvm
