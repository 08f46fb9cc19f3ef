import LedgerEvm.Proofs.Clamp
import LedgerEvm.Proofs.Machine.Evolution

namespace LedgerEvm

/-!
# Frames that fail

A frame that does not complete is dropped, with all that its own frames have kept in
it.  What is left of a failed call is that numbers for new addresses have been used up,
which no question about the ledger reveals; of a failed creation there is also left
that its creator has sent something.
-/

open World (Evolves SameBelow)

/-! ## What a failure may leave -/

/-- A reading of an account, or that reading with the nonce raised by one. -/
def Account.SameOrCounted (before after : Except StateError (Option Account)) : Prop :=
  after = before ∨
    ∃ account nonce,
      before = .ok (some account) ∧ nonce.toNat = account.nonce.toNat + 1 ∧
        after = .ok (some { account with nonce })

/-- The same answers, but that the nonce of one account may have been raised by one. -/
structure LedgerView.SameOrCounted
    (creator : Address)
    (before after : LedgerView) :
    Prop where
  accountEntry :
    Account.SameOrCounted (before.accountEntry creator) (after.accountEntry creator)
  get : Account.SameOrCounted (before.get creator) (after.get creator)
  otherEntries :
    ∀ address, address ≠ creator →
      after.accountEntry address = before.accountEntry address
  otherAccounts :
    ∀ address, address ≠ creator → after.get address = before.get address
  rest : { after with accountEntry := before.accountEntry, get := before.get } = before

theorem LedgerView.SameOrCounted.of_eq
    {creator : Address}
    {before after : LedgerView}
    (same : after = before) :
    before.SameOrCounted creator after := by
  subst same
  exact ⟨.inl rfl, .inl rfl, fun _ _ => rfl, fun _ _ => rfl, rfl⟩

/-- Counting what an account has sent raises its nonce by one, unless it is the largest. -/
theorem Account.sameOrCounted_addClamp
    (account : Account) :
    SameOrCounted (.ok (some account))
      (.ok (some { account with nonce := account.nonce.addClamp 1 })) := by
  rcases UInt64.addClamp_one_cases account.nonce with same | raised
  · exact .inl (by rw [same])
  · exact .inr ⟨account, _, rfl, raised, rfl⟩

namespace World

variable {world after : World}

/-- Counting what an account has sent shows in its nonce only. -/
theorem sameOrCounted_of_updateAccount
    {creator : Address}
    {reached : Bool}
    (counted :
      world.updateAccount creator
          (fun account => { account with nonce := account.nonce.addClamp 1 }) =
        .ok (reached, after)) :
    world.view.SameOrCounted creator after.view := by
  rcases updateAccount_cases counted with ⟨_, _, rfl⟩ | ⟨account, claimed, _, rfl⟩
  · exact .of_eq rfl
  obtain ⟨entry, alive⟩ := accountEntry_of_claim? claimed
  by_cases isOpen : world.IsOpen
  · have raised := account.sameOrCounted_addClamp
    refine ⟨?_, ?_, fun _ different => accountEntry_setAccount_of_ne different _,
      fun _ different => get_setAccount_of_ne different _, view_setAccount _ _ _⟩
    · simp only [view, accountEntry_setAccount_self isOpen, entry]
      exact raised
    · by_cases isPlain : world.IsPlain creator
      · simp only [view, get_setAccount_self isOpen isPlain, get_of_isPlain isPlain, entry]
        simpa [alive, Except.map, Option.filter] using raised
      · exact .inl (get_setAccount_of_not_isPlain isPlain _)
  · -- the bare view has no journal to write to
    have bare : world.layers = [] := Decidable.not_not.mp isOpen
    refine .of_eq ?_
    simp only [setAccount, record, bare]

end World

/-! ## Frames -/

namespace SimAction

variable {α : Type}

/--
The action leaves such a simulation behind, with an answer that is not kept or with an
error.
-/
def Fails
    (keeps : α → Bool)
    (action : SimAction α)
    (simulation after : Simulation) : Prop :=
  (∃ answer, action simulation = .ok answer after ∧ keeps answer = false) ∨
    ∃ error, action simulation = .error error after

/-- What is ensured of the answers that are not kept, and of errors, is so of failures. -/
theorem of_fails
    {keeps : α → Bool}
    {action : SimAction α}
    {before left : Simulation → Prop}
    {simulation after : Simulation}
    (ensures :
      Ensures before action (fun answer after => keeps answer = false → left after)
        (fun _ => left))
    (holds : before simulation)
    (fails : Fails keeps action simulation after) :
    left after := by
  rcases fails with ⟨answer, result, failed⟩ | ⟨error, result⟩
  · exact ensures.of_ok result holds failed
  · exact ensures.of_error result holds

/-- Around a frame that is not kept the answers are those from before. -/
theorem ensures_framed
    (holds : LedgerView → Prop)
    (fact : World → Prop)
    (keeps : α → Bool)
    {action : SimAction α}
    (evolves : ∀ start : World,
      KeepsGiven (fun simulation => fact simulation.world)
        (Simulation.Evolved false start) action)
    (pushed : ∀ world : World, fact world → fact world.push) :
    Ensures (fun simulation => holds simulation.world.view ∧ fact simulation.world)
      (framed keeps action)
      (fun answer after => keeps answer = false → holds after.world.view)
      (fun _ after => holds after.world.view) := by
  rintro simulation ⟨held, known⟩
  have inside :=
    evolves simulation.world.push { simulation with world := simulation.world.push }
      ⟨Evolves.refl simulation.world.push, pushed _ known⟩
  unfold framed
  cases result : action { simulation with world := simulation.world.push } with
  | ok answer inner =>
      rw [result] at inside
      intro failed
      -- the inner frame evolved above the opened journal only, which is now dropped
      simp only [failed, Bool.false_eq_true, if_false]
      rw [World.view_revert (SameBelow.of_evolves inside)]
      exact held
  | error error inner =>
      rw [result] at inside
      dsimp only
      rw [World.view_revert (SameBelow.of_evolves inside)]
      exact held

/-- Finding a free address shows in no answer. -/
theorem freshAddress_leaves
    (creator : Address)
    (view : LedgerView) :
    Ensures (fun simulation => simulation.world.view = view) (freshAddress creator)
      (fun address simulation =>
        simulation.world.view = view ∧ simulation.world.isFree address = .ok true)
      (fun _ simulation => simulation.world.view = view) :=
  ensures_freshAddress (fun world => world.view = view) (fun same => same) creator

/-- Counting a creation shows in the creator's nonce only. -/
theorem countNonce_leaves
    (creator address : Address)
    (view : LedgerView) :
    Ensures
      (fun simulation =>
        simulation.world.view = view ∧ simulation.world.isFree address = .ok true)
      (countNonce creator)
      (fun _ simulation =>
        view.SameOrCounted creator simulation.world.view ∧
          simulation.world.isFree address = .ok true)
      (fun _ simulation => view.SameOrCounted creator simulation.world.view) := by
  rintro simulation ⟨rfl, free⟩
  simp only [countNonce, change]
  cases counted :
      simulation.world.updateAccount creator
        (fun account => { account with nonce := account.nonce.addClamp 1 }) with
  | error error => exact .of_eq rfl
  | ok result =>
      exact ⟨World.sameOrCounted_of_updateAccount counted,
        World.isFree_updateAccount free counted⟩

variable
  {environment : Environment}
  {runner : Runner}
  (evolving : runner.Evolving)
include evolving

/-- A call that does not complete leaves all answers as they were. -/
theorem ensures_messageCall
    (kind : CallKind)
    (context : FrameContext)
    (holds : LedgerView → Prop) :
    Ensures (fun simulation => holds simulation.world.view)
      (messageCall environment runner kind context)
      (fun outcome after => outcome.isSuccess = false → holds after.world.view)
      (fun _ after => holds after.world.view) := by
  have noStatic : false = true → context.isStatic = true :=
    fun inStatic => by cases inStatic
  have noValue : false = true → kind = .call → context.value = 0 :=
    fun inStatic => by cases inStatic
  refine Ensures.imp
    (ensures_framed holds (fun _ => True) _
      (fun start => KeepsGiven.of_keeps (keeps_sent evolving noStatic noValue start))
      fun _ _ => trivial)
    ?_ (fun _ _ => id) fun _ _ => id
  exact fun _ held => ⟨held, trivial⟩

/-- A creation that does not complete leaves at most that the creator's nonce was raised. -/
theorem ensures_createContract
    (creator : Address)
    (context : FrameContext)
    (initCode : Bytes)
    (view : LedgerView) :
    Ensures (fun simulation => simulation.world.view = view)
      (createContract environment runner creator context initCode)
      (fun outcome after =>
        outcome.isSuccess = false → view.SameOrCounted creator after.world.view)
      (fun _ after => view.SameOrCounted creator after.world.view) := by
  refine Ensures.bind
    ((freshAddress_leaves creator view).imp_failed fun _ _ same => .of_eq same)
    fun address => ?_
  refine Ensures.bind (countNonce_leaves creator address view) fun _ => ?_
  exact ensures_framed (view.SameOrCounted creator)
    (fun world => world.isFree address = .ok true) _
    (keepsGiven_founded evolving address _ initCode)
    fun world free => (World.isFree_push address).trans free

end SimAction

/--
A frame that fails leaves no trace.  After a call that does not complete, in whatever
way and in whatever state it was made, all answers are those from before; after such a
creation they are too, but that the creator's nonce may have been raised by one.
-/
theorem Environment.failed_frame_leaves_no_trace
    (environment : Environment)
    (bound : FrameContext → Nat)
    (context : FrameContext)
    (simulation after : Simulation) :
    (∀ kind : CallKind,
      SimAction.Fails Outcome.isSuccess
          (SimAction.messageCall environment (environment.runnerWithin bound) kind context)
          simulation after →
        after.world.view = simulation.world.view) ∧
    (∀ (creator : Address) (initCode : Bytes),
      SimAction.Fails Outcome.isSuccess
          (SimAction.createContract environment (environment.runnerWithin bound) creator
            context initCode)
          simulation after →
        simulation.world.view.SameOrCounted creator after.world.view) := by
  have evolving := environment.evolving_runnerWithin bound
  constructor
  · intro kind fails
    exact SimAction.of_fails
      (SimAction.ensures_messageCall evolving kind context fun view =>
        view = simulation.world.view)
      rfl fails
  · intro creator initCode fails
    exact SimAction.of_fails
      (SimAction.ensures_createContract evolving creator context initCode
        simulation.world.view)
      rfl fails

end LedgerEvm
