import LedgerEvm.Proofs.Machine.WorldInvariants
import LedgerEvm.Proofs.TokenService.CallTies

namespace LedgerEvm

/-!
# Instructions and what an account has counted

No instruction but a call changes how many ties an account has to tokens, or what it has
counted of them: a contract that is destroyed has nothing left to count.  A call does so only
if it is dispatched to the token service or to a token.
-/

open World (Settled)

/-- In the world of a simulation the account has counted all its ties to tokens. -/
def Simulation.Settled (address : Address) (simulation : Simulation) : Prop :=
  simulation.world.Settled address

/-- In the world of a machine the account has counted all its ties to tokens. -/
def Machine.Settled (address : Address) (machine : Machine) : Prop :=
  machine.simulation.Settled address

/-- Nothing that code does by itself makes a tie or counts one. -/
theorem World.Settled.keptByCode
    (rule : SelfDestructRule)
    (address : Address) :
    KeptByCode rule (fun _ => True) (Settled address) where
  toIsAboutAnswers := isAboutAnswers address
  transfer settled moved := settled.congr (.transfer settled.isOpen moved)
  destroy settled unopposed _ moved doomed deleted :=
    settled.congr (.destroy settled.isOpen unopposed moved doomed deleted)
  touch move settled := by
    cases move with
    | warmAccount =>
        exact settled.congr
          (.record _ (fun _ => rfl) (fun _ => rfl) (fun _ => rfl) fun _ => rfl)
    | warmSlot =>
        exact settled.congr
          (.record _ (fun _ => rfl) (fun _ => rfl) (fun _ => rfl) fun _ => rfl)
  setStorage _ _ _ settled :=
    settled.congr (.record _ (fun _ => rfl) (fun _ => rfl) (fun _ => rfl) fun _ => rfl)
  setTransient _ _ _ settled :=
    settled.congr (.record _ (fun _ => rfl) (fun _ => rfl) (fun _ => rfl) fun _ => rfl)
  countNonce counted settled := by
    have alike (account : Account) :
        { account with nonce := account.nonce.addClamp 1 }.counted = account.counted :=
      Account.counted_eq rfl rfl rfl
    exact settled.congr (.updateAccount settled.isOpen alike (fun _ => rfl) counted)
  mayFound_of_isFree _ _ := trivial
  newContract free settled := settled.congr (.newContract settled.isOpen free)
  deploy {_ _ _ code _} _ deployed settled := by
    have alike (account : Account) : { account with code }.counted = account.counted :=
      Account.counted_eq rfl rfl rfl
    exact settled.congr (.updateAccount settled.isOpen alike (fun _ => rfl) deployed)

namespace SimAction

variable
  {environment : Environment}
  {address : Address}
  {simulation : Simulation}

theorem reads_ask
    {α : Type}
    (question : World → Except StateError α) :
    Reads simulation (ask question) fun answer => question simulation.world = .ok answer := by
  intro start same
  subst start
  unfold ask
  cases asked : question simulation.world with
  | ok answer => exact ⟨rfl, rfl⟩
  | error error => trivial

/-! ## Calls -/

/-- The call of the token service or of a token that the target of a call answers. -/
def dispatched? (environment : Environment) (context : FrameContext) (world : World) :
    Option DispatchedCall :=
  let target := context.codeAddress
  let call : SystemCall :=
    { sender := context.caller
      timestamp := context.block.timestamp
      gasLimit := context.gasLimit
      isStatic := context.isStatic }
  if (FixedContract.at? target).isSome then
    none
  else if target = Address.tokenService then
    some ⟨call, environment.prices, none, context.data⟩
  else if target = Address.exchangeRate ∨ target = Address.randomSeed then
    none
  else
    match isTokenCall world target with
    | .ok true => some ⟨call, environment.prices, some target, context.data⟩
    | _ => none

/-- Where a call is dispatched, the transaction that it is read into is careful. -/
def IsCareful
    (environment : Environment)
    (address : Address)
    (context : FrameContext)
    (world : World) :
    Prop :=
  ∀ dispatched ∈ dispatched? environment context world, dispatched.IsCareful address world

/-- An answer without code comes in the world as it is. -/
theorem settled_answered
    (result : Except PrecompileError (UInt64 × Bytes))
    (gasLimit : UInt64) :
    Keeps (Simulation.Settled address) (answered result gasLimit) :=
  keeps_answered result gasLimit

/-- What a dispatched call writes counts only if it is answered. -/
theorem yields_attempt_ties
    {dispatched : DispatchedCall}
    (settled : simulation.Settled address)
    (careful : dispatched.IsCareful address simulation.world)
    (gasLimit : UInt64) :
    Yields (· = simulation)
      (attempt dispatched.answer >>= fun answer => answeredBy answer gasLimit)
      fun outcome after => outcome.isSuccess = true → after.Settled address := by
  have attempted :
      Yields (· = simulation) (attempt dispatched.answer) fun answer after =>
        ∀ given, answer = .ok given → after.Settled address := by
    intro start same
    subst start
    unfold attempt
    cases result : dispatched.answer simulation.world with
    | ok answer world => exact fun _ _ => dispatched.settled_of_answer settled careful result
    | error error world => exact fun _ impossible => by cases impossible
  refine attempted.bind fun answer => ?_
  cases answer with
  | ok answer =>
      refine (Yields.of_keeps (keeps_answered _ gasLimit)).imp (fun _ holds => holds answer rfl)
        fun _ _ settled _ => settled
  | error error =>
      have refused : Answers (fun outcome => outcome.isSuccess = false)
          (answered (.error error) gasLimit) := by
        unfold answered
        dsimp only
        split
        · exact .pure rfl
        · split
          · exact .throw _
          · exact .pure rfl
      refine refused.imp (fun _ _ => trivial) fun outcome _ failed succeeded => ?_
      rw [failed] at succeeded
      cases succeeded

/-- The answer of a target that is careful leaves the ties of the account counted. -/
theorem yields_runTarget_ties
    {context : FrameContext}
    (settled : simulation.Settled address)
    (careful : IsCareful environment address context simulation.world) :
    Yields (· = simulation) (runTarget environment Runner.idle context)
      fun outcome after => outcome.isSuccess = true → after.Settled address := by
  have unwritten {action : SimAction Outcome}
      (keeps : Keeps (Simulation.Settled address) action) :
      Yields (· = simulation) action
        fun outcome after => outcome.isSuccess = true → after.Settled address :=
    (Yields.of_keeps keeps).imp (fun _ same => same ▸ settled) fun _ _ settled _ => settled
  unfold IsCareful dispatched? at careful
  unfold runTarget
  dsimp only at careful ⊢
  split
  · exact unwritten (settled_answered _ _)
  · rename_i noContract
    simp only [noContract, Option.isSome_none, Bool.false_eq_true, if_false] at careful
    split
    · rename_i service
      rw [if_pos service] at careful
      exact yields_attempt_ties settled (careful _ rfl) _
    · rename_i noService
      rw [if_neg noService] at careful
      split
      · exact unwritten (settled_answered _ _)
      · rename_i noRate
        split
        · exact unwritten (settled_answered _ _)
        · rename_i noSeed
          rw [if_neg (by simp [noRate, noSeed])] at careful
          refine (reads_ask _).bind fun isToken found => ?_
          cases isToken with
          | true =>
              rw [found] at careful
              exact yields_attempt_ties settled (careful _ rfl) _
          | false =>
              refine unwritten ((keeps_ask _).bind fun code => ?_)
              split
              · exact Keeps.pure _
              · exact Keeps.throw _

/-- A message call whose target is careful leaves the ties of the account counted. -/
theorem ensures_messageCall_ties
    {kind : CallKind}
    {context : FrameContext}
    (settled : simulation.Settled address)
    (careful :
      ∀ opened ∈ opened? kind context simulation,
        IsCareful environment address context opened.world) :
    Ensures (· = simulation) (messageCall environment Runner.idle kind context)
      (fun _ => Simulation.Settled address) fun _ => Simulation.Settled address :=
  (World.Settled.keptByCode environment.rules.selfDestruct address).ensures_messageCall
    Runner.idle_leavesStatic.evolving settled
    fun opened opens settled => yields_runTarget_ties settled (careful opened opens)

end SimAction

namespace Exec

variable
  {environment : Environment}
  {address : Address}

/-! ## Calls -/

/-- The dispatched call that a call makes, with the world in which it is answered. -/
def calls? (environment : Environment) (kind : CallKind) (machine : Machine) :
    Option (DispatchedCall × World) :=
  match prepareCall environment kind machine with
  | .ok (some launch) paid => do
      let opened ← SimAction.opened? kind launch.context paid.simulation
      let dispatched ← SimAction.dispatched? environment launch.context opened.world
      return (dispatched, opened.world)
  | _ => none

/-- A call that starts no frame leaves the ties counted if what it dispatches is careful. -/
theorem ensures_call_ties
    {kind : CallKind}
    {machine : Machine}
    (settled : machine.Settled address)
    (careful :
      ∀ dispatched world,
        calls? environment kind machine = some (dispatched, world) →
        dispatched.IsCareful address world) :
    Ensures (· = machine) (call environment Runner.idle kind)
      (fun _ => Machine.Settled address) fun _ => Machine.Settled address := by
  have quiet : Quiet false (Machine.Settled address) :=
    (World.Settled.keptByCode environment.rules.selfDestruct address).quiet
  have gives (gas : UInt64) : Keeps (Machine.Settled address) (giveBack gas) :=
    fun _ settled => settled
  have prepared :
      Ensures (· = machine) (prepareCall environment kind)
        (fun launch? paid =>
          paid.Settled address ∧
            ∀ launch ∈ launch?,
              ∀ opened ∈ SimAction.opened? kind launch.context paid.simulation,
                SimAction.IsCareful environment address launch.context opened.world)
        fun _ => Machine.Settled address := by
    intro start same
    subst start
    have kept := quiet.prepareCall gives environment kind machine settled
    unfold calls? at careful
    cases prepares : prepareCall environment kind machine with
    | error error paid =>
        rw [prepares] at kept
        exact kept
    | ok launch? paid =>
        rw [prepares] at kept careful
        refine ⟨kept, fun launch member opened opens dispatched found => ?_⟩
        cases member
        refine careful dispatched opened.world ?_
        simp only [Option.mem_def] at opens found
        simp only [opens, found, Option.bind_eq_bind, Option.bind_some, Option.pure_def]
  refine Ensures.bind prepared fun launch? => ?_
  cases launch? with
  | none => exact (quiet.push 0).imp (fun _ holds => holds.1) (fun _ _ => id) fun _ _ => id
  | some launch =>
      refine Ensures.bind ?_ fun outcome =>
        quiet.ensures_takeOutcome (fun inStatic => by cases inStatic) (gives _) _ _
      refine ensures_onSimulation fun frame => ?_
      intro simulation ⟨settled, careful⟩
      exact SimAction.ensures_messageCall_ties settled (careful launch rfl) simulation rfl

/-! ## Steps -/

/-- The dispatched call that a step makes, with the world in which it is answered. -/
def dispatched? (environment : Environment) (machine : Machine) :
    Option (DispatchedCall × World) :=
  match begin environment machine with
  | .ok (instruction, _, _) ready => do
      let kind ← instruction.callKind?
      calls? environment kind ready
  | .error _ _ => none

theorem begin_settled :
    Keeps (Machine.Settled address) (begin environment) := by
  have quiet : Quiet false (Machine.Settled address) :=
    (World.Settled.keptByCode environment.rules.selfDestruct address).quiet
  exact
    (ensures_begin_of_quiet quiet (fun _ inStatic => by cases inStatic)
      fun settled => settled).imp (fun _ => id) (fun _ _ holds => holds.1) fun _ _ => id

/-- A step that starts no frame leaves the ties counted if what it dispatches is careful. -/
theorem ensures_step_ties
    {machine : Machine}
    (settled : machine.Settled address)
    (careful :
      ∀ dispatched world,
        dispatched? environment machine = some (dispatched, world) →
        dispatched.IsCareful address world) :
    Ensures (· = machine) (step environment Runner.idle)
      (fun _ => Machine.Settled address) fun _ => Machine.Settled address := by
  rw [step_eq]
  intro start same
  subst start
  have begins := @begin_settled environment address machine settled
  unfold dispatched? at careful
  cases begun : begin environment machine with
  | error error ready =>
      rw [begun] at begins
      rw [bind_eq_of_error begun]
      exact begins
  | ok answer ready =>
      obtain ⟨instruction, place, gasBefore⟩ := answer
      rw [begun] at begins careful
      rw [bind_eq_of_ok begun]
      have executes :
          Ensures (· = ready) (execute environment Runner.idle instruction)
            (fun _ => Machine.Settled address) fun _ => Machine.Settled address := by
        cases calls : instruction.callKind? with
        | none =>
            have writes : KeptByWriting environment Runner.idle false (Machine.Settled address) :=
              (World.Settled.keptByCode environment.rules.selfDestruct address).keptByWriting
                (Runner.idle_keepsWorld _)
            have kept : Keeps (Machine.Settled address) _ :=
              writes.execute_of_no_call calls fun inStatic => by cases inStatic
            exact kept.imp (fun _ same => same ▸ begins) (fun _ _ => id) fun _ _ => id
        | some kind =>
            rw [execute_of_callKind? calls]
            refine ensures_call_ties begins fun dispatched world found => ?_
            refine careful dispatched world ?_
            simpa only [calls, Option.bind_eq_bind, Option.bind_some] using found
      exact ensures_amending place gasBefore executes (fun _ settled => settled)
        (fun _ settled => settled) ready rfl

end Exec

end LedgerEvm
