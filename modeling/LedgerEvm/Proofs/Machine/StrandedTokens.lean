import LedgerEvm.Proofs.Machine.StartedFrames
import LedgerEvm.Proofs.Machine.StaticEntries
import LedgerEvm.Proofs.Machine.Ties
import LedgerEvm.Proofs.TokenService.DispatchedCalls

namespace LedgerEvm

/-!
# Contracts that are deleted hold no tokens

Where an account had counted all its ties to tokens when a transaction began, it has so at
every moment of its run, and where it is deleted it has none; but for a piece that it hands to
itself, for a credit to it when it is not there, and for counts that come to their end.
-/

open World (AtEachLevel SameTies Settled)

/-! ## Moves -/

namespace CallStack

variable
  {environment : Environment}
  {address : Address}

/-- In the innermost frame and in each frame around it the ties of an account are counted. -/
def SettledAtEachLevel (address : Address) (stack : CallStack) : Prop :=
  AtEachLevel (World.Settled address) stack.waiting.length stack.active.simulation.world

/--
If the next instruction makes a call that is dispatched to the token service or to a token,
and that is answered, then the transaction that it is read into is careful.
-/
def IsCareful (environment : Environment) (address : Address) (stack : CallStack) : Prop :=
  match stack.active with
  | .running machine =>
      machine.frame.isOver = false →
      ∀ call ∈ Exec.dispatched? environment machine, call.1.IsCareful address call.2
  | .ended _ => True

instance (environment : Environment) (address : Address) (stack : CallStack) :
    Decidable (stack.IsCareful environment address) :=
  match stack with
  | ⟨.running machine, _⟩ =>
      inferInstanceAs
        (Decidable
          (machine.frame.isOver = false →
            ∀ call ∈ Exec.dispatched? environment machine, call.1.IsCareful address call.2))
  | ⟨.ended _, _⟩ => isTrue trivial

/-- A careful move leaves the ties counted at each level. -/
theorem settled_moves
    {before after : CallStack}
    (move : Moves environment before after)
    (careful : before.IsCareful environment address)
    (levels : before.SettledAtEachLevel address) :
    after.SettledAtEachLevel address := by
  have kept := Settled.keptByCode environment.rules.selfDestruct address
  cases move.moved with
  | close finished => exact levels
  | launch runs found => exact (kept.launch? levels found).1
  | @handOn result frame waiting =>
      exact kept.resume environment.limits frame.awaited.mayFound_trivial levels
  | @act machine waiting runs =>
      have acts :
          Ensures (· = machine) (Exec.step environment Runner.idle)
            (fun _ => Machine.Settled address) fun _ => Machine.Settled address :=
        Exec.ensures_step_ties levels.holds fun dispatched world found =>
          careful runs (dispatched, world) found
      exact levels.change (sameBelow_step environment machine) (holds_ofResult acts rfl)

/-! ## Runs -/

/-- A transaction that begins only marks who has sent it and whom it calls. -/
theorem sameTies_warmed
    (context : FrameContext)
    (isCreation : Bool)
    (world : World) :
    SameTies world (Environment.warmed context isCreation world) := by
  have marked (world : World) (address : Address) :
      SameTies world (world.warmAccount address) :=
    .record world (fun _ => rfl) (fun _ => rfl) (fun _ => rfl) fun _ => rfl
  have origin : SameTies world (world.push.warmAccount context.origin) :=
    (SameTies.push world).trans (marked _ _)
  unfold Environment.warmed
  cases isCreation with
  | true => exact origin
  | false => exact origin.trans (marked _ _)

/-- A transaction begins where the ties are counted, in a frame of its own. -/
theorem Begins.settled
    {context : FrameContext}
    {world : World}
    {trace : Trace}
    {start : CallStack}
    (begins : start.Begins environment context world trace)
    (counts : world.CountsTies address) :
    start.SettledAtEachLevel address := by
  have entered (isCreation : Bool) :
      (Environment.warmed context isCreation world).Settled address :=
    ⟨counts.congr (sameTies_warmed context isCreation world),
      Environment.isOpen_warmed context isCreation world⟩
  exact
    ((Settled.keptByCode environment.rules.selfDestruct address).begins begins entered).levels

end CallStack

/-! ## A contract that owns a piece -/

/-- A contract owns the only piece of a token, and everybody's ties to tokens are counted. -/
def Snapshot.Contents.ofOwningContract
    (owner heir treasury token : Address)
    (code : Bytes) :
    Snapshot.Contents :=
  let contract :=
    { Account.newContract owner code with
      numAssociations := 1
      numPositiveBalances := 1
      ownedNfts := 1 }
  { ofPiece
      { address := token, kind := .nonFungible, treasury, totalSupply := 1, lastUsedSerial := 1 }
      { token, serial := 1, owner, spender := Address.zero, metadata := [] }
      [heir, treasury] with
    accounts :=
      Table.ofList
        [(owner, contract), (heir, { address := heir, numAssociations := 1 }),
          (treasury, { address := treasury, numAssociations := 1, numTreasuryTitles := 1 })] }

namespace World

/-- The owner of the only piece holds it, and its token is a title of the treasury. -/
theorem ties_ofPiece
    {token : Token}
    {piece : Nft}
    (own : piece.token = token.address)
    (alive : token.deleted = false)
    (others : List Address)
    (accounts : Table Address Account)
    (redirectsTokenCalls : Bool)
    (timestamp : Timestamp)
    (firstNum : UInt64)
    (holder : Address)
    (tie : TokenTie) :
    (World.ofSnapshot (.ofContents { Snapshot.Contents.ofPiece token piece others with accounts })
        redirectsTokenCalls timestamp firstNum).ties holder tie =
      if holder = if tie = .title then token.treasury else piece.owner then 1 else 0 := by
  generalize named :
    World.ofSnapshot (.ofContents { Snapshot.Contents.ofPiece token piece others with accounts })
      redirectsTokenCalls timestamp firstNum = world
  cases tie with
  | balance =>
      have held (address : Address) :
          0 < world.units holder address ↔ address = token.address ∧ holder = piece.owner := by
        have units :
            world.units holder address =
              if address = token.address ∧ holder = piece.owner then 1 else 0 := by
          subst named
          exact Snapshot.Contents.unitsOf_get?_relationships_ofPiece token piece others holder
            address
        rw [units]
        split <;> simp_all
      simp only [ties, held]
      by_cases owns : holder = piece.owner <;> simp [owns]
  | piece =>
      have owners (address : Address) (serial : Int64) :
          world.ownerOf? address serial = some holder ↔
            (address = token.address ∧ serial = piece.serial) ∧ holder = piece.owner := by
        have read :
            world.nft address serial =
              .ok (if address = piece.token ∧ serial = piece.serial then some piece else none) := by
          subst named
          exact congrArg Except.ok
            (Snapshot.Contents.get?_nfts_ofPiece token piece others address serial)
        rw [ownerOf?_of_nft read, Option.map_if, own]
        simp [eq_comm]
      simp only [ties, owned, owners]
      by_cases owns : holder = piece.owner <;> simp [owns, ite_and]
  | title =>
      have titles (address : Address) :
          world.hasTitle holder address = true ↔
            address = token.address ∧ holder = token.treasury := by
        have read :
            world.token address = .ok (if address = token.address then some token else none) := by
          subst named
          exact congrArg Except.ok (Snapshot.Contents.get?_tokens_ofPiece token piece others address)
        rw [hasTitle_of_token read]
        by_cases here : address = token.address <;>
          simp [here, alive, @eq_comm _ token.treasury]
      simp only [ties, titles]
      by_cases titled : holder = token.treasury <;> simp [titled]

/-- In the ledger of a contract that owns a piece everybody's ties are counted exactly. -/
theorem counted_ofOwningContract
    {owner heir treasury : Address}
    (owned : owner ≠ treasury)
    (inherits : owner ≠ heir)
    (distinct : heir ≠ treasury)
    (token : Address)
    (code : Bytes)
    (redirectsTokenCalls : Bool)
    (timestamp : Timestamp)
    (firstNum : UInt64) :
    let world :=
      World.ofSnapshot (.ofContents (.ofOwningContract owner heir treasury token code))
        redirectsTokenCalls timestamp firstNum
    world.IsFiled ∧ ∀ address, world.counted address = .ok (world.ties address) := by
  intro world
  constructor
  · exact IsFiled.ofContents _ [_] ((_ ++ [_]).map _) rfl rfl redirectsTokenCalls timestamp firstNum
  · intro address
    have ties (tie : TokenTie) :
        world.ties address tie =
          if address = if tie = .title then treasury else owner then 1 else 0 :=
      ties_ofPiece rfl rfl _ _ _ _ _ _ _
    have entry :
        world.accountEntry address =
          .ok
            ((Snapshot.Contents.ofOwningContract owner heir treasury token code).accounts.get?
              address) :=
      rfl
    simp only [counted, entry, Snapshot.Contents.ofOwningContract, Table.ofList,
      List.foldl_cons, List.foldl_nil, Table.get?_insert, Table.get?_empty, Except.map,
      Except.ok.injEq]
    funext tie
    rw [ties]
    by_cases ofTreasury : address = treasury
    · subst ofTreasury
      cases tie <;> simp [Option.filter, Account.counted, owned.symm]
    · by_cases ofHeir : address = heir
      · subst ofHeir
        cases tie <;> simp [Option.filter, Account.counted, inherits.symm, distinct]
      · by_cases ofOwner : address = owner
        · subst ofOwner
          cases tie <;> simp [Option.filter, Account.counted, Account.newContract, inherits, owned]
        · cases tie <;> simp [ofTreasury, ofHeir, ofOwner]

end World

namespace CallStack

/-! ## Deletions -/

/--
In the run of a transaction that begins where an account has counted all its ties to tokens,
and that is careful with it at each move, the ties are counted at every moment; and if the
account is deleted, it has none.
-/
theorem deleted_contracts_have_no_ties
    {context : FrameContext}
    {world : World}
    {trace : Trace}
    {start stack : CallStack}
    {count : Nat}
    (counts : world.CountsTies address)
    (begins : start.Begins environment context world trace)
    (leads :
      Leads
        (fun before after =>
          Moves environment before after ∧ before.IsCareful environment address)
        count start stack) :
    stack.active.simulation.world.CountsTies address ∧
      ∀ account,
        stack.active.simulation.world.accountEntry address = .ok (some account) →
        account.deleted = true →
        stack.active.simulation.world.HasNoTies address := by
  have levels : stack.SettledAtEachLevel address :=
    leads.keeps (fun move => settled_moves move.1 move.2) (begins.settled counts)
  have counts := levels.holds.toCountsTies
  exact ⟨counts, fun _ found deleted => counts.hasNoTies_of_deleted found deleted⟩

/--
A contract hands its only piece on and destructs itself; its moves are careful, and the entry
that is deleted has no ties left.
-/
theorem handing_on_leaves_no_ties :
    let source : PriceSource :=
      { schedule := FeeSchedule.empty.list ⟨0⟩ [.cryptoTransfer, .contractCall] { }
        rates := RateTable.empty.list ⟨0⟩ (.lasting 1 12) }
    let environment : Environment :=
      { rules := ⟨⟨0, 46, 0⟩, .shanghai, ⟨true, false⟩, ⟨true, true⟩⟩
        prices := source }
    let owner := Address.ofNum 1001
    let heir := Address.ofNum 1002
    let treasury := Address.ofNum 1003
    let token := Address.ofNum 2001
    -- call the token with the data of the transaction, then destruct for the heir
    let code : Bytes :=
      [0x36, 0x60, 0x00, 0x60, 0x00, 0x37, 0x60, 0x00, 0x60, 0x00, 0x36, 0x60, 0x00, 0x60, 0x00,
        0x61, 0x07, 0xd1, 0x5a, 0xf1, 0x50, 0x61, 0x03, 0xea, 0xff]
    let world :=
      World.ofSnapshot (.ofContents (.ofOwningContract owner heir treasury token code)) true ⟨0⟩
        5000
    let handOn := AbiValue.encodeCall TokenFunction.ercTransfer.selector [.address heir, .uint 1]
    let context := FrameContext.ofTransaction heir owner 0 handOn 10000000 1 { }
    (∀ address, world.counted address = .ok (world.ties address)) ∧
      ∃ start instructions stack,
        start.Begins environment context world Trace.off ∧
          Leads
            (fun before after =>
              Moves environment before after ∧ before.IsCareful environment owner)
            instructions start stack ∧
          stack.active.simulation.world.accountEntry owner =
            .ok
              (some
                { Account.newContract owner code with deleted := true, numAssociations := 1 }) ∧
          stack.active.simulation.world.HasNoTies owner := by
  intro source environment owner heir treasury token code world handOn context
  obtain ⟨filed, exact⟩ :=
    World.counted_ofOwningContract
      (show owner ≠ treasury by decide) (show owner ≠ heir by decide)
      (show heir ≠ treasury by decide) token code true ⟨0⟩ 5000
  obtain ⟨start, instructions, stack, begins, leads, deleted⟩ :=
    @exists_run_of_advance environment context world
      (fun stack => decide (stack.IsCareful environment owner))
      (fun stack =>
        decide
          (stack.active.simulation.world.accountEntry owner =
            .ok
              (some
                { Account.newContract owner code with deleted := true, numAssociations := 1 })))
      15 (by decide +kernel)
  have deleted := of_decide_eq_true deleted
  have counts : world.CountsTies owner :=
    ⟨filed, fun read tie => by
      cases (exact owner).symm.trans read
      exact Nat.le_refl _⟩
  have careful :
      Leads
        (fun before after =>
          Moves environment before after ∧ before.IsCareful environment owner)
        instructions start stack :=
    leads.imp fun move => ⟨move.1, of_decide_eq_true move.2⟩
  exact ⟨exact, start, instructions, stack, begins, careful, deleted,
    (deleted_contracts_have_no_ties counts begins careful).2 _ deleted rfl⟩

/--
A contract hands its only piece to itself before it hands it on.  Its relationship then still
says one, but it has counted no balance, and it is deleted all the same.
-/
theorem handing_in_place_strands_a_balance :
    let source : PriceSource :=
      { schedule := FeeSchedule.empty.list ⟨0⟩ [.cryptoTransfer, .contractCall] { }
        rates := RateTable.empty.list ⟨0⟩ (.lasting 1 12) }
    let environment : Environment :=
      { rules := ⟨⟨0, 46, 0⟩, .shanghai, ⟨true, false⟩, ⟨true, true⟩⟩
        prices := source }
    let owner := Address.ofNum 1001
    let heir := Address.ofNum 1002
    let treasury := Address.ofNum 1003
    let token := Address.ofNum 2001
    -- call the token with the first 100 bytes of the data, then with the next 68, then destruct
    let code : Bytes :=
      [0x36, 0x60, 0x00, 0x60, 0x00, 0x37, 0x60, 0x00, 0x60, 0x00, 0x60, 0x64, 0x60, 0x00, 0x60,
        0x00, 0x61, 0x07, 0xd1, 0x5a, 0xf1, 0x50, 0x60, 0x00, 0x60, 0x00, 0x60, 0x44, 0x60, 0x64,
        0x60, 0x00, 0x61, 0x07, 0xd1, 0x5a, 0xf1, 0x50, 0x61, 0x03, 0xea, 0xff]
    let world :=
      World.ofSnapshot (.ofContents (.ofOwningContract owner heir treasury token code)) true ⟨0⟩
        5000
    let handInPlace :=
      AbiValue.encodeCall TokenFunction.ercTransferFrom.selector
        [.address owner, .address owner, .uint 1]
    let handOn := AbiValue.encodeCall TokenFunction.ercTransfer.selector [.address heir, .uint 1]
    let context := FrameContext.ofTransaction heir owner 0 (handInPlace ++ handOn) 10000000 1 { }
    (∀ address, world.counted address = .ok (world.ties address)) ∧
      ∃ start instructions stack,
        start.Begins environment context world Trace.off ∧
          Leads (Moves environment) instructions start stack ∧
          stack.active.simulation.world.accountEntry owner =
            .ok
              (some
                { Account.newContract owner code with deleted := true, numAssociations := 1 }) ∧
          stack.active.simulation.world.relationship owner token =
            .ok (some { account := owner, token, balance := 1, kycGranted := true }) ∧
          ¬ stack.active.simulation.world.HasNoTies owner := by
  intro source environment owner heir treasury token code world handInPlace handOn context
  obtain ⟨_, exact⟩ :=
    World.counted_ofOwningContract
      (show owner ≠ treasury by decide) (show owner ≠ heir by decide)
      (show heir ≠ treasury by decide) token code true ⟨0⟩ 5000
  obtain ⟨start, instructions, stack, begins, leads, ended⟩ :=
    @exists_run_of_advance environment context world (fun _ => true)
      (fun stack =>
        decide
          (stack.active.simulation.world.accountEntry owner =
              .ok
                (some
                  { Account.newContract owner code with deleted := true, numAssociations := 1 }) ∧
            stack.active.simulation.world.relationship owner token =
              .ok (some { account := owner, token, balance := 1, kycGranted := true })))
      24 (by decide +kernel)
  obtain ⟨deleted, held⟩ := of_decide_eq_true ended
  refine ⟨exact, start, instructions, stack, begins, leads.imp fun move => move.1, deleted, held,
    fun none => ?_⟩
  cases none.balances held

end CallStack

end LedgerEvm
