import LedgerEvm.Proofs.Clamp
import LedgerEvm.Proofs.Ledger.Holdings
import LedgerEvm.Proofs.Machine.Evolution
import LedgerEvm.Proofs.Machine.Objections

namespace LedgerEvm

/-!
# Conservation of currency

Every move leaves the total as it was, in a sound world whose total fits in a word; so
does every frame, kept or dropped.  Only transfers touch balances at all: what a
self-destruction deletes has been emptied before.
-/

namespace World

/-- The world that is left is sound, and holds as much in total. -/
structure Conserves (world after : World) : Prop where
  sound : after.IsSound
  total : after.total = world.total

theorem toNat_addClamp
    {left right : Word}
    (fits : left.toNat + right.toNat < 2 ^ 256) :
    (left.addClamp right).toNat = left.toNat + right.toNat := by
  rw [Word.toNat_addClamp, BitVec.toNat_allOnes]
  omega

section

variable
  {world after : World}
  (sound : world.IsSound)
include sound

/-- A write that concerns neither accounts nor tokens. -/
theorem conserves_record
    {change : Journal → Journal}
    (sameAccounts : ∀ journal, (change journal).accounts = journal.accounts)
    (sameTokens : ∀ journal, (change journal).tokens = journal.tokens) :
    world.Conserves (world.record change) :=
  ⟨sound.record sameAccounts sameTokens, total_record world sameAccounts sameTokens⟩

/-- A change of an account that leaves alone what it holds and stands for. -/
theorem conserves_updateAccount
    {address : Address}
    {change : Account → Account}
    {reached : Bool}
    (changed : world.updateAccount address change = .ok (reached, after))
    (harmless : ∀ account,
      (change account).balance = account.balance ∧
        (change account).kind = account.kind ∧
        (change account).deleted = account.deleted) :
    world.Conserves after := by
  rcases sound.updateAccount_cases changed with
    ⟨_, _, rfl⟩ | ⟨account, isPlain, noToken, alive, found, _, rfl⟩
  · exact ⟨sound, rfl⟩
  · obtain ⟨balance, kind, deleted⟩ := harmless account
    have stillNoToken : (change account).isToken = false := by
      simpa [Account.isToken, kind] using noToken
    refine ⟨sound.setAccount isPlain stillNoToken, ?_⟩
    have put := total_setAccount_of_alive sound isPlain (deleted.trans alive)
    rw [held_of_get found, balance] at put
    exact Nat.add_right_cancel put

/-- A token that is put hides no currency. -/
theorem conserves_putToken
    {token : Token}
    (vacant : world.redirectsTokenCalls = true →
      world.overlay.accounts.get? token.address = none ∧ world.held token.address = 0) :
    world.Conserves (world.putToken token) := by
  refine ⟨sound.putToken fun redirects => (vacant redirects).1,
    total_eq_of_held fun address => ?_⟩
  -- the new token may hide what is under its address, but nothing is held there
  by_cases hidden : world.redirectsTokenCalls = true ∧ address = token.address
  · obtain ⟨redirects, rfl⟩ := hidden
    rw [(vacant redirects).2, held_of_get (get_putToken_self sound.isOpen redirects token)]
    rfl
  · exact held_eq_of_get (get_putToken fun redirects same => hidden ⟨redirects, same⟩)

/-- A new contract comes into being without currency. -/
theorem conserves_newContract
    {address : Address}
    (free : world.isFree address = .ok true) :
    world.Conserves
      (world.createAccount { Account.newContract address [] with nonce := 1 }) := by
  obtain ⟨entry, token⟩ := isFree_iff.mp free
  have isPlain : world.IsPlain address := fun _ => token
  refine ⟨sound.createAccount isPlain rfl, ?_⟩
  have put :=
    total_createAccount sound { Account.newContract address [] with nonce := 1 } isPlain rfl
  have nothing : world.held (Account.newContract address []).address = 0 :=
    (vacant_of_isFree free).2
  rw [nothing] at put
  exact put

/-! ## Moving currency -/

omit sound in
theorem held_of_balance
    {address : Address}
    {balance : Word}
    (found : world.balance address = .ok balance) :
    world.held address = balance.toNat := by
  simp only [held, found]

/-- Another balance of a living account is seen at its address and in the total. -/
theorem setBalance
    {address : Address}
    {account : Account}
    (isPlain : world.IsPlain address)
    (noToken : account.isToken = false)
    (alive : account.deleted = false)
    (found : world.get address = .ok (some account))
    (balance : Word) :
    (world.setAccount address { account with balance }).IsSound ∧
      (world.setAccount address { account with balance }).total + account.balance.toNat =
        world.total + balance.toNat ∧
      (world.setAccount address { account with balance }).held address = balance.toNat := by
  have holds : world.held address = account.balance.toNat := held_of_get found
  refine ⟨sound.setAccount isPlain noToken, ?_,
    held_setAccount_of_alive sound isPlain alive⟩
  rw [← holds]
  exact total_setAccount_of_alive sound isPlain alive

/-- A debit takes from the source, where there is enough, what it is asked for. -/
theorem debit_cases
    {address : Address}
    {value available : Word}
    {reached : Bool}
    (held : world.balance address = .ok available)
    (enough : value ≤ available)
    (debit :
      world.updateAccount address
          (fun account => { account with balance := account.balance - value }) =
        .ok (reached, after))
    (nonzero : value ≠ 0) :
    after.IsSound ∧ after.total + value.toNat = world.total ∧
      after.held address + value.toNat = world.held address := by
  have held := held_of_balance held
  rw [BitVec.le_def] at enough
  rcases sound.updateAccount_cases debit with
    ⟨nothing, _, _⟩ | ⟨account, isPlain, noToken, alive, found, _, rfl⟩
  · have none : value.toNat = 0 := by omega
    exact (nonzero (BitVec.eq_of_toNat_eq none)).elim
  · have holds : world.held address = account.balance.toNat := held_of_get found
    have within : value.toNat ≤ account.balance.toNat := by omega
    have left : (account.balance - value).toNat = account.balance.toNat - value.toNat :=
      BitVec.toNat_sub_of_le (BitVec.le_def.mpr within)
    obtain ⟨debited, total, there⟩ :=
      setBalance sound isPlain noToken alive found (account.balance - value)
    refine ⟨debited, ?_, ?_⟩
    · omega
    · omega

/-- A credit adds what it is asked for, where that fits, and touches nothing else. -/
theorem credit_cases
    {address : Address}
    {value : Word}
    {reached : Bool}
    {credited : World}
    (fits : world.total + value.toNat < 2 ^ 256)
    (credit :
      world.updateAccount address
          (fun account => { account with balance := account.balance.addClamp value }) =
        .ok (reached, credited))
    (ends :
      reached = true ∧ after = credited ∨
        reached = false ∧ credited.reaches address = .ok false ∧
          after = credited.createAccount { address, balance := value }) :
    after.IsSound ∧ after.total = world.total + value.toNat ∧
      ∀ other, other ≠ address → after.held other = world.held other := by
  rcases sound.updateAccount_cases credit with
    ⟨nothing, rfl, rfl⟩ | ⟨account, isPlain, noToken, alive, found, rfl, rfl⟩
  · rcases ends with ⟨impossible, _⟩ | ⟨_, absent, rfl⟩
    · cases impossible
    -- a target that is no token hides nothing, so what it is created with counts in full
    have isPlain : credited.IsPlain address := isPlain_of_not_reaches absent
    let fresh : Account := { address, balance := value }
    have total : _ = credited.total + value.toNat :=
      total_createAccount sound fresh isPlain rfl
    have nothing : credited.held fresh.address = 0 := nothing
    refine ⟨sound.createAccount isPlain rfl, ?_, fun _ different =>
      held_createAccount_of_ne different⟩
    change (credited.createAccount fresh).total = _
    omega
  · rcases ends with ⟨_, rfl⟩ | ⟨impossible, _⟩
    · have holds : world.held address = account.balance.toNat := held_of_get found
      have bounded := held_le_total world address
      have sum :
          (account.balance.addClamp value).toNat = account.balance.toNat + value.toNat :=
        toNat_addClamp (by omega)
      obtain ⟨credited, total, _⟩ :=
        setBalance sound isPlain noToken alive found (account.balance.addClamp value)
      refine ⟨credited, ?_, fun _ different => held_setAccount_of_ne different _⟩
      omega
    · cases impossible

/--
A transfer conserves the total; of the whole balance, it leaves nothing at the source.
-/
theorem conserves_transfer
    (fits : world.total < 2 ^ 256)
    {source target : Address}
    {value : Word}
    (moved : world.transfer source target value = .ok after) :
    world.Conserves after ∧
      (source ≠ target → world.balance source = .ok value →
        after.held source = 0) := by
  rcases transfer_cases moved with
    ⟨nothing, rfl⟩ |
    ⟨nonzero, different, available, _, debited, _, credited, held, enough, debit,
      credit, ends⟩
  · refine ⟨⟨sound, rfl⟩, fun different whole => ?_⟩
    rcases nothing with rfl | same
    · exact held_of_balance whole
    · exact (different same).elim
  · obtain ⟨debitedSound, taken, remains⟩ :=
      debit_cases sound held enough debit nonzero
    obtain ⟨creditedSound, given, others⟩ :=
      credit_cases debitedSound (by omega) credit ends
    refine ⟨⟨creditedSound, by omega⟩, fun _ whole => ?_⟩
    rw [others source different]
    have whole := held_of_balance whole
    omega

/-! ## Self-destruction -/

omit sound in
/-- Nothing that is asked stands against the deletion of a contract that is not spared. -/
theorem objectionToDeletion?_of_unopposed
    {rule : SelfDestructRule}
    {contract beneficiary : Address}
    (unopposed : world.objectionToSelfDestruct? rule contract beneficiary = .ok none)
    (doomed : rule.sparesOldContracts = true → world.isCreated contract = true) :
    world.objectionToDeletion? contract beneficiary = .ok none := by
  rcases (objectionToSelfDestruct?_eq_ok_iff doomed).mp unopposed with ⟨none, _⟩ | ⟨_, asked⟩
  · cases none
  · exact objectionToDeletion?_eq_firstStanding?.trans asked

omit sound in
/-- A contract that is deleted does not sweep its balance to itself. -/
theorem ne_of_unopposed
    {rule : SelfDestructRule}
    {contract beneficiary : Address}
    (unopposed : world.objectionToSelfDestruct? rule contract beneficiary = .ok none)
    (doomed : rule.sparesOldContracts = true → world.isCreated contract = true) :
    contract ≠ beneficiary := by
  rintro rfl
  have asked := objectionToDeletion?_of_unopposed unopposed doomed
  simp [objectionToDeletion?, pure, Except.pure] at asked

omit sound in
theorem ne_of_unopposed_of_swept
    {rule : SelfDestructRule}
    {contract beneficiary : Address}
    {balance : Word}
    (unopposed : world.objectionToSelfDestruct? rule contract beneficiary = .ok none)
    (swept : world.transfer contract beneficiary balance = .ok after)
    (doomed : rule.sparesOldContracts = true → after.isCreated contract = true) :
    contract ≠ beneficiary := by
  intro same
  refine ne_of_unopposed unopposed (fun spares => ?_) same
  -- a sweep to the contract itself moves nothing
  rcases transfer_cases swept with ⟨_, rfl⟩ | ⟨_, different, _⟩
  · exact doomed spares
  · exact (different same).elim

/-- Deleting a contract that has been emptied conserves the total. -/
theorem conserves_deleteAccount
    {address : Address}
    (emptied : world.held address = 0)
    (deleted : world.deleteAccount address = .ok after) :
    world.Conserves after := by
  rcases sound.updateAccount_cases (updateAccount_of_deleteAccount deleted) with
    ⟨_, impossible, _⟩ | ⟨account, isPlain, noToken, _, _, _, rfl⟩
  · cases impossible
  · refine ⟨sound.setAccount isPlain noToken, ?_⟩
    have total := total_setAccount sound isPlain { account with deleted := true }
    rw [emptied] at total
    exact total

/-! ## Moves and frames -/

/-- Every move conserves the total. -/
theorem conserves_move
    (fits : world.total < 2 ^ 256)
    {isStatic : Bool}
    (move : Move isStatic world after) :
    world.Conserves after := by
  cases move with
  | warmAccount => exact conserves_record sound (fun _ => rfl) fun _ => rfl
  | warmSlot => exact conserves_record sound (fun _ => rfl) fun _ => rfl
  | draw =>
      exact ⟨⟨sound.isOpen, sound.snapshot, sound.tokens, sound.accounts⟩, rfl⟩
  | setStorage => exact conserves_record sound (fun _ => rfl) fun _ => rfl
  | setTransient => exact conserves_record sound (fun _ => rfl) fun _ => rfl
  | transfer moved => exact (conserves_transfer sound fits moved).1
  | countNonce counted =>
      exact conserves_updateAccount sound counted fun _ => ⟨rfl, rfl, rfl⟩
  | newContract free => exact conserves_newContract sound free
  | deploy deployed =>
      exact conserves_updateAccount sound deployed fun _ => ⟨rfl, rfl, rfl⟩
  | destroy unopposed held swept doomed deleted =>
      obtain ⟨conserves, emptied⟩ := conserves_transfer sound fits swept
      have different := ne_of_unopposed_of_swept unopposed swept doomed
      have deletes :=
        conserves_deleteAccount conserves.sound (emptied different held) deleted
      exact ⟨deletes.sound, deletes.total.trans conserves.total⟩
  | count isCounting counted =>
      refine conserves_updateAccount sound counted fun account => ?_
      obtain ⟨_, _, _, _, changed⟩ := isCounting account
      rw [changed]
      exact ⟨rfl, rfl, rfl⟩
  | putRelationship => exact conserves_record sound (fun _ => rfl) fun _ => rfl
  | putNft => exact conserves_record sound (fun _ => rfl) fun _ => rfl
  | setAllowance => exact conserves_record sound (fun _ => rfl) fun _ => rfl
  | changeSupply known totalSupply lastUsedSerial =>
      have own := sound.address_of_token known
      refine conserves_putToken sound fun redirects => ?_
      exact own.symm ▸ sound.hidden_of_token redirects known
  | newToken free =>
      refine conserves_putToken sound fun _ => ?_
      exact vacant_of_isFree free

theorem conserves_push :
    world.Conserves world.push := by
  refine ⟨sound.congr (by simp [IsOpen, push]) rfl rfl (fun _ => ?_) fun _ => ?_,
    total_push world⟩
  · rw [overlay_push]
  · rw [overlay_push]

omit sound in
/-- Keeping a frame inside another conserves the total. -/
theorem conserves_commit
    (isOpen : world.IsOpen)
    (inside : SameBelow world.push after)
    (sound : after.IsSound) :
    after.Conserves after.commit := by
  obtain ⟨parent, outer, below⟩ := List.exists_cons_of_ne_nil isOpen
  have outside : after.layers.tail = world.layers := inside.outer
  rw [below] at outside
  cases shape : after.layers with
  | nil =>
      rw [shape] at outside
      cases outside
  | cons child rest =>
      rw [shape, List.tail_cons] at outside
      rw [outside] at shape
      have overlay := overlay_commit shape
      have snapshot : after.commit.snapshot = after.snapshot := by simp [commit, shape]
      have redirects : after.commit.redirectsTokenCalls = after.redirectsTokenCalls := by
        simp [commit, shape]
      refine ⟨sound.congr (by simp [IsOpen, commit, shape]) snapshot redirects
        (fun _ => ?_) fun _ => ?_, total_eq_of_get fun address => ?_⟩
      · rw [overlay]
      · rw [overlay]
      · exact get_congr snapshot redirects (by rw [overlay]) (by rw [overlay]) address

/-- Dropping a frame conserves the total. -/
theorem conserves_revert
    (inside : SameBelow world.push after) :
    world.Conserves after.revert := by
  rw [inside.revert_eq]
  exact ⟨⟨sound.isOpen, sound.snapshot, sound.tokens, sound.accounts⟩, rfl⟩

/-- However the world evolves, the total is conserved. -/
theorem conserves_evolves
    (fits : world.total < 2 ^ 256)
    {isStatic : Bool}
    (evolves : Evolves isStatic world after) :
    world.Conserves after := by
  -- the bound on the total is carried along by the total itself, which does not change
  induction evolves with
  | refl => exact ⟨sound, rfl⟩
  | move _ move reached =>
      have before := reached sound fits
      have moved := conserves_move before.sound (before.total.symm ▸ fits) move
      exact ⟨moved.sound, moved.total.trans before.total⟩
  | kept _ inside reached inner =>
      have before := reached sound fits
      have opened := conserves_push before.sound
      have within := inner opened.sound (opened.total.symm ▸ before.total.symm ▸ fits)
      have kept :=
        conserves_commit before.sound.isOpen (SameBelow.of_evolves inside) within.sound
      refine ⟨kept.sound, ?_⟩
      rw [kept.total, within.total, opened.total, before.total]
  | dropped _ inside reached _ =>
      have before := reached sound fits
      have dropped := conserves_revert before.sound (SameBelow.of_evolves inside)
      exact ⟨dropped.sound, dropped.total.trans before.total⟩

end

end World

/-!
## A run conserves currency

Code is run in a world over a snapshot by moves and frames alone, so what they conserve
every run conserves, however its frames call, create, destroy and fail.
-/

open World (Evolves)

namespace World

/-- The first frame over a consistent snapshot is sound. -/
theorem isSound_ofSnapshot
    {snapshot : Snapshot}
    (consistent : snapshot.IsConsistent)
    (redirectsTokenCalls : Bool)
    (timestamp : Timestamp)
    (firstNum : UInt64) :
    (World.ofSnapshot snapshot redirectsTokenCalls timestamp firstNum).push.IsSound := by
  have untouched :
      (World.ofSnapshot snapshot redirectsTokenCalls timestamp firstNum).push.overlay =
        .empty :=
    overlay_push _
  refine ⟨by simp [IsOpen, push], consistent, fun found => ?_, fun found => ?_⟩
  · rw [untouched, Journal.empty, Table.get?_empty] at found
    cases found
  · rw [untouched, Journal.empty, Table.get?_empty] at found
    cases found

end World

/--
Over a consistent snapshot whose total fits in a word, and from any state that the first
frame may be in, a call or a creation that returns leaves the total as it found it.
-/
theorem Environment.first_frame_conserves_total
    (environment : Environment)
    (bound : FrameContext → Nat)
    {snapshot : Snapshot}
    (consistent : snapshot.IsConsistent)
    {redirectsTokenCalls : Bool}
    {timestamp : Timestamp}
    {firstNum : UInt64}
    (fits :
      (World.ofSnapshot snapshot redirectsTokenCalls timestamp firstNum).total < 2 ^ 256)
    {world : World}
    (opened :
      Evolves false
        (World.ofSnapshot snapshot redirectsTokenCalls timestamp firstNum).push world)
    (trace : Trace)
    (steps : Nat)
    (context : FrameContext)
    (outcome : Outcome)
    (after : Simulation) :
    (∀ kind : CallKind,
      SimAction.messageCall environment (environment.runnerWithin bound) kind context
          ⟨world, trace, steps⟩ = .ok outcome after →
        after.world.total = world.total) ∧
    (∀ (creator : Address) (initCode : Bytes),
      SimAction.createContract environment (environment.runnerWithin bound) creator context
          initCode ⟨world, trace, steps⟩ = .ok outcome after →
        after.world.total = world.total) := by
  have fresh :=
    World.isSound_ofSnapshot consistent redirectsTokenCalls timestamp firstNum
  have fitsFresh :
      (World.ofSnapshot snapshot redirectsTokenCalls timestamp firstNum).push.total <
        2 ^ 256 := by
    rw [World.total_push]
    exact fits
  have begun := World.conserves_evolves fresh fitsFresh opened
  have conserved {after : World} (evolves : Evolves false world after) :
      after.total = world.total := by
    refine (World.conserves_evolves begun.sound ?_ evolves).total
    rw [begun.total]
    exact fitsFresh
  constructor
  · intro kind result
    have evolves := environment.keeps_messageCall bound context world kind
    exact conserved (evolves.of_ok result (Evolves.refl world))
  · intro creator initCode result
    have evolves := environment.keeps_createContract bound context world creator initCode
    exact conserved (evolves.of_ok result (Evolves.refl world))

/-- An account pays three of its five to an address where nothing was before. -/
theorem Environment.payment_conserves_total :
    let environment : Environment :=
      { rules := ⟨⟨0, 50, 0⟩, .cancun, ⟨true, true⟩, ⟨true, true⟩⟩
        prices := ⟨.empty, .empty, fun _ _ => 1⟩ }
    let payer : Account := { address := Address.ofNum 1001, balance := 5 }
    let contents : Snapshot.Contents :=
      { accounts := Table.ofList [(payer.address, payer)] }
    let snapshot := Snapshot.ofContents contents
    let world := (World.ofSnapshot snapshot true ⟨0⟩ 5000).push
    let context :=
      FrameContext.ofTransaction payer.address (Address.ofNum 1002) 3 [] 100000 1 { }
    snapshot.IsConsistent ∧ (World.ofSnapshot snapshot true ⟨0⟩ 5000).total < 2 ^ 256 ∧
      ∃ outcome after,
        SimAction.messageCall environment environment.runner .call context
            ⟨world, Trace.off, 0⟩ = .ok outcome after ∧
          after.world.balance (Address.ofNum 1002) = .ok 3 ∧
          after.world.total = world.total := by
  intro environment payer contents snapshot world context
  have consistent : snapshot.IsConsistent :=
    Snapshot.isConsistent_ofContents contents [payer] [] rfl rfl (by decide)
  have bounded := Snapshot.total_ofContents_le contents [payer] rfl true ⟨0⟩ 5000
  have fits : (World.ofSnapshot snapshot true ⟨0⟩ 5000).total < 2 ^ 256 :=
    Nat.lt_of_le_of_lt bounded (by decide)
  refine ⟨consistent, fits, _, _, rfl, rfl, ?_⟩
  exact
    (first_frame_conserves_total environment
      (fun context => Frame.stepBound context.gasLimit) consistent fits (.refl world)
      Trace.off 0 context _ _).1 .call rfl

end LedgerEvm
