import LedgerEvm.Proofs.Ledger.Allowances
import LedgerEvm.Proofs.TokenService.Questions

namespace LedgerEvm

/-!
# The order of legs

An accepted leg of a fungible token reads three entries of its own account and leaves three in
their place: the holding, an allowance that a debit has used, and the account with its counts.
Legs of different accounts do not see each other, so a list of them is accepted in every order
or in none, and ends in one and the same world.

All this rests on holdings being found under their own names, since a holding is written back
under the names that it carries.
-/

/-! ## Writing apart from each other -/

namespace Table

variable {κ ν : Type} [Numbered κ]

/-- Entries under different keys may be put in either order. -/
theorem insert_comm
    (table : Table κ ν)
    {key other : κ}
    (different : key ≠ other)
    (first second : ν) :
    (table.insert key first).insert other second =
      (table.insert other second).insert key first := by
  have numbers : Numbered.number key ≠ Numbered.number other :=
    fun equal => different (Numbered.number_injective equal)
  apply ext_rows
  intro number
  simp only [insert, Std.ExtTreeMap.getElem?_insert, Std.compare_eq_iff_eq]
  grind

/-- Put an entry under a key, if there is one to put. -/
def insert? (table : Table κ ν) (key : κ) (value? : Option ν) : Table κ ν :=
  match value? with
  | some value => table.insert key value
  | none => table

theorem insert?_comm
    (table : Table κ ν)
    {key other : κ}
    (different : key ≠ other)
    (first second : Option ν) :
    (table.insert? key first).insert? other second =
      (table.insert? other second).insert? key first := by
  cases first with
  | none => rfl
  | some first =>
      cases second with
      | none => rfl
      | some second => exact table.insert_comm different first second

theorem get?_insert?_of_ne
    (table : Table κ ν)
    {key query : κ}
    (different : query ≠ key)
    (value? : Option ν) :
    (table.insert? key value?).get? query = table.get? query := by
  cases value? with
  | none => rfl
  | some value => exact table.get?_insert_of_ne different value

end Table

/-! ## What a leg leaves -/

namespace TokenAction

/-- What a debit takes from an allowance. -/
def debitOf (leg : AccountAmount) : UInt64 :=
  UInt64.ofNat leg.amount.toInt.natAbs

/-- How an account counts that one of its balances has changed, if it does. -/
def recount? (before after : UInt64) : Option (Account → Account) :=
  if before = 0 ∧ after > 0 then
    some fun account =>
      { account with numPositiveBalances := account.numPositiveBalances + 1 }
  else if before > 0 ∧ after = 0 then
    some fun account =>
      { account with numPositiveBalances := account.numPositiveBalances.subClamp 1 }
  else
    none

end TokenAction

/-- What a leg finds at its account and what it leaves there. -/
structure LegPosting where
  found : Relationship
  balance : UInt64
  allowance? : Option UInt64
  account? : Option Account

namespace World

variable
  {world : World}
  {token spender account : Address}
  {leg : AccountAmount}
  {posting : LegPosting}

/-- The relationship of an account with a token is found under the names that it carries. -/
def FilesOwn (world : World) (account token : Address) : Prop :=
  ∀ holding,
    world.relationship account token = .ok (some holding) →
      holding.account = account ∧ holding.token = token

/-- What a leg leaves of the allowance that it uses, if it uses one. -/
def LeavesAllowed
    (world : World)
    (token spender : Address)
    (leg : AccountAmount)
    (rest? : Option UInt64) :
    Prop :=
  if leg.isApproval ∧ leg.amount < 0 then
    ∃ allowed,
      world.allowance leg.account token spender = .ok allowed ∧
        allowed > 0 ∧ TokenAction.debitOf leg ≤ allowed ∧
          rest? = some (allowed - TokenAction.debitOf leg)
  else
    rest? = none

/-- What is written of an account that counts; where none is given out nothing is. -/
def LeavesCounted
    (world : World)
    (account : Address)
    (count? : Option (Account → Account))
    (account? : Option Account) :
    Prop :=
  match count? with
  | some count => ∃ given, world.claim? account = .ok given ∧ account? = given.map count
  | none => account? = none

/-- A leg is accepted and leaves a posting. -/
structure Takes
    (world : World)
    (token spender : Address)
    (leg : AccountAmount)
    (posting : LegPosting) :
    Prop where
  found : world.relationship leg.account token = .ok (some posting.found)
  unfrozen : posting.found.frozen = false
  granted : posting.found.kycGranted = true
  balance :
    UInt64.ofInt? (posting.found.balance.toNat + leg.amount.toInt) = some posting.balance
  allowance : world.LeavesAllowed token spender leg posting.allowance?
  account :
    world.LeavesCounted leg.account
      (TokenAction.recount? posting.found.balance posting.balance) posting.account?

/-- Write what is left of an allowance, if it was used. -/
def leaveAllowance
    (world : World)
    (owner token spender : Address)
    (rest? : Option UInt64) :
    World :=
  world.record fun journal =>
    { journal with allowances := journal.allowances.insert? ⟨owner, token, spender⟩ rest? }

/-- Write an account, if there is one to write. -/
def leaveAccount (world : World) (address : Address) (account? : Option Account) : World :=
  world.record fun journal =>
    { journal with accounts := journal.accounts.insert? address account? }

/-- Write a posting at an account. -/
def post
    (world : World)
    (token spender account : Address)
    (posting : LegPosting) :
    World :=
  ((world.leaveAllowance account token spender posting.allowance?).putRelationship account token
      (some { posting.found with balance := posting.balance })).leaveAccount account
    posting.account?

theorem record_id
    (world : World) :
    (world.record fun journal => journal) = world := by
  obtain ⟨snapshot, redirectsTokenCalls, timestamp, nextNum, layers⟩ := world
  cases layers <;> rfl

theorem leaveAllowance_none
    (owner token spender : Address) :
    world.leaveAllowance owner token spender none = world :=
  world.record_id

theorem leaveAccount_none
    (address : Address) :
    world.leaveAccount address none = world :=
  world.record_id

/-- A posting is one change of the innermost journal. -/
theorem post_eq_record :
    world.post token spender account posting =
      world.record fun journal =>
        { journal with
          relationships :=
            journal.relationships.insert ⟨account, token⟩
              (some { posting.found with balance := posting.balance })
          allowances :=
            journal.allowances.insert? ⟨account, token, spender⟩ posting.allowance?
          accounts := journal.accounts.insert? account posting.account? } := by
  simp only [post, leaveAllowance, putRelationship, leaveAccount, record_record]
  rfl

/-- Postings at different accounts may be written in either order. -/
theorem post_post
    {other : Address}
    (different : account ≠ other)
    (first second : LegPosting) :
    (world.post token spender account first).post token spender other second =
      (world.post token spender other second).post token spender account first := by
  have holdings : (⟨account, token⟩ : Holding) ≠ ⟨other, token⟩ := by
    simpa using different
  have grants : (⟨account, token, spender⟩ : Grant) ≠ ⟨other, token, spender⟩ := by
    simpa using different
  simp only [post_eq_record, record_record]
  congr 1
  funext journal
  simp only [Function.comp_apply, Table.insert_comm _ holdings, Table.insert?_comm _ grants,
    Table.insert?_comm _ different]

/-! ### What a posting leaves to be found elsewhere -/

theorem relationship_post_of_ne
    {other : Address}
    (different : other ≠ account) :
    (world.post token spender account posting).relationship other token =
      world.relationship other token := by
  have keys : (⟨other, token⟩ : Holding) ≠ ⟨account, token⟩ := by
    simpa using different
  simp only [relationship, post_eq_record, snapshot_record]
  rw [latest?_record world fun journal => Table.get?_insert_of_ne _ keys _]

theorem allowance_post_of_ne
    {other : Address}
    (different : other ≠ account) :
    (world.post token spender account posting).allowance other token spender =
      world.allowance other token spender := by
  have keys : (⟨other, token, spender⟩ : Grant) ≠ ⟨account, token, spender⟩ := by
    simpa using different
  simp only [allowance, post_eq_record, snapshot_record]
  rw [latest?_record world fun journal => Table.get?_insert?_of_ne _ keys _]

/-- What is given out at an address depends on the accounts there and on the tokens only. -/
theorem claim?_record
    {change : Journal → Journal}
    (address : Address)
    (sameAccount :
      ∀ journal, (change journal).accounts.get? address = journal.accounts.get? address)
    (sameTokens : ∀ journal, (change journal).tokens = journal.tokens) :
    (world.record change).claim? address = world.claim? address := by
  have inJournal :
      (world.record change).journal.accounts.get? address =
        world.journal.accounts.get? address := by
    cases shape : world.layers <;> simp [journal, record, shape, sameAccount]
  have entry : (world.record change).accountEntry address = world.accountEntry address := by
    simp only [accountEntry, snapshot_record]
    rw [latest?_record world sameAccount]
  have reached : (world.record change).get address = world.get address := by
    simp only [get, redirectsTokenCalls_record, token_record world _ sameTokens, entry]
  simp only [claim?, inJournal, reached]

theorem claim?_post_of_ne
    {other : Address}
    (different : other ≠ account) :
    (world.post token spender account posting).claim? other = world.claim? other := by
  rw [post_eq_record]
  exact claim?_record other (fun _ => Table.get?_insert?_of_ne _ different _) fun _ => rfl

theorem leavesCounted_congr
    {other : World}
    {count? : Option (Account → Account)}
    {account? : Option Account}
    (same : other.claim? account = world.claim? account) :
    other.LeavesCounted account count? account? ↔
      world.LeavesCounted account count? account? := by
  simp only [LeavesCounted, same]

/-- A leg is accepted as before after a posting at another account. -/
theorem takes_post_iff
    (different : leg.account ≠ account)
    {other : LegPosting} :
    (world.post token spender account posting).Takes token spender leg other ↔
      world.Takes token spender leg other := by
  have allowed {rest? : Option UInt64} :
      (world.post token spender account posting).LeavesAllowed token spender leg rest? ↔
        world.LeavesAllowed token spender leg rest? := by
    simp only [LeavesAllowed, allowance_post_of_ne different]
  have counted
      {count? : Option (Account → Account)}
      {account? : Option Account} :
      (world.post token spender account posting).LeavesCounted leg.account count? account? ↔
        world.LeavesCounted leg.account count? account? :=
    leavesCounted_congr (claim?_post_of_ne different)
  constructor
  · rintro ⟨found, unfrozen, granted, balance, allowance, account⟩
    rw [relationship_post_of_ne different] at found
    exact ⟨found, unfrozen, granted, balance, allowed.mp allowance, counted.mp account⟩
  · rintro ⟨found, unfrozen, granted, balance, allowance, account⟩
    refine ⟨?_, unfrozen, granted, balance, allowed.mpr allowance, counted.mpr account⟩
    rw [relationship_post_of_ne different]
    exact found

end World

namespace TokenAction

open World

variable
  {world after : World}
  {token spender account : Address}
  {leg : AccountAmount}

/-! ## One leg -/

theorem answers_shifted
    (balance : UInt64)
    (delta : Int64)
    (code : ResponseCode) :
    Answers world (shifted balance delta code) fun result =>
      UInt64.ofInt? (balance.toNat + delta.toInt) = some result :=
  answers_require _ code

theorem spendAllowance_eq_ok_iff :
    spendAllowance token spender leg world = .ok () after ↔
      ∃ allowed,
        world.allowance leg.account token spender = .ok allowed ∧
          allowed > 0 ∧ debitOf leg ≤ allowed ∧
            after = world.setAllowance leg.account token spender (allowed - debitOf leg) := by
  unfold spendAllowance
  refine (Answers.ask _).bind_eq_ok_iff.trans ?_
  refine exists_congr fun allowed => and_congr_right fun _ => ?_
  refine (Answers.ensure _ _).bind_eq_ok_iff.trans ?_
  constructor
  · rintro ⟨_, positive, done⟩
    obtain ⟨_, enough, done⟩ := (Answers.ensure _ _).bind_eq_ok_iff.mp done
    cases done
    exact ⟨of_decide_eq_true positive, of_decide_eq_true enough, rfl⟩
  · rintro ⟨positive, enough, rfl⟩
    refine ⟨(), decide_eq_true positive, ?_⟩
    exact (Answers.ensure _ _).bind_eq_ok_iff.mpr ⟨(), decide_eq_true enough, rfl⟩

/-- A debit on approval uses its allowance before it goes on; any other leg goes on at once. -/
theorem guarded_spendAllowance_eq_ok_iff
    {rest : TokenAction Unit} :
    (if leg.isApproval ∧ leg.amount < 0 then
        spendAllowance token spender leg >>= fun _ => rest
      else
        rest) world = .ok () after ↔
      ∃ rest?,
        world.LeavesAllowed token spender leg rest? ∧
          rest (world.leaveAllowance leg.account token spender rest?) = .ok () after := by
  unfold LeavesAllowed
  split
  · rw [bind_eq_ok]
    constructor
    · rintro ⟨_, _, spent, done⟩
      obtain ⟨allowed, found, positive, enough, rfl⟩ := spendAllowance_eq_ok_iff.mp spent
      exact ⟨_, ⟨allowed, found, positive, enough, rfl⟩, done⟩
    · rintro ⟨_, ⟨allowed, found, positive, enough, rfl⟩, done⟩
      exact ⟨(), _, spendAllowance_eq_ok_iff.mpr ⟨allowed, found, positive, enough, rfl⟩, done⟩
  · have untouched : world.leaveAllowance leg.account token spender none = world :=
      leaveAllowance_none ..
    constructor
    · exact fun done => ⟨none, rfl, untouched.symm ▸ done⟩
    · rintro ⟨_, rfl, done⟩
      exact untouched ▸ done

/-- What an account counts is written where an account is given out. -/
theorem adjust_eq_ok_iff
    {update : Account → Account} :
    adjust account update world = .ok () after ↔
      ∃ account?,
        world.LeavesCounted account (some update) account? ∧
          after = world.leaveAccount account account? := by
  cases claimed : world.claim? account with
  | error error =>
      have failed : adjust account update world = .error (.ofState error) world := by
        rw [adjust, updateAccount_eq, claimed]
        rfl
      rw [failed]
      refine iff_of_false nofun ?_
      rintro ⟨_, ⟨_, found, _⟩, _⟩
      cases claimed.symm.trans found
  | ok given =>
      have written :
          adjust account update world =
            .ok () (world.leaveAccount account (given.map update)) := by
        rw [adjust, updateAccount_eq, claimed]
        cases given with
        | some found => rfl
        | none => exact congrArg (EStateM.Result.ok ()) (leaveAccount_none account).symm
      rw [written]
      constructor
      · intro done
        cases done
        exact ⟨_, ⟨given, claimed, rfl⟩, rfl⟩
      · rintro ⟨_, ⟨_, found, rfl⟩, rfl⟩
        cases claimed.symm.trans found
        rfl

/-- A balance is written together with the account that counts it. -/
theorem setBalance_eq_ok_iff
    {holding : Relationship}
    {balance : UInt64} :
    setBalance holding balance world = .ok () after ↔
      ∃ account?,
        world.LeavesCounted holding.account (recount? holding.balance balance) account? ∧
          after =
            (world.putRelationship holding.account holding.token
                (some { holding with balance })).leaveAccount holding.account account? := by
  let written :=
    world.putRelationship holding.account holding.token (some { holding with balance })
  have goesOn :
      setBalance holding balance world =
        (match recount? holding.balance balance with
          | some count => adjust holding.account count
          | none => pure ())
          written := by
    unfold setBalance recount?
    refine (bind_eq_of_ok rfl).trans ?_
    split
    · rfl
    · split <;> rfl
  have given : written.claim? holding.account = world.claim? holding.account :=
    claim?_record _ (fun _ => rfl) fun _ => rfl
  rw [goesOn]
  cases recount? holding.balance balance with
  | some count =>
      simp only [adjust_eq_ok_iff, leavesCounted_congr given]
      rfl
  | none =>
      constructor
      · intro done
        refine ⟨none, rfl, (EStateM.Result.ok.inj done).2.symm.trans ?_⟩
        exact (leaveAccount_none _).symm
      · rintro ⟨_, rfl, rfl⟩
        rw [leaveAccount_none]
        rfl

/-- A leg is accepted exactly if it takes a posting, and writes that and nothing else. -/
theorem applyLeg_eq_ok_iff
    (own : world.FilesOwn leg.account token) :
    applyLeg token spender leg world = .ok () after ↔
      ∃ posting,
        world.Takes token spender leg posting ∧
          after = world.post token spender leg.account posting := by
  have given (rest? : Option UInt64) :
      (world.leaveAllowance leg.account token spender rest?).claim? leg.account =
        world.claim? leg.account :=
    claim?_record _ (fun _ => rfl) fun _ => rfl
  unfold applyLeg
  refine (answers_relationship _ _).bind_eq_ok_iff.trans ?_
  constructor
  · rintro ⟨holding, found, done⟩
    obtain ⟨_, unfrozen, done⟩ := (Answers.ensure _ _).bind_eq_ok_iff.mp done
    obtain ⟨_, granted, done⟩ := (Answers.ensure _ _).bind_eq_ok_iff.mp done
    obtain ⟨rest?, allowance, done⟩ := guarded_spendAllowance_eq_ok_iff.mp done
    obtain ⟨balance, inRange, done⟩ := (answers_shifted _ _ _).bind_eq_ok_iff.mp done
    obtain ⟨account?, counted, rfl⟩ := setBalance_eq_ok_iff.mp done
    obtain ⟨account_eq, token_eq⟩ := own holding found
    rw [account_eq, leavesCounted_congr (given rest?)] at counted
    refine ⟨⟨holding, balance, rest?, account?⟩,
      ⟨found, by simpa using unfrozen, granted, inRange, allowance, counted⟩, ?_⟩
    rw [← account_eq, ← token_eq]
    rfl
  · rintro ⟨⟨holding, balance, rest?, account?⟩, takes, rfl⟩
    obtain ⟨account_eq, token_eq⟩ := own holding takes.found
    refine ⟨holding, takes.found, ?_⟩
    refine (Answers.ensure _ _).bind_eq_ok_iff.mpr ⟨(), by simpa using takes.unfrozen, ?_⟩
    refine (Answers.ensure _ _).bind_eq_ok_iff.mpr ⟨(), takes.granted, ?_⟩
    refine guarded_spendAllowance_eq_ok_iff.mpr ⟨rest?, takes.allowance, ?_⟩
    refine (answers_shifted _ _ _).bind_eq_ok_iff.mpr ⟨balance, takes.balance, ?_⟩
    refine setBalance_eq_ok_iff.mpr ⟨account?, ?_, ?_⟩
    · rw [account_eq, leavesCounted_congr (given rest?)]
      exact takes.account
    · rw [← account_eq, ← token_eq]
      rfl

/-! ## Holdings stay under their own names -/

theorem isAboutHoldings_filesOwn
    (account token : Address) :
    IsAboutHoldings fun world => world.FilesOwn account token := by
  intro _ _ same own holding found
  rw [same.relationship] at found
  exact own holding found

/-- A holding that is written back is written under its own names. -/
theorem filesOwn_putRelationship
    (own : world.FilesOwn account token)
    (holding : Relationship) :
    (world.putRelationship holding.account holding.token (some holding)).FilesOwn account
      token := by
  intro other found
  cases shape : world.layers with
  | nil =>
      rw [putRelationship, record, shape] at found
      exact own other found
  | cons inner outer =>
      have isOpen : world.IsOpen := by simp [World.IsOpen, shape]
      by_cases same : account = holding.account ∧ token = holding.token
      · obtain ⟨rfl, rfl⟩ := same
        rw [relationship_putRelationship_self isOpen] at found
        cases found
        exact ⟨rfl, rfl⟩
      · rw [relationship_putRelationship_of_ne same] at found
        exact own other found

theorem yields_setBalance_filesOwn
    (holding : Relationship)
    (balance : UInt64) :
    Yields (FilesOwn · account token) (setBalance holding balance) fun _ =>
      (FilesOwn · account token) :=
  yields_setBalance (isAboutHoldings_filesOwn account token).isAboutEntries fun _ own =>
    filesOwn_putRelationship own { holding with balance }

theorem yields_applyLeg_filesOwn
    (address spender : Address)
    (leg : AccountAmount) :
    Yields (FilesOwn · account token) (applyLeg address spender leg) fun _ =>
      (FilesOwn · account token) := by
  have about := (isAboutHoldings_filesOwn account token).isAboutEntries
  refine (Yields.of_keeps (keeps_relationship _ _)).bind fun holding => ?_
  refine (Yields.of_keeps (keeps_ensure _ _)).bind fun _ => ?_
  refine (Yields.of_keeps (keeps_ensure _ _)).bind fun _ => ?_
  refine Yields.guarded (yields_spendAllowance about _ _ _) ?_
  refine (Yields.of_keeps (keeps_shifted _ _ _)).bind fun balance => ?_
  exact yields_setBalance_filesOwn _ _

theorem yields_movePiece_filesOwn
    (address spender : Address)
    (leg : NftTransfer) :
    Yields (FilesOwn · account token) (movePiece address spender leg) fun _ =>
      (FilesOwn · account token) := by
  have about := isAboutHoldings_filesOwn account token
  refine (Yields.of_keeps (keeps_piece _ _)).bind fun piece => ?_
  refine (Yields.of_keeps (keeps_ensure _ _)).bind fun _ => ?_
  refine Yields.guarded (Yields.of_keeps (keeps_ensure _ _)) ?_
  refine (Yields.of_keeps (keeps_ensureAccount _ _)).bind fun _ => ?_
  refine (Yields.of_keeps (keeps_relationship _ _)).bind fun giving => ?_
  refine (Yields.of_keeps (keeps_relationship _ _)).bind fun taking => ?_
  refine (Yields.of_keeps (keeps_ensure _ _)).bind fun _ => ?_
  refine (Yields.of_keeps (keeps_shifted _ _ _)).bind fun givingBalance => ?_
  refine (Yields.of_keeps (keeps_shifted _ _ _)).bind fun takingBalance => ?_
  refine (yields_setBalance_filesOwn giving _).bind fun _ => ?_
  refine (yields_setBalance_filesOwn taking _).bind fun _ => ?_
  refine (yields_putNft about _ _ _).bind fun _ => ?_
  refine (yields_adjust about.isAboutEntries _ _).bind fun _ => ?_
  exact yields_adjust about.isAboutEntries _ _

/-! ## One list -/

theorem answers_liveToken
    (address : Address) :
    Answers world (liveToken address) fun token =>
      world.token address = .ok (some token) ∧ token.deleted = false ∧ token.paused = false := by
  refine ((answers_knownToken address).bind fun token _ =>
    (Answers.ensure _ _).bind fun _ _ => (Answers.ensure _ _).bind fun _ _ =>
      Answers.pure token).congr fun token => ?_
  constructor
  · rintro ⟨_, found, _, alive, _, running, rfl⟩
    exact ⟨found, by simpa using alive, by simpa using running⟩
  · rintro ⟨found, alive, running⟩
    exact ⟨token, found, (), by simpa using alive, (), by simpa using running, rfl⟩

/-- What is known of the token of an accepted list. -/
def Admits (world : World) (list : TokenTransfers) (token : Token) : Prop :=
  (world.token list.token = .ok (some token) ∧ token.deleted = false ∧ token.paused = false) ∧
    (list.transfers ≠ [] → token.isNonFungible = false ∧ netAmount list.transfers = 0)

/-- Move the pieces of a list. -/
def movePieces (token : Token) (spender : Address) (list : TokenTransfers) : TokenAction Unit :=
  list.nftTransfers.forM fun leg => do
    ensure token.isNonFungible .invalidTransactionBody
    movePiece list.token spender leg

/-- A list is checked as a whole, and then its amounts are moved and after them its pieces. -/
theorem transferToken_eq_ok_iff
    {list : TokenTransfers} :
    transferToken spender list world = .ok () after ↔
      ∃ token, Admits world list token ∧
        ∃ middle,
          list.transfers.forM (applyLeg list.token spender) world = .ok () middle ∧
            movePieces token spender list middle = .ok () after := by
  have moves (token : Token) :
      (list.transfers.forM (applyLeg list.token spender) >>= fun _ =>
            movePieces token spender list) world =
          .ok () after ↔
        ∃ middle,
          list.transfers.forM (applyLeg list.token spender) world = .ok () middle ∧
            movePieces token spender list middle = .ok () after :=
    bind_eq_ok.trans ⟨fun ⟨_, done⟩ => done, fun done => ⟨(), done⟩⟩
  unfold transferToken
  refine (answers_liveToken _).bind_eq_ok_iff.trans ?_
  refine exists_congr fun token => ?_
  refine Iff.trans (and_congr_right fun _ => ?_) and_assoc.symm
  dsimp only
  split
  · rename_i listed
    have listed : list.transfers ≠ [] := by simpa using listed
    refine (Answers.ensure _ _).bind_eq_ok_iff.trans ?_
    constructor
    · rintro ⟨_, fungible, done⟩
      obtain ⟨_, even, done⟩ := (Answers.ensure _ _).bind_eq_ok_iff.mp done
      exact ⟨fun _ => ⟨by simpa using fungible, by simpa using even⟩, (moves token).mp done⟩
    · rintro ⟨checked, done⟩
      obtain ⟨fungible, even⟩ := checked listed
      refine ⟨(), by simpa using fungible, ?_⟩
      refine (Answers.ensure _ _).bind_eq_ok_iff.mpr ⟨(), by simpa using even, ?_⟩
      exact (moves token).mpr done
  · rename_i empty
    have empty : list.transfers = [] := by simpa using empty
    rw [← moves token]
    exact (and_iff_right fun listed => (listed empty).elim).symm

/-- The sum of amounts is the same in every order. -/
theorem netAmount_perm
    {legs others : List AccountAmount}
    (permuted : others.Perm legs) :
    netAmount others = netAmount legs := by
  have : LeftCommutative fun (leg : AccountAmount) (total : Int) => leg.amount.toInt + total :=
    ⟨fun one other total => Int.add_left_comm ..⟩
  exact permuted.foldr_eq 0

/-! ## Lists in another order -/

/-- Two legs of different accounts may change places. -/
theorem applyLeg_exchange
    {one other : AccountAmount}
    (different : one.account ≠ other.account)
    (ownOne : world.FilesOwn one.account token)
    (ownOther : world.FilesOwn other.account token)
    (done : (applyLeg token spender one >>= fun _ => applyLeg token spender other) world =
      .ok () after) :
    (applyLeg token spender other >>= fun _ => applyLeg token spender one) world =
      .ok () after := by
  obtain ⟨_, middle, first, second⟩ := exists_of_run_eq_ok done
  have ownOther' := (yields_applyLeg_filesOwn token spender one).of_ok first ownOther
  obtain ⟨posting, takes, rfl⟩ := (applyLeg_eq_ok_iff ownOne).mp first
  obtain ⟨posting', takes', rfl⟩ := (applyLeg_eq_ok_iff ownOther').mp second
  have takes' := (takes_post_iff (Ne.symm different)).mp takes'
  have second := (applyLeg_eq_ok_iff ownOther).mpr ⟨posting', takes', rfl⟩
  have ownOne' := (yields_applyLeg_filesOwn token spender other).of_ok second ownOne
  refine bind_eq_ok.mpr ⟨_, _, second, (applyLeg_eq_ok_iff ownOne').mpr ⟨posting, ?_, ?_⟩⟩
  · exact (takes_post_iff different).mpr takes
  · exact post_post different posting posting'

/-- Legs of different accounts are applied in every order or in none. -/
theorem forM_applyLeg_of_perm
    {legs others : List AccountAmount}
    (distinct : (legs.map AccountAmount.account).Nodup)
    (permuted : legs.Perm others)
    (own : ∀ leg ∈ legs, world.FilesOwn leg.account token)
    (done : legs.forM (applyLeg token spender) world = .ok () after) :
    others.forM (applyLeg token spender) world = .ok () after := by
  let allOwn (world : World) : Prop :=
    ∀ leg : { leg // leg ∈ legs }, world.FilesOwn leg.1.account token
  let apart (one other : AccountAmount) : Prop :=
    one.account ≠ other.account ∧ one ∈ legs ∧ other ∈ legs
  have keeps (leg : AccountAmount) :
      Yields allOwn (applyLeg token spender leg) fun _ => allOwn :=
    Yields.all fun other =>
      (yields_applyLeg_filesOwn token spender leg).imp (fun _ own => own other) fun _ _ => id
  have pairwise : legs.Pairwise apart :=
    (List.pairwise_map.mp distinct).imp_of_mem fun one other different => ⟨different, one, other⟩
  refine forM_eq_ok_of_perm keeps ?_ ?_ permuted pairwise (fun leg => own leg.1 leg.2) done
  · exact fun ⟨different, one, other⟩ => ⟨Ne.symm different, other, one⟩
  · intro one other state after ⟨different, isOne, isOther⟩ own
    exact applyLeg_exchange different (own ⟨_, isOne⟩) (own ⟨_, isOther⟩)

/-- A list of legs of different accounts may be put in any order. -/
theorem transferToken_of_perm
    {legs others : List AccountAmount}
    {pieces : List NftTransfer}
    (distinct : (legs.map AccountAmount.account).Nodup)
    (permuted : legs.Perm others)
    (own : ∀ leg ∈ legs, world.FilesOwn leg.account token)
    (done : transferToken spender ⟨token, legs, pieces⟩ world = .ok () after) :
    transferToken spender ⟨token, others, pieces⟩ world = .ok () after := by
  obtain ⟨found, ⟨live, checked⟩, middle, moved, done⟩ := transferToken_eq_ok_iff.mp done
  refine transferToken_eq_ok_iff.mpr ⟨found, ⟨live, fun listed => ?_⟩, middle, ?_, done⟩
  · have listed : legs ≠ [] := fun empty => listed (empty ▸ permuted).nil_eq.symm
    obtain ⟨fungible, even⟩ := checked listed
    exact ⟨fungible, (netAmount_perm permuted.symm).trans even⟩
  · exact forM_applyLeg_of_perm distinct permuted own moved

theorem yields_transferToken_filesOwn
    (spender : Address)
    (list : TokenTransfers) :
    Yields (FilesOwn · account token) (transferToken spender list) fun _ =>
      (FilesOwn · account token) := by
  intro world own
  cases moved : transferToken spender list world with
  | error error after => trivial
  | ok _ after =>
      obtain ⟨found, _, middle, legs, pieces⟩ := transferToken_eq_ok_iff.mp moved
      have own := (Yields.forM_kept (yields_applyLeg_filesOwn _ _) _).of_ok legs own
      have keeps :
          Yields (FilesOwn · account token) (movePieces found spender list) fun _ =>
            (FilesOwn · account token) :=
        Yields.forM_kept (fun leg =>
          (Yields.of_keeps (keeps_ensure _ _)).bind fun _ =>
            yields_movePiece_filesOwn _ _ leg) _
      exact keeps.of_ok pieces own

/-- One list of legs of different accounts may be put in any order, wherever it stands. -/
theorem transfer_of_perm
    {currency legs others : List AccountAmount}
    {earlier later : List TokenTransfers}
    {pieces : List NftTransfer}
    (distinct : (legs.map AccountAmount.account).Nodup)
    (permuted : legs.Perm others)
    (own : ∀ leg ∈ legs, world.FilesOwn leg.account token)
    (done :
      transfer ⟨currency, earlier ++ ⟨token, legs, pieces⟩ :: later⟩ spender world =
        .ok () after) :
    transfer ⟨currency, earlier ++ ⟨token, others, pieces⟩ :: later⟩ spender world =
      .ok () after := by
  obtain ⟨_, paid, currency, done⟩ := exists_of_run_eq_ok done
  obtain ⟨middle, before, done⟩ := forM_append_eq_ok.mp done
  obtain ⟨_, moved, here, done⟩ := exists_of_run_eq_ok done
  have ownMiddle (leg : AccountAmount) (member : leg ∈ legs) :
      middle.FilesOwn leg.account token := by
    have about := (isAboutHoldings_filesOwn leg.account token).isAboutEntries
    have ownPaid := (yields_transferCurrency about _).of_ok currency (own leg member)
    have keeps :
        Yields (FilesOwn · leg.account token) (earlier.forM (transferToken spender)) fun _ =>
          (FilesOwn · leg.account token) :=
      Yields.forM_kept (yields_transferToken_filesOwn spender) _
    exact keeps.of_ok before ownPaid
  have reordered : transferToken spender ⟨token, others, pieces⟩ middle = .ok () moved :=
    transferToken_of_perm distinct permuted ownMiddle here
  refine bind_eq_ok.mpr ⟨_, paid, currency, forM_append_eq_ok.mpr ⟨middle, before, ?_⟩⟩
  exact bind_eq_ok.mpr ⟨(), moved, reordered, done⟩

/--
A list of legs that name different accounts may stand in any order, wherever it stands in a
transfer: the transfer is accepted in all orders or in none, and then ends in one world, if the
holdings of these accounts are found under their own names.
-/
theorem order_of_legs_is_irrelevant
    {currency legs others : List AccountAmount}
    {earlier later : List TokenTransfers}
    {pieces : List NftTransfer}
    (distinct : (legs.map AccountAmount.account).Nodup)
    (permuted : legs.Perm others)
    (own : ∀ leg ∈ legs, world.FilesOwn leg.account token) :
    let body (legs : List AccountAmount) : CryptoTransfer :=
      ⟨currency, earlier ++ ⟨token, legs, pieces⟩ :: later⟩
    ∀ after,
      transfer (body legs) spender world = .ok () after ↔
        transfer (body others) spender world = .ok () after := by
  intro body after
  refine ⟨transfer_of_perm distinct permuted own, ?_⟩
  refine transfer_of_perm ((permuted.map _).nodup distinct) permuted.symm fun leg member => ?_
  exact own leg (permuted.mem_iff.mpr member)

/-- What is taken on approval may be taken before it is paid out, or after. -/
theorem debit_on_approval_may_come_last :
    let owner := Address.ofNum 1001
    let payee := Address.ofNum 1002
    let helper := Address.ofNum 1003
    let token : Token := { address := Address.ofNum 2001, treasury := owner, totalSupply := 5 }
    let holdings : List Relationship :=
      [{ account := owner, token := token.address, balance := 5, kycGranted := true },
        { account := payee, token := token.address, kycGranted := true },
        { account := helper, token := token.address, kycGranted := true }]
    let contents : Snapshot.Contents :=
      { accounts :=
          Table.ofList ([owner, payee, helper].map fun address => (address, { address }))
        tokens := Table.ofList ([token].map fun token => (token.address, token))
        relationships :=
          Table.ofList (holdings.map fun holding => (⟨holding.account, holding.token⟩, holding))
        allowances := Table.ofList [(⟨owner, token.address, helper⟩, 5)] }
    let world := (World.ofSnapshot (.ofContents contents) false ⟨0⟩ 5000).push
    let debit : AccountAmount := ⟨owner, -5, true⟩
    let paid : AccountAmount := ⟨payee, 3, false⟩
    let kept : AccountAmount := ⟨helper, 2, false⟩
    let body (legs : List AccountAmount) : CryptoTransfer := ⟨[], [⟨token.address, legs, []⟩]⟩
    (∀ leg ∈ [debit, paid, kept], world.FilesOwn leg.account token.address) ∧
      ∃ after,
        transfer (body [debit, paid, kept]) helper world = .ok () after ∧
          transfer (body [paid, kept, debit]) helper world = .ok () after := by
  intro owner payee helper token holdings contents world debit paid kept body
  have filed : world.IsFiled := by
    refine IsFiled.congr ?_ (SameEntries.push _).toSameHoldings
    exact .ofContents _ [_] holdings rfl rfl false ⟨0⟩ 5000
  have own : ∀ leg ∈ [debit, paid, kept], world.FilesOwn leg.account token.address :=
    fun leg _ _ found => filed.relationship found
  obtain ⟨after, accepted⟩ :
      ∃ after, transfer (body [debit, paid, kept]) helper world = .ok () after :=
    exists_of_answerOf_eq_ok (by decide +kernel)
  have permuted : [debit, paid, kept].Perm [paid, kept, debit] := by decide +kernel
  have distinct : ([debit, paid, kept].map AccountAmount.account).Nodup := by decide +kernel
  have same :=
    @order_of_legs_is_irrelevant world token.address helper [] _ _ [] [] [] distinct permuted own
  exact ⟨own, after, accepted, (same after).mp accepted⟩

/--
A holding that is found at one account and carries the name of another is written back at the
other: then the later of the two legs decides what the other account ends with.
-/
theorem later_leg_decides_where_names_differ :
    let payer := Address.ofNum 1001
    let payee := Address.ofNum 1002
    let token : Token := { address := Address.ofNum 2001, treasury := payer, totalSupply := 5 }
    let holding : Relationship :=
      { account := payee, token := token.address, kycGranted := true }
    let contents : Snapshot.Contents :=
      { tokens := Table.ofList [(token.address, token)]
        relationships :=
          Table.ofList
            [(⟨payee, token.address⟩, holding),
              (⟨payer, token.address⟩, { holding with balance := 5 })] }
    let world := (World.ofSnapshot (.ofContents contents) false ⟨0⟩ 5000).push
    let debit : AccountAmount := ⟨payer, -5, false⟩
    let credit : AccountAmount := ⟨payee, 5, false⟩
    let body (legs : List AccountAmount) : CryptoTransfer := ⟨[], [⟨token.address, legs, []⟩]⟩
    ([debit, credit].map AccountAmount.account).Nodup ∧
      [debit, credit].Perm [credit, debit] ∧
        ∃ after after',
          transfer (body [debit, credit]) payer world = .ok () after ∧
            transfer (body [credit, debit]) payer world = .ok () after' ∧
              after.relationship payee token.address = .ok (some { holding with balance := 5 }) ∧
                after'.relationship payee token.address =
                  .ok (some { holding with balance := 0 }) := by
  intro payer payee token holding contents world debit credit body
  obtain ⟨after, accepted⟩ :
      ∃ after, transfer (body [debit, credit]) payer world = .ok () after :=
    exists_of_answerOf_eq_ok (by decide +kernel)
  obtain ⟨after', accepted'⟩ :
      ∃ after, transfer (body [credit, debit]) payer world = .ok () after :=
    exists_of_answerOf_eq_ok (by decide +kernel)
  have ends :
      (leaves (transfer (body [debit, credit]) payer) world).relationship payee token.address =
          .ok (some { holding with balance := 5 }) ∧
        (leaves (transfer (body [credit, debit]) payer) world).relationship payee
            token.address =
          .ok (some { holding with balance := 0 }) := by
    decide +kernel
  rw [leaves_of_ok accepted, leaves_of_ok accepted'] at ends
  exact ⟨by decide +kernel, by decide +kernel, after, after', accepted, accepted', ends⟩

end TokenAction

end LedgerEvm
