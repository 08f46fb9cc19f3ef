import LedgerEvm.Proofs.Ledger.Evolution
import LedgerEvm.Proofs.Ledger.Payments
import LedgerEvm.Proofs.Ledger.TokenEntries
import LedgerEvm.Proofs.TokenService.Calls

namespace LedgerEvm

/-!
# What token actions read and write

Every action of the token service asks first and writes then.  What a question has been
answered is a fact about the world it was put to; what is written counts only when the
action succeeds, since a frame of its own is dropped otherwise.
-/

namespace TokenAction

open World (SameBelow SameEntries IsAboutEntries IsAboutHoldings)

variable
  {α : Type}
  {world : World}
  {before after : World → Prop}

/-! ## Questions -/

theorem reads_ask
    (question : World → Except StateError α) :
    Reads world (ask question) fun answer => question world = .ok answer := by
  intro world same
  subst same
  unfold ask
  cases asked : question world with
  | ok answer => exact ⟨rfl, rfl⟩
  | error error => trivial

theorem reads_ensure
    (condition : Bool)
    (code : ResponseCode) :
    Reads world (ensure condition code) fun _ => condition = true := by
  unfold ensure
  split
  · rename_i holds
    exact Reads.pure holds
  · exact fun _ _ => trivial

theorem reads_require
    (result : Option α)
    (code : ResponseCode) :
    Reads world (require result code) fun value => result = some value := by
  cases result with
  | some value => exact Reads.pure rfl
  | none => exact fun _ _ => trivial

theorem reads_knownToken
    (address : Address) :
    Reads world (knownToken address) fun token =>
      world.token address = .ok (some token) := by
  refine (reads_ask _).bind fun found asked => ?_
  cases found with
  | some token => exact Reads.pure asked
  | none => exact fun _ _ => trivial

theorem reads_liveToken
    (address : Address) :
    Reads world (liveToken address) fun token =>
      world.token address = .ok (some token) ∧ token.deleted = false := by
  refine (reads_knownToken address).bind fun token found => ?_
  refine (reads_ensure _ _).bind fun _ alive => ?_
  refine (reads_ensure _ _).bind fun _ _ => ?_
  exact Reads.pure ⟨found, by simpa using alive⟩

theorem reads_relationship
    (account token : Address) :
    Reads world (relationship account token) fun holding =>
      world.relationship account token = .ok (some holding) := by
  refine (reads_ask _).bind fun found asked => ?_
  refine (reads_require found _).imp (fun _ => id) ?_
  intro holding _ ⟨same, found⟩
  subst found
  exact ⟨same, asked⟩

theorem reads_piece
    (token : Address)
    (serial : Int64) :
    Reads world (piece token serial) fun found =>
      world.nft token serial = .ok (some found) := by
  refine (reads_ask _).bind fun found asked => ?_
  refine (reads_require found _).imp (fun _ => id) ?_
  intro piece _ ⟨same, found⟩
  subst found
  exact ⟨same, asked⟩

/-- What is in range is the exact number. -/
theorem toNat_of_ofNat?
    {value : Nat}
    {result : UInt64}
    (inRange : UInt64.ofNat? value = some result) :
    result.toNat = value ∧ value < 2 ^ 64 := by
  unfold UInt64.ofNat? at inRange
  split at inRange
  · rename_i fits
    cases inRange
    exact ⟨UInt64.toNat_ofNat_of_lt' fits, fits⟩
  · cases inRange

/-- A balance that is shifted within range is the exact sum. -/
theorem reads_shifted
    (balance : UInt64)
    (delta : Int64)
    (code : ResponseCode) :
    Reads world (shifted balance delta code) fun result =>
      (result.toNat : Int) = balance.toNat + delta.toInt := by
  refine (reads_require _ code).imp (fun _ => id) ?_
  intro result _ ⟨same, inRange⟩
  refine ⟨same, ?_⟩
  unfold UInt64.ofInt? at inRange
  split at inRange
  · cases inRange
  · have exactly := (toNat_of_ofNat? inRange).1
    omega

/--
What is minted is added to a balance as a signed amount.  An amount of 2^63 or more would
be taken off instead, but then the balance is smaller than what the supply has no room
for, and the sum is refused.
-/
theorem toNat_shifted
    {supply : Nat}
    {balance minted result : UInt64}
    (held : balance.toNat ≤ supply)
    (inRange : supply + minted.toNat < 2 ^ 64)
    (exactly : (result.toNat : Int) = balance.toNat + minted.toInt64.toInt) :
    result.toNat = balance.toNat + minted.toNat := by
  have signed :
      minted.toInt64.toInt =
        if 2 * minted.toNat < 2 ^ 64 then (minted.toNat : Int)
        else (minted.toNat : Int) - (2 ^ 64 : Nat) :=
    BitVec.toInt_eq_toNat_cond minted.toBitVec
  rw [signed] at exactly
  split at exactly <;> omega

/-- A balance that is reduced is the exact difference. -/
theorem reads_reduced
    (balance amount : UInt64)
    (code : ResponseCode) :
    Reads world (reduced balance amount code) fun rest =>
      rest.toNat + amount.toNat = balance.toNat := by
  unfold reduced
  split
  · rename_i enough
    refine Reads.pure ?_
    rw [UInt64.toNat_sub_of_le _ _ enough]
    have enough := UInt64.le_iff_toNat_le.mp enough
    omega
  · exact fun _ _ => trivial

/-! ## Writes -/

theorem yields_change
    {update : World → World}
    (writes : ∀ world, before world → after (update world)) :
    Yields before (change update) fun _ => after :=
  writes

/-- An account that can be the subject of an operation is changed. -/
theorem adjust_of_hasSubject
    {account : Address}
    {subject : Account}
    (has : world.HasSubject account subject)
    (update : Account → Account) :
    adjust account update world = .ok () (world.setAccount account (update subject)) := by
  have claimed := World.claim?_of_get has.1 has.2
  unfold adjust
  rw [World.updateAccount_eq, claimed]
  rfl

/-- Changing an account matters to no entry about tokens. -/
theorem yields_adjust
    (about : IsAboutEntries after)
    (address : Address)
    (update : Account → Account) :
    Yields after (adjust address update) fun _ => after := by
  intro world holds
  unfold adjust
  cases changed : world.updateAccount address update with
  | error error => trivial
  | ok result => exact about (SameEntries.updateAccount changed) holds

/-- Writing a balance writes one relationship. -/
theorem yields_setBalance
    (about : IsAboutEntries after)
    {holding : Relationship}
    {balance : UInt64}
    (writes :
      ∀ world, before world →
        after (world.putRelationship holding.account holding.token
          (some { holding with balance }))) :
    Yields before (setBalance holding balance) fun _ => after := by
  refine (yields_change writes).bind fun _ => ?_
  split
  · exact yields_adjust about _ _
  · split
    · exact yields_adjust about _ _
    · exact Ensures.pure fun _ => id

/-- Drawing an address uses up numbers only, and the address that is found is free. -/
theorem yields_freshAddress
    (draws : ∀ {world : World} (number : UInt64), after world → after { world with nextNum := number })
    (sponsor : Address) :
    Yields after (freshAddress sponsor) fun address world =>
      after world ∧ world.isFree address = .ok true := by
  intro world holds
  unfold freshAddress
  cases found : world.newContractAddress sponsor with
  | mk answer drawn =>
      cases answer with
      | error error => trivial
      | ok address =>
          obtain ⟨same, free⟩ := World.of_newContractAddress found
          refine ⟨?_, free⟩
          rw [same]
          exact draws _ holds

/-- Using up an allowance matters to no entry. -/
theorem yields_spendAllowance
    (about : IsAboutEntries after)
    (token spender : Address)
    (leg : AccountAmount) :
    Yields after (spendAllowance token spender leg) fun _ => after := by
  refine Yields.of_keeps ?_
  refine (keeps_ask _).bind fun allowed => ?_
  refine (keeps_ensure _ _).bind fun _ => ?_
  refine (keeps_ensure _ _).bind fun _ => ?_
  exact keeps_change fun _ =>
    about (.record _ (fun _ => rfl) (fun _ => rfl) fun _ => rfl)

/-- Moving currency matters to no entry. -/
theorem yields_transferCurrency
    (about : IsAboutEntries after)
    (legs : List AccountAmount) :
    Yields after (transferCurrency legs) fun _ => after := by
  unfold transferCurrency
  split
  · refine (Yields.of_keeps (keeps_ensure _ _)).bind fun _ => ?_
    refine (Yields.of_keeps
      (Keeps.forM fun leg _ => keeps_checkCurrencyLeg leg)).bind fun _ => ?_
    exact Yields.forM_kept (fun leg => yields_adjust about leg.account _) legs
  · exact Ensures.pure fun _ => id

/-- Numbered pieces matter to no holding. -/
theorem yields_putNft
    (about : IsAboutHoldings after)
    (token : Address)
    (serial : Int64)
    (entry : Option Nft) :
    Yields after (change fun world => world.putNft token serial entry) fun _ => after :=
  yields_change fun world => about (World.sameHoldings_putNft world token serial entry)

theorem yields_putPieces
    (about : IsAboutHoldings after)
    (token owner : Address)
    (pieces : List (Int64 × Bytes)) :
    Yields after (putPieces token owner pieces) fun _ => after :=
  Yields.forM_kept (fun _ => yields_putNft about _ _ _) pieces

theorem yields_removePieces
    (about : IsAboutHoldings after)
    (token : Address)
    (serials : List Int64)
    (owner : Address)
    (whenEmpty : ResponseCode) :
    Yields after (removePieces token serials owner whenEmpty) fun _ => after := by
  refine (Yields.of_keeps (keeps_ensure _ _)).bind fun _ => ?_
  refine (Yields.of_keeps (keeps_ensure _ _)).bind fun _ => ?_
  refine (Yields.of_keeps
    (Keeps.forM fun serial _ => keeps_checkOwned token owner serial)).bind fun _ => ?_
  refine Yields.bind_kept ?_ fun _ => ?_
  · exact Yields.forM_kept (fun _ => yields_putNft about _ _ _) serials
  · exact yields_adjust about.isAboutEntries _ _

/-- Approvals matter to no holding. -/
theorem yields_approve
    (about : IsAboutHoldings after)
    (approval : ApproveAllowance) :
    Yields after (approve approval) fun _ => after := by
  have same {update : Journal → Journal}
      (tokens : ∀ journal, (update journal).tokens = journal.tokens)
      (relationships : ∀ journal, (update journal).relationships = journal.relationships) :
      Keeps after (change fun world => world.record update) :=
    keeps_change fun world => about (World.sameHoldings_record world tokens relationships)
  refine Yields.of_keeps (Keeps.bind (Keeps.forM fun allowance _ => ?_) fun _ => ?_)
  · refine (keeps_ensureAccount _ _).bind fun _ => ?_
    refine (keeps_ensureAccount _ _).bind fun _ => ?_
    refine (keeps_liveToken _).bind fun token => ?_
    refine (keeps_ensure _ _).bind fun _ => ?_
    refine (keeps_relationship _ _).bind fun _ => ?_
    exact same (fun _ => rfl) fun _ => rfl
  · refine Keeps.forM fun allowance _ => ?_
    refine (keeps_ensureAccount _ _).bind fun _ => ?_
    dsimp only
    refine Keeps.guarded (keeps_ensureAccount _ _) ?_
    refine (keeps_liveToken _).bind fun token => ?_
    refine (keeps_ensure _ _).bind fun _ => ?_
    refine Keeps.forM fun serial _ => ?_
    refine (keeps_piece _ _).bind fun found => ?_
    refine (keeps_ensure _ _).bind fun _ => ?_
    exact same (fun _ => rfl) fun _ => rfl

/-! ## Associations -/

/-- Relationships that are asked for are with different tokens. -/
theorem reads_checkRelations
    (relations : TokenRelations) :
    Reads world (checkRelations relations) fun _ => relations.tokens.Nodup := by
  refine (reads_ensure _ _).bind fun _ _ => ?_
  refine (reads_ensure _ _).bind fun _ _ => ?_
  refine (reads_ensure _ _).imp (fun _ => id) ?_
  intro _ _ ⟨same, nodup⟩
  exact ⟨same, by simpa using nodup⟩

/-- A new relationship is with a known token, is absent so far and holds nothing. -/
theorem reads_newRelationship
    (account address : Address) :
    Reads world (newRelationship account address) fun holding =>
      holding.account = account ∧ holding.token = address ∧ holding.balance = 0 ∧
        world.token address ≠ .ok none ∧ world.relationship account address = .ok none := by
  refine (reads_knownToken address).bind fun token found => ?_
  refine (reads_ensure _ _).bind fun _ _ => ?_
  refine (reads_ask _).bind fun present asked => ?_
  refine (reads_ensure _ _).bind fun _ absent => ?_
  obtain rfl : present = none := by simpa using absent
  exact Reads.pure ⟨rfl, rfl, rfl, by rw [found]; simp, asked⟩

/-- The relationships are with known tokens and neither had nor get any units. -/
def AreToOpen (holdings : List Relationship) (world : World) : Prop :=
  ∀ holding ∈ holdings,
    world.token holding.token ≠ .ok none ∧
      holding.balance = 0 ∧ world.units holding.account holding.token = 0

/-- A relationship that may end is with a known token and, unless that is deleted, empty. -/
theorem reads_checkDissociation
    (account address : Address) :
    Reads world (checkDissociation account address) fun _ =>
      (∃ holding, world.relationship account address = .ok (some holding)) ∧
        ∃ token,
          world.token address = .ok (some token) ∧
            (token.deleted = false → world.units account address = 0) := by
  refine (reads_knownToken address).bind fun token found => ?_
  refine (reads_relationship _ _).bind fun holding held => ?_
  split
  · refine (reads_ensure _ _).bind fun _ _ => ?_
    refine (reads_ensure _ _).imp (fun _ => id) ?_
    intro _ _ ⟨same, empty⟩
    refine ⟨same, ⟨holding, held⟩, token, found, fun _ => ?_⟩
    have empty : holding.balance = 0 := by simpa using empty
    rw [World.units_of_relationship held, World.unitsOf_some, empty]
    rfl
  · rename_i deleted
    refine Reads.pure ⟨⟨holding, held⟩, token, found, fun alive => ?_⟩
    simp [alive] at deleted

/-- The account may end its relationships with the tokens. -/
def MayEnd (account : Address) (tokens : List Address) (world : World) : Prop :=
  ∀ address ∈ tokens, ∃ token,
    world.token address = .ok (some token) ∧
      (token.deleted = false → world.units account address = 0)

end TokenAction

namespace World.KeptByAlikeRelationships

open TokenAction

variable
  {invariant : World → Prop}
  (kept : KeptByAlikeRelationships invariant)
include kept

/-- Opening relationships writes empty ones where nothing was. -/
theorem yields_open
    (created : List Relationship) :
    Yields (fun world => invariant world ∧ AreToOpen created world)
      (created.forM fun holding =>
        change fun world =>
          world.putRelationship holding.account holding.token (some holding))
      fun _ world => invariant world ∧ AreToOpen [] world := by
  refine Yields.forM
    (fun holdings world => invariant world ∧ AreToOpen holdings world)
    (fun holding rest => yields_change ?_) created
  rintro world ⟨holds, toOpen⟩
  obtain ⟨known, empty, nothing⟩ := toOpen holding List.mem_cons_self
  refine ⟨kept.put holds ?_ known fun _ _ => ?_, fun other member => ?_⟩
  · exact own_of_mem_some _
  · rw [nothing, unitsOf_some, empty]
    rfl
  · obtain ⟨otherKnown, otherEmpty, otherNothing⟩ :=
      toOpen other (List.mem_cons_of_mem _ member)
    rw [token_putRelationship]
    refine ⟨otherKnown, otherEmpty, ?_⟩
    by_cases same : other.account = holding.account ∧ other.token = holding.token
    · rw [same.1, same.2, units_putRelationship_self (kept.isOpen holds), unitsOf_some,
        empty]
      rfl
    · rw [units_putRelationship_of_ne same]
      exact otherNothing

theorem yields_associate
    (relations : TokenRelations) :
    Yields invariant (associate relations) fun _ => invariant := by
  refine Yields.of_each fun world holds => ?_
  refine (Reads.of_keeps (keeps_checkRelations relations)).bind fun _ _ => ?_
  refine (Reads.of_keeps (keeps_ensureSubject _)).bind fun _ _ => ?_
  refine (Reads.mapM fun token _ =>
    reads_newRelationship relations.account token).bind fun created news => ?_
  have toOpen : AreToOpen created world := by
    intro holding member
    obtain ⟨_, _, own, rfl, empty, known, absent⟩ := news holding member
    rw [← own] at absent
    exact ⟨known, empty, World.units_of_relationship absent⟩
  refine ((kept.yields_open created).at_state ⟨holds, toOpen⟩).bind fun _ => ?_
  exact (yields_adjust kept.about _ _).imp (fun _ holds => holds.1) fun _ _ => id

theorem keeps_removeRelationship
    (account : Address)
    {tokens : List Address}
    {address : Address}
    (member : address ∈ tokens) :
    Keeps (fun world => invariant world ∧ MayEnd account tokens world)
      (removeRelationship account address) := by
  refine (keeps_ask _).bind fun holding => ?_
  refine Keeps.bind (keeps_change ?_) fun _ => Keeps.pure _
  rintro world ⟨holds, mayEnd⟩
  obtain ⟨token, found, empty⟩ := mayEnd address member
  refine ⟨kept.put holds ?_ (by rw [found]; simp) ?_, fun other among => ?_⟩
  · intro _ impossible
    cases impossible
  · intro known read alive
    cases found.symm.trans read
    exact empty alive
  · obtain ⟨otherToken, otherFound, otherEmpty⟩ := mayEnd other among
    rw [token_putRelationship]
    refine ⟨otherToken, otherFound, fun alive => ?_⟩
    by_cases same : other = address
    · rw [same, units_putRelationship_self (kept.isOpen holds), unitsOf_none]
    · rw [units_putRelationship_of_ne fun equal => same equal.2]
      exact otherEmpty alive

theorem yields_dissociate
    (relations : TokenRelations) :
    Yields invariant (dissociate relations) fun _ => invariant := by
  refine Yields.of_each fun world holds => ?_
  refine (Reads.of_keeps (keeps_checkRelations relations)).bind fun _ _ => ?_
  refine (Reads.of_keeps (keeps_ensureSubject _)).bind fun _ _ => ?_
  refine (Reads.forM fun token _ =>
    reads_checkDissociation relations.account token).bind fun _ mayEnd => ?_
  have removed :
      Keeps (fun world => invariant world ∧ MayEnd relations.account relations.tokens world)
        (relations.tokens.mapM (removeRelationship relations.account)) :=
    Keeps.mapM fun _ member => kept.keeps_removeRelationship _ member
  have mayEnd : MayEnd relations.account relations.tokens world :=
    fun address member => (mayEnd address member).2
  refine ((Yields.of_keeps removed).at_state ⟨holds, mayEnd⟩).bind fun _ => ?_
  exact (yields_adjust kept.about _ _).imp (fun _ holds => holds.1) fun _ _ => id

end World.KeptByAlikeRelationships

namespace TokenAction

open World (SameBelow SameEntries IsAboutEntries IsAboutHoldings)

variable
  {α : Type}
  {world : World}
  {before after : World → Prop}

/-! ## Frames -/

theorem keptByHoldings_sameBelow
    (start : World) :
    KeptByHoldings (SameBelow start) where
  count _ counted below := below.trans (.updateAccount counted)
  putRelationship _ _ _ below := below.trans (.record _ _)
  putNft _ _ _ below := below.trans (.record _ _)
  setAllowance _ _ _ _ below := below.trans (.record _ _)

theorem keeps_adjust_sameBelow
    (start : World)
    (address : Address)
    (update : Account → Account) :
    Keeps (SameBelow start) (adjust address update) :=
  keeps_adjust fun changed below => below.trans (.updateAccount changed)

/-- Whatever a transaction asks for, it writes to the innermost journal only. -/
theorem keeps_run_sameBelow
    (start : World)
    (body : TransactionBody)
    (sender : Address) :
    Keeps (SameBelow start) (run body sender) := by
  have of_noCurrency (noCurrency : body.MovesNoCurrency) :
      Keeps (SameBelow start) (run body sender) := by
    intro world below
    have evolves := (keptByTokens_evolves world).run noCurrency sender world (.refl world)
    cases ran : run body sender world with
    | ok answer after =>
        rw [ran] at evolves
        exact below.trans (.of_evolves evolves)
    | error error after =>
        rw [ran] at evolves
        exact below.trans (.of_evolves evolves)
  cases body with
  | cryptoTransfer body =>
      have kept := keptByHoldings_sameBelow start
      refine Keeps.bind ?_ fun _ => Keeps.pure _
      refine (keeps_transferCurrency (keeps_adjust_sameBelow start) _).bind fun _ => ?_
      exact Keeps.forM fun list _ => kept.transferToken sender list
  | _ => exact of_noCurrency trivial

/-- What succeeds in a frame of its own has succeeded inside it. -/
theorem exists_of_framed
    {action : TokenAction α}
    {answer : α}
    {after : World}
    (succeeds : action.framed world = .ok answer after) :
    ∃ inner, action world.push = .ok answer inner ∧ after = inner.commit := by
  unfold framed at succeeds
  cases ran : action world.push with
  | error error inner =>
      rw [ran] at succeeds
      cases succeeds
  | ok result inner =>
      rw [ran] at succeeds
      cases succeeds
      exact ⟨inner, rfl, rfl⟩

/-- An action that succeeds in a frame inside another keeps all that it wrote. -/
theorem framed_of_ok
    {action : TokenAction α}
    (below : Keeps (SameBelow world.push) action)
    (isOpen : world.IsOpen)
    {answer : α}
    {inner : World}
    (succeeds : action world.push = .ok answer inner) :
    action.framed world = .ok answer inner.commit ∧ SameEntries inner inner.commit := by
  refine ⟨by simp only [framed, succeeds], .commit isOpen ?_⟩
  exact Ensures.of_ok below succeeds (.refl _)

/-- An action that fails in a frame of its own restores all entries. -/
theorem framed_of_error
    {action : TokenAction α}
    (below : Keeps (SameBelow world.push) action)
    {error : PrecompileError}
    {inner : World}
    (fails : action world.push = .error error inner) :
    action.framed world = .error error inner.revert ∧ SameEntries world inner.revert := by
  refine ⟨by simp only [framed, fails], .revert ?_⟩
  exact Ensures.of_error below fails (.refl _)

/--
What holds before a frame, and of its writes if they are kept, holds after it.
-/
theorem leaves_framed
    {action : TokenAction α}
    (below : Keeps (SameBelow world.push) action)
    (about : IsAboutEntries after)
    (holds : after world)
    (succeeds : Yields (· = world.push) action fun _ => after) :
    after (leaves action.framed world) := by
  cases ran : action world.push with
  | error error inner =>
      obtain ⟨failed, same⟩ := framed_of_error below ran
      simp only [leaves, failed]
      exact about same holds
  | ok answer inner =>
      have inside : SameBelow world.push inner := Ensures.of_ok below ran (.refl _)
      simp only [leaves, framed, ran]
      exact about.commit inside holds (Ensures.of_ok succeeds ran rfl)

/-- What is said of the answers of a world is said of those after a frame. -/
theorem leaves_framed_answers
    {action : TokenAction α}
    (below : Keeps (SameBelow world.push) action)
    (about : World.IsAboutAnswers after)
    (holds : after world)
    (succeeds : Yields (· = world.push) action fun _ => after) :
    after (leaves action.framed world) := by
  unfold leaves framed
  cases ran : action world.push with
  | error error inner =>
      have opened : SameBelow world.push inner := Ensures.of_error below ran (.refl _)
      exact about.congr (opened.revert.isOpen (about.isOpen holds)) opened.revert.redirects
        (World.view_revert opened) holds
  | ok answer inner =>
      have opened : SameBelow world.push inner := Ensures.of_ok below ran (.refl _)
      exact about.keptByEnds.commit holds opened (Ensures.of_ok succeeds ran rfl)

/-- A frame over the bare view changes no answer. -/
theorem view_leaves_framed_of_bare
    {action : TokenAction α}
    (below : Keeps (SameBelow world.push) action)
    (bare : ¬ world.IsOpen) :
    (leaves action.framed world).view = world.view := by
  unfold leaves framed
  cases ran : action world.push with
  | error error inner => exact World.view_revert (Ensures.of_error below ran (.refl _))
  | ok answer inner =>
      have opened : SameBelow world.push inner := Ensures.of_ok below ran (.refl _)
      change inner.commit.view = world.view
      rw [World.commit_eq_revert_of_bare bare opened]
      exact World.view_revert opened

end TokenAction

/--
What holds before a dispatched call, and of the writes of the transaction that it is read
into, holds after it.
-/
theorem DispatchedCall.leaves_answer
    {world : World}
    {after : World → Prop}
    (dispatched : DispatchedCall)
    (about : World.IsAboutEntries after)
    (holds : after world)
    (succeeds :
      ∀ body ∈ dispatched.body? world,
        Yields (· = world.push) (TokenAction.run body dispatched.call.sender) fun _ => after) :
    after (leaves dispatched.answer world) := by
  refine (dispatched.ensures_answer holds (fun _ => holds) fun body member => ?_).holds_leaves
    rfl
  refine Ensures.of_leaves (TokenAction.leaves_framed ?_ about holds (succeeds body member))
  exact TokenAction.keeps_run_sameBelow world.push body dispatched.call.sender

/-- What all operations on tokens keep, a dispatched call keeps if it is about answers. -/
theorem DispatchedCall.keeps_answer
    {invariant : World → Prop}
    (kept : TokenAction.KeptByTokens invariant)
    (about : World.IsAboutAnswers invariant)
    (dispatched : DispatchedCall) :
    Keeps invariant dispatched.answer := by
  intro world holds
  refine dispatched.ensures_answer holds (fun _ => holds) (fun body member => ?_) world rfl
  obtain ⟨function, setting, kind, called, read⟩ := exists_of_mem_body? member
  have noCurrency := (TokenFunction.reads_of_readCall read).2
  have keeps := kept.run noCurrency dispatched.call.sender
  have below := TokenAction.keeps_run_sameBelow world.push body dispatched.call.sender
  intro start same
  subst start
  unfold TokenAction.framed
  cases ran : TokenAction.run body dispatched.call.sender world.push with
  | ok answer inner =>
      exact about.keptByEnds.commit holds (Ensures.of_ok below ran (.refl _))
        (keeps.of_ok ran (about.push holds))
  | error error inner =>
      exact about.keptByEnds.revert holds (Ensures.of_error below ran (.refl _))
        (keeps.of_error ran (about.push holds))

/-- Carry out transactions for their senders one after the other, each in its own frame. -/
def World.carryOut (world : World) (requests : List (TransactionBody × Address)) : World :=
  requests.foldl
    (fun world (body, sender) => leaves (TokenAction.run body sender).framed world) world

namespace World

/-- Some transactions are carried out and then others. -/
theorem carryOut_append
    (world : World)
    (requests others : List (TransactionBody × Address)) :
    world.carryOut (requests ++ others) = (world.carryOut requests).carryOut others :=
  List.foldl_append

/-- The transaction at a place is carried out after the ones before it. -/
theorem carryOut_take_succ
    (world : World)
    {requests : List (TransactionBody × Address)}
    {place : Nat}
    {body : TransactionBody}
    {sender : Address}
    (asked : requests[place]? = some (body, sender)) :
    world.carryOut (requests.take (place + 1)) =
      leaves (TokenAction.run body sender).framed (world.carryOut (requests.take place)) := by
  rw [List.take_add_one, asked, carryOut_append]
  rfl

/-- What has been carried out later is what has been earlier and then the transactions between. -/
theorem carryOut_take_of_le
    (world : World)
    (requests : List (TransactionBody × Address))
    {earlier later : Nat}
    (ordered : earlier ≤ later) :
    world.carryOut (requests.take later) =
      (world.carryOut (requests.take earlier)).carryOut
        ((requests.take later).drop earlier) := by
  have before : (requests.take later).take earlier = requests.take earlier := by
    rw [List.take_take, Nat.min_eq_left ordered]
  rw [← carryOut_append, ← before, List.take_append_drop]

end World

end LedgerEvm
