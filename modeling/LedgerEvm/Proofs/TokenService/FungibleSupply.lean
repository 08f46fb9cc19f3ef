import LedgerEvm.Proofs.Clamp
import LedgerEvm.Proofs.TokenService.Effects

namespace LedgerEvm

/-!
# The supply of fungible tokens

The supply that a fungible token claims is what its holders hold together.  Within an
action the two may differ for the one token that the action is about; by how much is
followed from write to write, and comes back to nothing.
-/

namespace Token

/-- The token is held in amounts and has not been deleted. -/
def IsLiveFungible (token : Token) : Prop :=
  token.isNonFungible = false ∧ token.deleted = false

end Token

namespace World

/--
Every fungible token that is not deleted has the supply that its holders hold together,
within its limit when it has one, and no relationship is with an address without a token.
-/
structure FungibleBooks (world : World) : Prop where
  supply :
    ∀ {address : Address} {token : Token},
      world.token address = .ok (some token) →
      token.IsLiveFungible →
      world.circulation address = token.totalSupply.toNat
  limit :
    ∀ {address : Address} {token : Token},
      world.token address = .ok (some token) →
      token.IsLiveFungible →
      0 < token.maxSupply →
      token.totalSupply ≤ token.maxSupply
  known :
    ∀ {account token : Address} {holding : Relationship},
      world.relationship account token = .ok (some holding) →
      world.token token ≠ .ok none

/--
The books of fungible tokens, except that more of the token at an address is held than it
claims, by an amount.
-/
structure SupplyOffBy (address : Address) (amount : Int) (world : World) : Prop where
  isOpen : world.IsOpen
  filed : world.IsFiled
  known :
    ∀ {account token : Address} {holding : Relationship},
      world.relationship account token = .ok (some holding) →
      world.token token ≠ .ok none
  limit :
    ∀ {address : Address} {token : Token},
      world.token address = .ok (some token) →
      token.IsLiveFungible →
      0 < token.maxSupply →
      token.totalSupply ≤ token.maxSupply
  supply :
    ∀ {token : Token},
      world.token address = .ok (some token) →
      token.IsLiveFungible →
      (world.circulation address : Int) = token.totalSupply.toNat + amount
  others :
    ∀ {other : Address} {token : Token},
      other ≠ address →
      world.token other = .ok (some token) →
      token.IsLiveFungible →
      world.circulation other = token.totalSupply.toNat

namespace SupplyOffBy

variable
  {world after : World}
  {address other : Address}
  {amount amount' : Int}

theorem congr
    (books : world.SupplyOffBy address amount)
    (same : SameHoldings world after) :
    after.SupplyOffBy address amount where
  isOpen := same.isOpen books.isOpen
  filed := books.filed.congr same
  known found := by
    rw [same.relationship] at found
    rw [same.token]
    exact books.known found
  limit found := books.limit ((same.token _).symm.trans found)
  supply found live := by
    rw [circulation_congr same]
    exact books.supply ((same.token _).symm.trans found) live
  others different found live := by
    rw [circulation_congr same]
    exact books.others different ((same.token _).symm.trans found) live

theorem isAboutHoldings
    (address : Address)
    (amount : Int) :
    IsAboutHoldings (SupplyOffBy address amount) :=
  fun _ _ same books => books.congr same

/-- Where nothing is off it does not matter which token is looked at. -/
theorem elsewhere
    (books : world.SupplyOffBy address 0)
    (other : Address) :
    world.SupplyOffBy other 0 := by
  have all {place : Address} {token : Token}
      (found : world.token place = .ok (some token))
      (live : token.IsLiveFungible) :
      world.circulation place = token.totalSupply.toNat := by
    by_cases same : place = address
    · subst same
      have exactly := books.supply found live
      omega
    · exact books.others same found live
  refine ⟨books.isOpen, books.filed, books.known, books.limit, ?_, fun _ => all⟩
  intro token found live
  rw [all found live, Int.add_zero]

/-- Books in which nothing is off. -/
theorem iff_fungibleBooks :
    world.SupplyOffBy address 0 ↔
      world.IsOpen ∧ world.IsFiled ∧ world.FungibleBooks := by
  constructor
  · intro books
    refine ⟨books.isOpen, books.filed, ?_, books.limit, books.known⟩
    intro place token found live
    have exactly := (books.elsewhere place).supply found live
    omega
  · rintro ⟨isOpen, filed, books⟩
    refine ⟨isOpen, filed, books.known, books.limit, ?_, fun _ => books.supply⟩
    intro token found live
    rw [books.supply found live, Int.add_zero]

/-- No units are held of a token at an address without one. -/
theorem units_of_free
    (books : world.SupplyOffBy address amount)
    {token : Address}
    (free : world.token token = .ok none)
    (account : Address) :
    world.units account token = 0 := by
  unfold units
  cases held : world.relationship account token with
  | error error => rfl
  | ok entry =>
      cases entry with
      | none => rfl
      | some holding => exact (books.known held free).elim

/-! ## Writes -/

/-- Writing a relationship of the token puts its books off by the exchanged units. -/
theorem putRelationship
    (books : world.SupplyOffBy address amount)
    {account : Address}
    {entry : Option Relationship}
    (own : ∀ holding ∈ entry, holding.account = account ∧ holding.token = address)
    (known : world.token address ≠ .ok none)
    (exchanged :
      ∀ {token : Token},
        world.token address = .ok (some token) →
        token.IsLiveFungible →
        amount' + world.units account address = amount + unitsOf entry) :
    (world.putRelationship account address entry).SupplyOffBy address amount' where
  isOpen := books.isOpen.record _
  filed := books.filed.putRelationship books.isOpen own
  known {account' token' holding} found := by
    rw [token_putRelationship]
    by_cases same : account' = account ∧ token' = address
    · rw [same.2]
      exact known
    · rw [relationship_putRelationship_of_ne same] at found
      exact books.known found
  limit found := by
    rw [token_putRelationship] at found
    exact books.limit found
  supply found live := by
    rw [token_putRelationship] at found
    have before := books.supply found live
    have exchanged := exchanged found live
    have written := circulation_putRelationship_self books.isOpen account address entry
    omega
  others different found live := by
    rw [token_putRelationship] at found
    rw [circulation_putRelationship_of_ne different]
    exact books.others different found live

/-- A relationship that is written with the units that it had leaves the books alone. -/
theorem keptByAlike
    (address : Address) :
    KeptByAlikeRelationships (SupplyOffBy address 0) where
  about := (isAboutHoldings address 0).isAboutEntries
  isOpen := SupplyOffBy.isOpen
  put {world account token entry} books own known alike := by
    refine ((books.elsewhere token).putRelationship own known ?_).elsewhere address
    intro found read live
    rw [alike read live.2]

/-- Writing the supply of the token puts its books off by the difference. -/
theorem putSupply
    (books : world.SupplyOffBy address amount)
    {token : Token}
    (found : world.token address = .ok (some token))
    (totalSupply : UInt64)
    (lastUsedSerial : Int64)
    (within :
      token.IsLiveFungible → 0 < token.maxSupply → totalSupply ≤ token.maxSupply)
    (difference :
      token.IsLiveFungible →
      amount' + totalSupply.toNat = amount + token.totalSupply.toNat) :
    (world.putToken { token with totalSupply, lastUsedSerial }).SupplyOffBy
      address amount' := by
  obtain rfl : token.address = address := books.filed.token found
  have written :
      (world.putToken { token with totalSupply, lastUsedSerial }).token token.address =
        .ok (some { token with totalSupply, lastUsedSerial }) :=
    token_putToken_self books.isOpen { token with totalSupply, lastUsedSerial }
  have unwritten {other : Address} (different : other ≠ token.address) :
      (world.putToken { token with totalSupply, lastUsedSerial }).token other =
        world.token other :=
    token_putToken_of_ne different
  have circulation (other : Address) :
      (world.putToken { token with totalSupply, lastUsedSerial }).circulation other =
        world.circulation other :=
    Finset.sum_congr rfl fun _ _ => by simp only [units, relationship_putToken]
  refine ⟨books.isOpen.record _, books.filed.putToken books.isOpen _, ?_, ?_, ?_, ?_⟩
  · intro account other holding read
    rw [relationship_putToken] at read
    by_cases same : other = token.address
    · rw [same, written]
      exact fun impossible => by cases impossible
    · rw [unwritten same]
      exact books.known read
  · intro other known read live
    by_cases same : other = token.address
    · rw [same, written] at read
      cases read
      exact within live
    · rw [unwritten same] at read
      exact books.limit read live
  · intro known read live
    rw [written] at read
    cases read
    have live : token.IsLiveFungible := live
    have before := books.supply found live
    have difference := difference live
    rw [circulation]
    simp only
    omega
  · intro other known different read live
    rw [unwritten different] at read
    rw [circulation]
    exact books.others different read live

/-- A new token is off by all of its supply, since nobody holds it yet. -/
theorem newToken
    (books : world.SupplyOffBy address 0)
    {token : Token}
    (free : world.token token.address = .ok none)
    (unlimited : token.maxSupply = 0) :
    (world.putToken token).SupplyOffBy token.address (-token.totalSupply.toNat) := by
  have written := token_putToken_self books.isOpen token
  have circulation (other : Address) :
      (world.putToken token).circulation other = world.circulation other :=
    Finset.sum_congr rfl fun _ _ => by simp only [units, relationship_putToken]
  refine ⟨books.isOpen.record _, books.filed.putToken books.isOpen _, ?_, ?_, ?_, ?_⟩
  · intro account other holding read
    rw [relationship_putToken] at read
    by_cases same : other = token.address
    · rw [same, written]
      exact fun impossible => by cases impossible
    · rw [token_putToken_of_ne same]
      exact books.known read
  · intro other known read live
    by_cases same : other = token.address
    · rw [same, written] at read
      cases read
      rw [unlimited]
      exact fun impossible => absurd impossible (by decide)
    · rw [token_putToken_of_ne same] at read
      exact books.limit read live
  · intro known read live
    rw [written] at read
    cases read
    have nothing : world.circulation token.address = 0 :=
      Finset.sum_eq_zero fun account _ => books.units_of_free free account
    rw [circulation, nothing]
    omega
  · intro other known different read live
    rw [token_putToken_of_ne different] at read
    rw [circulation]
    exact ((books.elsewhere token.address).others different read live)

end SupplyOffBy

end World

namespace TokenAction

open World (SupplyOffBy IsAboutHoldings IsAboutEntries)

variable {world : World} {amount : Int}

/-! ## Balances -/

/-- Writing a balance puts the books of its token off by the difference. -/
theorem yields_setBalance_supply
    {account address : Address}
    {holding : Relationship}
    {balance : UInt64}
    {answer : Except StateError (Option Token)}
    {amount' : Int}
    (exchanged :
      ∀ {token : Token},
        answer = .ok (some token) →
        token.IsLiveFungible →
        amount' + holding.balance.toNat = amount + balance.toNat) :
    Yields
      (fun world =>
        (world.SupplyOffBy address amount ∧ world.token address = answer) ∧
          world.relationship account address = .ok (some holding))
      (setBalance holding balance)
      fun _ world => world.SupplyOffBy address amount' ∧ world.token address = answer := by
  refine yields_setBalance ?_ ?_
  · exact ((SupplyOffBy.isAboutHoldings address amount').and
      (.token address answer)).isAboutEntries
  · rintro world ⟨⟨books, known⟩, held⟩
    obtain ⟨rfl, rfl⟩ := books.filed.relationship held
    refine ⟨books.putRelationship ?_ (books.known held) ?_, ?_⟩
    · exact World.own_of_mem_some _
    · intro token found live
      rw [World.units_of_relationship held]
      exact exchanged (known.symm.trans found) live
    · rw [World.token_putRelationship]
      exact known

/-! ## Transfers -/

/-- A leg puts the books of its token off by its amount. -/
theorem yields_applyLeg
    (address spender : Address)
    (answer : Except StateError (Option Token))
    (leg : AccountAmount) :
    Yields
      (fun world => world.SupplyOffBy address amount ∧ world.token address = answer)
      (applyLeg address spender leg)
      fun _ world =>
        world.SupplyOffBy address (amount + leg.amount.toInt) ∧
          world.token address = answer := by
  refine Yields.of_each fun world books => ?_
  refine (reads_relationship leg.account address).bind fun holding held => ?_
  refine (reads_ensure _ _).bind fun _ _ => ?_
  refine (reads_ensure _ _).bind fun _ _ => ?_
  have about : IsAboutHoldings fun world =>
      (world.SupplyOffBy address amount ∧ world.token address = answer) ∧
        world.relationship leg.account address = .ok (some holding) :=
    ((SupplyOffBy.isAboutHoldings address amount).and (.token address answer)).and
      (.relationship leg.account address _)
  have settled :
      Yields
        (fun world =>
          (world.SupplyOffBy address amount ∧ world.token address = answer) ∧
            world.relationship leg.account address = .ok (some holding))
        (do
          let balance ← shifted holding.balance leg.amount .insufficientTokenBalance
          setBalance holding balance)
        fun _ world =>
          world.SupplyOffBy address (amount + leg.amount.toInt) ∧
            world.token address = answer := by
    refine Yields.of_each fun world books => ?_
    refine (reads_shifted _ _ _).bind fun balance exactly => ?_
    refine (yields_setBalance_supply ?_).at_state books
    intro token _ _
    omega
  dsimp only
  split
  · have spent := (yields_spendAllowance about.isAboutEntries address spender leg).bind_kept
      fun _ => settled
    exact spent.at_state ⟨books, held⟩
  · exact settled.at_state ⟨books, held⟩

/-- The balances of a token that is not held in amounts do not matter. -/
theorem yields_setBalance_of_not_live
    {address : Address}
    {token : Token}
    (irrelevant : ¬ token.IsLiveFungible)
    {holding : Relationship}
    (own : holding.token = address)
    (balance : UInt64) :
    Yields
      (fun world =>
        world.SupplyOffBy address amount ∧ world.token address = .ok (some token))
      (setBalance holding balance)
      fun _ world =>
        world.SupplyOffBy address amount ∧ world.token address = .ok (some token) := by
  subst own
  refine yields_setBalance ?_ ?_
  · exact ((SupplyOffBy.isAboutHoldings _ amount).and (.token _ _)).isAboutEntries
  · rintro world ⟨books, known⟩
    refine ⟨books.putRelationship ?_ (by rw [known]; simp) ?_, ?_⟩
    · exact World.own_of_mem_some _
    · intro other found live
      cases known.symm.trans found
      exact (irrelevant live).elim
    · rw [World.token_putRelationship]
      exact known

/-- Moving a piece leaves the books of fungible tokens alone. -/
theorem yields_movePiece_supply
    (address spender : Address)
    {token : Token}
    (isNonFungible : token.isNonFungible = true)
    (leg : NftTransfer) :
    Yields
      (fun world =>
        world.SupplyOffBy address amount ∧ world.token address = .ok (some token))
      (movePiece address spender leg)
      fun _ world =>
        world.SupplyOffBy address amount ∧ world.token address = .ok (some token) := by
  have irrelevant : ¬ token.IsLiveFungible := by
    intro live
    rw [live.1] at isNonFungible
    cases isNonFungible
  have about : IsAboutHoldings fun world =>
      world.SupplyOffBy address amount ∧ world.token address = .ok (some token) :=
    (SupplyOffBy.isAboutHoldings address amount).and (.token address _)
  refine Yields.of_each fun world books => ?_
  refine (reads_piece _ _).bind fun found _ => ?_
  refine (reads_ensure _ _).bind fun _ _ => ?_
  dsimp only
  refine Reads.guarded (fun _ => reads_ensure _ _) fun _ => ?_
  refine (Reads.of_keeps (keeps_ensureAccount _ _)).bind fun _ _ => ?_
  refine (reads_relationship _ _).bind fun giving held => ?_
  refine (reads_relationship _ _).bind fun taking held' => ?_
  have givingOwn := (books.1.filed.relationship held).2
  have takingOwn := (books.1.filed.relationship held').2
  refine (reads_ensure _ _).bind fun _ _ => ?_
  refine (reads_shifted _ _ _).bind fun givingBalance _ => ?_
  refine (reads_shifted _ _ _).bind fun takingBalance _ => ?_
  refine ((yields_setBalance_of_not_live irrelevant givingOwn _).at_state books).bind
    fun _ => ?_
  refine (yields_setBalance_of_not_live irrelevant takingOwn _).bind fun _ => ?_
  refine (yields_putNft about _ _ _).bind fun _ => ?_
  refine (yields_adjust about.isAboutEntries _ _).bind fun _ => ?_
  exact yields_adjust about.isAboutEntries _ _

/-- Legs that add up to nothing leave the books of their token as they were. -/
theorem yields_legs
    (address spender : Address)
    (answer : Except StateError (Option Token))
    {legs : List AccountAmount}
    (balanced : netAmount legs = 0) :
    Yields
      (fun world => world.SupplyOffBy address 0 ∧ world.token address = answer)
      (legs.forM (applyLeg address spender))
      fun _ world => world.SupplyOffBy address 0 ∧ world.token address = answer := by
  -- what is still to come is what the books are off by
  have applied :=
    Yields.forM
      (fun (rest : List AccountAmount) (world : World) =>
        world.SupplyOffBy address (-netAmount rest) ∧ world.token address = answer)
      (fun leg rest => by
        refine (yields_applyLeg address spender answer leg).imp (fun _ => id) ?_
        intro _ world ⟨books, known⟩
        have remaining :
            -netAmount (leg :: rest) + leg.amount.toInt = -netAmount rest := by
          simp only [netAmount, List.foldr_cons]
          omega
        rw [remaining] at books
        exact ⟨books, known⟩)
      legs
  rw [balanced] at applied
  exact applied

/-- The legs of a fungible token add up to nothing, so its books end as they began. -/
theorem yields_transferToken_supply
    (spender : Address)
    (list : TokenTransfers) :
    Yields (SupplyOffBy list.token 0) (transferToken spender list)
      fun _ => SupplyOffBy list.token 0 := by
  refine Yields.of_each fun world books => ?_
  refine (reads_liveToken list.token).bind fun token ⟨found, _⟩ => ?_
  have pieces :
      Yields
        (fun world =>
          world.SupplyOffBy list.token 0 ∧ world.token list.token = .ok (some token))
        (list.nftTransfers.forM fun leg => do
          ensure token.isNonFungible .invalidTransactionBody
          movePiece list.token spender leg)
        fun _ world =>
          world.SupplyOffBy list.token 0 ∧ world.token list.token = .ok (some token) := by
    refine Yields.forM_kept (fun leg => ?_) list.nftTransfers
    refine Yields.of_each fun world books => ?_
    refine (reads_ensure _ _).bind fun _ isNonFungible => ?_
    exact (yields_movePiece_supply list.token spender isNonFungible leg).at_state books
  have moves (balanced : netAmount list.transfers = 0) :
      Yields (· = world)
        (do
          list.transfers.forM (applyLeg list.token spender)
          list.nftTransfers.forM fun leg => do
            ensure token.isNonFungible .invalidTransactionBody
            movePiece list.token spender leg)
        fun _ => SupplyOffBy list.token 0 := by
    refine ((yields_legs list.token spender _ balanced).at_state ⟨books, found⟩).bind
      fun _ => ?_
    exact pieces.imp (fun _ => id) fun _ _ books => books.1
  dsimp only
  split
  · refine (reads_ensure _ _).bind fun _ _ => ?_
    refine (reads_ensure _ _).bind fun _ balanced => ?_
    exact moves (by simpa using balanced)
  · rename_i empty
    have empty : list.transfers = [] := by simpa using empty
    exact moves (by rw [empty]; rfl)

/-! ## Supply -/

/-- A supply and a balance that change by the same amount leave the books as they were. -/
theorem yields_writeSupply
    {α : Type}
    {address account : Address}
    {token : Token}
    {holding : Relationship}
    {totalSupply balance : UInt64}
    (lastUsedSerial : Int64)
    (within :
      token.IsLiveFungible → 0 < token.maxSupply → totalSupply ≤ token.maxSupply)
    (alike :
      token.IsLiveFungible →
      totalSupply.toNat + holding.balance.toNat =
        token.totalSupply.toNat + balance.toNat)
    (result : α) :
    Yields
      (fun world =>
        (world.SupplyOffBy address 0 ∧ world.token address = .ok (some token)) ∧
          world.relationship account address = .ok (some holding))
      (do
        change fun world => world.putToken { token with totalSupply, lastUsedSerial }
        setBalance holding balance
        pure result)
      fun _ => SupplyOffBy address 0 := by
  let changed : Token := { token with totalSupply, lastUsedSerial }
  let surplus : Int := token.totalSupply.toNat - totalSupply.toNat
  have supplied :
      Yields
        (fun world =>
          (world.SupplyOffBy address 0 ∧ world.token address = .ok (some token)) ∧
            world.relationship account address = .ok (some holding))
        (change fun world => world.putToken { token with totalSupply, lastUsedSerial })
        fun _ world =>
          (world.SupplyOffBy address surplus ∧ world.token address = .ok (some changed)) ∧
            world.relationship account address = .ok (some holding) := by
    refine yields_change ?_
    rintro world ⟨⟨books, found⟩, held⟩
    refine ⟨⟨books.putSupply found _ _ within fun _ => ?_, ?_⟩, ?_⟩
    · simp only [surplus]
      omega
    · obtain rfl := books.filed.token found
      exact World.token_putToken_self books.isOpen changed
    · rw [World.relationship_putToken]
      exact held
  have settled :
      ∀ {other : Token},
        (.ok (some changed) : Except StateError (Option Token)) = .ok (some other) →
        other.IsLiveFungible →
        (0 : Int) + holding.balance.toNat = surplus + balance.toNat := by
    intro other same live
    cases same
    have alike := alike live
    simp only [surplus]
    omega
  refine supplied.bind fun _ => ?_
  refine (yields_setBalance_supply settled).bind fun _ => ?_
  exact Ensures.pure fun _ books => books.1

theorem isAboutHoldings_known
    (address account : Address)
    (token : Token)
    (holding : Relationship) :
    IsAboutHoldings fun world =>
      (world.SupplyOffBy address 0 ∧ world.token address = .ok (some token)) ∧
        world.relationship account address = .ok (some holding) :=
  ((SupplyOffBy.isAboutHoldings address 0).and (.token address _)).and
    (.relationship account address _)

theorem yields_mint_supply
    (body : TokenMint) :
    Yields (SupplyOffBy body.token 0) (mint body) fun _ => SupplyOffBy body.token 0 := by
  refine Yields.of_each fun world books => ?_
  refine (reads_liveToken body.token).bind fun token ⟨found, alive⟩ => ?_
  refine (reads_ensure _ _).bind fun _ _ => ?_
  refine (reads_relationship _ _).bind fun holding held => ?_
  refine (Reads.of_keeps (keeps_mintedAmount token body)).bind
    fun ⟨minted, serials⟩ _ => ?_
  refine (reads_require _ _).bind fun totalSupply inRange => ?_
  refine (reads_ensure _ _).bind fun _ limit => ?_
  refine (reads_shifted _ _ _).bind fun balance exactly => ?_
  obtain ⟨sum, fits⟩ := toNat_of_ofNat? inRange
  have about := isAboutHoldings_known body.token token.treasury token holding
  refine ((yields_putPieces about _ _ _).at_state ⟨⟨books, found⟩, held⟩).bind fun _ => ?_
  have within (live : token.IsLiveFungible) (limited : 0 < token.maxSupply) :
      totalSupply ≤ token.maxSupply := by
    have unequal : token.maxSupply ≠ 0 := fun none => by
      rw [none] at limited
      exact absurd limited (by decide)
    simpa [unequal] using limit
  have alike (live : token.IsLiveFungible) :
      totalSupply.toNat + holding.balance.toNat =
        token.totalSupply.toNat + balance.toNat := by
    have supply := books.supply found live
    have part := World.units_le_circulation world token.treasury body.token
    rw [World.units_of_relationship held, World.unitsOf_some] at part
    have credited := toNat_shifted (by omega) fits exactly
    omega
  dsimp only
  split
  · refine (yields_adjust about.isAboutEntries _ _).bind fun _ => ?_
    exact yields_writeSupply _ within alike _
  · exact yields_writeSupply _ within alike _

/-- A supply that is reduced by what is taken off a balance. -/
theorem yields_shrink_supply
    {address account : Address}
    {token : Token}
    {holding : Relationship}
    {amount balance : UInt64}
    (taken : balance.toNat + amount.toNat = holding.balance.toNat)
    (serials : List Int64) :
    Yields
      (fun world =>
        (world.SupplyOffBy address 0 ∧ world.token address = .ok (some token)) ∧
          world.relationship account address = .ok (some holding))
      (shrink token holding amount balance serials)
      fun _ => SupplyOffBy address 0 := by
  refine Yields.of_each fun world ⟨⟨books, found⟩, held⟩ => ?_
  refine (yields_writeSupply token.lastUsedSerial ?_ ?_ _).at_state ⟨⟨books, found⟩, held⟩
  · intro live limited
    exact UInt64.le_trans (UInt64.subClamp_le _ _) (books.limit found live limited)
  · intro live
    have supply := books.supply found live
    have part := World.units_le_circulation world account address
    rw [World.units_of_relationship held, World.unitsOf_some] at part
    rw [UInt64.toNat_subClamp]
    omega

theorem yields_burn_supply
    (body : TokenBurn) :
    Yields (SupplyOffBy body.token 0) (burn body) fun _ => SupplyOffBy body.token 0 := by
  refine Yields.of_each fun world books => ?_
  refine (reads_liveToken body.token).bind fun token ⟨found, _⟩ => ?_
  refine (reads_ensure _ _).bind fun _ _ => ?_
  refine (reads_relationship _ _).bind fun holding held => ?_
  have about := isAboutHoldings_known body.token token.treasury token holding
  dsimp only
  split
  · refine (reads_ensure _ _).bind fun _ _ => ?_
    refine (reads_reduced _ _ _).bind fun balance taken => ?_
    refine ((yields_removePieces about _ _ _ _).at_state ⟨⟨books, found⟩, held⟩).bind
      fun _ => ?_
    exact yields_shrink_supply taken _
  · refine (reads_ensure _ _).bind fun _ _ => ?_
    refine (reads_reduced _ _ _).bind fun balance taken => ?_
    exact (yields_shrink_supply taken _).at_state ⟨⟨books, found⟩, held⟩

theorem yields_wipe_supply
    (body : TokenWipe) :
    Yields (SupplyOffBy body.token 0) (wipe body) fun _ => SupplyOffBy body.token 0 := by
  refine Yields.of_each fun world books => ?_
  refine (reads_liveToken body.token).bind fun token ⟨found, _⟩ => ?_
  refine (reads_ensure _ _).bind fun _ _ => ?_
  refine (Reads.of_keeps (keeps_ensureSubject _)).bind fun _ _ => ?_
  refine (reads_ensure _ _).bind fun _ _ => ?_
  refine (reads_relationship _ _).bind fun holding held => ?_
  have about := isAboutHoldings_known body.token body.account token holding
  dsimp only
  refine Reads.guarded (fun _ => reads_ensure _ _) fun _ => ?_
  refine (reads_reduced _ _ _).bind fun balance taken => ?_
  generalize (if token.isNonFungible then UInt64.ofNat body.serials.length
    else body.amount) = wiped at taken ⊢
  split
  · refine ((yields_removePieces about _ _ _ _).at_state ⟨⟨books, found⟩, held⟩).bind
      fun _ => ?_
    exact yields_shrink_supply taken _
  · exact (yields_shrink_supply taken _).at_state ⟨⟨books, found⟩, held⟩

/-! ## New tokens -/

/-- A new token begins with all of its supply at its treasury. -/
theorem yields_create_supply
    (place : Address)
    (body : TokenCreate)
    (sponsor : Address) :
    Yields (SupplyOffBy place 0) (create body sponsor) fun _ => SupplyOffBy place 0 := by
  have about := (SupplyOffBy.isAboutHoldings place 0).isAboutEntries
  refine (Yields.of_keeps (keeps_ensureAccount _ _)).bind fun _ => ?_
  refine (Yields.of_keeps (keeps_ensure _ _)).bind fun _ => ?_
  refine (yields_freshAddress (fun _ => about (.nextNum _ _)) sponsor).bind fun address => ?_
  refine Yields.of_each fun world ⟨books, free⟩ => ?_
  have free := (World.isFree_iff.mp free).2
  have nothing := books.units_of_free free body.treasury
  let token : Token :=
    { address
      kind := body.kind
      treasury := body.treasury
      totalSupply := body.initialSupply
      decimals := body.decimals
      name := body.name
      symbol := body.symbol
      hasSupplyKey := body.supplyKey }
  have issued :
      Yields (· = world) (change fun world => world.putToken token) fun _ world =>
        world.SupplyOffBy address (-body.initialSupply.toNat) ∧
          world.token address = .ok (some token) ∧ world.units body.treasury address = 0 := by
    refine yields_change fun after same => ?_
    subst after
    have created :
        (world.putToken token).SupplyOffBy token.address (-token.totalSupply.toNat) :=
      (books.elsewhere address).newToken free rfl
    refine ⟨created, ?_, ?_⟩
    · exact World.token_putToken_self books.isOpen token
    · simp only [World.units, World.relationship_putToken]
      exact nothing
  have held :
      Yields
        (fun world =>
          world.SupplyOffBy address (-body.initialSupply.toNat) ∧
            world.token address = .ok (some token) ∧
              world.units body.treasury address = 0)
        (change fun world =>
          world.putRelationship body.treasury address
            (some
              { account := body.treasury
                token := address
                balance := body.initialSupply
                kycGranted := true }))
        fun _ => SupplyOffBy place 0 := by
    refine yields_change fun world holds => ?_
    obtain ⟨books, known, empty⟩ := holds
    refine (books.putRelationship ?_ (by rw [known]; simp) fun _ _ => ?_).elsewhere place
    · exact World.own_of_mem_some _
    · rw [empty, World.unitsOf_some]
      simp
  refine issued.bind fun _ => ?_
  refine held.bind fun _ => ?_
  exact (yields_adjust about _ _).bind fun _ => Ensures.pure fun _ => id

/-! ## Transactions -/

/-- Every transaction leaves balanced books balanced. -/
theorem yields_run_supply
    (place : Address)
    (body : TransactionBody)
    (sender : Address) :
    Yields (SupplyOffBy place 0) (run body sender) fun _ => SupplyOffBy place 0 := by
  have elsewhere {α : Type} {action : TokenAction α} {address : Address}
      (yields : Yields (SupplyOffBy address 0) action fun _ => SupplyOffBy address 0) :
      Yields (SupplyOffBy place 0) action fun _ => SupplyOffBy place 0 :=
    yields.imp (fun _ books => books.elsewhere address) fun _ _ books =>
      books.elsewhere place
  have about := SupplyOffBy.isAboutHoldings place 0
  have alike := SupplyOffBy.keptByAlike place
  cases body with
  | tokenAssociateToAccount relations =>
      exact (alike.yields_associate relations).bind fun _ => Ensures.pure fun _ => id
  | tokenDissociateFromAccount relations =>
      exact (alike.yields_dissociate relations).bind fun _ => Ensures.pure fun _ => id
  | tokenMint mint =>
      exact (elsewhere (yields_mint_supply mint)).bind fun _ => Ensures.pure fun _ => id
  | tokenBurn burn =>
      exact (elsewhere (yields_burn_supply burn)).bind fun _ => Ensures.pure fun _ => id
  | tokenAccountWipe wipe =>
      exact (elsewhere (yields_wipe_supply wipe)).bind fun _ => Ensures.pure fun _ => id
  | cryptoTransfer transfer =>
      refine Yields.bind ?_ fun _ => Ensures.pure fun _ => id
      refine (yields_transferCurrency about.isAboutEntries _).bind fun _ => ?_
      exact Yields.forM_kept (fun list => elsewhere (yields_transferToken_supply sender list))
        transfer.tokenTransfers
  | cryptoApproveAllowance approval =>
      exact (yields_approve about approval).bind fun _ => Ensures.pure fun _ => id
  | tokenCreate creation =>
      exact (yields_create_supply place creation sender).bind fun _ =>
        Ensures.pure fun _ => id
  | _ =>
      exact fun _ _ => trivial

end TokenAction

namespace World

variable {world : World}

/-- The books of fungible tokens and the names of entries, which depend on entries only. -/
theorem isAboutEntries_fungibleBooks :
    IsAboutEntries fun world => world.IsFiled ∧ world.FungibleBooks := by
  rintro before after same ⟨filed, books⟩
  refine ⟨filed.congr same.toSameHoldings, ?_, ?_, ?_⟩
  · intro address token found live
    rw [circulation_congr same.toSameHoldings]
    exact books.supply ((same.token _).symm.trans found) live
  · exact fun found => books.limit ((same.token _).symm.trans found)
  · intro account token holding found
    rw [same.relationship] at found
    rw [same.token]
    exact books.known found

/-- One transaction in a frame of its own keeps the books of fungible tokens. -/
theorem fungibleBooks_framed
    (body : TransactionBody)
    (sender : Address)
    (books : world.IsFiled ∧ world.FungibleBooks) :
    (leaves (TokenAction.run body sender).framed world).IsFiled ∧
      (leaves (TokenAction.run body sender).framed world).FungibleBooks := by
  have within := isAboutEntries_fungibleBooks (.push world) books
  have opened : world.push.SupplyOffBy sender 0 :=
    SupplyOffBy.iff_fungibleBooks.mpr ⟨by simp [IsOpen, push], within⟩
  have below := TokenAction.keeps_run_sameBelow world.push body sender
  refine TokenAction.leaves_framed below isAboutEntries_fungibleBooks books ?_
  refine ((TokenAction.yields_run_supply sender body sender).at_state opened).imp
    (fun _ => id) fun _ _ after => ?_
  exact (SupplyOffBy.iff_fungibleBooks.mp after).2

/--
The supply of fungible tokens is what their holders hold together, after any transactions
each of which is carried out in a frame that is kept when it succeeds and dropped when it
fails, whatever they ask for and in whatever order.  Entries are found under their own names at
the start, since a transaction writes an entry back under the names that it carries: one that was
found elsewhere would stay there as it was.
-/
theorem carryOut_keeps_fungibleBooks
    (requests : List (TransactionBody × Address))
    (filed : world.IsFiled)
    (books : world.FungibleBooks) :
    (world.carryOut requests).FungibleBooks := by
  have kept :
      (world.carryOut requests).IsFiled ∧ (world.carryOut requests).FungibleBooks := by
    induction requests generalizing world with
    | nil =>
        exact ⟨filed, books⟩
    | cons request rest inductionHypothesis =>
        have first := fungibleBooks_framed request.1 request.2 ⟨filed, books⟩
        exact inductionHypothesis first.1 first.2
  exact kept.2

/--
Three units are minted and two of them handed on; an amount that would be taken off the
treasury's balance when read as signed is refused.
-/
theorem minting_and_paying_keeps_fungibleBooks :
    let treasury := Address.ofNum 1001
    let payee := Address.ofNum 1002
    let token : Token :=
      { address := Address.ofNum 2001, treasury, totalSupply := 5, maxSupply := 100
        hasSupplyKey := true }
    let held : Relationship :=
      { account := treasury, token := token.address, balance := 5, kycGranted := true }
    let empty : Relationship :=
      { account := payee, token := token.address, kycGranted := true }
    let contents : Snapshot.Contents :=
      { tokens := Table.ofList ([token].map fun token => (token.address, token))
        relationships :=
          Table.ofList
            ([held, empty].map fun holding => (⟨holding.account, holding.token⟩, holding)) }
    let world := (World.ofSnapshot (.ofContents contents) false ⟨0⟩ 5000).push
    let requests : List (TransactionBody × Address) :=
      [(.tokenMint ⟨token.address, 3, []⟩, treasury),
        (.tokenMint ⟨token.address, 0x8000000000000000, []⟩, treasury),
        (.cryptoTransfer (.fungible token.address treasury payee 2 false), treasury)]
    world.IsFiled ∧ world.FungibleBooks ∧
      (world.carryOut requests).FungibleBooks ∧
      (world.carryOut requests).token token.address =
        .ok (some { token with totalSupply := 8 }) ∧
      (world.carryOut requests).relationship payee token.address =
        .ok (some { empty with balance := 2 }) := by
  intro treasury payee token held empty contents world requests
  have filed : world.IsFiled :=
    (IsFiled.ofContents contents [token] [held, empty] rfl rfl false ⟨0⟩ 5000).congr
      (SameEntries.push _).toSameHoldings
  have tokens (address : Address) :
      world.token address = .ok (if address = token.address then some token else none) := by
    change Except.ok (contents.tokens.get? address) = _
    simp only [contents, List.map_cons, List.map_nil, Table.ofList, List.foldl_cons,
      List.foldl_nil, Table.get?_insert, Table.get?_empty]
  have relationships (account address : Address) :
      world.relationship account address =
        .ok
          (if (⟨account, address⟩ : Holding) = ⟨payee, token.address⟩ then some empty
          else if (⟨account, address⟩ : Holding) = ⟨treasury, token.address⟩ then some held
          else none) := by
    change Except.ok (contents.relationships.get? ⟨account, address⟩) = _
    simp only [contents, List.map_cons, List.map_nil, Table.ofList, List.foldl_cons,
      List.foldl_nil, Table.get?_insert, Table.get?_empty]
    rfl
  have books : world.FungibleBooks := by
    refine ⟨?_, ?_, ?_⟩
    · intro address found read _
      rw [tokens] at read
      split at read
      · rename_i same
        cases read
        have others (other : Address) (different : other ≠ treasury) :
            world.units other token.address = 0 := by
          rw [units_of_relationship (relationships other token.address)]
          simp only [Holding.mk.injEq, and_true, different, if_false]
          split <;> rfl
        calc
          world.circulation address = world.units treasury address := by
            refine Finset.sum_eq_single treasury (fun other _ different => ?_) (by simp)
            rw [same]
            exact others other different
          _ = 5 := by
            rw [same, units_of_relationship (relationships treasury token.address)]
            decide
      · cases read
    · intro address found read _ _
      rw [tokens] at read
      split at read
      · cases read
        decide
      · cases read
    · intro account address holding read
      have same : address = token.address := by
        rw [relationships] at read
        simp only [Holding.mk.injEq] at read
        split at read
        · rename_i key
          exact key.2
        · split at read
          · rename_i key
            exact key.2
          · cases read
      rw [tokens, if_pos same]
      simp
  refine ⟨filed, books, carryOut_keeps_fungibleBooks requests filed books, ?_, ?_⟩
  · decide +kernel
  · decide +kernel

end World

end LedgerEvm
