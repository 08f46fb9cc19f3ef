import LedgerEvm.Proofs.Clamp
import LedgerEvm.Proofs.Ledger.Tallies
import LedgerEvm.Proofs.TokenService.Effects

namespace LedgerEvm

/-!
# Token actions and the counts of accounts

A token action writes entries first and counts them afterwards, by how many it has written.
Between the two the difference is owed to the account.  The checks before the writes make
sure that so many entries come or go.
-/

namespace TokenAction

open World (TalliesOffBy SameEntries IsAboutEntries)

variable
  {world : World}
  {address : Address}
  {exempt : Address → Int64 → Prop}
  {most most' owed owed' : Tally → Int}

/-! ## Counting -/

/-- So much is to be counted for the holder, if that is the account that is looked at. -/
def due (tally : Tally) (holder address : Address) (amount : Nat) : Tally → Int := fun other =>
  if other = tally ∧ holder = address then amount else 0

@[simp] theorem due_zero
    (tally : Tally)
    (holder address : Address) :
    due tally holder address 0 = 0 := by
  funext other
  simp [due]

theorem due_of_ne
    {tally other : Tally}
    (different : other ≠ tally)
    (holder address : Address)
    (amount : Nat) :
    due tally holder address amount other = 0 :=
  if_neg fun same => different same.1

theorem due_self
    (tally : Tally)
    (address : Address)
    (amount : Nat) :
    due tally address address amount tally = amount :=
  if_pos ⟨rfl, rfl⟩

theorem nsmul_due
    (tally : Tally)
    (holder address : Address)
    (amount : Nat) :
    amount • due tally holder address 1 = due tally holder address amount := by
  funext other
  simp [due]

theorem due_elsewhere
    {holder address : Address}
    (different : holder ≠ address)
    (tally : Tally)
    (amount : Nat) :
    due tally holder address amount = 0 := by
  funext other
  exact if_neg fun same => different same.2

/-- The change leaves whether the account stands for a token, and whether it is deleted. -/
def KeepsKind (update : Account → Account) : Prop :=
  ∀ account,
    (update account).isToken = account.isToken ∧ (update account).deleted = account.deleted

/-- What is counted for an account is settled by what becomes of its counts. -/
theorem yields_adjust_tallies
    {holder : Address}
    {update : Account → Account}
    (kind : KeepsKind update)
    (books : world.TalliesOffBy address exempt most owed)
    (settles :
      holder = address →
      ∀ account : Account, ∀ tally : Tally,
        tally.Counts (most tally) (owed tally) (world.tallies address tally)
            (account.tally tally) →
          tally.Counts (most' tally) (owed' tally) (world.tallies address tally)
            ((update account).tally tally))
    (elsewhere :
      holder ≠ address → ∀ tally, most tally ≤ most' tally ∧ owed' tally = owed tally) :
    Yields (· = world) (adjust holder update)
      fun _ => TalliesOffBy address exempt most' owed' := by
  intro start same
  subst start
  unfold adjust
  cases updated : world.updateAccount holder update with
  | error error => trivial
  | ok result =>
      obtain ⟨reached, after⟩ := result
      have same := SameEntries.updateAccount updated
      refine ⟨books.toOrderlyBut.congr same, fun shows tally => ?_⟩
      rw [World.tallies_congr same]
      by_cases own : holder = address
      · subst own
        obtain ⟨former, showed, rfl⟩ := shows.of_updateAccount books.isOpen kind updated
        exact settles rfl former tally (books.counts showed tally)
      · have unchanged := World.get_updateAccount_of_ne (Ne.symm own) updated
        obtain ⟨more, settled⟩ := elsewhere own tally
        rw [settled]
        exact (books.counts (shows.congr unchanged.symm) tally).mono more

/-- What is counted of other things leaves what is owed. -/
theorem yields_adjust_alike
    (holder : Address)
    (update : Account → Account)
    (alike :
      ∀ account,
        (update account).isToken = account.isToken ∧
          (update account).deleted = account.deleted ∧ (update account).tally = account.tally) :
    Yields (TalliesOffBy address exempt most owed) (adjust holder update)
      fun _ => TalliesOffBy address exempt most owed := by
  refine Yields.of_each fun world books => ?_
  refine yields_adjust_tallies (fun account => ⟨(alike account).1, (alike account).2.1⟩) books
    (fun _ account tally counts => ?_) fun _ tally => ⟨Int.le_refl _, rfl⟩
  rw [(alike account).2.2]
  exact counts

/-- What has come is counted. -/
theorem yields_countMore
    {tally : Tally}
    {holder : Address}
    {amount : Nat}
    {update : Account → Account}
    (kind : KeepsKind update)
    (adds :
      ∀ account, (update account).tally tally = (account.tally tally + amount) % tally.capacity)
    (others :
      ∀ account other, other ≠ tally → (update account).tally other = account.tally other) :
    Yields (TalliesOffBy address exempt most (due tally holder address amount))
      (adjust holder update)
      fun _ => TalliesOffBy address exempt (most + tally.only amount) 0 := by
  refine Yields.of_each fun world books => ?_
  refine yields_adjust_tallies kind books (fun own account other counts => ?_)
    fun own other => ⟨Tally.le_add_only most tally amount other, by simp [due_elsewhere own]⟩
  subst own
  by_cases same : other = tally
  · subst same
    have counted := counts.add amount
    rw [due_self, Int.sub_self] at counted
    rw [adds, Pi.add_apply, Tally.only_self]
    exact counted
  · rw [due_of_ne same] at counts
    rw [others account other same, Pi.add_apply, Tally.only_of_ne same, add_zero]
    exact counts

/-- What has gone is counted out, if so much was there. -/
theorem yields_countLess
    {tally : Tally}
    {holder : Address}
    {amount : Nat}
    {update : Account → Account}
    (kind : KeepsKind update)
    (takes : ∀ account, amount ≤ account.tally tally →
      (update account).tally tally = account.tally tally - amount)
    (others :
      ∀ account other, other ≠ tally → (update account).tally other = account.tally other)
    (few : most tally < tally.capacity)
    (books : world.TalliesOffBy address exempt most (owed - due tally holder address amount))
    (enough : holder = address → 0 ≤ world.tallies address tally - owed tally) :
    Yields (· = world) (adjust holder update)
      fun _ => TalliesOffBy address exempt most owed := by
  refine yields_adjust_tallies kind books (fun own account other counts => ?_)
    fun own other => ⟨Int.le_refl _, by simp [due_elsewhere own]⟩
  subst own
  by_cases same : other = tally
  · subst same
    rw [Pi.sub_apply, due_self] at counts
    have enough := enough rfl
    have agrees := counts.agrees (by have := counts.atMost; omega)
    have counted := counts.take few amount (by omega)
    rw [Int.sub_add_cancel] at counted
    rw [takes account (by omega)]
    exact counted
  · rw [Pi.sub_apply, due_of_ne same] at counts
    rw [others account other same]
    simpa using counts

/-- A write that leaves accounts and entries leaves what is owed. -/
theorem yields_record_tallies
    {update : Journal → Journal}
    (sameAccounts : ∀ journal, (update journal).accounts = journal.accounts)
    (sameTokens : ∀ journal, (update journal).tokens = journal.tokens)
    (sameRelationships :
      ∀ journal, (update journal).relationships = journal.relationships)
    (sameNfts : ∀ journal, (update journal).nfts = journal.nfts) :
    Yields (TalliesOffBy address exempt most owed) (change fun world => world.record update)
      fun _ => TalliesOffBy address exempt most owed :=
  yields_change fun world books =>
    books.congr (.record world sameTokens sameRelationships sameNfts)
      (World.get_record world address sameAccounts sameTokens)

/-! ## Loops of writes -/

/-- A loop whose rounds each owe so much more, described by what holds while items are left. -/
theorem yields_forM_owed
    {β : Type}
    (each : Tally → Int)
    (left : List β → World → Prop)
    {step : β → TokenAction PUnit}
    (round :
      ∀ item rest (owed : Tally → Int),
        Yields
          (fun world =>
            world.TalliesOffBy address exempt most owed ∧ left (item :: rest) world)
          (step item)
          fun _ world =>
            world.TalliesOffBy address exempt most (owed + each) ∧ left rest world)
    (items : List β) :
    Yields (fun world => world.TalliesOffBy address exempt most owed ∧ left items world)
      (items.forM step)
      fun _ => TalliesOffBy address exempt most (owed + items.length • each) := by
  induction items generalizing owed with
  | nil =>
      rw [List.length_nil, zero_nsmul, add_zero]
      exact Ensures.pure fun _ holds => holds.1
  | cons item rest inductionHypothesis =>
      rw [List.length_cons, succ_nsmul', ← add_assoc]
      exact (round item rest owed).bind fun _ => inductionHypothesis

/-- The same of a loop that answers. -/
theorem yields_mapM_owed
    {α β : Type}
    (each : Tally → Int)
    (left : List β → World → Prop)
    {step : β → TokenAction α}
    (round :
      ∀ item rest (owed : Tally → Int),
        Yields
          (fun world =>
            world.TalliesOffBy address exempt most owed ∧ left (item :: rest) world)
          (step item)
          fun _ world =>
            world.TalliesOffBy address exempt most (owed + each) ∧ left rest world)
    (items : List β) :
    Yields (fun world => world.TalliesOffBy address exempt most owed ∧ left items world)
      (items.mapM step)
      fun _ => TalliesOffBy address exempt most (owed + items.length • each) := by
  induction items generalizing owed with
  | nil =>
      rw [List.length_nil, zero_nsmul, add_zero]
      exact Ensures.pure fun _ holds => holds.1
  | cons item rest inductionHypothesis =>
      rw [List.mapM_cons, List.length_cons, succ_nsmul', ← add_assoc]
      refine (round item rest owed).bind fun _ => ?_
      exact inductionHypothesis.bind fun _ => Ensures.pure fun _ => id

/-! ## Balances -/

/-- A balance is written where there is a relationship, so that none comes or goes. -/
theorem yields_setBalance_tallies
    {holding : Relationship}
    {balance : UInt64} :
    Yields
      (fun world =>
        world.TalliesOffBy address exempt most owed ∧
          world.hasRelationship holding.account holding.token = true)
      (setBalance holding balance)
      fun _ => TalliesOffBy address exempt most owed := by
  have written :
      Yields
        (fun world =>
          world.TalliesOffBy address exempt most owed ∧
            world.hasRelationship holding.account holding.token = true)
        (change fun world =>
          world.putRelationship holding.account holding.token (some { holding with balance }))
        fun _ => TalliesOffBy address exempt most owed := by
    refine yields_change fun world ⟨books, held⟩ => ?_
    obtain ⟨former, read⟩ := World.exists_of_hasRelationship held
    refine books.putRelationship (World.own_of_mem_some { holding with balance })
      (fun _ => books.relationships read) fun tally => ?_
    simp only [held, Option.isSome_some]
  refine written.bind fun _ => ?_
  split
  · exact yields_adjust_alike _ _ fun _ => ⟨rfl, rfl, rfl⟩
  · split
    · exact yields_adjust_alike _ _ fun _ => ⟨rfl, rfl, rfl⟩
    · exact Ensures.pure fun _ => id

/-- What is said of other entries stays beside a balance that is written. -/
theorem yields_setBalance_beside
    {holding : Relationship}
    {balance : UInt64}
    {beside : World → Prop}
    (about : IsAboutEntries beside)
    (writes :
      ∀ world, world.IsOpen → beside world →
        beside (world.putRelationship holding.account holding.token
          (some { holding with balance }))) :
    Yields
      (fun world =>
        (world.TalliesOffBy address exempt most owed ∧
            world.hasRelationship holding.account holding.token = true) ∧
          beside world)
      (setBalance holding balance)
      fun _ world => world.TalliesOffBy address exempt most owed ∧ beside world := by
  have stays :
      Yields (fun world => world.IsOpen ∧ beside world) (setBalance holding balance)
        fun _ => beside :=
    yields_setBalance about fun world ⟨isOpen, holds⟩ => writes world isOpen holds
  refine (yields_setBalance_tallies.and stays).imp ?_ fun _ _ => id
  exact fun _ ⟨⟨books, present⟩, holds⟩ => ⟨⟨books, present⟩, books.isOpen, holds⟩

/-! ## Associations -/

/-- A relationship that was not there is owed to its account once it is opened. -/
theorem talliesOffBy_opened
    {world : World}
    {holding : Relationship}
    (books : world.TalliesOffBy address exempt most owed)
    (known : world.token holding.token ≠ .ok none)
    (absent : world.hasRelationship holding.account holding.token = false) :
    (world.putRelationship holding.account holding.token (some holding)).TalliesOffBy address
      exempt most (owed + due .association holding.account address 1) := by
  refine books.putRelationship (World.own_of_mem_some holding) (fun _ => known) fun tally => ?_
  simp only [absent, Bool.false_eq_true, and_false, if_false, Option.isSome_some, and_true,
    Pi.add_apply, due]
  split <;> push_cast <;> omega

/-- The relationships are of one account with different known tokens, and none is there yet. -/
structure AreNew (account : Address) (holdings : List Relationship) (world : World) : Prop where
  nodup : (holdings.map Relationship.token).Nodup
  absent :
    ∀ holding ∈ holdings,
      holding.account = account ∧
        world.token holding.token ≠ .ok none ∧
          world.hasRelationship account holding.token = false

/-- Each relationship that is opened is owed to its account. -/
theorem yields_openRelationships
    (account : Address)
    (created : List Relationship) :
    Yields
      (fun world => world.TalliesOffBy address exempt most 0 ∧ AreNew account created world)
      (created.forM fun holding =>
        change fun world =>
          world.putRelationship holding.account holding.token (some holding))
      fun _ =>
        TalliesOffBy address exempt most (due .association account address created.length) := by
  rw [← nsmul_due, ← zero_add (created.length • _)]
  refine yields_forM_owed _ (AreNew account) (fun holding rest owed => yields_change ?_) created
  rintro world ⟨books, new⟩
  obtain ⟨rfl, known, absent⟩ := new.absent holding List.mem_cons_self
  obtain ⟨fresh, nodup⟩ := List.nodup_cons.mp new.nodup
  refine ⟨talliesOffBy_opened books known absent, nodup, fun other member => ?_⟩
  obtain ⟨own, otherKnown, otherAbsent⟩ := new.absent other (List.mem_cons_of_mem _ member)
  have different : other.token ≠ holding.token := fun same =>
    fresh (List.mem_map.mpr ⟨other, member, same⟩)
  rw [World.token_putRelationship, World.hasRelationship_congr
    (World.relationship_putRelationship_of_ne (fun same => different same.2) _)]
  exact ⟨own, otherKnown, otherAbsent⟩

/-- The relationships that were opened are counted. -/
theorem yields_associate_tallies
    (relations : TokenRelations) :
    Yields (TalliesOffBy address exempt most 0) (associate relations)
      fun _ =>
        TalliesOffBy address exempt
          (most + Tally.only .association relations.tokens.length) 0 := by
  refine Yields.of_each fun world books => ?_
  refine (reads_checkRelations relations).bind fun _ nodup => ?_
  refine (Reads.of_keeps (keeps_ensureSubject _)).bind fun _ _ => ?_
  refine (Reads.mapM_forall₂ fun token _ =>
    reads_newRelationship relations.account token).bind fun created news => ?_
  have named : relations.tokens = created.map Relationship.token := by
    have same := news.imp fun _ _ new => new.2.1.symm
    rwa [← List.forall₂_map_right_iff, List.forall₂_eq_eq_eq] at same
  have new : AreNew relations.account created world := by
    refine ⟨named ▸ nodup, fun holding member => ?_⟩
    obtain ⟨_, _, own, rfl, _, known, absent⟩ := exists_of_forall₂ news member
    exact ⟨own, known, World.hasRelationship_of_relationship absent⟩
  rw [named, List.length_map]
  refine ((yields_openRelationships relations.account created).at_state ⟨books, new⟩).bind
    fun _ => ?_
  refine yields_countMore (fun _ => ⟨rfl, rfl⟩) (fun account => ?_) fun account other => ?_
  · simp [Account.tally, Tally.capacity, UInt32.toNat_add]
  · cases other <;> simp [Account.tally]

/-- The account has relationships with different tokens. -/
structure ArePresent (account : Address) (tokens : List Address) (world : World) : Prop where
  nodup : tokens.Nodup
  present : ∀ token ∈ tokens, world.hasRelationship account token = true

/-- Each relationship that is ended is taken back from its account. -/
theorem yields_endRelationships
    (account : Address)
    (tokens : List Address) :
    Yields
      (fun world => world.TalliesOffBy address exempt most 0 ∧ ArePresent account tokens world)
      (tokens.mapM (removeRelationship account))
      fun _ =>
        TalliesOffBy address exempt most (0 - due .association account address tokens.length) := by
  rw [← nsmul_due, sub_eq_add_neg, ← neg_nsmul]
  refine yields_mapM_owed _ (ArePresent account) (fun token rest owed => ?_) tokens
  refine Yields.of_each fun world ⟨books, nodup, present⟩ => ?_
  obtain ⟨fresh, nodup⟩ := List.nodup_cons.mp nodup
  refine (reads_ask _).bind fun holding _ => ?_
  refine Yields.bind (yields_change fun after same => ?_) fun _ => Ensures.pure fun _ => id
  subst after
  refine ⟨books.putRelationship (fun _ impossible => by cases impossible)
    (fun impossible => by cases impossible) ?_, nodup, fun other member => ?_⟩
  · intro tally
    simp only [present token List.mem_cons_self, Option.isSome_none, Bool.false_eq_true,
      and_false, if_false, and_true, Pi.add_apply, Pi.neg_apply, due]
    split <;> push_cast <;> omega
  · have different : other ≠ token := fun same => fresh (same ▸ member)
    rw [World.hasRelationship_congr
      (World.relationship_putRelationship_of_ne (fun same => different same.2) _)]
    exact present other (List.mem_cons_of_mem _ member)

/-- The relationships that were ended are counted out. -/
theorem yields_dissociate_tallies
    (relations : TokenRelations)
    (few : most .association < Tally.association.capacity) :
    Yields (TalliesOffBy address exempt most 0) (dissociate relations)
      fun _ => TalliesOffBy address exempt most 0 := by
  refine Yields.of_each fun world books => ?_
  refine (reads_checkRelations relations).bind fun _ nodup => ?_
  refine (Reads.of_keeps (keeps_ensureSubject _)).bind fun _ _ => ?_
  refine (Reads.forM fun token _ =>
    reads_checkDissociation relations.account token).bind fun _ mayEnd => ?_
  have present : ArePresent relations.account relations.tokens world := by
    refine ⟨nodup, fun token member => ?_⟩
    obtain ⟨⟨_, held⟩, _⟩ := mayEnd token member
    exact World.hasRelationship_of_relationship held
  refine ((yields_endRelationships relations.account relations.tokens).at_state
    ⟨books, present⟩).bind fun _ => ?_
  refine Yields.of_each fun world books => ?_
  refine yields_countLess (fun _ => ⟨rfl, rfl⟩) (fun account enough => ?_)
    (fun account other different => ?_) few books fun _ => by simp
  · have fits := enough.trans_lt account.numAssociations.toNat_lt
    simp only [Account.tally, UInt32.toNat_subClamp, UInt32.toNat_ofNat_of_lt' fits]
  · cases other <;> simp [Account.tally] at different ⊢

/-! ## Transfers -/

/-- Currency is counted by no tally. -/
theorem yields_transferCurrency_tallies
    (legs : List AccountAmount) :
    Yields (TalliesOffBy address exempt most owed) (transferCurrency legs)
      fun _ => TalliesOffBy address exempt most owed := by
  unfold transferCurrency
  split
  · refine (Yields.of_keeps (keeps_ensure _ _)).bind fun _ => ?_
    refine (Yields.of_keeps
      (Keeps.forM fun leg _ => keeps_checkCurrencyLeg leg)).bind fun _ => ?_
    refine Yields.forM_kept (fun leg => ?_) legs
    exact yields_adjust_alike _ _ fun _ => ⟨rfl, rfl, rfl⟩
  · exact Ensures.pure fun _ => id

/-- Using up an allowance leaves what is owed. -/
theorem yields_spendAllowance_tallies
    (token spender : Address)
    (leg : AccountAmount) :
    Yields (TalliesOffBy address exempt most owed) (spendAllowance token spender leg)
      fun _ => TalliesOffBy address exempt most owed := by
  refine (Yields.of_keeps (keeps_ask _)).bind fun _ => ?_
  refine (Yields.of_keeps (keeps_ensure _ _)).bind fun _ => ?_
  refine (Yields.of_keeps (keeps_ensure _ _)).bind fun _ => ?_
  exact yields_record_tallies (fun _ => rfl) (fun _ => rfl) (fun _ => rfl) fun _ => rfl

/-- An amount moves where there is a relationship already. -/
theorem yields_applyLeg_tallies
    (token spender : Address)
    (leg : AccountAmount) :
    Yields (TalliesOffBy address exempt most owed) (applyLeg token spender leg)
      fun _ => TalliesOffBy address exempt most owed := by
  refine Yields.of_each fun world books => ?_
  refine (reads_relationship leg.account token).bind fun holding held => ?_
  refine (reads_ensure _ _).bind fun _ _ => ?_
  refine (reads_ensure _ _).bind fun _ _ => ?_
  have present := books.filed.hasRelationship held
  have about :
      IsAboutEntries fun world =>
        world.hasRelationship holding.account holding.token = true := fun _ _ same present =>
    (World.hasRelationship_congr (same.relationship _ _)).trans present
  have settled :
      Yields
        (fun world =>
          world.TalliesOffBy address exempt most owed ∧
            world.hasRelationship holding.account holding.token = true)
        (do
          let balance ← shifted holding.balance leg.amount .insufficientTokenBalance
          setBalance holding balance)
        fun _ => TalliesOffBy address exempt most owed :=
    Yields.bind (Yields.of_keeps (keeps_shifted _ _ _)) fun _ => yields_setBalance_tallies
  dsimp only
  split
  · refine Yields.bind ?_ fun _ => settled
    exact ((yields_spendAllowance_tallies _ _ _).and (yields_spendAllowance about _ _ _)).at_state
      ⟨books, present⟩
  · exact settled.at_state ⟨books, present⟩

/-- A piece that is handed over is counted out for its owner and in for the receiver. -/
theorem yields_handOver_tallies
    {token : Address}
    {leg : NftTransfer}
    {found : Nft}
    (owns : found.owner = leg.sender)
    (room : most .piece + 1 ≤ Tally.piece.capacity) :
    Yields
      (fun world =>
        world.TalliesOffBy address exempt most 0 ∧
          world.nft token leg.serial = .ok (some found))
      (do
        change fun world =>
          world.putNft token leg.serial
            (some { found with owner := leg.receiver, spender := Address.zero })
        adjust leg.sender fun account =>
          { account with ownedNfts := account.ownedNfts.subClamp 1 }
        adjust leg.receiver fun account =>
          { account with ownedNfts := account.ownedNfts + 1 })
      fun _ => TalliesOffBy address exempt (most + Tally.only .piece 1) 0 := by
  have moved :
      Yields
        (fun world =>
          world.TalliesOffBy address exempt most 0 ∧
            world.nft token leg.serial = .ok (some found))
        (change fun world =>
          world.putNft token leg.serial
            (some { found with owner := leg.receiver, spender := Address.zero }))
        fun _ world =>
          world.TalliesOffBy address exempt most
              (due .piece leg.receiver address 1 - due .piece leg.sender address 1) ∧
            world.ownerOf? token leg.serial = some leg.receiver := by
    refine yields_change fun world ⟨books, piece⟩ => ⟨?_, ?_⟩
    · refine books.putNft (books.toOrderlyBut.putNft (fun _ => books.pieces piece)
        fun _ _ known counts => books.serials piece known counts) fun tally => ?_
      simp only [World.ownerOf?_of_nft piece, Option.map_some, owns, Option.some.injEq, due,
        Pi.sub_apply, Pi.zero_apply]
      push_cast
      omega
    · exact World.ownerOf?_putNft_self books.isOpen token leg.serial _
  have given :
      Yields
        (fun world =>
          world.TalliesOffBy address exempt most
              (due .piece leg.receiver address 1 - due .piece leg.sender address 1) ∧
            world.ownerOf? token leg.serial = some leg.receiver)
        (adjust leg.sender fun account =>
          { account with ownedNfts := account.ownedNfts.subClamp 1 })
        fun _ => TalliesOffBy address exempt most (due .piece leg.receiver address 1) := by
    refine Yields.of_each fun world ⟨books, owned⟩ => ?_
    refine yields_countLess (fun _ => ⟨rfl, rfl⟩) (fun account _ => ?_)
      (fun account other different => ?_) (by omega) books fun _ => ?_
    · simp only [Account.tally, UInt64.toNat_subClamp]
      rfl
    · cases other <;> simp [Account.tally] at different ⊢
    · -- the sender may be the receiver, who owns the piece by now
      by_cases takes : leg.receiver = address
      · rw [takes] at owned ⊢
        have one := World.one_le_tallies_of_ownerOf? owned
        rw [due_self]
        omega
      · simp [due_elsewhere takes]
  refine moved.bind fun _ => given.bind fun _ => ?_
  refine yields_countMore (fun _ => ⟨rfl, rfl⟩) (fun account => ?_)
    fun account other different => ?_
  · simp [Account.tally, Tally.capacity, UInt64.toNat_add]
  · cases other <;> simp [Account.tally] at different ⊢

/-- A piece moves to who may be its owner already. -/
theorem yields_movePiece_tallies
    (token spender : Address)
    (leg : NftTransfer)
    (room : most .piece + 1 ≤ Tally.piece.capacity) :
    Yields (TalliesOffBy address exempt most 0) (movePiece token spender leg)
      fun _ => TalliesOffBy address exempt (most + Tally.only .piece 1) 0 := by
  refine Yields.of_each fun world books => ?_
  refine (reads_piece _ _).bind fun found piece => ?_
  refine (reads_ensure _ _).bind fun _ owns => ?_
  have owns : found.owner = leg.sender := by simpa using owns
  dsimp only
  refine Reads.guarded (fun _ => reads_ensure _ _) fun _ => ?_
  refine (Reads.of_keeps (keeps_ensureAccount _ _)).bind fun _ _ => ?_
  refine (reads_relationship _ _).bind fun giving held => ?_
  refine (reads_relationship _ _).bind fun taking held' => ?_
  refine (reads_ensure _ _).bind fun _ _ => ?_
  refine (reads_shifted _ _ _).bind fun givingBalance _ => ?_
  refine (reads_shifted _ _ _).bind fun takingBalance _ => ?_
  have gives :
      Yields
        (fun world =>
          (world.TalliesOffBy address exempt most 0 ∧
              world.hasRelationship giving.account giving.token = true) ∧
            world.hasRelationship taking.account taking.token = true ∧
              world.nft token leg.serial = .ok (some found))
        (setBalance giving givingBalance)
        fun _ world =>
          world.TalliesOffBy address exempt most 0 ∧
            world.hasRelationship taking.account taking.token = true ∧
              world.nft token leg.serial = .ok (some found) := by
    refine yields_setBalance_beside (fun _ _ same ⟨present, known⟩ => ⟨?_, ?_⟩)
      fun world isOpen ⟨present, known⟩ => ⟨?_, ?_⟩
    · exact (World.hasRelationship_congr (same.relationship _ _)).trans present
    · exact (same.nft _ _).trans known
    · exact World.hasRelationship_putRelationship_some isOpen present _ _ _
    · exact (World.nft_putRelationship _ _ _ _ _ _).trans known
  have takes :
      Yields
        (fun world =>
          (world.TalliesOffBy address exempt most 0 ∧
              world.hasRelationship taking.account taking.token = true) ∧
            world.nft token leg.serial = .ok (some found))
        (setBalance taking takingBalance)
        fun _ world =>
          world.TalliesOffBy address exempt most 0 ∧
            world.nft token leg.serial = .ok (some found) :=
    yields_setBalance_beside (fun _ _ same known => (same.nft _ _).trans known)
      fun _ _ known => (World.nft_putRelationship _ _ _ _ _ _).trans known
  refine (gives.at_state ⟨⟨books, books.filed.hasRelationship held⟩,
    books.filed.hasRelationship held', piece⟩).bind fun _ => ?_
  refine (takes.imp (fun _ ⟨books, present, known⟩ => ⟨⟨books, present⟩, known⟩)
    fun _ _ => id).bind fun _ => ?_
  exact yields_handOver_tallies owns room

/-- A loop whose rounds each count so many pieces more counts as many as all of them. -/
theorem yields_forM_tallies
    {β : Type}
    (cost : β → Nat)
    {step : β → TokenAction PUnit}
    {items : List β}
    (round :
      ∀ item ∈ items, ∀ most : Tally → Int,
        most .piece + cost item ≤ Tally.piece.capacity →
        Yields (TalliesOffBy address exempt most 0) (step item)
          fun _ => TalliesOffBy address exempt (most + Tally.only .piece (cost item)) 0)
    (room : most .piece + (items.map cost).sum ≤ Tally.piece.capacity) :
    Yields (TalliesOffBy address exempt most 0) (items.forM step)
      fun _ => TalliesOffBy address exempt (most + Tally.only .piece (items.map cost).sum) 0 := by
  induction items generalizing most with
  | nil =>
      refine Ensures.pure fun world books => books.mono ?_
      exact Tally.le_add_only most .piece _
  | cons item rest inductionHypothesis =>
      rw [List.map_cons, List.sum_cons] at room ⊢
      rw [Nat.cast_add] at room
      refine (round item (by simp) most (by omega)).bind fun _ => ?_
      have others := @inductionHypothesis (most + Tally.only .piece (cost item))
        (fun other member => round other (List.mem_cons_of_mem _ member)) (by
          rw [Pi.add_apply, Tally.only_self]
          omega)
      refine others.imp (fun _ => id) fun _ world books => books.mono fun tally => ?_
      simp only [Pi.add_apply, Tally.only]
      split <;> omega

/-- As many pieces are counted for receivers as there are moves of pieces. -/
theorem yields_transferToken_tallies
    (spender : Address)
    (list : TokenTransfers)
    (room : most .piece + list.nftTransfers.length ≤ Tally.piece.capacity) :
    Yields (TalliesOffBy address exempt most 0) (transferToken spender list)
      fun _ =>
        TalliesOffBy address exempt (most + Tally.only .piece list.nftTransfers.length) 0 := by
  have legs (token : Token) :
      Yields (TalliesOffBy address exempt most 0)
        (do
          list.transfers.forM (applyLeg list.token spender)
          list.nftTransfers.forM fun leg => do
            ensure token.isNonFungible .invalidTransactionBody
            movePiece list.token spender leg)
        fun _ =>
          TalliesOffBy address exempt (most + Tally.only .piece list.nftTransfers.length) 0 := by
    refine Yields.bind_kept
      (Yields.forM_kept (yields_applyLeg_tallies list.token spender) _) fun _ => ?_
    have moves :=
      @yields_forM_tallies address exempt most NftTransfer (fun _ => 1)
        (fun leg => do
          ensure token.isNonFungible .invalidTransactionBody
          movePiece list.token spender leg)
        list.nftTransfers (fun leg _ most room =>
          (Yields.of_keeps (keeps_ensure _ _)).bind fun _ =>
            yields_movePiece_tallies list.token spender leg room)
    have count : (list.nftTransfers.map fun _ => 1).sum = list.nftTransfers.length := by simp
    rw [count] at moves
    exact moves room
  refine (Yields.of_keeps (keeps_liveToken _)).bind fun token => ?_
  dsimp only
  split
  · refine (Yields.of_keeps (keeps_ensure _ _)).bind fun _ => ?_
    refine (Yields.of_keeps (keeps_ensure _ _)).bind fun _ => ?_
    exact legs token
  · exact legs token

/-! ## Approvals -/

/-- An approved piece stays with its owner. -/
theorem yields_approvePiece_tallies
    (allowance : NftAllowance)
    (serial : Int64) :
    Yields (TalliesOffBy address exempt most owed) (approvePiece allowance serial)
      fun _ => TalliesOffBy address exempt most owed := by
  refine Yields.of_each fun world books => ?_
  refine (reads_piece _ _).bind fun found piece => ?_
  refine (reads_ensure _ _).bind fun _ _ => ?_
  refine yields_change fun after same => ?_
  subst after
  refine books.putNft (books.toOrderlyBut.putNft (fun _ => books.pieces piece)
    fun _ _ known counts => books.serials piece known counts) fun tally => ?_
  simp only [World.ownerOf?_of_nft piece, Option.map_some]

theorem yields_approve_tallies
    (approval : ApproveAllowance) :
    Yields (TalliesOffBy address exempt most owed) (approve approval)
      fun _ => TalliesOffBy address exempt most owed := by
  refine Yields.bind (Yields.forM_kept (fun allowance => ?_) _) fun _ =>
    Yields.forM_kept (fun allowance => ?_) _
  · refine (Yields.of_keeps (keeps_ensureAccount _ _)).bind fun _ => ?_
    refine (Yields.of_keeps (keeps_ensureAccount _ _)).bind fun _ => ?_
    refine (Yields.of_keeps (keeps_liveToken _)).bind fun token => ?_
    refine (Yields.of_keeps (keeps_ensure _ _)).bind fun _ => ?_
    refine (Yields.of_keeps (keeps_relationship _ _)).bind fun _ => ?_
    exact yields_record_tallies (fun _ => rfl) (fun _ => rfl) (fun _ => rfl) fun _ => rfl
  · refine (Yields.of_keeps (keeps_ensureAccount _ _)).bind fun _ => ?_
    dsimp only
    have granted (token : Token) :
        Yields (TalliesOffBy address exempt most owed)
          (do
            ensure token.isNonFungible .invalidTokenId
            allowance.serials.forM (approvePiece allowance))
          fun _ => TalliesOffBy address exempt most owed := by
      refine (Yields.of_keeps (keeps_ensure _ _)).bind fun _ => ?_
      exact Yields.forM_kept (yields_approvePiece_tallies allowance) allowance.serials
    split
    · refine (Yields.of_keeps (keeps_ensureAccount _ _)).bind fun _ => ?_
      exact (Yields.of_keeps (keeps_liveToken _)).bind granted
    · exact (Yields.of_keeps (keeps_liveToken _)).bind granted

end TokenAction

end LedgerEvm
