import Mathlib.Algebra.Group.Pi.Basic
import Mathlib.Algebra.Ring.Int.Defs
import LedgerEvm.Proofs.Ledger.Evolution
import LedgerEvm.Proofs.Ledger.Payments
import LedgerEvm.Proofs.Ledger.TokenEntries

namespace LedgerEvm

/-!
# What accounts count

An account counts its associations, the tokens that it is the treasury of and the numbered
pieces that it owns.  What there is to count is found in the entries of the ledger.  How
far the counts of one account are behind its entries is followed from write to write.
-/

/-- What an account counts of the entries that name it. -/
inductive Tally where
  | association
  | title
  | piece
  deriving DecidableEq

namespace Tally

/-- The number at which a count starts over. -/
def capacity : Tally → Nat
  | .association => UInt32.size
  | .title => UInt32.size
  | .piece => UInt64.size

/-- No count starts over before 2^32. -/
theorem le_capacity
    (tally : Tally) :
    2 ^ 32 ≤ tally.capacity := by
  cases tally <;> decide

/-- So much of one count and nothing of the others. -/
def only (tally : Tally) (amount : Nat) : Tally → Int := fun other =>
  if other = tally then amount else 0

theorem only_self
    (tally : Tally)
    (amount : Nat) :
    tally.only amount tally = amount :=
  if_pos rfl

theorem only_of_ne
    {tally other : Tally}
    (different : other ≠ tally)
    (amount : Nat) :
    tally.only amount other = 0 :=
  if_neg different

theorem only_mono
    (tally : Tally)
    {amount amount' : Nat}
    (more : amount ≤ amount')
    (other : Tally) :
    tally.only amount other ≤ tally.only amount' other := by
  unfold only
  split <;> omega

theorem le_add_only
    (most : Tally → Int)
    (tally : Tally)
    (amount : Nat)
    (other : Tally) :
    most other ≤ (most + tally.only amount) other := by
  rw [Pi.add_apply]
  unfold only
  split <;> omega

/--
So many entries are there, and so many have been counted.  What is owed to the count makes
the difference, as long as the count has not started over; without it there are at most so
many entries.
-/
structure Counts (tally : Tally) (most owed : Int) (there counted : Nat) : Prop where
  atMost : (there : Int) - owed ≤ most
  agrees : (there : Int) - owed < tally.capacity → (there : Int) = counted + owed

namespace Counts

variable
  {tally : Tally}
  {most most' owed owed' : Int}
  {there there' counted : Nat}

theorem of_eq
    (within : (there : Int) ≤ most)
    (same : counted = there) :
    tally.Counts most 0 there counted :=
  ⟨by omega, fun _ => by omega⟩

/-- A count to which nothing is owed is exact while it has not started over. -/
theorem eq
    (counts : tally.Counts most 0 there counted)
    (fits : there < tally.capacity) :
    counted = there := by
  have agrees := counts.agrees
  omega

/-- What is written is owed. -/
theorem write
    (counts : tally.Counts most owed there counted)
    (exchanged : (there' : Int) - owed' = there - owed) :
    tally.Counts most owed' there' counted := by
  have atMost := counts.atMost
  have agrees := counts.agrees
  constructor <;> omega

theorem mono
    (counts : tally.Counts most owed there counted)
    (more : most ≤ most') :
    tally.Counts most' owed there counted :=
  ⟨counts.atMost.trans more, counts.agrees⟩

/-- Counting more settles what is owed; the count may start over by it. -/
theorem add
    (counts : tally.Counts most owed there counted)
    (amount : Nat) :
    tally.Counts (most + amount) (owed - amount) there ((counted + amount) % tally.capacity) := by
  have atMost := counts.atMost
  refine ⟨by omega, fun fits => ?_⟩
  have agrees := counts.agrees (by omega)
  rw [Nat.mod_eq_of_lt (by omega)]
  omega

/-- Counting less settles what is given back, if so much had been counted. -/
theorem take
    (counts : tally.Counts most owed there counted)
    (few : most < tally.capacity)
    (amount : Nat)
    (enough : (amount : Int) ≤ there - owed) :
    tally.Counts most (owed + amount) there (counted - amount) := by
  have atMost := counts.atMost
  have agrees := counts.agrees (by omega)
  constructor <;> omega

end Counts

end Tally

namespace Account

/-- What the account has counted. -/
def tally (account : Account) : Tally → Nat
  | .association => account.numAssociations.toNat
  | .title => account.numTreasuryTitles.toNat
  | .piece => account.ownedNfts.toNat

end Account

namespace World

variable {world after : World}

/-! ## What there is to count -/

/-- The account is associated with the token at an address. -/
def hasRelationship (world : World) (account token : Address) : Bool :=
  match world.relationship account token with
  | .ok entry => entry.isSome
  | .error _ => false

/-- The account is the treasury of the token at an address, deleted or not. -/
def hasTreasury (world : World) (account token : Address) : Bool :=
  match world.token token with
  | .ok entry => entry.any fun found => found.treasury == account
  | .error _ => false

/-- The entries that name an account, over all tokens. -/
noncomputable def tallies (world : World) (account : Address) : Tally → Nat
  | .association => ∑ token, if world.hasRelationship account token then 1 else 0
  | .title => ∑ token, if world.hasTreasury account token then 1 else 0
  | .piece => ∑ token, world.owned token account

theorem hasRelationship_of_relationship
    {account token : Address}
    {entry : Option Relationship}
    (found : world.relationship account token = .ok entry) :
    world.hasRelationship account token = entry.isSome := by
  simp only [hasRelationship, found]

theorem exists_of_hasRelationship
    {account token : Address}
    (held : world.hasRelationship account token = true) :
    ∃ holding, world.relationship account token = .ok (some holding) := by
  unfold hasRelationship at held
  split at held
  · rename_i entry found
    obtain ⟨holding, rfl⟩ := Option.isSome_iff_exists.mp held
    exact ⟨holding, found⟩
  · cases held

/-- A relationship that was read is there under its own names. -/
theorem IsFiled.hasRelationship
    (filed : world.IsFiled)
    {account token : Address}
    {holding : Relationship}
    (read : world.relationship account token = .ok (some holding)) :
    world.hasRelationship holding.account holding.token = true := by
  obtain ⟨own, named⟩ := filed.relationship read
  rw [own, named]
  exact hasRelationship_of_relationship read

theorem hasTreasury_of_token
    {token : Address}
    {entry : Option Token}
    (found : world.token token = .ok entry)
    (account : Address) :
    world.hasTreasury account token = entry.any fun token => token.treasury == account := by
  simp only [hasTreasury, found]

theorem hasRelationship_congr
    {account token : Address}
    (same : after.relationship account token = world.relationship account token) :
    after.hasRelationship account token = world.hasRelationship account token := by
  simp only [hasRelationship, same]

theorem hasTreasury_congr
    {token : Address}
    (same : after.token token = world.token token)
    (account : Address) :
    after.hasTreasury account token = world.hasTreasury account token := by
  simp only [hasTreasury, same]

/-- What there is to count depends on the entries about tokens only. -/
theorem tallies_congr
    (same : SameEntries world after)
    (account : Address) :
    after.tallies account = world.tallies account := by
  funext tally
  cases tally with
  | association =>
      simp only [tallies, fun token => hasRelationship_congr (same.relationship account token)]
  | title => simp only [tallies, fun token => hasTreasury_congr (same.token token) account]
  | piece => simp only [tallies, fun token => owned_congr (same.nft token) account]

/-- The pieces of one token are among those of all tokens. -/
theorem owned_le_tallies
    (world : World)
    (token account : Address) :
    world.owned token account ≤ world.tallies account .piece := by
  unfold tallies
  exact Finset.single_le_sum (f := fun token => world.owned token account)
    (fun _ _ => Nat.zero_le _) (Finset.mem_univ token)

/-- An account that owns a piece has at least one to count. -/
theorem one_le_tallies_of_ownerOf?
    {token account : Address}
    {serial : Int64}
    (owns : world.ownerOf? token serial = some account) :
    1 ≤ world.tallies account .piece := by
  have one : [serial].length ≤ world.owned token account :=
    length_le_owned (List.nodup_singleton serial) fun other member => by
      rw [List.mem_singleton.mp member]
      exact owns
  exact one.trans (owned_le_tallies world token account)

/-! ## Writing entries -/

/-- Writing a relationship exchanges whether there is one. -/
theorem tallies_putRelationship
    (isOpen : world.IsOpen)
    (account token : Address)
    (entry : Option Relationship)
    (holder : Address)
    (tally : Tally) :
    (world.putRelationship account token entry).tallies holder tally +
        (if tally = .association ∧ account = holder ∧ world.hasRelationship account token = true
          then 1 else 0) =
      world.tallies holder tally +
        (if tally = .association ∧ account = holder ∧ entry.isSome = true then 1 else 0) := by
  cases tally with
  | association =>
      by_cases own : account = holder
      · subst own
        simp only [tallies, true_and]
        rw [← hasRelationship_of_relationship
          (relationship_putRelationship_self isOpen account token entry)]
        apply sum_add_of_ne token
        intro other different
        rw [hasRelationship_congr
          (relationship_putRelationship_of_ne (fun same => different same.2) entry)]
      · have others (other : Address) :
            (world.putRelationship account token entry).hasRelationship holder other =
              world.hasRelationship holder other :=
          hasRelationship_congr
            (relationship_putRelationship_of_ne (fun same => own same.1.symm) entry)
        simp only [tallies, others, own, false_and, and_false, if_false]
  | title =>
      simp only [tallies, hasTreasury_congr (token_putRelationship world account token entry _),
        reduceCtorEq, false_and, if_false]
  | piece =>
      simp only [tallies, owned_congr (nft_putRelationship world account token entry _),
        reduceCtorEq, false_and, if_false]

/-- Where a relationship is put those that are there stay. -/
theorem hasRelationship_putRelationship_some
    (isOpen : world.IsOpen)
    {account token : Address}
    (present : world.hasRelationship account token = true)
    (account' token' : Address)
    (holding : Relationship) :
    (world.putRelationship account' token' (some holding)).hasRelationship account token =
      true := by
  by_cases same : account = account' ∧ token = token'
  · obtain ⟨rfl, rfl⟩ := same
    exact hasRelationship_of_relationship (relationship_putRelationship_self isOpen _ _ _)
  · rw [hasRelationship_congr (relationship_putRelationship_of_ne same _)]
    exact present

/-- Writing a piece exchanges its owner. -/
theorem tallies_putNft
    (isOpen : world.IsOpen)
    (token : Address)
    (serial : Int64)
    (entry : Option Nft)
    (holder : Address)
    (tally : Tally) :
    (world.putNft token serial entry).tallies holder tally +
        (if tally = .piece ∧ world.ownerOf? token serial = some holder then 1 else 0) =
      world.tallies holder tally +
        (if tally = .piece ∧ entry.map Nft.owner = some holder then 1 else 0) := by
  have same := sameHoldings_putNft world token serial entry
  cases tally with
  | association =>
      simp only [tallies, hasRelationship_congr (same.relationship _ _), reduceCtorEq, false_and,
        if_false]
  | title =>
      simp only [tallies, hasTreasury_congr (same.token _), reduceCtorEq, false_and, if_false]
  | piece =>
      have exchanged := owned_putNft isOpen token serial entry holder
      have summed :
          ∑ other, (world.putNft token serial entry).owned other holder +
              world.owned token holder =
            ∑ other, world.owned other holder +
              (world.putNft token serial entry).owned token holder :=
        sum_add_of_ne token fun other different =>
          owned_congr (fun _ => nft_putNft_of_ne (fun same => different same.1) entry) holder
      simp only [tallies, true_and]
      omega

/-- Writing a token exchanges its treasury. -/
theorem tallies_putToken
    (isOpen : world.IsOpen)
    (token : Token)
    (holder : Address)
    (tally : Tally) :
    (world.putToken token).tallies holder tally +
        (if tally = .title ∧ world.hasTreasury holder token.address = true then 1 else 0) =
      world.tallies holder tally +
        (if tally = .title ∧ token.treasury = holder then 1 else 0) := by
  cases tally with
  | association =>
      simp only [tallies, hasRelationship_congr (relationship_putToken world token _ _),
        reduceCtorEq, false_and, if_false]
  | title =>
      have written :
          (world.putToken token).hasTreasury holder token.address =
            (token.treasury == holder) :=
        hasTreasury_of_token (token_putToken_self isOpen token) holder
      have exchanged :=
        @sum_add_of_ne Address _ (fun other => if world.hasTreasury holder other then 1 else 0)
          (fun other => if (world.putToken token).hasTreasury holder other then 1 else 0)
          token.address fun other different => by
            rw [hasTreasury_congr (token_putToken_of_ne different)]
      rw [written] at exchanged
      simpa only [tallies, true_and, beq_iff_eq] using exchanged
  | piece =>
      simp only [tallies, owned_congr (nft_putToken world token _), reduceCtorEq, false_and,
        if_false]

/-! ## Accounts that are shown -/

/-- The address reaches the account, which stands for no token. -/
def Shows (world : World) (address : Address) (account : Account) : Prop :=
  world.get address = .ok (some account) ∧ account.isToken = false

namespace Shows

variable
  {address : Address}
  {account : Account}

theorem congr
    (shows : world.Shows address account)
    (same : after.get address = world.get address) :
    after.Shows address account :=
  ⟨same.trans shows.1, shows.2⟩

/-- A write that concerns neither accounts nor tokens shows no account. -/
theorem of_record
    {change : Journal → Journal}
    (shows : (world.record change).Shows address account)
    (sameAccounts : ∀ journal, (change journal).accounts = journal.accounts)
    (sameTokens : ∀ journal, (change journal).tokens = journal.tokens) :
    world.Shows address account :=
  shows.congr (get_record world address sameAccounts sameTokens).symm

/-- An account that is shown after it was changed was shown before. -/
theorem of_updateAccount
    {change : Account → Account}
    {reached : Bool}
    (isOpen : world.IsOpen)
    (alike : ∀ account,
      (change account).isToken = account.isToken ∧ (change account).deleted = account.deleted)
    (updated : world.updateAccount address change = .ok (reached, after))
    (shows : after.Shows address account) :
    ∃ former, world.Shows address former ∧ account = change former := by
  obtain ⟨isPlain, entry, _⟩ := of_get_of_not_isToken shows.1 shows.2
  rcases updateAccount_cases updated with ⟨refused, _, rfl⟩ | ⟨former, claimed, _, rfl⟩
  · rw [claim?_of_get shows.1 shows.2] at refused
    cases refused
  · obtain ⟨found, alive⟩ := accountEntry_of_claim? claimed
    rw [accountEntry_setAccount_self isOpen] at entry
    cases entry
    have isPlain : world.IsPlain address := (isPlain_setAccount _ _ _).mp isPlain
    refine ⟨former, ⟨?_, (alike former).1.symm.trans shows.2⟩, rfl⟩
    simp [get_of_isPlain isPlain, found, Except.map, Option.filter, alive]

/-- A token shows no account that was not shown before. -/
theorem of_putToken
    {token : Token}
    (isOpen : world.IsOpen)
    (shows : (world.putToken token).Shows address account) :
    world.Shows address account := by
  by_cases elsewhere : world.redirectsTokenCalls = true → address ≠ token.address
  · exact shows.congr (get_putToken elsewhere).symm
  · obtain ⟨redirects, rfl⟩ := by simpa using elsewhere
    obtain ⟨found, noToken⟩ := shows
    rw [get_putToken_self isOpen redirects] at found
    cases found
    cases noToken

end Shows

/-! ## Entries in order -/

/--
Tokens and relationships are found under their own names, relationships and pieces name
addresses of tokens, and no serial number is beyond the last one that its token has used,
with exceptions.
-/
structure OrderlyBut (exempt : Address → Int64 → Prop) (world : World) : Prop where
  isOpen : world.IsOpen
  filed : world.IsFiled
  relationships :
    ∀ {account token : Address} {holding : Relationship},
      world.relationship account token = .ok (some holding) → world.token token ≠ .ok none
  pieces :
    ∀ {token : Address} {serial : Int64} {piece : Nft},
      world.nft token serial = .ok (some piece) → world.token token ≠ .ok none
  serials :
    ∀ {address : Address} {serial : Int64} {piece : Nft} {token : Token},
      world.nft address serial = .ok (some piece) →
      world.token address = .ok (some token) →
      ¬ exempt address serial → serial ≤ token.lastUsedSerial

/-- No serial number is excepted. -/
def NoSerial (_address : Address) (_serial : Int64) : Prop :=
  False

namespace OrderlyBut

variable
  {exempt exempt' : Address → Int64 → Prop}
  (orderly : world.OrderlyBut exempt)
include orderly

theorem congr
    (same : SameEntries world after) :
    after.OrderlyBut exempt where
  isOpen := same.isOpen orderly.isOpen
  filed := orderly.filed.congr same.toSameHoldings
  relationships read := by
    rw [same.relationship] at read
    rw [same.token]
    exact orderly.relationships read
  pieces read := by
    rw [same.nft] at read
    rw [same.token]
    exact orderly.pieces read
  serials read found := by
    rw [same.nft] at read
    rw [same.token] at found
    exact orderly.serials read found

/-- More may be excepted. -/
theorem imp
    (more : ∀ address serial, exempt address serial → exempt' address serial) :
    world.OrderlyBut exempt' :=
  { orderly with
    serials := fun read found counts =>
      orderly.serials read found fun holds => counts (more _ _ holds) }

/-- A relationship is put with an address of a token. -/
theorem putRelationship
    {account token : Address}
    {entry : Option Relationship}
    (own : ∀ holding ∈ entry, holding.account = account ∧ holding.token = token)
    (known : entry.isSome → world.token token ≠ .ok none) :
    (world.putRelationship account token entry).OrderlyBut exempt where
  isOpen := orderly.isOpen.record _
  filed := orderly.filed.putRelationship orderly.isOpen own
  relationships {account' token' holding} read := by
    rw [token_putRelationship]
    by_cases same : account' = account ∧ token' = token
    · obtain ⟨rfl, rfl⟩ := same
      rw [relationship_putRelationship_self orderly.isOpen] at read
      exact known (Option.isSome_iff_exists.mpr ⟨holding, Except.ok.inj read⟩)
    · rw [relationship_putRelationship_of_ne same] at read
      exact orderly.relationships read
  pieces read := by
    rw [nft_putRelationship] at read
    rw [token_putRelationship]
    exact orderly.pieces read
  serials read found := by
    rw [nft_putRelationship] at read
    rw [token_putRelationship] at found
    exact orderly.serials read found

/-- A piece is put at an address of a token, under a serial number that has been used. -/
theorem putNft
    {address : Address}
    {serial : Int64}
    {entry : Option Nft}
    (known : entry.isSome → world.token address ≠ .ok none)
    (used :
      entry.isSome →
      ∀ {token : Token}, world.token address = .ok (some token) →
        ¬ exempt address serial → serial ≤ token.lastUsedSerial) :
    (world.putNft address serial entry).OrderlyBut exempt where
  isOpen := orderly.isOpen.record _
  filed := orderly.filed.congr (sameHoldings_putNft world address serial entry)
  relationships read := by
    rw [(sameHoldings_putNft world address serial entry).relationship] at read
    rw [(sameHoldings_putNft world address serial entry).token]
    exact orderly.relationships read
  pieces {address' serial' piece} read := by
    rw [(sameHoldings_putNft world address serial entry).token]
    by_cases same : address' = address ∧ serial' = serial
    · obtain ⟨rfl, rfl⟩ := same
      rw [nft_putNft_self orderly.isOpen] at read
      exact known (Option.isSome_iff_exists.mpr ⟨piece, Except.ok.inj read⟩)
    · rw [nft_putNft_of_ne same] at read
      exact orderly.pieces read
  serials {address' serial' piece token} read found := by
    rw [(sameHoldings_putNft world address serial entry).token] at found
    by_cases same : address' = address ∧ serial' = serial
    · obtain ⟨rfl, rfl⟩ := same
      rw [nft_putNft_self orderly.isOpen] at read
      exact used (Option.isSome_iff_exists.mpr ⟨piece, Except.ok.inj read⟩) found
    · rw [nft_putNft_of_ne same] at read
      exact orderly.serials read found

/-- A token is put that has used the serial numbers of its pieces. -/
theorem putToken
    {token : Token}
    (used :
      ∀ {serial : Int64} {piece : Nft},
        world.nft token.address serial = .ok (some piece) →
        ¬ exempt' token.address serial → serial ≤ token.lastUsedSerial)
    (others :
      ∀ {address : Address}, address ≠ token.address →
        ∀ serial, exempt address serial → exempt' address serial) :
    (world.putToken token).OrderlyBut exempt' where
  isOpen := orderly.isOpen.record _
  filed := orderly.filed.putToken orderly.isOpen token
  relationships {account address holding} read := by
    rw [relationship_putToken] at read
    by_cases same : address = token.address
    · subst same
      rw [token_putToken_self orderly.isOpen]
      simp
    · rw [token_putToken_of_ne same]
      exact orderly.relationships read
  pieces {address serial piece} read := by
    rw [nft_putToken] at read
    by_cases same : address = token.address
    · subst same
      rw [token_putToken_self orderly.isOpen]
      simp
    · rw [token_putToken_of_ne same]
      exact orderly.pieces read
  serials {address serial piece other} read found := by
    rw [nft_putToken] at read
    by_cases same : address = token.address
    · subst same
      rw [token_putToken_self orderly.isOpen] at found
      cases found
      exact used read
    · rw [token_putToken_of_ne same] at found
      exact fun counts =>
        orderly.serials read found fun holds => counts (others same serial holds)

/-- Where there is no token there are no relationships. -/
theorem hasRelationship_eq_false
    {token : Address}
    (unknown : world.token token = .ok none)
    (account : Address) :
    world.hasRelationship account token = false := by
  rw [Bool.eq_false_iff]
  intro held
  obtain ⟨holding, read⟩ := exists_of_hasRelationship held
  exact orderly.relationships read unknown

/-- A serial number beyond the last one used is that of no piece. -/
theorem ownerOf?_eq_none_of_lt
    {address : Address}
    {token : Token}
    {serial : Int64}
    (found : world.token address = .ok (some token))
    (unused : token.lastUsedSerial < serial)
    (counts : ¬ exempt address serial) :
    world.ownerOf? address serial = none := by
  unfold ownerOf?
  cases read : world.nft address serial with
  | error error => rfl
  | ok entry =>
      cases entry with
      | none => rfl
      | some piece =>
          have used := Int64.le_iff_toInt_le.mp (orderly.serials read found counts)
          have unused := Int64.lt_iff_toInt_lt.mp unused
          omega

end OrderlyBut

/-! ## Counts on their way -/

/--
The entries are in order, with exceptions, and the account under an address, if it is shown,
has counted those that name it, except for what is owed to its counts.
-/
structure TalliesOffBy
    (address : Address)
    (exempt : Address → Int64 → Prop)
    (most owed : Tally → Int)
    (world : World) : Prop extends OrderlyBut exempt world where
  counts :
    ∀ {account : Account},
      world.Shows address account →
      ∀ tally : Tally,
        tally.Counts (most tally) (owed tally) (world.tallies address tally)
          (account.tally tally)

namespace TalliesOffBy

variable
  {address : Address}
  {exempt exempt' : Address → Int64 → Prop}
  {most most' owed owed' : Tally → Int}
  (books : world.TalliesOffBy address exempt most owed)
include books

theorem congr
    (same : SameEntries world after)
    (reached : after.get address = world.get address) :
    after.TalliesOffBy address exempt most owed where
  toOrderlyBut := books.toOrderlyBut.congr same
  counts shows tally := by
    rw [tallies_congr same]
    exact books.counts (shows.congr reached.symm) tally

theorem of_view
    (isOpen : after.IsOpen)
    (same : after.view = world.view) :
    after.TalliesOffBy address exempt most owed :=
  books.congr (.of_view (fun _ => isOpen) same) (congrFun (congrArg LedgerView.get same) address)

omit books in
/-- What is owed is among the answers of a world. -/
theorem isAboutAnswers
    (address : Address)
    (exempt : Address → Int64 → Prop)
    (most owed : Tally → Int) :
    IsAboutAnswers (TalliesOffBy address exempt most owed) where
  isOpen books := books.isOpen
  congr isOpen _ same books := books.of_view isOpen same

/-- There may be more to count. -/
theorem mono
    (more : ∀ tally, most tally ≤ most' tally) :
    world.TalliesOffBy address exempt most' owed :=
  ⟨books.toOrderlyBut, fun shows tally => (books.counts shows tally).mono (more tally)⟩

/-- What is written is owed to the account. -/
theorem write
    (orderly : after.OrderlyBut exempt')
    (shown : ∀ {account : Account}, after.Shows address account → world.Shows address account)
    (exchanged :
      ∀ tally,
        (after.tallies address tally : Int) - owed' tally =
          world.tallies address tally - owed tally) :
    after.TalliesOffBy address exempt' most owed' :=
  ⟨orderly, fun shows tally => (books.counts (shown shows) tally).write (exchanged tally)⟩

/-- Writing a relationship owes it to its account. -/
theorem putRelationship
    {account token : Address}
    {entry : Option Relationship}
    (own : ∀ holding ∈ entry, holding.account = account ∧ holding.token = token)
    (known : entry.isSome → world.token token ≠ .ok none)
    (exchanged :
      ∀ tally,
        owed' tally +
            (if tally = .association ∧ account = address ∧
              world.hasRelationship account token = true then 1 else 0 : Nat) =
          owed tally +
            (if tally = .association ∧ account = address ∧ entry.isSome = true then 1
              else 0 : Nat)) :
    (world.putRelationship account token entry).TalliesOffBy address exempt most owed' := by
  refine books.write (books.toOrderlyBut.putRelationship own known)
    (fun shows => shows.of_record (fun _ => rfl) fun _ => rfl)
    fun tally => ?_
  have written := tallies_putRelationship books.isOpen account token entry address tally
  have exchanged := exchanged tally
  by_cases same : account = address
  · subst same
    omega
  · simp only [same, false_and, and_false, if_false] at written exchanged
    omega

/-- Writing a piece takes it from its old owner and owes it to its new one. -/
theorem putNft
    {token : Address}
    {serial : Int64}
    {entry : Option Nft}
    (orderly : (world.putNft token serial entry).OrderlyBut exempt')
    (exchanged :
      ∀ tally,
        owed' tally +
            (if tally = .piece ∧ world.ownerOf? token serial = some address then 1
              else 0 : Nat) =
          owed tally +
            (if tally = .piece ∧ entry.map Nft.owner = some address then 1 else 0 : Nat)) :
    (world.putNft token serial entry).TalliesOffBy address exempt' most owed' := by
  refine books.write orderly
    (fun shows => shows.of_record (fun _ => rfl) fun _ => rfl)
    fun tally => ?_
  have written := tallies_putNft books.isOpen token serial entry address tally
  have exchanged := exchanged tally
  omega

/-- Writing a token owes it to its treasury. -/
theorem putToken
    {token : Token}
    (orderly : (world.putToken token).OrderlyBut exempt')
    (exchanged :
      ∀ tally,
        owed' tally +
            (if tally = .title ∧ world.hasTreasury address token.address = true then 1
              else 0 : Nat) =
          owed tally + (if tally = .title ∧ token.treasury = address then 1 else 0 : Nat)) :
    (world.putToken token).TalliesOffBy address exempt' most owed' := by
  refine books.write orderly (fun shows => shows.of_putToken books.isOpen) fun tally => ?_
  have written := tallies_putToken books.isOpen token address tally
  have exchanged := exchanged tally
  omega

/-- A token that keeps its treasury is owed to nobody. -/
theorem putSupply
    {other : Address}
    {token : Token}
    {lastUsedSerial : Int64}
    (found : world.token other = .ok (some token))
    (totalSupply : UInt64)
    (used :
      ∀ (serial : Int64) {piece : Nft},
        world.nft other serial = .ok (some piece) →
        ¬ exempt' other serial → serial ≤ lastUsedSerial)
    (others :
      ∀ {address : Address}, address ≠ other →
        ∀ serial, exempt address serial → exempt' address serial) :
    (world.putToken { token with totalSupply, lastUsedSerial }).TalliesOffBy address exempt'
      most owed := by
  obtain rfl : token.address = other := books.filed.token found
  refine books.putToken (books.toOrderlyBut.putToken (used _) others) fun tally => ?_
  simp only [hasTreasury_of_token found, Option.any_some, beq_iff_eq]

end TalliesOffBy

/-! ## Exact counts -/

/--
Every account that is shown has counted the entries that name it, relationships and pieces
name addresses of tokens, and no serial number is beyond the last one that its token has
used.
-/
structure AccountBooks (world : World) : Prop where
  counted :
    ∀ {address : Address} {account : Account},
      world.Shows address account →
      ∀ tally, account.tally tally = world.tallies address tally
  relationships :
    ∀ {account token : Address} {holding : Relationship},
      world.relationship account token = .ok (some holding) → world.token token ≠ .ok none
  pieces :
    ∀ {token : Address} {serial : Int64} {piece : Nft},
      world.nft token serial = .ok (some piece) → world.token token ≠ .ok none
  serials :
    ∀ {address : Address} {serial : Int64} {piece : Nft} {token : Token},
      world.nft address serial = .ok (some piece) →
      world.token address = .ok (some token) →
      serial ≤ token.lastUsedSerial

/-- Every account that is shown has fewer entries to count. -/
def CountsBelow (bound : Nat) (world : World) : Prop :=
  ∀ ⦃address : Address⦄ ⦃account : Account⦄,
    world.Shows address account → ∀ tally, world.tallies address tally < bound

theorem CountsBelow.mono
    {bound bound' : Nat}
    (small : world.CountsBelow bound)
    (more : bound ≤ bound') :
    world.CountsBelow bound' :=
  fun _ _ shows tally => (small shows tally).trans_le more

namespace AccountBooks

theorem congr
    (books : world.AccountBooks)
    (same : SameEntries world after)
    (reached : after.get = world.get) :
    after.AccountBooks where
  counted {address _} shows tally := by
    rw [tallies_congr same]
    exact books.counted (shows.congr (congrFun reached address).symm) tally
  relationships read := by
    rw [same.relationship] at read
    rw [same.token]
    exact books.relationships read
  pieces read := by
    rw [same.nft] at read
    rw [same.token]
    exact books.pieces read
  serials read found := by
    rw [same.nft] at read
    rw [same.token] at found
    exact books.serials read found

/-- Nothing is owed to an account while the books are exact. -/
theorem talliesOffBy
    (books : world.AccountBooks)
    (isOpen : world.IsOpen)
    (filed : world.IsFiled)
    {address : Address}
    {most : Tally → Int}
    (few :
      ∀ {account : Account},
        world.Shows address account → ∀ tally, (world.tallies address tally : Int) ≤ most tally) :
    world.TalliesOffBy address NoSerial most 0 where
  isOpen := isOpen
  filed := filed
  relationships := books.relationships
  pieces := books.pieces
  serials read found _ := books.serials read found
  counts shows tally := .of_eq (few shows tally) (books.counted shows tally)

/-- The books are exact if nothing is owed to any account and no count has started over. -/
theorem of_talliesOffBy
    {most : Tally → Int}
    (books : ∀ address, world.TalliesOffBy address NoSerial most 0)
    (small : world.CountsBelow (2 ^ 32)) :
    world.AccountBooks where
  counted {address _} shows tally := by
    have fits := (small shows tally).trans_le tally.le_capacity
    exact ((books address).counts shows tally).eq fits
  relationships := (books Address.zero).relationships
  pieces := (books Address.zero).pieces
  serials read found := (books Address.zero).serials read found id

end AccountBooks

end World

end LedgerEvm
