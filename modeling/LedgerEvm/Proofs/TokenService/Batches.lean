import LedgerEvm.Proofs.Clamp
import LedgerEvm.Proofs.TokenService.Questions

namespace LedgerEvm

/-!
# Batches of associations

A list of tokens is checked against one world and written at once, with one count for all
of them.  Taken one after the other the tokens are checked each against what those before
it have left, and counted one by one.  What has to be found at a token concerns this token
alone, and what is written there is not found again, so that both ways accept the same
lists and end in the same entries.
-/

/-- What an account that joins or leaves a token finds there. -/
structure Membership where
  address : Address
  token : Token
  found : Option Relationship

/--
How memberships change: which may, what is written for each, and how the account counts
them.  Where an entry has been written it may not be written again.
-/
structure MembershipRule where
  Allows : Address → Membership → Prop
  entry : Address → Membership → Option Relationship
  count : List Membership → Account → Account
  not_again :
    ∀ (account : Address) (membership : Membership),
      ¬ Allows account { membership with found := entry account membership }
  isCounting : ∀ memberships, Account.IsCounting (count memberships)

namespace MembershipRule

/-- The relationship of a new member. -/
def newcomer (account : Address) (membership : Membership) : Relationship where
  account := account
  token := membership.address
  frozen := membership.token.freezeDefault
  kycGranted := true

/-- An account becomes a member of a token that is not deleted. -/
def joining : MembershipRule where
  Allows _ membership := membership.token.deleted = false ∧ membership.found = none
  entry account membership := some (newcomer account membership)
  count memberships account :=
    { account with
      numAssociations := account.numAssociations + UInt32.ofNat memberships.length }
  not_again _ _ := nofun
  isCounting _ account :=
    ⟨_, account.numPositiveBalances, account.numTreasuryTitles, account.ownedNfts, rfl⟩

/-- Whether a member holds something. -/
def holds (membership : Membership) : Bool :=
  membership.found.any fun relationship => relationship.balance > 0

/-- A member leaves a token that is deleted, or of which it holds nothing and is not treasury. -/
def leaving : MembershipRule where
  Allows account membership :=
    ∃ relationship,
      membership.found = some relationship ∧
        (membership.token.deleted = false →
          membership.token.treasury ≠ account ∧ relationship.balance = 0)
  entry _ _ := none
  count memberships account :=
    { account with
      numAssociations :=
        account.numAssociations.subClamp (UInt32.ofNat memberships.length)
      numPositiveBalances :=
        account.numPositiveBalances.subClamp (UInt32.ofNat ((memberships.map holds).count true)) }
  not_again _ _ := nofun
  isCounting _ account :=
    ⟨_, _, account.numTreasuryTitles, account.ownedNfts, rfl⟩

/-- The memberships counted one after the other. -/
def countEach (rule : MembershipRule) (memberships : List Membership) (account : Account) :
    Account :=
  memberships.foldl (fun counted membership => rule.count [membership] counted) account

theorem isToken_count
    (rule : MembershipRule)
    (memberships : List Membership)
    (account : Account) :
    (rule.count memberships account).isToken = account.isToken := by
  obtain ⟨_, _, _, _, same⟩ := rule.isCounting memberships account
  rw [same]
  rfl

theorem deleted_count
    (rule : MembershipRule)
    (memberships : List Membership)
    (account : Account) :
    (rule.count memberships account).deleted = account.deleted := by
  obtain ⟨_, _, _, _, same⟩ := rule.isCounting memberships account
  rw [same]

/-- Sums of counts start over together. -/
theorem countEach_joining
    (memberships : List Membership)
    (account : Account) :
    joining.countEach memberships account = joining.count memberships account := by
  induction memberships generalizing account with
  | nil => simp [countEach, joining]
  | cons membership rest inductionHypothesis =>
      refine (inductionHypothesis _).trans ?_
      simp [joining, UInt32.ofNat_add, UInt32.add_assoc, UInt32.add_comm]

/-- Two deductions that stop at zero are one of the sum. -/
theorem subClamp_subClamp
    (whole : UInt32)
    {first second : Nat}
    (inRange : first + second < 2 ^ 32) :
    (whole.subClamp (UInt32.ofNat first)).subClamp (UInt32.ofNat second) =
      whole.subClamp (UInt32.ofNat (first + second)) := by
  apply UInt32.toNat_inj.mp
  have exactly {count : Nat} (small : count < 2 ^ 32) : (UInt32.ofNat count).toNat = count :=
    UInt32.toNat_ofNat_of_lt' small
  rw [UInt32.toNat_subClamp, UInt32.toNat_subClamp, UInt32.toNat_subClamp, exactly inRange,
    exactly (by omega), exactly (by omega)]
  omega

/-- A list whose length a counter has room for is deducted as its members are. -/
theorem countEach_leaving
    {memberships : List Membership}
    (account : Account)
    (inRange : memberships.length < 2 ^ 32) :
    leaving.countEach memberships account = leaving.count memberships account := by
  induction memberships generalizing account with
  | nil =>
      simp [countEach, leaving, UInt32.subClamp]
  | cons membership rest inductionHypothesis =>
      rw [List.length_cons] at inRange
      refine (inductionHypothesis _ (by omega)).trans ?_
      have positive := List.count_le_length (a := true) (l := rest.map holds)
      rw [List.length_map] at positive
      have one := List.count_le_length (a := true) (l := [holds membership])
      rw [List.length_singleton] at one
      have together :
          (holds membership :: rest.map holds).count true =
            [holds membership].count true + (rest.map holds).count true := by
        rw [← List.count_append]
        rfl
      simp only [leaving, List.map_cons, List.map_nil, List.length_singleton]
      rw [subClamp_subClamp _ (by omega), subClamp_subClamp _ (by omega), Nat.add_comm 1,
        List.length_cons, together]

end MembershipRule

/-! ## Memberships in a world -/

namespace World

open MembershipRule

variable
  {world : World}
  {rule : MembershipRule}
  {account address : Address}
  {subject : Account}
  {membership : Membership}

/-- At the address of a token a membership is found that the rule allows to change. -/
structure Offers
    (world : World)
    (rule : MembershipRule)
    (account address : Address)
    (membership : Membership) :
    Prop where
  address_eq : membership.address = address
  token : world.token address = .ok (some membership.token)
  found : world.relationship account address = .ok membership.found
  allows : rule.Allows account membership

/-- Write the entries of memberships. -/
def enter
    (world : World)
    (rule : MembershipRule)
    (account : Address)
    (memberships : List Membership) :
    World :=
  memberships.foldl
    (fun written membership =>
      written.putRelationship account membership.address (rule.entry account membership))
    world

/-- At an address one membership is found. -/
theorem Offers.unique :
    Relator.RightUnique (world.Offers rule account) := by
  rintro address ⟨_, token, found⟩ ⟨_, token', found'⟩ one other
  cases one.address_eq.trans other.address_eq.symm
  cases one.token.symm.trans other.token
  cases one.found.symm.trans other.found
  rfl

/-- What is offered depends on the token and the relationship alone. -/
theorem offers_congr
    {other : World}
    (sameToken : other.token address = world.token address)
    (sameEntry : other.relationship account address = world.relationship account address) :
    other.Offers rule account address membership ↔
      world.Offers rule account address membership := by
  constructor
  · exact fun ⟨own, token, found, allows⟩ => ⟨own, sameToken ▸ token, sameEntry ▸ found, allows⟩
  · exact fun ⟨own, token, found, allows⟩ =>
      ⟨own, sameToken.trans token, sameEntry.trans found, allows⟩

theorem offers_setAccount :
    (world.setAccount account subject).Offers rule account = world.Offers rule account := by
  funext address membership
  exact propext (offers_congr (token_setAccount account address subject)
    (relationship_record world account address fun _ => rfl))

/-- What has been written for a membership is not offered again. -/
theorem not_offers_again
    (isOpen : world.IsOpen)
    (offers : world.Offers rule account address membership)
    (next : Membership) :
    ¬ (world.enter rule account [membership]).Offers rule account address next := by
  intro again
  obtain ⟨place, token, found⟩ := membership
  obtain ⟨_, token', found'⟩ := next
  cases offers.address_eq
  cases again.address_eq
  cases again.found.symm.trans (relationship_putRelationship_self isOpen account place _)
  cases again.token.symm.trans ((token_putRelationship world account place _ _).trans offers.token)
  exact rule.not_again account ⟨place, token, found⟩ again.allows

/-- After an entry has been written the others are offered as before, and this one not again. -/
theorem offers_enter_iff
    (isOpen : world.IsOpen)
    (offers : world.Offers rule account address membership)
    {other : Address}
    {next : Membership} :
    (world.enter rule account [membership]).Offers rule account other next ↔
      other ≠ address ∧ world.Offers rule account other next := by
  by_cases same : other = address
  · subst same
    exact iff_of_false (not_offers_again isOpen offers next) fun holds => holds.1 rfl
  · have apart : ¬ (account = account ∧ other = membership.address) :=
      fun ⟨_, again⟩ => same (again.trans offers.address_eq)
    refine (offers_congr (token_putRelationship world account membership.address _ other)
      (relationship_putRelationship_of_ne apart _)).trans ?_
    exact (and_iff_right same).symm

/-- Other tokens are found as before, and this one is not found again. -/
theorem forall₂_offers_enter_iff
    (isOpen : world.IsOpen)
    (offers : world.Offers rule account address membership)
    {tokens : List Address}
    {memberships : List Membership} :
    List.Forall₂ ((world.enter rule account [membership]).Offers rule account) tokens
        memberships ↔
      address ∉ tokens ∧ List.Forall₂ (world.Offers rule account) tokens memberships := by
  have each :
      (world.enter rule account [membership]).Offers rule account =
        fun other next => other ≠ address ∧ world.Offers rule account other next := by
    funext other next
    exact propext (offers_enter_iff isOpen offers)
  rw [each, List.forall₂_and_left]
  refine and_congr_left fun _ => ?_
  exact ⟨fun apart member => apart address member rfl,
    fun absent _ member same => absent (same ▸ member)⟩

theorem isOpen_enter
    (isOpen : world.IsOpen)
    (memberships : List Membership) :
    (world.enter rule account memberships).IsOpen := by
  induction memberships generalizing world with
  | nil => exact isOpen
  | cons membership rest inductionHypothesis => exact inductionHypothesis (isOpen.record _)

theorem hasSubject_enter
    {holder : Address}
    (memberships : List Membership) :
    (world.enter rule account memberships).HasSubject holder subject ↔
      world.HasSubject holder subject := by
  induction memberships generalizing world with
  | nil => exact Iff.rfl
  | cons membership rest inductionHypothesis =>
      have same :
          (world.putRelationship account membership.address (rule.entry account membership)).get
              holder =
            world.get holder :=
        get_record world holder (fun _ => rfl) fun _ => rfl
      exact inductionHypothesis.trans (by rw [HasSubject, same, HasSubject])

/-- Entries of memberships and of accounts may be written in either order. -/
theorem enter_setAccount
    (memberships : List Membership) :
    (world.setAccount account subject).enter rule account memberships =
      (world.enter rule account memberships).setAccount account subject := by
  induction memberships generalizing world with
  | nil => rfl
  | cons membership rest inductionHypothesis =>
      refine Eq.trans ?_ inductionHypothesis
      refine congrArg (enter · rule account rest) ?_
      simp only [putRelationship, setAccount, record_record]
      rfl

theorem HasSubject.count
    (isOpen : world.IsOpen)
    (has : world.HasSubject account subject)
    (memberships : List Membership) :
    (world.setAccount account (rule.count memberships subject)).HasSubject account
      (rule.count memberships subject) := by
  refine has.setAccount isOpen ?_ ((rule.isToken_count _ _).trans has.2)
  exact (rule.deleted_count _ _).trans (of_get_of_not_isToken has.1 has.2).2.2

end World

/-! ## What is checked of a list -/

namespace TokenAction

open MembershipRule

variable
  {α : Type}
  {world after : World}

theorem answers_checkRelations
    (relations : TokenRelations) :
    Answers world (checkRelations relations) fun _ =>
      relations.account.isZero = false ∧ relations.tokens ≠ [] ∧ relations.tokens.Nodup := by
  refine ((Answers.ensure _ _).bind fun _ _ => (Answers.ensure _ _).bind fun _ _ =>
    Answers.ensure _ _).congr fun _ => ?_
  simp

theorem answers_newRelationship
    (account address : Address) :
    Answers world (newRelationship account address) fun answer =>
      ∃ membership, world.Offers joining account address membership ∧
        answer = newcomer account membership := by
  refine ((answers_knownToken address).bind fun token _ =>
    (Answers.ensure _ _).bind fun _ _ => (Answers.ask _).bind fun present _ =>
      (Answers.ensure _ _).bind fun _ _ => Answers.pure _).congr fun answer => ?_
  constructor
  · rintro ⟨token, known, _, alive, present, found, _, vacant, rfl⟩
    cases present with
    | some _ => cases vacant
    | none =>
        exact ⟨⟨address, token, none⟩, ⟨rfl, known, found, by simpa using alive, rfl⟩, rfl⟩
  · rintro ⟨⟨_, token, present⟩, ⟨rfl, known, found, alive, vacant⟩, rfl⟩
    cases vacant
    exact ⟨token, known, (), by simpa using alive, none, found, (), rfl, rfl⟩

theorem answers_checkDissociation
    (account address : Address) :
    Answers world (checkDissociation account address) fun _ =>
      ∃ membership, world.Offers leaving account address membership := by
  have checks (token : Token) (holding : Relationship) :
      Answers world
        (if (!token.deleted) = true then
          (ensure (token.treasury != account) .accountIsTreasury >>= fun _ =>
            ensure (holding.balance == 0) .transactionRequiresZeroTokenBalances)
        else
          pure ())
        fun _ => token.deleted = false → token.treasury ≠ account ∧ holding.balance = 0 := by
    split
    · rename_i alive
      refine ((Answers.ensure _ _).bind fun _ _ => Answers.ensure _ _).congr fun _ => ?_
      simp_all
    · rename_i gone
      exact (Answers.pure ()).congr fun _ => by simp_all
  refine ((answers_knownToken address).bind fun token _ =>
    (answers_relationship account address).bind fun holding _ =>
      checks token holding).congr fun answer => ?_
  constructor
  · rintro ⟨token, known, holding, found, settled⟩
    exact ⟨⟨address, token, some holding⟩, rfl, known, found, holding, rfl, settled⟩
  · rintro ⟨⟨_, token, _⟩, rfl, known, found, holding, rfl, settled⟩
    exact ⟨token, known, holding, found, settled⟩

/-! ## What is written for a list -/

section

variable
  {rule : MembershipRule}
  {account address : Address}
  {subject : Account}
  {tokens : List Address}
  {memberships : List Membership}

theorem forM_enter
    (memberships : List Membership) :
    ((memberships.map (newcomer account)).forM fun holding =>
        change fun world => world.putRelationship holding.account holding.token (some holding))
        world =
      .ok () (world.enter joining account memberships) := by
  induction memberships generalizing world with
  | nil => rfl
  | cons membership rest inductionHypothesis => exact inductionHypothesis

theorem removeRelationship_of_offers
    {membership : Membership}
    (offers : world.Offers leaving account address membership) :
    removeRelationship account address world =
      .ok (holds membership) (world.enter leaving account [membership]) := by
  obtain ⟨rfl, _, found, _⟩ := offers
  have asked :
      ask (fun world => world.relationship account membership.address) world =
        .ok membership.found world :=
    (Answers.ask _ _ _).mpr ⟨rfl, found⟩
  exact bind_eq_of_ok asked

/-- Every relationship is still there when its turn comes, since no token comes twice. -/
theorem mapM_removeRelationship
    (isOpen : world.IsOpen)
    (offered : List.Forall₂ (world.Offers leaving account) tokens memberships)
    (distinct : tokens.Nodup) :
    tokens.mapM (removeRelationship account) world =
      .ok (memberships.map holds) (world.enter leaving account memberships) := by
  induction tokens generalizing world memberships with
  | nil =>
      cases offered
      rfl
  | cons token rest inductionHypothesis =>
      obtain ⟨membership, others, offers, after, rfl⟩ := List.forall₂_cons_left_iff.mp offered
      obtain ⟨first, distinct⟩ := List.nodup_cons.mp distinct
      have stillThere := (World.forall₂_offers_enter_iff isOpen offers).mpr ⟨first, after⟩
      rw [List.mapM_cons, bind_eq_of_ok (removeRelationship_of_offers offers),
        bind_eq_of_ok (inductionHypothesis (World.isOpen_enter isOpen _) stillThere distinct)]
      rfl

end

/-! ## Batches and sequences -/

/-- The tokens of a list taken one after the other, each as a list of its own. -/
def oneByOne
    (action : TokenRelations → TokenAction Unit)
    (relations : TokenRelations) :
    TokenAction Unit :=
  relations.tokens.forM fun token => action ⟨relations.account, [token]⟩

/--
A list of tokens is accepted: no token comes twice, at each of them a membership is found
that may change, and the account has counted them.
-/
def Settles
    (rule : MembershipRule)
    (count : List Membership → Account → Account)
    (account : Address)
    (tokens : List Address)
    (world after : World) :
    Prop :=
  account.isZero = false ∧ tokens ≠ [] ∧ tokens.Nodup ∧
    ∃ subject memberships,
      world.HasSubject account subject ∧
        List.Forall₂ (world.Offers rule account) tokens memberships ∧
          after = (world.enter rule account memberships).setAccount account
            (count memberships subject)

section

variable
  {rule : MembershipRule}
  {account : Address}
  {tokens : List Address}

/-- A batch checks its list, the account and every token, and then writes. -/
theorem batch_eq_ok_iff
    {question : TokenAction α}
    {write : α → TokenAction Unit}
    (view : List Membership → α)
    (answers :
      Answers world question fun answer =>
        ∃ memberships, List.Forall₂ (world.Offers rule account) tokens memberships ∧
          answer = view memberships)
    (writes :
      ∀ subject memberships,
        world.HasSubject account subject →
          List.Forall₂ (world.Offers rule account) tokens memberships →
            tokens.Nodup →
              write (view memberships) world =
                .ok ()
                  ((world.enter rule account memberships).setAccount account
                    (rule.count memberships subject))) :
    (do
        checkRelations ⟨account, tokens⟩
        ensureSubject account
        let answer ← question
        write answer) world = .ok () after ↔
      Settles rule rule.count account tokens world after := by
  rw [(answers_checkRelations _).bind_eq_ok_iff]
  constructor
  · rintro ⟨_, ⟨nonzero, listed, distinct⟩, done⟩
    obtain ⟨_, ⟨subject, has⟩, done⟩ := (answers_ensureSubject _).bind_eq_ok_iff.mp done
    obtain ⟨_, ⟨memberships, offered, rfl⟩, done⟩ := answers.bind_eq_ok_iff.mp done
    rw [writes subject memberships has offered distinct] at done
    cases done
    exact ⟨nonzero, listed, distinct, subject, memberships, has, offered, rfl⟩
  · rintro ⟨nonzero, listed, distinct, subject, memberships, has, offered, rfl⟩
    refine ⟨(), ⟨nonzero, listed, distinct⟩, ?_⟩
    refine (answers_ensureSubject _).bind_eq_ok_iff.mpr ⟨(), ⟨subject, has⟩, ?_⟩
    refine answers.bind_eq_ok_iff.mpr ⟨_, ⟨memberships, offered, rfl⟩, ?_⟩
    exact writes subject memberships has offered distinct

theorem associate_eq_ok_iff :
    associate ⟨account, tokens⟩ world = .ok () after ↔
      Settles joining joining.count account tokens world after := by
  refine batch_eq_ok_iff (List.map (newcomer account))
    (Answers.mapM (answers_newRelationship account) tokens) ?_
  intro subject memberships has offered _
  rw [bind_eq_of_ok (forM_enter memberships), List.length_map]
  exact adjust_of_hasSubject ((World.hasSubject_enter memberships).mpr has) _

theorem dissociate_eq_ok_iff
    (isOpen : world.IsOpen) :
    dissociate ⟨account, tokens⟩ world = .ok () after ↔
      Settles leaving leaving.count account tokens world after := by
  refine batch_eq_ok_iff (fun _ => ())
    ((Answers.forM (answers_checkDissociation account) tokens).congr fun _ => by simp) ?_
  intro subject memberships has offered distinct
  rw [bind_eq_of_ok (mapM_removeRelationship isOpen offered distinct), offered.length_eq]
  exact adjust_of_hasSubject ((World.hasSubject_enter memberships).mpr has) _

theorem Settles.isOpen
    {count : List Membership → Account → Account}
    (settles : Settles rule count account tokens world after)
    (isOpen : world.IsOpen) :
    after.IsOpen := by
  obtain ⟨_, _, _, _, _, _, _, rfl⟩ := settles
  exact (World.isOpen_enter isOpen _).record _

/-- A single token is settled by the one membership that is found there. -/
theorem settles_singleton_iff
    {count : List Membership → Account → Account}
    {address : Address} :
    Settles rule count account [address] world after ↔
      account.isZero = false ∧
        ∃ subject membership,
          world.HasSubject account subject ∧
            world.Offers rule account address membership ∧
              after = (world.enter rule account [membership]).setAccount account
                (count [membership] subject) := by
  constructor
  · rintro ⟨nonzero, _, _, subject, memberships, has, offered, rfl⟩
    obtain ⟨membership, _, offers, nothing, rfl⟩ := List.forall₂_cons_left_iff.mp offered
    cases nothing
    exact ⟨nonzero, subject, membership, has, offers, rfl⟩
  · rintro ⟨nonzero, subject, membership, has, offers, rfl⟩
    exact ⟨nonzero, List.cons_ne_nil _ _, List.nodup_singleton _, subject, [membership], has,
      .cons offers .nil, rfl⟩

/-- A list is settled one by one when its first token is and then the others are. -/
theorem settles_cons_iff
    (isOpen : world.IsOpen)
    {address : Address}
    (more : tokens ≠ []) :
    Settles rule rule.countEach account (address :: tokens) world after ↔
      ∃ middle,
        Settles rule rule.count account [address] world middle ∧
          Settles rule rule.countEach account tokens middle after := by
  simp only [settles_singleton_iff]
  -- of the account only the last entry is left, wherever the first one was written
  have commute (membership : Membership) (memberships : List Membership)
      (first last : Account) :
      ((((world.enter rule account [membership]).setAccount account first).enter rule account
          memberships).setAccount account last) =
        (world.enter rule account (membership :: memberships)).setAccount account last := by
    rw [World.enter_setAccount, World.setAccount_setAccount]
    rfl
  constructor
  · rintro ⟨nonzero, _, distinct, subject, _, has, offered, rfl⟩
    obtain ⟨membership, memberships, offers, others, rfl⟩ :=
      List.forall₂_cons_left_iff.mp offered
    obtain ⟨first, distinct⟩ := List.nodup_cons.mp distinct
    refine ⟨_, ⟨nonzero, subject, membership, has, offers, rfl⟩, nonzero, more, distinct,
      rule.count [membership] subject, memberships, ?_, ?_, ?_⟩
    · exact ((World.hasSubject_enter _).mpr has).count (World.isOpen_enter isOpen _) _
    · rw [World.offers_setAccount]
      exact (World.forall₂_offers_enter_iff isOpen offers).mpr ⟨first, others⟩
    · rw [commute]
      rfl
  · rintro ⟨_, ⟨nonzero, subject, membership, has, offers, rfl⟩, _, _, distinct, counted,
      memberships, hasCounted, others, rfl⟩
    rw [World.offers_setAccount] at others
    obtain ⟨first, others⟩ := (World.forall₂_offers_enter_iff isOpen offers).mp others
    have same := hasCounted.unique
      (((World.hasSubject_enter _).mpr has).count (World.isOpen_enter isOpen _) _)
    refine ⟨nonzero, List.cons_ne_nil _ _, List.nodup_cons.mpr ⟨first, distinct⟩, subject,
      membership :: memberships, has, .cons offers others, ?_⟩
    rw [commute, same]
    rfl

/-- Single tokens taken one after the other are settled as a list that is counted so. -/
theorem oneByOne_eq_ok_iff
    {action : TokenRelations → TokenAction Unit}
    (settles :
      ∀ {world after : World} {tokens : List Address}, world.IsOpen →
        (action ⟨account, tokens⟩ world = .ok () after ↔
          Settles rule rule.count account tokens world after))
    (isOpen : world.IsOpen)
    (listed : tokens ≠ []) :
    oneByOne action ⟨account, tokens⟩ world = .ok () after ↔
      Settles rule rule.countEach account tokens world after := by
  induction tokens generalizing world with
  | nil => exact (listed rfl).elim
  | cons address rest inductionHypothesis =>
      have step :
          oneByOne action ⟨account, address :: rest⟩ world = .ok () after ↔
            ∃ middle,
              Settles rule rule.count account [address] world middle ∧
                oneByOne action ⟨account, rest⟩ middle = .ok () after := by
        refine bind_eq_ok.trans ?_
        simp only [← settles isOpen]
        exact ⟨fun ⟨_, middle, done⟩ => ⟨middle, done⟩, fun ⟨middle, done⟩ => ⟨(), middle, done⟩⟩
      rw [step]
      by_cases last : rest = []
      · subst last
        have alone :
            Settles rule rule.countEach account [address] world after ↔
              Settles rule rule.count account [address] world after := by
          rw [settles_singleton_iff, settles_singleton_iff]
          rfl
        rw [alone]
        constructor
        · rintro ⟨_, settled, done⟩
          cases done
          exact settled
        · exact fun settled => ⟨after, settled, rfl⟩
      · rw [settles_cons_iff isOpen last]
        refine exists_congr fun middle => and_congr_right fun settled => ?_
        exact inductionHypothesis (settled.isOpen isOpen) last

end

/-- A list in which a token comes twice is not settled, however it is counted. -/
theorem not_settles_of_twice
    {rule : MembershipRule}
    {count : List Membership → Account → Account}
    {account : Address}
    {tokens : List Address}
    (twice : ¬ tokens.Nodup) :
    ¬ Settles rule count account tokens world after :=
  fun settles => twice settles.2.2.1

/-- Two ways of counting settle the same lists. -/
theorem exists_settles_iff
    {rule : MembershipRule}
    {count count' : List Membership → Account → Account}
    {account : Address}
    {tokens : List Address} :
    (∃ after, Settles rule count account tokens world after) ↔
      ∃ after, Settles rule count' account tokens world after := by
  constructor <;> rintro ⟨_, nonzero, listed, distinct, subject, memberships, has, offered, _⟩ <;>
    exact ⟨_, nonzero, listed, distinct, subject, memberships, has, offered, rfl⟩

/-- Two ways of counting differ in the entry of the account at most. -/
theorem Settles.compare
    {rule : MembershipRule}
    {count count' : List Membership → Account → Account}
    {account : Address}
    {tokens : List Address}
    {one other : World}
    (settles : Settles rule count account tokens world one)
    (settles' : Settles rule count' account tokens world other) :
    (∀ holder token, other.relationship holder token = one.relationship holder token) ∧
      ((∀ memberships subject,
          memberships.length = tokens.length →
            count' memberships subject = count memberships subject) →
        other = one) := by
  obtain ⟨_, _, _, subject, memberships, has, offered, rfl⟩ := settles
  obtain ⟨_, _, _, subject', memberships', has', offered', rfl⟩ := settles'
  cases has.unique has'
  cases Relator.RightUnique.forall₂ World.Offers.unique offered offered'
  constructor
  · intro holder token
    have written (account : Address) (subject : Account) (world : World) :
        (world.setAccount account subject).relationship holder token =
          world.relationship holder token :=
      World.relationship_record _ _ _ fun _ => rfl
    rw [written, written]
  · exact fun same => by rw [same memberships subject offered.length_eq.symm]

/--
A list of tokens is associated with an account exactly when its tokens are one after the
other, and the world is the same then.  It is dissociated exactly when its tokens are, with
the same relationships left and, if a counter has room for the length of the list, with
nothing else different either.  A list in which a token comes twice is refused both ways.
-/
theorem batch_accepts_as_sequence
    {relations : TokenRelations}
    (isOpen : world.IsOpen)
    (listed : relations.tokens ≠ []) :
    (∀ after,
        associate relations world = .ok () after ↔
          oneByOne associate relations world = .ok () after) ∧
      ((∃ after, dissociate relations world = .ok () after) ↔
        ∃ after, oneByOne dissociate relations world = .ok () after) ∧
      (∀ one other,
        dissociate relations world = .ok () one →
          oneByOne dissociate relations world = .ok () other →
            (∀ holder token, other.relationship holder token = one.relationship holder token) ∧
              (relations.tokens.length < 2 ^ 32 → other = one)) ∧
      (¬ relations.tokens.Nodup →
        ∀ after,
          associate relations world ≠ .ok () after ∧
            oneByOne associate relations world ≠ .ok () after ∧
              dissociate relations world ≠ .ok () after ∧
                oneByOne dissociate relations world ≠ .ok () after) := by
  obtain ⟨account, tokens⟩ := relations
  have joins {after : World} :
      oneByOne associate ⟨account, tokens⟩ world = .ok () after ↔
        Settles joining joining.countEach account tokens world after :=
    oneByOne_eq_ok_iff (fun _ => associate_eq_ok_iff) isOpen listed
  have leaves {after : World} :
      oneByOne dissociate ⟨account, tokens⟩ world = .ok () after ↔
        Settles leaving leaving.countEach account tokens world after :=
    oneByOne_eq_ok_iff dissociate_eq_ok_iff isOpen listed
  refine ⟨fun after => ?_, ?_, fun one other left leftEach => ?_, fun twice after => ?_⟩
  · rw [associate_eq_ok_iff, joins]
    simp only [Settles, countEach_joining]
  · simp only [dissociate_eq_ok_iff isOpen, leaves]
    exact exists_settles_iff
  · obtain ⟨entries, others⟩ :=
      ((dissociate_eq_ok_iff isOpen).mp left).compare (leaves.mp leftEach)
    refine ⟨entries, fun inRange => others fun memberships subject length => ?_⟩
    exact countEach_leaving subject (length ▸ inRange)
  · refine ⟨?_, ?_, ?_, ?_⟩
    · exact fun done => not_settles_of_twice twice (associate_eq_ok_iff.mp done)
    · exact fun done => not_settles_of_twice twice (joins.mp done)
    · exact fun done => not_settles_of_twice twice ((dissociate_eq_ok_iff isOpen).mp done)
    · exact fun done => not_settles_of_twice twice (leaves.mp done)

/-- Two tokens that are joined at once are joined alike one after the other. -/
theorem two_tokens_joined_at_once_and_in_turn :
    let account : Account := { address := Address.ofNum 1001 }
    let tokens : List Token :=
      [{ address := Address.ofNum 2001 }, { address := Address.ofNum 2002, freezeDefault := true }]
    let contents : Snapshot.Contents :=
      { accounts := Table.ofList [(account.address, account)]
        tokens := Table.ofList (tokens.map fun token => (token.address, token)) }
    let world := (World.ofSnapshot (.ofContents contents) false ⟨0⟩ 5000).push
    let relations : TokenRelations := ⟨account.address, tokens.map Token.address⟩
    world.IsOpen ∧ relations.tokens ≠ [] ∧
      ∃ after,
        associate relations world = .ok () after ∧
          oneByOne associate relations world = .ok () after ∧
            after.get account.address = .ok (some { account with numAssociations := 2 }) := by
  intro account tokens contents world relations
  have isOpen : world.IsOpen := World.isOpen_push _
  have listed : relations.tokens ≠ [] := nofun
  have counted :
      (leaves (associate relations) world).get account.address =
        .ok (some { account with numAssociations := 2 }) := by
    decide +kernel
  obtain ⟨after, joined⟩ : ∃ after, associate relations world = .ok () after := ⟨_, rfl⟩
  rw [leaves, joined] at counted
  exact ⟨isOpen, listed, after, joined,
    ((batch_accepts_as_sequence isOpen listed).1 after).mp joined, counted⟩

end TokenAction

end LedgerEvm
