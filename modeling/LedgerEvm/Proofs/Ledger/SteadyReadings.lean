import LedgerEvm.Ledger.Transfer
import LedgerEvm.Machine.Admission
import LedgerEvm.Proofs.SteadyActions

namespace LedgerEvm

/-!
# Worlds over a failing snapshot

Two worlds lie side by side when they are the same but for their snapshots, of which the
first answers as the second or fails.  What is read of them is alike, and what is written
leaves them side by side.
-/

/--
A snapshot whose lookups answer as those of another one or fail with an excuse.  The runs
over the two keep the same trace, unless it is said how their traces differ.
-/
structure Comparison extends Tolerance where
  partly : Snapshot
  whole : Snapshot
  account :
    ∀ address, toTolerance.Matches Eq (partly.account address) (whole.account address)
  storage :
    ∀ address key, toTolerance.Matches Eq (partly.storage address key) (whole.storage address key)
  token :
    ∀ address, toTolerance.Matches Eq (partly.token address) (whole.token address)
  relationship :
    ∀ account token,
      toTolerance.Matches Eq (partly.relationship account token) (whole.relationship account token)
  nft :
    ∀ token serial, toTolerance.Matches Eq (partly.nft token serial) (whole.nft token serial)
  allowance :
    ∀ owner token spender,
      toTolerance.Matches Eq (partly.allowance owner token spender)
        (whole.allowance owner token spender)
  traces : TraceComparison := .same

/-- A reading that matches does so as the machine sees it. -/
theorem Tolerance.Matches.lookUp
    {α : Type}
    {tolerance : Tolerance}
    {alike : α → α → Prop}
    {first second : Except StateError α}
    (reads : tolerance.Matches alike first second) :
    tolerance.Matches alike (World.lookUp first) (World.lookUp second) :=
  reads.mapError fun _ => rfl

namespace World

/-- Two worlds over the compared snapshots, and otherwise the same. -/
structure Beside (comparison : Comparison) (first second : World) : Prop where
  same : first = { second with snapshot := comparison.partly }
  reads : second.snapshot = comparison.whole

/-- The same answer, with worlds that lie side by side. -/
structure BesideWith {α : Type} (comparison : Comparison) (first second : α × World) : Prop where
  answer : first.1 = second.1
  world : Beside comparison first.2 second.2

namespace Beside

variable
  {comparison : Comparison}
  {first second : World}
variable (besides : Beside comparison first second)
include besides

/-! ## Writing -/

theorem push :
    Beside comparison first.push second.push := by
  obtain ⟨rfl, reads⟩ := besides
  exact ⟨rfl, reads⟩

theorem commit :
    Beside comparison first.commit second.commit := by
  obtain ⟨rfl, reads⟩ := besides
  obtain ⟨snapshot, redirectsTokenCalls, timestamp, nextNum, layers⟩ := second
  cases layers with
  | nil => exact ⟨rfl, reads⟩
  | cons child outer => cases outer <;> exact ⟨rfl, reads⟩

theorem revert :
    Beside comparison first.revert second.revert := by
  obtain ⟨rfl, reads⟩ := besides
  exact ⟨rfl, reads⟩

theorem record
    (change : Journal → Journal) :
    Beside comparison (first.record change) (second.record change) := by
  obtain ⟨rfl, reads⟩ := besides
  obtain ⟨snapshot, redirectsTokenCalls, timestamp, nextNum, layers⟩ := second
  cases layers <;> exact ⟨rfl, reads⟩

theorem warmAccount
    (address : Address) :
    Beside comparison (first.warmAccount address) (second.warmAccount address) :=
  besides.record _

/-! ## Reading -/

theorem snapshot_eq :
    first.snapshot = comparison.partly := by
  rw [besides.same]

/-- Both worlds have the same journals. -/
theorem latest?_eq
    {α : Type}
    (look : Journal → Option α) :
    first.latest? look = second.latest? look := by
  rw [besides.same]
  rfl

theorem accountEntry
    (address : Address) :
    comparison.Matches Eq (first.accountEntry address) (second.accountEntry address) := by
  unfold World.accountEntry
  rw [besides.latest?_eq, besides.snapshot_eq, besides.reads]
  split
  · exact .ok rfl
  · exact comparison.account address

theorem transient
    (address : Address)
    (key : Word) :
    first.transient address key = second.transient address key := by
  rw [besides.same]
  rfl

theorem isCreated
    (address : Address) :
    first.isCreated address = second.isCreated address := by
  rw [besides.same]
  rfl

theorem isWarmAccount
    (address : Address) :
    first.isWarmAccount address = second.isWarmAccount address := by
  rw [besides.same]
  rfl

theorem isWarmSlot
    (address : Address)
    (key : Word) :
    first.isWarmSlot address key = second.isWarmSlot address key := by
  rw [besides.same]
  rfl

theorem storage
    (address : Address)
    (key : Word) :
    comparison.Matches Eq (first.storage address key) (second.storage address key) := by
  unfold World.storage
  rw [besides.latest?_eq, besides.snapshot_eq, besides.reads]
  split
  · exact .ok rfl
  · exact comparison.storage address key

theorem initialStorage
    (address : Address)
    (key : Word) :
    comparison.Matches Eq (first.initialStorage address key)
      (second.initialStorage address key) := by
  unfold World.initialStorage
  rw [besides.snapshot_eq, besides.reads]
  exact comparison.storage address key

theorem token
    (address : Address) :
    comparison.Matches Eq (first.token address) (second.token address) := by
  unfold World.token
  rw [besides.latest?_eq, besides.snapshot_eq, besides.reads]
  split
  · exact .ok rfl
  · exact comparison.token address

theorem relationship
    (account token : Address) :
    comparison.Matches Eq (first.relationship account token)
      (second.relationship account token) := by
  unfold World.relationship
  rw [besides.latest?_eq, besides.snapshot_eq, besides.reads]
  split
  · exact .ok rfl
  · exact comparison.relationship account token

theorem nft
    (token : Address)
    (serial : Int64) :
    comparison.Matches Eq (first.nft token serial) (second.nft token serial) := by
  unfold World.nft
  rw [besides.latest?_eq, besides.snapshot_eq, besides.reads]
  split
  · exact .ok rfl
  · exact comparison.nft token serial

theorem allowance
    (owner token spender : Address) :
    comparison.Matches Eq (first.allowance owner token spender)
      (second.allowance owner token spender) := by
  unfold World.allowance
  rw [besides.latest?_eq, besides.snapshot_eq, besides.reads]
  split
  · exact .ok rfl
  · exact comparison.allowance owner token spender

theorem get
    (address : Address) :
    comparison.Matches Eq (first.get address) (second.get address) := by
  have entry :
      comparison.Matches Eq
        (do return (← first.accountEntry address).filter fun account => !account.deleted)
        (do return (← second.accountEntry address).filter fun account => !account.deleted) :=
    (besides.accountEntry address).bind_eq fun _ => .ok rfl
  have redirects : first.redirectsTokenCalls = second.redirectsTokenCalls := by
    rw [besides.same]
  unfold World.get
  rw [redirects]
  split
  · refine (besides.token address).bind_eq fun token => ?_
    dsimp only
    split
    · exact .ok rfl
    · exact entry
  · exact entry

theorem reaches
    (address : Address) :
    comparison.Matches Eq (first.reaches address) (second.reaches address) :=
  (besides.get address).bind_eq fun _ => .ok rfl

theorem balance
    (address : Address) :
    comparison.Matches Eq (first.balance address) (second.balance address) :=
  (besides.get address).bind_eq fun _ => .ok rfl

theorem code
    (address : Address) :
    comparison.Matches Eq (first.code address) (second.code address) :=
  (besides.get address).bind_eq fun _ => .ok rfl

theorem isTokenTreasury
    (address : Address) :
    comparison.Matches Eq (first.isTokenTreasury address) (second.isTokenTreasury address) :=
  (besides.accountEntry address).bind_eq fun _ => .ok rfl

theorem hasTokenBalance
    (address : Address) :
    comparison.Matches Eq (first.hasTokenBalance address) (second.hasTokenBalance address) :=
  (besides.accountEntry address).bind_eq fun _ => .ok rfl

theorem ownsNfts
    (address : Address) :
    comparison.Matches Eq (first.ownsNfts address) (second.ownsNfts address) :=
  (besides.accountEntry address).bind_eq fun _ => .ok rfl

theorem isFree
    (address : Address) :
    comparison.Matches Eq (first.isFree address) (second.isFree address) := by
  refine (besides.accountEntry address).bind_eq fun account => ?_
  split
  · exact .ok rfl
  · exact (besides.token address).bind_eq fun _ => .ok rfl

theorem answersAt
    (address : Address) :
    comparison.Matches Eq (first.answersAt address) (second.answersAt address) := by
  unfold World.answersAt
  split
  · exact .ok rfl
  · exact besides.reaches address

theorem judge
    (rule : AddressRule)
    (address : Address) :
    comparison.Matches Eq (first.judge rule address) (second.judge rule address) := by
  unfold World.judge
  split
  · exact .ok rfl
  · split
    · refine (besides.answersAt address).bind_eq fun answers => ?_
      exact .same fun _ failed => by split at failed <;> cases failed
    · exact .ok rfl

theorem objectionToDeletion?
    (contract beneficiary : Address) :
    comparison.Matches Eq (first.objectionToDeletion? contract beneficiary)
      (second.objectionToDeletion? contract beneficiary) := by
  unfold World.objectionToDeletion?
  split
  · exact .ok rfl
  · refine (besides.isTokenTreasury contract).bind_eq fun isTreasury => ?_
    split
    · exact .ok rfl
    · refine (besides.hasTokenBalance contract).bind_eq fun hasBalance => ?_
      split
      · exact .ok rfl
      · refine (besides.ownsNfts contract).bind_eq fun ownsNfts => ?_
        exact .same fun _ failed => by split at failed <;> cases failed

theorem objectionToSelfDestruct?
    (rule : SelfDestructRule)
    (contract beneficiary : Address) :
    comparison.Matches Eq (first.objectionToSelfDestruct? rule contract beneficiary)
      (second.objectionToSelfDestruct? rule contract beneficiary) := by
  have objection :
      comparison.Matches Eq
        (if rule.sparesOldContracts && !first.isCreated contract then pure none
          else first.objectionToDeletion? contract beneficiary)
        (if rule.sparesOldContracts && !second.isCreated contract then pure none
          else second.objectionToDeletion? contract beneficiary) := by
    rw [besides.isCreated]
    split
    · exact .ok rfl
    · exact besides.objectionToDeletion? contract beneficiary
  unfold World.objectionToSelfDestruct?
  dsimp only
  by_cases validates : rule.validatesBeneficiary = true
  · rw [if_pos validates, if_pos validates]
    split
    · exact .ok rfl
    · refine (besides.answersAt beneficiary).bind_eq fun answers => ?_
      cases answers with
      | true => exact objection
      | false => exact .ok rfl
  · rw [if_neg validates, if_neg validates]
    exact objection

/-! ## Changing accounts -/

theorem claimAccount
    (address : Address) :
    comparison.Matches (BesideWith comparison) (first.claimAccount address)
      (second.claimAccount address) := by
  have journal : first.journal = second.journal := by
    rw [besides.same]
    rfl
  unfold World.claimAccount
  rw [journal]
  split
  · exact .ok ⟨rfl, besides⟩
  · refine (besides.get address).bind_eq fun account? => ?_
    split
    · split
      · exact .ok ⟨rfl, besides⟩
      · exact .ok ⟨rfl, besides.record _⟩
    · exact .ok ⟨rfl, besides⟩

theorem updateAccount
    (address : Address)
    (change : Account → Account) :
    comparison.Matches (BesideWith comparison) (first.updateAccount address change)
      (second.updateAccount address change) := by
  refine (besides.claimAccount address).bind ?_
  rintro ⟨account?, claimed⟩ ⟨_, claimed'⟩ ⟨rfl, besides⟩
  cases account? with
  | some account => exact .ok ⟨rfl, besides.record _⟩
  | none => exact .ok ⟨rfl, besides⟩

theorem deleteAccount
    (address : Address) :
    comparison.Matches (Beside comparison) (first.deleteAccount address)
      (second.deleteAccount address) := by
  refine (besides.updateAccount address _).bind ?_
  rintro ⟨reached, changed⟩ ⟨_, changed'⟩ ⟨rfl, besides⟩
  cases reached with
  | true => exact .ok besides
  | false => exact .error (comparison.shares rfl)

theorem transfer
    (source target : Address)
    (value : Word) :
    comparison.Matches (Beside comparison) (first.transfer source target value)
      (second.transfer source target value) := by
  unfold World.transfer
  split
  · exact .ok besides
  · refine (besides.balance source).lookUp.bind_eq fun available => ?_
    split
    · exact .error (comparison.shares rfl)
    · refine (besides.updateAccount source _).lookUp.bind ?_
      rintro ⟨_, debited⟩ ⟨_, debited'⟩ ⟨_, besides⟩
      refine (besides.updateAccount target _).lookUp.bind ?_
      rintro ⟨reached, credited⟩ ⟨_, credited'⟩ ⟨rfl, besides⟩
      cases reached with
      | true => exact .ok besides
      | false =>
        refine (besides.reaches target).lookUp.bind_eq fun reaches => ?_
        split
        · exact .error (comparison.shares rfl)
        · exact .ok (besides.record _)

/-! ## Drawing addresses -/

theorem drawFreeAddress
    (sponsor : Address)
    (attempts : Nat) :
    (∃ error,
      (World.drawFreeAddress sponsor attempts first).1 = .error error ∧
        comparison.excused (.state error)) ∨
      (World.drawFreeAddress sponsor attempts first).1 =
          (World.drawFreeAddress sponsor attempts second).1 ∧
        Beside comparison (World.drawFreeAddress sponsor attempts first).2
          (World.drawFreeAddress sponsor attempts second).2 := by
  induction attempts generalizing first second with
  | zero => exact .inr ⟨rfl, besides⟩
  | succ attempts inductionHypothesis =>
      have drawn :
          (first.nextAddress sponsor).1 = (second.nextAddress sponsor).1 ∧
            Beside comparison (first.nextAddress sponsor).2 (second.nextAddress sponsor).2 := by
        obtain ⟨rfl, reads⟩ := besides
        exact ⟨rfl, rfl, reads⟩
      obtain ⟨candidate, besides⟩ := drawn
      have free := besides.isFree (first.nextAddress sponsor).1
      simp only [World.drawFreeAddress]
      rw [← candidate]
      generalize (first.nextAddress sponsor).2.isFree (first.nextAddress sponsor).1 = answer
        at free ⊢
      generalize (second.nextAddress sponsor).2.isFree (first.nextAddress sponsor).1 = answer'
        at free ⊢
      cases free with
      | error shares => exact .inr ⟨rfl, besides⟩
      | @excused error _ excuse => exact .inl ⟨error, rfl, excuse⟩
      | @ok isFree _ same =>
          subst same
          cases isFree with
          | true => exact .inr ⟨rfl, besides⟩
          | false => exact inductionHypothesis besides

/-- The same address is drawn over both snapshots, unless a lookup has failed on the way. -/
theorem newContractAddress
    (sponsor : Address) :
    (∃ error,
      (first.newContractAddress sponsor).1 = .error error ∧ comparison.excused (.state error)) ∨
      (first.newContractAddress sponsor).1 = (second.newContractAddress sponsor).1 ∧
        Beside comparison (first.newContractAddress sponsor).2
          (second.newContractAddress sponsor).2 :=
  besides.drawFreeAddress sponsor World.addressAttempts

end Beside

/--
The drawing of an address comes to an end that both sides may share: as a rule because it
finds one.
-/
def Finds (comparison : Comparison) (world : World) (sponsor : Address) : Prop :=
  ∀ error,
    (world.newContractAddress sponsor).1 = .error error → comparison.shared (.state error)

end World

end LedgerEvm
