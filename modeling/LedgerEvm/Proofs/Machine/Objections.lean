import LedgerEvm.Machine.Admission
import LedgerEvm.Proofs.Actions

namespace LedgerEvm

/-!
# Objections to self-destruction

What may stand against a self-destruction is asked question by question, and the first question
that is answered with yes gives the reason.  Whoever is to inherit is asked about first, under
the rules that do so at all; the contract itself is asked about after that, unless the rules
spare it.
-/

/-- A question that is asked before a contract destroys itself, and the reason a yes would give. -/
structure Objection where
  reason : HaltReason
  stands : Except StateError Bool

namespace Objection

/-- The reason of the first objection that stands. -/
def firstStanding? : List Objection → Except StateError (Option HaltReason)
  | [] => .ok none
  | objection :: rest => do
      if ← objection.stands then
        return some objection.reason
      firstStanding? rest

theorem firstStanding?_nil : firstStanding? [] = .ok none :=
  rfl

/-- A question that needs no lookup is answered at once. -/
theorem firstStanding?_cons_ok
    (reason : HaltReason)
    (stands : Bool)
    (rest : List Objection) :
    firstStanding? (⟨reason, .ok stands⟩ :: rest) =
      if stands then .ok (some reason) else firstStanding? rest :=
  rfl

/-- A reason is given by an objection that stands where none of those before it does. -/
theorem firstStanding?_cons_eq_some_iff
    {objection : Objection}
    {rest : List Objection}
    {reason : HaltReason} :
    firstStanding? (objection :: rest) = .ok (some reason) ↔
      (objection.stands = .ok true ∧ objection.reason = reason) ∨
        (objection.stands = .ok false ∧ firstStanding? rest = .ok (some reason)) := by
  refine bind_eq_ok_iff.trans ?_
  constructor
  · rintro ⟨stands, asked, answered⟩
    cases stands with
    | true => exact .inl ⟨asked, Option.some.inj (Except.ok.inj answered)⟩
    | false => exact .inr ⟨asked, answered⟩
  · rintro (⟨asked, rfl⟩ | ⟨asked, answered⟩)
    · exact ⟨true, asked, rfl⟩
    · exact ⟨false, asked, answered⟩

/-- No reason is given where no objection stands. -/
theorem firstStanding?_eq_none_iff
    {objections : List Objection} :
    firstStanding? objections = .ok none ↔
      ∀ objection ∈ objections, objection.stands = .ok false := by
  induction objections with
  | nil => exact iff_of_true rfl nofun
  | cons objection rest inductionHypothesis =>
      rw [List.forall_mem_cons, ← inductionHypothesis]
      refine bind_eq_ok_iff.trans ?_
      constructor
      · rintro ⟨stands, asked, answered⟩
        cases stands with
        | true => cases answered
        | false => exact ⟨asked, answered⟩
      · exact fun ⟨asked, answered⟩ => ⟨false, asked, answered⟩

/-- Objections are gone through list after list. -/
theorem firstStanding?_append
    (objections others : List Objection) :
    firstStanding? (objections ++ others) =
      (firstStanding? objections >>= fun reason? =>
        match reason? with
        | some reason => .ok (some reason)
        | none => firstStanding? others) := by
  induction objections with
  | nil => rfl
  | cons objection rest inductionHypothesis =>
      change (objection.stands >>= _) = ((objection.stands >>= _) >>= _)
      cases objection.stands with
      | error error => rfl
      | ok stands =>
          cases stands with
          | true => rfl
          | false => exact inductionHypothesis

/-- A question may be put the other way round. -/
theorem map_not_eq_ok_iff
    {ε : Type}
    {answer : Except ε Bool}
    {negated : Bool} :
    (!·) <$> answer = .ok negated ↔ answer = .ok !negated := by
  cases answer with
  | error error => exact iff_of_false nofun nofun
  | ok answer => cases answer <;> cases negated <;> simp [Functor.map, Except.map]

end Objection

namespace World

open Objection

variable
  {world : World}
  {rule : SelfDestructRule}
  {contract beneficiary : Address}

/-- What is asked about the beneficiary, under the rules that ask about it. -/
def objectionsToBeneficiary
    (world : World)
    (rule : SelfDestructRule)
    (beneficiary : Address) :
    List Objection :=
  if rule.validatesBeneficiary then
    [⟨.invalidSolidityAddress, .ok beneficiary.isSystemAccount⟩,
      ⟨.invalidSolidityAddress, (!·) <$> world.answersAt beneficiary⟩]
  else
    []

/-- What is asked about the contract. -/
def objectionsToDeletion (world : World) (contract beneficiary : Address) : List Objection :=
  [⟨.selfDestructToSelf, .ok (decide (contract = beneficiary))⟩,
    ⟨.contractIsTreasury, world.isTokenTreasury contract⟩,
    ⟨.transactionRequiresZeroTokenBalances, world.hasTokenBalance contract⟩,
    ⟨.contractStillOwnsNfts, world.ownsNfts contract⟩]

theorem objectionToDeletion?_eq_firstStanding? :
    world.objectionToDeletion? contract beneficiary =
      firstStanding? (world.objectionsToDeletion contract beneficiary) := by
  unfold objectionToDeletion? objectionsToDeletion
  rw [firstStanding?_cons_ok]
  by_cases same : contract = beneficiary
  · simp only [same, if_true, decide_true]
    rfl
  · simp only [same, if_false, decide_false, Bool.false_eq_true]
    rfl

/-- Where a contract is not spared, everything is asked that there is to ask. -/
theorem objectionToSelfDestruct?_eq_firstStanding?
    (considered : rule.sparesOldContracts = true → world.isCreated contract = true) :
    world.objectionToSelfDestruct? rule contract beneficiary =
      firstStanding?
        (world.objectionsToBeneficiary rule beneficiary ++
          world.objectionsToDeletion contract beneficiary) := by
  have notSpared : (rule.sparesOldContracts && !world.isCreated contract) = false := by
    cases spares : rule.sparesOldContracts with
    | false => rfl
    | true => simp [considered spares]
  unfold objectionToSelfDestruct? objectionsToBeneficiary
  simp only [notSpared, Bool.false_eq_true, if_false, objectionToDeletion?_eq_firstStanding?]
  split
  · rw [List.cons_append, firstStanding?_cons_ok]
    split
    · rfl
    · cases world.answersAt beneficiary with
      | error error => rfl
      | ok answers => cases answers <;> rfl
  · rfl

/-! ## The beneficiary -/

/-- The rules, if they ask about the beneficiary, find that it is someone to inherit. -/
def AdmitsBeneficiary (world : World) (rule : SelfDestructRule) (beneficiary : Address) : Prop :=
  rule.validatesBeneficiary = true →
    beneficiary.isSystemAccount = false ∧ world.answersAt beneficiary = .ok true

/-- The rules ask about the beneficiary, and it is nobody to inherit. -/
def RefusesBeneficiary (world : World) (rule : SelfDestructRule) (beneficiary : Address) : Prop :=
  rule.validatesBeneficiary = true ∧
    (beneficiary.isSystemAccount = true ∨ world.answersAt beneficiary = .ok false)

theorem firstStanding?_toBeneficiary_eq_none_iff :
    firstStanding? (world.objectionsToBeneficiary rule beneficiary) = .ok none ↔
      world.AdmitsBeneficiary rule beneficiary := by
  unfold objectionsToBeneficiary AdmitsBeneficiary
  split
  · rename_i validates
    simp [firstStanding?_eq_none_iff, map_not_eq_ok_iff, validates]
  · rename_i validates
    simp [firstStanding?_nil, validates]

theorem firstStanding?_toBeneficiary_eq_some_iff
    {reason : HaltReason} :
    firstStanding? (world.objectionsToBeneficiary rule beneficiary) = .ok (some reason) ↔
      reason = .invalidSolidityAddress ∧ world.RefusesBeneficiary rule beneficiary := by
  unfold objectionsToBeneficiary RefusesBeneficiary
  split
  · rename_i validates
    simp only [firstStanding?_cons_eq_some_iff, map_not_eq_ok_iff, firstStanding?_nil]
    cases beneficiary.isSystemAccount <;> simp [validates, and_comm, eq_comm]
  · rename_i validates
    simp [firstStanding?_nil, validates]

/-- What is asked about the contract is asked once the beneficiary is admitted. -/
theorem objectionToSelfDestruct?_eq_ok_iff
    (considered : rule.sparesOldContracts = true → world.isCreated contract = true)
    {reason? : Option HaltReason} :
    world.objectionToSelfDestruct? rule contract beneficiary = .ok reason? ↔
      (reason? = some .invalidSolidityAddress ∧ world.RefusesBeneficiary rule beneficiary) ∨
        (world.AdmitsBeneficiary rule beneficiary ∧
          firstStanding? (world.objectionsToDeletion contract beneficiary) = .ok reason?) := by
  rw [objectionToSelfDestruct?_eq_firstStanding? considered, firstStanding?_append, bind_eq_ok_iff,
    ← firstStanding?_toBeneficiary_eq_none_iff]
  constructor
  · rintro ⟨given?, asked, answered⟩
    cases given? with
    | none => exact .inr ⟨asked, answered⟩
    | some reason =>
        obtain ⟨rfl, refuses⟩ := firstStanding?_toBeneficiary_eq_some_iff.mp asked
        exact .inl ⟨(Except.ok.inj answered).symm, refuses⟩
  · rintro (⟨rfl, refuses⟩ | ⟨admits, answered⟩)
    · exact ⟨_, firstStanding?_toBeneficiary_eq_some_iff.mpr ⟨rfl, refuses⟩, rfl⟩
    · exact ⟨none, admits, answered⟩

/--
Unless a contract is spared, what is answered to its self-destruction is the first that stands:
that the rules refuse the beneficiary, that the contract is its own beneficiary, that it is a
treasury, that it holds units of a token, that it owns numbered pieces.
-/
theorem objections_are_raised_in_order
    (considered : rule.sparesOldContracts = true → world.isCreated contract = true) :
    let answer := world.objectionToSelfDestruct? rule contract beneficiary
    let admits := world.AdmitsBeneficiary rule beneficiary
    (answer = .ok (some .invalidSolidityAddress) ↔ world.RefusesBeneficiary rule beneficiary) ∧
      (answer = .ok (some .selfDestructToSelf) ↔ admits ∧ contract = beneficiary) ∧
        (answer = .ok (some .contractIsTreasury) ↔
          admits ∧ contract ≠ beneficiary ∧ world.isTokenTreasury contract = .ok true) ∧
          (answer = .ok (some .transactionRequiresZeroTokenBalances) ↔
            admits ∧ contract ≠ beneficiary ∧ world.isTokenTreasury contract = .ok false ∧
              world.hasTokenBalance contract = .ok true) ∧
            (answer = .ok (some .contractStillOwnsNfts) ↔
              admits ∧ contract ≠ beneficiary ∧ world.isTokenTreasury contract = .ok false ∧
                world.hasTokenBalance contract = .ok false ∧
                  world.ownsNfts contract = .ok true) ∧
              (answer = .ok none ↔
                admits ∧ contract ≠ beneficiary ∧ world.isTokenTreasury contract = .ok false ∧
                  world.hasTokenBalance contract = .ok false ∧
                    world.ownsNfts contract = .ok false) := by
  intro answer admits
  simp only [answer, admits, objectionToSelfDestruct?_eq_ok_iff considered, objectionsToDeletion,
    firstStanding?_cons_eq_some_iff, firstStanding?_eq_none_iff, firstStanding?_nil]
  simp

/-- A contract is created as a treasury and destroys itself in the same call. -/
theorem treasury_created_in_call_may_not_destroy_itself :
    let heir : Account := { address := Address.ofNum 2000 }
    let treasury : Account :=
      { address := Address.ofNum 3000, kind := .contract, numTreasuryTitles := 1 }
    let contents : Snapshot.Contents := { accounts := Table.ofList [(heir.address, heir)] }
    let world :=
      (World.ofSnapshot (.ofContents contents) false ⟨0⟩ 5000).push.createAccount treasury
    let rule : SelfDestructRule := ⟨true, true⟩
    (rule.sparesOldContracts = true → world.isCreated treasury.address = true) ∧
      world.objectionToSelfDestruct? rule treasury.address heir.address =
        .ok (some .contractIsTreasury) := by
  intro heir treasury contents world rule
  have considered :
      rule.sparesOldContracts = true → world.isCreated treasury.address = true := by
    decide +kernel
  have admits : world.AdmitsBeneficiary rule heir.address := by
    unfold AdmitsBeneficiary
    decide +kernel
  have titled : world.isTokenTreasury treasury.address = .ok true := by decide +kernel
  have inOrder := @objections_are_raised_in_order world rule _ heir.address considered
  exact ⟨considered, inOrder.2.2.1.mpr ⟨admits, by decide +kernel, titled⟩⟩

/--
Rules that ask about the beneficiary ask about it first: what else stands against a treasury, or
against a contract that is its own beneficiary, is not said.
-/
theorem refused_beneficiary_hides_other_objections :
    let treasury : Account :=
      { address := Address.ofNum 1001, kind := .contract, numTreasuryTitles := 1 }
    let system : Account := { address := Address.ofNum 700, kind := .contract }
    let nobody := Address.ofNum 9999
    let contents : Snapshot.Contents :=
      { accounts :=
          Table.ofList ([treasury, system].map fun account => (account.address, account)) }
    let world := World.ofSnapshot (.ofContents contents) false ⟨0⟩ 5000
    ∃ rules,
      Ruleset.ofVersion? ⟨0, 38, 0⟩ = some rules ∧
        rules.selfDestruct.sparesOldContracts = false ∧
          world.isTokenTreasury treasury.address = .ok true ∧
            world.objectionToSelfDestruct? rules.selfDestruct treasury.address nobody =
                .ok (some .invalidSolidityAddress) ∧
              world.objectionToSelfDestruct? rules.selfDestruct system.address system.address =
                .ok (some .invalidSolidityAddress) := by
  refine ⟨⟨⟨0, 38, 0⟩, .shanghai, ⟨true, false⟩, ⟨true, true⟩⟩, ?_⟩
  decide +kernel

end World

end LedgerEvm
