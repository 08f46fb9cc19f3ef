import LedgerEvm.Ledger.Transfer
import LedgerEvm.Machine.Admission
import LedgerEvm.Proofs.Ledger.Accounts

namespace LedgerEvm

/-!
# How the world evolves

Whatever a simulation does to its world is made of single moves and of frames that are
opened and then kept or dropped.  What is to hold of every run is shown of each move and
carried through the frames by one induction.
-/

namespace Account

/-- The change concerns nothing but what is counted about token holdings. -/
def IsCounting (change : Account → Account) : Prop :=
  ∀ account, ∃ associations balances titles pieces,
    change account =
      { account with
        numAssociations := associations
        numPositiveBalances := balances
        numTreasuryTitles := titles
        ownedNfts := pieces }

end Account

namespace World

/-- The number that is drawn next becomes known. -/
def draw (world : World) : World :=
  { world with nextNum := world.nextNum + 1 }

/--
One move in the world, made by a frame that is static or not.  A static frame only marks
what it accesses.
-/
inductive Move : Bool → World → World → Prop where
  | warmAccount
      (isStatic : Bool) (world : World) (address : Address) :
      Move isStatic world (world.warmAccount address)
  | warmSlot
      (isStatic : Bool) (world : World) (address : Address) (key : Word) :
      Move isStatic world (world.warmSlot address key)
  | draw
      (world : World) :
      Move false world world.draw
  | setStorage
      (world : World) (address : Address) (key value : Word) :
      Move false world (world.setStorage address key value)
  | setTransient
      (world : World) (address : Address) (key value : Word) :
      Move false world (world.setTransient address key value)
  | transfer
      {world after : World} {source target : Address} {value : Word}
      (moved : world.transfer source target value = .ok after) :
      Move false world after
  | countNonce
      {world after : World} {address : Address} {reached : Bool}
      (counted :
        world.updateAccount address
            (fun account => { account with nonce := account.nonce.addClamp 1 }) =
          .ok (reached, after)) :
      Move false world after
  | newContract
      {world : World} {address : Address}
      (free : world.isFree address = .ok true) :
      Move false world
        (world.createAccount { Account.newContract address [] with nonce := 1 })
  | deploy
      {world after : World} {address : Address} {code : Bytes} {reached : Bool}
      (deployed :
        world.updateAccount address (fun account => { account with code }) =
          .ok (reached, after)) :
      Move false world after
  | destroy
      {world emptied after : World} {rule : SelfDestructRule}
      {contract beneficiary : Address} {balance : Word}
      (unopposed : world.objectionToSelfDestruct? rule contract beneficiary = .ok none)
      (held : world.balance contract = .ok balance)
      (swept : world.transfer contract beneficiary balance = .ok emptied)
      (doomed : rule.sparesOldContracts = true → emptied.isCreated contract = true)
      (deleted : emptied.deleteAccount contract = .ok after) :
      Move false world after
  | count
      {world after : World} {address : Address} {change : Account → Account}
      {reached : Bool}
      (isCounting : Account.IsCounting change)
      (counted : world.updateAccount address change = .ok (reached, after)) :
      Move false world after
  | putRelationship
      (world : World) (account token : Address) (entry : Option Relationship) :
      Move false world (world.putRelationship account token entry)
  | putNft
      (world : World) (token : Address) (serial : Int64) (entry : Option Nft) :
      Move false world (world.putNft token serial entry)
  | setAllowance
      (world : World) (owner token spender : Address) (amount : UInt64) :
      Move false world (world.setAllowance owner token spender amount)
  | changeSupply
      {world : World} {address : Address} {token : Token}
      (known : world.token address = .ok (some token))
      (totalSupply : UInt64) (lastUsedSerial : Int64) :
      Move false world (world.putToken { token with totalSupply, lastUsedSerial })
  | newToken
      {world : World} {token : Token}
      (free : world.isFree token.address = .ok true) :
      Move false world (world.putToken token)

/-- Moves one after the other, and frames that are kept or dropped. -/
inductive Evolves (isStatic : Bool) : World → World → Prop where
  | refl (world : World) :
      Evolves isStatic world world
  | move {start middle after : World} :
      Evolves isStatic start middle →
      Move isStatic middle after →
      Evolves isStatic start after
  | kept {start middle inner : World} :
      Evolves isStatic start middle →
      Evolves isStatic middle.push inner →
      Evolves isStatic start inner.commit
  | dropped {start middle inner : World} :
      Evolves isStatic start middle →
      Evolves isStatic middle.push inner →
      Evolves isStatic start inner.revert

namespace Evolves

variable
  {isStatic : Bool}
  {start middle after : World}

theorem trans
    (first : Evolves isStatic start middle)
    (second : Evolves isStatic middle after) :
    Evolves isStatic start after := by
  induction second with
  | refl =>
      exact first
  | move _ move reached =>
      exact (reached first).move move
  | kept _ inside reached _ =>
      exact (reached first).kept inside
  | dropped _ inside reached _ =>
      exact (reached first).dropped inside

/-- What a static frame may do any frame may do. -/
theorem of_static
    (evolves : Evolves true start after) :
    Evolves isStatic start after := by
  induction evolves with
  | refl =>
      exact .refl _
  | move _ move reached =>
      cases move with
      | warmAccount => exact reached.move (.warmAccount _ _ _)
      | warmSlot => exact reached.move (.warmSlot _ _ _ _)
  | kept _ _ reached inside =>
      exact reached.kept inside
  | dropped _ _ reached inside =>
      exact reached.dropped inside

end Evolves

/-! ## Drawing addresses -/

/-- What the draw of a number keeps, the search for a free address keeps. -/
theorem holds_drawFreeAddress
    (invariant : World → Prop)
    (draw : ∀ {world : World}, invariant world → invariant world.draw)
    (sponsor : Address)
    (attempts : Nat)
    {world : World}
    (holds : invariant world) :
    invariant (drawFreeAddress sponsor attempts world).2 := by
  induction attempts generalizing world with
  | zero =>
      exact holds
  | succ attempts inductionHypothesis =>
      have drawn : invariant (world.nextAddress sponsor).2 := draw holds
      unfold drawFreeAddress
      dsimp only
      split
      · exact drawn
      · exact drawn
      · exact inductionHypothesis drawn

/-- The address that is found is free. -/
theorem isFree_drawFreeAddress
    (sponsor : Address)
    (attempts : Nat)
    (world : World)
    (address : Address)
    (found : (drawFreeAddress sponsor attempts world).1 = .ok address) :
    (drawFreeAddress sponsor attempts world).2.isFree address = .ok true := by
  induction attempts generalizing world with
  | zero =>
      cases found
  | succ attempts inductionHypothesis =>
      unfold drawFreeAddress at found ⊢
      dsimp only at found ⊢
      split
      · rename_i failed
        rw [failed] at found
        cases found
      · rename_i free
        rw [free] at found
        cases found
        exact free
      · rename_i taken
        rw [taken] at found
        exact inductionHypothesis _ found

/-- Drawing addresses changes the next number only. -/
theorem drawFreeAddress_eq
    (sponsor : Address)
    (attempts : Nat)
    (world : World) :
    (drawFreeAddress sponsor attempts world).2 =
      { world with nextNum := (drawFreeAddress sponsor attempts world).2.nextNum } := by
  induction attempts generalizing world with
  | zero =>
      rfl
  | succ attempts inductionHypothesis =>
      unfold drawFreeAddress
      dsimp only
      split
      · rfl
      · rfl
      · rw [inductionHypothesis]
        rfl

/-- What is kept by drawing numbers is kept where an address for a contract is drawn. -/
theorem holds_newContractAddress
    (invariant : World → Prop)
    (draw : ∀ {world : World}, invariant world → invariant world.draw)
    {creator : Address}
    {answer : Except StateError Address}
    {before drawn : World}
    (draws : before.newContractAddress creator = (answer, drawn))
    (holds : invariant before) :
    invariant drawn := by
  have kept := holds_drawFreeAddress invariant draw creator addressAttempts holds
  rw [newContractAddress] at draws
  rwa [draws] at kept

/-- Drawing an address changes the next number only, and the address is free. -/
theorem of_newContractAddress
    {creator address : Address}
    {before drawn : World}
    (draws : before.newContractAddress creator = (.ok address, drawn)) :
    drawn = { before with nextNum := drawn.nextNum } ∧ drawn.isFree address = .ok true := by
  have drawsOnly := drawFreeAddress_eq creator addressAttempts before
  have free := isFree_drawFreeAddress creator addressAttempts before address
  rw [newContractAddress] at draws
  rw [draws] at drawsOnly free
  exact ⟨drawsOnly, free rfl⟩

/-! ## What lies below -/

/-- Two worlds that differ in the innermost journal and the next number only. -/
structure SameBelow (before after : World) : Prop where
  snapshot : after.snapshot = before.snapshot
  redirects : after.redirectsTokenCalls = before.redirectsTokenCalls
  timestamp : after.timestamp = before.timestamp
  outer : after.layers.tail = before.layers.tail
  depth : after.layers.length = before.layers.length

namespace SameBelow

variable {before middle after : World}

theorem refl
    (world : World) :
    SameBelow world world :=
  ⟨rfl, rfl, rfl, rfl, rfl⟩

theorem trans
    (first : SameBelow before middle)
    (second : SameBelow middle after) :
    SameBelow before after :=
  ⟨second.snapshot.trans first.snapshot, second.redirects.trans first.redirects,
    second.timestamp.trans first.timestamp, second.outer.trans first.outer,
    second.depth.trans first.depth⟩

theorem isOpen
    (same : SameBelow before after)
    (isOpen : before.IsOpen) :
    after.IsOpen := by
  intro bare
  have depth := same.depth
  rw [bare, List.length_nil] at depth
  exact isOpen (List.length_eq_zero_iff.mp depth.symm)

/-- A write goes to the innermost journal. -/
theorem record
    (world : World)
    (change : Journal → Journal) :
    SameBelow world (world.record change) := by
  cases shape : world.layers with
  | nil =>
      simp only [World.record, shape]
      exact refl world
  | cons inner outer =>
      constructor <;> simp [World.record, shape]

theorem updateAccount
    {address : Address}
    {change : Account → Account}
    {reached : Bool}
    (result : before.updateAccount address change = .ok (reached, after)) :
    SameBelow before after := by
  rcases updateAccount_cases result with ⟨_, _, rfl⟩ | ⟨account, _, _, rfl⟩
  · exact refl _
  · exact record _ _

/-- Keeping a frame leaves what lies below the caller's journal. -/
theorem commit
    (inside : SameBelow before.push after) :
    SameBelow before after.commit := by
  have outer : after.layers.tail = before.layers := inside.outer
  have depth : after.layers.length = before.layers.length + 1 := inside.depth
  cases shape : after.layers with
  | nil =>
      simp [shape] at depth
  | cons child rest =>
      rw [shape, List.tail_cons] at outer
      subst outer
      cases below : before.layers with
      | nil =>
          rw [below] at shape
          refine ⟨?_, ?_, ?_, ?_, ?_⟩ <;> simp only [World.commit, shape, below]
          · exact inside.snapshot
          · exact inside.redirects
          · exact inside.timestamp
      | cons parent rest =>
          rw [below] at shape
          refine ⟨?_, ?_, ?_, ?_, ?_⟩ <;>
            simp only [World.commit, shape, below, List.tail_cons, List.length_cons]
          · exact inside.snapshot
          · exact inside.redirects
          · exact inside.timestamp

/-- Dropping a frame restores the world but for the numbers drawn in it. -/
theorem revert_eq
    (inside : SameBelow before.push after) :
    after.revert = { before with nextNum := after.nextNum } := by
  have outer : after.layers.tail = before.layers := inside.outer
  have snapshot : after.snapshot = before.snapshot := inside.snapshot
  have redirects : after.redirectsTokenCalls = before.redirectsTokenCalls :=
    inside.redirects
  have timestamp : after.timestamp = before.timestamp := inside.timestamp
  simp only [revert, outer, snapshot, redirects, timestamp]

theorem revert
    (inside : SameBelow before.push after) :
    SameBelow before after.revert := by
  rw [inside.revert_eq]
  exact ⟨rfl, rfl, rfl, rfl, rfl⟩

/-- Moving currency writes to the innermost journal. -/
theorem transfer
    {source target : Address}
    {value : Word}
    (moved : before.transfer source target value = .ok after) :
    SameBelow before after := by
  rcases transfer_cases moved with
    ⟨_, rfl⟩ | ⟨_, _, _, _, _, _, _, _, _, debit, credit, ends⟩
  · exact refl _
  · refine (updateAccount debit).trans ((updateAccount credit).trans ?_)
    rcases ends with ⟨_, rfl⟩ | ⟨_, _, rfl⟩
    · exact refl _
    · exact record _ _

theorem deleteAccount
    {address : Address}
    (deleted : before.deleteAccount address = .ok after) :
    SameBelow before after :=
  updateAccount (updateAccount_of_deleteAccount deleted)

/-- Every move leaves what lies below the innermost journal. -/
theorem of_move
    {isStatic : Bool}
    (move : Move isStatic before after) :
    SameBelow before after := by
  cases move with
  | draw => exact ⟨rfl, rfl, rfl, rfl, rfl⟩
  | transfer moved => exact transfer moved
  | countNonce counted => exact updateAccount counted
  | deploy deployed => exact updateAccount deployed
  | count _ counted => exact updateAccount counted
  | destroy _ _ swept _ deleted => exact (transfer swept).trans (deleteAccount deleted)
  | _ => exact record _ _

/-- However a world evolves, what lies below the innermost journal stays. -/
theorem of_evolves
    {isStatic : Bool}
    (evolves : Evolves isStatic before after) :
    SameBelow before after := by
  induction evolves with
  | refl world => exact refl world
  | move _ move reached => exact reached.trans (of_move move)
  | kept _ _ reached inside => exact reached.trans inside.commit
  | dropped _ _ reached inside => exact reached.trans inside.revert

end SameBelow

/-! ## What the ends of frames show -/

variable {world after : World}

/-- Dropping a frame restores all answers. -/
theorem view_revert
    (inside : SameBelow world.push after) :
    after.revert.view = world.view := by
  rw [inside.revert_eq]
  rfl

/-- Keeping a frame inside another keeps all answers. -/
theorem view_commit
    (isOpen : world.IsOpen)
    (inside : SameBelow world.push after) :
    after.commit.view = after.view := by
  have outer : after.layers.tail = world.layers := inside.outer
  obtain ⟨parent, rest, below⟩ := List.exists_cons_of_ne_nil isOpen
  cases shape : after.layers with
  | nil =>
      rw [shape, below] at outer
      cases outer
  | cons child others =>
      rw [shape, List.tail_cons, below] at outer
      rw [outer] at shape
      refine view_congr ?_ ?_ (overlay_commit shape) <;> simp only [commit, shape]

/-- A frame over the bare view has no caller to keep its writes. -/
theorem commit_eq_revert_of_bare
    (bare : ¬ world.IsOpen)
    (inside : SameBelow world.push after) :
    after.commit = after.revert := by
  have layers : world.layers = [] := Decidable.not_not.mp bare
  have outer : after.layers.tail = world.layers := inside.outer
  rw [layers] at outer
  cases shape : after.layers with
  | nil => simp only [commit, revert, shape, List.tail_nil]
  | cons child others =>
      rw [shape, List.tail_cons] at outer
      subst outer
      simp only [commit, revert, shape, List.tail_cons]

end World

/-!
## Frames inside frames

A frame that fails brings the world back to where it was when the frame was opened.  What is
to hold at every moment therefore has to hold at each level: in the innermost frame, and in
each frame around it as it was left.
-/

namespace World

/--
An invariant holds inside so many open frames: in the world as it is and, for each frame
that is open, in the world in which it was opened.
-/
inductive AtEachLevel (invariant : World → Prop) : Nat → World → Prop where
  | outermost
      {world : World}
      (holds : invariant world) :
      AtEachLevel invariant 0 world
  | inside
      {depth : Nat} {below world : World}
      (levels : AtEachLevel invariant depth below)
      (opened : SameBelow below.push world)
      (holds : invariant world) :
      AtEachLevel invariant (depth + 1) world

/-- An invariant that is kept when a frame ends in which it has been kept. -/
structure KeptByEnds (invariant : World → Prop) : Prop where
  commit :
    ∀ {below world : World},
      invariant below → SameBelow below.push world → invariant world → invariant world.commit
  revert :
    ∀ {below world : World},
      invariant below → SameBelow below.push world → invariant world → invariant world.revert

/--
An invariant of worlds with an open frame that depends on what they answer, and on whether
calls are redirected to tokens.
-/
structure IsAboutAnswers (invariant : World → Prop) : Prop where
  isOpen :
    ∀ {world : World}, invariant world → world.IsOpen
  congr :
    ∀ {world after : World},
      after.IsOpen →
      after.redirectsTokenCalls = world.redirectsTokenCalls →
      after.view = world.view →
      invariant world →
      invariant after

namespace IsAboutAnswers

variable
  {invariant : World → Prop}
  (about : IsAboutAnswers invariant)
  {world : World}
include about

/-- Opening a frame changes no answer. -/
theorem push
    (holds : invariant world) :
    invariant world.push := by
  refine about.congr (isOpen_push world) ?_ (view_push world) holds
  rfl

/-- Numbers that are drawn show in no answer. -/
theorem draw
    (number : UInt64)
    (holds : invariant world) :
    invariant { world with nextNum := number } := by
  have isOpen : world.IsOpen := about.isOpen holds
  refine about.congr ?_ ?_ ?_ holds
  · exact isOpen
  · rfl
  · rfl

/-- Frames that end restore the answers or keep them. -/
theorem keptByEnds :
    KeptByEnds invariant where
  commit below opened inside :=
    about.congr (opened.commit.isOpen (about.isOpen below))
      (opened.commit.redirects.trans opened.redirects.symm)
      (view_commit (about.isOpen below) opened) inside
  revert below opened _ :=
    about.congr (opened.revert.isOpen (about.isOpen below)) opened.revert.redirects
      (view_revert opened) below

/-- What all moves keep is kept however the world evolves. -/
theorem of_evolves
    {isStatic : Bool}
    {after : World}
    (moves :
      ∀ {world after : World}, Move isStatic world after → invariant world → invariant after)
    (evolves : Evolves isStatic world after)
    (holds : invariant world) :
    invariant after := by
  induction evolves with
  | refl => exact holds
  | move _ move reached => exact moves move (reached holds)
  | kept _ inside reached kept =>
      exact about.keptByEnds.commit (reached holds) (.of_evolves inside)
        (kept (about.push (reached holds)))
  | dropped _ inside reached kept =>
      exact about.keptByEnds.revert (reached holds) (.of_evolves inside)
        (kept (about.push (reached holds)))

end IsAboutAnswers

namespace AtEachLevel

variable
  {invariant : World → Prop}
  {depth : Nat}
  {world after : World}

theorem holds
    (levels : AtEachLevel invariant depth world) :
    invariant world := by
  cases levels with
  | outermost holds => exact holds
  | inside _ _ holds => exact holds

/-- A change in the innermost frame leaves what lies around it. -/
theorem change
    (levels : AtEachLevel invariant depth world)
    (same : SameBelow world after)
    (holds : invariant after) :
    AtEachLevel invariant depth after := by
  cases levels with
  | outermost => exact .outermost holds
  | inside levels opened => exact .inside levels (opened.trans same) holds

/-- The innermost frame ends and keeps its writes. -/
theorem commit
    (levels : AtEachLevel invariant (depth + 1) world)
    (kept : KeptByEnds invariant) :
    AtEachLevel invariant depth world.commit := by
  cases levels with
  | inside levels opened holds =>
      exact levels.change opened.commit (kept.commit levels.holds opened holds)

/-- The innermost frame ends and drops its writes. -/
theorem revert
    (levels : AtEachLevel invariant (depth + 1) world)
    (kept : KeptByEnds invariant) :
    AtEachLevel invariant depth world.revert := by
  cases levels with
  | inside levels opened holds =>
      exact levels.change opened.revert (kept.revert levels.holds opened holds)

end AtEachLevel

end World

end LedgerEvm
