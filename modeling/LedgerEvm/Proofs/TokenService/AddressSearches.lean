import LedgerEvm.Proofs.EntityAddresses
import LedgerEvm.Proofs.Ledger.Accounts
import LedgerEvm.Proofs.Ledger.Evolution
import LedgerEvm.Proofs.Ledger.Payments
import LedgerEvm.Proofs.TokenService.Calls
import LedgerEvm.Proofs.TokenService.SteadyCalls

namespace LedgerEvm

/-!
# Addresses that are searched for

A search draws numbers until one makes an address that is free.  The address it answers has the
last number that it drew, so as long as the counter rises from search to search, no two
searches answer the same address.
-/

/-- The numbers of two entities with one address are the same. -/
theorem EntityId.num_eq_of_toAddress_eq
    {entity other : EntityId}
    (same : entity.toAddress = other.toAddress) :
    entity.num = other.num :=
  congrArg EntityId.num (EntityId.toAddress_injective same)

/-- The address of an entity with the number, in some shard and realm. -/
def Address.HasNumber (address : Address) (num : UInt64) : Prop :=
  ∃ shard realm, address = EntityId.toAddress ⟨shard, realm, num⟩

/-- An address has one number. -/
theorem Address.HasNumber.unique
    {address : Address}
    {num other : UInt64}
    (has : address.HasNumber num)
    (has' : address.HasNumber other) :
    num = other := by
  obtain ⟨_, _, rfl⟩ := has
  obtain ⟨_, _, same⟩ := has'
  exact EntityId.num_eq_of_toAddress_eq same

namespace World

theorem nextNum_commit
    (world : World) :
    world.commit.nextNum = world.nextNum := by
  unfold commit
  split <;> rfl

/--
A search draws no more numbers than it has attempts, one after the other, and answers an address
with the last of them.
-/
theorem exists_count_of_drawFreeAddress
    (sponsor : Address)
    (attempts : Nat)
    (world : World) :
    ∃ count ≤ attempts,
      (drawFreeAddress sponsor attempts world).2.nextNum =
          world.nextNum + UInt64.ofNat count ∧
        ∀ address, (drawFreeAddress sponsor attempts world).1 = .ok address →
          ∃ num, address.HasNumber num ∧
            num + 1 = (drawFreeAddress sponsor attempts world).2.nextNum := by
  induction attempts generalizing world with
  | zero => exact ⟨0, Nat.le_refl 0, (UInt64.add_zero _).symm, nofun⟩
  | succ attempts inductionHypothesis =>
      unfold drawFreeAddress
      dsimp only
      split
      · exact ⟨1, Nat.le_add_left 1 attempts, rfl, nofun⟩
      · refine ⟨1, Nat.le_add_left 1 attempts, rfl, fun address answered => ?_⟩
        cases answered
        exact ⟨world.nextNum, ⟨_, _, rfl⟩, rfl⟩
      · obtain ⟨count, most, counted, numbered⟩ :=
          inductionHypothesis (world.nextAddress sponsor).2
        refine ⟨count + 1, Nat.succ_le_succ most, ?_, numbered⟩
        rw [counted, UInt64.ofNat_add, UInt64.add_comm (UInt64.ofNat count), ← UInt64.add_assoc]
        rfl

end World

/-- A search for a free address: the world in which it is drawn, and for whom. -/
abbrev AddressSearch :=
  World × Address

namespace AddressSearch

variable
  {search : AddressSearch}
  {searches : List AddressSearch}
  {address : Address}
  {number last : UInt64}

/-- The world that is searched. -/
abbrev world (search : AddressSearch) : World :=
  search.1

/-- The account that the address is for. -/
abbrev sponsor (search : AddressSearch) : Address :=
  search.2

/-- The address that is found, if one is. -/
def answer? (search : AddressSearch) : Option Address :=
  (search.world.newContractAddress search.sponsor).1.toOption

/-- The world when numbers have been drawn for the search. -/
def drawn (search : AddressSearch) : World :=
  (search.world.newContractAddress search.sponsor).2

/-- The counter rises in the search: it does not start again from zero. -/
def Rises (search : AddressSearch) : Prop :=
  search.world.nextNum < search.drawn.nextNum

theorem answered_of_answer?
    (answered : search.answer? = some address) :
    search.world.newContractAddress search.sponsor = (.ok address, search.drawn) := by
  unfold answer? at answered
  cases found : (search.world.newContractAddress search.sponsor).1 with
  | error error =>
      rw [found] at answered
      cases answered
  | ok address' =>
      rw [found] at answered
      cases answered
      exact Prod.ext found rfl

/-- Where an address is found, there is neither an account entry nor a token. -/
theorem vacant_of_answer?
    (answered : search.answer? = some address) :
    search.world.accountEntry address = .ok none ∧ search.world.token address = .ok none := by
  obtain ⟨same, free⟩ := World.of_newContractAddress (answered_of_answer? answered)
  rw [same] at free
  exact World.isFree_iff.mp free

/-- The number of the address lies where the counter has been in the search. -/
theorem Rises.exists_number
    (rises : search.Rises)
    (answered : search.answer? = some address) :
    ∃ num, address.HasNumber num ∧ search.world.nextNum ≤ num ∧ num < search.drawn.nextNum := by
  obtain ⟨count, most, counted, numbered⟩ :=
    World.exists_count_of_drawFreeAddress search.sponsor World.addressAttempts search.world
  obtain ⟨num, has, final⟩ := numbered address
    (congrArg Prod.fst (answered_of_answer? answered))
  change search.drawn.nextNum = _ at counted
  change _ = search.drawn.nextNum at final
  refine ⟨num, has, ?_⟩
  unfold Rises at rises
  rw [UInt64.lt_iff_toNat_lt] at rises ⊢
  rw [UInt64.le_iff_toNat_le]
  have next := congrArg UInt64.toNat final
  have reached := congrArg UInt64.toNat counted
  have few : count ≤ 1000 := most
  have one : (1 : UInt64).toNat = 1 := rfl
  rw [UInt64.toNat_add, one] at next
  rw [UInt64.toNat_add, UInt64.toNat_ofNat_of_lt' (Nat.lt_of_le_of_lt few (by decide))] at reached
  have bound := num.toNat_lt
  have bound' := search.world.nextNum.toNat_lt
  omega

/-- Each search starts from the number that the one before has left. -/
inductive Follow : UInt64 → List AddressSearch → UInt64 → Prop where
  | none (number : UInt64) : Follow number [] number
  | next
      (search : AddressSearch) {searches : List AddressSearch} {last : UInt64}
      (rest : Follow search.drawn.nextNum searches last) :
      Follow search.world.nextNum (search :: searches) last

namespace Follow

theorem of_eq
    (same : last = number) :
    Follow number [] last :=
  same ▸ .none number

theorem append
    {others : List AddressSearch}
    {final : UInt64}
    (follow : Follow number searches last)
    (rest : Follow last others final) :
    Follow number (searches ++ others) final := by
  induction follow with
  | none number => exact rest
  | next search _ inductionHypothesis => exact .next search (inductionHypothesis rest)

/-- What is found later has no number from before. -/
theorem exists_number
    (follow : Follow number searches last)
    (rise : ∀ search ∈ searches, search.Rises)
    (member : search ∈ searches)
    (answered : search.answer? = some address) :
    ∃ num, address.HasNumber num ∧ number ≤ num := by
  induction follow with
  | none number => cases member
  | next first rest inductionHypothesis =>
      obtain ⟨firstRises, othersRise⟩ := List.forall_mem_cons.mp rise
      rcases List.mem_cons.mp member with rfl | later
      · obtain ⟨num, has, least, -⟩ := firstRises.exists_number answered
        exact ⟨num, has, least⟩
      · obtain ⟨num, has, least⟩ := inductionHypothesis othersRise later
        exact ⟨num, has, UInt64.le_trans (UInt64.le_of_lt firstRises) least⟩

/-- As long as the counter rises, no address is found twice. -/
theorem nodup_answers
    (follow : Follow number searches last)
    (rise : ∀ search ∈ searches, search.Rises) :
    (searches.filterMap answer?).Nodup := by
  induction follow with
  | none number => exact List.nodup_nil
  | next first rest inductionHypothesis =>
      obtain ⟨firstRises, othersRise⟩ := List.forall_mem_cons.mp rise
      have others := inductionHypothesis othersRise
      cases answered : first.answer? with
      | none => rwa [List.filterMap_cons_none answered]
      | some address =>
          rw [List.filterMap_cons_some answered]
          refine List.nodup_cons.mpr ⟨fun again => ?_, others⟩
          obtain ⟨later, member, found⟩ := List.mem_filterMap.mp again
          obtain ⟨num, has, -, before⟩ := firstRises.exists_number answered
          obtain ⟨num', has', least⟩ := rest.exists_number othersRise member found
          cases has.unique has'
          exact UInt64.lt_irrefl _ (UInt64.lt_of_lt_of_le before least)

end Follow

end AddressSearch

/-!
## Addresses for new tokens

Of the operations of the token service only the creation of a token searches for an address,
once it has been checked.  A call that is dispatched does so if it is read into a creation, is
paid for, and the creation passes its checks; any other call draws no numbers.
-/

open AddressSearch (Follow)

namespace TokenAction

/-! ### Operations -/

/-- What has been read of the ledger does not tell how many numbers are drawn. -/
theorem keptBySupply_nextNum
    (number : UInt64) :
    KeptBySupply fun world => world.nextNum = number where
  count _ counted drawn := (World.nextNum_updateAccount counted).trans drawn
  putRelationship _ _ _ drawn := (World.nextNum_record _ _).trans drawn
  putNft _ _ _ drawn := (World.nextNum_record _ _).trans drawn
  setAllowance _ _ _ _ drawn := (World.nextNum_record _ _).trans drawn
  changeSupply _ _ _ drawn := (World.nextNum_record _ _).trans drawn

/-- Checking leaves the world as it is. -/
theorem keeps_checkCreation
    {invariant : World → Prop}
    (body : TokenCreate) :
    Keeps invariant (checkCreation body) :=
  (keeps_ensureAccount _ _).bind fun _ => keeps_ensure _ _

theorem leaves_freshAddress
    (sponsor : Address)
    (world : World) :
    leaves (freshAddress sponsor) world = (world.newContractAddress sponsor).2 := by
  unfold leaves freshAddress
  cases world.newContractAddress sponsor with
  | mk answer drawn => cases answer <;> rfl

/-- A token is checked, given an address, and put there without drawing further numbers. -/
theorem exists_create_eq
    (creation : TokenCreate)
    (sender : Address) :
    ∃ place : Address → TokenAction Address,
      create creation sender =
          (checkCreation creation >>= fun _ => freshAddress sender >>= place) ∧
        ∀ number address, Keeps (fun world => world.nextNum = number) (place address) := by
  refine ⟨_, (bind_assoc _ _ _).symm, fun number address => ?_⟩
  have kept := keptBySupply_nextNum number
  refine Keeps.bind ?_ fun _ => ?_
  · exact keeps_change fun _ drawn => (World.nextNum_record _ _).trans drawn
  · refine Keeps.bind (keeps_change fun _ => kept.putRelationship _ _ _) fun _ => ?_
    exact (kept.adjust _ fun _ => ⟨_, _, _, _, rfl⟩).bind fun _ => Keeps.pure _

/-- A creation that passes its checks draws the numbers of its search, any other draws none. -/
theorem follow_create
    (creation : TokenCreate)
    (sender : Address)
    (world : World) :
    Follow world.nextNum ((drawing? (.tokenCreate creation) world).map (·, sender)).toList
      (leaves (create creation sender) world).nextNum := by
  obtain ⟨place, split, keeps⟩ := exists_create_eq creation sender
  have same : Keeps (· = world) (checkCreation creation) := keeps_checkCreation creation
  rw [split]
  unfold drawing?
  dsimp only
  cases checked : checkCreation creation world with
  | error error refused =>
      obtain rfl : refused = world := same.of_error checked rfl
      rw [leaves_bind_of_error checked]
      exact .none _
  | ok answer passed =>
      rw [leaves_bind_of_ok checked, Keeps.read_leaves_bind keeps, leaves_freshAddress]
      obtain rfl : passed = world := same.of_ok checked rfl
      exact .next (passed, sender) (.none _)

/-- An operation draws the numbers of its search, and no others. -/
theorem follow_run
    {body : TransactionBody}
    (noCurrency : body.MovesNoCurrency)
    (sender : Address)
    (world : World) :
    Follow world.nextNum ((drawing? body world).map (·, sender)).toList
      (leaves (run body sender) world).nextNum := by
  by_cases creates : ∃ creation, body = .tokenCreate creation
  · obtain ⟨creation, rfl⟩ := creates
    rw [run, leaves_bind_pure]
    exact follow_create creation sender world
  · have noSearch : drawing? body world = none := by
      unfold drawing?
      split
      · exact (creates ⟨_, rfl⟩).elim
      · rfl
    have kept : Keeps (fun after => after.nextNum = world.nextNum) (run body sender) :=
      (keptBySupply_nextNum _).run noCurrency (fun creation is => creates ⟨creation, is⟩) sender
    rw [noSearch, kept.holds_leaves rfl]
    exact .none _

/-- A frame of the world draws what is drawn in it, whether it is kept or dropped. -/
theorem nextNum_leaves_framed
    {α : Type}
    (action : TokenAction α)
    (world : World) :
    (leaves action.framed world).nextNum = (leaves action world.push).nextNum := by
  unfold leaves framed
  cases action world.push with
  | error error inner => rfl
  | ok answer inner => exact inner.nextNum_commit

end TokenAction

/-! ### Calls -/

/-- A call of a function leaves what the transaction does that it carries out, if there is one. -/
theorem SystemCall.leaves_execute
    (call : SystemCall)
    (source : PriceSource)
    (function : TokenFunction)
    (input : Bytes)
    (setting : CallSetting)
    (world : World) :
    leaves (call.execute source function input setting) world =
      (call.paidBody? source function input setting world).elim world fun body =>
        leaves (TokenAction.run body call.sender).framed world := by
  unfold execute paidBody?
  dsimp only
  split
  · rfl
  cases function.readCall input setting call.sender with
  | error error => rfl
  | ok read =>
      change leaves (execute.liftExcept (call.gasOf source world read) >>= _) world = _
      cases costs : call.gasOf source world read with
      | error error =>
          cases read with
          | query query => rfl
          | write body kind => simp only [costs]; rfl
      | ok gasCost =>
          change leaves (execute.liftExcept (call.checkGas gasCost) >>= _) world = _
          cases paid : call.checkGas gasCost with
          | error error =>
              cases read with
              | query query => rfl
              | write body kind => simp only [costs, bind, Except.bind, paid]; rfl
          | ok =>
              change leaves (call.perform read >>= _) world = _
              rw [leaves_bind_pure]
              cases read with
              | write body kind =>
                  simp only [costs, bind, Except.bind, paid, Option.elim_some]
                  exact leaves_bind_pure _ _ _
              | query query =>
                  simp only [perform, leaves_bind_pure]
                  exact (TokenAction.keeps_approvedSpender query : Keeps (· = world) _).holds_leaves
                    rfl

namespace DispatchedCall

variable
  {dispatched : DispatchedCall}
  {world : World}

/-- A transaction that a call carries out moves no currency. -/
theorem movesNoCurrency_of_paidBody?
    {body : TransactionBody}
    (paid : dispatched.paidBody? world = some body) :
    body.MovesNoCurrency := by
  obtain ⟨⟨function, setting⟩, _, paid⟩ := Option.bind_eq_some_iff.mp paid
  unfold SystemCall.paidBody? at paid
  dsimp only at paid
  split at paid
  · cases paid
  split at paid
  · rename_i reads
    split at paid
    · cases paid
      exact (TokenFunction.reads_of_readCall reads).2
    · cases paid
  · cases paid

/-- A dispatched call leaves what the transaction does that it carries out, if there is one. -/
theorem leaves_answer_eq
    (dispatched : DispatchedCall)
    (world : World) :
    leaves dispatched.answer world =
      (dispatched.paidBody? world).elim world fun body =>
        leaves (TokenAction.run body dispatched.call.sender).framed world := by
  unfold answer paidBody? called?
  cases dispatched.token? with
  | none =>
      dsimp only [SystemCall.answerService]
      cases SystemCall.readSelector dispatched.input with
      | error error => rfl
      | ok selector =>
          simp only [Except.bind, Except.toOption, Option.bind_eq_bind, Option.bind_some]
          cases SystemCall.find TokenFunction.serviceTable selector with
          | error error => rfl
          | ok function => exact dispatched.call.leaves_execute _ _ _ _ _
  | some address =>
      dsimp only [SystemCall.answerToken]
      cases SystemCall.readSelector dispatched.input with
      | error error => rfl
      | ok selector =>
          simp only [Except.toOption, Option.bind_eq_bind, Option.bind_some]
          cases SystemCall.find TokenFunction.tokenTable selector with
          | error error => rfl
          | ok function =>
              simp only [Option.bind_some]
              cases found : world.token address with
              | error error =>
                  have asked :
                      TokenAction.ask (fun world => world.token address) world =
                        .error (.ofState error) world := by
                    simp only [TokenAction.ask, found]
                  exact leaves_bind_of_error (bind_eq_of_error asked)
              | ok token? =>
                  have asked :
                      TokenAction.ask (fun world => world.token address) world =
                        .ok token? world := by
                    simp only [TokenAction.ask, found]
                  cases token? with
                  | none => exact leaves_bind_of_error (bind_eq_of_ok asked)
                  | some token =>
                      have known : TokenAction.knownToken address world = .ok token world :=
                        bind_eq_of_ok asked
                      rw [leaves_bind_of_ok known]
                      exact dispatched.call.leaves_execute _ _ _ _ _

/-- A dispatched call draws the numbers of its search, and no others. -/
theorem follow_answer
    (dispatched : DispatchedCall)
    (world : World) :
    Follow world.nextNum (dispatched.drawing? world).toList
      (leaves dispatched.answer world).nextNum := by
  rw [leaves_answer_eq]
  unfold drawing?
  cases paid : dispatched.paidBody? world with
  | none => exact .none _
  | some body =>
      have searched :=
        TokenAction.follow_run (movesNoCurrency_of_paidBody? paid) dispatched.call.sender world.push
      simp only [Option.elim_some, TokenAction.nextNum_leaves_framed]
      rwa [Option.map_eq_bind] at searched

end DispatchedCall

end LedgerEvm
