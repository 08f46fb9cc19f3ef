import LedgerEvm.Proofs.Ledger.Evolution

namespace LedgerEvm

/-!
# Allowances

An owner lets a spender move an amount of a token.  Spending is followed here by what it
leaves of every allowance of one spender; the allowances of other spenders stay.
-/

namespace World

variable {world before middle after : World}

/-! ## Reading and writing allowances -/

theorem allowance_record
    (world : World)
    {change : Journal → Journal}
    (same : ∀ journal, (change journal).allowances = journal.allowances) :
    (world.record change).allowance = world.allowance := by
  funext owner token spender
  simp only [allowance, snapshot_record]
  rw [latest?_record world fun journal => by rw [same]]

@[simp] theorem allowance_putRelationship
    (world : World)
    (account token : Address)
    (entry : Option Relationship) :
    (world.putRelationship account token entry).allowance = world.allowance :=
  allowance_record world fun _ => rfl

@[simp] theorem allowance_putNft
    (world : World)
    (token : Address)
    (serial : Int64)
    (entry : Option Nft) :
    (world.putNft token serial entry).allowance = world.allowance :=
  allowance_record world fun _ => rfl

theorem allowance_updateAccount
    {address : Address}
    {change : Account → Account}
    {reached : Bool}
    (result : world.updateAccount address change = .ok (reached, after)) :
    after.allowance = world.allowance := by
  rcases updateAccount_cases result with ⟨_, _, rfl⟩ | ⟨_, _, _, rfl⟩
  · rfl
  · exact allowance_record world fun _ => rfl

/-- Moving currency changes no allowance. -/
theorem allowance_transfer
    {source target : Address}
    {value : Word}
    (moved : world.transfer source target value = .ok after) :
    after.allowance = world.allowance := by
  rcases transfer_cases moved with
    ⟨_, rfl⟩ | ⟨_, _, _, _, debited, _, credited, _, _, debit, credit, ends⟩
  · rfl
  · have paid := (allowance_updateAccount credit).trans (allowance_updateAccount debit)
    rcases ends with ⟨_, rfl⟩ | ⟨_, _, rfl⟩
    · exact paid
    · refine Eq.trans ?_ paid
      exact allowance_record credited fun _ => rfl

/-- A write of an allowance is seen through the journals outside. -/
theorem allowance_setAllowance
    (isOpen : world.IsOpen)
    (owner token spender : Address)
    (amount : UInt64)
    (owner' token' spender' : Address) :
    (world.setAllowance owner token spender amount).allowance owner' token' spender' =
      if owner' = owner ∧ token' = token ∧ spender' = spender then
        .ok amount
      else
        world.allowance owner' token' spender' := by
  rw [allowance_eq, allowance_eq, setAllowance, snapshot_record,
    overlay_record isOpen fun outer inner => ?_]
  · simp only [Table.get?_insert, Grant.mk.injEq]
    split <;> rfl
  · simp only [Journal.absorb, Table.overlay_insert]

theorem allowance_push
    (world : World) :
    world.push.allowance = world.allowance :=
  congrArg LedgerView.allowance (view_push world)

theorem allowance_commit
    (isOpen : world.IsOpen)
    (inside : SameBelow world.push after) :
    after.commit.allowance = after.allowance :=
  congrArg LedgerView.allowance (view_commit isOpen inside)

/-- How much of a token a spender may move for its owner; nothing where the reading fails. -/
def allowed (world : World) (owner token spender : Address) : Nat :=
  match world.allowance owner token spender with
  | .ok amount => amount.toNat
  | .error _ => 0

/-! ## Spending -/

/--
Between two worlds a spender has used up as much of each allowance as described, and the
allowances of all other spenders are the same.
-/
structure AllowancesSpent
    (spender : Address)
    (spent : Address → Address → Nat)
    (before after : World) :
    Prop where
  within : ∀ owner token, spent owner token ≤ before.allowed owner token spender
  exact :
    ∀ owner token,
      (after.allowance owner token spender).map (fun rest => rest.toNat + spent owner token) =
        (before.allowance owner token spender).map UInt64.toNat
  others :
    ∀ owner token other, other ≠ spender →
      after.allowance owner token other = before.allowance owner token other

namespace AllowancesSpent

variable {spender : Address} {spent more : Address → Address → Nat}

/-- Where nothing is spent the allowance is the same. -/
theorem same
    (uses : AllowancesSpent spender spent before after)
    {owner token : Address}
    (nothing : spent owner token = 0) :
    after.allowance owner token spender = before.allowance owner token spender := by
  have exactly := uses.exact owner token
  rw [nothing] at exactly
  cases left : after.allowance owner token spender <;>
    cases had : before.allowance owner token spender <;>
    simp_all [Except.map, UInt64.toNat_inj]

/-- What is left of an allowance is what is not spent. -/
theorem allowed_eq
    (uses : AllowancesSpent spender spent before after)
    (owner token : Address) :
    after.allowed owner token spender + spent owner token =
      before.allowed owner token spender := by
  have exactly := uses.exact owner token
  have within := uses.within owner token
  unfold allowed at within ⊢
  cases left : after.allowance owner token spender <;>
    cases had : before.allowance owner token spender <;>
    simp_all [Except.map]

theorem trans
    (first : AllowancesSpent spender spent before middle)
    (second : AllowancesSpent spender more middle after) :
    AllowancesSpent spender (fun owner token => spent owner token + more owner token)
      before after where
  within owner token := by
    have between := first.allowed_eq owner token
    have within := second.within owner token
    omega
  exact owner token := by
    have late :
        (after.allowance owner token spender).map
            (fun rest => rest.toNat + (spent owner token + more owner token)) =
          ((after.allowance owner token spender).map
            fun rest => rest.toNat + more owner token).map (· + spent owner token) := by
      cases after.allowance owner token spender with
      | error error => rfl
      | ok rest =>
          simp only [Except.map, Except.ok.injEq]
          omega
    rw [late, second.exact, ← first.exact]
    cases middle.allowance owner token spender <;> rfl
  others owner token other different :=
    (second.others owner token other different).trans
      (first.others owner token other different)

/-- Nothing is spent where every allowance is the same. -/
theorem of_same
    (same : after.allowance = before.allowance) :
    AllowancesSpent spender (fun _ _ => 0) before after where
  within _ _ := Nat.zero_le _
  exact _ _ := by rw [same]; rfl
  others _ _ _ _ := by rw [same]

/-- Spending depends on the allowances only. -/
theorem congr
    {before' after' : World}
    (uses : AllowancesSpent spender spent before after)
    (same : before'.allowance = before.allowance)
    (same' : after'.allowance = after.allowance) :
    AllowancesSpent spender spent before' after' where
  within owner token := by
    rw [allowed, same]
    exact uses.within owner token
  exact owner token := by
    rw [same, same']
    exact uses.exact owner token
  others owner token other different := by
    rw [same, same']
    exact uses.others owner token other different

end AllowancesSpent

end World

end LedgerEvm
