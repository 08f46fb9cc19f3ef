import LedgerEvm.Address

namespace LedgerEvm

/-!
# Addresses of entities

Shard, realm and number of an entity fill its address, so no two entities share one.  Reading
goes by the last eight bytes alone, where the number stands, and gives nothing when any other
byte is set.  Hence it gives back the entities of shard and realm zero and loses all others,
whose addresses name them as well.  Whatever it gives has the address that was read.
-/

namespace EntityId

/-- The three numbers fit into an address. -/
theorem toNat_bits_toAddress
    (entity : EntityId) :
    entity.toAddress.bits.toNat =
      (entity.shard.toNat * UInt64.size + entity.realm.toNat) * UInt64.size +
        entity.num.toNat := by
  have shard := entity.shard.toNat_lt
  have realm := entity.realm.toNat_lt
  have num := entity.num.toNat_lt
  rw [toAddress, BitVec.toNat_ofNat]
  apply Nat.mod_eq_of_lt
  simp only [UInt64.size]
  omega

/-- No two entities share an address. -/
theorem toAddress_injective : Function.Injective toAddress := by
  rintro ⟨shard, realm, num⟩ ⟨shard', realm', num'⟩ same
  have numbers := congrArg (fun address => address.bits.toNat) same
  simp only [toNat_bits_toAddress, UInt64.size] at numbers
  have realmBound := realm.toNat_lt
  have realmBound' := realm'.toNat_lt
  have numBound := num.toNat_lt
  have numBound' := num'.toNat_lt
  have sameShard : shard = shard' := UInt32.toNat_inj.mp (by omega)
  have sameRealm : realm = realm' := UInt64.toNat_inj.mp (by omega)
  have sameNum : num = num' := UInt64.toNat_inj.mp (by omega)
  rw [sameShard, sameRealm, sameNum]

/-- The high twelve bytes hold shard and realm. -/
theorem isLongZero_toAddress
    (entity : EntityId) :
    entity.toAddress.isLongZero = decide (entity.shard = 0 ∧ entity.realm = 0) := by
  have num := entity.num.toNat_lt
  rw [Address.isLongZero, toNat_bits_toAddress, decide_eq_decide, ← UInt32.toNat_inj,
    ← UInt64.toNat_inj]
  simp only [UInt64.size, UInt32.toNat_zero, UInt64.toNat_zero]
  omega

/-- The entity that is read from an address with zero high bytes has this address. -/
theorem toAddress_ofNum_of_isLongZero
    {address : Address}
    (longZero : address.isLongZero = true) :
    (ofNum (UInt64.ofNat address.bits.toNat)).toAddress = address := by
  have small : address.bits.toNat < UInt64.size := of_decide_eq_true longZero
  have bits : (ofNum (UInt64.ofNat address.bits.toNat)).toAddress.bits = address.bits := by
    apply BitVec.eq_of_toNat_eq
    rw [toNat_bits_toAddress]
    simp only [ofNum, UInt32.toNat_zero, UInt64.toNat_zero, Nat.zero_mul, Nat.zero_add]
    exact UInt64.toNat_ofNat_of_lt' small
  exact congrArg Address.mk bits

theorem toAddress_of_ofAddress?_eq_some
    {address : Address}
    {entity : EntityId}
    (read : ofAddress? address = some entity) :
    entity.toAddress = address := by
  unfold ofAddress? at read
  split at read
  · rename_i longZero
    obtain rfl := Option.some.inj read
    exact toAddress_ofNum_of_isLongZero longZero
  · cases read

theorem ofAddress?_toAddress
    (entity : EntityId) :
    ofAddress? entity.toAddress =
      if entity.shard = 0 ∧ entity.realm = 0 then some entity else none := by
  rw [ofAddress?, isLongZero_toAddress]
  simp only [decide_eq_true_eq]
  split
  · rename_i zeros
    have longZero : entity.toAddress.isLongZero = true := by
      rw [isLongZero_toAddress, decide_eq_true zeros]
    rw [toAddress_injective (toAddress_ofNum_of_isLongZero longZero)]
  · rfl

/--
The address of an entity is read back as that entity exactly when shard and realm are zero, and
as nothing otherwise; and an entity that is read from an address has that address.
-/
theorem long_zero_addresses_name_entities
    (entity : EntityId) :
    ofAddress? entity.toAddress =
        (if entity.shard = 0 ∧ entity.realm = 0 then some entity else none) ∧
      ∀ address : Address, ofAddress? address = some entity → entity.toAddress = address :=
  ⟨ofAddress?_toAddress entity, fun _ => toAddress_of_ofAddress?_eq_some⟩

/-- The address of an entity in another realm, which no other entity has, is not read back. -/
theorem entity_of_another_realm_is_taken_for_an_alias :
    ofAddress? (toAddress ⟨0, 1, 1234⟩) ≠ some ⟨0, 1, 1234⟩ := by
  decide

end EntityId

end LedgerEvm
