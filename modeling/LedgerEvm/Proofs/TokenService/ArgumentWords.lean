import LedgerEvm.Proofs.TokenService.ReadCalls

/-!
# The words of arguments

An argument of fixed size stands in one word of the input.  The words are read by types that
are coarser than the declared ones: every width of unsigned numbers is read as a whole word,
and of an address word only the low twenty bytes are taken.  What a function accepts beyond
that is up to the conversions it applies to each value.
-/

namespace LedgerEvm

/-- The word of an input in which an argument stands, or in which its distance does. -/
def argumentWord (input : Bytes) (position : Nat) : Except AbiError Word :=
  AbiType.readWord (input.drop Selector.size) (position * 32)

namespace ParameterType

/-- Whether an argument of the type stands in its word. -/
def isStatic : ParameterType → Bool
  | .address => true
  | .uint _ => true
  | .int64 => true
  | .bool => true
  | _ => false

/-- Whether a word writes a value of the type in the one way that the type has for it. -/
def IsCanonical : ParameterType → Word → Prop
  | .address, word => word.toNat < 2 ^ 160
  | .uint bits, word => word.toNat < 2 ^ bits
  | .int64, word => ∃ value : Int64, word = value.toBitVec.signExtend 256
  | .bool, word => word = Word.ofBool false ∨ word = Word.ofBool true
  | _, _ => False

/-- Whether two words write the same argument: those of addresses do when their low bytes agree. -/
def AreSame : ParameterType → Word → Word → Prop
  | .address, word, word' => Address.ofWord word = Address.ofWord word'
  | _, word, word' => word = word'

/-- Whether a value is what a word of the type is read as. -/
def Writes : ParameterType → Word → AbiValue → Prop
  | .address, word, value => value = .address (Address.ofWord word)
  | .uint _, word, value => value = .uint word
  | .int64, word, value =>
      ∃ number : Int64, word = number.toBitVec.signExtend 256 ∧ value = .int number
  | .bool, word, value => ∃ truth, word = Word.ofBool truth ∧ value = .bool truth
  | _, _, _ => False

/-- Whether an unsigned value has no more bits than the type. -/
def Holds : ParameterType → AbiValue → Prop
  | .uint bits, .uint word => word.toNat < 2 ^ bits
  | _, _ => True

/-- Only unsigned numbers can be too wide for their type. -/
theorem holds_of_not_uint
    {type : ParameterType}
    (other : ∀ bits, type ≠ .uint bits)
    (value : AbiValue) :
    type.Holds value := by
  cases type with
  | uint bits => exact absurd rfl (other bits)
  | _ => trivial

variable
  {type : ParameterType}
  {word word' : Word}
  {value : AbiValue}

/-- A signed number is read from a word that repeats its sign. -/
theorem eq_signExtend_of_toInt64
    (read : AbiType.toInt64 word = .ok value) :
    ∃ number : Int64, word = number.toBitVec.signExtend 256 ∧ value = .int number := by
  unfold AbiType.toInt64 at read
  split at read
  · rename_i number inRange
    cases read
    refine ⟨number, BitVec.eq_of_toInt_eq ?_, rfl⟩
    rw [BitVec.toInt_signExtend_of_le (by decide)]
    exact (Int64.toInt_of_ofInt? inRange).symm
  · cases read

/-- A truth value is read from a word that is zero or one. -/
theorem eq_ofBool_of_toBool
    (read : AbiType.toBool word = .ok value) :
    ∃ truth, word = Word.ofBool truth ∧ value = .bool truth := by
  unfold AbiType.toBool at read
  split at read
  · rename_i isZero
    cases read
    exact ⟨false, isZero, rfl⟩
  · split at read
    · rename_i isOne
      cases read
      exact ⟨true, isOne, rfl⟩
    · cases read

/-- A value of fixed size is read from the one word at its place. -/
theorem writes_of_read
    {data : Bytes}
    {offset : Nat}
    (static : type.isStatic = true)
    (read : type.readAs.read data offset = .ok value) :
    ∃ word, AbiType.readWord data offset = .ok word ∧ type.Writes word value := by
  cases type with
  | address =>
      obtain ⟨word, found, done⟩ := exists_of_bind_eq_ok read
      cases done
      exact ⟨word, found, rfl⟩
  | uint bits =>
      obtain ⟨word, found, done⟩ := exists_of_bind_eq_ok read
      cases done
      exact ⟨word, found, rfl⟩
  | int64 =>
      obtain ⟨word, found, read⟩ := exists_of_bind_eq_ok read
      exact ⟨word, found, eq_signExtend_of_toInt64 read⟩
  | bool =>
      obtain ⟨word, found, read⟩ := exists_of_bind_eq_ok read
      exact ⟨word, found, eq_ofBool_of_toBool read⟩
  | string => cases static
  | bytes => cases static
  | array item => cases static

/-- The word of a value that the type holds is canonical, except that of an address. -/
theorem Writes.isCanonical
    (writes : type.Writes word value)
    (holds : type.Holds value)
    (other : type ≠ .address) :
    type.IsCanonical word := by
  cases type with
  | address => exact absurd rfl other
  | uint bits =>
      rw [writes] at holds
      exact holds
  | int64 =>
      obtain ⟨number, same, _⟩ := writes
      exact ⟨number, same⟩
  | bool =>
      obtain ⟨truth, same, _⟩ := writes
      cases truth with
      | false => exact .inl same
      | true => exact .inr same
  | string => exact writes
  | bytes => exact writes
  | array item => exact writes

/-- Words that are read as one value write the same argument. -/
theorem Writes.areSame
    (writes : type.Writes word value)
    (writes' : type.Writes word' value) :
    type.AreSame word word' := by
  cases type with
  | address => exact AbiValue.address.inj (writes.symm.trans writes')
  | uint bits => exact AbiValue.uint.inj (writes.symm.trans writes')
  | int64 =>
      obtain ⟨number, same, isNumber⟩ := writes
      obtain ⟨number', same', isNumber'⟩ := writes'
      obtain rfl := AbiValue.int.inj (isNumber.symm.trans isNumber')
      exact same.trans same'.symm
  | bool =>
      obtain ⟨truth, same, isTruth⟩ := writes
      obtain ⟨truth', same', isTruth'⟩ := writes'
      obtain rfl := AbiValue.bool.inj (isTruth.symm.trans isTruth')
      exact same.trans same'.symm
  | string => exact writes.elim
  | bytes => exact writes.elim
  | array item => exact writes.elim

end ParameterType

/-- A number in 64 bits is the same number in a word. -/
theorem Word.toNat_ofUInt64
    (number : UInt64) :
    (ofUInt64 number).toNat = number.toNat := by
  have bound := number.toNat_lt
  rw [ofUInt64, BitVec.toNat_ofNat, Nat.mod_eq_of_lt (by omega)]

/-- The arguments have the declared widths; a wiped amount is kept in 64 bits instead of 32. -/
theorem TokenArguments.holds_values
    {function : TokenFunction}
    (arguments : TokenArguments function)
    (other : function ≠ .wipeTokenAccount) :
    List.Forall₂ ParameterType.Holds function.parameterTypes arguments.values := by
  have amount (value : UInt64) : ParameterType.Holds (.uint 64) (.ofUInt64 value) := by
    have bound := value.toNat_lt
    rwa [← Word.toNat_ofUInt64] at bound
  have decimals (value : UInt32) :
      ParameterType.Holds (.uint 32) (.ofUInt64 value.toUInt64) := by
    have bound := value.toNat_lt
    rwa [← UInt32.toNat_toUInt64, ← Word.toNat_ofUInt64] at bound
  have word (value : Word) : ParameterType.Holds (.uint 256) (.uint value) := value.isLt
  have value (value : UInt64) : ParameterType.Holds (.uint 256) (.ofUInt64 value) := word _
  cases arguments with
  | wipeTokenAccount => exact absurd rfl other
  | _ =>
      simp [TokenFunction.parameterTypes, values, AbiValue.ofList, amount, decimals, word, value,
        ParameterType.holds_of_not_uint]

/-- An argument has its declared width, unless it is the amount that is wiped. -/
theorem TokenArguments.holds_of_declared
    {function : TokenFunction}
    {arguments : TokenArguments function}
    {position : Nat}
    {type : ParameterType}
    {value : AbiValue}
    (declared : function.parameterTypes[position]? = some type)
    (found : arguments.values[position]? = some value)
    (exempt : ¬ (function = .wipeTokenAccount ∧ type = .uint 32)) :
    type.Holds value := by
  by_cases wiped : function = .wipeTokenAccount
  · subst wiped
    refine ParameterType.holds_of_not_uint (fun bits isUint => ?_) value
    subst isUint
    have member := List.mem_of_getElem? declared
    simp [TokenFunction.parameterTypes] at member
    exact exempt ⟨rfl, congrArg ParameterType.uint member⟩
  · obtain ⟨within, isType⟩ := List.getElem?_eq_some_iff.mp declared
    obtain ⟨within', isValue⟩ := List.getElem?_eq_some_iff.mp found
    rw [← isType, ← isValue]
    exact (List.forall₂_iff_get.mp (arguments.holds_values wiped)).2 position within within'

namespace TokenFunction

variable
  {function : TokenFunction}
  {input : Bytes}
  {setting : CallSetting}
  {sender : Address}
  {call : TokenCall}
  {position : Nat}
  {type : ParameterType}

/-- Each argument of fixed size that a call tells is read from its own word. -/
theorem writes_of_tells
    {arguments : TokenArguments function}
    (decoded :
      AbiValue.decode function.argumentTypes (input.drop Selector.size) = .ok arguments.values)
    (declared : function.parameterTypes[position]? = some type)
    (static : type.isStatic = true) :
    ∃ word value,
      argumentWord input position = .ok word ∧
        arguments.values[position]? = some value ∧ type.Writes word value := by
  have listed : function.argumentTypes[position]? = some type.readAs := by
    rw [argumentTypes, List.getElem?_map, declared]
    rfl
  obtain ⟨value, found, read⟩ := AbiValue.read_of_decodeFrom decoded listed
  rw [Nat.zero_add] at read
  obtain ⟨word, isWord, writes⟩ := ParameterType.writes_of_read static read
  exact ⟨word, value, isWord, found, writes⟩

/--
A call is read only from canonical words; nothing is asked of the words of addresses, and
nothing is said of the amount that is wiped.  Inputs that are read as one call agree in the
word of every argument of fixed size, in its low twenty bytes where it is an address.
-/
theorem argumentWords_of_readCall
    (read : function.readCall input setting sender = .ok call)
    (declared : function.parameterTypes[position]? = some type)
    (static : type.isStatic = true) :
    ∃ word,
      argumentWord input position = .ok word ∧
        (type ≠ .address → ¬ (function = .wipeTokenAccount ∧ type = .uint 32) →
          type.IsCanonical word) ∧
        ∀ {input' : Bytes} {setting' : CallSetting} {sender' : Address},
          function.readCall input' setting' sender' = .ok call →
            ∃ word', argumentWord input' position = .ok word' ∧ type.AreSame word word' := by
  obtain ⟨arguments, told, decoded⟩ := tells_of_readCall read
  obtain ⟨word, value, isWord, found, writes⟩ := writes_of_tells decoded declared static
  refine ⟨word, isWord, fun other exempt => ?_, fun read' => ?_⟩
  · exact writes.isCanonical (TokenArguments.holds_of_declared declared found exempt) other
  · obtain ⟨arguments', told', decoded'⟩ := tells_of_readCall read'
    obtain rfl := Option.some.inj (told.symm.trans told')
    obtain ⟨word', value', isWord', found', writes'⟩ :=
      writes_of_tells decoded' declared static
    obtain rfl := Option.some.inj (found.symm.trans found')
    exact ⟨word', isWord', writes.areSame writes'⟩

/-- A minted amount stands in a word of 64 bits, and in the same word of every such input. -/
theorem argumentWords_of_minting :
    ∃ word,
      argumentWord
            (AbiValue.encodeCall (selector .mintToken)
              [.address ⟨2001⟩, .ofUInt64 5, .ofList .bytes []])
            1 =
          .ok word ∧
        word.toNat < 2 ^ 64 ∧
          ∀ {input' : Bytes} {setting' : CallSetting} {sender' : Address},
            readCall .mintToken input' setting' sender' =
                .ok (.write (.tokenMint ⟨⟨2001⟩, 5, []⟩) .mintFungible) →
              ∃ word', argumentWord input' 1 = .ok word' ∧ word = word' := by
  have read :
      readCall .mintToken
          (AbiValue.encodeCall (selector .mintToken)
            [.address ⟨2001⟩, .ofUInt64 5, .ofList .bytes []])
          .plain ⟨1001⟩ =
        .ok (.write (.tokenMint ⟨⟨2001⟩, 5, []⟩) .mintFungible) := by
    decide +kernel
  have declared : (parameterTypes .mintToken)[1]? = some (.uint 64) := rfl
  obtain ⟨word, isWord, canonical, same⟩ := argumentWords_of_readCall read declared rfl
  exact ⟨word, isWord, canonical (by decide) (by decide), same⟩

theorem argumentWord_first
    (selector : Selector)
    (word : Word)
    (rest : Bytes) :
    argumentWord (selector.toBytes ++ (word.toBytes ++ rest)) 0 = .ok word := by
  have found :
      (List.drop Selector.size (selector.toBytes ++ (word.toBytes ++ rest))).drop (0 * 32) =
        word.toBytes ++ rest := by
    rw [Nat.zero_mul, List.drop_zero, List.drop_left' selector.length_toBytes]
  exact AbiType.readWord_of_drop_eq found

/--
The high bytes of an address word are passed over: two inputs that differ in them are read as
one call, and the word of one of them is not canonical.
-/
theorem high_bytes_of_address_are_passed_over :
    let wide : Word := 0x100000000000000000000000000000000000003e9
    let narrow : Word := 0x3e9
    let input (account : Word) : Bytes :=
      (selector .associateToken).toBytes ++ (account.toBytes ++ Word.toBytes 2001)
    let call : TokenCall := .write (.tokenAssociateToAccount ⟨⟨1001⟩, [⟨2001⟩]⟩) .associate
    (parameterTypes .associateToken)[0]? = some .address ∧
      ¬ ParameterType.address.IsCanonical wide ∧
      wide ≠ narrow ∧
      argumentWord (input wide) 0 = .ok wide ∧
      readCall .associateToken (input wide) .plain ⟨1001⟩ = .ok call ∧
      argumentWord (input narrow) 0 = .ok narrow ∧
      readCall .associateToken (input narrow) .plain ⟨1001⟩ = .ok call := by
  intro wide narrow input call
  have tooWide : ¬ ParameterType.address.IsCanonical wide := by
    unfold ParameterType.IsCanonical
    decide +kernel
  exact ⟨rfl, tooWide, by decide +kernel, argumentWord_first _ _ _, by decide +kernel,
    argumentWord_first _ _ _, by decide +kernel⟩

end TokenFunction

end LedgerEvm
