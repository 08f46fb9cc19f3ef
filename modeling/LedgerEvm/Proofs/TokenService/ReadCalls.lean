import LedgerEvm.Proofs.TokenService.Arguments
import LedgerEvm.Proofs.Clamp
import LedgerEvm.Proofs.TokenService.Effects

/-!
# What a call was read from

A call that has been read tells its arguments, and these are exactly what stands behind the
selector of its input.  The values are read from the input to its last argument, so two
inputs that are read as one call hold the same values.
-/

namespace UInt32

/-- What fits 32 bits is the same number in 64 bits. -/
theorem toUInt64_of_ofNat?
    {number : UInt64}
    {result : UInt32}
    (inRange : ofNat? number.toNat = some result) :
    number = result.toUInt64 := by
  unfold ofNat? at inRange
  split at inRange
  · rename_i fits
    cases inRange
    rw [← UInt64.toNat_inj, UInt32.toNat_toUInt64, UInt32.toNat_ofNat_of_lt' fits]
  · cases inRange

end UInt32

namespace LedgerEvm

/-- Results that are all successful are those of the items, one by one. -/
theorem forall₂_of_mapM_eq_ok
    {α β ε : Type}
    {step : α → Except ε β}
    {items : List α}
    {results : List β}
    (done : items.mapM step = .ok results) :
    List.Forall₂ (fun item result => step item = .ok result) items results := by
  induction items generalizing results with
  | nil =>
      cases done
      exact .nil
  | cons item items inductionHypothesis =>
      rw [List.mapM_cons] at done
      obtain ⟨result, first, done⟩ := exists_of_bind_eq_ok done
      obtain ⟨others, later, done⟩ := exists_of_bind_eq_ok done
      cases done
      exact .cons first (inductionHypothesis later)

/-! ## Conversions -/

namespace AbiValue

theorem of_asAddress
    {value : AbiValue}
    {address : Address}
    (converted : value.asAddress = .ok address) :
    value = .address address := by
  cases value <;> cases converted
  rfl

theorem of_asWord
    {value : AbiValue}
    {word : Word}
    (converted : value.asWord = .ok word) :
    value = .uint word := by
  cases value <;> cases converted
  rfl

theorem of_asInt64
    {value : AbiValue}
    {number : Int64}
    (converted : value.asInt64 = .ok number) :
    value = .int number := by
  cases value <;> cases converted
  rfl

theorem of_asString
    {value : AbiValue}
    {text : String}
    (converted : value.asString = .ok text) :
    value = .string text := by
  cases value <;> cases converted
  rfl

theorem of_asBytes
    {value : AbiValue}
    {bytes : Bytes}
    (converted : value.asBytes = .ok bytes) :
    value = .bytes bytes := by
  cases value <;> cases converted
  rfl

theorem of_asArray
    {value : AbiValue}
    {items : List AbiValue}
    (converted : value.asArray = .ok items) :
    value = .array items := by
  cases value <;> cases converted
  rfl

theorem of_asUInt64
    {value : AbiValue}
    {number : UInt64}
    (converted : value.asUInt64 = .ok number) :
    value = .ofUInt64 number := by
  obtain ⟨word, isWord, inRange⟩ := exists_of_bind_eq_ok converted
  rw [of_asWord isWord]
  cases found : UInt64.ofNat? word.toNat with
  | none =>
      rw [found] at inRange
      cases inRange
  | some number' =>
      rw [found] at inRange
      cases inRange
      rw [ofUInt64, Word.ofUInt64, (TokenAction.toNat_of_ofNat? found).1, BitVec.ofNat_toNat,
        BitVec.setWidth_eq]

/-- A serial number is read from a word below 2^63. -/
theorem of_asSerial
    {value : AbiValue}
    {serial : Int64}
    (converted : value.asSerial = .ok serial) :
    value = .ofUInt64 serial.toUInt64 := by
  obtain ⟨number, isNumber, inRange⟩ := exists_of_bind_eq_ok converted
  rw [of_asUInt64 isNumber]
  cases found : Int64.ofUInt64? number with
  | none =>
      rw [found] at inRange
      cases inRange
  | some serial' =>
      rw [found] at inRange
      cases inRange
      have exactly := Int64.toInt_of_ofInt? found
      have small : number.toNat < 2 ^ 63 := by
        have bound := serial.toInt_lt
        omega
      have same : serial = number.toInt64 := by
        rw [← Int64.toInt_inj, exactly, UInt64.toInt_toInt64 small]
      rw [same, UInt64.toUInt64_toInt64]

end AbiValue

/-! ## Readers -/

namespace ValueReader

variable {α β : Type}

/-- Whatever the reader returns is spelled by the values that it has used. -/
def Uses (reader : ValueReader α) (spelled : α → List AbiValue → Prop) : Prop :=
  ∀ values result rest, reader values = .ok (result, rest) →
    ∃ used, values = used ++ rest ∧ spelled result used

variable {spelled : α → List AbiValue → Prop}

theorem uses_pure
    {result : α}
    (holds : spelled result []) :
    Uses (pure result) spelled := by
  intro values found rest read
  cases read
  exact ⟨[], rfl, holds⟩

theorem uses_throw
    (error : PrecompileError) :
    Uses (throwThe PrecompileError error : ValueReader α) spelled := by
  intro values found rest read
  cases read

/-- What is read later is spelled by the values behind those used first. -/
theorem Uses.bind
    {first : ValueReader β}
    {next : β → ValueReader α}
    {spelled' : β → List AbiValue → Prop}
    (begins : first.Uses spelled')
    (goesOn :
      ∀ value used, spelled' value used →
        (next value).Uses fun result others => spelled result (used ++ others)) :
    (first >>= next).Uses spelled := by
  intro values found rest read
  obtain ⟨⟨value, middle⟩, began, read⟩ := exists_of_bind_eq_ok read
  obtain ⟨used, same, spells⟩ := begins values value middle began
  obtain ⟨others, same', holds⟩ := goesOn value used spells middle found rest read
  refine ⟨used ++ others, ?_, holds⟩
  rw [same, same', List.append_assoc]

theorem uses_next :
    next.Uses fun value used => used = [value] := by
  intro values found rest read
  cases values with
  | nil =>
      cases read
  | cons first values =>
      cases read
      exact ⟨[found], rfl, rfl⟩

/-- A conversion uses the one value that it is successful for. -/
theorem uses_nextAs
    {convert : AbiValue → Except AbiError α}
    {spelling : α → AbiValue}
    (converts : ∀ {value result}, convert value = .ok result → value = spelling result) :
    (nextAs convert).Uses fun result used => used = [spelling result] := by
  unfold nextAs
  refine uses_next.bind fun value used same => ?_
  subst same
  cases converted : convert value with
  | ok result => exact uses_pure (congrArg (fun value => [value]) (converts converted))
  | error error => exact uses_throw _

/-- A list uses one array of the values that its items are spelled by. -/
theorem uses_nextList
    {convert : AbiValue → Except AbiError α}
    {spelling : α → AbiValue}
    (converts : ∀ {value result}, convert value = .ok result → value = spelling result) :
    (nextList convert).Uses fun results used => used = [.ofList spelling results] := by
  unfold nextList
  refine (uses_nextAs AbiValue.of_asArray).bind fun items used same => ?_
  subst same
  cases converted : items.mapM convert with
  | ok results =>
      have spelled : List.Forall₂ (fun item result => item = spelling result) items results :=
        (forall₂_of_mapM_eq_ok converted).imp fun _ _ => converts
      rw [← List.forall₂_map_right_iff, List.forall₂_eq_eq_eq] at spelled
      rw [spelled]
      exact uses_pure rfl
  | error error => exact uses_throw _

theorem of_readFrom_uses
    {reader : ValueReader α}
    (uses : reader.Uses spelled)
    {values : Except AbiError (List AbiValue)}
    {result : α}
    (read : readFrom values reader = .ok result) :
    ∃ used rest, values = .ok (used ++ rest) ∧ spelled result used := by
  unfold readFrom at read
  cases values with
  | error error =>
      cases read
  | ok found =>
      obtain ⟨⟨value, rest⟩, ran, done⟩ := exists_of_bind_eq_ok read
      cases done
      obtain ⟨used, rfl, spells⟩ := uses found value rest ran
      exact ⟨used, rest, rfl, spells⟩

end ValueReader

/-! ## Declared parameters -/

/-- The types of parameters as signatures write them. -/
inductive ParameterType where
  | address
  | uint (bits : Nat)
  | int64
  | bool
  | string
  | bytes
  | array (item : ParameterType)
  deriving Repr, DecidableEq

namespace ParameterType

/-- The text of a type in a signature. -/
def text : ParameterType → String
  | .address => "address"
  | .uint bits => "uint" ++ toString bits
  | .int64 => "int64"
  | .bool => "bool"
  | .string => "string"
  | .bytes => "bytes"
  | .array item => item.text ++ "[]"

/-- The type that a parameter is read as; unsigned numbers of any width are words. -/
def readAs : ParameterType → AbiType
  | .address => .address
  | .uint _ => .uint
  | .int64 => .int64
  | .bool => .bool
  | .string => .string
  | .bytes => .bytes
  | .array item => .array item.readAs

end ParameterType

namespace TokenFunction

/-- The types of the parameters of a function. -/
def parameterTypes : TokenFunction → List ParameterType
  | .associateToken => [.address, .address]
  | .associateTokens => [.address, .array .address]
  | .dissociateToken => [.address, .address]
  | .dissociateTokens => [.address, .array .address]
  | .mintToken => [.address, .uint 64, .array .bytes]
  | .burnToken => [.address, .uint 64, .array .int64]
  | .wipeTokenAccount => [.address, .address, .uint 32]
  | .wipeTokenAccountNft => [.address, .address, .array .int64]
  | .transferToken => [.address, .address, .address, .int64]
  | .transferNft => [.address, .address, .address, .int64]
  | .transferTokens => [.address, .array .address, .array .int64]
  | .approve => [.address, .address, .uint 256]
  | .approveNft => [.address, .address, .uint 256]
  | .getApproved => [.address, .uint 256]
  | .createFungibleToken => [.string, .string, .address, .uint 64, .uint 32]
  | .ercApprove => [.address, .uint 256]
  | .ercTransfer => [.address, .uint 256]
  | .ercTransferFrom => [.address, .address, .uint 256]
  | .ercGetApproved => [.uint 256]

/-- The signature writes these types. -/
theorem parameters_eq
    (function : TokenFunction) :
    function.parameters =
      "(" ++ ",".intercalate (function.parameterTypes.map ParameterType.text) ++ ")" := by
  cases function <;> decide

/-- The types that the arguments of a function are read as. -/
def argumentTypes (function : TokenFunction) : List AbiType :=
  function.parameterTypes.map ParameterType.readAs

end TokenFunction

/-! ## Telling the arguments -/

namespace TokenCall

/-- The arguments of the function that is called, as the call that was read tells them. -/
def arguments? : (function : TokenFunction) → TokenCall → Option (TokenArguments function)
  | .associateToken, .write (.tokenAssociateToAccount relations) _ => do
      some (.associateToken relations.account (← relations.tokens.head?))
  | .associateTokens, .write (.tokenAssociateToAccount relations) _ =>
      some (.associateTokens relations.account relations.tokens)
  | .dissociateToken, .write (.tokenDissociateFromAccount relations) _ => do
      some (.dissociateToken relations.account (← relations.tokens.head?))
  | .dissociateTokens, .write (.tokenDissociateFromAccount relations) _ =>
      some (.dissociateTokens relations.account relations.tokens)
  | .mintToken, .write (.tokenMint mint) _ =>
      some (.mintToken mint.token mint.amount mint.metadata)
  | .burnToken, .write (.tokenBurn burn) _ =>
      some (.burnToken burn.token burn.amount burn.serials)
  | .wipeTokenAccount, .write (.tokenAccountWipe wipe) _ =>
      some (.wipeTokenAccount wipe.token wipe.account wipe.amount)
  | .wipeTokenAccountNft, .write (.tokenAccountWipe wipe) _ =>
      some (.wipeTokenAccountNft wipe.token wipe.account wipe.serials)
  | .transferToken, .write (.cryptoTransfer ⟨_, list :: _⟩) _ => do
      let target ← list.transfers[1]?
      some (.transferToken list.token (← list.transfers[0]?).account target.account target.amount)
  | .transferNft, .write (.cryptoTransfer ⟨_, list :: _⟩) _ => do
      let move ← list.nftTransfers.head?
      some (.transferNft list.token move.sender move.receiver move.serial)
  | .transferTokens, .write (.cryptoTransfer ⟨_, list :: _⟩) _ =>
      some
        (.transferTokens list.token (list.transfers.map AccountAmount.account)
          (list.transfers.map AccountAmount.amount))
  | .approve, .write (.cryptoApproveAllowance ⟨allowance :: _, _⟩) _ =>
      some (.approve allowance.token allowance.spender allowance.amount)
  | .approveNft, .write (.cryptoApproveAllowance ⟨_, allowance :: _⟩) _ => do
      some (.approveNft allowance.token allowance.spender (← allowance.serials.head?).toUInt64)
  | .getApproved, .query question =>
      some (.getApproved question.token question.serial)
  | .createFungibleToken, .write (.tokenCreate creation) _ =>
      some
        (.createFungibleToken creation.name creation.symbol creation.treasury
          creation.initialSupply creation.decimals)
  | .ercApprove, .write (.cryptoApproveAllowance ⟨allowance :: _, _⟩) _ =>
      some (.ercApprove allowance.spender allowance.amount)
  | .ercApprove, .write (.cryptoApproveAllowance ⟨[], allowance :: _⟩) _ => do
      some (.ercApprove allowance.spender (← allowance.serials.head?).toUInt64)
  | .ercTransfer, .write (.cryptoTransfer ⟨_, list :: _⟩) _ =>
      match list.nftTransfers with
      | move :: _ => some (.ercTransfer move.receiver move.serial.toUInt64)
      | [] => do
          let target ← list.transfers[1]?
          some (.ercTransfer target.account target.amount.toUInt64)
  | .ercTransferFrom, .write (.cryptoTransfer ⟨_, list :: _⟩) _ =>
      match list.nftTransfers with
      | move :: _ => some (.ercTransferFrom move.sender move.receiver move.serial.toUInt64)
      | [] => do
          let target ← list.transfers[1]?
          some
            (.ercTransferFrom (← list.transfers[0]?).account target.account
              target.amount.toUInt64)
  | .ercGetApproved, .query question =>
      some (.ercGetApproved question.serial)
  | _, _ => none

end TokenCall

/-- There is a value for each type that is read. -/
theorem AbiValue.length_of_decodeFrom
    {data : Bytes}
    {offset : Nat}
    {types : List AbiType}
    {values : List AbiValue}
    (decoded : decodeFrom data offset types = .ok values) :
    values.length = types.length := by
  induction types generalizing offset values with
  | nil =>
      cases decoded
      rfl
  | cons type types inductionHypothesis =>
      obtain ⟨value, _, decoded⟩ := exists_of_bind_eq_ok decoded
      obtain ⟨others, later, done⟩ := exists_of_bind_eq_ok decoded
      cases done
      rw [List.length_cons, List.length_cons, inductionHypothesis later]

/-- The value of each type is read from the place of its word. -/
theorem AbiValue.read_of_decodeFrom
    {data : Bytes}
    {offset position : Nat}
    {types : List AbiType}
    {values : List AbiValue}
    {type : AbiType}
    (decoded : decodeFrom data offset types = .ok values)
    (listed : types[position]? = some type) :
    ∃ value,
      values[position]? = some value ∧ type.read data (offset + position * 32) = .ok value := by
  induction types generalizing offset values position with
  | nil => simp at listed
  | cons first types inductionHypothesis =>
      obtain ⟨value, read, decoded⟩ := exists_of_bind_eq_ok decoded
      obtain ⟨others, later, done⟩ := exists_of_bind_eq_ok decoded
      cases done
      cases position with
      | zero =>
          cases listed
          exact ⟨value, rfl, by simpa using read⟩
      | succ position =>
          obtain ⟨value', found, read'⟩ := inductionHypothesis later listed
          refine ⟨value', found, ?_⟩
          rw [← read']
          congr 1
          omega

/-- A function has an argument for each of its parameters. -/
theorem TokenArguments.length_values
    {function : TokenFunction}
    (arguments : TokenArguments function) :
    arguments.values.length = function.argumentTypes.length := by
  cases arguments <;> rfl

/--
The call tells the arguments of the function that was called, and they stand behind the
selector of the input.
-/
def TokenCall.Tells (call : TokenCall) (function : TokenFunction) (input : Bytes) : Prop :=
  ∃ arguments : TokenArguments function,
    call.arguments? function = some arguments ∧
      AbiValue.decode function.argumentTypes (input.drop Selector.size) = .ok arguments.values

namespace TokenFunction

open ValueReader

variable
  {function : TokenFunction}
  {selector : Selector}
  {input : Bytes}
  {sender : Address}

/-- Arguments are read from exactly the values behind the selector. -/
theorem tells_of_readArguments
    {α : Type}
    {reader : ValueReader α}
    (toCall : α → TokenCall)
    (uses :
      reader.Uses fun result used =>
        ∃ arguments : TokenArguments function,
          (toCall result).arguments? function = some arguments ∧ used = arguments.values)
    {result : α}
    (read : readArguments selector function.argumentTypes input reader = .ok result) :
    (toCall result).Tells function input := by
  obtain ⟨used, rest, decoded, arguments, told, same⟩ := of_readFrom_uses uses read
  refine ⟨arguments, told, ?_⟩
  unfold AbiValue.decodeCall at decoded
  split at decoded
  · have lengths := AbiValue.length_of_decodeFrom decoded
    rw [same, List.length_append, arguments.length_values] at lengths
    have nothing : rest = [] := List.length_eq_zero_iff.mp (by omega)
    rw [decoded, nothing, List.append_nil, same]
  · cases decoded

theorem uses_address :
    (nextAs AbiValue.asAddress).Uses fun address used => used = [.address address] :=
  uses_nextAs AbiValue.of_asAddress

theorem uses_addresses :
    (nextList AbiValue.asAddress).Uses fun addresses used => used = [.ofList .address addresses] :=
  uses_nextList AbiValue.of_asAddress

theorem uses_uint64 :
    (nextAs AbiValue.asUInt64).Uses fun number used => used = [.ofUInt64 number] :=
  uses_nextAs AbiValue.of_asUInt64

theorem uses_serial :
    (nextAs AbiValue.asSerial).Uses fun serial used => used = [.ofUInt64 serial.toUInt64] :=
  uses_nextAs AbiValue.of_asSerial

theorem uses_word :
    (nextAs AbiValue.asWord).Uses fun word used => used = [.uint word] :=
  uses_nextAs AbiValue.of_asWord

theorem uses_int :
    (nextAs AbiValue.asInt64).Uses fun number used => used = [.int number] :=
  uses_nextAs AbiValue.of_asInt64

theorem uses_ints :
    (nextList AbiValue.asInt64).Uses fun numbers used => used = [.ofList .int numbers] :=
  uses_nextList AbiValue.of_asInt64

theorem uses_string :
    (nextAs AbiValue.asString).Uses fun text used => used = [.string text] :=
  uses_nextAs AbiValue.of_asString

theorem tells_of_readRelations
    {relations : TokenRelations}
    (toCall : TokenRelations → TokenCall)
    (types : function.argumentTypes = [.address, .address])
    (tells :
      ∀ account token,
        ∃ arguments : TokenArguments function,
          (toCall ⟨account, [token]⟩).arguments? function = some arguments ∧
            [.address account, .address token] = arguments.values)
    (read : readRelations selector input false = .ok relations) :
    (toCall relations).Tells function input := by
  rw [readRelations, if_neg Bool.false_ne_true, ← types] at read
  refine tells_of_readArguments toCall ?_ read
  refine uses_address.bind fun account _ isAccount => ?_
  refine uses_address.bind fun token _ isToken => ?_
  rw [isAccount, isToken]
  exact uses_pure (tells account token)

theorem tells_of_readSeveralRelations
    {relations : TokenRelations}
    (toCall : TokenRelations → TokenCall)
    (types : function.argumentTypes = [.address, .array .address])
    (tells :
      ∀ account tokens,
        ∃ arguments : TokenArguments function,
          (toCall ⟨account, tokens⟩).arguments? function = some arguments ∧
            [.address account, .ofList .address tokens] = arguments.values)
    (read : readRelations selector input true = .ok relations) :
    (toCall relations).Tells function input := by
  rw [readRelations, if_pos rfl, ← types] at read
  refine tells_of_readArguments toCall ?_ read
  refine uses_address.bind fun account _ isAccount => ?_
  refine uses_addresses.bind fun tokens _ areTokens => ?_
  rw [isAccount, areTokens]
  exact uses_pure (tells account tokens)

theorem tells_of_readMint
    {mint : TokenMint}
    {kind : OperationKind}
    (read : readMint selector input = .ok mint) :
    (TokenCall.write (.tokenMint mint) kind).Tells .mintToken input := by
  refine tells_of_readArguments (fun mint => .write (.tokenMint mint) kind) ?_ read
  refine uses_address.bind fun token _ isToken => ?_
  refine uses_uint64.bind fun amount _ isAmount => ?_
  refine (uses_nextList AbiValue.of_asBytes).bind fun metadata _ isMetadata => ?_
  rw [isToken, isAmount, isMetadata]
  exact uses_pure ⟨.mintToken token amount metadata, rfl, rfl⟩

theorem tells_of_readBurn
    {burn : TokenBurn}
    {kind : OperationKind}
    (read : readBurn selector input = .ok burn) :
    (TokenCall.write (.tokenBurn burn) kind).Tells .burnToken input := by
  refine tells_of_readArguments (fun burn => .write (.tokenBurn burn) kind) ?_ read
  refine uses_address.bind fun token _ isToken => ?_
  refine uses_uint64.bind fun amount _ isAmount => ?_
  refine uses_ints.bind fun serials _ areSerials => ?_
  rw [isToken, isAmount, areSerials]
  exact uses_pure ⟨.burnToken token amount serials, rfl, rfl⟩

theorem tells_of_readWipe
    {wipe : TokenWipe}
    {kind : OperationKind}
    (read : readWipe selector input = .ok wipe) :
    (TokenCall.write (.tokenAccountWipe wipe) kind).Tells .wipeTokenAccount input := by
  refine tells_of_readArguments (fun wipe => .write (.tokenAccountWipe wipe) kind) ?_ read
  refine uses_address.bind fun token _ isToken => ?_
  refine uses_address.bind fun account _ isAccount => ?_
  refine uses_uint64.bind fun amount _ isAmount => ?_
  rw [isToken, isAccount, isAmount]
  exact uses_pure ⟨.wipeTokenAccount token account amount, rfl, rfl⟩

theorem tells_of_readWipePieces
    {wipe : TokenWipe}
    {kind : OperationKind}
    (read : readWipePieces selector input = .ok wipe) :
    (TokenCall.write (.tokenAccountWipe wipe) kind).Tells .wipeTokenAccountNft input := by
  refine tells_of_readArguments (fun wipe => .write (.tokenAccountWipe wipe) kind) ?_ read
  refine uses_address.bind fun token _ isToken => ?_
  refine uses_address.bind fun account _ isAccount => ?_
  refine uses_ints.bind fun serials _ areSerials => ?_
  rw [isToken, isAccount, areSerials]
  exact uses_pure ⟨.wipeTokenAccountNft token account serials, rfl, rfl⟩

theorem tells_of_readTransfer
    {isNonFungible : Bool}
    {transfer : CryptoTransfer}
    (toCall : CryptoTransfer → TokenCall)
    (types : function.argumentTypes = [.address, .address, .address, .int64])
    (tells :
      ∀ token source target value,
        ∃ arguments : TokenArguments function,
          (toCall
                (if isNonFungible then
                  .piece token source target value false
                else
                  .fungible token source target value false)).arguments? function =
              some arguments ∧
            [.address token, .address source, .address target, .int value] = arguments.values)
    (read : readTransfer selector input isNonFungible = .ok transfer) :
    (toCall transfer).Tells function input := by
  rw [readTransfer, ← types] at read
  refine tells_of_readArguments toCall ?_ read
  refine uses_address.bind fun token _ isToken => ?_
  refine uses_address.bind fun source _ isSource => ?_
  refine uses_address.bind fun target _ isTarget => ?_
  refine uses_int.bind fun value _ isValue => ?_
  rw [isToken, isSource, isTarget, isValue]
  exact uses_pure (tells token source target value)

/-- The accounts and the amounts are as many, so the legs tell them all. -/
theorem tells_of_readTransferList
    {transfer : CryptoTransfer}
    (read : readTransferList selector input = .ok transfer) :
    (writeTransfer (transfer.markApprovals sender) false).Tells .transferTokens input := by
  refine tells_of_readArguments
    (fun transfer : CryptoTransfer => writeTransfer (transfer.markApprovals sender) false) ?_ read
  refine uses_address.bind fun token _ isToken => ?_
  refine uses_addresses.bind fun accounts _ areAccounts => ?_
  refine uses_ints.bind fun amounts _ areAmounts => ?_
  rw [isToken, areAccounts, areAmounts]
  split
  · exact uses_throw _
  · rename_i sameLength
    have lengths := not_not.mp sameLength
    refine uses_pure ⟨.transferTokens token accounts amounts, ?_, rfl⟩
    simp [writeTransfer, CryptoTransfer.markApprovals, CryptoTransfer.ofToken,
      TokenCall.arguments?, Function.comp_def, List.map_fst_zip lengths.le,
      List.map_snd_zip lengths.ge]

theorem tells_of_readApproval
    {approval : ApproveAllowance}
    {kind : OperationKind}
    (read : readApproval selector input ⟨Address.zero, sender, sender, true⟩ = .ok approval) :
    (TokenCall.write (.cryptoApproveAllowance approval) kind).Tells .approve input := by
  refine tells_of_readArguments
    (fun approval => .write (.cryptoApproveAllowance approval) kind) ?_ read
  refine uses_address.bind fun token _ isToken => ?_
  refine uses_address.bind fun spender _ isSpender => ?_
  refine uses_uint64.bind fun amount _ isAmount => ?_
  rw [isToken, isSpender, isAmount]
  exact uses_pure ⟨.approve token spender amount, rfl, rfl⟩

theorem tells_of_readPieceApproval
    {approval : ApproveAllowance}
    {kind : OperationKind}
    (read : readApproval selector input ⟨Address.zero, sender, sender, false⟩ = .ok approval) :
    (TokenCall.write (.cryptoApproveAllowance approval) kind).Tells .approveNft input := by
  refine tells_of_readArguments
    (fun approval => .write (.cryptoApproveAllowance approval) kind) ?_ read
  refine uses_address.bind fun token _ isToken => ?_
  refine uses_address.bind fun spender _ isSpender => ?_
  refine uses_serial.bind fun serial _ isSerial => ?_
  rw [isToken, isSpender, isSerial]
  exact uses_pure ⟨.approveNft token spender serial.toUInt64, rfl, rfl⟩

theorem tells_of_readApprovalAt
    {setting : ApprovalSetting}
    {approval : ApproveAllowance}
    {kind : OperationKind}
    (read : readApprovalAt selector input setting = .ok approval) :
    (TokenCall.write (.cryptoApproveAllowance approval) kind).Tells .ercApprove input := by
  refine tells_of_readArguments
    (fun approval => .write (.cryptoApproveAllowance approval) kind) ?_ read
  refine uses_address.bind fun spender _ isSpender => ?_
  rw [isSpender]
  split
  · refine uses_uint64.bind fun amount _ isAmount => ?_
    rw [isAmount]
    exact uses_pure ⟨.ercApprove spender amount, rfl, rfl⟩
  · refine uses_serial.bind fun serial _ isSerial => ?_
    rw [isSerial]
    exact uses_pure ⟨.ercApprove spender serial.toUInt64, rfl, rfl⟩

theorem tells_of_readQuery
    {question : SpenderQuery}
    (read : readQuery selector input = .ok question) :
    (TokenCall.query question).Tells .getApproved input := by
  refine tells_of_readArguments .query ?_ read
  refine uses_address.bind fun token _ isToken => ?_
  refine uses_word.bind fun serial _ isSerial => ?_
  rw [isToken, isSerial]
  exact uses_pure ⟨.getApproved token serial, rfl, rfl⟩

theorem tells_of_readQueryAt
    {token : Address}
    {question : SpenderQuery}
    (read : readQueryAt selector input token = .ok question) :
    (TokenCall.query question).Tells .ercGetApproved input := by
  refine tells_of_readArguments .query ?_ read
  refine uses_word.bind fun serial _ isSerial => ?_
  rw [isSerial]
  exact uses_pure ⟨.ercGetApproved serial, rfl, rfl⟩

theorem tells_of_readCreation
    {creation : TokenCreate}
    {kind : OperationKind}
    (read : readCreation selector input = .ok creation) :
    (TokenCall.write (.tokenCreate creation) kind).Tells .createFungibleToken input := by
  refine tells_of_readArguments (fun creation => .write (.tokenCreate creation) kind) ?_ read
  refine uses_string.bind fun name _ isName => ?_
  refine uses_string.bind fun symbol _ isSymbol => ?_
  refine uses_address.bind fun treasury _ isTreasury => ?_
  refine uses_uint64.bind fun initialSupply _ isSupply => ?_
  refine uses_uint64.bind fun number _ isNumber => ?_
  rw [isName, isSymbol, isTreasury, isSupply, isNumber]
  split
  · rename_i decimals inRange
    rw [UInt32.toUInt64_of_ofNat? inRange]
    exact uses_pure
      ⟨.createFungibleToken name symbol treasury initialSupply decimals, rfl, rfl⟩
  · exact uses_throw _

/-- A number read as a serial is the same number again. -/
theorem tells_of_readOwnTransfer
    {setting : TransferSetting}
    {transfer : CryptoTransfer}
    (read : readOwnTransfer input setting = .ok transfer) :
    (writeTransfer transfer setting.isNonFungible).Tells .ercTransfer input := by
  refine tells_of_readArguments
    (fun transfer => writeTransfer transfer setting.isNonFungible) ?_ read
  refine uses_address.bind fun target _ isTarget => ?_
  refine uses_serial.bind fun value _ isValue => ?_
  rw [isTarget, isValue]
  refine uses_pure ⟨.ercTransfer target value.toUInt64, ?_, rfl⟩
  unfold transferAt
  split <;> rfl

theorem tells_of_readTransferFor
    {setting : TransferSetting}
    {transfer : CryptoTransfer}
    (read : readTransferFor input setting = .ok transfer) :
    (writeTransfer transfer setting.isNonFungible).Tells .ercTransferFrom input := by
  refine tells_of_readArguments
    (fun transfer => writeTransfer transfer setting.isNonFungible) ?_ read
  refine uses_address.bind fun source _ isSource => ?_
  refine uses_address.bind fun target _ isTarget => ?_
  refine uses_serial.bind fun value _ isValue => ?_
  rw [isSource, isTarget, isValue]
  refine uses_pure ⟨.ercTransferFrom source target value.toUInt64, ?_, rfl⟩
  unfold transferAt
  split <;> rfl

theorem tells_of_bind
    {α : Type}
    {first : Except PrecompileError α}
    {toCall : α → TokenCall}
    {call : TokenCall}
    (tells : ∀ {result}, first = .ok result → (toCall result).Tells function input)
    (read : (first >>= fun result => pure (toCall result)) = .ok call) :
    call.Tells function input := by
  obtain ⟨result, taken, done⟩ := exists_of_bind_eq_ok read
  cases done
  exact tells taken

/-- What was read tells what was written behind the selector, in every surrounding. -/
theorem tells_of_readCall
    {setting : CallSetting}
    {call : TokenCall}
    (read : function.readCall input setting sender = .ok call) :
    call.Tells function input := by
  cases function with
  | associateToken =>
      exact tells_of_bind
        (tells_of_readRelations (fun relations => .write (.tokenAssociateToAccount relations) _)
          rfl fun account token => ⟨.associateToken account token, rfl, rfl⟩)
        read
  | associateTokens =>
      exact tells_of_bind
        (tells_of_readSeveralRelations
          (fun relations => .write (.tokenAssociateToAccount relations) _)
          rfl fun account tokens => ⟨.associateTokens account tokens, rfl, rfl⟩)
        read
  | dissociateToken =>
      exact tells_of_bind
        (tells_of_readRelations (fun relations => .write (.tokenDissociateFromAccount relations) _)
          rfl fun account token => ⟨.dissociateToken account token, rfl, rfl⟩)
        read
  | dissociateTokens =>
      exact tells_of_bind
        (tells_of_readSeveralRelations
          (fun relations => .write (.tokenDissociateFromAccount relations) _)
          rfl fun account tokens => ⟨.dissociateTokens account tokens, rfl, rfl⟩)
        read
  | mintToken => exact tells_of_bind tells_of_readMint read
  | burnToken => exact tells_of_bind tells_of_readBurn read
  | wipeTokenAccount => exact tells_of_bind tells_of_readWipe read
  | wipeTokenAccountNft => exact tells_of_bind tells_of_readWipePieces read
  | transferToken =>
      -- Marking the approvals of a transfer leaves its arguments.
      exact tells_of_bind
        (tells_of_readTransfer (fun transfer => writeTransfer (transfer.markApprovals sender) _)
          rfl fun token source target value =>
            ⟨.transferToken token source target value, rfl, rfl⟩)
        read
  | transferNft =>
      exact tells_of_bind
        (tells_of_readTransfer (fun transfer => writeTransfer (transfer.markApprovals sender) _)
          rfl fun token source target serial =>
            ⟨.transferNft token source target serial, rfl, rfl⟩)
        read
  | transferTokens => exact tells_of_bind tells_of_readTransferList read
  | approve => exact tells_of_bind tells_of_readApproval read
  | approveNft => exact tells_of_bind tells_of_readPieceApproval read
  | getApproved => exact tells_of_bind tells_of_readQuery read
  | createFungibleToken => exact tells_of_bind tells_of_readCreation read
  | ercApprove =>
      cases setting with
      | approval setting => exact tells_of_bind tells_of_readApprovalAt read
      | _ => cases read
  | ercTransfer =>
      cases setting with
      | transfer setting => exact tells_of_bind tells_of_readOwnTransfer read
      | _ => cases read
  | ercTransferFrom =>
      cases setting with
      | transfer setting => exact tells_of_bind tells_of_readTransferFor read
      | _ => cases read
  | ercGetApproved =>
      cases setting with
      | approval setting => exact tells_of_bind tells_of_readQueryAt read
      | _ => cases read

end TokenFunction

end LedgerEvm
