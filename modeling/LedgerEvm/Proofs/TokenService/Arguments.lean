import Mathlib.Algebra.Group.Int.Defs
import LedgerEvm.Proofs.Abi.RoundTrip
import LedgerEvm.TokenService.Dispatch

/-!
# What a call of a token function is read as

A caller writes the arguments of a function in the order of its signature.  Each of the
nineteen functions reads them back and puts each one in its own place of the transaction,
or of the question.
-/

namespace UInt64

/-- Below 2^63 a number keeps its value when it is taken as a signed one. -/
theorem toInt_toInt64
    {number : UInt64}
    (small : number.toNat < 2 ^ 63) :
    number.toInt64.toInt = number.toNat := by
  have positive : 2 * number.toBitVec.toNat < 2 ^ 64 := by
    rw [toNat_toBitVec]
    omega
  exact BitVec.toInt_eq_toNat_of_lt positive

end UInt64

namespace Int64

/-- Above the least number the clamped negation is the plain one. -/
theorem negClamp_eq_neg
    {value : Int64}
    (above : minValue < value) :
    value.negClamp = -value := by
  have low : minValue.toInt < value.toInt := lt_iff_toInt_lt.mp above
  have high := value.toInt_le
  have least : minValue.toInt = -2 ^ 63 := rfl
  have greatest : maxValue.toInt = 2 ^ 63 - 1 := rfl
  have inRange : minValue.toInt ≤ -value.toInt ∧ -value.toInt ≤ maxValue.toInt := by omega
  rw [negClamp, ofIntClamp, dif_pos inRange.1, dif_pos inRange.2, ofIntLE_eq_ofInt, ofInt_neg,
    ofInt_toInt]

end Int64

namespace LedgerEvm

namespace AbiValue

/-- A 64-bit number as an argument. -/
def ofUInt64 (number : UInt64) : AbiValue :=
  .uint (Word.ofUInt64 number)

/-- A list of arguments of one kind. -/
def ofList {α : Type} (wrap : α → AbiValue) (items : List α) : AbiValue :=
  .array (items.map wrap)

theorem asUInt64_ofUInt64
    (number : UInt64) :
    (ofUInt64 number).asUInt64 = .ok number := by
  have bound := number.toNat_lt
  have value : (Word.ofUInt64 number).toNat = number.toNat := by
    rw [Word.ofUInt64, BitVec.toNat_ofNat, Nat.mod_eq_of_lt (by omega)]
  simp [ofUInt64, asUInt64, asWord, value, bind, Except.bind, pure, Except.pure]

theorem asSerial_ofUInt64
    {number : UInt64}
    (small : number.toNat < 2 ^ 63) :
    (ofUInt64 number).asSerial = .ok number.toInt64 := by
  have inRange : Int64.ofUInt64? number = some number.toInt64 := by
    rw [Int64.ofUInt64?, ← UInt64.toInt_toInt64 small, Int64.ofInt?_toInt]
  simp [asSerial, asUInt64_ofUInt64, inRange, bind, Except.bind, pure, Except.pure]

theorem hasType_ofList
    {α : Type}
    {wrap : α → AbiValue}
    {type : AbiType}
    (each : ∀ item, HasType (wrap item) type)
    (items : List α) :
    HasType (ofList wrap items) (.array type) := by
  apply HasType.array
  intro value member
  obtain ⟨item, _, rfl⟩ := List.mem_map.mp member
  exact each item

end AbiValue

namespace ValueReader

variable {α β : Type}

/-- Whether a reader takes exactly the given values and answers what they stand for. -/
def Takes (reader : ValueReader α) (values : List AbiValue) (answer : α) : Prop :=
  ∀ rest, reader.run (values ++ rest) = .ok (answer, rest)

theorem takes_pure
    (answer : α) :
    Takes (pure answer) [] answer :=
  fun _ => rfl

theorem Takes.bind
    {first : ValueReader α}
    {next : α → ValueReader β}
    {value : AbiValue}
    {values : List AbiValue}
    {middle : α}
    {answer : β}
    (taken : first.Takes [value] middle)
    (later : (next middle).Takes values answer) :
    (first >>= next).Takes (value :: values) answer := by
  intro rest
  have here : first.run (value :: (values ++ rest)) = .ok (middle, values ++ rest) :=
    taken (values ++ rest)
  rw [List.cons_append, StateT.run_bind, here]
  exact later rest

theorem takes_nextAs
    {convert : AbiValue → Except AbiError α}
    {value : AbiValue}
    {answer : α}
    (converted : convert value = .ok answer) :
    Takes (nextAs convert) [value] answer := by
  intro rest
  have read : next.run ([value] ++ rest) = .ok (value, rest) := rfl
  rw [nextAs, StateT.run_bind, read]
  simp only [bind, Except.bind, converted]
  rfl

theorem takes_nextList
    {convert : AbiValue → Except AbiError α}
    (wrap : α → AbiValue)
    (converted : ∀ item, convert (wrap item) = .ok item)
    (items : List α) :
    Takes (nextList convert) [.ofList wrap items] items := by
  have each : (items.map wrap).mapM convert = .ok items := by
    rw [List.mapM_map]
    induction items with
    | nil =>
        rfl
    | cons item items inductionHypothesis =>
        simp [List.mapM_cons, converted, inductionHypothesis, bind, Except.bind, pure, Except.pure]
  apply Takes.bind (takes_nextAs (rfl : AbiValue.asArray (.ofList wrap _) = .ok _))
  rw [each]
  exact takes_pure _

theorem takes_address
    (address : Address) :
    Takes (nextAs AbiValue.asAddress) [.address address] address :=
  takes_nextAs rfl

theorem takes_string
    (text : String) :
    Takes (nextAs AbiValue.asString) [.string text] text :=
  takes_nextAs rfl

theorem takes_uint64
    (number : UInt64) :
    Takes (nextAs AbiValue.asUInt64) [.ofUInt64 number] number :=
  takes_nextAs (AbiValue.asUInt64_ofUInt64 number)

theorem takes_serial
    {number : UInt64}
    (small : number.toNat < 2 ^ 63) :
    Takes (nextAs AbiValue.asSerial) [.ofUInt64 number] number.toInt64 :=
  takes_nextAs (AbiValue.asSerial_ofUInt64 small)

theorem takes_addresses
    (addresses : List Address) :
    Takes (nextList AbiValue.asAddress) [.ofList .address addresses] addresses :=
  takes_nextList .address (fun _ => rfl) addresses

theorem takes_ints
    (numbers : List Int64) :
    Takes (nextList AbiValue.asInt64) [.ofList .int numbers] numbers :=
  takes_nextList .int (fun _ => rfl) numbers

end ValueReader

namespace TokenFunction

open AbiValue ValueReader

variable {selector : Selector}

/-- The arguments of a call are read by the reader that takes them. -/
theorem readArguments_encodeCall
    {α : Type}
    {types : List AbiType}
    {values : List AbiValue}
    {reader : ValueReader α}
    {answer : α}
    (readable : AreReadable values)
    (typed : List.Forall₂ HasType values types)
    (taken : reader.Takes values answer) :
    readArguments selector types (encodeCall selector values) reader = .ok answer := by
  have read := decode_encode_of_areReadable typed readable
  have run : reader.run values = .ok (answer, []) := by
    simpa using taken []
  simp [readArguments, readFrom, decodeCall_encodeCall, read, run, bind, Except.bind, pure,
    Except.pure]

theorem readRelations_single
    {account token : Address}
    (readable : AreReadable [.address account, .address token]) :
    readRelations selector (encodeCall selector [.address account, .address token]) false =
      .ok ⟨account, [token]⟩ :=
  readArguments_encodeCall readable (.cons (.address _) (.cons (.address _) .nil))
    (.bind (takes_address account) (.bind (takes_address token) (takes_pure _)))

theorem readRelations_several
    {account : Address}
    {tokens : List Address}
    (readable : AreReadable [.address account, .ofList .address tokens]) :
    readRelations selector (encodeCall selector [.address account, .ofList .address tokens]) true =
      .ok ⟨account, tokens⟩ :=
  readArguments_encodeCall readable
    (.cons (.address _) (.cons (hasType_ofList .address tokens) .nil))
    (.bind (takes_address account) (.bind (takes_addresses tokens) (takes_pure _)))

theorem readMint_encodeCall
    {token : Address}
    {amount : UInt64}
    {metadata : List Bytes}
    (readable : AreReadable [.address token, .ofUInt64 amount, .ofList .bytes metadata]) :
    readMint selector
        (encodeCall selector [.address token, .ofUInt64 amount, .ofList .bytes metadata]) =
      .ok ⟨token, amount, metadata⟩ :=
  readArguments_encodeCall readable
    (.cons (.address _) (.cons (.uint _) (.cons (hasType_ofList .bytes metadata) .nil)))
    (.bind (takes_address token) (.bind (takes_uint64 amount)
      (.bind (takes_nextList .bytes (fun _ => rfl) metadata) (takes_pure _))))

theorem readBurn_encodeCall
    {token : Address}
    {amount : UInt64}
    {serials : List Int64}
    (readable : AreReadable [.address token, .ofUInt64 amount, .ofList .int serials]) :
    readBurn selector
        (encodeCall selector [.address token, .ofUInt64 amount, .ofList .int serials]) =
      .ok ⟨token, amount, serials⟩ :=
  readArguments_encodeCall readable
    (.cons (.address _) (.cons (.uint _) (.cons (hasType_ofList .int serials) .nil)))
    (.bind (takes_address token) (.bind (takes_uint64 amount)
      (.bind (takes_ints serials) (takes_pure _))))

theorem readWipe_encodeCall
    {token account : Address}
    {amount : UInt64}
    (readable : AreReadable [.address token, .address account, .ofUInt64 amount]) :
    readWipe selector
        (encodeCall selector [.address token, .address account, .ofUInt64 amount]) =
      .ok ⟨token, account, amount, []⟩ :=
  readArguments_encodeCall readable
    (.cons (.address _) (.cons (.address _) (.cons (.uint _) .nil)))
    (.bind (takes_address token) (.bind (takes_address account)
      (.bind (takes_uint64 amount) (takes_pure _))))

theorem readWipePieces_encodeCall
    {token account : Address}
    {serials : List Int64}
    (readable : AreReadable [.address token, .address account, .ofList .int serials]) :
    readWipePieces selector
        (encodeCall selector [.address token, .address account, .ofList .int serials]) =
      .ok ⟨token, account, 0, serials⟩ :=
  readArguments_encodeCall readable
    (.cons (.address _) (.cons (.address _) (.cons (hasType_ofList .int serials) .nil)))
    (.bind (takes_address token) (.bind (takes_address account)
      (.bind (takes_ints serials) (takes_pure _))))

theorem readTransfer_encodeCall
    {token source target : Address}
    {value : Int64}
    (readable : AreReadable [.address token, .address source, .address target, .int value])
    (isNonFungible : Bool) :
    readTransfer selector
        (encodeCall selector [.address token, .address source, .address target, .int value])
        isNonFungible =
      .ok
        (if isNonFungible then
          CryptoTransfer.piece token source target value false
        else
          CryptoTransfer.fungible token source target value false) :=
  readArguments_encodeCall readable
    (.cons (.address _) (.cons (.address _) (.cons (.address _) (.cons (.int _) .nil))))
    (.bind (takes_address token) (.bind (takes_address source) (.bind (takes_address target)
      (.bind (takes_nextAs rfl) (takes_pure _)))))

theorem readTransferList_encodeCall
    {token : Address}
    {accounts : List Address}
    {amounts : List Int64}
    (readable :
      AreReadable [.address token, .ofList .address accounts, .ofList .int amounts])
    (sameLength : accounts.length = amounts.length) :
    readTransferList selector
        (encodeCall selector
          [.address token, .ofList .address accounts, .ofList .int amounts]) =
      .ok
        (CryptoTransfer.ofToken
          ⟨token, (accounts.zip amounts).map fun leg => ⟨leg.1, leg.2, false⟩, []⟩) := by
  apply readArguments_encodeCall readable
    (.cons (.address _) (.cons (hasType_ofList .address accounts)
      (.cons (hasType_ofList .int amounts) .nil)))
  apply Takes.bind (takes_address token)
  apply Takes.bind (takes_addresses accounts)
  apply Takes.bind (takes_ints amounts)
  rw [if_neg (not_not_intro sameLength)]
  exact takes_pure _

theorem readOwnTransfer_encodeCall
    (setting : TransferSetting)
    {target : Address}
    {value : UInt64}
    (readable : AreReadable [.address target, .ofUInt64 value])
    (small : value.toNat < 2 ^ 63) :
    readOwnTransfer (encodeCall setting.selector [.address target, .ofUInt64 value]) setting =
      .ok (transferAt setting setting.sender target value.toInt64 false) :=
  readArguments_encodeCall readable (.cons (.address _) (.cons (.uint _) .nil))
    (.bind (takes_address target) (.bind (takes_serial small) (takes_pure _)))

theorem readTransferFor_encodeCall
    (setting : TransferSetting)
    {source target : Address}
    {value : UInt64}
    (readable : AreReadable [.address source, .address target, .ofUInt64 value])
    (small : value.toNat < 2 ^ 63) :
    readTransferFor
        (encodeCall setting.selector [.address source, .address target, .ofUInt64 value])
        setting =
      .ok (transferAt setting source target value.toInt64 (source != setting.sender)) :=
  readArguments_encodeCall readable
    (.cons (.address _) (.cons (.address _) (.cons (.uint _) .nil)))
    (.bind (takes_address source) (.bind (takes_address target)
      (.bind (takes_serial small) (takes_pure _))))

/-- What is granted to a spender: an amount, or a piece. -/
def granted (setting : ApprovalSetting) (token spender : Address) (value : UInt64) :
    ApproveAllowance :=
  if setting.isFungible then
    ⟨[⟨token, setting.owner, spender, value⟩], []⟩
  else
    ⟨[], [⟨token, setting.owner, spender, [value.toInt64]⟩]⟩

theorem takes_readGrant
    {setting : ApprovalSetting}
    {value : UInt64}
    (small : setting.isFungible = false → value.toNat < 2 ^ 63)
    (token spender : Address) :
    (readGrant setting token).Takes [.address spender, .ofUInt64 value]
      (granted setting token spender value) := by
  apply Takes.bind (takes_address spender)
  unfold granted
  cases fungible : setting.isFungible with
  | true =>
      exact .bind (takes_uint64 value) (takes_pure _)
  | false =>
      exact .bind (takes_serial (small fungible)) (takes_pure _)

theorem readApproval_encodeCall
    {setting : ApprovalSetting}
    {token spender : Address}
    {value : UInt64}
    (readable : AreReadable [.address token, .address spender, .ofUInt64 value])
    (small : setting.isFungible = false → value.toNat < 2 ^ 63) :
    readApproval selector
        (encodeCall selector [.address token, .address spender, .ofUInt64 value]) setting =
      .ok (granted setting token spender value) :=
  readArguments_encodeCall readable
    (.cons (.address _) (.cons (.address _) (.cons (.uint _) .nil)))
    (.bind (takes_address token) (takes_readGrant small token spender))

theorem readApprovalAt_encodeCall
    {setting : ApprovalSetting}
    {spender : Address}
    {value : UInt64}
    (readable : AreReadable [.address spender, .ofUInt64 value])
    (small : setting.isFungible = false → value.toNat < 2 ^ 63) :
    readApprovalAt selector (encodeCall selector [.address spender, .ofUInt64 value]) setting =
      .ok (granted setting setting.token spender value) :=
  readArguments_encodeCall readable (.cons (.address _) (.cons (.uint _) .nil))
    (takes_readGrant small setting.token spender)

theorem readQuery_encodeCall
    {token : Address}
    {serial : Word}
    (readable : AreReadable [.address token, .uint serial]) :
    readQuery selector (encodeCall selector [.address token, .uint serial]) =
      .ok ⟨token, serial⟩ :=
  readArguments_encodeCall readable (.cons (.address _) (.cons (.uint _) .nil))
    (.bind (takes_address token) (.bind (takes_nextAs rfl) (takes_pure _)))

theorem readQueryAt_encodeCall
    {serial : Word}
    (readable : AreReadable [.uint serial])
    (token : Address) :
    readQueryAt selector (encodeCall selector [.uint serial]) token = .ok ⟨token, serial⟩ :=
  readArguments_encodeCall readable (.cons (.uint _) .nil)
    (.bind (takes_nextAs rfl) (takes_pure _))

theorem readCreation_encodeCall
    {name symbol : String}
    {treasury : Address}
    {initialSupply : UInt64}
    {decimals : UInt32}
    (readable :
      AreReadable
        [.string name, .string symbol, .address treasury, .ofUInt64 initialSupply,
          .ofUInt64 decimals.toUInt64]) :
    readCreation selector
        (encodeCall selector
          [.string name, .string symbol, .address treasury, .ofUInt64 initialSupply,
            .ofUInt64 decimals.toUInt64]) =
      .ok
        { name, symbol, treasury, initialSupply, decimals
          kind := .fungible
          supplyKey := true } := by
  have inRange : UInt32.ofNat? decimals.toUInt64.toNat = some decimals := by
    simp [UInt32.ofNat?, decimals.toNat_lt_size]
  apply readArguments_encodeCall readable
    (.cons (.string _) (.cons (.string _) (.cons (.address _) (.cons (.uint _)
      (.cons (.uint _) .nil)))))
  apply Takes.bind (takes_string name)
  apply Takes.bind (takes_string symbol)
  apply Takes.bind (takes_address treasury)
  apply Takes.bind (takes_uint64 initialSupply)
  apply Takes.bind (takes_uint64 decimals.toUInt64)
  rw [inRange]
  exact takes_pure _

end TokenFunction

/-- The arguments of each function, in the order of its signature. -/
inductive TokenArguments : TokenFunction → Type where
  | associateToken (account token : Address) : TokenArguments .associateToken
  | associateTokens (account : Address) (tokens : List Address) : TokenArguments .associateTokens
  | dissociateToken (account token : Address) : TokenArguments .dissociateToken
  | dissociateTokens (account : Address) (tokens : List Address) :
      TokenArguments .dissociateTokens
  | mintToken (token : Address) (amount : UInt64) (metadata : List Bytes) :
      TokenArguments .mintToken
  | burnToken (token : Address) (amount : UInt64) (serials : List Int64) :
      TokenArguments .burnToken
  | wipeTokenAccount (token account : Address) (amount : UInt64) :
      TokenArguments .wipeTokenAccount
  | wipeTokenAccountNft (token account : Address) (serials : List Int64) :
      TokenArguments .wipeTokenAccountNft
  | transferToken (token source target : Address) (amount : Int64) :
      TokenArguments .transferToken
  | transferNft (token source target : Address) (serial : Int64) : TokenArguments .transferNft
  | transferTokens (token : Address) (accounts : List Address) (amounts : List Int64) :
      TokenArguments .transferTokens
  | approve (token spender : Address) (amount : UInt64) : TokenArguments .approve
  | approveNft (token spender : Address) (serial : UInt64) : TokenArguments .approveNft
  | getApproved (token : Address) (serial : Word) : TokenArguments .getApproved
  | createFungibleToken
      (name symbol : String)
      (treasury : Address)
      (initialSupply : UInt64)
      (decimals : UInt32) :
      TokenArguments .createFungibleToken
  | ercApprove (spender : Address) (value : UInt64) : TokenArguments .ercApprove
  | ercTransfer (target : Address) (value : UInt64) : TokenArguments .ercTransfer
  | ercTransferFrom (source target : Address) (value : UInt64) : TokenArguments .ercTransferFrom
  | ercGetApproved (serial : Word) : TokenArguments .ercGetApproved

/-- The leg of an account; only a debit of another account than the caller is on approval. -/
def AccountAmount.by (caller account : Address) (amount : Int64) : AccountAmount :=
  ⟨account, amount, decide (amount < 0 ∧ account ≠ caller)⟩

/-- The move of a piece, on approval when it is another account's than the caller's. -/
def NftTransfer.by (caller source target : Address) (serial : Int64) : NftTransfer :=
  ⟨source, target, serial, decide (source ≠ caller)⟩

/-- A transfer with legs of one token. -/
def TransactionBody.moveAmounts (token : Address) (legs : List AccountAmount) : TransactionBody :=
  .cryptoTransfer ⟨[], [⟨token, legs, []⟩]⟩

/-- A transfer of one piece of a token. -/
def TransactionBody.movePiece (token : Address) (leg : NftTransfer) : TransactionBody :=
  .cryptoTransfer ⟨[], [⟨token, [], [leg]⟩]⟩

namespace TokenArguments

open AbiValue (ofUInt64 ofList)

variable {function : TokenFunction}

/-- The arguments as a caller writes them. -/
def values : TokenArguments function → List AbiValue
  | .associateToken account token => [.address account, .address token]
  | .associateTokens account tokens => [.address account, ofList .address tokens]
  | .dissociateToken account token => [.address account, .address token]
  | .dissociateTokens account tokens => [.address account, ofList .address tokens]
  | .mintToken token amount metadata => [.address token, ofUInt64 amount, ofList .bytes metadata]
  | .burnToken token amount serials => [.address token, ofUInt64 amount, ofList .int serials]
  | .wipeTokenAccount token account amount => [.address token, .address account, ofUInt64 amount]
  | .wipeTokenAccountNft token account serials =>
      [.address token, .address account, ofList .int serials]
  | .transferToken token source target amount =>
      [.address token, .address source, .address target, .int amount]
  | .transferNft token source target serial =>
      [.address token, .address source, .address target, .int serial]
  | .transferTokens token accounts amounts =>
      [.address token, ofList .address accounts, ofList .int amounts]
  | .approve token spender amount => [.address token, .address spender, ofUInt64 amount]
  | .approveNft token spender serial => [.address token, .address spender, ofUInt64 serial]
  | .getApproved token serial => [.address token, .uint serial]
  | .createFungibleToken name symbol treasury initialSupply decimals =>
      [.string name, .string symbol, .address treasury, ofUInt64 initialSupply,
        ofUInt64 decimals.toUInt64]
  | .ercApprove spender value => [.address spender, ofUInt64 value]
  | .ercTransfer target value => [.address target, ofUInt64 value]
  | .ercTransferFrom source target value => [.address source, .address target, ofUInt64 value]
  | .ercGetApproved serial => [.uint serial]

/-- Whether a function takes the arguments, those of a token's own functions at such a token. -/
def InRange (isNonFungible : Bool) : TokenArguments function → Prop
  | .transferToken _ _ _ amount => Int64.minValue < amount
  | .transferTokens _ accounts amounts => accounts.length = amounts.length
  | .approveNft _ _ serial => serial.toNat < 2 ^ 63
  | .ercApprove _ value => isNonFungible = true → value.toNat < 2 ^ 63
  | .ercTransfer _ value => value.toNat < 2 ^ 63
  | .ercTransferFrom _ _ value => value.toNat < 2 ^ 63
  | _ => True

/--
What a caller asks for with the arguments.  The functions of a token's address concern that
token.
-/
def meaning
    (caller own : Address)
    (isNonFungible : Bool) :
    TokenArguments function → TokenCall
  | .associateToken account token =>
      .write (.tokenAssociateToAccount ⟨account, [token]⟩) .associate
  | .associateTokens account tokens =>
      .write (.tokenAssociateToAccount ⟨account, tokens⟩) .associate
  | .dissociateToken account token =>
      .write (.tokenDissociateFromAccount ⟨account, [token]⟩) .dissociate
  | .dissociateTokens account tokens =>
      .write (.tokenDissociateFromAccount ⟨account, tokens⟩) .dissociate
  | .mintToken token amount metadata =>
      .write (.tokenMint ⟨token, amount, metadata⟩)
        (if metadata = [] then .mintFungible else .mintNft)
  | .burnToken token amount serials =>
      .write (.tokenBurn ⟨token, amount, serials⟩)
        (if serials = [] then .burnFungible else .burnNft)
  | .wipeTokenAccount token account amount =>
      .write (.tokenAccountWipe ⟨token, account, amount, []⟩) .wipeFungible
  | .wipeTokenAccountNft token account serials =>
      .write (.tokenAccountWipe ⟨token, account, 0, serials⟩) .wipeNft
  | .transferToken token source target amount =>
      .write
        (.moveAmounts token [.by caller source (-amount), .by caller target amount])
        .transferFungible
  | .transferNft token source target serial =>
      .write (.movePiece token (.by caller source target serial)) .transferNft
  | .transferTokens token accounts amounts =>
      .write
        (.moveAmounts token
          ((accounts.zip amounts).map fun leg => .by caller leg.1 leg.2))
        .transferFungible
  | .approve token spender amount =>
      .write (.cryptoApproveAllowance ⟨[⟨token, caller, spender, amount⟩], []⟩) .approve
  | .approveNft token spender serial =>
      .write
        (.cryptoApproveAllowance ⟨[], [⟨token, caller, spender, [serial.toInt64]⟩]⟩)
        .approve
  | .getApproved token serial => .query ⟨token, serial⟩
  | .createFungibleToken name symbol treasury initialSupply decimals =>
      .write
        (.tokenCreate
          { name, symbol, treasury, initialSupply, decimals
            kind := .fungible
            supplyKey := true })
        .create
  | .ercApprove spender value =>
      if isNonFungible then
        .write
          (.cryptoApproveAllowance ⟨[], [⟨own, caller, spender, [value.toInt64]⟩]⟩)
          .approve
      else
        .write (.cryptoApproveAllowance ⟨[⟨own, caller, spender, value⟩], []⟩) .approve
  | .ercTransfer target value =>
      if isNonFungible then
        .write (.movePiece own (.by caller caller target value.toInt64)) .transferNft
      else
        .write
          (.moveAmounts own
            [.by caller caller (-value.toInt64), .by caller target value.toInt64])
          .transferFungible
  | .ercTransferFrom source target value =>
      if isNonFungible then
        .write (.movePiece own (.by caller source target value.toInt64)) .transferNft
      else
        .write
          (.moveAmounts own
            [⟨source, -value.toInt64, decide (source ≠ caller)⟩,
              .by caller target value.toInt64])
          .transferFungible
  | .ercGetApproved serial => .query ⟨own, serial⟩

end TokenArguments

/-- A signed number that was an unsigned one below 2^63 is not negative. -/
theorem not_toInt64_neg
    {number : UInt64}
    (small : number.toNat < 2 ^ 63) :
    ¬ number.toInt64 < 0 := by
  rw [Int64.lt_iff_toInt_lt, UInt64.toInt_toInt64 small]
  exact Int.not_lt.mpr (Int.natCast_nonneg _)

/-- The opposite of what is not negative is negative or zero. -/
theorem neg_toInt64_neg
    {number : UInt64}
    (small : number.toNat < 2 ^ 63)
    (nonzero : -number.toInt64 ≠ 0) :
    -number.toInt64 < 0 := by
  have value : (-number.toInt64).toInt = -(number.toNat : Int) := by
    rw [Int64.toInt_neg, UInt64.toInt_toInt64 small, Int.bmod_eq_of_le (by omega) (by omega)]
  have different : (-number.toInt64).toInt ≠ 0 := fun zero => nonzero (Int64.toInt_inj.mp zero)
  rw [Int64.lt_iff_toInt_lt]
  have zero : (0 : Int64).toInt = 0 := rfl
  omega

theorem negClamp_toInt64
    {number : UInt64}
    (small : number.toNat < 2 ^ 63) :
    number.toInt64.negClamp = -number.toInt64 := by
  apply Int64.negClamp_eq_neg
  rw [Int64.lt_iff_toInt_lt, UInt64.toInt_toInt64 small]
  have least : Int64.minValue.toInt = -2 ^ 63 := rfl
  omega

namespace CryptoTransfer

theorem markApprovals_fungible
    {amount : Int64}
    (above : Int64.minValue < amount)
    (token source target caller : Address) :
    TransactionBody.cryptoTransfer
        ((fungible token source target amount false).markApprovals caller) =
      .moveAmounts token [.by caller source (-amount), .by caller target amount] := by
  simp [fungible, ofToken, markApprovals, TransactionBody.moveAmounts, AccountAmount.by,
    Int64.negClamp_eq_neg above, bne, beq_eq_decide]

theorem markApprovals_piece
    (token source target caller : Address)
    (serial : Int64) :
    TransactionBody.cryptoTransfer
        ((piece token source target serial false).markApprovals caller) =
      .movePiece token (.by caller source target serial) := by
  simp [piece, ofToken, markApprovals, TransactionBody.movePiece, NftTransfer.by, bne,
    beq_eq_decide]

theorem markApprovals_legs
    (token caller : Address)
    (legs : List (Address × Int64)) :
    TransactionBody.cryptoTransfer
        ((ofToken ⟨token, legs.map fun leg => ⟨leg.1, leg.2, false⟩, []⟩).markApprovals caller) =
      .moveAmounts token (legs.map fun leg => .by caller leg.1 leg.2) := by
  simp [ofToken, markApprovals, TransactionBody.moveAmounts, AccountAmount.by, bne, beq_eq_decide]

end CryptoTransfer

theorem AccountAmount.by_self
    (caller : Address)
    (amount : Int64) :
    AccountAmount.by caller caller amount = ⟨caller, amount, false⟩ := by
  simp [AccountAmount.by]

theorem AccountAmount.by_credit
    {number : UInt64}
    (small : number.toNat < 2 ^ 63)
    (caller account : Address) :
    AccountAmount.by caller account number.toInt64 = ⟨account, number.toInt64, false⟩ := by
  simp [AccountAmount.by, not_toInt64_neg small]

/-- What a transfer at a token's address asks for, at a token of either kind. -/
theorem TokenFunction.writeTransfer_transferAt
    {setting : TransferSetting}
    {value : UInt64}
    (small : value.toNat < 2 ^ 63)
    (source target : Address)
    (isApproval : Bool) :
    writeTransfer (transferAt setting source target value.toInt64 isApproval)
        setting.isNonFungible =
      if setting.isNonFungible then
        .write
          (.movePiece setting.token ⟨source, target, value.toInt64, isApproval⟩)
          .transferNft
      else
        .write
          (.moveAmounts setting.token
            [⟨source, -value.toInt64, isApproval⟩, ⟨target, value.toInt64, false⟩])
          .transferFungible := by
  cases nonFungible : setting.isNonFungible with
  | true =>
      simp [transferAt, nonFungible, writeTransfer, CryptoTransfer.piece, CryptoTransfer.ofToken,
        TransactionBody.movePiece]
  | false =>
      simp [transferAt, nonFungible, writeTransfer, CryptoTransfer.fungible,
        CryptoTransfer.ofToken, TransactionBody.moveAmounts, negClamp_toInt64 small]

/--
Whether the debits and the moves of another account than the caller, and no others, are on
approval.  Nothing is said of the exempt legs.
-/
structure TokenTransfers.IsMarked
    (list : TokenTransfers)
    (caller : Address)
    (exempt : AccountAmount → Prop) :
    Prop where
  legs :
    ∀ leg ∈ list.transfers, ¬ exempt leg →
      (leg.isApproval = true ↔ leg.amount < 0 ∧ leg.account ≠ caller)
  moves : ∀ move ∈ list.nftTransfers, move.isApproval = true ↔ move.sender ≠ caller

/-- Whether a call that is a transfer marks its approvals. -/
def TokenCall.IsMarked (caller : Address) (exempt : AccountAmount → Prop) : TokenCall → Prop
  | .write (.cryptoTransfer transfer) _ =>
      ∀ list ∈ transfer.tokenTransfers, list.IsMarked caller exempt
  | _ => True

section Marks

variable
  {caller token : Address}
  {exempt : AccountAmount → Prop}
  {kind : OperationKind}

theorem TokenCall.isMarked_moveAmounts
    {legs : List AccountAmount}
    (each :
      ∀ leg ∈ legs, ¬ exempt leg →
        (leg.isApproval = true ↔ leg.amount < 0 ∧ leg.account ≠ caller)) :
    IsMarked caller exempt (.write (.moveAmounts token legs) kind) := by
  intro list member
  obtain rfl := List.mem_singleton.mp member
  exact ⟨each, by simp⟩

theorem TokenCall.isMarked_movePiece
    (source target : Address)
    (serial : Int64) :
    IsMarked caller exempt (.write (.movePiece token (.by caller source target serial)) kind) := by
  intro list member
  obtain rfl := List.mem_singleton.mp member
  exact ⟨by simp, by simp [NftTransfer.by]⟩

theorem AccountAmount.isApproval_by
    (account : Address)
    (amount : Int64) :
    (AccountAmount.by caller account amount).isApproval = true ↔
      amount < 0 ∧ account ≠ caller := by
  simp [AccountAmount.by]

end Marks

namespace TokenArguments

open AbiValue (AreReadable encodeCall)

variable
  {function : TokenFunction}
  {arguments : TokenArguments function}
  {token : Token}
  {setting : CallSetting}

/-- The zero legs of a transfer for an owner may be on approval like its debits. -/
theorem isMarked_meaning
    {isNonFungible : Bool}
    (inRange : arguments.InRange isNonFungible)
    (caller own : Address) :
    (arguments.meaning caller own isNonFungible).IsMarked caller fun leg =>
      function = .ercTransferFrom ∧ leg.amount = 0 := by
  cases arguments with
  | transferToken token source target amount =>
      apply TokenCall.isMarked_moveAmounts
      simp [AccountAmount.by]
  | transferNft token source target serial =>
      exact TokenCall.isMarked_movePiece source target serial
  | transferTokens token accounts amounts =>
      apply TokenCall.isMarked_moveAmounts
      intro leg member _
      obtain ⟨pair, _, rfl⟩ := List.mem_map.mp member
      exact AccountAmount.isApproval_by pair.1 pair.2
  | ercTransfer target value =>
      cases isNonFungible with
      | true =>
          exact TokenCall.isMarked_movePiece caller target value.toInt64
      | false =>
          apply TokenCall.isMarked_moveAmounts
          simp [AccountAmount.by]
  | ercTransferFrom source target value =>
      cases isNonFungible with
      | true =>
          exact TokenCall.isMarked_movePiece source target value.toInt64
      | false =>
          apply TokenCall.isMarked_moveAmounts
          intro leg member notZero
          rw [List.mem_pair] at member
          rcases member with rfl | rfl
          · have nonzero : -value.toInt64 ≠ 0 := by simpa using notZero
            simp [neg_toInt64_neg inRange nonzero]
          · exact AccountAmount.isApproval_by target value.toInt64
  | ercApprove spender value =>
      cases isNonFungible <;> trivial
  | _ =>
      trivial

/-- After a result the next step goes on. -/
private theorem bind_of_ok
    {α β ε : Type}
    {first : Except ε β}
    {next : β → Except ε α}
    {value : β}
    (done : first = .ok value) :
    (first >>= next) = next value := by
  rw [done]
  rfl

/-- Every function reads its arguments back, each in its place. -/
theorem readCall_eq_meaning
    (call : SystemCall)
    (own : Address)
    (readable : AreReadable arguments.values)
    (inRange : arguments.InRange token.isNonFungible)
    (suits :
      function ∈ TokenFunction.ofTokens →
        setting = call.settingAt token own function.selector function) :
    function.readCall (encodeCall function.selector arguments.values) setting call.sender =
      .ok (arguments.meaning call.sender own token.isNonFungible) := by
  cases arguments with
  | associateToken account token =>
      exact bind_of_ok (TokenFunction.readRelations_single readable)
  | associateTokens account tokens =>
      exact bind_of_ok (TokenFunction.readRelations_several readable)
  | dissociateToken account token =>
      exact bind_of_ok (TokenFunction.readRelations_single readable)
  | dissociateTokens account tokens =>
      exact bind_of_ok (TokenFunction.readRelations_several readable)
  | mintToken token amount metadata =>
      apply (bind_of_ok (TokenFunction.readMint_encodeCall readable)).trans
      simp only [List.isEmpty_iff]
      rfl
  | burnToken token amount serials =>
      apply (bind_of_ok (TokenFunction.readBurn_encodeCall readable)).trans
      simp only [List.isEmpty_iff]
      rfl
  | wipeTokenAccount token account amount =>
      exact bind_of_ok (TokenFunction.readWipe_encodeCall readable)
  | wipeTokenAccountNft token account serials =>
      exact bind_of_ok (TokenFunction.readWipePieces_encodeCall readable)
  | transferToken token source target amount =>
      apply (bind_of_ok (TokenFunction.readTransfer_encodeCall readable false)).trans
      rw [meaning, ← CryptoTransfer.markApprovals_fungible inRange]
      rfl
  | transferNft token source target serial =>
      apply (bind_of_ok (TokenFunction.readTransfer_encodeCall readable true)).trans
      rw [meaning, ← CryptoTransfer.markApprovals_piece]
      rfl
  | transferTokens token accounts amounts =>
      apply (bind_of_ok (TokenFunction.readTransferList_encodeCall readable inRange)).trans
      rw [meaning, ← CryptoTransfer.markApprovals_legs]
      rfl
  | approve token spender amount =>
      exact bind_of_ok (TokenFunction.readApproval_encodeCall readable (by simp))
  | approveNft token spender serial =>
      exact bind_of_ok (TokenFunction.readApproval_encodeCall readable fun _ => inRange)
  | getApproved token serial =>
      exact bind_of_ok (TokenFunction.readQuery_encodeCall readable)
  | createFungibleToken name symbol treasury initialSupply decimals =>
      exact bind_of_ok (TokenFunction.readCreation_encodeCall readable)
  | ercApprove spender value =>
      obtain rfl := suits (by decide)
      have small : (!token.isNonFungible) = false → value.toNat < 2 ^ 63 := by
        intro nonFungible
        exact inRange (by simpa using nonFungible)
      apply (bind_of_ok (TokenFunction.readApprovalAt_encodeCall readable small)).trans
      rw [meaning]
      cases token.isNonFungible <;> rfl
  | ercTransfer target value =>
      obtain rfl := suits (by decide)
      let setting : TransferSetting :=
        ⟨TokenFunction.selector .ercTransfer, call.sender, own, token.isNonFungible⟩
      apply (bind_of_ok (TokenFunction.readOwnTransfer_encodeCall setting readable inRange)).trans
      rw [meaning, AccountAmount.by_self, AccountAmount.by_credit inRange, NftTransfer.by,
        decide_eq_false (not_not_intro rfl)]
      exact congrArg Except.ok (TokenFunction.writeTransfer_transferAt inRange _ _ _)
  | ercTransferFrom source target value =>
      obtain rfl := suits (by decide)
      let setting : TransferSetting :=
        ⟨TokenFunction.selector .ercTransferFrom, call.sender, own, token.isNonFungible⟩
      apply (bind_of_ok (TokenFunction.readTransferFor_encodeCall setting readable inRange)).trans
      rw [meaning, AccountAmount.by_credit inRange, NftTransfer.by]
      have flag : (source != call.sender) = decide (source ≠ call.sender) := by
        simp [bne, beq_eq_decide]
      rw [← flag]
      exact congrArg Except.ok (TokenFunction.writeTransfer_transferAt inRange _ _ _)
  | ercGetApproved serial =>
      obtain rfl := suits (by decide)
      exact bind_of_ok (TokenFunction.readQueryAt_encodeCall readable own)

/--
A call of a function is read as what its arguments mean: each of them stands in its own place
and order, and exactly the debits and moves of another account than the caller are on approval,
except that the zero legs of a transfer for an owner may be.
-/
theorem readCall_encodeCall
    (call : SystemCall)
    (token : Token)
    (own : Address)
    (readable : AreReadable arguments.values)
    (inRange : arguments.InRange token.isNonFungible)
    (suits :
      function ∈ TokenFunction.ofTokens →
        setting = call.settingAt token own function.selector function) :
    function.readCall (encodeCall function.selector arguments.values) setting call.sender =
        .ok (arguments.meaning call.sender own token.isNonFungible) ∧
      (arguments.meaning call.sender own token.isNonFungible).IsMarked call.sender fun leg =>
        function = .ercTransferFrom ∧ leg.amount = 0 :=
  ⟨readCall_eq_meaning call own readable inRange suits,
    isMarked_meaning inRange call.sender own⟩

/-- Another account's amount moves on approval. -/
theorem readCall_encodeCall_transferFrom :
    TokenFunction.ercTransferFrom.readCall
        (encodeCall (TokenFunction.selector .ercTransferFrom)
          [.address ⟨3⟩, .address ⟨4⟩, .ofUInt64 10])
        (.transfer ⟨TokenFunction.selector .ercTransferFrom, ⟨2⟩, ⟨9⟩, false⟩) ⟨2⟩ =
      .ok
        (.write
          (.cryptoTransfer ⟨[], [⟨⟨9⟩, [⟨⟨3⟩, -10, true⟩, ⟨⟨4⟩, 10, false⟩], []⟩]⟩)
          .transferFungible) := by
  have readable : AreReadable (values (.ercTransferFrom ⟨3⟩ ⟨4⟩ 10)) :=
    AbiValue.areReadable_of_length_encode (by decide +kernel)
  have small : InRange false (.ercTransferFrom ⟨3⟩ ⟨4⟩ 10) :=
    (by decide : (10 : UInt64).toNat < 2 ^ 63)
  exact
    (readCall_encodeCall ⟨⟨2⟩, default, 0, false⟩ { address := ⟨9⟩ } ⟨9⟩ readable small
      fun _ => rfl).1

end TokenArguments

end LedgerEvm
