import LedgerEvm.Proofs.TokenService.PieceSupply
import LedgerEvm.Proofs.TokenService.ReadCalls

/-!
# What outputs tell of results

The shape of an output is chosen by the function that was called, the result by the
transaction that was carried out.  An output tells as much of a result as its shape has values
for, and is read back as that.
-/

namespace LedgerEvm

/-! ## Outputs of any result -/

/-- A reader that takes all values answers what they stand for. -/
theorem ValueReader.readFrom_of_takes
    {α : Type}
    {reader : ValueReader α}
    {values : List AbiValue}
    {answer : α}
    (taken : reader.Takes values answer) :
    readFrom (.ok values) reader = .ok answer := by
  have run := taken []
  rw [List.append_nil] at run
  simp only [readFrom, run, bind, Except.bind, pure, Except.pure]

theorem AbiValue.inReach_ints
    (distance : Nat)
    (numbers : List Int64) :
    AbiPart.InReach distance ((numbers.map int).map part) := by
  induction numbers with
  | nil => trivial
  | cons number numbers inductionHypothesis => exact inductionHypothesis

theorem AbiValue.areReadable_ints
    {numbers : List Int64}
    (few : numbers.length < UInt32.size) :
    IsReadable (.ofList .int numbers) := by
  refine .array _ (by rwa [List.length_map]) (inReach_ints _ numbers) fun value member => ?_
  obtain ⟨number, _, rfl⟩ := List.mem_map.mp member
  exact .int number

namespace OutputShape

open AbiValue ValueReader

/-- What the values of a shape tell of a result. -/
def told : OutputShape → TokenResult → TokenResult
  | .status, _ => .status
  | .mint, result => .mint ⟨result.totalSupply, result.serials⟩
  | .burn, result => .burn ⟨result.totalSupply, []⟩
  | .approve, result => .approve result.isApproved
  | .ercBool, result => .approve result.isApproved
  | .getApproved, result => .getApproved result.address
  | .ercAddress, result => .getApproved result.address
  | .create, result => .create result.address

theorem hasType_values
    (shape : OutputShape)
    (result : TokenResult) :
    List.Forall₂ HasType (shape.values result) shape.types := by
  cases shape with
  | status => exact .cons (.int _) .nil
  | mint => exact .cons (.int _) (.cons (.uint _) (.cons (hasType_ofList .int _) .nil))
  | burn => exact .cons (.int _) (.cons (.uint _) .nil)
  | approve => exact .cons (.int _) (.cons (.bool _) .nil)
  | getApproved => exact .cons (.int _) (.cons (.address _) .nil)
  | create => exact .cons (.int _) (.cons (.address _) .nil)
  | ercBool => exact .cons (.bool _) .nil
  | ercAddress => exact .cons (.address _) .nil

/-- Only the serial numbers can be too many to be counted. -/
theorem areReadable_values
    (shape : OutputShape)
    {result : TokenResult}
    (few : shape = .mint → result.serials.length < UInt32.size) :
    AreReadable (shape.values result) := by
  cases shape with
  | mint =>
      have near : 96 < UInt32.size := by decide
      refine ⟨⟨near, trivial⟩, ?_⟩
      simp only [values, List.forall_mem_cons, List.not_mem_nil]
      exact ⟨.int _, .uint _, areReadable_ints (few rfl), nofun⟩
  | _ =>
      refine ⟨trivial, ?_⟩
      simp [values, IsReadable.int, IsReadable.uint, IsReadable.bool, IsReadable.address, success]

theorem takes_readStatus :
    readStatus.Takes [success] () := by
  refine .bind (takes_nextAs rfl) ?_
  rw [if_neg (not_not_intro rfl)]
  exact takes_pure ()

theorem takes_readApproval
    (approved : Bool) :
    readApproval.Takes [.bool approved] (.approve approved) :=
  fun _ => rfl

/-- An output is read back as what it tells. -/
theorem decode_encode_eq_told
    (shape : OutputShape)
    {result : TokenResult}
    (few : shape = .mint → result.serials.length < UInt32.size) :
    shape.decode (shape.encode result) = .ok (shape.told result) := by
  have taken :
      Takes
        (do
          if shape.hasStatus then
            readStatus
          shape.readResult)
        (shape.values result) (shape.told result) := by
    cases shape with
    | status => exact .bind takes_readStatus (takes_pure _)
    | mint =>
        exact .bind takes_readStatus
          (.bind (takes_uint64 _) (.bind (takes_ints _) (takes_pure _)))
    | burn => exact .bind takes_readStatus (.bind (takes_uint64 _) (takes_pure _))
    | approve => exact .bind takes_readStatus (takes_readApproval _)
    | getApproved => exact .bind takes_readStatus (.bind (takes_address _) (takes_pure _))
    | create => exact .bind takes_readStatus (.bind (takes_address _) (takes_pure _))
    | ercBool => exact takes_readApproval _
    | ercAddress => exact .bind (takes_address _) (takes_pure _)
  have written :=
    decode_encode_of_areReadable (shape.hasType_values result) (shape.areReadable_values few)
  rw [decode, encode, written]
  exact readFrom_of_takes taken

end OutputShape

/-! ## Results of transactions -/

/-- What kind of result a transaction ends with; a mint tells no more serials than it was given
pieces of metadata. -/
def TransactionBody.Gives : TransactionBody → TokenResult → Prop
  | .tokenAssociateToAccount _, result => result = .status
  | .tokenDissociateFromAccount _, result => result = .status
  | .tokenMint mint, result =>
      ∃ change, result = .mint change ∧ change.serials.length ≤ mint.metadata.length
  | .tokenBurn _, result => ∃ change, result = .burn change
  | .tokenAccountWipe _, result => ∃ change, result = .wipe change
  | .cryptoTransfer _, result => result = .status
  | .cryptoApproveAllowance _, result => result = .approve true
  | .tokenCreate _, result => ∃ token, result = .create token
  | _, _ => False

namespace TokenAction

/-- A mint numbers the pieces that it was given metadata for. -/
theorem yields_mint_serials
    (mint : TokenMint) :
    Yields (fun _ => True) (TokenAction.mint mint) fun change _ =>
      change.serials.length ≤ mint.metadata.length := by
  have counted (token : Token) :
      Yields (fun _ => True) (mintedAmount token mint) fun minted _ =>
        minted.2.length ≤ mint.metadata.length := by
    refine Yields.of_each fun world _ => ?_
    refine Yields.imp (reads_mintedAmount token mint) (fun _ => id) fun minted _ ⟨_, amount⟩ => ?_
    exact (AreAnew.of_mintedAmount amount).within
  unfold TokenAction.mint
  refine (Yields.trivially _).bind fun token => ?_
  refine (Yields.trivially _).bind fun _ => ?_
  refine (Yields.trivially _).bind fun holding => ?_
  refine (counted token).bind fun ⟨minted, serials⟩ => Yields.of_fact fun few => ?_
  refine (Yields.trivially _).bind fun totalSupply => ?_
  refine (Yields.trivially _).bind fun _ => ?_
  refine (Yields.trivially _).bind fun balance => ?_
  refine (Yields.trivially _).bind fun _ => ?_
  have settled :
      Yields (fun _ => True)
        (do
          let lastUsedSerial := serials.getLast?.getD token.lastUsedSerial
          change fun world => world.putToken { token with lastUsedSerial, totalSupply }
          setBalance holding balance
          pure (⟨totalSupply, serials⟩ : SupplyChange))
        fun change _ => change.serials.length ≤ mint.metadata.length :=
    (Yields.trivially _).bind fun _ => (Yields.trivially _).bind fun _ =>
      Ensures.pure fun _ _ => few
  split
  · exact (Yields.trivially _).bind fun _ => settled
  · exact settled

/-- A transaction that is carried out ends with its kind of result. -/
theorem gives_of_run
    {body : TransactionBody}
    {sender : Address}
    {world after : World}
    {result : TokenResult}
    (ran : run body sender world = .ok result after) :
    body.Gives result := by
  cases body with
  | tokenMint mint =>
      obtain ⟨change, middle, minted, done⟩ := exists_of_run_eq_ok ran
      cases done
      exact ⟨change, rfl, Ensures.of_ok (yields_mint_serials mint) minted trivial⟩
  | tokenBurn burn =>
      obtain ⟨change, middle, _, done⟩ := exists_of_run_eq_ok ran
      cases done
      exact ⟨change, rfl⟩
  | tokenAccountWipe wipe =>
      obtain ⟨change, middle, _, done⟩ := exists_of_run_eq_ok ran
      cases done
      exact ⟨change, rfl⟩
  | tokenCreate creation =>
      obtain ⟨token, middle, _, done⟩ := exists_of_run_eq_ok ran
      cases done
      exact ⟨token, rfl⟩
  | tokenAssociateToAccount relations =>
      obtain ⟨_, middle, _, done⟩ := exists_of_run_eq_ok ran
      cases done
      rfl
  | tokenDissociateFromAccount relations =>
      obtain ⟨_, middle, _, done⟩ := exists_of_run_eq_ok ran
      cases done
      rfl
  | cryptoTransfer transfer =>
      obtain ⟨_, middle, _, done⟩ := exists_of_run_eq_ok ran
      cases done
      rfl
  | cryptoApproveAllowance approval =>
      obtain ⟨_, middle, _, done⟩ := exists_of_run_eq_ok ran
      cases done
      rfl
  | _ => cases ran

end TokenAction

/-! ## Outputs of calls -/

/-- An array is read behind a count below 2^32. -/
theorem AbiType.length_of_read_array
    {item : AbiType}
    {data : Bytes}
    {offset : Nat}
    {items : List AbiValue}
    (read : AbiType.read (.array item) data offset = .ok (.array items)) :
    items.length < UInt32.size := by
  obtain ⟨tail, _, read⟩ := exists_of_bind_eq_ok read
  obtain ⟨count, counted, read⟩ := exists_of_bind_eq_ok read
  have small : count < UInt32.size := by
    obtain ⟨word, _, counted⟩ := exists_of_bind_eq_ok counted
    split at counted
    · cases counted
      assumption
    · cases counted
  dsimp only at read
  split at read
  · cases read
  · obtain ⟨found, each, done⟩ := exists_of_bind_eq_ok read
    cases done
    rwa [← (forall₂_of_mapM_eq_ok each).length_eq, List.length_range]

namespace TokenCall

/-- Whether a call can end with a result in some state of the ledger. -/
def CanYield (call : TokenCall) (sender : Address) (result : TokenResult) : Prop :=
  match call with
  | .write body _ => ∃ world after, TokenAction.run body sender world = .ok result after
  | .query question =>
      ∃ world after spender,
        TokenAction.approvedSpender question world = .ok spender after ∧
          result = .getApproved spender

/-- The results that a call is given for. -/
def Gives : TokenCall → TokenResult → Prop
  | .write body _, result => body.Gives result
  | .query _, result => ∃ spender, result = .getApproved spender

theorem CanYield.gives
    {call : TokenCall}
    {sender : Address}
    {result : TokenResult}
    (yielded : call.CanYield sender result) :
    call.Gives result := by
  cases call with
  | write body kind =>
      obtain ⟨world, after, ran⟩ := yielded
      exact TokenAction.gives_of_run ran
  | query question =>
      obtain ⟨world, after, spender, _, same⟩ := yielded
      exact ⟨spender, same⟩

/-- A transaction that a state of the ledger lets end has its result. -/
theorem canYield_of_run'
    {body : TransactionBody}
    {kind : OperationKind}
    {sender : Address}
    {result : TokenResult}
    (world : World)
    (ran : (TokenAction.run body sender).run' world = some result) :
    (write body kind).CanYield sender result := by
  unfold EStateM.run' at ran
  split at ran
  · rename_i answer after done
    cases ran
    exact ⟨world, after, done⟩
  · cases ran

end TokenCall

namespace TokenFunction

/-- What the declared output of a function tells of the results of its calls. -/
def declared : TokenFunction → TokenResult → TokenResult
  | .burnToken, .burn change => .burn ⟨change.totalSupply, []⟩
  | .wipeTokenAccount, _ => .status
  | .wipeTokenAccountNft, _ => .status
  | .approveNft, _ => .status
  | .ercTransfer, _ => .approve true
  | .ercTransferFrom, _ => .approve true
  | _, result => result

variable
  {function : TokenFunction}
  {input : Bytes}
  {setting : CallSetting}
  {sender : Address}
  {call : TokenCall}
  {result : TokenResult}

/-- The metadata of a mint are as many as a count below 2^32 tells. -/
theorem length_metadata_of_readCall
    {mint : TokenMint}
    {kind : OperationKind}
    (read : readCall .mintToken input setting sender = .ok (.write (.tokenMint mint) kind)) :
    mint.metadata.length < UInt32.size := by
  obtain ⟨arguments, told, decoded⟩ := tells_of_readCall read
  cases told
  have listed : (argumentTypes .mintToken)[2]? = some (.array .bytes) := rfl
  obtain ⟨value, found, isArray⟩ := AbiValue.read_of_decodeFrom decoded listed
  cases found
  have few := AbiType.length_of_read_array isArray
  rwa [List.length_map] at few

theorem told_of_bind
    {α : Type}
    {first : Except PrecompileError α}
    {toCall : α → TokenCall}
    (read : (first >>= fun read => pure (toCall read)) = .ok call)
    (gives : call.Gives result)
    (tells :
      ∀ read, (toCall read).Gives result →
        function.output.told result = function.declared result) :
    function.output.told result = function.declared result := by
  obtain ⟨found, _, done⟩ := exists_of_bind_eq_ok read
  cases done
  exact tells found gives

/-- The shape of a function's output has values for what the output declares. -/
theorem told_of_readCall
    (read : function.readCall input setting sender = .ok call)
    (gives : call.Gives result) :
    function.output.told result = function.declared result := by
  have status (given : result = .status) : OutputShape.status.told result = result := given.symm
  have approval (given : result = .approve true) :
      .approve result.isApproved = result := by
    rw [given]
    rfl
  have spender (given : ∃ spender, result = .getApproved spender) :
      .getApproved result.address = result := by
    obtain ⟨spender, rfl⟩ := given
    rfl
  cases function with
  | associateToken => exact told_of_bind read gives fun _ => status
  | associateTokens => exact told_of_bind read gives fun _ => status
  | dissociateToken => exact told_of_bind read gives fun _ => status
  | dissociateTokens => exact told_of_bind read gives fun _ => status
  | transferToken => exact told_of_bind read gives fun _ => status
  | transferNft => exact told_of_bind read gives fun _ => status
  | transferTokens => exact told_of_bind read gives fun _ => status
  | mintToken =>
      refine told_of_bind read gives fun _ given => ?_
      obtain ⟨change, rfl, _⟩ := given
      rfl
  | burnToken =>
      refine told_of_bind read gives fun _ given => ?_
      obtain ⟨change, rfl⟩ := given
      rfl
  | wipeTokenAccount => rfl
  | wipeTokenAccountNft => rfl
  | approve => exact told_of_bind read gives fun _ => approval
  | approveNft => rfl
  | getApproved => exact told_of_bind read gives fun _ => spender
  | createFungibleToken =>
      refine told_of_bind read gives fun _ given => ?_
      obtain ⟨token, rfl⟩ := given
      rfl
  | ercApprove =>
      cases setting with
      | approval setting => exact told_of_bind read gives fun _ => approval
      | _ => cases read
  | ercTransfer =>
      cases setting with
      | transfer setting =>
          refine told_of_bind read gives fun _ given => ?_
          cases given
          rfl
      | _ => cases read
  | ercTransferFrom =>
      cases setting with
      | transfer setting =>
          refine told_of_bind read gives fun _ given => ?_
          cases given
          rfl
      | _ => cases read
  | ercGetApproved =>
      cases setting with
      | approval setting => exact told_of_bind read gives fun _ => spender
      | _ => cases read

/-- A mint tells fewer than 2^32 serial numbers. -/
theorem length_serials_of_readCall
    (read : function.readCall input setting sender = .ok call)
    (gives : call.Gives result)
    (counts : function.output = .mint) :
    result.serials.length < UInt32.size := by
  cases function with
  | mintToken =>
      obtain ⟨mint, _, done⟩ := exists_of_bind_eq_ok read
      cases done
      obtain ⟨change, rfl, few⟩ := gives
      exact few.trans_lt (length_metadata_of_readCall read)
  | _ => cases counts

/--
The output of a call that ends with a result is read back as what the declared output tells of
it: the result itself, except that the burned serials and the outcome of a wipe or of the approval
of a piece are not told, and that a transfer at a token's address tells that it was approved.
-/
theorem decode_output_of_canYield
    (read : function.readCall input setting sender = .ok call)
    (yielded : call.CanYield sender result) :
    function.output.decode (function.output.encode result) = .ok (function.declared result) := by
  rw [← told_of_readCall read yielded.gives]
  exact function.output.decode_encode_eq_told (length_serials_of_readCall read yielded.gives)

/-- New pieces are told with their serial numbers. -/
theorem output_of_new_pieces_is_read_back :
    let treasury := Address.ofNum 1001
    let token : Token :=
      { address := Address.ofNum 2001, kind := .nonFungible, treasury, hasSupplyKey := true }
    let input :=
      AbiValue.encodeCall (selector .mintToken)
        [.address token.address, .ofUInt64 0, .ofList .bytes [[1], [2]]]
    let call : TokenCall := .write (.tokenMint ⟨token.address, 0, [[1], [2]]⟩) .mintNft
    let result : TokenResult := .mint ⟨2, [1, 2]⟩
    readCall .mintToken input .plain treasury = .ok call ∧
      call.CanYield treasury result ∧
      (output .mintToken).decode ((output .mintToken).encode result) = .ok result := by
  intro treasury token input call result
  let holding : Relationship :=
    { account := treasury, token := token.address, kycGranted := true }
  let contents : Snapshot.Contents :=
    { tokens := Table.ofList [(token.address, token)]
      relationships := Table.ofList [(⟨treasury, token.address⟩, holding)] }
  have read : readCall .mintToken input .plain treasury = .ok call := by decide +kernel
  have yielded : call.CanYield treasury result :=
    TokenCall.canYield_of_run' (World.ofSnapshot (.ofContents contents) false ⟨0⟩ 5000)
      (by decide +kernel)
  exact ⟨read, yielded, decode_output_of_canYield read yielded⟩

/-- The supply that a wipe leaves is not told. -/
theorem wiped_supply_is_not_told :
    let treasury := Address.ofNum 1001
    let holder := Address.ofNum 1002
    let token : Token :=
      { address := Address.ofNum 2001, treasury, totalSupply := 9, hasWipeKey := true }
    let input :=
      AbiValue.encodeCall (selector .wipeTokenAccount)
        [.address token.address, .address holder, .ofUInt64 3]
    let call : TokenCall := .write (.tokenAccountWipe ⟨token.address, holder, 3, []⟩) .wipeFungible
    let result : TokenResult := .wipe ⟨6, []⟩
    readCall .wipeTokenAccount input .plain treasury = .ok call ∧
      call.CanYield treasury result ∧
      (output .wipeTokenAccount).decode ((output .wipeTokenAccount).encode result) ≠
        .ok result := by
  intro treasury holder token input call result
  let holding : Relationship :=
    { account := holder, token := token.address, balance := 4, kycGranted := true }
  let contents : Snapshot.Contents :=
    { accounts := Table.ofList [(holder, { address := holder })]
      tokens := Table.ofList [(token.address, token)]
      relationships := Table.ofList [(⟨holder, token.address⟩, holding)] }
  have yielded : call.CanYield treasury result :=
    TokenCall.canYield_of_run' (World.ofSnapshot (.ofContents contents) false ⟨0⟩ 5000)
      (by decide +kernel)
  exact ⟨by decide +kernel, yielded, by decide +kernel⟩

end TokenFunction

end LedgerEvm
