import Mathlib.Algebra.Group.Nat.Defs
import Mathlib.Data.List.Forall2
import LedgerEvm.Abi.Decoding
import LedgerEvm.Abi.Encoding
import LedgerEvm.Abi.Selector

namespace LedgerEvm

/-!
# Written values are read back

The bytes of a number, a word, a text and a selector are read back as what they were
written from.  A word in the middle of other bytes is found by its offset alone.
-/

namespace Bytes

@[simp] theorem toNat_append_singleton
    (bytes : Bytes)
    (byte : UInt8) :
    toNat (bytes ++ [byte]) = toNat bytes * 256 + byte.toNat := by
  simp [toNat]

/-- As many digits as were written give the number up to that many digits. -/
theorem toNat_ofNat
    (count value : Nat) :
    (ofNat count value).toNat = value % 256 ^ count := by
  induction count generalizing value with
  | zero =>
      simp [ofNat, toNat, Nat.mod_one]
  | succ count inductionHypothesis =>
      have digits : value % 256 ^ (count + 1) =
          value / 256 % 256 ^ count * 256 + value % 256 := by
        rw [Nat.pow_succ', Nat.mod_mul]
        omega
      rw [ofNat, toNat_append_singleton, inductionHypothesis, digits,
        UInt8.toNat_ofNat']

theorem toNat_ofNat_of_lt
    {count value : Nat}
    (fits : value < 256 ^ count) :
    (ofNat count value).toNat = value := by
  rw [toNat_ofNat, Nat.mod_eq_of_lt fits]

/-- Listing a byte array appends the bytes from an index on to those listed before. -/
private theorem toList_loop
    (bytes : ByteArray)
    (index : Nat)
    (listed : List UInt8) :
    ByteArray.toList.loop bytes index listed =
      listed.reverse ++ bytes.data.toList.drop index := by
  induction index, listed using ByteArray.toList.loop.induct bytes with
  | case1 index listed inside inductionHypothesis =>
      have within : index < bytes.data.toList.length := inside
      have here : bytes.get! index = bytes.data.toList[index] := by
        rw [Array.getElem_toList]
        exact getElem!_pos bytes.data index inside
      rw [ByteArray.toList.loop, if_pos inside, inductionHypothesis,
        List.drop_eq_getElem_cons within, here]
      simp
  | case2 index listed past =>
      have none : bytes.data.toList.drop index = [] :=
        List.drop_eq_nil_of_le (Nat.le_of_not_lt past)
      rw [ByteArray.toList.loop, if_neg past, none, List.append_nil]

/-- The bytes of a text are those of its byte array. -/
theorem ofString_eq
    (text : String) :
    ofString text = text.toByteArray.data.toList := by
  rw [ofString, String.toUTF8_eq_toByteArray]
  exact toList_loop _ 0 []

@[simp] theorem toString?_ofString
    (text : String) :
    (ofString text).toString? = some text := by
  have whole : ByteArray.mk (ofString text).toArray = text.toByteArray := by
    rw [ofString_eq, Array.toArray_toList]
  rw [toString?, whole, String.fromUTF8?, dif_pos text.isValidUTF8]
  rfl

/-- Bytes that write a text are the bytes of that text. -/
theorem ofString_of_toString?_eq_some
    {bytes : Bytes}
    {text : String}
    (read : bytes.toString? = some text) :
    ofString text = bytes := by
  rw [toString?, String.fromUTF8?] at read
  split at read
  · obtain rfl := Option.some.inj read
    rw [ofString_eq]
    rfl
  · cases read

theorem window?_eq_some
    {bytes : Bytes}
    {offset size : Nat}
    (within : offset + size ≤ bytes.length) :
    bytes.window? offset size = some ((bytes.drop offset).take size) :=
  if_pos within

theorem window?_eq_none
    {bytes : Bytes}
    {offset size : Nat}
    (beyond : bytes.length < offset + size) :
    bytes.window? offset size = none :=
  if_neg (Nat.not_le.mpr beyond)

/-- What is in front of other bytes is their window of its length. -/
theorem window?_of_drop_eq
    {bytes content rest : Bytes}
    {offset : Nat}
    (within : offset ≤ bytes.length)
    (found : bytes.drop offset = content ++ rest) :
    bytes.window? offset content.length = some content := by
  have lengths := congrArg List.length found
  simp only [List.length_drop, List.length_append] at lengths
  rw [window?, if_pos (by omega), found, List.take_left]

end Bytes

namespace Word

@[simp] theorem ofBytes_toBytes
    (word : Word) :
    ofBytes word.toBytes = word := by
  apply BitVec.eq_of_toNat_eq
  have fits : word.toNat < 256 ^ 32 := word.isLt
  rw [ofBytes, toBytes, Bytes.toNat_ofNat_of_lt fits, BitVec.toNat_ofNat,
    Nat.mod_eq_of_lt word.isLt]

end Word

namespace Selector

/-- A call names the selector that it starts with. -/
@[simp] theorem ofInput?_toBytes_append
    (selector : Selector)
    (rest : Bytes) :
    ofInput? (selector.toBytes ++ rest) = some selector := by
  have fits : selector.bits.toNat < 256 ^ size := selector.bits.isLt
  have bits : BitVec.ofNat 32 (Bytes.toNat selector.toBytes) = selector.bits := by
    apply BitVec.eq_of_toNat_eq
    rw [toBytes, Bytes.toNat_ofNat_of_lt fits, BitVec.toNat_ofNat,
      Nat.mod_eq_of_lt selector.bits.isLt]
  rw [ofInput?, List.take_left' selector.length_toBytes, ofBytes?,
    if_pos selector.length_toBytes, bits]

end Selector

/-!
## Reading what was written

A list of values is read back from its own bytes.  Readers refuse a distance or a
count of 2^32 and more, so this holds of every list in which none is that great, and
in particular of every list written in fewer than 2^32 bytes.

A nested list is read from where it starts to the end of all bytes.  Hence everything
is proved of a list with further bytes behind it.
-/

namespace AbiPart

/-- The bytes that a part takes behind the head. -/
def tailLength : AbiPart → Nat
  | .head _ => 0
  | .tail bytes => bytes.length

/-- Whether the tails, the first at a distance, all start where readers look for them. -/
def InReach : Nat → List AbiPart → Prop
  | _, [] => True
  | distance, .head _ :: rest => InReach distance rest
  | distance, .tail bytes :: rest =>
      distance < UInt32.size ∧ InReach (distance + bytes.length) rest

/-- Whether the head word at an offset leads to the part. -/
def StandsAt (data : Bytes) (offset : Nat) : AbiPart → Prop
  | .head word => AbiType.readWord data offset = .ok word
  | .tail bytes => ∃ rest, AbiType.readTail data offset = .ok (bytes ++ rest)

/-- Whether the head words from an offset on lead to the parts. -/
def StandFrom (data : Bytes) : Nat → List AbiPart → Prop
  | _, [] => True
  | offset, part :: rest =>
      part.StandsAt data offset ∧ StandFrom data (offset + 32) rest

end AbiPart

namespace AbiType

open AbiPart

variable {data rest : Bytes}

/-- A written word is read back where it starts. -/
theorem readWord_of_drop_eq
    {offset : Nat}
    {word : Word}
    (found : data.drop offset = word.toBytes ++ rest) :
    readWord data offset = .ok word := by
  have lengths := congrArg List.length found
  simp only [List.length_drop, List.length_append, Word.length_toBytes] at lengths
  have window := Bytes.window?_of_drop_eq (by omega) found
  rw [Word.length_toBytes] at window
  simp only [readWord, window, Word.ofBytes_toBytes]

theorem toNat_sizeWord
    {size : Nat}
    (fits : size < UInt32.size) :
    (sizeWord size).toNat = size := by
  have bound : UInt32.size ≤ 2 ^ 256 := by decide
  rw [sizeWord, BitVec.toNat_ofNat, Nat.mod_eq_of_lt (by omega)]

/-- A written distance or count below 2^32 is read back. -/
theorem readSize_of_drop_eq
    {offset size : Nat}
    (fits : size < UInt32.size)
    (found : data.drop offset = (sizeWord size).toBytes ++ rest) :
    readSize data offset = .ok size := by
  simp [readSize, readWord_of_drop_eq found, toNat_sizeWord fits, fits, bind, Except.bind, pure,
    Except.pure]

/-- The count at the start of a tail is read back. -/
theorem readSize_sizeWord
    {size : Nat}
    (fits : size < UInt32.size)
    (rest : Bytes) :
    readSize ((sizeWord size).toBytes ++ rest) 0 = .ok size :=
  readSize_of_drop_eq fits List.drop_zero

/-- A tail is read from where its head word tells it starts. -/
theorem readTail_of_drop_eq
    {offset distance : Nat}
    (fits : distance < UInt32.size)
    (within : distance ≤ data.length)
    (found : data.drop offset = (sizeWord distance).toBytes ++ rest) :
    readTail data offset = .ok (data.drop distance) := by
  simp [readTail, readSize_of_drop_eq fits found, within, bind, Except.bind, pure, Except.pure]

/-- A byte string is read from behind its length, whatever follows it. -/
theorem readCounted_counted
    {content : Bytes}
    (fits : content.length < UInt32.size)
    (rest : Bytes) :
    readCounted (AbiValue.counted content ++ rest) = .ok content := by
  have window (more : Bytes) : Bytes.window? (content ++ more) 0 content.length = some content :=
    Bytes.window?_of_drop_eq (Nat.zero_le _) List.drop_zero
  simp [AbiValue.counted, readCounted, readSize_sizeWord fits, window, bind, Except.bind, pure,
    Except.pure]

@[simp] theorem toInt64_signExtend
    (value : Int64) :
    toInt64 (value.toBitVec.signExtend 256) = .ok (.int value) := by
  have same : (value.toBitVec.signExtend 256).toInt = value.toInt :=
    BitVec.toInt_signExtend_of_le (by decide)
  simp [toInt64, same]

@[simp] theorem toBool_ofBool
    (value : Bool) :
    toBool (Word.ofBool value) = .ok (.bool value) := by
  cases value <;> rfl

end AbiType

namespace AbiPart

open AbiType

/-- What stands behind a tail is found by going on for its length. -/
theorem drop_add_length
    {data bytes rest : Bytes}
    {distance : Nat}
    (found : data.drop distance = bytes ++ rest) :
    data.drop (distance + bytes.length) = rest := by
  rw [← List.drop_drop, found, List.drop_left]

/-- The parts of a written list stand where its head words say, whatever is around the list. -/
theorem standFrom_of_drop_eq
    {data between rest : Bytes}
    {offset distance : Nat}
    {parts : List AbiPart}
    (inReach : InReach distance parts)
    (within : distance ≤ data.length)
    (head : data.drop offset = heads distance parts ++ between)
    (tail : data.drop distance = tails parts ++ rest) :
    StandFrom data offset parts := by
  induction parts generalizing offset distance with
  | nil =>
      trivial
  | cons part parts inductionHypothesis =>
      cases part with
      | head word =>
          rw [heads, List.append_assoc] at head
          have later := drop_add_length head
          rw [Word.length_toBytes] at later
          exact ⟨readWord_of_drop_eq head, inductionHypothesis inReach within later tail⟩
      | tail bytes =>
          obtain ⟨near, farther⟩ := inReach
          rw [heads, List.append_assoc] at head
          rw [tails, List.append_assoc] at tail
          have later := drop_add_length head
          rw [Word.length_toBytes] at later
          have room : distance + bytes.length ≤ data.length := by
            have lengths := congrArg List.length tail
            simp only [List.length_drop, List.length_append] at lengths
            omega
          have here : readTail data offset = .ok (bytes ++ (tails parts ++ rest)) := by
            rw [readTail_of_drop_eq near within head, tail]
          exact ⟨⟨_, here⟩, inductionHypothesis farther room later (drop_add_length tail)⟩

/-- The parts of a list stand in its own bytes, whatever follows them. -/
theorem standFrom_assemble
    {parts : List AbiPart}
    (inReach : InReach (wordSize * parts.length) parts)
    (rest : Bytes) :
    StandFrom (assemble parts ++ rest) 0 parts := by
  have split : assemble parts ++ rest =
      heads (wordSize * parts.length) parts ++ (tails parts ++ rest) :=
    List.append_assoc ..
  rw [split]
  apply standFrom_of_drop_eq inReach
  · simp
  · exact List.drop_zero
  · exact List.drop_left' (length_heads _ parts)

/-- Tails that end before 2^32 are in reach. -/
theorem inReach_of_lt
    {distance : Nat}
    {parts : List AbiPart}
    (short : distance + (tails parts).length < UInt32.size) :
    InReach distance parts := by
  induction parts generalizing distance with
  | nil =>
      trivial
  | cons part parts inductionHypothesis =>
      cases part with
      | head word =>
          exact inductionHypothesis short
      | tail bytes =>
          rw [tails, List.length_append] at short
          exact ⟨by omega, inductionHypothesis (by omega)⟩

theorem tailLength_le_of_mem
    {part : AbiPart}
    {parts : List AbiPart}
    (member : part ∈ parts) :
    part.tailLength ≤ (tails parts).length := by
  induction member with
  | head parts =>
      cases part <;> simp [tailLength, tails]
  | tail other _ inductionHypothesis =>
      cases other with
      | head word =>
          exact inductionHypothesis
      | tail bytes =>
          rw [tails, List.length_append]
          exact Nat.le_add_left_of_le inductionHypothesis

end AbiPart

namespace AbiValue

open AbiPart AbiType

/-- A value in which every count and every distance is one that readers take. -/
inductive IsReadable : AbiValue → Prop where
  | address (value : Address) : IsReadable (.address value)
  | uint (value : Word) : IsReadable (.uint value)
  | int (value : Int64) : IsReadable (.int value)
  | bool (value : Bool) : IsReadable (.bool value)
  | string
      (value : String)
      (short : (Bytes.ofString value).length < UInt32.size) :
      IsReadable (.string value)
  | bytes
      (value : Bytes)
      (short : value.length < UInt32.size) :
      IsReadable (.bytes value)
  | array
      (items : List AbiValue)
      (few : items.length < UInt32.size)
      (inReach : InReach (wordSize * items.length) (items.map part))
      (each : ∀ value ∈ items, IsReadable value) :
      IsReadable (.array items)

/-- A list in which every count and every distance is one that readers take. -/
structure AreReadable (values : List AbiValue) : Prop where
  inReach : InReach (wordSize * values.length) (values.map part)
  each : ∀ value ∈ values, IsReadable value

/-- Whether a value is read wherever it stands. -/
def IsReadAs (value : AbiValue) (type : AbiType) : Prop :=
  ∀ data offset, value.part.StandsAt data offset → type.read data offset = .ok value

/-- Values that stand one after the other are read one after the other. -/
theorem decodeFrom_of_standFrom
    {data : Bytes}
    {offset : Nat}
    {values : List AbiValue}
    {types : List AbiType}
    (read : List.Forall₂ IsReadAs values types)
    (stand : StandFrom data offset (values.map part)) :
    decodeFrom data offset types = .ok values := by
  induction read generalizing offset with
  | nil =>
      rfl
  | cons first others inductionHypothesis =>
      obtain ⟨here, later⟩ := stand
      simp [decodeFrom, first data offset here, inductionHypothesis later, bind, Except.bind, pure,
        Except.pure]

/-- The items of an array are read as a list of values of one type. -/
theorem mapM_range'_eq_decodeFrom
    (data : Bytes)
    (item : AbiType)
    (first count : Nat) :
    ((List.range' first count).mapM fun index => item.read data (index * 32)) =
      decodeFrom data (first * 32) (List.replicate count item) := by
  induction count generalizing first with
  | zero =>
      rfl
  | succ count inductionHypothesis =>
      rw [List.range'_succ, List.mapM_cons, inductionHypothesis, Nat.succ_mul]
      rfl

theorem mapM_range_eq_decode
    (data : Bytes)
    (item : AbiType)
    (count : Nat) :
    ((List.range count).mapM fun index => item.read data (index * 32)) =
      decode (List.replicate count item) data := by
  rw [List.range_eq_range', mapM_range'_eq_decodeFrom, Nat.zero_mul, decode]

/-- An array is read as the list of its items, which stands behind their count. -/
theorem read_array
    {data body : Bytes}
    {offset : Nat}
    {item : AbiType}
    {items : List AbiValue}
    (few : items.length < UInt32.size)
    (tail : readTail data offset = .ok ((sizeWord items.length).toBytes ++ body))
    (room : items.length * 32 ≤ body.length)
    (each : decode (List.replicate items.length item) body = .ok items) :
    (AbiType.array item).read data offset = .ok (.array items) := by
  rw [← mapM_range_eq_decode] at each
  have enough : ¬ body.length < items.length * 32 := Nat.not_lt.mpr room
  simp [AbiType.read, tail, readSize_sizeWord few, enough, each, bind, Except.bind, pure,
    Except.pure]

/-- A list is read at the front of further bytes. -/
theorem decode_encode_append
    {values : List AbiValue}
    {types : List AbiType}
    (read : List.Forall₂ IsReadAs values types)
    (inReach : InReach (wordSize * values.length) (values.map part))
    (rest : Bytes) :
    decode types (encode values ++ rest) = .ok values := by
  rw [encode, parts_eq_map]
  apply decodeFrom_of_standFrom read
  apply standFrom_assemble
  rwa [List.length_map]

/-- A list takes one head word for each value, and its tails. -/
theorem length_encode
    (values : List AbiValue) :
    (encode values).length =
      wordSize * values.length + (tails (values.map part)).length := by
  simp only [encode, assemble, List.length_append, length_heads, parts_eq_map, List.length_map]

/-- Items that are all read as one type are read as a list of it. -/
theorem forall₂_replicate
    {items : List AbiValue}
    {item : AbiType}
    (each : ∀ value ∈ items, IsReadAs value item) :
    List.Forall₂ IsReadAs items (List.replicate items.length item) := by
  induction items with
  | nil =>
      exact .nil
  | cons value items inductionHypothesis =>
      exact .cons (each value List.mem_cons_self)
        (inductionHypothesis fun other member => each other (List.mem_cons_of_mem value member))

/-- A readable value of a type is read as that type. -/
theorem HasType.isReadAs
    {value : AbiValue}
    {type : AbiType}
    (typed : HasType value type)
    (readable : IsReadable value) :
    IsReadAs value type := by
  intro data offset stands
  induction typed generalizing data offset with
  | address value =>
      have word : readWord data offset = .ok value.toWord := stands
      simp [AbiType.read, word, bind, Except.bind, pure, Except.pure]
  | uint value =>
      have word : readWord data offset = .ok value := stands
      simp [AbiType.read, word, bind, Except.bind, pure, Except.pure]
  | int value =>
      have word : readWord data offset = .ok (value.toBitVec.signExtend 256) := stands
      simp [AbiType.read, word, bind, Except.bind]
  | bool value =>
      have word : readWord data offset = .ok (Word.ofBool value) := stands
      simp [AbiType.read, word, bind, Except.bind]
  | string value =>
      cases readable with
      | string _ short =>
          obtain ⟨rest, tail⟩ := stands
          simp [AbiType.read, tail, readCounted_counted short, toText, bind, Except.bind]
  | bytes value =>
      cases readable with
      | bytes _ short =>
          obtain ⟨rest, tail⟩ := stands
          simp [AbiType.read, tail, readCounted_counted short, bind, Except.bind, pure,
            Except.pure]
  | array items item typed inductionHypothesis =>
      cases readable with
      | array _ few inReach each =>
          obtain ⟨rest, tail⟩ := stands
          rw [List.append_assoc] at tail
          have allRead : List.Forall₂ IsReadAs items (List.replicate items.length item) :=
            forall₂_replicate fun value member =>
              inductionHypothesis value member (each value member)
          apply read_array few tail
          · have length := length_encode items
            rw [encode, wordSize] at length
            rw [List.length_append]
            omega
          · exact decode_encode_append allRead inReach rest

/-- A list in which no count and no distance is too great for readers is read from its bytes. -/
theorem decode_encode_of_areReadable
    {values : List AbiValue}
    {types : List AbiType}
    (typed : List.Forall₂ HasType values types)
    (readable : AreReadable values) :
    decode types (encode values) = .ok values := by
  have both := (List.forall₂_and_left _ _).mpr ⟨readable.each, typed⟩
  have each : List.Forall₂ IsReadAs values types :=
    both.imp fun _ _ facts => facts.2.isReadAs facts.1
  have whole := decode_encode_append each readable.inReach []
  rwa [List.append_nil] at whole

/-- The arguments of a call are read behind its selector. -/
theorem decodeCall_encodeCall
    (selector : Selector)
    (types : List AbiType)
    (values : List AbiValue) :
    decodeCall selector types (encodeCall selector values) = decode types (encode values) := by
  rw [decodeCall, encodeCall, Selector.ofInput?_toBytes_append, if_pos rfl,
    List.drop_left' selector.length_toBytes]

/-- Nothing is out of reach in a list of fewer than 2^32 bytes. -/
theorem inReach_of_length_encode
    {values : List AbiValue}
    (short : (encode values).length < UInt32.size) :
    InReach (wordSize * values.length) (values.map part) := by
  rw [length_encode] at short
  exact inReach_of_lt short

/-- A value of a list takes no more bytes than the list. -/
theorem tailLength_le_length_encode
    {value : AbiValue}
    {values : List AbiValue}
    (member : value ∈ values) :
    value.part.tailLength ≤ (encode values).length := by
  rw [length_encode]
  exact Nat.le_add_left_of_le (tailLength_le_of_mem (List.mem_map_of_mem member))

mutual

/-- A value that takes fewer than 2^32 bytes is readable. -/
theorem isReadable_of_tailLength :
    ∀ value : AbiValue, value.part.tailLength < UInt32.size → IsReadable value
  | .address value => fun _ => .address value
  | .uint value => fun _ => .uint value
  | .int value => fun _ => .int value
  | .bool value => fun _ => .bool value
  | .string value => by
      intro short
      simp only [part, tailLength, counted, List.length_append] at short
      exact .string value (by omega)
  | .bytes value => by
      intro short
      simp only [part, tailLength, counted, List.length_append] at short
      exact .bytes value (by omega)
  | .array items => by
      intro short
      have body : (encode items).length < UInt32.size := by
        simp only [part, tailLength, List.length_append] at short
        exact Nat.lt_of_le_of_lt (Nat.le_add_left _ _) short
      have few : items.length < UInt32.size := by
        rw [length_encode, wordSize] at body
        omega
      apply IsReadable.array items few (inReach_of_length_encode body)
      apply each_isReadable_of_tailLength items
      intro value member
      exact Nat.lt_of_le_of_lt (tailLength_le_length_encode member) body

/-- Values that each take fewer than 2^32 bytes are readable. -/
theorem each_isReadable_of_tailLength :
    ∀ values : List AbiValue, (∀ value ∈ values, value.part.tailLength < UInt32.size) →
      ∀ value ∈ values, IsReadable value
  | [] => by simp
  | first :: rest => by
      intro short
      rw [List.forall_mem_cons] at short ⊢
      exact ⟨isReadable_of_tailLength first short.1, each_isReadable_of_tailLength rest short.2⟩

end

/-- A list of fewer than 2^32 bytes is readable. -/
theorem areReadable_of_length_encode
    {values : List AbiValue}
    (short : (encode values).length < UInt32.size) :
    AreReadable values where
  inReach := inReach_of_length_encode short
  each value member :=
    isReadable_of_tailLength value
      (Nat.lt_of_le_of_lt (tailLength_le_length_encode member) short)

/-- Reading undoes writing, of values alone and of the arguments of a call. -/
theorem decode_encode
    {types : List AbiType}
    {values : List AbiValue}
    (typed : List.Forall₂ HasType values types)
    (short : (encode values).length < 2 ^ 32) :
    decode types (encode values) = .ok values ∧
      ∀ selector, decodeCall selector types (encodeCall selector values) = .ok values := by
  have readable := areReadable_of_length_encode short
  have read := decode_encode_of_areReadable typed readable
  exact ⟨read, fun selector => (decodeCall_encodeCall selector types values).trans read⟩

/-- A text of a whole word, arrays in an array, an array without items and a negative number. -/
theorem decode_encode_nested :
    decode [.string, .array (.array .uint), .array .bytes, .int64]
        (encode
          [.string "thirty-two bytes fill one word..", .array [.array [], .array [.uint 7]],
            .array [], .int (-5)]) =
      .ok
        [.string "thirty-two bytes fill one word..", .array [.array [], .array [.uint 7]],
          .array [], .int (-5)] := by
  have noItems (item : AbiType) : HasType (.array []) (.array item) :=
    .array [] item (by simp)
  have row : HasType (.array [.uint 7]) (.array .uint) :=
    .array [.uint 7] .uint (by simpa using HasType.uint 7)
  have rows : HasType (.array [.array [], .array [.uint 7]]) (.array (.array .uint)) :=
    .array _ _ (by simpa using ⟨noItems .uint, row⟩)
  have typed :=
    List.Forall₂.cons (HasType.string "thirty-two bytes fill one word..")
      (.cons rows (.cons (noItems .bytes) (.cons (HasType.int (-5)) .nil)))
  exact (decode_encode typed (by decide +kernel)).1

end AbiValue

end LedgerEvm
