import LedgerEvm.Proofs.Abi.RoundTrip
import LedgerEvm.Proofs.Actions

namespace LedgerEvm

/-!
# Reading stays inside the data

Distances and counts are chosen by whoever wrote the data: they may point back, overlap and
lead to themselves.  Reading is done here once more by absolute positions in the data, with
every slice that would reach past the end refused, and with a bound on how deep values may
be nested.  Neither is ever met: reading looks at nothing outside the data and goes no deeper
than the declared types.

Reading therefore does not look for the end either.  What is read from data is read from the
same data with anything behind it.
-/

/-- How reading by positions fails: as reading does, past the end, or too deep. -/
inductive ReadFailure where
  | refused (error : AbiError)
  | pastEnd
  | tooDeep

/-- What reading by positions gives. -/
abbrev BoundedRead := Except ReadFailure

namespace BoundedRead

/-- The result of reading, which fails in no other way. -/
def lift {α : Type} : Except AbiError α → BoundedRead α :=
  Except.mapError .refused

/-- The bytes from a position on, which must all be there. -/
def slice (data : Bytes) (position size : Nat) : BoundedRead Bytes :=
  match data.window? position size with
  | some bytes => pure bytes
  | none => throw .pastEnd

/-- The word at an offset in the list that starts at a position. -/
def readWord (data : Bytes) (start offset : Nat) : BoundedRead Word :=
  if offset + 32 ≤ data.length - start then do
    return Word.ofBytes (← slice data (start + offset) 32)
  else
    throw (.refused (.wordPastEnd offset (data.length - start)))

/-- The distance or count at an offset in the list that starts at a position. -/
def readSize (data : Bytes) (start offset : Nat) : BoundedRead Nat := do
  let word ← readWord data start offset
  if word.toNat < UInt32.size then
    return word.toNat
  else
    throw (.refused (.sizeTooLarge word))

/-- The position that the head word at an offset points to. -/
def readTail (data : Bytes) (start offset : Nat) : BoundedRead Nat := do
  let distance ← readSize data start offset
  if distance ≤ data.length - start then
    return start + distance
  else
    throw (.refused (.offsetPastEnd distance))

/-- The position behind the count at a position, which must not be behind the end. -/
def skipCount (data : Bytes) (tail : Nat) : BoundedRead Nat :=
  if tail + 32 ≤ data.length then pure (tail + 32) else throw .pastEnd

/-- The byte string behind its length at a position. -/
def readCounted (data : Bytes) (tail : Nat) : BoundedRead Bytes := do
  let count ← readSize data tail 0
  let body ← skipCount data tail
  if count ≤ data.length - body then
    slice data body count
  else
    throw (.refused (.bytesPastEnd count))

/--
The value of a type whose head word is at an offset in the list that starts at a position.
Arrays may be entered so many times, one inside the other.
-/
def read (data : Bytes) : Nat → AbiType → Nat → Nat → BoundedRead AbiValue
  | 0, _, _, _ => throw .tooDeep
  | _ + 1, .address, start, offset => do
      return .address (Address.ofWord (← readWord data start offset))
  | _ + 1, .uint, start, offset => do
      return .uint (← readWord data start offset)
  | _ + 1, .int64, start, offset => do
      lift (AbiType.toInt64 (← readWord data start offset))
  | _ + 1, .bool, start, offset => do
      lift (AbiType.toBool (← readWord data start offset))
  | _ + 1, .string, start, offset => do
      lift (AbiType.toText (← readCounted data (← readTail data start offset)))
  | _ + 1, .bytes, start, offset => do
      return .bytes (← readCounted data (← readTail data start offset))
  | depth + 1, .array item, start, offset => do
      let tail ← readTail data start offset
      let count ← readSize data tail 0
      let body ← skipCount data tail
      if data.length - body < count * 32 then
        throw (.refused (.arrayPastEnd count))
      return .array
        (← (List.range count).mapM fun index => read data depth item body (index * 32))

/-- The values of the given types, whose head words start at an offset. -/
def decodeFrom (data : Bytes) (depth : Nat) : Nat → List AbiType → BoundedRead (List AbiValue)
  | _, [] => pure []
  | offset, type :: rest => do
      let value ← read data depth type 0 offset
      return value :: (← decodeFrom data depth (offset + 32) rest)

end BoundedRead

namespace AbiType

/-- How many values stand one inside the other in a value of the type. -/
def depth : AbiType → Nat
  | .array item => item.depth + 1
  | _ => 1

/-- The greatest depth of several types. -/
def greatestDepth (types : List AbiType) : Nat :=
  types.foldr (fun type deepest => max type.depth deepest) 0

end AbiType

namespace BoundedRead

variable {α β : Type} {data : Bytes}

theorem lift_bind
    (action : Except AbiError α)
    (next : α → Except AbiError β) :
    lift (action >>= next) = lift action >>= fun answer => lift (next answer) := by
  cases action <;> rfl

theorem lift_mapM
    {item : Type}
    (action : item → Except AbiError α)
    (items : List item) :
    lift (items.mapM action) = items.mapM fun item => lift (action item) := by
  induction items with
  | nil => rfl
  | cons item items inductionHypothesis =>
      simp only [List.mapM_cons, lift_bind, inductionHypothesis]
      rfl

/-! ## Slices -/

theorem slice_eq
    {start offset size : Nat}
    (within : offset + size ≤ data.length - start)
    (begun : start ≤ data.length) :
    slice data (start + offset) size = .ok (((data.drop start).drop offset).take size) := by
  have inside : start + offset + size ≤ data.length := by omega
  rw [slice, Bytes.window?_eq_some inside, List.drop_drop]
  rfl

/-- A word is looked for where it is known to be. -/
theorem readWord_eq
    {start : Nat}
    (begun : start ≤ data.length)
    (offset : Nat) :
    readWord data start offset = lift (AbiType.readWord (data.drop start) offset) := by
  unfold readWord AbiType.readWord Bytes.window?
  rw [List.length_drop]
  by_cases within : offset + 32 ≤ data.length - start
  · rw [if_pos within, if_pos within, slice_eq within begun]
    rfl
  · rw [if_neg within, if_neg within]
    rfl

theorem readSize_eq
    {start : Nat}
    (begun : start ≤ data.length)
    (offset : Nat) :
    readSize data start offset = lift (AbiType.readSize (data.drop start) offset) := by
  unfold readSize AbiType.readSize
  rw [readWord_eq begun, lift_bind]
  congr 1
  funext word
  split <;> rfl

/-- Either both find no tail, or the one finds the position of what the other finds. -/
theorem readTail_cases
    {start : Nat}
    (begun : start ≤ data.length)
    (offset : Nat) :
    (∃ error,
        readTail data start offset = .error (.refused error) ∧
          AbiType.readTail (data.drop start) offset = .error error) ∨
      ∃ tail ≤ data.length,
        readTail data start offset = .ok tail ∧
          AbiType.readTail (data.drop start) offset = .ok (data.drop tail) := by
  unfold readTail AbiType.readTail
  rw [readSize_eq begun, List.length_drop]
  cases AbiType.readSize (data.drop start) offset with
  | error error => exact .inl ⟨error, rfl, rfl⟩
  | ok distance =>
      by_cases within : distance ≤ data.length - start
      · refine .inr ⟨start + distance, by omega, if_pos within, ?_⟩
        rw [← List.drop_drop]
        exact if_pos within
      · exact .inl ⟨_, if_neg within, if_neg within⟩

/-- Whoever has read a count has room for it. -/
theorem length_of_readSize_eq_ok
    {offset size : Nat}
    (read : AbiType.readSize data offset = .ok size) :
    offset + 32 ≤ data.length := by
  obtain ⟨word, found, -⟩ := exists_of_bind_eq_ok read
  unfold AbiType.readWord Bytes.window? at found
  by_contra beyond
  rw [if_neg beyond] at found
  cases found

/-- Either there is no count, or there is the same one and room behind it. -/
theorem readSize_cases
    {tail : Nat}
    (begun : tail ≤ data.length) :
    (∃ error,
        readSize data tail 0 = .error (.refused error) ∧
          AbiType.readSize (data.drop tail) 0 = .error error) ∨
      ∃ count, ∃ body ≤ data.length,
        readSize data tail 0 = .ok count ∧
          AbiType.readSize (data.drop tail) 0 = .ok count ∧
            skipCount data tail = .ok body ∧ (data.drop tail).drop 32 = data.drop body := by
  rw [readSize_eq begun]
  cases counted : AbiType.readSize (data.drop tail) 0 with
  | error error => exact .inl ⟨error, rfl, rfl⟩
  | ok count =>
      have room := length_of_readSize_eq_ok counted
      rw [List.length_drop] at room
      have inside : tail + 32 ≤ data.length := by omega
      exact .inr ⟨count, tail + 32, inside, rfl, rfl, if_pos inside, List.drop_drop ..⟩

theorem readCounted_eq
    {tail : Nat}
    (begun : tail ≤ data.length) :
    readCounted data tail = lift (AbiType.readCounted (data.drop tail)) := by
  unfold readCounted AbiType.readCounted
  obtain ⟨error, failed, failed'⟩ | ⟨count, body, begun, counted, counted', skipped, behind⟩ :=
    readSize_cases begun
  · rw [failed, failed']
    rfl
  · rw [counted, counted', skipped]
    dsimp only [bind, Except.bind]
    rw [behind, Bytes.window?, List.length_drop, Nat.zero_add, List.drop_zero]
    by_cases within : count ≤ data.length - body
    · have inside : body + count ≤ data.length := by omega
      rw [if_pos within, if_pos within, slice, Bytes.window?_eq_some inside]
      rfl
    · rw [if_neg within, if_neg within]
      rfl

end BoundedRead

/-! ## Depth -/

namespace AbiType

theorem depth_le_greatestDepth
    {type : AbiType}
    {types : List AbiType}
    (member : type ∈ types) :
    type.depth ≤ greatestDepth types := by
  induction member with
  | head types => exact Nat.le_max_left _ _
  | tail other _ inductionHypothesis =>
      exact Nat.le_trans inductionHypothesis (Nat.le_max_right _ _)

theorem exists_eq_succ_of_depth_le
    {type : AbiType}
    {depth : Nat}
    (deep : type.depth ≤ depth) :
    ∃ less, depth = less + 1 := by
  have positive : 0 < type.depth := by cases type <;> simp only [AbiType.depth] <;> omega
  exact Nat.exists_eq_succ_of_ne_zero (by omega)

end AbiType

namespace BoundedRead

variable {data : Bytes}

/-- Reading by positions is reading, with enough depth for the type. -/
theorem read_eq
    (type : AbiType)
    {depth start : Nat}
    (deep : type.depth ≤ depth)
    (begun : start ≤ data.length)
    (offset : Nat) :
    read data depth type start offset = lift (type.read (data.drop start) offset) := by
  induction type generalizing depth start offset with
  | address | uint | int64 | bool =>
      obtain ⟨depth, rfl⟩ := AbiType.exists_eq_succ_of_depth_le deep
      unfold read AbiType.read
      rw [readWord_eq begun]
      cases AbiType.readWord (data.drop start) offset <;> rfl
  | string | bytes =>
      obtain ⟨depth, rfl⟩ := AbiType.exists_eq_succ_of_depth_le deep
      unfold read AbiType.read
      obtain ⟨error, failed, failed'⟩ | ⟨tail, begun, found, found'⟩ :=
        readTail_cases begun offset
      · rw [failed, failed']
        rfl
      · rw [found, found']
        dsimp only [bind, Except.bind]
        rw [readCounted_eq begun]
        cases AbiType.readCounted (data.drop tail) <;> rfl
  | array item inductionHypothesis =>
      obtain ⟨depth, rfl⟩ := AbiType.exists_eq_succ_of_depth_le deep
      have less : item.depth ≤ depth := Nat.le_of_succ_le_succ deep
      unfold read AbiType.read
      obtain ⟨error, failed, failed'⟩ | ⟨tail, begun, found, found'⟩ :=
        readTail_cases begun offset
      · rw [failed, failed']
        rfl
      rw [found, found']
      obtain ⟨error, failed, failed'⟩ | ⟨count, body, begun, counted, counted', skipped, behind⟩ :=
        readSize_cases begun
      · dsimp only [bind, Except.bind]
        rw [failed, failed']
        rfl
      dsimp only [bind, Except.bind]
      rw [counted, counted', skipped]
      dsimp only
      rw [behind, List.length_drop]
      by_cases short : data.length - body < count * 32
      · rw [if_pos short, if_pos short]
        rfl
      · rw [if_neg short, if_neg short]
        simp only [inductionHypothesis less begun, ← lift_mapM]
        cases (List.range count).mapM fun index => item.read (data.drop body) (index * 32) <;> rfl

theorem decodeFrom_eq
    {types : List AbiType}
    {depth : Nat}
    (deep : ∀ type ∈ types, type.depth ≤ depth)
    (offset : Nat) :
    decodeFrom data depth offset types = lift (AbiValue.decodeFrom data offset types) := by
  induction types generalizing offset with
  | nil => rfl
  | cons type types inductionHypothesis =>
      obtain ⟨first, others⟩ := List.forall_mem_cons.mp deep
      unfold decodeFrom AbiValue.decodeFrom
      rw [read_eq type first (Nat.zero_le _), List.drop_zero, lift_bind]
      simp only [inductionHypothesis others, lift_bind]
      rfl

end BoundedRead

/-! ## Data with anything behind it -/

/-- A window that lies inside the data is where it was. -/
theorem Bytes.window?_append
    {data content : Bytes}
    {offset size : Nat}
    (inside : data.window? offset size = some content)
    (rest : Bytes) :
    (data ++ rest).window? offset size = some content := by
  by_cases within : offset + size ≤ data.length
  · have still : offset + size ≤ (data ++ rest).length := by
      rw [List.length_append]
      omega
    have room : size ≤ (data.drop offset).length := by
      rw [List.length_drop]
      omega
    rw [window?_eq_some within] at inside
    rwa [window?_eq_some still, List.drop_append_of_le_length (by omega),
      List.take_append_of_le_length room]
  · rw [window?_eq_none (by omega)] at inside
    cases inside

namespace AbiType

variable {data : Bytes} {offset : Nat}

theorem readWord_append
    {word : Word}
    (read : readWord data offset = .ok word)
    (rest : Bytes) :
    readWord (data ++ rest) offset = .ok word := by
  unfold readWord at read ⊢
  split at read
  · rename_i window found
    rwa [Bytes.window?_append found]
  · cases read

theorem readSize_append
    {size : Nat}
    (read : readSize data offset = .ok size)
    (rest : Bytes) :
    readSize (data ++ rest) offset = .ok size := by
  obtain ⟨word, found, small⟩ := exists_of_bind_eq_ok read
  exact bind_eq_ok_iff.mpr ⟨word, readWord_append found rest, small⟩

/-- A tail goes on with what was put behind the data. -/
theorem readTail_append
    {tail : Bytes}
    (read : readTail data offset = .ok tail)
    (rest : Bytes) :
    readTail (data ++ rest) offset = .ok (tail ++ rest) := by
  obtain ⟨distance, found, near⟩ := exists_of_bind_eq_ok read
  refine bind_eq_ok_iff.mpr ⟨distance, readSize_append found rest, ?_⟩
  split at near
  · rename_i within
    have still : distance ≤ (data ++ rest).length := by
      rw [List.length_append]
      omega
    cases near
    rw [if_pos still, List.drop_append_of_le_length within]
    rfl
  · cases near

/-- So does what stands behind a count. -/
theorem drop_append_of_readSize
    {tail : Bytes}
    {count : Nat}
    (counted : readSize tail 0 = .ok count)
    (rest : Bytes) :
    (tail ++ rest).drop 32 = tail.drop 32 ++ rest := by
  have room := BoundedRead.length_of_readSize_eq_ok counted
  exact List.drop_append_of_le_length (by omega)

theorem readCounted_append
    {tail content : Bytes}
    (read : readCounted tail = .ok content)
    (rest : Bytes) :
    readCounted (tail ++ rest) = .ok content := by
  obtain ⟨count, counted, found⟩ := exists_of_bind_eq_ok read
  refine bind_eq_ok_iff.mpr ⟨count, readSize_append counted rest, ?_⟩
  rw [drop_append_of_readSize counted]
  split at found
  · rename_i window inside
    rwa [Bytes.window?_append inside]
  · cases found

/-- Whether values of the type are read from longer data as from the data itself. -/
def IsStable (type : AbiType) : Prop :=
  ∀ (data : Bytes) (offset : Nat) (value : AbiValue),
    type.read data offset = .ok value →
      ∀ rest : Bytes, type.read (data ++ rest) offset = .ok value

end AbiType

namespace AbiValue

theorem decodeFrom_append
    {types : List AbiType}
    (stable : ∀ type ∈ types, type.IsStable)
    {data : Bytes}
    {offset : Nat}
    {values : List AbiValue}
    (read : decodeFrom data offset types = .ok values)
    (rest : Bytes) :
    decodeFrom (data ++ rest) offset types = .ok values := by
  induction types generalizing offset values with
  | nil => exact read
  | cons type types inductionHypothesis =>
      obtain ⟨first, others⟩ := List.forall_mem_cons.mp stable
      obtain ⟨value, found, read⟩ := exists_of_bind_eq_ok read
      obtain ⟨later, goesOn, made⟩ := exists_of_bind_eq_ok read
      refine bind_eq_ok_iff.mpr ⟨value, first data offset value found rest, ?_⟩
      exact bind_eq_ok_iff.mpr ⟨later, inductionHypothesis others goesOn, made⟩

end AbiValue

namespace AbiType

/-- Every distance leads to where it led, and tails only become longer. -/
theorem isStable
    (type : AbiType) :
    type.IsStable := by
  induction type with
  | address | uint | int64 | bool =>
      intro data offset value read rest
      obtain ⟨word, found, made⟩ := exists_of_bind_eq_ok read
      exact bind_eq_ok_iff.mpr ⟨word, readWord_append found rest, made⟩
  | string | bytes =>
      intro data offset value read rest
      obtain ⟨tail, found, read⟩ := exists_of_bind_eq_ok read
      obtain ⟨content, counted, made⟩ := exists_of_bind_eq_ok read
      refine bind_eq_ok_iff.mpr ⟨tail ++ rest, readTail_append found rest, ?_⟩
      exact bind_eq_ok_iff.mpr ⟨content, readCounted_append counted rest, made⟩
  | array item inductionHypothesis =>
      intro data offset value read rest
      obtain ⟨tail, found, read⟩ := exists_of_bind_eq_ok read
      obtain ⟨count, counted, read⟩ := exists_of_bind_eq_ok read
      refine bind_eq_ok_iff.mpr ⟨tail ++ rest, readTail_append found rest, ?_⟩
      refine bind_eq_ok_iff.mpr ⟨count, readSize_append counted rest, ?_⟩
      have allStable : ∀ type ∈ List.replicate count item, type.IsStable := by
        intro type member
        rw [List.eq_of_mem_replicate member]
        exact inductionHypothesis
      dsimp only at read ⊢
      rw [drop_append_of_readSize counted]
      by_cases short : (tail.drop 32).length < count * 32
      · rw [if_pos short] at read
        cases read
      · have still : ¬ (tail.drop 32 ++ rest).length < count * 32 := by
          rw [List.length_append]
          omega
        rw [if_neg short, AbiValue.mapM_range_eq_decode] at read
        rw [if_neg still, AbiValue.mapM_range_eq_decode]
        obtain ⟨items, listed, made⟩ := exists_of_bind_eq_ok read
        exact bind_eq_ok_iff.mpr ⟨items, AbiValue.decodeFrom_append allStable listed rest, made⟩

end AbiType

namespace AbiValue

/-- What is promised of reading values of given types from any data. -/
structure ReadsInside (types : List AbiType) (data : Bytes) : Prop where
  /--
  There are values, or there is a reason why not.  Reading that stops at every slice past the
  end of the data, and at every value deeper than the types are, comes to the same.
  -/
  bounded :
    let boundedly := BoundedRead.decodeFrom data (AbiType.greatestDepth types) 0 types
    (∃ values, decode types data = .ok values ∧ boundedly = .ok values) ∨
      ∃ error, decode types data = .error error ∧ boundedly = .error (.refused error)
  /-- The same values are read whatever follows the data. -/
  stable :
    ∀ values, decode types data = .ok values →
      ∀ rest : Bytes, decode types (data ++ rest) = .ok values

/-- Reading stays inside the data and the depth of the types, whatever the data hold. -/
theorem reading_stays_inside
    (types : List AbiType)
    (data : Bytes) :
    ReadsInside types data where
  bounded := by
    intro boundedly
    have same : boundedly = BoundedRead.lift (decode types data) :=
      BoundedRead.decodeFrom_eq (fun _ => AbiType.depth_le_greatestDepth) 0
    cases result : decode types data with
    | ok values => exact .inl ⟨values, rfl, by rw [same, result]; rfl⟩
    | error error => exact .inr ⟨error, rfl, by rw [same, result]; rfl⟩
  stable _ read := decodeFrom_append (fun type _ => type.isStable) read

/-- One word may be the distance of an item and the count of that item. -/
example :
    decode [.array (.array .uint)]
        ((AbiPart.sizeWord 32).toBytes ++ (AbiPart.sizeWord 1).toBytes ++
          (AbiPart.sizeWord 0).toBytes) =
      .ok [.array [.array []]] := by
  rfl

end AbiValue

end LedgerEvm
