import Mathlib.Data.List.DropRight
import LedgerEvm.Configuration

namespace LedgerEvm

/-!
# Texts of versions and of version tables

A number is read back from its decimal digits, and a list of parts from the parts between
separators that occur in none of them.  The text of a version holds digits and points only.
So neither marks before it nor a suffix behind a sign can be taken for a part of it, and in
the row of a table it reaches to the `@`, which occurs nowhere before.  Rows in turn hold no
comma and no blank.
-/

namespace Text

/-! ## Decimal numbers -/

theorem digit?_of_isDigit
    {character : Char}
    (isDigit : character.isDigit = true) :
    digit? character = some (character.toNat - '0'.toNat) := by
  have bounds : '0' ≤ character ∧ character ≤ '9' := by
    simpa [Char.isDigit, Char.le_def] using isDigit
  exact if_pos bounds

theorem continueDigits?_of_isDigit
    {text : List Char}
    (areDigits : ∀ character ∈ text, character.isDigit = true)
    (value : Nat) :
    continueDigits? value text = some (Nat.ofDigitChars 10 text value) := by
  induction text generalizing value with
  | nil =>
      rfl
  | cons character rest inductionHypothesis =>
      have first := digit?_of_isDigit (areDigits character List.mem_cons_self)
      have others := fun other member => areDigits other (List.mem_cons_of_mem character member)
      simp only [continueDigits?, first]
      rw [inductionHypothesis others, Nat.ofDigitChars_cons, Nat.mul_comm]

theorem isDigit_of_mem_toDigits
    {number : Nat}
    {character : Char}
    (member : character ∈ Nat.toDigits 10 number) :
    character.isDigit = true :=
  Nat.isDigit_of_mem_toDigits (by decide) (by decide) member

/-- The digits of a number begin with a digit. -/
theorem exists_toDigits_eq_cons
    (number : Nat) :
    ∃ first rest, Nat.toDigits 10 number = first :: rest ∧ first.isDigit = true := by
  obtain ⟨first, rest, shape⟩ := List.exists_cons_of_ne_nil (@Nat.toDigits_ne_nil number 10)
  have member : first ∈ Nat.toDigits 10 number := shape ▸ List.mem_cons_self
  exact ⟨first, rest, shape, isDigit_of_mem_toDigits member⟩

theorem not_mem_toDigits
    {character : Char}
    (noDigit : character.isDigit = false)
    (number : Nat) :
    character ∉ Nat.toDigits 10 number := by
  intro member
  have isDigit := isDigit_of_mem_toDigits member
  rw [noDigit] at isDigit
  cases isDigit

theorem digits?_toDigits
    (number : Nat) :
    digits? (Nat.toDigits 10 number) = some number := by
  obtain ⟨first, rest, shape, -⟩ := exists_toDigits_eq_cons number
  have areDigits : ∀ character ∈ Nat.toDigits 10 number, character.isDigit = true :=
    fun _ => isDigit_of_mem_toDigits
  have continued := continueDigits?_of_isDigit areDigits 0
  rw [Nat.ofDigitChars_ten_toDigits] at continued
  rw [shape] at continued ⊢
  exact continued

theorem natural?_toDigits
    (number : Nat) :
    natural? (Nat.toDigits 10 number) = some number := by
  obtain ⟨first, rest, shape, isDigit⟩ := exists_toDigits_eq_cons number
  have noPlus : first ≠ '+' := by
    rintro rfl
    cases isDigit
  have read := digits?_toDigits number
  rw [shape] at read ⊢
  rw [natural?]
  · exact read
  · rintro _ ⟨⟩
    exact noPlus rfl

/-- An integer is read back from its text. -/
theorem integer?_toString
    (number : Int) :
    integer? (toString number).toList = some number := by
  cases number with
  | ofNat number =>
      obtain ⟨first, rest, shape, isDigit⟩ := exists_toDigits_eq_cons number
      have noMinus : first ≠ '-' := by
        rintro rfl
        cases isDigit
      have read := natural?_toDigits number
      have text : (toString (Int.ofNat number)).toList = Nat.toDigits 10 number :=
        Nat.toList_repr
      rw [text]
      rw [shape] at read ⊢
      rw [integer?, read]
      · rfl
      · rintro _ ⟨⟩
        exact noMinus rfl
  | negSucc number =>
      have text : (toString (Int.negSucc number)).toList = '-' :: Nat.toDigits 10 (number + 1) := by
        rw [Int.toString_eq_repr, Int.repr, String.toList_append, Nat.toList_repr]
        rfl
      rw [text, integer?, digits?_toDigits]
      rfl

/-- The text of an integer holds digits and a minus sign at most. -/
theorem isDigit_or_eq_of_mem_toString
    {number : Int}
    {character : Char}
    (member : character ∈ (toString number).toList) :
    character.isDigit = true ∨ character = '-' := by
  cases number with
  | ofNat number =>
      rw [Int.toString_eq_repr, Int.repr, Nat.toList_repr] at member
      exact .inl (isDigit_of_mem_toDigits member)
  | negSucc number =>
      rw [Int.toString_eq_repr, Int.repr, String.toList_append, Nat.toList_repr] at member
      rcases List.mem_append.mp member with sign | member
      · exact .inr (List.mem_singleton.mp sign)
      · exact .inl (isDigit_of_mem_toDigits member)

/-! ## Parts between separators -/

theorem fields_eq_splitOn
    (separator : Char)
    (text : List Char) :
    fields (· == separator) text = text.splitOn separator := by
  induction text with
  | nil =>
      rfl
  | cons character rest inductionHypothesis =>
      rw [fields, List.splitOn_cons_eq_if_modifyHead, inductionHypothesis]
      split
      · rfl
      · obtain ⟨first, others, shape⟩ :=
          List.exists_cons_of_ne_nil (List.splitOn_ne_nil separator rest)
        rw [shape]
        rfl

/-- Parts without the separator are found again between separators. -/
theorem fields_intercalate
    {separator : Char}
    {parts : List (List Char)}
    (apart : ∀ part ∈ parts, separator ∉ part)
    (nonempty : parts ≠ []) :
    fields (· == separator) ([separator].intercalate parts) = parts := by
  rw [fields_eq_splitOn, List.splitOn_intercalate separator apart nonempty]

/-! ## Blanks -/

theorem isBlank_eq_false_of_isDigit
    {character : Char}
    (isDigit : character.isDigit = true) :
    isBlank character = false := by
  obtain ⟨low, high⟩ := Char.isDigit_iff_toNat.mp isDigit
  have least : '0'.toNat = 0x30 := rfl
  have greatest : '9'.toNat = 0x39 := rfl
  rw [isBlank, List.contains_eq_mem, decide_eq_false_iff_not]
  simp only [blankCodes, List.mem_cons, List.not_mem_nil, or_false]
  omega

theorem dropWhile_of_solid
    {text : List Char}
    (solid : ∀ character ∈ text, isBlank character = false) :
    text.dropWhile isBlank = text := by
  refine List.dropWhile_eq_self_iff.mpr fun bound => ?_
  rw [solid _ (List.getElem_mem bound)]
  exact Bool.false_ne_true

/-- A text without blanks is its own trimmed form. -/
theorem trim_of_solid
    {text : List Char}
    (solid : ∀ character ∈ text, isBlank character = false) :
    trim text = text :=
  trim_eq_self (dropWhile_of_solid solid)
    (dropWhile_of_solid fun character member => solid character (List.mem_reverse.mp member))

/-- Only the end of a text is trimmed when its beginning holds no blank. -/
theorem trim_append
    {beginning : List Char}
    (nonempty : beginning ≠ [])
    (solid : ∀ character ∈ beginning, isBlank character = false)
    (rest : List Char) :
    trim (beginning ++ rest) = beginning ++ rest.rdropWhile isBlank := by
  have kept : (beginning ++ rest).dropWhile isBlank = beginning ++ rest := by
    obtain ⟨first, others, rfl⟩ := List.exists_cons_of_ne_nil nonempty
    exact List.dropWhile_cons_of_neg (by simp [solid first])
  have keptBack : beginning.reverse.dropWhile isBlank = beginning.reverse :=
    dropWhile_of_solid fun character member => solid character (List.mem_reverse.mp member)
  rw [trim, kept, List.reverse_append, List.dropWhile_append, keptBack, List.rdropWhile]
  split
  · rename_i onlyBlanks
    rw [List.isEmpty_iff.mp onlyBlanks, List.reverse_reverse, List.reverse_nil, List.append_nil]
  · rw [List.reverse_append, List.reverse_reverse]

end Text

namespace SemanticVersion

/-! ## Versions -/

variable {marks suffix : List Char} {character : Char}

/-- What may stand before the numbers of a version: any number of `v`. -/
def AreMarks (text : List Char) : Prop :=
  ∀ character ∈ text, character = 'v' ∨ character = 'V'

instance (text : List Char) : Decidable (AreMarks text) :=
  List.decidableBAll (fun character => character = 'v' ∨ character = 'V') text

/-- What may stand behind the numbers of a version: nothing, or a sign and any text. -/
def IsSuffix (text : List Char) : Prop :=
  ∀ sign ∈ text.head?, sign = '-' ∨ sign = '+'

instance (text : List Char) : Decidable (IsSuffix text) :=
  match text with
  | [] => isTrue nofun
  | sign :: rest => decidable_of_iff (sign = '-' ∨ sign = '+') (by simp [IsSuffix])

/-- The beginning of a suffix is a suffix. -/
theorem IsSuffix.ofBeginning
    {beginning : List Char}
    (isSuffix : IsSuffix suffix)
    (begins : beginning <+: suffix) :
    IsSuffix beginning := by
  obtain ⟨rest, rfl⟩ := begins
  cases beginning with
  | nil =>
      exact nofun
  | cons first others =>
      exact isSuffix

theorem IsSuffix.takeWhile_eq_nil
    (isSuffix : IsSuffix suffix) :
    suffix.takeWhile (fun character => !(character == '-' || character == '+')) = [] := by
  cases suffix with
  | nil =>
      rfl
  | cons sign rest =>
      rcases isSuffix sign rfl with rfl | rfl <;> rfl

/-- The characters of the numbers of a version and of the points between them. -/
def IsNumeric (character : Char) : Prop :=
  character.isDigit = true ∨ character = '.'

theorem IsNumeric.isBlank_eq_false
    (isNumeric : IsNumeric character) :
    Text.isBlank character = false := by
  rcases isNumeric with isDigit | rfl
  · exact Text.isBlank_eq_false_of_isDigit isDigit
  · decide

theorem IsNumeric.ne
    (isNumeric : IsNumeric character)
    (other : Char)
    (noDigit : other.isDigit = false)
    (noPoint : other ≠ '.') :
    character ≠ other := by
  rintro rfl
  rcases isNumeric with isDigit | isPoint
  · rw [noDigit] at isDigit
    cases isDigit
  · exact noPoint isPoint

/-- Marks and suffix are taken off, whatever the suffix holds. -/
theorem core_append
    {numbers : List Char}
    (areMarks : AreMarks marks)
    (nonempty : numbers ≠ [])
    (areNumeric : ∀ character ∈ numbers, IsNumeric character)
    (isSuffix : IsSuffix suffix) :
    core (marks ++ numbers ++ suffix) = numbers := by
  have solid : ∀ character ∈ marks ++ numbers, Text.isBlank character = false := by
    intro character member
    rcases List.mem_append.mp member with isMark | isNumber
    · rcases areMarks character isMark with rfl | rfl <;> decide
    · exact (areNumeric character isNumber).isBlank_eq_false
  have unmarked (rest : List Char) :
      (marks ++ (numbers ++ rest)).dropWhile
          (fun character => character == 'v' || character == 'V') =
        numbers ++ rest := by
    rw [List.dropWhile_append_of_pos (by simpa [AreMarks] using areMarks)]
    obtain ⟨first, others, rfl⟩ := List.exists_cons_of_ne_nil nonempty
    have isNumeric := areNumeric first List.mem_cons_self
    refine List.dropWhile_cons_of_neg ?_
    simp [isNumeric.ne 'v' rfl (by decide), isNumeric.ne 'V' rfl (by decide)]
  have unsigned : ∀ character ∈ numbers, (!(character == '-' || character == '+')) = true := by
    intro character member
    have isNumeric := areNumeric character member
    simp [isNumeric.ne '-' rfl (by decide), isNumeric.ne '+' rfl (by decide)]
  -- Trimming may take the end of the suffix, but not the sign that it begins with.
  have trimmed := isSuffix.ofBeginning <| List.rdropWhile_prefix Text.isBlank suffix
  have written : marks ++ numbers ≠ [] := List.append_ne_nil_of_right_ne_nil marks nonempty
  rw [core, Text.trim_append written solid, List.append_assoc, unmarked,
    List.takeWhile_append_of_pos unsigned, trimmed.takeWhile_eq_nil, List.append_nil]

/-- The text of a version is its numbers between points. -/
theorem toList_text
    (version : SemanticVersion) :
    version.text.toList =
      ['.'].intercalate
        [Nat.toDigits 10 version.major.toNat, Nat.toDigits 10 version.minor.toNat,
          Nat.toDigits 10 version.patch.toNat] := by
  simp [text, Nat.toString_eq_repr]

theorem text_ne_nil
    (version : SemanticVersion) :
    version.text.toList ≠ [] := by
  simp [toList_text]

theorem isNumeric_of_mem_text
    (version : SemanticVersion)
    (member : character ∈ version.text.toList) :
    IsNumeric character := by
  simp only [toList_text, List.intercalate_cons_cons, List.intercalate_singleton, List.mem_append,
    List.mem_singleton] at member
  have digit {number : Nat} (member : character ∈ Nat.toDigits 10 number) : IsNumeric character :=
    .inl (Text.isDigit_of_mem_toDigits member)
  rcases member with (inMajor | point) | (inMinor | point) | inPatch
  · exact digit inMajor
  · exact .inr point
  · exact digit inMinor
  · exact .inr point
  · exact digit inPatch

theorem component?_toDigits
    (number : UInt32) :
    component? (Nat.toDigits 10 number.toNat) = some number := by
  rw [component?, Text.natural?_toDigits, Option.bind_some, UInt32.ofNat?_toNat]

/-- A version is read back from its text, whatever marks and suffix are put around it. -/
theorem parseChars?_text
    (version : SemanticVersion)
    (areMarks : AreMarks marks)
    (isSuffix : IsSuffix suffix) :
    parseChars? (marks ++ version.text.toList ++ suffix) = some version := by
  have numbers := core_append areMarks version.text_ne_nil
    (fun _ => version.isNumeric_of_mem_text) isSuffix
  have noPoint := Text.not_mem_toDigits (show '.'.isDigit = false from rfl)
  have apart : ∀ part ∈ [Nat.toDigits 10 version.major.toNat, Nat.toDigits 10 version.minor.toNat,
      Nat.toDigits 10 version.patch.toNat], '.' ∉ part := by
    simp [noPoint]
  rw [parseChars?, numbers, toList_text, Text.fields_intercalate apart (List.cons_ne_nil _ _)]
  simp [component?_toDigits]

end SemanticVersion

namespace VersionEntry

/-! ## Tables -/

/-- The row of a version that is in force from a second on. -/
def rowText (row : SemanticVersion × Int64) : String :=
  row.1.text ++ "@" ++ toString row.2.toInt

/-- The rows of a table between commas. -/
def tableText (rows : List (SemanticVersion × Int64)) : String :=
  ",".intercalate (rows.map rowText)

/-- A text is split where the separator stands for the first time. -/
theorem splitFirst?_append
    {separator : Char}
    {left : List Char}
    (apart : separator ∉ left)
    (right : List Char) :
    splitFirst? separator (left ++ separator :: right) = some (left, right) := by
  have differs : ∀ character ∈ left, (character != separator) = true := by
    rintro character member
    simp only [bne_iff_ne, ne_eq]
    rintro rfl
    exact apart member
  rw [splitFirst?, List.dropWhile_append_of_pos differs, List.takeWhile_append_of_pos differs]
  simp

theorem toList_rowText
    (row : SemanticVersion × Int64) :
    (rowText row).toList = row.1.text.toList ++ '@' :: (toString row.2.toInt).toList := by
  simp [rowText]

theorem mem_rowText
    {row : SemanticVersion × Int64}
    {character : Char}
    (member : character ∈ (rowText row).toList) :
    Text.isBlank character = false ∧ character ≠ ',' := by
  have numeric (isNumeric : SemanticVersion.IsNumeric character) :
      Text.isBlank character = false ∧ character ≠ ',' :=
    ⟨isNumeric.isBlank_eq_false, isNumeric.ne ',' rfl (by decide)⟩
  rw [toList_rowText, List.mem_append, List.mem_cons] at member
  rcases member with inVersion | rfl | inSeconds
  · exact numeric (row.1.isNumeric_of_mem_text inVersion)
  · decide
  · rcases Text.isDigit_or_eq_of_mem_toString inSeconds with isDigit | rfl
    · exact numeric (.inl isDigit)
    · decide

/-- A row is read back. -/
theorem parseRow?_rowText
    (row : SemanticVersion × Int64) :
    parseRow? (rowText row).toList = some (ofSeconds row.1 row.2) := by
  have apart : '@' ∉ row.1.text.toList := fun member =>
    (row.1.isNumeric_of_mem_text member).ne '@' rfl (by decide) rfl
  have noMarks : SemanticVersion.AreMarks [] := nofun
  have noSuffix : SemanticVersion.IsSuffix [] := nofun
  have version : SemanticVersion.parseChars? row.1.text.toList = some row.1 := by
    simpa using row.1.parseChars?_text noMarks noSuffix
  have solid : ∀ character ∈ (toString row.2.toInt).toList, Text.isBlank character = false := by
    intro character member
    have inRow : character ∈ (rowText row).toList := by
      rw [toList_rowText]
      exact List.mem_append_right _ (List.mem_cons_of_mem _ member)
    exact (mem_rowText inRow).1
  have seconds :
      (Text.integer? (Text.trim (toString row.2.toInt).toList)).bind Int64.ofInt? = some row.2 := by
    rw [Text.trim_of_solid solid, Text.integer?_toString, Option.bind_some, Int64.ofInt?_toInt]
  rw [parseRow?, toList_rowText, splitFirst?_append apart]
  simp only [Option.bind_eq_bind, Option.bind_some, version, seconds]
  rfl

/-- A table is read back row by row. -/
theorem parseTable?_tableText
    (rows : List (SemanticVersion × Int64)) :
    parseTable? (tableText rows).toList = some (rows.map fun row => ofSeconds row.1 row.2) := by
  by_cases empty : rows = []
  · -- The text of a table without rows has one part all the same, which is blank and left out.
    rw [empty]
    rfl
  have joined : (tableText rows).toList =
      [','].intercalate (rows.map fun row => (rowText row).toList) := by
    rw [tableText, String.toList_intercalate, List.map_map]
    rfl
  have apart : ∀ part ∈ rows.map fun row => (rowText row).toList, ',' ∉ part := by
    intro part member comma
    obtain ⟨row, -, rfl⟩ := List.mem_map.mp member
    exact (mem_rowText comma).2 rfl
  have written : ∀ part ∈ rows.map fun row => (rowText row).toList,
      (!(Text.trim part).isEmpty) = true := by
    intro part member
    obtain ⟨row, -, rfl⟩ := List.mem_map.mp member
    rw [Text.trim_of_solid fun _ member => (mem_rowText member).1]
    simp [toList_rowText]
  have read : (parseRow? ∘ fun row => (rowText row).toList) =
      fun row => some (ofSeconds row.1 row.2) :=
    funext parseRow?_rowText
  rw [parseTable?, joined, Text.fields_intercalate apart (by simpa using empty),
    List.filter_eq_self.mpr written, List.mapM_map, read]
  exact List.mapM_pure

/-- The nanoseconds up to the beginning of a second fit 64 bits. -/
def HasNanos (seconds : Int64) : Prop :=
  Int64.minValue.toInt ≤ seconds.toInt * Timestamp.nanosPerSecond ∧
    seconds.toInt * Timestamp.nanosPerSecond ≤ Int64.maxValue.toInt

instance (seconds : Int64) : Decidable (HasNanos seconds) :=
  instDecidableAnd

theorem nanos_ofSeconds
    {seconds : Int64}
    (hasNanos : HasNanos seconds)
    (version : SemanticVersion) :
    (ofSeconds version seconds).effective.nanos.toInt =
      seconds.toInt * Timestamp.nanosPerSecond :=
  Int64.toInt_ofIntClamp hasNanos.1 hasNanos.2

/--
A version is read back from its text, also behind a `v` and before any suffix that begins
with a sign; and a table is read back row by row, every row with the nanoseconds of its second.
-/
theorem version_texts_are_read_back :
    (∀ (version : SemanticVersion) (marks suffix : String),
        SemanticVersion.AreMarks marks.toList → SemanticVersion.IsSuffix suffix.toList →
          SemanticVersion.parse? (marks ++ version.text ++ suffix) = some version) ∧
      ∀ rows : List (SemanticVersion × Int64),
        (∀ row ∈ rows, HasNanos row.2) →
          ∃ entries, parseTable? (tableText rows).toList = some entries ∧
            entries.map (fun entry => (entry.version, entry.effective.nanos.toInt)) =
              rows.map fun row => (row.1, row.2.toInt * Timestamp.nanosPerSecond) := by
  constructor
  · intro version marks suffix areMarks isSuffix
    rw [SemanticVersion.parse?, String.toList_append, String.toList_append]
    exact version.parseChars?_text areMarks isSuffix
  · intro rows haveNanos
    refine ⟨_, parseTable?_tableText rows, ?_⟩
    rw [List.map_map]
    apply List.map_congr_left
    intro row member
    exact congrArg (row.1, ·) (nanos_ofSeconds (haveNanos row member) row.1)

/--
A suffix may hold points and signs, and a table may reach from the first second with nanoseconds
to the last one.
-/
theorem version_with_dotted_suffix_is_read_back :
    let rows : List (SemanticVersion × Int64) :=
      [(⟨0, 30, 0⟩, -9223372036), (⟨0, 34, 0⟩, 9223372036)]
    (SemanticVersion.AreMarks "v".toList ∧ SemanticVersion.IsSuffix "-rc.1+build.7".toList ∧
        SemanticVersion.parse? ("v" ++ SemanticVersion.text ⟨0, 38, 0⟩ ++ "-rc.1+build.7") =
          some ⟨0, 38, 0⟩) ∧
      (∀ row ∈ rows, HasNanos row.2) ∧
        ∃ entries, parseTable? (tableText rows).toList = some entries ∧
          entries.map (fun entry => (entry.version, entry.effective.nanos.toInt)) =
            [(⟨0, 30, 0⟩, -9223372036000000000), (⟨0, 34, 0⟩, 9223372036000000000)] := by
  intro rows
  obtain ⟨versions, tables⟩ := version_texts_are_read_back
  have marks : SemanticVersion.AreMarks "v".toList := by decide
  have suffix : SemanticVersion.IsSuffix "-rc.1+build.7".toList := by decide
  have haveNanos : ∀ row ∈ rows, HasNanos row.2 := by decide
  exact ⟨⟨marks, suffix, versions _ _ _ marks suffix⟩, haveNanos, tables rows haveNanos⟩

end VersionEntry

end LedgerEvm
