namespace LedgerEvm.Text

/-!
# Decimal numbers in text

A number is one or more decimal digits with an optional sign and nothing else.  The
readers accept numbers of any size; what is to fit a width is narrowed afterwards.
-/

/-- The value of a decimal digit. -/
def digit? (character : Char) : Option Nat :=
  if '0' ≤ character ∧ character ≤ '9' then some (character.toNat - 48) else none

/-- Continue a number by the digits that follow it. -/
def continueDigits? : Nat → List Char → Option Nat
  | value, [] => some value
  | value, character :: rest =>
      match digit? character with
      | some digit => continueDigits? (value * 10 + digit) rest
      | none => none

/-- The number written by one or more digits. -/
def digits? : List Char → Option Nat
  | [] => none
  | text => continueDigits? 0 text

/-- The natural number of a text; a plus sign may precede it. -/
def natural? : List Char → Option Nat
  | '+' :: rest => digits? rest
  | text => digits? text

/-- The integer of a text; a sign may precede it. -/
def integer? : List Char → Option Int
  | '-' :: rest => (digits? rest).map fun value => -(value : Int)
  | text => (natural? text).map fun value => (value : Int)

/-- The parts of a text between the characters that separate. -/
def fields (separates : Char → Bool) : List Char → List (List Char)
  | [] => [[]]
  | character :: rest =>
      if separates character then
        [] :: fields separates rest
      else
        match fields separates rest with
        | [] => [[character]]
        | field :: others => (character :: field) :: others

/-- A text always has a first part. -/
theorem fields_ne_nil
    (separates : Char → Bool)
    (text : List Char) :
    fields separates text ≠ [] := by
  cases text with
  | nil =>
      simp [fields]
  | cons character rest =>
      simp only [fields]
      split
      · simp
      · split <;> simp

end LedgerEvm.Text
