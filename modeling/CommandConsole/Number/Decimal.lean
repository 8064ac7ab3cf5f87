set_option autoImplicit false

namespace CommandConsole.Decimal

def digitChar (digit : Nat) : Char :=
  Char.ofNat (0x30 + digit)

def isDigit (char : Char) : Bool :=
  0x30 ≤ char.toNat && char.toNat ≤ 0x39

def digitValue (char : Char) : Nat :=
  char.toNat - 0x30

/-- The digits of a number, written before what follows. -/
def digitsOnto (number : Nat) (rest : List Char) : List Char :=
  if number < 10 then digitChar number :: rest
  else digitsOnto (number / 10) (digitChar (number % 10) :: rest)
termination_by number
decreasing_by omega

/-- The shortest decimal digits of a number. -/
def digits (number : Nat) : List Char :=
  digitsOnto number []

def read (chars : List Char) : Nat :=
  chars.foldl (fun total char => total * 10 + digitValue char) 0

def ofNat (number : Nat) : String :=
  String.ofList (digits number)

/-- The decimal text of an integer: a minus sign only when it is negative. -/
def ofInt (number : Int) : String :=
  String.ofList (if number < 0 then '-' :: digits number.natAbs else digits number.natAbs)

/-- The digits on the left of a text, filled up with zeros to a width. -/
def padded (width number : Nat) : String :=
  let shown := digits number
  String.ofList (List.replicate (width - shown.length) '0' ++ shown)

/-- The most digits that an integer is read from or written with. -/
def digitLimit : Nat := 4300

/-- Whether an integer has few enough digits to be written. -/
def isWritable (number : Int) : Bool :=
  number.natAbs < Nat.pow 10 digitLimit

theorem digitValue_digitChar (digit : Nat) (small : digit < 10) :
    digitValue (digitChar digit) = digit := by
  have cases : digit = 0 ∨ digit = 1 ∨ digit = 2 ∨ digit = 3 ∨ digit = 4 ∨ digit = 5 ∨
      digit = 6 ∨ digit = 7 ∨ digit = 8 ∨ digit = 9 := by omega
  rcases cases with rfl | rfl | rfl | rfl | rfl | rfl | rfl | rfl | rfl | rfl <;> decide

theorem isDigit_digitChar (digit : Nat) (small : digit < 10) :
    isDigit (digitChar digit) = true := by
  have cases : digit = 0 ∨ digit = 1 ∨ digit = 2 ∨ digit = 3 ∨ digit = 4 ∨ digit = 5 ∨
      digit = 6 ∨ digit = 7 ∨ digit = 8 ∨ digit = 9 := by omega
  rcases cases with rfl | rfl | rfl | rfl | rfl | rfl | rfl | rfl | rfl | rfl <;> decide

theorem digitsOnto_eq (number : Nat) (rest : List Char) :
    digitsOnto number rest = digits number ++ rest := by
  induction number using Nat.strongRecOn generalizing rest with
  | ind number ih =>
    have unfolded : ∀ rest, digitsOnto number rest =
        if number < 10 then digitChar number :: rest
        else digitsOnto (number / 10) (digitChar (number % 10) :: rest) := by
      intro rest; rw [digitsOnto]
    rw [digits, unfolded rest, unfolded []]
    split
    · rfl
    · rw [ih (number / 10) (by omega), ih (number / 10) (by omega) [_]]
      simp

theorem digits_of_lt (number : Nat) (small : number < 10) : digits number = [digitChar number] := by
  rw [digits, digitsOnto, if_pos small]

/-- The last digit is the remainder by ten. -/
theorem digits_of_not_lt (number : Nat) (large : ¬number < 10) :
    digits number = digits (number / 10) ++ [digitChar (number % 10)] := by
  rw [digits, digitsOnto, if_neg large, digitsOnto_eq]

theorem read_append_digit (chars : List Char) (char : Char) :
    read (chars ++ [char]) = read chars * 10 + digitValue char := by
  simp [read, List.foldl_append]

theorem read_digits (number : Nat) : read (digits number) = number := by
  induction number using Nat.strongRecOn with
  | ind number ih =>
    by_cases small : number < 10
    · rw [digits_of_lt number small]
      simp [read, digitValue_digitChar number small]
    · rw [digits_of_not_lt number small, read_append_digit, ih (number / 10) (by omega),
        digitValue_digitChar _ (Nat.mod_lt _ (by omega))]
      omega

end CommandConsole.Decimal
