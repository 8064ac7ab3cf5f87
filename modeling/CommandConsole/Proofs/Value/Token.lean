import CommandConsole.Value.Token
import Mathlib.Data.List.DropRight
import Mathlib.Tactic.IntervalCases

set_option autoImplicit false

namespace CommandConsole

namespace Text

def Pads (chars core : List Char) : Prop :=
  ∃ leading trailing, chars = leading ++ (core ++ trailing) ∧
    (∀ char ∈ leading, isBlank char = true) ∧ ∀ char ∈ trailing, isBlank char = true

theorem trim_eq_rdropWhile (chars : List Char) :
    trim chars = (chars.dropWhile isBlank).rdropWhile isBlank := rfl

/-- What is left when blanks are dropped had nothing but blanks around it. -/
theorem pads_trim (chars : List Char) : Pads chars (trim chars) := by
  refine ⟨chars.takeWhile isBlank, (chars.dropWhile isBlank).rtakeWhile isBlank, ?_, ?_, ?_⟩
  · rw [trim_eq_rdropWhile, List.rdropWhile_append_rtakeWhile, List.takeWhile_append_dropWhile]
  · exact fun char member => List.mem_takeWhile_imp member
  · exact fun char member => List.mem_rtakeWhile_imp member

theorem dropWhile_of_head? {chars : List Char}
    (inked : ∀ char ∈ chars.head?, isBlank char = false) : chars.dropWhile isBlank = chars := by
  cases chars with
  | nil => rfl
  | cons char rest => exact List.dropWhile_cons_of_neg (by simp [inked char rfl])

theorem trim_of_pads {chars core : List Char} (padded : Pads chars core)
    (first : ∀ char ∈ core.head?, isBlank char = false)
    (last : ∀ char ∈ core.getLast?, isBlank char = false) : trim chars = core := by
  obtain ⟨leading, trailing, rfl, blank, blankBehind⟩ := padded
  rw [trim, trimBy, List.dropWhile_append_of_pos blank]
  by_cases empty : core = []
  · rw [empty, List.nil_append, List.dropWhile_eq_nil_iff.mpr blankBehind]
    rfl
  · have inked : ∀ char ∈ (core ++ trailing).head?, isBlank char = false := by
      rw [List.head?_append_of_ne_nil _ empty]
      exact first
    have inkedBehind : ∀ char ∈ core.reverse.head?, isBlank char = false := by
      rw [List.head?_reverse]
      exact last
    rw [dropWhile_of_head? inked, List.reverse_append, List.dropWhile_append_of_pos
      fun char member => blankBehind char (List.mem_reverse.mp member),
      dropWhile_of_head? inkedBehind, List.reverse_reverse]

theorem trim_eq_self {chars : List Char} (first : ∀ char ∈ chars.head?, isBlank char = false)
    (last : ∀ char ∈ chars.getLast?, isBlank char = false) : trim chars = chars :=
  trim_of_pads ⟨[], [], by simp, by simp, by simp⟩ first last

theorem trim_of_inked {chars : List Char} (inked : ∀ char ∈ chars, isBlank char = false) :
    trim chars = chars :=
  trim_eq_self (fun char member => inked char (List.mem_of_mem_head? member))
    fun char member => inked char (List.mem_of_mem_getLast? member)

end Text

namespace Decimal

theorem digits_ne_nil (number : Nat) : digits number ≠ [] := by
  by_cases small : number < 10
  · simp [digits_of_lt number small]
  · simp [digits_of_not_lt number small]

theorem isDigit_of_mem_digits (number : Nat) : ∀ char ∈ digits number, isDigit char = true := by
  induction number using Nat.strongRecOn with
  | ind number ih =>
    intro char member
    by_cases small : number < 10
    · rw [digits_of_lt number small, List.mem_singleton] at member
      exact member ▸ isDigit_digitChar number small
    · rw [digits_of_not_lt number small, List.mem_append, List.mem_singleton] at member
      rcases member with member | rfl
      · exact ih (number / 10) (by omega) char member
      · exact isDigit_digitChar _ (Nat.mod_lt _ (by omega))

/-- A number below a power of ten has no more digits than the power tells. -/
theorem length_digits_le (places number : Nat) (positive : 0 < places)
    (below : number < Nat.pow 10 places) : (digits number).length ≤ places := by
  rw [Nat.pow_eq] at below
  induction places generalizing number with
  | zero => omega
  | succ places ih =>
    by_cases small : number < 10
    · simp [digits_of_lt number small]
    · have some : 0 < places := by
        rcases places with _ | places
        · simp at below; omega
        · omega
      have less : number / 10 < 10 ^ places := by rw [Nat.pow_succ] at below; omega
      have fewer := ih (number / 10) some less
      rw [digits_of_not_lt number small]
      simp only [List.length_append, List.length_singleton]
      omega

theorem toNat_of_isDigit {char : Char} (digit : isDigit char = true) :
    0x30 ≤ char.toNat ∧ char.toNat ≤ 0x39 := by
  simpa [isDigit] using digit

theorem isBlank_of_isDigit {char : Char} (digit : isDigit char = true) :
    Text.isBlank char = false := by
  have range := toNat_of_isDigit digit
  simp only [Text.isBlank, Bool.or_eq_false_iff, Bool.and_eq_false_iff, decide_eq_false_iff_not,
    beq_eq_false_iff_ne]
  omega

theorem ne_of_isDigit {char other : Char} (digit : isDigit char = true)
    (outside : other.toNat < 0x30 ∨ 0x39 < other.toNat) : char ≠ other := by
  have range := toNat_of_isDigit digit
  rintro rfl
  omega

end Decimal

namespace Value

theorem splitSign_of_isDigit {chars : List Char}
    (isDigit : ∀ char ∈ chars, Decimal.isDigit char = true) : splitSign chars = (false, chars) := by
  cases chars with
  | nil => rfl
  | cons char rest =>
    have digit := isDigit char List.mem_cons_self
    have minus : char ≠ '-' := Decimal.ne_of_isDigit digit (by decide)
    have plus : char ≠ '+' := Decimal.ne_of_isDigit digit (by decide)
    rw [splitSign.eq_def]
    split
    · rename_i same; exact absurd (List.cons.inj same).1 minus
    · rename_i same; exact absurd (List.cons.inj same).1 plus
    · rfl

/-- The digits of an integer and whether it is negative are read off its text. -/
theorem splitSign_ofInt (number : Int) :
    splitSign (Text.trim (Decimal.ofInt number).toList) =
      (decide (number < 0), Decimal.digits number.natAbs) := by
  have inked : ∀ char ∈ Decimal.digits number.natAbs, Text.isBlank char = false :=
    fun char member => Decimal.isBlank_of_isDigit (Decimal.isDigit_of_mem_digits _ char member)
  rw [Decimal.ofInt, String.toList_ofList]
  split
  · rename_i negative
    rw [Text.trim_of_inked]
    · simp [splitSign, negative]
    · intro char member
      rcases List.mem_cons.mp member with rfl | member
      · decide
      · exact inked char member
  · rename_i positive
    rw [Text.trim_of_inked inked, splitSign_of_isDigit (Decimal.isDigit_of_mem_digits _)]
    simp [positive]

theorem length_digits_of_isWritable {number : Int}
    (writable : Decimal.isWritable number = true) :
    (Decimal.digits number.natAbs).length ≤ Decimal.digitLimit :=
  Decimal.length_digits_le Decimal.digitLimit _ (by decide) (of_decide_eq_true writable)

theorem parseInteger_ofInt (number : Int) (writable : Decimal.isWritable number = true) :
    parseInteger (Decimal.ofInt number) = .ok number := by
  have few := length_digits_of_isWritable writable
  have digits : (Decimal.digits number.natAbs).all Decimal.isDigit = true :=
    List.all_eq_true.mpr (Decimal.isDigit_of_mem_digits _)
  have some : (Decimal.digits number.natAbs).isEmpty = false :=
    List.isEmpty_eq_false_iff.mpr (Decimal.digits_ne_nil _)
  simp only [parseInteger, splitSign_ofInt, digits, some, Bool.not_true, Bool.or_false,
    Bool.false_eq_true, if_false, Nat.not_lt.mpr few, Decimal.read_digits, decide_eq_true_eq]
  clear few writable
  split <;> simp only [Except.ok.injEq] <;> omega

theorem parse_token (value : Value) (writable : value.isWritable = true) :
    parse value.kind value.token = .ok value := by
  cases value with
  | boolean truth => cases truth <;> rfl
  | integer number =>
    simp only [kind, token, literal, parse, parseInteger_ofInt number writable]
    rfl
  | text content => rfl

end Value

end CommandConsole
