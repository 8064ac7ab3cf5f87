import CommandConsole.Console.Execution
import CommandConsole.Proofs.Save.Line
import Mathlib.Data.List.Forall2
import Mathlib.Data.Nat.Digits.Defs

set_option autoImplicit false

namespace CommandConsole

namespace Decimal

/-- What digits stand for in base ten: the last one counts ones, the one before it tens, and so
on. -/
def placeValue (digits : List Char) : Nat :=
  Nat.ofDigits 10 (digits.reverse.map digitValue)

theorem read_eq_placeValue (digits : List Char) : read digits = placeValue digits := by
  induction digits using List.reverseRecOn with
  | nil => rfl
  | append_singleton digits digit ih =>
    have last : placeValue (digits ++ [digit]) = digitValue digit + 10 * placeValue digits := by
      simp [placeValue, Nat.ofDigits_cons]
    rw [read_append_digit, ih, last]
    omega

theorem isDigit_iff {char : Char} : isDigit char = true ↔ '0' ≤ char ∧ char ≤ '9' := by
  simp only [isDigit, Bool.and_eq_true, decide_eq_true_eq, Char.le_def, UInt32.le_iff_toNat_le]
  exact Iff.rfl

end Decimal

def TokenFault.kind : TokenFault → Kind
  | notBoolean _ => .boolean
  | notInteger _ | tooManyDigits _ => .integer

namespace Value

/-- A letter of a word, in lower case or in upper case. -/
def IsCaseOf (char letter : Char) : Prop :=
  char = letter ∨ char = letter.toUpper

def wordsOf : Bool → List String
  | true => ["1", "true", "yes", "on"]
  | false => ["0", "false", "no", "off"]

inductive Sign
  | absent
  | plus
  | minus

namespace Sign

def chars : Sign → List Char
  | absent => []
  | plus => ['+']
  | minus => ['-']

def isMinus : Sign → Bool
  | minus => true
  | _ => false

def apply (sign : Sign) (size : Nat) : Int :=
  if sign.isMinus then -size else size

end Sign

/-- Whether a token is decimal digits, at least one, behind a sign or none, between blanks. -/
structure WritesDigits (token : String) (sign : Sign) (digits : List Char) : Prop where
  padded : Text.Pads token.toList (sign.chars ++ digits)
  begun : 1 ≤ digits.length
  decimal : ∀ char ∈ digits, '0' ≤ char ∧ char ≤ '9'

/-- Whether a token is a way to write a value. -/
def Spells (token : String) : Value → Prop
  | boolean truth => ∃ chars, Text.Pads token.toList chars ∧
      ∃ word ∈ wordsOf truth, List.Forall₂ IsCaseOf chars word.toList
  | integer number => ∃ sign digits, WritesDigits token sign digits ∧ digits.length ≤ 4300 ∧
      number = sign.apply (Decimal.placeValue digits)
  | text content => content = token

/-- Whether a token is no way to write a value, for the cause that a fault tells. -/
def Misspells (token : String) : TokenFault → Prop
  | .notBoolean told => told = token ∧ ∀ truth, ¬ Spells token (boolean truth)
  | .notInteger told => told = token ∧ ∀ sign digits, ¬ WritesDigits token sign digits
  | .tooManyDigits count => 4300 < count ∧
      ∃ sign digits, WritesDigits token sign digits ∧ digits.length = count

section Words

theorem isCaseOf_toLower (char : Char) : IsCaseOf char char.toLower := by
  by_cases upper : 65 ≤ char.toNat ∧ char.toNat ≤ 90
  · have isUpper : char = Char.ofNat char.toNat := (Char.ofNat_toNat char).symm
    generalize char.toNat = code at isUpper upper
    obtain ⟨least, most⟩ := upper
    right
    interval_cases code <;> subst isUpper <;> decide
  · left
    have bounds : ¬(char.val ≥ 'A'.val ∧ char.val ≤ 'Z'.val) := by
      simpa [UInt32.le_iff_toNat_le] using upper
    have lower : char.toLower = char := dif_neg bounds
    exact lower.symm

/-- The letters of the words are in lower case, and none is a blank in either case. -/
theorem letters_of_words {truth : Bool} {word : String} (isWord : word ∈ wordsOf truth)
    {char letter : Char} (member : letter ∈ word.toList) (cased : IsCaseOf char letter) :
    char.toLower = letter ∧ Text.isBlank char = false := by
  have letters : ((wordsOf truth).all fun word => word.toList.all fun letter =>
      decide ((letter.toLower = letter ∧ Text.isBlank letter = false) ∧
        letter.toUpper.toLower = letter ∧ Text.isBlank letter.toUpper = false)) = true := by
    cases truth <;> decide +kernel
  have both := of_decide_eq_true (List.all_eq_true.mp (List.all_eq_true.mp letters word isWord)
    letter member)
  rcases cased with rfl | rfl
  · exact both.1
  · exact both.2

/-- Letters of a word in any case are no blanks, and the same in lower case. -/
theorem lower_of_cases {truth : Bool} {word : String} (isWord : word ∈ wordsOf truth)
    {chars letters : List Char} (cased : List.Forall₂ IsCaseOf chars letters)
    (inside : ∀ letter ∈ letters, letter ∈ word.toList) :
    chars.map Char.toLower = letters ∧ ∀ char ∈ chars, Text.isBlank char = false := by
  induction cased with
  | nil => exact ⟨rfl, fun char member => absurd member List.not_mem_nil⟩
  | @cons char letter chars letters isCase rest ih =>
    obtain ⟨lower, inked⟩ := letters_of_words isWord (inside letter List.mem_cons_self) isCase
    obtain ⟨lowers, inkeds⟩ := ih fun letter member => inside letter (List.mem_cons_of_mem _ member)
    exact ⟨by rw [List.map_cons, lower, lowers], List.forall_mem_cons.mpr ⟨inked, inkeds⟩⟩

theorem spells_boolean {token : String} {truth : Bool} :
    Spells token (boolean truth) ↔ lowerWord token ∈ wordsOf truth := by
  constructor
  · rintro ⟨chars, padded, word, isWord, cased⟩
    obtain ⟨lower, inked⟩ := lower_of_cases isWord cased fun _ member => member
    have trimmed : Text.trim token.toList = chars :=
      Text.trim_of_pads padded (fun char first => inked char (List.mem_of_mem_head? first))
        fun char last => inked char (List.mem_of_mem_getLast? last)
    rw [lowerWord, trimmed, lower, String.ofList_toList]
    exact isWord
  · intro isWord
    refine ⟨Text.trim token.toList, Text.pads_trim _, lowerWord token, isWord, ?_⟩
    rw [lowerWord, String.toList_ofList, List.forall₂_map_right_iff]
    exact List.forall₂_same.mpr fun char _ => isCaseOf_toLower char

/-- A word stands for one truth only. -/
theorem parseBoolean_eq_ok {token : String} {truth : Bool} :
    parseBoolean token = .ok truth ↔ Spells token (boolean truth) := by
  have apart : ∀ word ∈ wordsOf true, word ∉ wordsOf false := by decide
  have isTrue : trueWords.contains (lowerWord token) = true ↔ lowerWord token ∈ wordsOf true :=
    List.contains_iff_mem
  have isFalse : falseWords.contains (lowerWord token) = true ↔ lowerWord token ∈ wordsOf false :=
    List.contains_iff_mem
  rw [spells_boolean, parseBoolean]
  by_cases high : lowerWord token ∈ wordsOf true
  · rw [if_pos (isTrue.mpr high)]
    cases truth <;> simp [high, apart _ high]
  · rw [if_neg (mt isTrue.mp high)]
    by_cases low : lowerWord token ∈ wordsOf false
    · rw [if_pos (isFalse.mpr low)]
      cases truth <;> simp [high, low]
    · rw [if_neg (mt isFalse.mp low)]
      cases truth <;> simp [high, low]

theorem parseBoolean_eq_error {token : String} {fault : TokenFault} :
    parseBoolean token = .error fault ↔ fault.kind = .boolean ∧ Misspells token fault := by
  have failed : ∀ {fault}, parseBoolean token = .error fault → fault = .notBoolean token := by
    intro fault failure
    simp only [parseBoolean] at failure
    split at failure
    · cases failure
    · split at failure
      · cases failure
      · exact (Except.error.inj failure).symm
  constructor
  · intro failure
    obtain rfl := failed failure
    refine ⟨rfl, rfl, fun truth spelled => ?_⟩
    rw [parseBoolean_eq_ok.mpr spelled] at failure
    cases failure
  · rintro ⟨kind, misspelled⟩
    cases fault with
    | notBoolean told =>
      obtain ⟨rfl, none⟩ := misspelled
      cases outcome : parseBoolean told with
      | ok truth => exact absurd (parseBoolean_eq_ok.mp outcome) (none truth)
      | error fault => rw [failed outcome]
    | notInteger told => cases kind
    | tooManyDigits count => cases kind

end Words

section Numerals

variable {token : String} {sign : Sign} {digits : List Char}

theorem exists_sign (chars : List Char) :
    ∃ sign : Sign, chars = sign.chars ++ (splitSign chars).2 ∧
      sign.isMinus = (splitSign chars).1 := by
  unfold splitSign
  split
  · exact ⟨.minus, rfl, rfl⟩
  · exact ⟨.plus, rfl, rfl⟩
  · exact ⟨.absent, rfl, rfl⟩

theorem splitSign_chars (sign : Sign) (isDigit : ∀ char ∈ digits, Decimal.isDigit char = true) :
    splitSign (sign.chars ++ digits) = (sign.isMinus, digits) := by
  cases sign with
  | absent => exact splitSign_of_isDigit isDigit
  | plus => rfl
  | minus => rfl

theorem WritesDigits.isDigit (writes : WritesDigits token sign digits) :
    ∀ char ∈ digits, Decimal.isDigit char = true :=
  fun char member => Decimal.isDigit_iff.mpr (writes.decimal char member)

theorem WritesDigits.trim (writes : WritesDigits token sign digits) :
    Text.trim token.toList = sign.chars ++ digits := by
  have inked : ∀ char ∈ sign.chars ++ digits, Text.isBlank char = false := by
    intro char member
    rcases List.mem_append.mp member with inSign | inDigits
    · cases sign with
      | absent => cases inSign
      | plus => exact List.mem_singleton.mp inSign ▸ rfl
      | minus => exact List.mem_singleton.mp inSign ▸ rfl
    · exact Decimal.isBlank_of_isDigit (writes.isDigit char inDigits)
  exact Text.trim_of_pads writes.padded (fun char first => inked char (List.mem_of_mem_head? first))
    fun char last => inked char (List.mem_of_mem_getLast? last)

/-- Digits are read for what they stand for, unless there are too many. -/
theorem WritesDigits.parseInteger (writes : WritesDigits token sign digits) :
    parseInteger token = if 4300 < digits.length then .error (.tooManyDigits digits.length)
      else .ok (sign.apply (Decimal.placeValue digits)) := by
  have some : digits.isEmpty = false := by
    have begun := writes.begun
    cases digits with
    | nil => simp at begun
    | cons digit digits => rfl
  have all : digits.all Decimal.isDigit = true := List.all_eq_true.mpr writes.isDigit
  simp only [Value.parseInteger, writes.trim, splitSign_chars sign writes.isDigit, some, all,
    Bool.not_true, Bool.or_self, Bool.false_eq_true, if_false, Decimal.read_eq_placeValue]
  rfl

theorem parseInteger_of_not_writesDigits (none : ∀ sign digits, ¬ WritesDigits token sign digits) :
    parseInteger token = .error (.notInteger token) := by
  obtain ⟨sign, chars, -⟩ := exists_sign (Text.trim token.toList)
  unfold parseInteger
  by_cases wrong : ((splitSign (Text.trim token.toList)).2.isEmpty ||
      !(splitSign (Text.trim token.toList)).2.all Decimal.isDigit) = true
  · exact if_pos wrong
  · simp only [Bool.or_eq_true, Bool.not_eq_true', not_or, Bool.not_eq_false, List.isEmpty_iff,
      List.all_eq_true] at wrong
    obtain ⟨some, all⟩ := wrong
    refine absurd ⟨chars ▸ Text.pads_trim _, ?_, fun char member => ?_⟩ (none sign _)
    · exact List.length_pos_of_ne_nil some
    · exact Decimal.isDigit_iff.mp (all char member)

theorem parseInteger_eq_ok {number : Int} :
    parseInteger token = .ok number ↔ Spells token (integer number) := by
  constructor
  · intro success
    by_cases some : ∃ sign digits, WritesDigits token sign digits
    · obtain ⟨sign, digits, writes⟩ := some
      rw [writes.parseInteger] at success
      split at success
      · cases success
      · rename_i short
        exact ⟨sign, digits, writes, by omega, (Except.ok.inj success).symm⟩
    · simp only [not_exists] at some
      rw [parseInteger_of_not_writesDigits some] at success
      cases success
  · rintro ⟨sign, digits, writes, short, rfl⟩
    rw [writes.parseInteger, if_neg (by omega)]

theorem parseInteger_eq_error {fault : TokenFault} :
    parseInteger token = .error fault ↔ fault.kind = .integer ∧ Misspells token fault := by
  constructor
  · intro failure
    by_cases some : ∃ sign digits, WritesDigits token sign digits
    · obtain ⟨sign, digits, writes⟩ := some
      rw [writes.parseInteger] at failure
      split at failure
      · rename_i long
        obtain rfl := Except.error.inj failure
        exact ⟨rfl, long, sign, digits, writes, rfl⟩
      · cases failure
    · simp only [not_exists] at some
      rw [parseInteger_of_not_writesDigits some] at failure
      obtain rfl := Except.error.inj failure
      exact ⟨rfl, rfl, some⟩
  · rintro ⟨kind, misspelled⟩
    cases fault with
    | notBoolean told => cases kind
    | notInteger told =>
      obtain ⟨rfl, none⟩ := misspelled
      exact parseInteger_of_not_writesDigits none
    | tooManyDigits count =>
      obtain ⟨long, sign, digits, writes, rfl⟩ := misspelled
      rw [writes.parseInteger, if_pos long]

end Numerals

section Outcomes

variable {α : Type} {result : Except TokenFault α} {change : α → Value}

theorem map_eq_ok {value : Value} :
    result.map change = .ok value ↔ ∃ found, result = .ok found ∧ change found = value := by
  cases result <;> simp [Except.map]

theorem map_eq_error {fault : TokenFault} :
    result.map change = .error fault ↔ result = .error fault := by
  cases result <;> simp [Except.map]

end Outcomes

/-- A token is read as the values of a kind that it spells. -/
theorem parse_eq_ok {kind : Kind} {token : String} {value : Value} :
    parse kind token = .ok value ↔ value.kind = kind ∧ Spells token value := by
  cases kind with
  | boolean =>
    simp only [parse, map_eq_ok, parseBoolean_eq_ok]
    cases value <;> simp [Value.kind]
  | integer =>
    simp only [parse, map_eq_ok, parseInteger_eq_ok]
    cases value <;> simp [Value.kind]
  | text => cases value <;> simp [parse, Value.kind, Spells, eq_comm]

/-- A token is refused if it is no way to write a value of the kind. -/
theorem parse_eq_error {kind : Kind} {token : String} {fault : TokenFault} :
    parse kind token = .error fault ↔ fault.kind = kind ∧ Misspells token fault := by
  cases kind with
  | boolean => rw [parse, map_eq_error, parseBoolean_eq_error]
  | integer => rw [parse, map_eq_error, parseInteger_eq_error]
  | text => cases fault <;> simp [parse, TokenFault.kind]

/-- A setting is given the value that a token spells. Any other token is a console error, and
nothing else happens. -/
theorem valueOf_spells {κ : Type} (console : Console κ) (space : Namespace κ) (setting : Setting κ)
    (token : String) :
    (∃ value, value.kind = setting.kind ∧ Spells token value ∧
        valueOf space setting token console = .ok value console) ∨
      (∀ value, value.kind = setting.kind → ¬ Spells token value) ∧
        valueOf space setting token console =
          .error (.console (.badToken (qualify space.name setting.name) setting.kind token))
            console := by
  unfold valueOf
  cases read : parse setting.kind token with
  | ok value =>
    obtain ⟨kind, spelled⟩ := parse_eq_ok.mp read
    exact .inl ⟨value, kind, spelled, rfl⟩
  | error fault =>
    refine .inr ⟨fun value kind spelled => ?_, rfl⟩
    rw [parse_eq_ok.mpr ⟨kind, spelled⟩] at read
    cases read

/-- A literal is one word, which is read as the value again. -/
theorem tokenize_literal {value : Value} (writable : value.isWritable = true) :
    ∃ word, Statement.tokenize value.literal = [word] ∧ parse value.kind word = .ok value := by
  refine ⟨value.token, ?_, parse_token value writable⟩
  rw [Statement.tokenize, tokenizeChars_literal, List.map_singleton, String.ofList_toList]

/-- A token is read as a value exactly if it spells it, and refused exactly for the cause that there
is; at the console, a refusal is always the same console error. The token of a value is read as that
value, and so is the one word that its literal is. -/
theorem parse_grammar :
    (∀ kind token value, parse kind token = .ok value ↔ value.kind = kind ∧ Spells token value) ∧
      (∀ kind token fault, parse kind token = .error fault ↔
        fault.kind = kind ∧ Misspells token fault) ∧
      (∀ {κ : Type} (console : Console κ) (space : Namespace κ) (setting : Setting κ)
          (token : String),
        (∃ value, value.kind = setting.kind ∧ Spells token value ∧
            valueOf space setting token console = .ok value console) ∨
          (∀ value, value.kind = setting.kind → ¬ Spells token value) ∧
            valueOf space setting token console =
              .error (.console (.badToken (qualify space.name setting.name) setting.kind token))
                console) ∧
      ∀ value : Value, value.isWritable = true →
        parse value.kind value.token = .ok value ∧
          ∃ word, Statement.tokenize value.literal = [word] ∧
            parse value.kind word = .ok value := by
  refine ⟨fun _ _ _ => parse_eq_ok, fun _ _ _ => parse_eq_error, valueOf_spells, ?_⟩
  intro value writable
  exact ⟨parse_token value writable, tokenize_literal writable⟩

/-- A sign and leading zeros between blanks, and the least integer that can be written. -/
theorem signed_grammar :
    (Spells "\u2003+0070\t" (integer 70) ∧
        parse .integer "\u2003+0070\t" = .ok (integer 70)) ∧
      (integer (1 - 10 ^ 4300)).isWritable = true ∧
        ∃ word, Statement.tokenize (integer (1 - 10 ^ 4300)).literal = [word] ∧
          parse .integer word = .ok (integer (1 - 10 ^ 4300)) := by
  have spelled : Spells "\u2003+0070\t" (integer 70) := by
    refine ⟨.plus, ['0', '0', '7', '0'], ⟨⟨['\u2003'], ['\t'], rfl, ?_, ?_⟩, by decide, ?_⟩,
      by decide, rfl⟩
    · exact List.forall_mem_singleton.mpr rfl
    · exact List.forall_mem_singleton.mpr rfl
    · have digits : ['0', '0', '7', '0'].all Decimal.isDigit = true := by decide
      exact fun char member => Decimal.isDigit_iff.mp (List.all_eq_true.mp digits char member)
  have writable : (integer (1 - 10 ^ 4300)).isWritable = true := by decide +kernel
  obtain ⟨reads, -, -, writes⟩ := parse_grammar
  exact ⟨⟨spelled, (reads .integer _ _).mpr ⟨rfl, spelled⟩⟩, writable,
    (writes (integer (1 - 10 ^ 4300)) writable).2⟩

end Value

end CommandConsole
