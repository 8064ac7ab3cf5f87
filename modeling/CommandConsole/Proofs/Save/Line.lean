import CommandConsole.Proofs.Value.Token
import CommandConsole.Statement

set_option autoImplicit false

namespace CommandConsole

namespace Statement

/-- Characters that are neither blank nor a double quote belong to the open word. -/
theorem readPlain_append {word : List Char}
    (plain : ∀ char ∈ word, char ≠ '"' ∧ Text.isBlank char = false) (open? : Option (List Char))
    (rest : List Char) (begun : word ≠ []) :
    readPlain open? (word ++ rest) = readPlain (grow open? word) rest := by
  induction word generalizing open? with
  | nil => exact absurd rfl begun
  | cons char word ih =>
    obtain ⟨unquoted, inked⟩ := plain char List.mem_cons_self
    rw [List.cons_append, readPlain, if_neg unquoted, inked]
    simp only [Bool.false_eq_true, if_false]
    cases word with
    | nil => rfl
    | cons next word =>
      rw [ih (fun other member => plain other (List.mem_cons_of_mem _ member)) _ (by simp)]
      simp [grow]

theorem readQuoted_escape (word : List Char) (char : Char) (rest : List Char) :
    readQuoted (some word) (escape char ++ rest) = readQuoted (some (word ++ [char])) rest := by
  by_cases backslash : char = '\\'
  · subst backslash
    simp [escape, readQuoted, readEscape, escaped?, grow]
  by_cases mark : char = '"'
  · subst mark
    simp [escape, readQuoted, readEscape, escaped?, grow]
  by_cases feed : char = '\n'
  · subst feed
    simp [escape, readQuoted, readEscape, escaped?, grow]
  by_cases carriage : char = '\r'
  · subst carriage
    simp [escape, readQuoted, readEscape, escaped?, grow]
  simp [escape, readQuoted, grow, backslash, mark, feed, carriage]

theorem readQuoted_escaped (word chars rest : List Char) :
    readQuoted (some word) (chars.flatMap escape ++ rest) =
      readQuoted (some (word ++ chars)) rest := by
  induction chars generalizing word with
  | nil => simp
  | cons char chars ih =>
    rw [List.flatMap_cons, List.append_assoc, readQuoted_escape, ih]
    simp

theorem readPlain_quoteChars (chars rest : List Char) :
    readPlain none (quoteChars chars ++ rest) = readPlain (some chars) rest := by
  rw [quoteChars, List.cons_append, List.cons_append, readPlain, if_pos rfl, List.append_assoc]
  refine (readQuoted_escaped [] chars _).trans ?_
  simp [readQuoted]

theorem tokenizeChars_quoteChars (chars : List Char) :
    tokenizeChars (quoteChars chars) = [chars] := by
  have read := readPlain_quoteChars chars []
  rw [List.append_nil] at read
  rw [tokenizeChars, read]
  rfl

theorem tokenizeChars_cons {word : List Char} (begun : word ≠ [])
    (plain : ∀ char ∈ word, char ≠ '"' ∧ Text.isBlank char = false) (rest : List Char) :
    tokenizeChars (word ++ ' ' :: rest) = word :: tokenizeChars rest := by
  rw [tokenizeChars, readPlain_append plain none _ begun, readPlain, if_neg (by decide),
    if_pos (by decide)]
  rfl

theorem tokenizeChars_word {word : List Char} (begun : word ≠ [])
    (plain : ∀ char ∈ word, char ≠ '"' ∧ Text.isBlank char = false) :
    tokenizeChars word = [word] := by
  have read := readPlain_append plain none [] begun
  rw [List.append_nil] at read
  rw [tokenizeChars, read]
  simp [readPlain, grow, close]

end Statement

/-- Whether a text holds neither a blank nor a double quote. -/
def Text.isPlain (text : String) : Bool :=
  text.toList.all fun char => char != '"' && !isBlank char

theorem Text.isPlain_iff {text : String} :
    isPlain text = true ↔ ∀ char ∈ text.toList, char ≠ '"' ∧ isBlank char = false := by
  simp [isPlain]

namespace Value

theorem isPlain_ofInt (number : Int) : Text.isPlain (Decimal.ofInt number) = true := by
  have digits : ∀ char ∈ Decimal.digits number.natAbs, char ≠ '"' ∧ Text.isBlank char = false := by
    intro char member
    have digit := Decimal.isDigit_of_mem_digits _ char member
    exact ⟨Decimal.ne_of_isDigit digit (by decide), Decimal.isBlank_of_isDigit digit⟩
  rw [Text.isPlain_iff, Decimal.ofInt, String.toList_ofList]
  split
  · intro char member
    rcases List.mem_cons.mp member with rfl | member
    · decide
    · exact digits char member
  · exact digits

theorem ofInt_ne_empty (number : Int) : (Decimal.ofInt number).toList ≠ [] := by
  rw [Decimal.ofInt, String.toList_ofList]
  split
  · exact List.cons_ne_nil _ _
  · exact Decimal.digits_ne_nil _

/-- A value that is no text has a plain literal. -/
theorem literal_cases (value : Value) :
    (∃ content, value = .text content) ∨
      value.literal = value.token ∧ Text.isPlain value.literal ∧ value.literal.toList ≠ [] := by
  cases value with
  | boolean truth => exact .inr ⟨rfl, by cases truth <;> decide +kernel, by cases truth <;> decide⟩
  | integer number => exact .inr ⟨rfl, isPlain_ofInt number, ofInt_ne_empty number⟩
  | text content => exact .inl ⟨content, rfl⟩

/-- The literal of a value is read as one word, which is its token. -/
theorem tokenizeChars_literal (value : Value) :
    Statement.tokenizeChars value.literal.toList = [value.token.toList] := by
  rcases value.literal_cases with ⟨content, rfl⟩ | ⟨same, plain, begun⟩
  · simp only [literal, quote, String.toList_ofList, token]
    exact Statement.tokenizeChars_quoteChars _
  · rw [Statement.tokenizeChars_word begun (Text.isPlain_iff.mp plain), same]

/-- A literal does not end with a blank. -/
theorem exists_append_literal (value : Value) :
    ∃ chars char, value.literal.toList = chars ++ [char] ∧ Text.isBlank char = false := by
  rcases value.literal_cases with ⟨content, rfl⟩ | ⟨-, plain, begun⟩
  · exact ⟨'"' :: content.toList.flatMap escape, '"', by simp [literal, quote, quoteChars],
      by decide⟩
  · refine ⟨_, _, (List.dropLast_concat_getLast begun).symm, ?_⟩
    exact (Text.isPlain_iff.mp plain _ (List.getLast_mem begun)).2

theorem lineBreak_notMem_escape {mark : Char} (isBreak : mark = '\n' ∨ mark = '\r') (char : Char) :
    mark ∉ escape char := by
  intro member
  unfold escape at member
  split at member
  · rcases isBreak with rfl | rfl <;> simp at member
  · split at member
    · rcases isBreak with rfl | rfl <;> simp at member
    · split at member
      · rcases isBreak with rfl | rfl <;> simp at member
      · split at member
        · rcases isBreak with rfl | rfl <;> simp at member
        · rename_i noFeed noReturn
          obtain rfl := List.mem_singleton.mp member
          exact isBreak.elim noFeed noReturn

theorem lineBreak_notMem_quote {mark : Char} (isBreak : mark = '\n' ∨ mark = '\r')
    (text : String) : mark ∉ (quote text).toList := by
  have noQuote : mark ≠ '"' := by rcases isBreak with rfl | rfl <;> decide
  intro member
  rw [quote, String.toList_ofList, quoteChars, List.mem_append, List.mem_cons,
    List.mem_flatMap] at member
  rcases member with (opening | ⟨char, -, inside⟩) | closing
  · exact noQuote opening
  · exact lineBreak_notMem_escape isBreak char inside
  · exact noQuote (List.mem_singleton.mp closing)

theorem lineFeed_notMem_literal (value : Value) : '\n' ∉ value.literal.toList := by
  rcases value.literal_cases with ⟨content, rfl⟩ | ⟨-, plain, begun⟩
  · exact lineBreak_notMem_quote (.inl rfl) content
  · intro member
    exact absurd (Text.isPlain_iff.mp plain _ member).2 (by decide)

end Value

def savedLine (name : String) (value : Value) : String :=
  name ++ " " ++ value.literal

theorem toList_savedLine (name : String) (value : Value) :
    (savedLine name value).toList = name.toList ++ ' ' :: value.literal.toList := by
  simp [savedLine]

theorem lineFeed_notMem_savedLine {name : String} (plain : Text.isPlain name) (value : Value) :
    '\n' ∉ (savedLine name value).toList := by
  rw [toList_savedLine, List.mem_append, List.mem_cons]
  rintro (inName | blank | inLiteral)
  · exact absurd (Text.isPlain_iff.mp plain _ inName).2 (by decide)
  · exact absurd blank (by decide)
  · exact value.lineFeed_notMem_literal inLiteral

/-- A saved line is a comment only where its name begins as one. -/
theorem startsWith_savedLine {name : String} (begun : name ≠ "") (value : Value) :
    (savedLine name value).startsWith "#" = name.startsWith "#" := by
  obtain ⟨head, rest, isName⟩ := List.exists_cons_of_ne_nil (mt String.toList_eq_nil_iff.mp begun)
  rw [Bool.eq_iff_iff, String.startsWith_string_iff, String.startsWith_string_iff,
    toList_savedLine, isName]
  simp

section SavedLine

variable {name : String} (plain : Text.isPlain name) (begun : name ≠ "") (value : Value)

include plain begun

/-- The words of a saved line are the name and the token of the value. -/
theorem parse_savedLine : Statement.parse (savedLine name value) = ⟨[name, value.token]⟩ := by
  have some : name.toList ≠ [] := mt String.toList_eq_nil_iff.mp begun
  rw [Statement.parse, Statement.tokenize, toList_savedLine,
    Statement.tokenizeChars_cons some (Text.isPlain_iff.mp plain), value.tokenizeChars_literal]
  simp

/-- There is no blank around a saved line. -/
theorem strip_savedLine : Text.strip (savedLine name value) = savedLine name value := by
  have trimmed : Text.trim (savedLine name value).toList = (savedLine name value).toList := by
    obtain ⟨head, rest, isName⟩ :=
      List.exists_cons_of_ne_nil (mt String.toList_eq_nil_iff.mp begun)
    obtain ⟨chars, last, isLiteral, inked⟩ := value.exists_append_literal
    rw [toList_savedLine, isName, isLiteral]
    refine Text.trim_eq_self (fun char first => ?_) fun char final => ?_
    · obtain rfl : head = char := by simpa using first
      exact (Text.isPlain_iff.mp plain head (isName ▸ List.mem_cons_self)).2
    · obtain rfl : last = char := by simpa [List.getLast?_cons, List.getLast?_append] using final
      exact inked
  rw [Text.strip, trimmed, String.ofList_toList]

end SavedLine

namespace Text

/-- The pieces on both sides of a cut are those of the two sides. -/
theorem splitBy_append_cons {cut : Char → Bool} {char : Char} (isCut : cut char = true)
    (first rest : List Char) :
    splitBy cut (first ++ char :: rest) = splitBy cut first ++ splitBy cut rest := by
  induction first with
  | nil =>
    obtain ⟨piece, pieces, isSplit⟩ := List.exists_cons_of_ne_nil (splitBy_ne_nil cut rest)
    simp [splitBy, isSplit, isCut]
  | cons head first ih =>
    obtain ⟨piece, pieces, isSplit⟩ := List.exists_cons_of_ne_nil (splitBy_ne_nil cut first)
    rw [List.cons_append, splitBy, ih, splitBy, isSplit]
    cases cut head <;> simp

theorem splitBy_uncut {cut : Char → Bool} {piece : List Char}
    (uncut : ∀ char ∈ piece, cut char = false) : splitBy cut piece = [piece] := by
  induction piece with
  | nil => rfl
  | cons head piece ih =>
    rw [splitBy, ih fun char member => uncut char (List.mem_cons_of_mem _ member)]
    simp [uncut head List.mem_cons_self]

theorem lines_append (first rest : String) :
    lines (first ++ "\n" ++ rest) = lines first ++ lines rest := by
  have chars : (first ++ "\n" ++ rest).toList = first.toList ++ '\n' :: rest.toList := by simp
  rw [lines, chars, splitBy_append_cons rfl, List.map_append]
  rfl

theorem lines_of_single {text : String} (single : '\n' ∉ text.toList) : lines text = [text] := by
  have uncut : ∀ char ∈ text.toList, (char == '\n') = false := fun char member =>
    beq_false_of_ne fun same => single (same ▸ member)
  rw [lines, splitBy_uncut uncut, List.map_singleton, String.ofList_toList]

/-- The lines of joined lines: the last line feed begins one more line. -/
theorem lines_join {texts : List String} (single : ∀ text ∈ texts, '\n' ∉ text.toList) :
    lines (String.join (texts.map (· ++ "\n"))) = texts ++ [""] := by
  induction texts with
  | nil => rfl
  | cons text texts ih =>
    have rest := ih fun other member => single other (List.mem_cons_of_mem _ member)
    rw [List.map_cons, String.join_cons, lines_append, rest,
      lines_of_single (single text List.mem_cons_self)]
    rfl

end Text

end CommandConsole
