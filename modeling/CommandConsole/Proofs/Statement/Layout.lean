import CommandConsole.Proofs.Statement.Grammar
import CommandConsole.Proofs.Statement.Quoting

set_option autoImplicit false

namespace CommandConsole

namespace Statement

/-- The words of a line, each with the blanks before it, and the blanks behind the last. A line
without words is all blanks behind. -/
structure Layout where
  words : List Word
  trailing : List Char

namespace Layout

def meanings (layout : Layout) : List (List Char) :=
  layout.words.map Word.meaning

/-- A line is laid out as words that fit, each before the next, and blanks behind them. -/
structure Fits (layout : Layout) (line : List Char) : Prop where
  chars : line = Word.spelling.text layout.words ++ layout.trailing
  words : Word.spelling.InSequence layout.words layout.trailing.head?
  trailing : ∀ char ∈ layout.trailing, Text.isBlank char = true

theorem exists_fits (line : List Char) : ∃ layout : Layout, layout.Fits line := by
  obtain ⟨words, trailing, chars, inSequence, stops⟩ := Word.isExact.exists_parts line
  exact ⟨⟨words, trailing⟩, chars, inSequence, stops⟩

theorem Fits.unique {first second : Layout} {line : List Char} (fits : first.Fits line)
    (otherFits : second.Fits line) : first = second := by
  obtain ⟨words, trailing⟩ := Word.isExact.unique fits.words otherFits.words fits.trailing
    otherFits.trailing (fits.chars.symm.trans otherFits.chars)
  cases first
  cases second
  simp only at words trailing
  rw [words, trailing]

end Layout

/-- An item between quotes belongs to the open word as what it means. -/
theorem readQuoted_item (word : List Char) (item : Item) (rest : List Char)
    (fits : Item.spelling.Fits item rest.head?) :
    readQuoted (some word) (Item.spelling.chars item ++ rest) =
      readQuoted (some (word ++ [item.meaning])) rest := by
  cases item with
  | escape kind =>
    change readQuoted (some word) ('\\' :: kind.mark :: rest) = _
    rw [readQuoted, if_neg (by decide), if_pos rfl, readEscape, escaped?_mark]
    rfl
  | backslash =>
    change readQuoted (some word) ('\\' :: rest) = _
    rw [readQuoted, if_neg (by decide), if_pos rfl]
    cases rest with
    | nil => rfl
    | cons char rest =>
      have unmarked : ∀ escape : Escape, char ≠ escape.mark := fun escape same =>
        fits escape (congrArg some same)
      have unquoted : char ≠ '"' := unmarked .doubleQuote
      have single : char ≠ '\\' := unmarked .backslash
      rw [readEscape, escaped?_eq_none unmarked, readQuoted, if_neg unquoted, if_neg single]
      simp [grow, Item.meaning]
  | other char =>
    change readQuoted (some word) (char :: rest) = _
    rw [readQuoted, if_neg fits.1, if_neg fits.2]
    rfl

/-- A segment belongs to the open word, which it begins if there is none. -/
theorem readPlain_segment (open? : Option (List Char)) (segment : Segment) (rest : List Char)
    (fits : Segment.spelling.Fits segment rest.head?) :
    readPlain open? (Segment.spelling.chars segment ++ rest) =
      readPlain (some (open?.getD [] ++ segment.meaning)) rest := by
  cases segment with
  | bare chars =>
    exact readPlain_append (fun char member => isBare_iff.mp (fits.2.1 char member)) open? rest
      fits.1
  | quoted items isClosed =>
    obtain ⟨inSequence, ends⟩ := Segment.fits_quoted.mp fits
    have items := inSequence.read readQuoted_item (open?.getD [] ++ [])
    rw [Segment.chars_quoted, readPlain, if_pos rfl]
    refine items.trans ?_
    rw [List.append_nil, ← List.map_eq_flatMap]
    -- Quotes that stay open go on to the end of the line.
    cases isClosed with
    | true => rw [Segment.behind, if_pos rfl, readQuoted, if_pos rfl]; rfl
    | false =>
      obtain rfl := ends rfl
      rfl

theorem readPlain_segments {segments : List Segment} {rest : List Char}
    (inSequence : Segment.spelling.InSequence segments rest.head?) (begun : segments ≠ []) :
    readPlain none (Segment.spelling.text segments ++ rest) =
      readPlain (some (segments.flatMap Segment.meaning)) rest := by
  obtain ⟨segment, others, rfl⟩ := List.exists_cons_of_ne_nil begun
  obtain ⟨fits, behind⟩ := Spelling.inSequence_cons.mp inSequence
  rw [Spelling.text_cons, readPlain_segment none segment _ fits]
  exact behind.read (fun word => readPlain_segment (some word)) segment.meaning

theorem readPlain_ended {rest : List Char}
    (ends : ∀ char ∈ rest.head?, Text.isBlank char = true) (word : List Char) :
    readPlain (some word) rest = word :: readPlain none rest := by
  cases rest with
  | nil => rfl
  | cons char rest =>
    have blank : ∀ other ∈ [char], Text.isBlank other = true := by
      intro other member
      exact List.mem_singleton.mp member ▸ ends char rfl
    have after := readPlain_blanks_after (List.cons_ne_nil char []) blank word rest
    have skipped := readPlain_blanks blank rest
    rw [List.singleton_append] at after skipped
    rw [after, skipped]

/-- Words are read as what they mean, and the blanks around them as nothing. -/
theorem readPlain_words {words : List Word} {trailing : List Char}
    (inSequence : Word.spelling.InSequence words trailing.head?)
    (blank : ∀ char ∈ trailing, Text.isBlank char = true) :
    readPlain none (Word.spelling.text words ++ trailing) = words.map Word.meaning := by
  induction words with
  | nil =>
    have read := readPlain_blanks blank []
    rw [List.append_nil] at read
    exact read
  | cons word words ih =>
    obtain ⟨⟨blanks, begun, segments, stops⟩, behind⟩ := Spelling.inSequence_cons.mp inSequence
    rw [Spelling.text_cons, Word.chars_append, readPlain_blanks blanks,
      readPlain_segments segments begun, readPlain_ended stops, ih behind]
    rfl

theorem Layout.Fits.tokenizeChars {layout : Layout} {line : List Char} (fits : layout.Fits line) :
    tokenizeChars line = layout.meanings := by
  rw [Statement.tokenizeChars, fits.chars]
  exact readPlain_words fits.words fits.trailing

/-- Every line is laid out in exactly one way, and its words are what that layout says. -/
theorem tokenize_layout (line : String) :
    (∃! layout : Layout, layout.Fits line.toList) ∧
      ∀ layout : Layout, layout.Fits line.toList →
        tokenize line = layout.meanings.map String.ofList := by
  constructor
  · obtain ⟨layout, fits⟩ := Layout.exists_fits line.toList
    exact ⟨layout, fits, fun other otherFits => otherFits.unique fits⟩
  · intro layout fits
    rw [tokenize, fits.tokenizeChars]

/-- Quotes glued to other segments, empty quotes, lone backslashes, and quotes left open. -/
example : tokenize " a\"b c\"d\u2003\"\" \"x\\y\\\"\" \\n \"z\\" =
    ["ab cd", "", "x\\y\"", "\\n", "z\\"] := by decide +kernel

end Statement

end CommandConsole
