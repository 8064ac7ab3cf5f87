import CommandConsole.Proofs.Statement.Layout
import Mathlib.Data.List.Basic
import Mathlib.Data.List.ModifyLast

set_option autoImplicit false

namespace CommandConsole

namespace Statement

def Segment.isOpen : Segment → Bool
  | bare _ => false
  | quoted _ isClosed => !isClosed

/-- The last segment of the last word is not closed. -/
def Layout.IsOpen (layout : Layout) : Prop :=
  ∃ word ∈ layout.words.getLast?, ∃ segment ∈ word.segments.getLast?, segment.isOpen = true

/-- A line leaves quotes open if it ends between them. -/
def LeavesOpen (line : List Char) : Prop :=
  ∃ layout : Layout, layout.Fits line ∧ layout.IsOpen

theorem Layout.Fits.leavesOpen_iff {layout : Layout} {line : List Char} (fits : layout.Fits line) :
    LeavesOpen line ↔ layout.IsOpen := by
  constructor
  · rintro ⟨other, otherFits, isOpen⟩
    exact fits.unique otherFits ▸ isOpen
  · intro isOpen
    exact ⟨layout, fits, isOpen⟩

/-- The layout of a line with one segment last. -/
def lasting (front : List Word) (blanks : List Char) (segments : List Segment)
    (segment : Segment) (trailing : List Char) : Layout :=
  ⟨front ++ [⟨blanks, segments ++ [segment]⟩], trailing⟩

namespace Item

theorem text_others (chars : List Char) : spelling.text (chars.map .other) = chars := by
  simp [Spelling.text, spelling, List.flatMap_map]

/-- A blank is no mark of an escape, so that a backslash before it still escapes nothing. -/
theorem fits_blank {item : Item} (fits : spelling.Fits item none) {char : Char}
    (blank : Text.isBlank char = true) : spelling.Fits item (some char) := by
  cases item with
  | escape escape => trivial
  | other char => exact fits
  | backslash =>
    intro escape marked
    rw [Option.some.inj marked] at blank
    cases escape <;> exact absurd blank (by decide)

/-- Items at the end of a line can go on with blanks. -/
theorem inSequence_blanks {items : List Item} {trailing : List Char}
    (blank : ∀ char ∈ trailing, Text.isBlank char = true)
    (inside : spelling.InSequence items none) :
    spelling.InSequence (items ++ trailing.map .other) none := by
  have others : ∀ item ∈ trailing.map Item.other, ∀ next, spelling.Fits item next := by
    intro item member next
    obtain ⟨char, isTrailing, rfl⟩ := List.mem_map.mp member
    have isBlank := blank char isTrailing
    constructor
    · rintro rfl
      exact absurd isBlank (by decide)
    · rintro rfl
      exact absurd isBlank (by decide)
  rw [Spelling.inSequence_append, Option.or_none, text_others]
  refine ⟨?_, Spelling.inSequence_of_forall others none⟩
  cases trailing with
  | nil => exact inside
  | cons char rest => exact inside.change fun item fits => fits_blank fits (blank char (by simp))

end Item

section Last

variable {front : List Word} {blanks : List Char} {segments : List Segment} {segment : Segment}
  {trailing : List Char}

theorem isOpen_lasting :
    (lasting front blanks segments segment trailing).IsOpen ↔ segment.isOpen = true := by
  simp [Layout.IsOpen, lasting]

theorem chars_lasting :
    Word.spelling.text (lasting front blanks segments segment trailing).words =
      Word.spelling.text front ++
        (blanks ++ (Segment.spelling.text segments ++ Segment.spelling.chars segment)) := by
  simp [lasting, Spelling.text, Word.spelling]

theorem meanings_lasting :
    (lasting front blanks segments segment trailing).meanings =
      front.map Word.meaning ++ [segments.flatMap Segment.meaning ++ segment.meaning] := by
  simp [lasting, Layout.meanings, Word.meaning]

/-- The words before the last segment, and the segments before it, see only its first
character. -/
theorem inSequence_lasting {next : Option Char} :
    Word.spelling.InSequence (front ++ [⟨blanks, segments ++ [segment]⟩]) next ↔
      (∀ char ∈ blanks, Text.isBlank char = true) ∧ (∀ char ∈ next, Text.isBlank char = true) ∧
        Segment.spelling.Fits segment next ∧
        Segment.spelling.InSequence segments ((Segment.spelling.chars segment).head?.or next) ∧
        Word.spelling.InSequence front ((blanks ++ (Segment.spelling.text segments ++
          Segment.spelling.chars segment)).head?.or next) := by
  have chars : Word.spelling.chars ⟨blanks, segments ++ [segment]⟩ =
      blanks ++ (Segment.spelling.text segments ++ Segment.spelling.chars segment) := by
    simp only [Word.spelling, Spelling.text_append, Spelling.text_singleton]
  have inside : Segment.spelling.InSequence (segments ++ [segment]) next ↔
      Segment.spelling.InSequence segments ((Segment.spelling.chars segment).head?.or next) ∧
        Segment.spelling.Fits segment next := by
    rw [Spelling.inSequence_append, Spelling.text_singleton, Spelling.inSequence_singleton]
  rw [Spelling.inSequence_append, Spelling.text_singleton, Spelling.inSequence_singleton, chars]
  constructor
  · rintro ⟨before, blank, -, within, stops⟩
    obtain ⟨former, fits⟩ := inside.mp within
    exact ⟨blank, stops, fits, former, before⟩
  · rintro ⟨blank, stops, fits, former, before⟩
    exact ⟨before, blank, by simp, inside.mpr ⟨former, fits⟩, stops⟩

/-- A line that does not end with a blank ends with a segment. -/
theorem Layout.Fits.exists_lasting {layout : Layout} {line : List Char} (fits : layout.Fits line)
    (begun : line ≠ []) (inked : ∀ char ∈ line.getLast?, Text.isBlank char = false) :
    ∃ front blanks segments segment, layout = lasting front blanks segments segment [] := by
  obtain ⟨words, trailing⟩ := layout
  have ended : trailing = [] := by
    by_contra left
    have isLast : line.getLast? = some (trailing.getLast left) := by
      rw [fits.chars, List.getLast?_append, List.getLast?_eq_some_getLast left, Option.some_or]
    have blank := fits.trailing _ (List.getLast_mem left)
    rw [inked _ isLast] at blank
    cases blank
  subst ended
  have worded : words ≠ [] := by
    rintro rfl
    exact begun fits.chars
  obtain ⟨front, ⟨blanks, segments⟩, rfl⟩ := (List.eq_nil_or_concat' words).resolve_left worded
  obtain ⟨-, ⟨-, segmented, -⟩, -⟩ := Spelling.inSequence_append.mp fits.words
  obtain ⟨others, segment, rfl⟩ := (List.eq_nil_or_concat' segments).resolve_left segmented
  exact ⟨front, blanks, others, segment, rfl⟩

/-- The last segment can be exchanged for one that begins the same, with blanks behind it. -/
theorem Layout.Fits.exchange {line : List Char}
    (fits : (lasting front blanks segments segment []).Fits line) {other : Segment}
    (same : (Segment.spelling.chars other).head? = (Segment.spelling.chars segment).head?)
    (otherFits : Segment.spelling.Fits other trailing.head?)
    (blank : ∀ char ∈ trailing, Text.isBlank char = true) :
    (lasting front blanks segments other trailing).Fits
      (Word.spelling.text (lasting front blanks segments other trailing).words ++ trailing) := by
  obtain ⟨leading, -, fits, former, before⟩ := inSequence_lasting.mp fits.words
  obtain ⟨char, chars, isChars, -⟩ := Segment.exists_first fits
  have first : (Segment.spelling.chars segment).head? = some char := by
    rw [isChars, List.head?_cons]
  refine ⟨rfl, inSequence_lasting.mpr ⟨leading, ?_, otherFits, ?_, ?_⟩, blank⟩
  · exact fun char member => blank char (List.mem_of_mem_head? member)
  · rw [first] at former
    rw [same, first]
    exact former
  · rw [List.head?_append, List.head?_append, first] at before
    rw [List.head?_append, List.head?_append, same, first]
    simpa using before

variable {line : List Char} (blank : ∀ char ∈ trailing, Text.isBlank char = true)

include blank

/-- Blanks behind a segment that is not open are blanks behind the last word. -/
theorem Layout.Fits.behind_closed (fits : (lasting front blanks segments segment []).Fits line)
    (closed : segment.isOpen = false) :
    (lasting front blanks segments segment trailing).Fits (line ++ trailing) := by
  obtain ⟨-, -, segmentFits, -⟩ := inSequence_lasting.mp fits.words
  have stillFits : Segment.spelling.Fits segment trailing.head? := by
    cases segment with
    | bare chars =>
      refine ⟨segmentFits.1, segmentFits.2.1, fun char member => ?_⟩
      exact isBare_eq_false_iff.mpr (.inr (blank char (List.mem_of_mem_head? member)))
    | quoted items isClosed =>
      cases isClosed with
      | true => exact segmentFits
      | false => cases closed
  have exchanged := fits.exchange rfl stillFits blank
  have chars : line = Word.spelling.text (lasting front blanks segments segment trailing).words :=
    fits.chars.trans (List.append_nil _)
  rw [chars]
  exact exchanged

/-- Blanks behind items that are not closed are items too. -/
theorem Layout.Fits.behind_open {items : List Item}
    (fits : (lasting front blanks segments (.quoted items false) []).Fits line) :
    (lasting front blanks segments (.quoted (items ++ trailing.map .other) false) []).Fits
      (line ++ trailing) := by
  obtain ⟨-, -, ⟨inside, -⟩, -⟩ := inSequence_lasting.mp fits.words
  have together := Item.inSequence_blanks blank inside
  have first : (Segment.spelling.chars (.quoted (items ++ trailing.map .other) false)).head? =
      (Segment.spelling.chars (.quoted items false)).head? := rfl
  have exchanged := fits.exchange first ⟨together, List.head?_nil⟩ (by simp)
  have chars : line ++ trailing = Word.spelling.text
      (lasting front blanks segments (.quoted (items ++ trailing.map .other) false) []).words ++
        [] := by
    rw [fits.chars, chars_lasting, chars_lasting]
    simp [Segment.spelling, Spelling.text_append, Item.text_others, lasting]
  rw [chars]
  exact exchanged

end Last

section Line

variable {line : List Char} (begun : line ≠ [])
  (inked : ∀ char ∈ line.getLast?, Text.isBlank char = false)

include begun inked

/-- Blanks behind a line are part of its last word if the line leaves quotes open, and part of no
word otherwise. -/
theorem tokenizeChars_append_blanks {trailing : List Char}
    (blank : ∀ char ∈ trailing, Text.isBlank char = true) :
    (¬ LeavesOpen line → tokenizeChars (line ++ trailing) = tokenizeChars line) ∧
      (LeavesOpen line →
        tokenizeChars (line ++ trailing) = (tokenizeChars line).modifyLast (· ++ trailing)) := by
  obtain ⟨layout, fits⟩ := Layout.exists_fits line
  obtain ⟨front, blanks, segments, segment, rfl⟩ := fits.exists_lasting begun inked
  rw [fits.leavesOpen_iff, isOpen_lasting, fits.tokenizeChars, meanings_lasting,
    List.modifyLast_concat]
  constructor
  · intro closed
    rw [Bool.not_eq_true] at closed
    rw [(fits.behind_closed blank closed).tokenizeChars, meanings_lasting]
  · intro isOpen
    cases segment with
    | bare chars => cases isOpen
    | quoted items isClosed =>
      obtain rfl : isClosed = false := by simpa [Segment.isOpen] using isOpen
      rw [(fits.behind_open blank).tokenizeChars, meanings_lasting]
      simp [Segment.meaning, Function.comp_def, Item.meaning]

/-- A line leaves quotes open exactly if a blank behind it makes other words. -/
theorem leavesOpen_iff_append_blank :
    LeavesOpen line ↔ tokenizeChars (line ++ [' ']) ≠ tokenizeChars line := by
  have blank : ∀ char ∈ [' '], Text.isBlank char = true :=
    List.forall_mem_singleton.mpr (by decide)
  obtain ⟨outside, inside⟩ := tokenizeChars_append_blanks begun inked blank
  constructor
  · intro isOpen
    obtain ⟨layout, fits⟩ := Layout.exists_fits line
    obtain ⟨front, blanks, segments, segment, rfl⟩ := fits.exists_lasting begun inked
    rw [inside isOpen, fits.tokenizeChars, meanings_lasting, List.modifyLast_concat]
    simp
  · intro other
    by_contra closed
    exact other (outside closed)

end Line

end Statement

end CommandConsole
