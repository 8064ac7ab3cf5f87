import CommandConsole.Proofs.Statement.Spelling
import CommandConsole.Statement

set_option autoImplicit false

/-!
The grammar of words. A word is made of segments outside quotes and between quotes, and a quoted
segment is made of items. Main statement: neither items nor segments nor words leave a choice
(`Item.isExact`, `Segment.isExact`, `Word.isExact`).
-/
namespace CommandConsole

namespace Statement

inductive Escape
  | doubleQuote
  | backslash
  | lineFeed
  | carriageReturn

def Escape.mark : Escape → Char
  | doubleQuote => '"'
  | backslash => '\\'
  | lineFeed => 'n'
  | carriageReturn => 'r'

def Escape.meaning : Escape → Char
  | doubleQuote => '"'
  | backslash => '\\'
  | lineFeed => '\n'
  | carriageReturn => '\r'

theorem Escape.mark_injective {first second : Escape} (same : first.mark = second.mark) :
    first = second := by
  cases first <;> cases second <;> first | rfl | exact absurd same (by decide)

theorem escaped?_mark (escape : Escape) : escaped? escape.mark = some escape.meaning := by
  cases escape <;> rfl

theorem escaped?_eq_none {char : Char} (unmarked : ∀ escape : Escape, char ≠ escape.mark) :
    escaped? char = none := by
  unfold escaped?
  split
  · exact absurd rfl (unmarked .doubleQuote)
  · exact absurd rfl (unmarked .backslash)
  · exact absurd rfl (unmarked .lineFeed)
  · exact absurd rfl (unmarked .carriageReturn)
  · rfl

/-- What stands between quotes: an escape, a backslash that escapes nothing, or any other
character. -/
inductive Item
  | escape (kind : Escape)
  | backslash
  | other (char : Char)

namespace Item

def meaning : Item → Char
  | escape kind => kind.meaning
  | backslash => '\\'
  | other char => char

/-- A backslash escapes nothing unless one of the four marks follows it. -/
def spelling : Spelling Item where
  chars
    | escape kind => ['\\', kind.mark]
    | backslash => ['\\']
    | other char => [char]
  Fits
    | escape _, _ => True
    | backslash, next => ∀ escape : Escape, next ≠ some escape.mark
    | other char, _ => char ≠ '"' ∧ char ≠ '\\'

/-- Items go on up to a double quote or the end of the line. -/
def Stops (text : List Char) : Prop :=
  ∀ char ∈ text.head?, char = '"'

theorem begins (text : List Char) :
    Stops text ∨ ∃ item rest, text = spelling.chars item ++ rest ∧
      spelling.Fits item rest.head? ∧ rest.length < text.length := by
  cases text with
  | nil => exact .inl fun char first => by cases first
  | cons char rest =>
    by_cases isQuote : char = '"'
    · exact .inl fun first isFirst => by cases isFirst; exact isQuote
    by_cases isBackslash : char = '\\'
    · subst isBackslash
      by_cases escapes : ∃ escape : Escape, rest.head? = some escape.mark
      · obtain ⟨escape, marked⟩ := escapes
        obtain ⟨behind, rfl⟩ := List.head?_eq_some_iff.mp marked
        exact .inr ⟨.escape escape, behind, rfl, trivial, by simp only [List.length_cons]; omega⟩
      · exact .inr ⟨.backslash, rest, rfl, fun escape marked => escapes ⟨escape, marked⟩,
          Nat.lt_succ_self _⟩
    · exact .inr ⟨.other char, rest, rfl, ⟨isQuote, isBackslash⟩, Nat.lt_succ_self _⟩

theorem single {first second : Item} {rest last : List Char}
    (fits : spelling.Fits first rest.head?) (otherFits : spelling.Fits second last.head?)
    (same : spelling.chars first ++ rest = spelling.chars second ++ last) :
    first = second ∧ rest = last := by
  cases first with
  | escape escape =>
    cases second with
    | escape other =>
      have marks : escape.mark = other.mark ∧ rest = last := by simpa [spelling] using same
      exact ⟨congrArg Item.escape (Escape.mark_injective marks.1), marks.2⟩
    | backslash =>
      have marked : last = escape.mark :: rest := by simpa [spelling] using same.symm
      exact absurd (congrArg List.head? marked) (otherFits escape)
    | other char =>
      have isBackslash : char = '\\' := by simpa [spelling] using (congrArg List.head? same).symm
      exact absurd isBackslash otherFits.2
  | backslash =>
    cases second with
    | escape other =>
      have marked : rest = other.mark :: last := by simpa [spelling] using same
      exact absurd (congrArg List.head? marked) (fits other)
    | backslash => exact ⟨rfl, by simpa [spelling] using same⟩
    | other char =>
      have isBackslash : char = '\\' := by simpa [spelling] using (congrArg List.head? same).symm
      exact absurd isBackslash otherFits.2
  | other char =>
    cases second with
    | escape other =>
      have isBackslash : char = '\\' := by simpa [spelling] using congrArg List.head? same
      exact absurd isBackslash fits.2
    | backslash =>
      have isBackslash : char = '\\' := by simpa [spelling] using congrArg List.head? same
      exact absurd isBackslash fits.2
    | other second =>
      have equal : char = second ∧ rest = last := by simpa [spelling] using same
      exact ⟨congrArg Item.other equal.1, equal.2⟩

theorem isExact : spelling.IsExact Stops where
  begins := begins
  single _ _ _ _ := single
  goesOn item rest fits stops := by
    cases item with
    | escape escape => exact absurd (stops '\\' rfl) (by decide)
    | backslash => exact absurd (stops '\\' rfl) (by decide)
    | other char => exact fits.1 (stops char rfl)

end Item

def isBare (char : Char) : Bool :=
  char != '"' && !Text.isBlank char

theorem isBare_iff {char : Char} :
    isBare char = true ↔ char ≠ '"' ∧ Text.isBlank char = false := by
  simp [isBare]

theorem isBare_eq_false_iff {char : Char} :
    isBare char = false ↔ char = '"' ∨ Text.isBlank char = true := by
  simp [isBare, imp_iff_not_or]

/-- A part of a word: characters outside quotes, or items between quotes. Quotes that are not closed
end with the line. -/
inductive Segment
  | bare (chars : List Char)
  | quoted (items : List Item) (isClosed : Bool)

namespace Segment

def meaning : Segment → List Char
  | bare chars => chars
  | quoted items _ => items.map Item.meaning

/-- Characters outside quotes are as many as there are before a double quote or a blank. -/
def spelling : Spelling Segment where
  chars
    | bare chars => chars
    | quoted items isClosed =>
      '"' :: (Item.spelling.text items ++ if isClosed then ['"'] else [])
  Fits
    | bare chars, next => chars ≠ [] ∧ (∀ char ∈ chars, isBare char = true) ∧
      ∀ char ∈ next, isBare char = false
    | quoted items true, _ => Item.spelling.InSequence items (some '"')
    | quoted items false, next => Item.spelling.InSequence items none ∧ next = none

/-- Segments go on up to a blank or the end of the line. -/
def Stops (text : List Char) : Prop :=
  ∀ char ∈ text.head?, Text.isBlank char = true

/-- The characters behind the items of a quoted segment. -/
def behind (isClosed : Bool) (rest : List Char) : List Char :=
  if isClosed then '"' :: rest else rest

theorem chars_quoted (items : List Item) (isClosed : Bool) (rest : List Char) :
    spelling.chars (quoted items isClosed) ++ rest =
      '"' :: (Item.spelling.text items ++ behind isClosed rest) := by
  cases isClosed <;> simp [spelling, behind]

/-- A quoted segment fits where its items do, and goes on to the end of the line unless it is
closed. -/
theorem fits_quoted {items : List Item} {isClosed : Bool} {rest : List Char} :
    spelling.Fits (quoted items isClosed) rest.head? ↔
      Item.spelling.InSequence items (behind isClosed rest).head? ∧
        (isClosed = false → rest = []) := by
  cases isClosed with
  | true => simp [spelling, behind]
  | false =>
    change Item.spelling.InSequence items none ∧ rest.head? = none ↔
      Item.spelling.InSequence items rest.head? ∧ (false = false → rest = [])
    constructor
    · rintro ⟨inSequence, isEnd⟩
      exact ⟨isEnd ▸ inSequence, fun _ => List.head?_eq_none_iff.mp isEnd⟩
    · rintro ⟨inSequence, ends⟩
      obtain rfl := ends rfl
      exact ⟨inSequence, rfl⟩

theorem stops_behind {isClosed : Bool} {rest : List Char} (ends : isClosed = false → rest = []) :
    Item.Stops (behind isClosed rest) := by
  intro char first
  cases isClosed with
  | true =>
    cases first
    rfl
  | false =>
    obtain rfl := ends rfl
    cases first

/-- A segment begins with a double quote or a character that stands for itself. -/
theorem exists_first {segment : Segment} {next : Option Char} (fits : spelling.Fits segment next) :
    ∃ char chars, spelling.chars segment = char :: chars ∧ Text.isBlank char = false ∧
      (isBare char = true ∨ char = '"') := by
  cases segment with
  | bare chars =>
    obtain ⟨some, bare, -⟩ := fits
    obtain ⟨char, rest, rfl⟩ := List.exists_cons_of_ne_nil some
    have isBare := bare char List.mem_cons_self
    exact ⟨char, rest, rfl, (isBare_iff.mp isBare).2, .inl isBare⟩
  | quoted items isClosed => exact ⟨'"', _, rfl, by decide, .inr rfl⟩

theorem begins (text : List Char) :
    Stops text ∨ ∃ segment rest, text = spelling.chars segment ++ rest ∧
      spelling.Fits segment rest.head? ∧ rest.length < text.length := by
  cases text with
  | nil => exact .inl fun char first => by cases first
  | cons char text =>
    by_cases isQuote : char = '"'
    · subst isQuote
      obtain ⟨items, rest, isText, inSequence, stops⟩ := Item.isExact.exists_parts text
      cases rest with
      | nil =>
        refine .inr ⟨.quoted items false, [], ?_, ⟨inSequence, rfl⟩, Nat.succ_pos _⟩
        rw [chars_quoted, behind, isText]
        rfl
      | cons next rest =>
        obtain rfl : next = '"' := stops next rfl
        refine .inr ⟨.quoted items true, rest, ?_, inSequence, ?_⟩
        · rw [chars_quoted, behind, isText]
          rfl
        · rw [isText, List.length_cons, List.length_append, List.length_cons]
          omega
    -- Outside quotes a segment goes on as long as the characters stand for themselves.
    by_cases blank : Text.isBlank char = true
    · exact .inl fun first isFirst => by cases isFirst; exact blank
    · have bare : isBare char = true := isBare_iff.mpr ⟨isQuote, by simpa using blank⟩
      have isText : char :: text =
          (char :: text.takeWhile isBare) ++ text.dropWhile isBare := by
        rw [List.cons_append, List.takeWhile_append_dropWhile]
      refine .inr ⟨.bare (char :: text.takeWhile isBare), text.dropWhile isBare, isText,
        ⟨List.cons_ne_nil _ _, ?_, ?_⟩, ?_⟩
      · intro other member
        rcases List.mem_cons.mp member with rfl | inside
        · exact bare
        · exact List.mem_takeWhile_imp inside
      · intro next isNext
        have stopped := List.head?_dropWhile_not isBare text
        rw [isNext] at stopped
        simpa using stopped
      · have shorter := (List.dropWhile_suffix isBare (l := text)).length_le
        rw [List.length_cons]
        omega

theorem single {first second : Segment} {rest last : List Char}
    (fits : spelling.Fits first rest.head?) (otherFits : spelling.Fits second last.head?)
    (same : spelling.chars first ++ rest = spelling.chars second ++ last) :
    first = second ∧ rest = last := by
  cases first with
  | bare chars =>
    cases second with
    | bare others =>
      obtain ⟨rfl, rests⟩ := Text.append_unique fits.2.1 otherFits.2.1 fits.2.2 otherFits.2.2 same
      exact ⟨rfl, rests⟩
    | quoted items isClosed =>
      obtain ⟨char, others, rfl⟩ := List.exists_cons_of_ne_nil fits.1
      have isQuote : char = '"' := by simpa [spelling] using congrArg List.head? same
      exact absurd isQuote (isBare_iff.mp (fits.2.1 char List.mem_cons_self)).1
  | quoted items isClosed =>
    cases second with
    | bare chars =>
      obtain ⟨char, others, rfl⟩ := List.exists_cons_of_ne_nil otherFits.1
      have isQuote : char = '"' := by simpa [spelling] using (congrArg List.head? same).symm
      exact absurd isQuote (isBare_iff.mp (otherFits.2.1 char List.mem_cons_self)).1
    | quoted others otherClosed =>
      obtain ⟨inSequence, ends⟩ := fits_quoted.mp fits
      obtain ⟨otherwise, otherEnds⟩ := fits_quoted.mp otherFits
      rw [chars_quoted, chars_quoted] at same
      obtain ⟨rfl, sameBehind⟩ := Item.isExact.unique inSequence otherwise (stops_behind ends)
        (stops_behind otherEnds) (List.cons.inj same).2
      cases isClosed with
      | true =>
        cases otherClosed with
        | true => exact ⟨rfl, (List.cons.inj sameBehind).2⟩
        | false =>
          obtain rfl := otherEnds rfl
          cases sameBehind
      | false =>
        obtain rfl := ends rfl
        cases otherClosed with
        | true => cases sameBehind
        | false => exact ⟨rfl, sameBehind⟩

theorem isExact : spelling.IsExact Stops where
  begins := begins
  single _ _ _ _ := single
  goesOn segment rest fits stops := by
    obtain ⟨char, chars, isFirst, inked, -⟩ := exists_first fits
    have blank := stops char (by rw [isFirst]; rfl)
    rw [inked] at blank
    cases blank

end Segment

/-- A word with the blanks before it. -/
structure Word where
  blanks : List Char
  segments : List Segment

namespace Word

def meaning (word : Word) : List Char :=
  word.segments.flatMap Segment.meaning

/-- A word has segments, however little they stand for, and ends before a blank or with the line. So
there are blanks between two words. -/
def spelling : Spelling Word where
  chars word := word.blanks ++ Segment.spelling.text word.segments
  Fits word next := (∀ char ∈ word.blanks, Text.isBlank char = true) ∧ word.segments ≠ [] ∧
    Segment.spelling.InSequence word.segments next ∧ ∀ char ∈ next, Text.isBlank char = true

/-- Words go on until only blanks are left. -/
def Stops (text : List Char) : Prop :=
  ∀ char ∈ text, Text.isBlank char = true

theorem chars_append (word : Word) (rest : List Char) :
    spelling.chars word ++ rest =
      word.blanks ++ (Segment.spelling.text word.segments ++ rest) :=
  List.append_assoc _ _ _

theorem inked_first {segments : List Segment} {rest : List Char}
    (inSequence : Segment.spelling.InSequence segments rest.head?) (some : segments ≠ []) :
    ∃ char ∈ (Segment.spelling.text segments ++ rest).head?, Text.isBlank char = false := by
  have goesOn := Segment.isExact.not_stops inSequence some
  simpa [Segment.Stops] using goesOn

theorem begins (text : List Char) :
    Stops text ∨ ∃ word rest, text = spelling.chars word ++ rest ∧
      spelling.Fits word rest.head? ∧ rest.length < text.length := by
  by_cases blank : Stops text
  · exact .inl blank
  obtain ⟨segments, rest, isCore, inSequence, stops⟩ :=
    Segment.isExact.exists_parts (text.dropWhile Text.isBlank)
  have some : segments ≠ [] := by
    rintro rfl
    have core : text.dropWhile Text.isBlank = rest := isCore
    apply blank
    cases rest with
    | nil =>
      intro char member
      exact List.dropWhile_eq_nil_iff.mp core char member
    | cons char rest =>
      have inked := List.head?_dropWhile_not Text.isBlank text
      rw [core] at inked
      have isBlank := stops char rfl
      simp [isBlank] at inked
  have isText : text = spelling.chars ⟨text.takeWhile Text.isBlank, segments⟩ ++ rest := by
    rw [chars_append, ← isCore, List.takeWhile_append_dropWhile]
  refine .inr ⟨⟨text.takeWhile Text.isBlank, segments⟩, rest, isText,
    ⟨fun char member => List.mem_takeWhile_imp member, some, inSequence, stops⟩, ?_⟩
  obtain ⟨segment, others, rfl⟩ := List.exists_cons_of_ne_nil some
  obtain ⟨char, chars, isFirst, -⟩ := Segment.exists_first inSequence.1
  have longer : 0 < (Segment.spelling.text (segment :: others)).length := by
    rw [Spelling.text, List.flatMap_cons, isFirst]
    exact Nat.succ_pos _
  have lengths := congrArg List.length isText
  simp only [chars_append, List.length_append] at lengths
  omega

theorem single {first second : Word} {rest last : List Char}
    (fits : spelling.Fits first rest.head?) (otherFits : spelling.Fits second last.head?)
    (same : spelling.chars first ++ rest = spelling.chars second ++ last) :
    first = second ∧ rest = last := by
  obtain ⟨blank, some, inSequence, stops⟩ := fits
  obtain ⟨otherBlank, otherSome, otherwise, otherStops⟩ := otherFits
  rw [chars_append, chars_append] at same
  have inked : ∀ {segments : List Segment} {rest : List Char},
      Segment.spelling.InSequence segments rest.head? → segments ≠ [] →
        ∀ char ∈ (Segment.spelling.text segments ++ rest).head?, Text.isBlank char = false := by
    intro segments rest inSequence some char first
    obtain ⟨other, isFirst, inked⟩ := inked_first inSequence some
    rw [Option.mem_def, Option.mem_def.mp isFirst] at first
    exact Option.some.inj first ▸ inked
  obtain ⟨blanks, cores⟩ := Text.append_unique blank otherBlank (inked inSequence some)
    (inked otherwise otherSome) same
  obtain ⟨segments, rests⟩ := Segment.isExact.unique inSequence otherwise stops otherStops cores
  obtain ⟨firstBlanks, firstSegments⟩ := first
  obtain ⟨secondBlanks, secondSegments⟩ := second
  simp only at blanks segments
  exact ⟨by rw [blanks, segments], rests⟩

theorem isExact : spelling.IsExact Stops where
  begins := begins
  single _ _ _ _ := single
  goesOn word rest fits stops := by
    obtain ⟨-, some, inSequence, -⟩ := fits
    obtain ⟨char, isFirst, inked⟩ := inked_first inSequence some
    have member : char ∈ spelling.chars word ++ rest := by
      rw [chars_append]
      exact List.mem_append_right _ (List.mem_of_mem_head? isFirst)
    have blank := stops char member
    rw [inked] at blank
    cases blank

end Word

end Statement

end CommandConsole
