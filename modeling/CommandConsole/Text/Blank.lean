set_option autoImplicit false

namespace CommandConsole.Text

/-- A blank is one of the ASCII separators and line breaks or a Unicode space or line separator. -/
def isBlank (char : Char) : Bool :=
  let code := char.toNat
  (0x09 ≤ code && code ≤ 0x0D) || (0x1C ≤ code && code ≤ 0x20) || code == 0x85 || code == 0xA0
    || code == 0x1680 || (0x2000 ≤ code && code ≤ 0x200A) || code == 0x2028 || code == 0x2029
    || code == 0x202F || code == 0x205F || code == 0x3000

def trimBy (drop : Char → Bool) (chars : List Char) : List Char :=
  ((chars.dropWhile drop).reverse.dropWhile drop).reverse

def trim (chars : List Char) : List Char :=
  trimBy isBlank chars

/-- A text is blank when it holds nothing but blanks. -/
def isBlankText (text : String) : Bool :=
  text.toList.all isBlank

def strip (text : String) : String :=
  String.ofList (trim text.toList)

/-- The pieces between the places where a character satisfies the test. -/
def splitBy (cut : Char → Bool) : List Char → List (List Char)
  | [] => [[]]
  | char :: rest =>
    match splitBy cut rest with
    | [] => [[char]]
    | piece :: pieces => if cut char then [] :: piece :: pieces else (char :: piece) :: pieces

/-- The lines of a text: only a line feed ends a line. -/
def lines (text : String) : List String :=
  (splitBy (· == '\n') text.toList).map String.ofList

/-- Characters with a carriage return, alone or before a line feed, turned into a line feed. -/
def unifyChars : List Char → List Char
  | '\r' :: '\n' :: rest => '\n' :: unifyChars rest
  | '\r' :: rest => '\n' :: unifyChars rest
  | char :: rest => char :: unifyChars rest
  | [] => []

def unifyBreaks (text : String) : String :=
  String.ofList (unifyChars text.toList)

theorem splitBy_ne_nil (cut : Char → Bool) (chars : List Char) : splitBy cut chars ≠ [] := by
  cases chars with
  | nil => simp [splitBy]
  | cons char rest =>
    rw [splitBy]
    split
    · simp
    · split <;> simp

theorem cut_eq_false {cut : Char → Bool} {chars piece : List Char} {char : Char}
    (isPiece : piece ∈ splitBy cut chars) (member : char ∈ piece) : cut char = false := by
  induction chars generalizing piece with
  | nil =>
    rw [splitBy, List.mem_singleton] at isPiece
    subst isPiece
    cases member
  | cons first rest ih =>
    obtain ⟨head, others, isSplit⟩ := List.exists_cons_of_ne_nil (splitBy_ne_nil cut rest)
    have inside {other : List Char} (isOther : other ∈ head :: others) (within : char ∈ other) :
        cut char = false := ih (isSplit ▸ isOther) within
    simp only [splitBy, isSplit] at isPiece
    split at isPiece
    · rcases List.mem_cons.mp isPiece with rfl | isPiece
      · cases member
      · exact inside isPiece member
    · rename_i kept
      rcases List.mem_cons.mp isPiece with rfl | isPiece
      · rcases List.mem_cons.mp member with rfl | member
        · simpa using kept
        · exact inside List.mem_cons_self member
      · exact inside (List.mem_cons_of_mem _ isPiece) member

end CommandConsole.Text
