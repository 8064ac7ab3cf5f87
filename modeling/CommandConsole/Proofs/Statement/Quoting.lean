import CommandConsole.Proofs.Save.Line

set_option autoImplicit false

namespace CommandConsole

/-- Texts between double quotes, each with the blanks before it, and the blanks after the last. -/
def quotedLine (texts : List (String × String)) (trailing : String) : String :=
  String.join (texts.map fun (blanks, text) => blanks ++ quote text) ++ trailing

def quotedTexts (texts : List (String × String)) : List Char :=
  texts.flatMap fun (blanks, text) => blanks.toList ++ quoteChars text.toList

theorem toList_quotedLine (texts : List (String × String)) (trailing : String) :
    (quotedLine texts trailing).toList = quotedTexts texts ++ trailing.toList := by
  rw [quotedLine, String.toList_append]
  congr 1
  induction texts with
  | nil => rfl
  | cons item texts ih =>
    rw [List.map_cons, String.join_cons, String.toList_append, ih]
    simp [quotedTexts, quote]

namespace Statement

theorem readPlain_blanks {blanks : List Char} (blank : ∀ char ∈ blanks, Text.isBlank char = true)
    (rest : List Char) : readPlain none (blanks ++ rest) = readPlain none rest := by
  induction blanks with
  | nil => rfl
  | cons char blanks ih =>
    have isBlank := blank char List.mem_cons_self
    have unquoted : char ≠ '"' := by
      rintro rfl
      exact absurd isBlank (by decide)
    rw [List.cons_append, readPlain, if_neg unquoted, if_pos isBlank,
      ih fun other member => blank other (List.mem_cons_of_mem _ member)]
    rfl

theorem readPlain_blanks_after {blanks : List Char} (begun : blanks ≠ [])
    (blank : ∀ char ∈ blanks, Text.isBlank char = true) (word rest : List Char) :
    readPlain (some word) (blanks ++ rest) = word :: readPlain none rest := by
  obtain ⟨char, others, rfl⟩ := List.exists_cons_of_ne_nil begun
  have isBlank := blank char List.mem_cons_self
  have unquoted : char ≠ '"' := by
    rintro rfl
    exact absurd isBlank (by decide)
  rw [List.cons_append, readPlain, if_neg unquoted, if_pos isBlank,
    readPlain_blanks fun other member => blank other (List.mem_cons_of_mem _ member)]
  rfl

variable {trailing : List Char} (last : ∀ char ∈ trailing, Text.isBlank char = true)

include last

/-- Quoted texts after an open word are words of their own where blanks stand before each of
them. -/
theorem readPlain_quotedTexts {texts : List (String × String)}
    (blank : ∀ item ∈ texts, ∀ char ∈ item.1.toList, Text.isBlank char = true)
    (apart : ∀ item ∈ texts, item.1 ≠ "") (word : List Char) :
    readPlain (some word) (quotedTexts texts ++ trailing) =
      word :: texts.map fun item => item.2.toList := by
  induction texts generalizing word with
  | nil =>
    cases trailing with
    | nil => rfl
    | cons char others =>
      have read := readPlain_blanks_after (List.cons_ne_nil char others) last word []
      rw [List.append_nil] at read
      exact read
  | cons item texts ih =>
    have begun : item.1.toList ≠ [] :=
      mt String.toList_eq_nil_iff.mp (apart item List.mem_cons_self)
    have rest := ih (fun other member => blank other (List.mem_cons_of_mem _ member))
      (fun other member => apart other (List.mem_cons_of_mem _ member)) item.2.toList
    rw [quotedTexts, List.flatMap_cons, List.append_assoc, List.append_assoc,
      readPlain_blanks_after begun (blank item List.mem_cons_self), readPlain_quoteChars]
    exact congrArg (word :: ·) rest

/-- The first of the texts may stand at the beginning of the line. -/
theorem tokenizeChars_quotedTexts {texts : List (String × String)}
    (blank : ∀ item ∈ texts, ∀ char ∈ item.1.toList, Text.isBlank char = true)
    (apart : ∀ item ∈ texts.tail, item.1 ≠ "") :
    tokenizeChars (quotedTexts texts ++ trailing) = texts.map fun item => item.2.toList := by
  rw [tokenizeChars]
  cases texts with
  | nil =>
    have read := readPlain_blanks last []
    rw [List.append_nil] at read
    exact read
  | cons item texts =>
    have rest := readPlain_quotedTexts last
      (fun other member => blank other (List.mem_cons_of_mem _ member)) apart item.2.toList
    rw [quotedTexts, List.flatMap_cons, List.append_assoc, List.append_assoc,
      readPlain_blanks (blank item List.mem_cons_self), readPlain_quoteChars]
    exact rest

end Statement

/-- The words of a line of quoted texts are the texts, whatever they are and whatever blanks stand
between them and around them. No quoted text holds a line break, so that the line is one line of any
text that it stands in, unless there is a line feed among the blanks. -/
theorem tokenize_quotedLine {texts : List (String × String)} {trailing : String}
    (blank : ∀ item ∈ texts, Text.isBlankText item.1) (apart : ∀ item ∈ texts.tail, item.1 ≠ "")
    (last : Text.isBlankText trailing) :
    Statement.tokenize (quotedLine texts trailing) = texts.map (·.2) ∧
      (∀ item ∈ texts, '\n' ∉ (quote item.2).toList ∧ '\r' ∉ (quote item.2).toList) ∧
      ((∀ item ∈ texts, '\n' ∉ item.1.toList) → '\n' ∉ trailing.toList → ∀ before after,
        Text.lines (before ++ "\n" ++ (quotedLine texts trailing ++ "\n" ++ after)) =
          Text.lines before ++ quotedLine texts trailing :: Text.lines after) := by
  refine ⟨?_, fun item _ => ?_, fun uncut uncutLast before after => ?_⟩
  · have areBlank : ∀ item ∈ texts, ∀ char ∈ item.1.toList, Text.isBlank char = true :=
      fun item member => List.all_eq_true.mp (blank item member)
    rw [Statement.tokenize, toList_quotedLine,
      Statement.tokenizeChars_quotedTexts (List.all_eq_true.mp last) areBlank apart, List.map_map]
    exact List.map_congr_left fun item _ => String.ofList_toList
  · exact ⟨Value.lineBreak_notMem_quote (.inl rfl) item.2,
      Value.lineBreak_notMem_quote (.inr rfl) item.2⟩
  · have single : '\n' ∉ (quotedLine texts trailing).toList := by
      rw [toList_quotedLine, List.mem_append]
      rintro (inside | inLast)
      · obtain ⟨item, member, inItem⟩ := List.mem_flatMap.mp inside
        rcases List.mem_append.mp inItem with inBlanks | inText
        · exact uncut item member inBlanks
        · have unbroken := Value.lineBreak_notMem_quote (.inl rfl) item.2
          rw [quote, String.toList_ofList] at unbroken
          exact unbroken inText
      · exact uncutLast inLast
    rw [Text.lines_append, Text.lines_append, Text.lines_of_single single]
    rfl

/-- Texts with backslashes before quotes, letters and the end, and with line breaks; the blanks
between them are not only spaces. -/
def awkwardTexts : List (String × String) :=
  [("", "\\\"\\"), ("\u2003\t", ""), (" ", "\\n\n\r"), ("\u0085", " \\\\\"")]

theorem awkwardTexts_tokenize :
    Statement.tokenize (quotedLine awkwardTexts " ") =
        ["\\\"\\", "", "\\n\n\r", " \\\\\""] ∧
      Text.lines ("#\n" ++ (quotedLine awkwardTexts " " ++ "\n" ++ "x")) =
        ["#", quotedLine awkwardTexts " ", "x"] := by
  have blank : ∀ item ∈ awkwardTexts, Text.isBlankText item.1 := by decide +kernel
  have apart : ∀ item ∈ awkwardTexts.tail, item.1 ≠ "" := by decide +kernel
  have last : Text.isBlankText " " := by decide +kernel
  have read := tokenize_quotedLine blank apart last
  exact ⟨read.1, read.2.2 (by decide +kernel) (by decide +kernel) "#" "x"⟩

end CommandConsole
