import CommandConsole.Proofs.Run.Recorder
import CommandConsole.Proofs.Save.Line
import CommandConsole.Proofs.Statement.Ending

set_option autoImplicit false

/-!
Lines of a save file and the same lines typed at the console. A save file may be padded: blanks
around a line are dropped before the line is executed. Main statement: a line of a save file does
what it does when it is typed, unless it ends with blanks between quotes that it leaves open, which
are then missing from its last word (`loads_line`).
-/
namespace CommandConsole

open CommandConsole.Action

namespace Text

def trailing (text : String) : String :=
  String.ofList (text.toList.rtakeWhile isBlank)

/-- The blanks at the end are those behind the blanks at the beginning, if that is not all. -/
theorem rtakeWhile_dropWhile {chars : List Char} (begun : trim chars ≠ []) :
    (chars.dropWhile isBlank).rtakeWhile isBlank = chars.rtakeWhile isBlank := by
  have inked : ¬ ∀ char ∈ (chars.dropWhile isBlank).reverse, isBlank char = true := by
    intro blank
    refine begun (List.rdropWhile_eq_nil_iff.mpr fun char member => ?_)
    exact blank char (List.mem_reverse.mpr member)
  have split : chars.reverse =
      (chars.dropWhile isBlank).reverse ++ (chars.takeWhile isBlank).reverse := by
    rw [← List.reverse_append, List.takeWhile_append_dropWhile]
  rw [List.rtakeWhile, List.rtakeWhile, split, List.takeWhile_append, if_neg]
  intro all
  apply inked
  have same := (List.takeWhile_prefix isBlank).eq_of_length all
  exact List.takeWhile_eq_self_iff.mp same

variable {text : String} (begun : strip text ≠ "")

include begun

theorem trim_ne_nil : trim text.toList ≠ [] := by
  intro empty
  apply begun
  rw [strip, empty, String.ofList_nil]

/-- A text is what is left when the blanks around it are dropped, between these blanks. -/
theorem toList_eq_strip :
    text.toList = text.toList.takeWhile isBlank ++
      ((strip text).toList ++ (trailing text).toList) := by
  rw [strip, trailing, String.toList_ofList, String.toList_ofList,
    ← rtakeWhile_dropWhile (trim_ne_nil begun), trim_eq_rdropWhile,
    List.rdropWhile_append_rtakeWhile, List.takeWhile_append_dropWhile]

theorem inked_getLast_strip : ∀ char ∈ (strip text).toList.getLast?, isBlank char = false := by
  intro char last
  have some := trim_ne_nil begun
  rw [strip, String.toList_ofList, Option.mem_def, List.getLast?_eq_some_getLast some] at last
  have inked := List.rdropWhile_last_not isBlank (text.toList.dropWhile isBlank) some
  rw [← Option.some.inj last]
  exact Bool.not_eq_true _ ▸ inked

end Text

namespace Statement

variable {line : String} (begun : Text.strip line ≠ "")

include begun

/-- What is left of a line leaves quotes open exactly if a blank behind it makes other words. -/
theorem leavesOpen_strip :
    LeavesOpen (Text.strip line).toList ↔
      tokenizeChars ((Text.strip line).toList ++ [' ']) ≠ tokenizeChars (Text.strip line).toList :=
  leavesOpen_iff_append_blank (mt String.toList_eq_nil_iff.mp begun)
    (Text.inked_getLast_strip begun)

/-- The words of a line are those of what is left when the blanks around it are dropped, with the
blanks at its end in the last word if the line leaves quotes open. -/
theorem tokenize_strip :
    (¬ LeavesOpen (Text.strip line).toList ∨ Text.trailing line = "" →
        tokenize line = tokenize (Text.strip line)) ∧
      (LeavesOpen (Text.strip line).toList →
        tokenize line = (tokenize (Text.strip line)).modifyLast (· ++ Text.trailing line)) := by
  have leading : ∀ char ∈ line.toList.takeWhile Text.isBlank, Text.isBlank char = true :=
    fun char member => List.mem_takeWhile_imp member
  have trailing : ∀ char ∈ (Text.trailing line).toList, Text.isBlank char = true := by
    intro char member
    rw [Text.trailing, String.toList_ofList] at member
    exact List.mem_rtakeWhile_imp member
  have some : (Text.strip line).toList ≠ [] := mt String.toList_eq_nil_iff.mp begun
  have words : tokenizeChars line.toList =
      tokenizeChars ((Text.strip line).toList ++ (Text.trailing line).toList) := by
    conv_lhs => rw [Text.toList_eq_strip begun]
    exact readPlain_blanks leading _
  obtain ⟨outside, inside⟩ :=
    tokenizeChars_append_blanks some (Text.inked_getLast_strip begun) trailing
  constructor
  · rintro (closed | unpadded)
    · rw [tokenize, words, outside closed, tokenize]
    · rw [tokenize, words, unpadded, String.toList_empty, List.append_nil, tokenize]
  · intro isOpen
    rw [tokenize, words, inside isOpen, tokenize]
    rcases List.eq_nil_or_concat' (tokenizeChars (Text.strip line).toList) with
      none | ⟨front, last, isLast⟩
    · rw [none]
      rfl
    · rw [isLast, List.modifyLast_concat, List.map_append, List.map_append, List.map_singleton,
        List.map_singleton, List.modifyLast_concat, String.ofList_append, String.ofList_toList]

end Statement

variable {κ : Type}

theorem loads_strip {line : String} (single : '\n' ∉ line.toList) (begun : Text.strip line ≠ "")
    (uncommented : (Text.strip line).startsWith "#" = false) (run : Runner κ) :
    loads run line = do
      let _ ← execute run (Text.strip line)
      return 1 := by
  rw [loads, Text.lines_of_single single, executeLines]
  simp [begun, uncommented, executeLines]

/-- A line of a save file does what it does when it is typed, unless it ends with blanks between
quotes that it leaves open. The word between the quotes then has these blanks when the line is
typed, and does not have them when the line is in a save file. -/
theorem loads_line {line : String} (single : '\n' ∉ line.toList) (begun : Text.strip line ≠ "")
    (uncommented : (Text.strip line).startsWith "#" = false) (run : Runner κ) :
    (¬ Statement.LeavesOpen (Text.strip line).toList ∨ Text.trailing line = "" →
      loads run line = do
        let _ ← execute run line
        return 1) ∧
    (Statement.LeavesOpen (Text.strip line).toList →
      Statement.tokenize line =
          (Statement.tokenize (Text.strip line)).modifyLast (· ++ Text.trailing line) ∧
        loads run line = do
          let _ ← executeStatement run ⟨Statement.tokenize (Text.strip line)⟩
          return 1) := by
  have stripped := loads_strip single begun uncommented run
  obtain ⟨outside, inside⟩ := Statement.tokenize_strip begun
  constructor
  · intro kept
    rw [stripped, execute, execute, Statement.parse, Statement.parse, outside kept]
  · intro isOpen
    exact ⟨inside isOpen, stripped⟩

def titled : Console Unit :=
  (Console.empty .standard .empty).actAll idle 1
    [.create ⟨.text "N", [], [⟨.text "s", .text, .plain .null, none, .null⟩]⟩]

def titleAfter {α : Type} (action : Action Unit α) : Option Value :=
  ((action.after titled).registry.get (.token "N.s")).toOption

/-- A padded line that closes its quotes does what it does when it is typed; of one that leaves them
open, the words lack a blank. -/
theorem padded_loads :
    (loads (runWithin idle 1) " N.s \"a b\"\t" = do
      let _ ← execute (runWithin idle 1) " N.s \"a b\"\t"
      return 1) ∧
    titleAfter (loads (runWithin idle 1) " N.s \"a b\"\t") = some (.text "a b") ∧
    Statement.tokenize "N.s \"a " = ["N.s", "a" ++ " "] := by
  have closed : ¬ Statement.LeavesOpen (Text.strip " N.s \"a b\"\t").toList := by
    rw [Statement.leavesOpen_strip (by decide +kernel)]
    decide +kernel
  have isOpen : Statement.LeavesOpen (Text.strip "N.s \"a ").toList := by
    rw [Statement.leavesOpen_strip (by decide +kernel)]
    decide +kernel
  have padded := (loads_line (by decide +kernel) (by decide +kernel) (by decide +kernel)
    (runWithin idle 1)).1 (.inl closed)
  have cut := (loads_line (by decide +kernel) (by decide +kernel) (by decide +kernel)
    (runWithin idle 1)).2 isOpen
  refine ⟨padded, by decide +kernel, cut.1.trans (by decide +kernel)⟩

/-- A line that leaves quotes open with a blank behind them gives a text without the blank when it
is in a save file, and with the blank when it is typed. -/
theorem unclosed_loads :
    titled.Reachable ∧
    titleAfter (loads (runWithin idle 1) "N.s \"a ") = some (.text "a") ∧
    titleAfter (execute (runWithin idle 1) "N.s \"a ") = some (.text "a ") ∧
    ¬ ∀ line : String, '\n' ∉ line.toList → Text.strip line ≠ "" →
      (Text.strip line).startsWith "#" = false →
        titleAfter (loads (runWithin idle 1) line) =
          titleAfter (execute (runWithin idle 1) line) := by
  have loaded : titleAfter (loads (runWithin idle 1) "N.s \"a ") = some (.text "a") := by
    decide +kernel
  have typed : titleAfter (execute (runWithin idle 1) "N.s \"a ") = some (.text "a ") := by
    decide +kernel
  refine ⟨(Console.Reachable.empty .standard .empty).actAll idle 1 _, loaded, typed, ?_⟩
  intro same
  have equal := same "N.s \"a " (by decide +kernel) (by decide +kernel) (by decide +kernel)
  rw [loaded, typed] at equal
  exact absurd equal (by decide +kernel)

end CommandConsole
