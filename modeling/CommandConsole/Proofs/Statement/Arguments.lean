import CommandConsole.Arguments
import Mathlib.Data.List.TakeWhile

set_option autoImplicit false

namespace CommandConsole.Arguments

/-- Whether an argument consists of dashes only, of one or more. -/
def isRule (argument : String) : Bool :=
  !argument.isEmpty && argument.toList.all (· == '-')

def before (arguments : List String) : List String :=
  arguments.take (arguments.findIdx isRule)

def behind (arguments : List String) : List String :=
  arguments.drop (arguments.findIdx isRule + 1)

def filled (arguments : List String) : List String :=
  arguments.filter (!·.isEmpty)

/-- The filled arguments before the first dashed one. -/
def plain (arguments : List String) : List String :=
  filled (arguments.takeWhile (!isDashed ·))

/-- The statements that dashed arguments open: each goes on to the next dashed argument. -/
def opened : List String → List Statement
  | [] => []
  | argument :: rest =>
    if isDashed argument then ⟨undashed argument :: plain rest⟩ :: opened rest else opened rest

/-- The arguments that belong to no opened statement. -/
def strays (arguments : List String) : List String :=
  plain (before arguments) ++ filled (behind arguments)

/-- What an argument before the rule gives to a statement. -/
def given (argument : String) : String :=
  if isDashed argument then undashed argument else argument

section Parts

variable {argument : String} {rest : List String}

theorem isEmpty_undashed (argument : String) :
    (undashed argument).isEmpty = argument.toList.all (· == '-') := by
  rw [Bool.eq_iff_iff, String.isEmpty_iff, undashed, ← String.toList_eq_nil_iff,
    String.toList_ofList, List.dropWhile_eq_nil_iff, List.all_eq_true]

/-- A rule is a dashed argument that names nothing. -/
theorem isRule_eq (argument : String) :
    isRule argument = (isDashed argument && (undashed argument).isEmpty) := by
  rw [isEmpty_undashed, isRule, isDashed]
  cases chars : argument.toList with
  | nil => simp [String.toList_eq_nil_iff.mp chars]
  | cons char rest =>
    have some : argument.isEmpty = false := by
      rw [← Bool.not_eq_true, String.isEmpty_iff, ← String.toList_eq_nil_iff, chars]
      exact List.cons_ne_nil char rest
    rw [some]
    cases dash : char == '-' <;> simp [dash]

theorem filled_cons (argument : String) (rest : List String) :
    filled (argument :: rest) =
      if argument.isEmpty then filled rest else argument :: filled rest := by
  cases empty : argument.isEmpty <;> simp [filled, empty]

theorem before_cons (argument : String) (rest : List String) :
    before (argument :: rest) = if isRule argument then [] else argument :: before rest := by
  cases rule : isRule argument <;> simp [before, List.findIdx_cons, rule]

theorem behind_cons (argument : String) (rest : List String) :
    behind (argument :: rest) = if isRule argument then rest else behind rest := by
  cases rule : isRule argument <;> simp [behind, List.findIdx_cons, rule]

theorem plain_of_dashed (dashed : isDashed argument = true) : plain (argument :: rest) = [] := by
  rw [plain, List.takeWhile_cons_of_neg (by simp [dashed])]
  rfl

theorem plain_of_undashed (undashed : isDashed argument = false) :
    plain (argument :: rest) = if argument.isEmpty then plain rest else argument :: plain rest := by
  rw [plain, List.takeWhile_cons_of_pos (by simp [undashed]), filled_cons]
  rfl

end Parts

namespace Grouping

variable {argument : String} {closed : List Statement} {words stray : List String}

theorem take_rule (grouping : Grouping) (early : grouping.dashesOver = false)
    (rule : isRule argument = true) :
    grouping.take argument = ⟨grouping.statements, ⟨[]⟩, grouping.stray, true⟩ := by
  rw [isRule_eq, Bool.and_eq_true] at rule
  simp [take, early, rule.1, rule.2]

/-- A dashed argument that is no rule opens the next statement. -/
theorem take_dashed (grouping : Grouping) (early : grouping.dashesOver = false)
    (dashed : isDashed argument = true) (named : isRule argument = false) :
    grouping.take argument =
      ⟨grouping.statements, ⟨[undashed argument]⟩, grouping.stray, false⟩ := by
  rw [isRule_eq, dashed, Bool.true_and] at named
  simp [take, early, dashed, named]

/-- Any other argument goes to the open statement, or else to the stray ones. -/
theorem take_other (grouping : Grouping)
    (other : grouping.dashesOver = true ∨ isDashed argument = false) :
    grouping.take argument =
      if argument.isEmpty then grouping
      else if grouping.current.isEmpty then
        { grouping with stray := grouping.stray ++ [argument] }
      else { grouping with current := grouping.current.extend [argument] } := by
  have undashed : (!grouping.dashesOver && isDashed argument) = false := by
    rcases other with late | undashed
    · simp [late]
    · simp [undashed]
  rw [take, undashed]
  simp

theorem fold_behind (arguments : List String) (closed : List Statement) (stray : List String) :
    arguments.foldl take ⟨closed, ⟨[]⟩, stray, true⟩ =
      ⟨closed, ⟨[]⟩, stray ++ filled arguments, true⟩ := by
  induction arguments generalizing stray with
  | nil => rw [List.foldl_nil, filled, List.filter_nil, List.append_nil]
  | cons argument rest ih =>
    rw [List.foldl_cons, take_other _ (.inl rfl), filled_cons]
    cases empty : argument.isEmpty with
    | true => simpa using ih stray
    | false => simpa [Statement.isEmpty] using ih (stray ++ [argument])

/-- An open statement goes on to the next dashed argument, and nothing is stray until the rule. -/
theorem fold_open (arguments : List String) (closed : List Statement) {words : List String}
    (begun : words ≠ []) (stray : List String) :
    (arguments.foldl take ⟨closed, ⟨words⟩, stray, false⟩).statements =
        closed ++ ⟨words ++ plain (before arguments)⟩ :: opened (before arguments) ∧
      (arguments.foldl take ⟨closed, ⟨words⟩, stray, false⟩).stray =
        stray ++ filled (behind arguments) := by
  have closing : ∀ {closed : List Statement} {words : List String}, words ≠ [] →
      statements ⟨closed, ⟨words⟩, stray, false⟩ = closed ++ [⟨words⟩] := by
    intro closed words begun
    simp [statements, Statement.isEmpty, begun]
  -- The statements that are closed only grow in front, and the open one at its end.
  induction arguments generalizing closed words with
  | nil => simp [closing begun, before, behind, plain, filled, opened]
  | cons argument rest ih =>
    rw [List.foldl_cons, before_cons, behind_cons]
    cases rule : isRule argument with
    | true =>
      rw [take_rule _ rfl rule, fold_behind, closing begun]
      simp [statements, Statement.isEmpty, plain, filled, opened]
    | false =>
      cases dashed : isDashed argument with
      | true =>
        obtain ⟨opens, leaves⟩ := ih (closed ++ [⟨words⟩]) (List.cons_ne_nil _ [])
        rw [take_dashed _ rfl dashed rule, closing begun, opens, leaves]
        simp [plain_of_dashed dashed, opened, dashed]
      | false =>
        rw [take_other _ (.inr dashed)]
        cases empty : argument.isEmpty with
        | true =>
          obtain ⟨opens, leaves⟩ := ih closed begun
          simp [opens, leaves, plain_of_undashed dashed, empty, opened, dashed]
        | false =>
          have more : words ++ [argument] ≠ [] := by simp
          obtain ⟨opens, leaves⟩ := ih closed more
          simp [Statement.isEmpty, Statement.extend, begun, opens, leaves,
            plain_of_undashed dashed, empty, opened, dashed]

/-- Before the first dashed argument all filled arguments are stray. -/
theorem fold_closed (arguments : List String) (stray : List String) :
    (arguments.foldl take ⟨[], ⟨[]⟩, stray, false⟩).statements = opened (before arguments) ∧
      (arguments.foldl take ⟨[], ⟨[]⟩, stray, false⟩).stray = stray ++ strays arguments := by
  induction arguments generalizing stray with
  | nil => simp [statements, Statement.isEmpty, before, behind, strays, plain, filled, opened]
  | cons argument rest ih =>
    rw [List.foldl_cons, strays, before_cons, behind_cons]
    cases rule : isRule argument with
    | true =>
      rw [take_rule _ rfl rule, fold_behind]
      simp [statements, Statement.isEmpty, plain, filled, opened]
    | false =>
      cases dashed : isDashed argument with
      | true =>
        have begun : [undashed argument] ≠ [] := List.cons_ne_nil _ _
        have start : statements ⟨[], ⟨[]⟩, stray, false⟩ = [] := rfl
        obtain ⟨opens, leaves⟩ := fold_open rest [] begun stray
        rw [take_dashed _ rfl dashed rule, start, opens, leaves]
        simp [plain_of_dashed dashed, opened, dashed]
      | false =>
        rw [take_other _ (.inr dashed)]
        cases empty : argument.isEmpty with
        | true =>
          obtain ⟨opens, leaves⟩ := ih stray
          simp [opens, leaves, strays, plain_of_undashed dashed, empty, opened, dashed]
        | false =>
          obtain ⟨opens, leaves⟩ := ih (stray ++ [argument])
          simp [Statement.isEmpty, opens, leaves, strays, plain_of_undashed dashed, empty, opened,
            dashed]

end Grouping

/-- Every dashed argument opens one statement, in the order of the arguments. -/
theorem names_opened (arguments : List String) :
    (opened arguments).map Statement.name = (arguments.filter isDashed).map undashed := by
  induction arguments with
  | nil => rfl
  | cons argument rest ih =>
    cases dashed : isDashed argument with
    | true => simp [opened, dashed, ih, Statement.name]
    | false => simp [opened, dashed, ih]

theorem words_opened {arguments : List String} {statement : Statement}
    (member : statement ∈ opened arguments) : statement.words ≠ [] := by
  induction arguments with
  | nil => exact absurd member List.not_mem_nil
  | cons argument rest ih =>
    rw [opened] at member
    split at member
    · rcases List.mem_cons.mp member with rfl | later
      · exact List.cons_ne_nil _ _
      · exact ih later
    · exact ih member

/-- What arguments without a rule give is the filled ones before the first dashed argument and then
the words of the opened statements. -/
theorem filled_given {arguments : List String}
    (ruleless : ∀ argument ∈ arguments, isRule argument = false) :
    filled (arguments.map given) =
      plain arguments ++ (opened arguments).flatMap Statement.words := by
  induction arguments with
  | nil => rfl
  | cons argument rest ih =>
    have others := ih fun other member => ruleless other (List.mem_cons_of_mem _ member)
    rw [List.map_cons, filled_cons, others, given]
    cases dashed : isDashed argument with
    | true =>
      have named := ruleless argument List.mem_cons_self
      rw [isRule_eq, dashed, Bool.true_and] at named
      simp [named, plain_of_dashed dashed, opened, dashed]
    | false =>
      cases empty : argument.isEmpty <;> simp [empty, plain_of_undashed dashed, opened, dashed]

theorem isRule_of_mem_before {arguments : List String} {argument : String}
    (member : argument ∈ before arguments) : isRule argument = false := by
  rw [before, List.mem_take_iff_getElem] at member
  obtain ⟨index, early, rfl⟩ := member
  exact List.not_of_lt_findIdx (by omega)

/-- The first rule divides the arguments. Every dashed argument before it opens a statement, which
begins with the argument without its dashes and goes on with the filled arguments up to the next
dashed one. The filled arguments before the first dashed one and those behind the rule are stray; if
there are any, the last statement is the default command with them. So no statement is empty, and
the statements hold what the arguments give, in its order, but for the strays, which all come
last. -/
theorem split_grammar (arguments : List String) (defaultLine : String) :
    split arguments defaultLine = opened (before arguments) ++
        (if strays arguments = [] then []
          else [⟨Statement.tokenize defaultLine ++ strays arguments⟩]) ∧
      (opened (before arguments)).map Statement.name =
        ((before arguments).filter isDashed).map undashed ∧
      (∀ statement ∈ split arguments defaultLine, statement.words ≠ []) ∧
      filled ((before arguments).map given) ++ filled (behind arguments) =
        plain (before arguments) ++ (opened (before arguments)).flatMap Statement.words ++
          filled (behind arguments) := by
  have formed : split arguments defaultLine = opened (before arguments) ++
      (if strays arguments = [] then []
        else [⟨Statement.tokenize defaultLine ++ strays arguments⟩]) := by
    obtain ⟨opens, leaves⟩ := Grouping.fold_closed arguments []
    rw [List.nil_append] at leaves
    rw [split, Grouping.start, opens, leaves]
    by_cases none : strays arguments = []
    · simp [none]
    · simp [none, Statement.parse, Statement.extend]
  refine ⟨formed, names_opened _, ?_, ?_⟩
  · intro statement member
    rw [formed, List.mem_append] at member
    rcases member with early | last
    · exact words_opened early
    · split at last
      · exact absurd last List.not_mem_nil
      · rename_i some
        rw [List.mem_singleton.mp last]
        exact List.append_ne_nil_of_right_ne_nil _ some
  · rw [filled_given fun argument member => isRule_of_mem_before member]

/-- Strays on both sides of an opened statement; behind the rule dashes are kept, and later rules
are arguments like others. -/
example : split ["x", "--a", "", "b c", "-", "-d", "", "--"] "say \"to all\"" =
    [⟨["a", "b c"]⟩, ⟨["say", "to all", "x", "-d", "--"]⟩] := by decide +kernel

end CommandConsole.Arguments
