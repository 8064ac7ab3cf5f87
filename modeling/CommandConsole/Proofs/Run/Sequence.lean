import CommandConsole.Proofs.Run.Contained

set_option autoImplicit false

namespace CommandConsole

open CommandConsole.Action

variable {κ : Type}

/-- The statements in lines: one of each line that is neither blank nor a comment. -/
def Statement.ofLines (lines : List String) : List Statement :=
  ((lines.map Text.strip).filter fun line => !(line.isEmpty || line.startsWith "#")).map parse

theorem Statement.ofLines_skipped {line : String} {rest : List String}
    (skipped : ((Text.strip line).isEmpty || (Text.strip line).startsWith "#") = true) :
    ofLines (line :: rest) = ofLines rest := by
  rw [ofLines, List.map_cons, List.filter_cons_of_neg (by rw [skipped]; decide), ofLines]

theorem Statement.ofLines_counted {line : String} {rest : List String}
    (counted : ¬((Text.strip line).isEmpty || (Text.strip line).startsWith "#") = true) :
    ofLines (line :: rest) = parse (Text.strip line) :: ofLines rest := by
  rw [ofLines, List.map_cons, List.filter_cons_of_pos (by simpa using counted), List.map_cons,
    ofLines]

/-- Executing statements one after the other leads from one console to another; no statement keeps
those after it from being executed. -/
inductive Executes (run : Runner κ) : List Statement → Console κ → Console κ → Prop
  | nil (console : Console κ) : Executes run [] console console
  | cons {statement : Statement} {rest : List Statement} {truth : Bool}
      {before middle after : Console κ}
      (first : executeStatement run statement before = .ok truth middle)
      (others : Executes run rest middle after) : Executes run (statement :: rest) before after

/-- Loading files one after the other leads from one console to another. A file that cannot be read
is reported; of each other one, all statements are executed. -/
inductive Loads (run : Runner κ) : List String → Nat → Console κ → Console κ → Prop
  | nil (console : Console κ) : Loads run [] 0 console console
  | unreadable {path : String} {rest : List String} {count : Nat} {fault : Storage.Fault}
      {before after : Console κ} (failed : before.storage.read path = .error fault)
      (others : Loads run rest count ((before.tell (.opened path)).tell
        (.wrote ((ConsoleError.unreadable path).message ++ "\n"))) after) :
      Loads run (path :: rest) count before after
  | readable {path text : String} {rest : List String} {count : Nat} {content : ByteArray}
      {before middle after : Console κ} (isRead : before.storage.read path = .ok content)
      (isText : String.fromUTF8? content = some text)
      (executes : Executes run (Statement.ofLines (Text.lines text)) (before.tell (.opened path))
        middle)
      (others : Loads run rest count middle after) :
      Loads run (path :: rest) (count + 1) before after

section Files

variable {origin : Console κ} {console : Console κ} {run : Runner κ}

theorem Console.Sane.opened (sane : console.Sane origin.storage) (path : String) :
    (console.tell (.opened path)).Sane origin.storage :=
  Step.sane (.tell trivial) sane

/-- A clear trace that has just told of a path has none with a null in it. -/
theorem Clear.not_hasNull {trace : List (Event κ)} {path : String}
    (clear : Clear origin (.opened path :: trace)) (within : origin.trace <:+ trace) :
    path.toList.contains '\x00' ≠ true := by
  have opened := clear.regular _ (mem_since (List.suffix_refl _) within)
  simpa [Event.isRegular] using opened

theorem Registry.IsPlain.dumps?_ok {registry : Registry κ} (plain : registry.IsPlain) :
    registry.dumps? = .ok registry.dumps := by
  have writable : registry.isWritable = true := by
    simp only [Registry.isWritable, List.all_eq_true]
    intro space present setting member
    have inside : setting ∈ space.settings := List.mem_of_mem_filter member
    obtain ⟨entry, isEntry, same⟩ := List.mem_filterMap.mp inside
    cases entry with
    | command command => cases same
    | setting found =>
      cases same
      have entry := (plain.of_table present).writable _ isEntry
      simp only [Entry.isWritable, Bool.and_eq_true] at entry
      exact entry.1.2
  simp [Registry.dumps?, writable]

/-- Saving ends with a console error if it fails. -/
theorem contained_save (sane : console.Sane origin.storage)
    (within : origin.trace <:+ console.trace) (path : String) :
    Contained origin Reports (save path) console := by
  simp only [Contained, save, ends_bind, ends_registry, ends_lift]
  cases dumped : console.registry.dumps? with
  | error fault =>
    refine ⟨⟨sane, List.suffix_refl _⟩, fun clear => ?_⟩
    rw [(sane.plain clear.plain).dumps?_ok] at dumped
    cases dumped
  | ok content =>
    have told := List.suffix_cons (.opened path) console.trace
    simp only [ends_record, ends_get]
    split
    · rename_i null
      refine ⟨⟨sane.opened path, told⟩, fun clear => ?_⟩
      exact absurd (Storage.hasNull_of_write null) (clear.not_hasNull within)
    · exact ⟨⟨sane.opened path, told⟩, fun _ => reports_console _ _⟩
    · rename_i saved
      exact ⟨⟨Step.sane (.store saved) (sane.opened path), told⟩, fun _ => reports_ok _ _⟩

variable (calls : RunnerContained origin run) (within : origin.trace <:+ console.trace)

include calls within

/-- What follows a statement is done whatever the statement answers. -/
theorem contained_first {α : Type} {good : α → Console κ → Prop}
    {fine : Console κ → α → Console κ → Prop} {next : Action κ α}
    (sane : console.Sane origin.storage) (statement : Statement)
    (others : ∀ mid, Since origin.storage console.trace mid →
      Contained origin (Answers (fine mid)) next mid)
    (both : ∀ {truth mid value after}, executeStatement run statement console = .ok truth mid →
      fine mid value after → good value after) :
    Contained origin (Answers good) (do let _ ← executeStatement run statement; next) console := by
  refine (contained_executeStatement calls within sane statement).next
    fun truth mid kept first => ?_
  rw [Contained]
  apply Ends.mono (others mid kept)
  rintro result after ⟨later, answers⟩
  refine ⟨later, fun clear => ?_⟩
  obtain ⟨value, same, isFine⟩ := answers clear
  exact ⟨value, same,
    both (first (clear.of_suffix (within.trans kept.suffix) later.suffix)) isFine⟩

theorem contained_executeEach (sane : console.Sane origin.storage) (statements : List Statement) :
    Contained origin (Answers fun _ after => Executes run statements console after)
      (executeEach run statements) console := by
  induction statements generalizing console with
  | nil => exact .of_still sane ⟨rfl, fun _ => ⟨(), rfl, .nil _⟩⟩
  | cons statement rest ih =>
    exact contained_first calls within sane statement
      (fun mid kept => ih (within.trans kept.suffix) kept.sane) .cons

/-- All statements in lines are executed and counted. -/
theorem contained_executeLines (sane : console.Sane origin.storage) (lines : List String) :
    Contained origin (Answers fun count after => count = (Statement.ofLines lines).length ∧
      Executes run (Statement.ofLines lines) console after) (executeLines run lines) console := by
  induction lines generalizing console with
  | nil => exact .of_still sane ⟨rfl, fun _ => ⟨0, rfl, rfl, .nil _⟩⟩
  | cons line rest ih =>
    simp only [executeLines]
    split
    · rename_i skipped
      rw [Statement.ofLines_skipped skipped]
      exact ih within sane
    · rename_i counted
      rw [Statement.ofLines_counted counted]
      generalize Text.strip line = stripped
      have others (mid : Console κ) (kept : Since origin.storage console.trace mid) :
          Contained origin (Answers fun count after => count = (Statement.ofLines rest).length + 1 ∧
            Executes run (Statement.ofLines rest) mid after)
            (do return (← executeLines run rest) + 1) mid := by
        refine (ih (within.trans kept.suffix) kept.sane).next fun count after later answers => ?_
        refine .of_still later.sane ⟨rfl, fun clear => ?_⟩
        obtain ⟨rfl, executes⟩ := answers clear
        exact ⟨_, rfl, rfl, executes⟩
      exact contained_first calls within sane (.parse stripped) others
        fun first counted => ⟨counted.1, .cons first counted.2⟩

/-- All files that can be read are executed, each in its turn, and counted. -/
theorem contained_load (sane : console.Sane origin.storage) (paths : List String)
    (texts : Clear origin console.trace → ∀ path ∈ paths, origin.storage.IsTextAt path) :
    Contained origin (Answers fun count after => Loads run paths count console after)
      (load run paths) console := by
  induction paths generalizing console with
  | nil => exact .of_still sane ⟨rfl, fun _ => ⟨0, rfl, .nil _⟩⟩
  | cons path rest ih =>
    have told : console.trace <:+ (console.tell (.opened path)).trace := List.suffix_cons _ _
    have opened := sane.opened path
    have others {later : Console κ} (suffix : console.trace <:+ later.trace)
        (clear : Clear origin later.trace) : ∀ path ∈ rest, origin.storage.IsTextAt path :=
      fun path member => texts (clear.of_suffix within suffix) path (List.mem_cons_of_mem _ member)
    -- In a clear run a path holds no null and a file is a text; what remains is a file that cannot
    -- be read, which is reported, and one that is executed.
    simp only [Contained, load, ends_bind, ends_record, ends_get]
    split
    · rename_i null
      refine ⟨⟨opened, told⟩, fun clear => ?_⟩
      exact absurd (Storage.hasNull_of_read null) (clear.not_hasNull within)
    · rename_i fault _ failed
      simp only [ends_bind, ends_write]
      generalize same : (ConsoleError.unreadable path).message ++ "\n" = text
      have reported := told.trans (List.suffix_cons (.wrote text) _)
      apply ((ih (within.trans reported) (opened.wrote text) (others reported)).told reported).mono
      rintro result after ⟨kept, answers⟩
      refine ⟨kept, fun clear => ?_⟩
      obtain ⟨count, isCount, loads⟩ := answers clear
      exact ⟨count, isCount, .unreadable failed (same ▸ loads)⟩
    · rename_i content isRead
      split
      · rename_i invalid
        refine ⟨⟨opened, told⟩, fun clear => ?_⟩
        have textual := texts (clear.of_suffix within told) path List.mem_cons_self
        have valid := opened.saved.isTextAt textual content isRead
        simp [String.fromUTF8?, valid] at invalid
      · rename_i text isText
        suffices all : Contained origin
            (Answers fun count after => Loads run (path :: rest) count console after)
            (do let _ ← loads run text; return (← load run rest) + 1)
            (console.tell (.opened path)) from all.told told
        refine (contained_executeLines calls (within.trans told) opened (Text.lines text)).next
          fun _ mid kept executes => ?_
        have suffix := told.trans kept.suffix
        have inside := within.trans suffix
        refine (ih inside kept.sane (others suffix)).next fun count after later loads => ?_
        refine .of_still later.sane ⟨rfl, fun clear => ⟨count + 1, rfl, ?_⟩⟩
        exact .readable isRead isText (executes (clear.of_suffix inside later.suffix)).2
          (loads clear)

end Files

end CommandConsole
