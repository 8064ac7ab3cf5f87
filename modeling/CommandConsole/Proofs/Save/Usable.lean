import CommandConsole.Proofs.Save.RoundTrip

set_option autoImplicit false

/-!
Which names can be used. A namespace can be created under names that a line does not yield again: a
blank ends a word, a double quote begins a quoted one, and a line that begins with a number sign is
no statement. Main statement: all other names can be typed, are executed on the entry that they
name, and bring their values through a save file; those names can not (`usable_iff_plain`).
-/
namespace CommandConsole

open CommandConsole.Action

variable {κ : Type}

namespace Statement

theorem length_close (open? : Option (List Char)) :
    (close open?).flatten.length = (open?.getD []).length := by
  cases open? <;> simp [close]

theorem length_grow (open? : Option (List Char)) (chars : List Char) :
    ((grow open? chars).getD []).length = (open?.getD []).length + chars.length := by
  simp [grow]

/-- Reading makes no characters; between quotes a word may still get the backslash before it. -/
theorem length_read_le (line : List Char) :
    (∀ open?, (readPlain open? line).flatten.length ≤ (open?.getD []).length + line.length) ∧
      (∀ open?, (readQuoted open? line).flatten.length ≤ (open?.getD []).length + line.length) ∧
      ∀ open?, (readEscape open? line).flatten.length ≤
        (open?.getD []).length + line.length + 1 := by
  -- The three readers call each other, so their bounds go through one induction.
  induction line with
  | nil =>
    refine ⟨fun open? => ?_, fun open? => ?_, fun open? => ?_⟩
    · simp only [readPlain, length_close, List.length_nil, Nat.add_zero, le_refl]
    · simp only [readQuoted, length_close, List.length_nil, Nat.add_zero, le_refl]
    · simp only [readEscape, length_close, length_grow, List.length_cons, List.length_nil]
      omega
  | cons char rest ih =>
    obtain ⟨plain, quoted, escape⟩ := ih
    refine ⟨fun open? => ?_, fun open? => ?_, fun open? => ?_⟩
    · have inQuotes := quoted (grow open? [])
      have next := plain none
      have more := plain (grow open? [char])
      simp only [length_grow, List.length_cons, List.length_nil, Option.getD_none]
        at inQuotes next more
      rw [readPlain, List.length_cons]
      split
      · omega
      · split
        · rw [List.flatten_append, List.length_append, length_close]
          omega
        · omega
    · have outside := plain open?
      have escaped := escape open?
      have more := quoted (grow open? [char])
      simp only [length_grow, List.length_cons, List.length_nil] at more
      rw [readQuoted, List.length_cons]
      split
      · omega
      · split <;> omega
    · rw [readEscape, List.length_cons]
      split
      · rename_i meaning _
        have more := quoted (grow open? [meaning])
        simp only [length_grow, List.length_cons, List.length_nil] at more
        omega
      · have more := quoted (grow open? ['\\', char])
        simp only [length_grow, List.length_cons, List.length_nil] at more
        omega

/-- A blank or a double quote outside quotes is lost. -/
theorem length_readPlain_lt {line : List Char} {char : Char} (member : char ∈ line)
    (special : char = '"' ∨ Text.isBlank char = true) (open? : Option (List Char)) :
    (readPlain open? line).flatten.length < (open?.getD []).length + line.length := by
  induction line generalizing open? with
  | nil => cases member
  | cons first rest ih =>
    rw [readPlain, List.length_cons]
    split
    · have inQuotes := (length_read_le rest).2.1 (grow open? [])
      rw [length_grow, List.length_nil] at inQuotes
      omega
    · rename_i unquoted
      split
      · have next := (length_read_le rest).1 none
        rw [List.flatten_append, List.length_append, length_close]
        simp only [Option.getD_none, List.length_nil] at next
        omega
      · rename_i inked
        have inside : char ∈ rest := by
          rcases List.mem_cons.mp member with rfl | inside
          · exact absurd special (by simp [unquoted, inked])
          · exact inside
        have more := ih inside (grow open? [first])
        rw [length_grow, List.length_singleton] at more
        omega

/-- A line is its own only word where nothing in it ends a word or begins a quoted one. -/
theorem tokenize_eq_self_iff {line : String} (begun : line ≠ "") :
    tokenize line = [line] ↔ Text.isPlain line = true := by
  rw [Text.isPlain_iff]
  constructor
  · intro own char member
    have chars : (tokenizeChars line.toList).flatten = line.toList := by
      obtain ⟨only, isOnly, same⟩ := List.map_eq_singleton_iff.mp own
      rw [isOnly, ← same]
      simp
    by_contra special
    have lost := length_readPlain_lt member
      (by simpa only [ne_eq, not_and_or, not_not, Bool.not_eq_false] using special) none
    rw [tokenizeChars] at chars
    simp [chars] at lost
  · intro plain
    rw [tokenize, tokenizeChars_word (mt String.toList_eq_nil_iff.mp begun) plain]
    simp

end Statement

/-- An entry whose name can be used. Typed as a line the name is one word and is executed on the
entry, and the line that saves a value under the name is executed as the name and the value. -/
structure Entry.IsUsable (console : Console κ) (space : Namespace κ) (entry : Entry κ) : Prop where
  typed : Statement.tokenize (qualify space.name entry.name) = [qualify space.name entry.name]
  executed : ∀ run : Runner κ, execute run (qualify space.name entry.name) console =
    reporting false (dispatch run space entry ⟨[qualify space.name entry.name]⟩) console
  loaded : ∀ (run : Runner κ) value, loads run
    (savedLine (qualify space.name entry.name) value ++ "\n") = do
      let _ ← executeStatement run ⟨[qualify space.name entry.name, value.token]⟩
      return 1

section Lines

variable {run : Runner κ} {console : Console κ} {space : Namespace κ} {entry : Entry κ}

theorem lines_single {line : String} (single : '\n' ∉ line.toList) :
    Text.lines (line ++ "\n") = [line, ""] := by
  have cut := Text.lines_append line ""
  rw [String.append_empty, Text.lines_of_single single] at cut
  exact cut

/-- A text that is one saved line is one statement. -/
theorem loads_savedLine {name : String} (plain : Text.isPlain name) (begun : name ≠ "")
    (uncommented : name.startsWith "#" = false) (value : Value) :
    loads run (savedLine name value ++ "\n") = do
      let _ ← executeStatement run ⟨[name, value.token]⟩
      return 1 := by
  rw [loads, lines_single (lineFeed_notMem_savedLine plain value),
    executeLines_savedLine plain begun uncommented, executeLines_blank]
  simp

/-- A text that is one saved line is passed over where the name begins as a comment. -/
theorem loads_comment {name : String} (plain : Text.isPlain name) (begun : name ≠ "")
    (commented : name.startsWith "#" = true) (value : Value) :
    loads run (savedLine name value ++ "\n") = pure 0 := by
  have statement := (startsWith_savedLine begun value).trans commented
  rw [loads, lines_single (lineFeed_notMem_savedLine plain value), executeLines]
  simp only [strip_savedLine plain begun value, statement, Bool.or_true, if_true]
  exact executeLines_blank

theorem Entry.isUsable_iff (sound : console.registry.Sound)
    (present : space ∈ console.registry.table) (member : entry ∈ space.entries) :
    entry.IsUsable console space ↔ Text.isPlain (qualify space.name entry.name) = true ∧
      (qualify space.name entry.name).startsWith "#" = false := by
  have begun := qualify_ne_empty space.name entry.name
  constructor
  · intro usable
    have plain := (Statement.tokenize_eq_self_iff begun).mp usable.typed
    refine ⟨plain, ?_⟩
    by_contra commented
    rw [Bool.not_eq_false] at commented
    -- A comment counts as no statement, whatever the statement does.
    have counted := usable.loaded (fun _ => throw .exhausted) (.boolean true)
    rw [loads_comment plain begun commented] at counted
    have ended : Ends (pure 0 : Action κ Nat) console fun result _ => result ≠ .ok 0 := by
      simp only [counted, ends_bind, ends_pure]
      unfold Ends
      split <;> simp
    exact ended rfl
  · rintro ⟨plain, uncommented⟩
    have typed := (Statement.tokenize_eq_self_iff begun).mpr plain
    refine ⟨typed, fun run => ?_, fun run value => loads_savedLine plain begun uncommented value⟩
    rw [execute, Statement.parse, typed]
    exact executeStatement_entry rfl (sound.resolve_qualify present member)

end Lines

/-- A name that a console has accepted can be used exactly if it holds neither a blank nor a double
quote and does not begin with a number sign. Where all names are such, every modified value that can
be written gets through a save file into a console with the same declarations, as long as those who
are told of a change there do no more than record it. -/
theorem usable_iff_plain {source : Console κ} (fromSource : source.Reachable) :
    (∀ space ∈ source.registry.table, ∀ entry ∈ space.entries,
      (entry.IsUsable source space ↔ Text.isPlain (qualify space.name entry.name) = true ∧
        (qualify space.name entry.name).startsWith "#" = false)) ∧
    ((∀ space ∈ source.registry.table, space.isPlain) → source.registry.isWritable →
      ∀ target : Console κ, target.Reachable →
        declarations source.trace = declarations target.trace → ∀ conduct : Conduct κ,
        (∀ space ∈ target.registry.table, ∀ before (call : Call κ) value,
          call.space = space.serial → call.occasion = .change value →
            space.callbackNamed? call.entry = some call.callback →
              (Callback.script (conduct before) call).IsRecorder) →
        ∀ bound, ∃ after, Console.act conduct (bound + 1) (.loads source.registry.dumps) target =
            .ok (.count source.registry.modified.length) after ∧
          ∀ saved ∈ source.registry.modified,
            after.registry.get (.token (qualify saved.1.name saved.2.name)) =
              .ok saved.2.current) := by
  refine ⟨fun space present entry member => Entry.isUsable_iff fromSource.sound present member, ?_⟩
  intro plain written target fromTarget alike conduct recorders bound
  have counterparts : Counterparts source.registry target.registry :=
    ⟨fromSource.sound, fromTarget.sound,
      fromSource.table.plans_eq (alike ▸ fromTarget.table), plain, written⟩
  obtain ⟨after, run, isLoaded⟩ := (counterparts.ends_loads recorders bound).exists_ok
  exact ⟨after, run, isLoaded.given⟩

def numbered (name : String) : NamespaceDeclaration (Callback Unit) :=
  ⟨.text name, [], [⟨.text "v", .integer, .plain .null, none, .null⟩]⟩

def wellNamed : Console Unit :=
  (Console.empty .standard .empty).actAll idle 1 [.create (numbered "f")]

def wellGiven : Console Unit :=
  wellNamed.actAll idle 1 [.execute "v 5"]

/-- The name is usable, and what the setting is given gets through a save file. -/
theorem wellNamed_usable :
    (∀ space ∈ wellNamed.registry.table, ∀ entry ∈ space.entries,
      entry.IsUsable wellNamed space) ∧
    ∃ after, Console.act idle 1 (.loads "f.v 5\n") wellNamed = .ok (.count 1) after ∧
      after.registry.get (.token "f.v") = .ok (.integer 5) := by
  have reachable : wellNamed.Reachable := (Console.Reachable.empty .standard .empty).actAll idle 1 _
  have fromGiven : wellGiven.Reachable := reachable.actAll idle 1 _
  have names : ∀ space ∈ wellNamed.registry.table, ∀ entry ∈ space.entries,
      Text.isPlain (qualify space.name entry.name) = true ∧
        (qualify space.name entry.name).startsWith "#" = false := by decide +kernel
  refine ⟨fun space present entry member =>
    ((usable_iff_plain reachable).1 space present entry member).mpr
      (names space present entry member), ?_⟩
  have alike : declarations wellGiven.trace = declarations wellNamed.trace :=
    declarations_of_suffix (wellNamed.suffix_actAll idle 1 _) (by decide +kernel)
  have saved : wellGiven.registry.dumps = "f.v 5\n" := by decide +kernel
  have modified : wellGiven.registry.modified.map (fun saved => (saved.1.name, saved.2.name,
      saved.2.current)) = [("f", "v", .integer 5)] := by decide +kernel
  obtain ⟨after, loaded, values⟩ := (usable_iff_plain fromGiven).2 (by decide +kernel)
    (by decide +kernel) wellNamed reachable alike idle (fun _ _ before call value _ told _ => by
      rw [Callback.script, told]
      cases call.callback <;> exact .done true) 0
  have counted := congrArg List.length modified
  rw [List.length_map] at counted
  rw [saved, counted] at loaded
  obtain ⟨found, isFound, same⟩ := List.mem_map.mp (modified ▸ List.mem_singleton_self _)
  simp only [Prod.mk.injEq] at same
  obtain ⟨space, setting, current⟩ := same
  have value := values found isFound
  rw [space, setting, current] at value
  exact ⟨after, loaded, value⟩

/-- A console where all names have been accepted. -/
def misnamed : Console Unit :=
  (Console.empty .standard .empty).actAll idle 1
    (["a b", "#c", "d\"e", "f", " g", "g"].map fun name => .create (numbered name))

def overwritten : Console Unit :=
  misnamed.actAll idle 1 (["a b.v", "#c.v", "d\"e.v", "f.v", " g.v"].map fun token =>
    .set (.token token) (.plain (.integer 5)))

/-- Names that have been accepted cannot be used, and all values but one are lost in a save file;
one of them comes back as the value of another setting. -/
theorem misnamed_unusable :
    misnamed.registry.table.map (·.name) = ["a b", "#c", "d\"e", "f", " g", "g"] ∧
    (["a b.v", "#c.v", "d\"e.v", "f.v", " g.v"].map Statement.tokenize) =
      [["a", "b.v"], ["#c.v"], ["de.v"], ["f.v"], ["g.v"]] ∧
    (overwritten.registry.modified.map fun saved => (saved.1.name, saved.2.current)) =
      ["a b", "#c", "d\"e", "f", " g"].map (·, .integer 5) ∧
    ((misnamed.actAll idle 1 [.loads overwritten.registry.dumps]).registry.modified.map
      fun saved => (saved.1.name, saved.2.current)) = ["f", "g"].map (·, .integer 5) ∧
    ¬ ∀ space ∈ misnamed.registry.table, ∀ entry ∈ space.entries,
      entry.IsUsable misnamed space := by
  refine ⟨by decide +kernel, by decide +kernel, by decide +kernel, by decide +kernel, ?_⟩
  intro usable
  have named : ["a b.v"] <+: misnamed.registry.table.flatMap fun space =>
      space.entries.map fun entry => qualify space.name entry.name := by decide +kernel
  obtain ⟨space, present, member⟩ :=
    List.mem_flatMap.mp (named.subset (List.mem_singleton_self "a b.v"))
  obtain ⟨entry, inside, name⟩ := List.mem_map.mp member
  have typed := (usable space present entry inside).typed
  rw [name] at typed
  exact absurd typed (by decide +kernel)

end CommandConsole
