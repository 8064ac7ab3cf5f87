import CommandConsole.Storage
import Mathlib.Tactic.SplitIfs

set_option autoImplicit false

namespace CommandConsole.Storage

variable {storage written : Storage} {path : String}

def Node.IsText : Node → Prop
  | .directory => True
  | .file content => content.IsValidUTF8

instance : DecidablePred Node.IsText
  | .directory => inferInstanceAs (Decidable True)
  | .file content => inferInstanceAs (Decidable content.IsValidUTF8)

def IsText (storage : Storage) : Prop :=
  ∀ node ∈ storage.nodes, node.2.IsText

instance (storage : Storage) : Decidable storage.IsText :=
  inferInstanceAs (Decidable (∀ node ∈ storage.nodes, node.2.IsText))

/-- A path leads to no file, or to one that holds a text. -/
def IsTextAt (storage : Storage) (path : String) : Prop :=
  ∀ content, storage.read path = .ok content → content.IsValidUTF8

instance (storage : Storage) (path : String) : Decidable (storage.IsTextAt path) :=
  match read : storage.read path with
  | .ok content => decidable_of_iff content.IsValidUTF8 (by simp [IsTextAt, read])
  | .error _ => isTrue (by simp [IsTextAt, read])

section Access

theorem read_ok {content : ByteArray} :
    storage.read path = .ok content ↔ ∃ place name,
      storage.locate path = .ok (.name place name) ∧
        storage.node? (place ++ [name]) = some (.file content) := by
  unfold read
  cases located : storage.locate path with
  | error fault => simp [bind, Except.bind]
  | ok goal =>
    cases goal with
    | directory place => simp [bind, Except.bind, throw, throwThe, MonadExceptOf.throw]
    | name place name =>
      simp only [bind, Except.bind, Except.ok.injEq, Goal.name.injEq, and_assoc, exists_and_left,
        exists_eq_left']
      cases found : storage.node? (place ++ [name]) with
      | none => simp [throw, throwThe, MonadExceptOf.throw]
      | some node => cases node <;> simp [pure, Except.pure, throw, throwThe, MonadExceptOf.throw]

/-- A file is written where a path leads to a name that is not that of a directory. -/
theorem write_ok {content : ByteArray} (isWritten : storage.write path content = .ok written) :
    ∃ place name, storage.locate path = .ok (.name place name) ∧
      storage.node? (place ++ [name]) ≠ some .directory ∧
      written = storage.put (place ++ [name]) (.file content) := by
  unfold write at isWritten
  cases located : storage.locate path with
  | error fault => simp [located, bind, Except.bind] at isWritten
  | ok goal =>
    simp only [located, bind, Except.bind] at isWritten
    split at isWritten
    · cases isWritten
    · rename_i place name
      split at isWritten
      · cases isWritten
      · rename_i free
        cases isWritten
        exact ⟨place, name, rfl, free, rfl⟩

variable {place : List String} {content : ByteArray}

theorem node?_put (free : storage.node? place ≠ some .directory) (node : Node)
    (other : List String) :
    (storage.put place node).node? other =
      if other = place then some node else storage.node? other := by
  unfold node? put at *
  by_cases above : other.all (· == "..")
  · have differs : other ≠ place := by
      rintro rfl
      simp [above] at free
    simp [above, differs]
  · by_cases same : other = place
    · subst same
      simp [above]
    · have skipped : (place == other) = false := by simpa using Ne.symm same
      simp only [above, same, if_false, List.find?_cons, skipped, List.find?_filter]
      congr 2
      refine congrFun (congrArg List.find? (funext fun entry => ?_)) _
      by_cases isOther : entry.1 = other <;> simp [isOther, same]

theorem follow_mono {other : Storage}
    (opens : ∀ place, storage.node? place = some .directory → other.node? place = some .directory)
    {start names : List String} {goal : Goal} (followed : storage.follow start names = .ok goal) :
    other.follow start names = .ok goal := by
  fun_induction follow storage start names with
  | case1 start => exact followed
  | case3 start name rest short skipped ih =>
    rw [follow, if_neg short, if_pos skipped]
    exact ih followed
  | case4 start name rest short named up ih =>
    rw [follow, if_neg short, if_neg named, if_pos up]
    exact ih followed
  | case5 start name rest short named down last =>
    rw [follow, if_neg short, if_neg named, if_neg down, if_pos last]
    exact followed
  | case6 start name rest short named down inner found ih =>
    rw [follow, if_neg short, if_neg named, if_neg down, if_neg inner, opens _ found]
    exact ih followed
  | _ => cases followed

/-- The last name on a way is one of its names. -/
theorem mem_of_follow {start place names : List String} {name : String}
    (followed : storage.follow start names = .ok (.name place name)) : name ∈ names := by
  fun_induction follow storage start names with
  | case3 start first rest short skipped ih => exact List.mem_cons_of_mem _ (ih followed)
  | case4 start first rest short named up ih => exact List.mem_cons_of_mem _ (ih followed)
  | case5 start first rest short named down last =>
    cases followed
    exact List.mem_cons_self
  | case6 start first rest short named down inner found ih =>
    exact List.mem_cons_of_mem _ (ih followed)
  | _ => cases followed

theorem append_ne_root {place : List String} {name : String} (member : name ∈ names path) :
    place ++ [name] ≠ root := by
  intro same
  obtain ⟨piece, isPiece, rfl⟩ := List.mem_map.mp member
  cases place with
  | nil =>
    have slash : piece = ['/'] := by
      have named : String.ofList piece = "/" := List.head_eq_of_cons_eq same
      simpa using congrArg String.toList named
    have uncut := Text.cut_eq_false isPiece (slash ▸ List.mem_singleton_self '/')
    simp at uncut
  | cons first rest => simp [root] at same

theorem mem_names_of_locate {place : List String} {name : String}
    (located : storage.locate path = .ok (.name place name)) : name ∈ names path := by
  unfold locate at located
  split_ifs at located
  · exact mem_of_follow located
  · exact mem_of_follow located

theorem locate_of_put (free : storage.node? place ≠ some .directory) (inner : place ≠ root)
    {goal : Goal} (located : (storage.put place (.file content)).locate path = .ok goal) :
    storage.locate path = .ok goal := by
  have stays (other : List String)
      (found : (storage.put place (.file content)).node? other = some .directory) :
      storage.node? other = some .directory := by
    rw [node?_put free] at found
    split at found
    · cases found
    · exact found
  unfold locate at located ⊢
  rw [node?_put free, if_neg (Ne.symm inner)] at located
  split_ifs at located ⊢
  · exact follow_mono stays located
  · exact follow_mono stays located

theorem follow_ne_null (start names : List String) :
    storage.follow start names ≠ .error .nullInPath := by
  fun_induction follow storage start names with
  | case3 start name rest short skipped ih => exact ih
  | case4 start name rest short named up ih => exact ih
  | case6 start name rest short named down inner found ih => exact ih
  | _ => simp

theorem hasNull_of_locate (failed : storage.locate path = .error .nullInPath) :
    path.toList.contains '\x00' = true := by
  unfold locate at failed
  split_ifs at failed with null
  · exact null
  · cases failed
  · cases failed
  · exact absurd failed (follow_ne_null _ _)
  · cases failed
  · exact absurd failed (follow_ne_null _ _)

/-- Only a path with a null in it is no path at all, whatever is done where it leads. -/
theorem hasNull_of_bind {α : Type} {next : Goal → Except Fault α}
    (never : ∀ goal, next goal ≠ .error .nullInPath)
    (failed : (storage.locate path >>= next) = .error .nullInPath) :
    path.toList.contains '\x00' = true := by
  cases located : storage.locate path with
  | error fault =>
    rw [located] at failed
    exact hasNull_of_locate (located.trans (congrArg _ (Except.error.inj failed)))
  | ok goal =>
    rw [located] at failed
    exact absurd failed (never goal)

theorem hasNull_of_read (failed : storage.read path = .error .nullInPath) :
    path.toList.contains '\x00' = true := by
  refine hasNull_of_bind (fun goal same => ?_) failed
  split at same
  · cases same
  · split at same <;> cases same

theorem hasNull_of_write (failed : storage.write path content = .error .nullInPath) :
    path.toList.contains '\x00' = true := by
  refine hasNull_of_bind (fun goal same => ?_) failed
  split at same
  · cases same
  · split at same <;> cases same

end Access

/-- A path that leads to no file but a text still does when a text has been saved anywhere. -/
theorem IsTextAt.write (textual : storage.IsTextAt path) {target content : String}
    (isWritten : storage.write target content.toUTF8 = .ok written) : written.IsTextAt path := by
  obtain ⟨place, name, located, free, rfl⟩ := write_ok isWritten
  intro bytes isRead
  obtain ⟨goal, last, leads, found⟩ := read_ok.mp isRead
  rw [node?_put free] at found
  split at found
  · cases found
    exact content.isValidUTF8
  · have inner : place ++ [name] ≠ root := append_ne_root (mem_names_of_locate located)
    exact textual bytes (read_ok.mpr ⟨goal, last, locate_of_put free inner leads, found⟩)

/-- What has become of files where nothing but texts has been saved. -/
inductive Saved (storage : Storage) : Storage → Prop
  | none : Saved storage storage
  | save {later written : Storage} {path content : String} (earlier : Saved storage later)
      (isWritten : later.write path content.toUTF8 = .ok written) : Saved storage written

theorem Saved.isTextAt {later : Storage} (saved : storage.Saved later)
    (textual : storage.IsTextAt path) : later.IsTextAt path := by
  induction saved with
  | none => exact textual
  | save earlier isWritten ih => exact ih.write isWritten

/-- Where all files are texts, they stay texts. -/
theorem Saved.isText {later : Storage} (saved : storage.Saved later) (texts : storage.IsText) :
    later.IsText := by
  induction saved with
  | none => exact texts
  | save earlier isWritten ih =>
    obtain ⟨place, name, -, -, rfl⟩ := write_ok isWritten
    intro node member
    rcases List.mem_cons.mp member with rfl | member
    · exact String.isValidUTF8 _
    · exact ih node (List.mem_filter.mp member).1

theorem IsText.isTextAt (texts : storage.IsText) (path : String) : storage.IsTextAt path := by
  intro content isRead
  obtain ⟨place, name, -, found⟩ := read_ok.mp isRead
  unfold node? at found
  split at found
  · cases found
  · obtain ⟨entry, isFound, isFile⟩ := Option.map_eq_some_iff.mp found
    have isText := texts entry (List.mem_of_find?_eq_some isFound)
    rwa [isFile] at isText

end CommandConsole.Storage
