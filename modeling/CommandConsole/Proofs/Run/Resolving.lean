import CommandConsole.Proofs.Registry.Lookup
import CommandConsole.Proofs.Run.Table

set_option autoImplicit false

namespace CommandConsole

open CommandConsole.Action

variable {κ : Type}

namespace Registry

variable {registry : Registry κ} {space : Namespace κ} {token : String}

theorem Sound.resolve_name (sound : registry.Sound) (present : space ∈ registry.table) :
    registry.resolve space.name = .ok (.listing space) := by
  have dotless := (sound.of_table present).isName.2
  simp only [resolve, splitName_dotless dotless, Option.isNone_none, if_true,
    sound.find?_name present]

/-- A token that is no name of a namespace stands for what it is looked up to. -/
theorem resolve_unnamed (unnamed : ∀ space ∈ registry.table, space.name ≠ token) :
    registry.resolve token =
      (registry.lookup token).map fun found => .entry found.1 found.2 := by
  simp only [resolve, find?_eq_none.mpr unnamed, ite_self]
  cases registry.lookup token <;> rfl

end Registry

/-- What a console does with a token. If the token is the name of a namespace, which has no dot, the
listing of that namespace is written, as long as objects have texts for names. Otherwise the token
is looked up and nothing is written. -/
structure Console.Resolves (console : Console κ) (token : String) : Prop where
  listed : Named console.trace → ∀ space ∈ console.registry.table, space.name = token →
    '.' ∉ token.toList ∧
      resolve token console = .ok (.listing space) (console.tell (.wrote space.listing))
  lookedUp : (∀ space ∈ console.registry.table, space.name ≠ token) →
    (∀ space entry, console.registry.lookup token = .ok (space, entry) →
      resolve token console = .ok (.entry space entry) console) ∧
    ∀ cause, console.registry.lookup token = .error cause →
      resolve token console = .error (.console cause) console

section Resolve

variable {console : Console κ} {token : String}

/-- The listing of a namespace is written if all its objects have names. -/
theorem resolve_of_listing {space : Namespace κ}
    (stands : console.registry.resolve token = .ok (.listing space))
    (named : space.nameless = []) :
    resolve token console = .ok (.listing space) (console.tell (.wrote space.listing)) := by
  have writable : space.listing? = .ok space.listing := by
    rw [Namespace.listing?, named]
    rfl
  simp only [resolve, registry_bind, stands, liftError, pure_bind, writable, lift]
  rfl

theorem resolve_of_entry {space : Namespace κ} {entry : Entry κ}
    (stands : console.registry.resolve token = .ok (.entry space entry)) :
    resolve token console = .ok (.entry space entry) console := by
  simp only [resolve, registry_bind, stands, liftError, pure_bind]
  rfl

/-- A token that stands for nothing is an error, which others may write. -/
theorem resolve_of_error {cause : ConsoleError}
    (stands : console.registry.resolve token = .error cause) :
    resolve token console = .error (.console cause) console := by
  simp only [resolve, registry_bind, stands, liftError]
  rfl

theorem Registry.Sound.resolves (sound : console.registry.Sound)
    (named : Named console.trace → ∀ space ∈ console.registry.spaces, space.nameless = [])
    (token : String) : console.Resolves token where
  listed texts := by
    rintro space present rfl
    have named := named texts space (Registry.mem_table.mp present).1
    exact ⟨(sound.of_table present).isName.2, resolve_of_listing (sound.resolve_name present) named⟩
  lookedUp unnamed := by
    have stands := Registry.resolve_unnamed unnamed
    constructor
    · intro space entry found
      rw [found] at stands
      exact resolve_of_entry stands
    · intro cause failed
      rw [failed] at stands
      exact resolve_of_error stands

end Resolve

/-- Whatever has been done to a console and whatever its callbacks do, also in the middle of an
operation: the names in its table say what any token is looked up to, and whether the console lists
a namespace for it. -/
theorem tokens_resolve {console : Console κ} (reachable : console.Reachable)
    {registry : Registry κ} {trace : List (Event κ)} (moment : (registry, trace) ∈ console.moments)
    (token : String) :
    registry.LooksUp token ∧
      ∀ now : Console κ, now.registry = registry → now.trace = trace → now.Resolves token := by
  have tabled := reachable.tabled _ moment
  refine ⟨tabled.sound.looksUp token, ?_⟩
  rintro now rfl rfl
  exact tabled.sound.resolves tabled.named token

/-- A console where `x` is a command of one namespace and a setting of another, and `B` is both a
setting and a namespace. -/
def overlapping : Console Unit :=
  (Console.empty .standard .empty).actAll (fun _ _ _ => .done true) 3
    [.create ⟨.text "A", [⟨.text "x", none, .null⟩],
        [⟨.text "B", .integer, .plain .null, none, .null⟩]⟩,
      .create ⟨.text "B", [], [⟨.text "x", .integer, .plain .null, none, .null⟩,
        ⟨.text "y", .integer, .plain .null, none, .null⟩]⟩]

/-- Every outcome that there is for a token is met by one. -/
theorem overlapping_resolves :
    (∀ token ∈ ["B", "x", "y", "z", "A.B", "A.x.y", ".x", "C.x", "A."],
      overlapping.registry.LooksUp token ∧ overlapping.Resolves token) ∧
    (overlapping.registry.lookup "B" matches .ok (_, .setting _)) ∧
    (overlapping.registry.lookup "x" matches .error (.ambiguous "x" ["A", "B"])) ∧
    (overlapping.registry.lookup "z" matches .error (.notFound "z")) ∧
    (overlapping.registry.lookup "A.x.y" matches .error (.noSuchObject "A" "x.y")) ∧
    (overlapping.registry.lookup ".x" matches .error (.noSuchNamespace "")) ∧
    ((resolve "B" overlapping) matches .ok (.listing _)
      ⟨_, _, _, .wrote "B: namespace\n\tCommands: (none)\n\tVariables: x y\n" :: _⟩) ∧
    ((resolve "A.B" overlapping) matches .ok (.entry _ (.setting _)) _) := by
  have reachable : overlapping.Reachable :=
    (Console.Reachable.empty .standard .empty).actAll _ 3 _
  have now : (overlapping.registry, overlapping.trace) ∈ overlapping.moments :=
    List.mem_cons_self
  refine ⟨fun token _ => ?_, ?_⟩
  · obtain ⟨looksUp, resolves⟩ := tokens_resolve reachable now token
    exact ⟨looksUp, resolves overlapping rfl rfl⟩
  · decide +kernel

end CommandConsole
