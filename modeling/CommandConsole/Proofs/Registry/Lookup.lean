import CommandConsole.Proofs.Registry.Names
import Mathlib.Data.List.TakeWhile

set_option autoImplicit false

namespace CommandConsole

variable {κ : Type}

/-- A token with a dot is split at the first dot. -/
theorem exists_qualify {token : String} (dotted : '.' ∈ token.toList) :
    ∃ space name, token = qualify space name ∧ '.' ∉ space.toList := by
  have undotted : ∀ char ∈ token.toList.takeWhile (· != '.'), char ≠ '.' := by
    intro char member
    simpa using List.mem_takeWhile_imp member
  cases behind : token.toList.dropWhile (· != '.') with
  | nil =>
    have all := List.dropWhile_eq_nil_iff.mp behind '.' dotted
    simp at all
  | cons first name =>
    have isDot : first = '.' := by
      have stopped := List.head?_dropWhile_not (· != '.') token.toList
      rw [behind] at stopped
      simpa using stopped
    refine ⟨String.ofList (token.toList.takeWhile (· != '.')), String.ofList name, ?_, ?_⟩
    · apply String.toList_injective
      have chars := List.takeWhile_append_dropWhile (p := (· != '.')) (l := token.toList)
      rw [behind, isDot] at chars
      simp [qualify, chars]
    · rw [String.toList_ofList]
      exact fun member => undotted '.' member rfl

theorem splitName_dotless {token : String} (dotless : '.' ∉ token.toList) :
    splitName token = (none, token) := by
  have all : token.toList.takeWhile (· != '.') = token.toList :=
    List.takeWhile_eq_self_iff.mpr fun char member => by
      simpa using fun same : char = '.' => dotless (same ▸ member)
  simp only [splitName, all, List.drop_length]

def Namespace.has (space : Namespace κ) (name : String) : Bool :=
  space.entries.any (·.name == name)

theorem Namespace.isSome_find? (space : Namespace κ) (name : String) :
    (space.find? name).isSome = space.has name :=
  List.isSome_find?

theorem Namespace.find?_eq_none {space : Namespace κ} {name : String} :
    space.find? name = none ↔ ∀ entry ∈ space.entries, entry.name ≠ name := by
  simp [find?]

namespace Registry

def holders (registry : Registry κ) (name : String) : List (Namespace κ) :=
  registry.table.filter (·.has name)

/-- What a token with a dot is looked up to, by the names before and after its first dot. -/
structure LooksUpDotted (registry : Registry κ) (spaceName name : String) : Prop where
  found : ∀ space entry, registry.lookup (qualify spaceName name) = .ok (space, entry) ↔
    space ∈ registry.table ∧ space.name = spaceName ∧ entry ∈ space.entries ∧ entry.name = name
  noSpace : registry.lookup (qualify spaceName name) = .error (.noSuchNamespace spaceName) ↔
    ∀ space ∈ registry.table, space.name ≠ spaceName
  noObject : registry.lookup (qualify spaceName name) = .error (.noSuchObject spaceName name) ↔
    ∃ space ∈ registry.table, space.name = spaceName ∧ ∀ entry ∈ space.entries, entry.name ≠ name

/-- What a token without a dot is looked up to, by the namespaces that have an entry of its name. -/
structure LooksUpBare (registry : Registry κ) (name : String) : Prop where
  found : ∀ space entry, registry.lookup name = .ok (space, entry) ↔
    registry.holders name = [space] ∧ entry ∈ space.entries ∧ entry.name = name
  notFound : registry.lookup name = .error (.notFound name) ↔ registry.holders name = []
  ambiguous : ∀ names, registry.lookup name = .error (.ambiguous name names) ↔
    2 ≤ (registry.holders name).length ∧ names = (registry.holders name).map (·.name)

/-- What a token is looked up to, as an entry, a setting or a command. -/
structure LooksUp (registry : Registry κ) (token : String) : Prop where
  dotted : '.' ∈ token.toList → ∃ spaceName name, token = qualify spaceName name ∧
    '.' ∉ spaceName.toList ∧ registry.LooksUpDotted spaceName name
  bare : '.' ∉ token.toList → registry.LooksUpBare token
  setting : ∀ space setting, registry.setting token = .ok (space, setting) ↔
    registry.lookup token = .ok (space, .setting setting)
  command : ∀ space command, registry.command token = .ok (space, command) ↔
    registry.lookup token = .ok (space, .command command)

variable {registry : Registry κ} {space : Namespace κ} {entry : Entry κ}

theorem find?_eq_none {name : String} :
    registry.find? name = none ↔ ∀ space ∈ registry.table, space.name ≠ name := by
  simp [find?]

theorem Sound.find?_eq_some (sound : registry.Sound) {name : String} :
    registry.find? name = some space ↔ space ∈ registry.table ∧ space.name = name := by
  constructor
  · exact find?_ok
  · rintro ⟨present, rfl⟩
    exact sound.find?_name present

theorem Sound.entry?_eq_some (sound : registry.Sound) (present : space ∈ registry.table)
    {name : String} :
    space.find? name = some entry ↔ entry ∈ space.entries ∧ entry.name = name := by
  constructor
  · intro found
    obtain ⟨member, same, -⟩ := Namespace.find?_ok found
    exact ⟨member, same⟩
  · rintro ⟨member, rfl⟩
    exact (sound.of_table present).find?_name member

section Dotted

variable {spaceName : String} (dotless : '.' ∉ spaceName.toList) (name : String)

include dotless

theorem lookup_dotted_found :
    registry.lookup (qualify spaceName name) = .ok (space, entry) ↔
      registry.find? spaceName = some space ∧ space.find? name = some entry := by
  simp only [lookup, splitName_qualify dotless]
  cases registry.find? spaceName with
  | none => simp
  | some owner =>
    rw [Option.some.injEq]
    constructor
    · intro found
      cases inside : owner.find? name with
      | none => simp [inside] at found
      | some other =>
        simp only [inside, Except.ok.injEq, Prod.mk.injEq] at found
        obtain ⟨rfl, rfl⟩ := found
        exact ⟨rfl, inside⟩
    · rintro ⟨rfl, inside⟩
      simp only [inside]

theorem lookup_dotted_noSpace :
    registry.lookup (qualify spaceName name) = .error (.noSuchNamespace spaceName) ↔
      registry.find? spaceName = none := by
  simp only [lookup, splitName_qualify dotless]
  cases registry.find? spaceName with
  | none => simp
  | some owner => cases inside : owner.find? name <;> simp [inside]

theorem lookup_dotted_noObject :
    registry.lookup (qualify spaceName name) = .error (.noSuchObject spaceName name) ↔
      ∃ space, registry.find? spaceName = some space ∧ space.find? name = none := by
  simp only [lookup, splitName_qualify dotless]
  cases registry.find? spaceName with
  | none => simp
  | some owner => cases inside : owner.find? name <;> simp [inside]

theorem Sound.looksUpDotted (sound : registry.Sound) : registry.LooksUpDotted spaceName name where
  found space entry := by
    rw [lookup_dotted_found dotless, sound.find?_eq_some, and_assoc]
    refine and_congr_right fun present => and_congr_right fun _ => ?_
    exact sound.entry?_eq_some present
  noSpace := (lookup_dotted_noSpace dotless name).trans find?_eq_none
  noObject := by
    rw [lookup_dotted_noObject dotless]
    simp only [sound.find?_eq_some, Namespace.find?_eq_none, and_assoc]

end Dotted

section Bare

variable {name : String}

/-- The namespaces that have an entry of a name are its owners. -/
theorem map_owners (registry : Registry κ) (name : String) :
    (registry.owners name).map Prod.fst = registry.holders name := by
  rw [owners, holders]
  induction registry.table with
  | nil => rfl
  | cons space rest ih =>
    rw [List.filterMap_cons, List.filter_cons, ← space.isSome_find? name]
    cases space.find? name with
    | none => exact ih
    | some entry => exact congrArg (space :: ·) ih

theorem owners_eq_singleton :
    registry.owners name = [(space, entry)] ↔
      registry.holders name = [space] ∧ space.find? name = some entry := by
  rw [← map_owners]
  constructor
  · intro only
    have member : (space, entry) ∈ registry.owners name := by rw [only]; exact List.mem_cons_self
    exact ⟨by rw [only]; rfl, (mem_owners.mp member).2⟩
  · rintro ⟨only, found⟩
    obtain ⟨⟨other, inside⟩, isOnly, rfl⟩ := List.map_eq_singleton_iff.mp only
    have member : (other, inside) ∈ registry.owners name := by
      rw [isOnly]
      exact List.mem_cons_self
    have same := (mem_owners.mp member).2
    rw [found] at same
    rw [isOnly, Option.some.inj same]

variable (dotless : '.' ∉ name.toList)

include dotless

theorem lookup_bare_found :
    registry.lookup name = .ok (space, entry) ↔ registry.owners name = [(space, entry)] := by
  simp only [lookup, splitName_dotless dotless]
  rcases registry.owners name with _ | ⟨owner, _ | ⟨other, rest⟩⟩ <;> simp

theorem lookup_bare_notFound :
    registry.lookup name = .error (.notFound name) ↔ registry.owners name = [] := by
  simp only [lookup, splitName_dotless dotless]
  rcases registry.owners name with _ | ⟨owner, _ | ⟨other, rest⟩⟩ <;> simp

theorem lookup_bare_ambiguous (names : List String) :
    registry.lookup name = .error (.ambiguous name names) ↔
      2 ≤ (registry.owners name).length ∧ names = (registry.owners name).map (·.1.name) := by
  simp only [lookup, splitName_dotless dotless]
  rcases registry.owners name with _ | ⟨owner, _ | ⟨other, rest⟩⟩ <;> simp [eq_comm]

theorem Sound.looksUpBare (sound : registry.Sound) : registry.LooksUpBare name where
  found space entry := by
    rw [lookup_bare_found dotless, owners_eq_singleton]
    refine and_congr_right fun only => ?_
    have member : space ∈ registry.holders name := by rw [only]; exact List.mem_cons_self
    exact sound.entry?_eq_some (List.mem_filter.mp member).1
  notFound := by
    rw [lookup_bare_notFound dotless, ← map_owners, List.map_eq_nil_iff]
  ambiguous names := by
    rw [lookup_bare_ambiguous dotless, ← map_owners, List.length_map, List.map_map]
    rfl

end Bare

theorem setting_eq_ok {token : String} {setting : Setting κ} :
    registry.setting token = .ok (space, setting) ↔
      registry.lookup token = .ok (space, .setting setting) := by
  rw [Registry.setting]
  rcases registry.lookup token with cause | ⟨owner, command | other⟩ <;> simp

theorem command_eq_ok {token : String} {command : Command κ} :
    registry.command token = .ok (space, command) ↔
      registry.lookup token = .ok (space, .command command) := by
  rw [Registry.command]
  rcases registry.lookup token with cause | ⟨owner, other | setting⟩ <;> simp

/-- In a sound registry tokens are looked up exactly as the names in its table say. -/
theorem Sound.looksUp (sound : registry.Sound) (token : String) : registry.LooksUp token where
  dotted isDotted := by
    obtain ⟨spaceName, name, rfl, dotless⟩ := exists_qualify isDotted
    exact ⟨spaceName, name, rfl, dotless, sound.looksUpDotted dotless name⟩
  bare dotless := sound.looksUpBare dotless
  setting _ _ := setting_eq_ok
  command _ _ := command_eq_ok

end Registry

end CommandConsole
