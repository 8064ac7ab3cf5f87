import CommandConsole.Proofs.Run.Table

set_option autoImplicit false

/-!
What tokens stand for while the table grows. A bare name can become ambiguous, or hidden by a
namespace of that name, but it never comes to stand for another entry. Main statement: creating
namespaces retargets no token (`creations_retain`).
-/
namespace CommandConsole

open CommandConsole.Action

variable {κ : Type}

theorem splitName_of_bare {token : String} (bare : (splitName token).1 = none) :
    splitName token = (none, token) := by
  simp only [splitName] at bare ⊢
  split
  · rename_i same
    rw [same] at bare
    cases bare
  · rfl

theorem splitName_of_dotted {token : String} (dotted : (splitName token).1.isSome) :
    ∃ space name, splitName token = (some space, name) := by
  obtain ⟨space, isSpace⟩ := Option.isSome_iff_exists.mp dotted
  exact ⟨space, (splitName token).2, Prod.ext isSpace rfl⟩

namespace Registry

variable {before after : Registry κ} {token : String}

/-- What a token stands for in a registry, against what it stands for in a later one. -/
structure Retains (before after : Registry κ) (token : String) : Prop where
  dotted : (splitName token).1.isSome → ∀ space entry,
    before.lookup token = .ok (space, entry) → after.lookup token = .ok (space, entry)
  bare : (splitName token).1 = none → ∀ space entry,
    before.resolve token = .ok (.entry space entry) →
      after.resolve token = .ok (.entry space entry) ∨
      (∃ names, after.resolve token = .error (.ambiguous token names) ∧ space.name ∈ names) ∨
      ∃ cover, after.resolve token = .ok (.listing cover) ∧ cover.name = token
  ambiguous : ∀ name names, before.resolve token = .error (.ambiguous name names) →
    (∃ more, after.resolve token = .error (.ambiguous name (names ++ more))) ∨
    ∃ cover, after.resolve token = .ok (.listing cover) ∧ cover.name = token
  listing : ∀ space, before.resolve token = .ok (.listing space) →
    after.resolve token = .ok (.listing space)

/-- A registry that has the table of another with more namespaces behind. -/
def ExtendsTo (before after : Registry κ) : Prop :=
  before.table <+: after.table

theorem ExtendsTo.find? (longer : before.ExtendsTo after) {name : String} {space : Namespace κ}
    (found : before.find? name = some space) : after.find? name = some space :=
  List.IsPrefix.find?_eq_some longer found

theorem ExtendsTo.owners (longer : before.ExtendsTo after) (name : String) :
    before.owners name <+: after.owners name :=
  List.IsPrefix.filterMap _ longer

theorem ExtendsTo.lookup_dotted (longer : before.ExtendsTo after)
    (dotted : (splitName token).1.isSome) {space : Namespace κ} {entry : Entry κ}
    (found : before.lookup token = .ok (space, entry)) :
    after.lookup token = .ok (space, entry) := by
  obtain ⟨spaceName, name, split⟩ := splitName_of_dotted dotted
  simp only [lookup, split] at found ⊢
  cases owner : before.find? spaceName with
  | none => simp [owner] at found
  | some present => simpa [longer.find? owner, owner] using found

/-- What the owners of a bare name make of it where no namespace has that name. -/
def ofOwners (name : String) : List (Namespace κ × Entry κ) → Except ConsoleError (Resolution κ)
  | [] => .error (.notFound name)
  | [(space, entry)] => .ok (.entry space entry)
  | several => .error (.ambiguous name (several.map (·.1.name)))

theorem resolve_bare (registry : Registry κ) (bare : (splitName token).1 = none) :
    registry.resolve token =
      match registry.find? token with
      | some space => .ok (.listing space)
      | none => ofOwners token (registry.owners token) := by
  simp only [resolve, lookup, splitName_of_bare bare, Option.isNone_none, if_true]
  cases registry.find? token with
  | some space => rfl
  | none =>
    rcases registry.owners token with _ | ⟨_, _ | _⟩ <;> rfl

/-- A dotted token is neither ambiguous nor the name of a namespace. -/
theorem resolve_dotted (registry : Registry κ) (dotted : (splitName token).1.isSome) :
    (∀ name names, registry.resolve token ≠ .error (.ambiguous name names)) ∧
      ∀ space, registry.resolve token ≠ .ok (.listing space) := by
  obtain ⟨spaceName, name, split⟩ := splitName_of_dotted dotted
  simp only [resolve, lookup, split, Option.isNone_some]
  cases registry.find? spaceName with
  | none => simp
  | some space => cases inside : space.find? name <;> simp [inside]

/-- A bare name keeps the owners that it has, or a namespace of that name hides them. -/
theorem ExtendsTo.resolve_bare (longer : before.ExtendsTo after)
    (bare : (splitName token).1 = none) :
    (∃ more, after.resolve token = ofOwners token (before.owners token ++ more)) ∨
      ∃ cover, after.resolve token = .ok (.listing cover) ∧ cover.name = token := by
  rw [after.resolve_bare bare]
  cases hidden : after.find? token with
  | some cover => exact .inr ⟨cover, rfl, (find?_ok hidden).2⟩
  | none =>
    obtain ⟨more, isMore⟩ := longer.owners token
    exact .inl ⟨more, by rw [isMore]⟩

theorem ofOwners_entry {name : String} {owners : List (Namespace κ × Entry κ)}
    {space : Namespace κ} {entry : Entry κ}
    (only : ofOwners name owners = .ok (.entry space entry)) : owners = [(space, entry)] := by
  match owners with
  | [] | _ :: _ :: _ => cases only
  | [_] =>
    cases only
    rfl

theorem ofOwners_ambiguous {name other : String} {owners : List (Namespace κ × Entry κ)}
    {names : List String} (several : ofOwners name owners = .error (.ambiguous other names)) :
    other = name ∧ 2 ≤ owners.length ∧ names = owners.map (·.1.name) := by
  match owners with
  | [] | [_] => cases several
  | _ :: _ :: _ =>
    cases several
    exact ⟨rfl, by simp, rfl⟩

theorem ofOwners_several (name : String) {owners : List (Namespace κ × Entry κ)}
    (several : 2 ≤ owners.length) :
    ofOwners name owners = .error (.ambiguous name (owners.map (·.1.name))) := by
  match owners, several with
  | _ :: _ :: _, _ => rfl

theorem ExtendsTo.bare (longer : before.ExtendsTo after) (bare : (splitName token).1 = none)
    {space : Namespace κ} {entry : Entry κ}
    (found : before.resolve token = .ok (.entry space entry)) :
    after.resolve token = .ok (.entry space entry) ∨
      (∃ names, after.resolve token = .error (.ambiguous token names) ∧ space.name ∈ names) ∨
      ∃ cover, after.resolve token = .ok (.listing cover) ∧ cover.name = token := by
  rw [before.resolve_bare bare] at found
  split at found
  · cases found
  · rcases longer.resolve_bare bare with ⟨more, stands⟩ | covered
    · rw [ofOwners_entry found, List.singleton_append] at stands
      cases more with
      | nil => exact .inl stands
      | cons other rest => exact .inr (.inl ⟨_, stands, List.mem_cons_self⟩)
    · exact .inr (.inr covered)

/-- A bare name that had several owners still has them before all others. -/
theorem ExtendsTo.ambiguous (longer : before.ExtendsTo after) (bare : (splitName token).1 = none)
    {name : String} {names : List String}
    (found : before.resolve token = .error (.ambiguous name names)) :
    (∃ more, after.resolve token = .error (.ambiguous name (names ++ more))) ∨
      ∃ cover, after.resolve token = .ok (.listing cover) ∧ cover.name = token := by
  rw [before.resolve_bare bare] at found
  split at found
  · cases found
  · obtain ⟨rfl, several, rfl⟩ := ofOwners_ambiguous found
    rcases longer.resolve_bare bare with ⟨more, stands⟩ | covered
    · have stillSeveral : 2 ≤ (before.owners name ++ more).length := by
        rw [List.length_append]
        omega
      rw [ofOwners_several name stillSeveral, List.map_append] at stands
      exact .inl ⟨_, stands⟩
    · exact .inr covered

theorem ExtendsTo.listing (longer : before.ExtendsTo after) (bare : (splitName token).1 = none)
    {space : Namespace κ} (found : before.resolve token = .ok (.listing space)) :
    after.resolve token = .ok (.listing space) := by
  rw [before.resolve_bare bare] at found
  split at found
  · rename_i listed
    rw [after.resolve_bare bare, longer.find? listed]
    exact found
  · unfold ofOwners at found
    split at found <;> cases found

/-- A table that grows retargets no token. -/
theorem ExtendsTo.retains (longer : before.ExtendsTo after) (token : String) :
    before.Retains after token := by
  by_cases bare : (splitName token).1 = none
  · exact ⟨fun dotted => by simp [bare] at dotted, fun _ _ _ => longer.bare bare,
      fun _ _ => longer.ambiguous bare, fun _ => longer.listing bare⟩
  · have dotted : (splitName token).1.isSome := Option.isSome_iff_ne_none.mpr bare
    obtain ⟨unambiguous, unlisted⟩ := before.resolve_dotted dotted
    exact ⟨fun _ _ _ => longer.lookup_dotted dotted, fun isBare => absurd isBare bare,
      fun name names found => absurd found (unambiguous name names),
      fun space found => absurd found (unlisted space)⟩

end Registry

variable {console : Console κ}

/-- A creation puts a namespace behind the others, or fails and changes nothing. -/
theorem extendsTo_create (conduct : Conduct κ) (bound : Nat)
    (declaration : NamespaceDeclaration (Callback κ)) :
    console.registry.ExtendsTo
      ((Console.act conduct bound (.create declaration)).after console).registry := by
  rw [← ends_after _ _ fun after => console.registry.ExtendsTo after.registry, Console.act,
    ends_perform]
  change Ends (Reply.space <$> create declaration) _ _
  rw [ends_map, ends_create]
  split
  · rename_i space declared
    obtain ⟨-, -, -, isRegistered, isNext, -⟩ := Registry.declared_ok declared
    refine ⟨[space], ?_⟩
    exact (Registry.table_add isNext isRegistered).symm
  · exact List.prefix_refl _

/-- However many namespaces a host creates, also where some of them are refused, no token comes to
stand for another entry or another namespace than before. -/
theorem creations_retain (console : Console κ) (conduct : Conduct κ) (bound : Nat)
    (declarations : List (NamespaceDeclaration (Callback κ))) (token : String) :
    console.registry.Retains
      (console.actAll conduct bound (declarations.map .create)).registry token := by
  suffices longer : console.registry.ExtendsTo
      (console.actAll conduct bound (declarations.map .create)).registry from longer.retains token
  induction declarations generalizing console with
  | nil => exact List.prefix_refl _
  | cons declaration rest ih => exact (extendsTo_create conduct bound declaration).trans (ih _)

def settled (name : String) (settings : List String) : NamespaceDeclaration (Callback Unit) :=
  ⟨.text name, [], settings.map fun setting =>
    ⟨.text setting, .integer, .plain .null, none, .null⟩⟩

/-- A console where some names have one owner and some have two. -/
def sparse : Console Unit :=
  (Console.empty .standard .empty).actAll (fun _ _ _ => .done true) 3
    [.create (settled "A" ["u", "v", "w", "x", "y"]), .create (settled "B" ["x", "y"])]

/-- Namespaces that share names with those before, or have names of entries; one is refused. -/
def newcomers : List (NamespaceDeclaration (Callback Unit)) :=
  [settled "C" ["v", "x"], settled "A" ["u"], settled "w" [], settled "y" []]

/-- Each thing that can become of a token becomes of one. -/
theorem sparse_retains :
    let after := sparse.actAll (fun _ _ _ => .done true) 3 (newcomers.map .create)
    (after.registry.table.map (·.name) = ["A", "B", "C", "w", "y"]) ∧
      (∀ token ∈ ["A", "A.v", "u", "v", "w", "x", "y"],
        sparse.registry.Retains after.registry token) ∧
      (after.registry.resolve "u" matches .ok (.entry _ _)) ∧
      (after.registry.resolve "v" matches .error (.ambiguous "v" ["A", "C"])) ∧
      (after.registry.resolve "w" matches .ok (.listing _)) ∧
      (after.registry.resolve "x" matches .error (.ambiguous "x" ["A", "B", "C"])) ∧
      (after.registry.resolve "y" matches .ok (.listing _)) := by
  refine ⟨by decide +kernel, fun token _ => creations_retain sparse _ 3 newcomers token, ?_⟩
  decide +kernel

end CommandConsole
