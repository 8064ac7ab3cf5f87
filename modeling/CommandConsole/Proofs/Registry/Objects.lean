import CommandConsole.Proofs.Registry.Creation
import Mathlib.Data.List.InsertIdx

set_option autoImplicit false

namespace CommandConsole

variable {κ : Type}

/-- Puts objects without names among others, each at its position. -/
def place (objects : List (Data × Entry κ)) (others : List (Nameless κ)) :
    List (Data × Entry κ) :=
  others.foldl (fun objects found => objects.insertIdx found.position (found.label, found.entry))
    objects

def Entry.object (entry : Entry κ) : Data × Entry κ :=
  (.text entry.name, entry)

namespace Namespace

theorem objects_eq (space : Namespace κ) :
    space.objects = place (space.entries.map Entry.object) space.nameless := rfl

end Namespace

theorem mem_place {objects : List (Data × Entry κ)} {others : List (Nameless κ)}
    {object : Data × Entry κ} (member : object ∈ place objects others) :
    object ∈ objects ∨ ∃ found ∈ others, object = (found.label, found.entry) := by
  induction others generalizing objects with
  | nil => exact .inl member
  | cons found rest ih =>
    rcases ih member with inserted | ⟨other, isOther, same⟩
    · rcases List.eq_or_mem_of_mem_insertIdx inserted with rfl | inside
      · exact .inr ⟨found, List.mem_cons_self, rfl⟩
      · exact .inl inside
    · exact .inr ⟨other, List.mem_cons_of_mem _ isOther, same⟩

theorem Namespace.mem_objects {space : Namespace κ} {object : Data × Entry κ}
    (member : object ∈ space.objects) :
    (∃ entry ∈ space.entries, object = entry.object) ∨
      ∃ found ∈ space.nameless, object = (found.label, found.entry) := by
  rcases mem_place (space.objects_eq ▸ member) with inside | other
  · obtain ⟨entry, isEntry, rfl⟩ := List.mem_map.mp inside
    exact .inl ⟨entry, isEntry, rfl⟩
  · exact .inr other

def pristine (object : Data × Entry κ) : Data × Entry κ :=
  (object.1, object.2.pristine)

theorem place_pristine {others : List (Nameless κ)}
    (declared : ∀ found ∈ others, found.entry.pristine = found.entry)
    (objects : List (Data × Entry κ)) :
    (place objects others).map pristine = place (objects.map pristine) others := by
  induction others generalizing objects with
  | nil => rfl
  | cons found rest ih =>
    have kept : pristine (found.label, found.entry) = (found.label, found.entry) := by
      rw [pristine, declared found List.mem_cons_self]
    have inserted : (objects.insertIdx found.position (found.label, found.entry)).map pristine =
        (objects.map pristine).insertIdx found.position (found.label, found.entry) := by
      rw [List.map_insertIdx, kept]
    exact (ih (fun other member => declared other (List.mem_cons_of_mem _ member)) _).trans
      (congrArg (place · rest) inserted)

/-- The shape of a namespace holds the objects as they were declared. -/
theorem Namespace.objects_shape {space : Namespace κ}
    (declared : ∀ found ∈ space.nameless, found.entry.pristine = found.entry) :
    space.shape.objects = space.objects.map pristine := by
  rw [objects_eq, objects_eq, place_pristine declared]
  simp only [shape, List.map_map]
  congr 1
  refine List.map_congr_left fun entry _ => ?_
  simp only [Function.comp, Entry.object, pristine, Entry.name_pristine]

theorem insertIdx_length {α : Type} (front : List α) (item : α) (rest : List α) :
    (front ++ rest).insertIdx front.length item = front ++ item :: rest := by
  induction front with
  | nil => rfl
  | cons first front ih => exact congrArg (first :: ·) ih

/-- Those without names are put back where they were declared. -/
theorem place_nameless (front : List (Data × Entry κ)) {objects : List (Data × Entry κ)}
    (declared : ∀ object ∈ objects, IsDeclared object) :
    place (front ++ (named objects).map Entry.object)
        ((objects.zipIdx front.length).filterMap fun (object, position) =>
          if object.1.isText then none else some ⟨position, object.1, object.2⟩) =
      front ++ objects := by
  induction objects generalizing front with
  | nil => simp [named, place]
  | cons object rest ih =>
    have next := ih (front ++ [object]) fun other member =>
      declared other (List.mem_cons_of_mem _ member)
    rw [List.length_append, List.length_singleton, List.append_assoc, List.append_assoc,
      List.singleton_append, List.singleton_append] at next
    obtain ⟨label, entry⟩ := object
    have isDeclared := declared _ List.mem_cons_self
    cases isText : label.isText with
    | true =>
      have isEntry : entry.object = (label, entry) := by
        cases label with
        | text content => rw [Entry.object, isDeclared.name content rfl]
        | _ => cases isText
      simp only [named, List.filterMap_cons, isText, if_true, List.map_cons, isEntry,
        List.zipIdx_cons]
      exact next
    | false =>
      simp only [named, List.filterMap_cons, isText, Bool.false_eq_true, if_false,
        List.zipIdx_cons]
      have inserted := insertIdx_length front (label, entry) ((named rest).map Entry.object)
      exact (congrArg (place · _) inserted).trans next

/-- A setting is what a declared setting becomes, whatever it holds now: it has the declared kind,
and for its default the declared one, or the zero of the kind where none is declared. -/
structure Setting.IsOf (setting : Setting κ) (declared : SettingDeclaration (Callback κ)) :
    Prop where
  name : setting.name = declared.name.plain
  kind : setting.kind = declared.kind
  default : declared.defaultValue = .ok setting.default
  zero : declared.default = .plain .null → setting.default = setting.kind.zero

def IsObjectOf (declared : SettingDeclaration (Callback κ)) (object : Data × Entry κ) : Prop :=
  object.1 = declared.name ∧ ∃ setting, object.2 = .setting setting ∧ setting.IsOf declared

theorem isObjectOf {declaration : NamespaceDeclaration (Callback κ)}
    {declared : SettingDeclaration (Callback κ)} {object : Data × Entry κ}
    (made : declaration.settingObject declared = .ok (pristine object)) :
    IsObjectOf declared object := by
  obtain ⟨label, entry⟩ := object
  unfold NamespaceDeclaration.settingObject at made
  split at made
  · rename_i default isDefault
    simp only [pristine, Except.ok.injEq, Prod.mk.injEq] at made
    refine ⟨made.1.symm, ?_⟩
    cases entry with
    | command command => cases made.2
    | setting setting =>
      simp only [Entry.pristine, Entry.setting.injEq, Setting.ofDeclaration, Setting.mk.injEq]
        at made
      obtain ⟨-, name, -, kind, default, -⟩ := made
      refine ⟨setting, rfl, name.symm, kind.symm, default ▸ isDefault, fun absent => ?_⟩
      rw [SettingDeclaration.defaultValue, absent] at isDefault
      simp only [Payload.valueOr] at isDefault
      split at isDefault
      · rw [← default, ← kind, Except.ok.inj isDefault]
      · cases isDefault
  · cases made

section Declared

variable {registry : Registry κ} {config : Config} {space : Namespace κ}
  {declaration : NamespaceDeclaration (Callback κ)}

/-- A namespace that has just been declared holds the objects of its declaration. -/
theorem Registry.objects_declared (success : registry.declared config declaration = .ok space) :
    declaration.objects = .ok space.objects ∧
      ∀ found ∈ space.nameless, found.entry.pristine = found.entry := by
  obtain ⟨objects, areObjects, entries, others⟩ := objects_of_declared success
  have declared := (NamespaceDeclaration.objects_ok areObjects).2.2
  have placed := place_nameless [] declared
  rw [List.nil_append, List.nil_append] at placed
  refine ⟨?_, fun found member => ?_⟩
  · rw [areObjects, Namespace.objects_eq, entries, others]
    exact congrArg Except.ok placed.symm
  · rw [others, nameless, List.mem_filterMap] at member
    obtain ⟨⟨object, position⟩, isObject, isFound⟩ := member
    simp only [Option.ite_none_left_eq_some, Option.some.injEq] at isFound
    rw [← isFound.2]
    exact (declared object (List.fst_mem_of_mem_zipIdx isObject)).pristine

/-- The settings among the objects of a declaration are what its settings become, in their order. -/
theorem Namespace.settings_declared
    (made : declaration.objects = .ok (space.objects.map pristine)) :
    List.Forall₂ IsObjectOf declaration.settings
      (space.objects.filter fun object => object.2.setting?.isSome) := by
  simp only [NamespaceDeclaration.objects, except_bind_ok, pure, Except.pure,
    Except.ok.injEq] at made
  obtain ⟨_, -, settings, areSettings, same⟩ := made
  have objects := mapM_ok areSettings
  have areOnly : (space.objects.filter fun object => object.2.setting?.isSome).map pristine =
      settings := by
    have kept : (fun object : Data × Entry κ => object.2.setting?.isSome) =
        (fun object => object.2.setting?.isSome) ∘ pristine := by
      funext object
      exact object.2.setting?_pristine.symm
    rw [kept, ← List.filter_map, ← same, List.filter_append, List.filter_eq_self.mpr,
      List.filter_eq_nil_iff.mpr, List.append_nil]
    · intro object member
      obtain ⟨command, _, rfl⟩ := List.mem_map.mp member
      simp [NamespaceDeclaration.commandObject, Entry.setting?]
    · intro object member
      obtain ⟨declared, _, isObject⟩ := exists_of_mem_right objects member
      exact NamespaceDeclaration.isSome_settingObject isObject
  rw [← areOnly, List.forall₂_map_right_iff] at objects
  exact objects.imp fun _ _ => isObjectOf

theorem object_pristine (entry : Entry κ) : entry.pristine.object = pristine entry.object := by
  rw [Entry.object, pristine, Entry.object, entry.name_pristine]

theorem map_object_named {objects : List (Data × Entry κ)}
    (declared : ∀ object ∈ objects, IsDeclared object)
    (texts : ∀ object ∈ objects, object.1.isText = true) :
    (named objects).map Entry.object = objects :=
  (congrArg (place ((named objects).map Entry.object)) (nameless_eq_nil texts)).symm.trans
    (place_nameless [] declared)

theorem filter_object (entries : List (Entry κ)) :
    (entries.map Entry.object).filter (fun object => object.2.setting?.isSome) =
      (entries.filterMap Entry.setting?).map fun setting =>
        (.text setting.name, .setting setting) := by
  induction entries with
  | nil => rfl
  | cons entry rest ih =>
    cases entry with
    | command command => exact ih
    | setting setting => exact congrArg ((Data.text setting.name, Entry.setting setting) :: ·) ih

/-- A namespace whose objects all have names holds what the settings of its declaration become. -/
theorem Namespace.IsMadeBy.settings_declared (made : space.IsMadeBy declaration)
    (texts : declaration.names.all Data.isText) :
    List.Forall₂ (fun declared setting => declared.name = .text setting.name ∧
      setting.IsOf declared) declaration.settings space.settings := by
  obtain ⟨objects, areObjects, entries⟩ := made.entries
  obtain ⟨-, labels, areDeclared⟩ := NamespaceDeclaration.objects_ok areObjects
  have areNamed : ∀ object ∈ objects, object.1.isText = true := fun object member =>
    List.all_eq_true.mp texts _ (labels ▸ List.mem_map_of_mem member)
  have same : objects = (space.entries.map Entry.object).map pristine := by
    rw [← map_object_named areDeclared areNamed, ← entries, List.map_map, List.map_map]
    exact List.map_congr_left fun entry _ => object_pristine entry
  rw [same] at areObjects
  have held := @Namespace.settings_declared _ { space with nameless := [] } _ areObjects
  rw [Namespace.objects_eq] at held
  have held : List.Forall₂ IsObjectOf declaration.settings
      (space.settings.map fun setting => (.text setting.name, .setting setting)) :=
    filter_object space.entries ▸ held
  rw [List.forall₂_map_right_iff] at held
  refine held.imp fun declared setting isObject => ?_
  obtain ⟨name, other, isSetting, isOf⟩ := isObject
  exact ⟨name.symm, Entry.setting.inj isSetting ▸ isOf⟩

end Declared

end CommandConsole
