import Mathlib.Data.List.Forall2
import CommandConsole.Declaration.Document

set_option autoImplicit false

namespace CommandConsole

/-- Data that hold no other data and are the same wherever they are met. -/
def Data.isAtom : Data → Bool
  | null | boolean _ | integer _ | text _ | bytes _ => true
  | real number => number != .undefined
  | _ => false

/-- Data built from atoms by lists and mappings. -/
inductive Data.IsTree : Data → Prop
  | atom {data : Data} (isAtom : data.isAtom = true) : IsTree data
  | list {items : List Data} (inner : ∀ item ∈ items, IsTree item) : IsTree (.list items)
  | mapping {pairs : List (Data × Data)} (keys : ∀ pair ∈ pairs, IsTree pair.1)
      (inner : ∀ pair ∈ pairs, IsTree pair.2) : IsTree (.mapping pairs)

def Data.isAtomOf : Data → Data → Bool
  | null, null => true
  | boolean truth, boolean other => truth == other
  | integer number, integer other => number == other
  | real number, real other => number == other && other != .undefined
  | text content, text other => content == other
  | bytes content, bytes other => content == other
  | _, _ => false

def Data.record (fields : List (String × Data)) : Data :=
  .mapping (fields.map fun field => (.text field.1, field.2))

namespace Graph

mutual

/-- Whether a place of a graph shows given data. -/
def shows (graph : Graph) : Data → Nat → Bool
  | .list items, place =>
    match graph[place]? with
    | some (.list places) => showsAll graph items places
    | _ => false
  | .mapping pairs, place =>
    match graph[place]? with
    | some (.mapping places) => showsPairs graph pairs places
    | _ => false
  | data, place =>
    match graph[place]? with
    | some (.leaf found) => found.isAtomOf data
    | _ => false

def showsAll (graph : Graph) : List Data → List Nat → Bool
  | [], [] => true
  | item :: items, place :: places => shows graph item place && showsAll graph items places
  | _, _ => false

def showsPairs (graph : Graph) : List (Data × Data) → List (Nat × Nat) → Bool
  | [], [] => true
  | (key, item) :: pairs, (first, second) :: places =>
    shows graph key first && shows graph item second && showsPairs graph pairs places
  | _, _ => false

end

/-- A graph whose cells are all found in another one, each at its place. -/
def Extends (graph larger : Graph) : Prop :=
  ∀ (place : Nat) (cell : Cell), graph[place]? = some cell → larger[place]? = some cell

end Graph

def Datum.shows (datum : Datum) (data : Data) : Bool :=
  datum.graph.shows data datum.place

/-- Whether loading undoes writing for given data. -/
def Yaml.restores (data : Data) : Bool :=
  match Yaml.load (Yaml.write data) with
  | .ok datum => datum.shows data
  | .error _ => false

/-- Related items stay related where each of the items admits it. -/
theorem forall₂_imp_of_mem {α β : Type} {related other : α → β → Prop} {items : List α}
    {results : List β} (all : List.Forall₂ related items results)
    (implies : ∀ item ∈ items, ∀ result, related item result → other item result) :
    List.Forall₂ other items results :=
  ((List.forall₂_and_left items results).mpr ⟨implies, all⟩).imp
    fun _ result both => both.1 result both.2

section Shows

variable {graph larger largest : Graph} {data : Data} {items : List Data}
  {pairs : List (Data × Data)} {place : Nat} {places : List Nat}

theorem Data.isAtomOf_iff {found data : Data} :
    found.isAtomOf data = true ↔ found = data ∧ data.isAtom = true := by
  constructor
  · intro same
    unfold Data.isAtomOf at same
    split at same <;> simp_all [Data.isAtom]
  · rintro ⟨rfl, isAtom⟩
    cases found <;> simp_all [Data.isAtom, Data.isAtomOf]

namespace Graph

theorem shows_atom (isAtom : data.isAtom = true) :
    graph.shows data place = true ↔ graph[place]? = some (.leaf data) := by
  have leaf : graph.shows data place = (match graph[place]? with
      | some (.leaf found) => found.isAtomOf data
      | _ => false) := by
    cases data <;> first | rfl | simp [Data.isAtom] at isAtom
  rw [leaf]
  constructor
  · intro same
    split at same
    · rename_i found stands
      rw [stands, (Data.isAtomOf_iff.mp same).1]
    · cases same
  · intro stands
    simp only [stands, Data.isAtomOf_iff, true_and]
    exact isAtom

theorem showsAll_iff : graph.showsAll items places = true ↔
    List.Forall₂ (fun item place => graph.shows item place = true) items places := by
  induction items generalizing places with
  | nil => cases places <;> simp [showsAll]
  | cons item items ih => cases places <;> simp [showsAll, ih]

theorem shows_list : graph.shows (.list items) place = true ↔
    ∃ places, graph[place]? = some (.list places) ∧
      List.Forall₂ (fun item place => graph.shows item place = true) items places := by
  rw [shows]
  constructor
  · intro all
    split at all
    · rename_i places stands
      exact ⟨places, stands, showsAll_iff.mp all⟩
    · cases all
  · rintro ⟨places, stands, all⟩
    simp only [stands, showsAll_iff]
    exact all

theorem showsPairs_iff {places : List (Nat × Nat)} : graph.showsPairs pairs places = true ↔
    List.Forall₂ (fun pair places => graph.shows pair.1 places.1 = true ∧
      graph.shows pair.2 places.2 = true) pairs places := by
  induction pairs generalizing places with
  | nil => cases places <;> simp [showsPairs]
  | cons pair pairs ih => cases places <;> simp [showsPairs, ih]

theorem shows_mapping : graph.shows (.mapping pairs) place = true ↔
    ∃ places, graph[place]? = some (.mapping places) ∧
      List.Forall₂ (fun pair places => graph.shows pair.1 places.1 = true ∧
        graph.shows pair.2 places.2 = true) pairs places := by
  rw [shows]
  constructor
  · intro all
    split at all
    · rename_i places stands
      exact ⟨places, stands, showsPairs_iff.mp all⟩
    · cases all
  · rintro ⟨places, stands, all⟩
    simp only [stands, showsPairs_iff]
    exact all

theorem Extends.refl (graph : Graph) : graph.Extends graph :=
  fun _ _ stands => stands

theorem Extends.trans (first : graph.Extends larger) (second : larger.Extends largest) :
    graph.Extends largest :=
  fun place cell stands => second place cell (first place cell stands)

theorem Extends.push (extends' : graph.Extends larger) (cell : Cell) :
    graph.Extends (larger.push cell) := by
  intro place found stands
  have inside := extends' place found stands
  have bound : place < larger.size := (Array.getElem?_eq_some_iff.mp inside).1
  rw [Array.getElem?_push, if_neg (by omega)]
  exact inside

theorem Extends.shows (extends' : graph.Extends larger) (tree : data.IsTree)
    (shows : graph.shows data place = true) : larger.shows data place = true := by
  induction tree generalizing place with
  | atom isAtom =>
    rw [shows_atom isAtom] at shows ⊢
    exact extends' place _ shows
  | list inner ih =>
    obtain ⟨places, stands, all⟩ := shows_list.mp shows
    exact shows_list.mpr ⟨places, extends' place _ stands,
      forall₂_imp_of_mem all fun item member _ shown => ih item member shown⟩
  | mapping keys inner ihKeys ih =>
    obtain ⟨places, stands, all⟩ := shows_mapping.mp shows
    exact shows_mapping.mpr ⟨places, extends' place _ stands,
      forall₂_imp_of_mem all fun pair member _ shown =>
        ⟨ihKeys pair member shown.1, ih pair member shown.2⟩⟩

/-- The graph after some data are added is larger and shows them at a place. -/
def Adds (graph : Graph) (data : Data) (added : Graph × Nat) : Prop :=
  graph.Extends added.1 ∧ added.1.shows data added.2 = true

theorem shows_push (cell : Cell) : (graph.push cell)[graph.size]? = some cell :=
  Array.getElem?_push_size

theorem adds_atom (isAtom : data.isAtom = true) : graph.Adds data (graph.add data) := by
  have added : graph.add data = (graph.push (.leaf data), graph.size) := by
    cases data <;> first | rfl | simp [Data.isAtom] at isAtom
  rw [added]
  exact ⟨(Extends.refl graph).push _, (shows_atom isAtom).mpr (shows_push _)⟩

/-- Items are added one after the other, and each stays where it is. -/
theorem adds_all (trees : ∀ item ∈ items, item.IsTree)
    (each : ∀ item ∈ items, ∀ graph : Graph, graph.Adds item (graph.add item)) (graph : Graph) :
    graph.Extends (graph.addAll items).1 ∧
      List.Forall₂ (fun item place => (graph.addAll items).1.shows item place = true) items
        (graph.addAll items).2 := by
  induction items generalizing graph with
  | nil => exact ⟨Extends.refl graph, .nil⟩
  | cons item items ih =>
    obtain ⟨tree, trees⟩ := List.forall_mem_cons.mp trees
    obtain ⟨first, each⟩ := List.forall_mem_cons.mp each
    have one := first graph
    have others := ih trees each (graph.add item).1
    exact ⟨one.1.trans others.1, .cons (others.1.shows tree one.2) others.2⟩

theorem adds_pairs (keyTrees : ∀ pair ∈ pairs, pair.1.IsTree)
    (trees : ∀ pair ∈ pairs, pair.2.IsTree)
    (eachKey : ∀ pair ∈ pairs, ∀ graph : Graph, graph.Adds pair.1 (graph.add pair.1))
    (each : ∀ pair ∈ pairs, ∀ graph : Graph, graph.Adds pair.2 (graph.add pair.2))
    (graph : Graph) :
    graph.Extends (graph.addPairs pairs).1 ∧
      List.Forall₂ (fun pair places => (graph.addPairs pairs).1.shows pair.1 places.1 = true ∧
        (graph.addPairs pairs).1.shows pair.2 places.2 = true) pairs (graph.addPairs pairs).2 := by
  induction pairs generalizing graph with
  | nil => exact ⟨Extends.refl graph, .nil⟩
  | cons pair pairs ih =>
    obtain ⟨keyTree, keyTrees⟩ := List.forall_mem_cons.mp keyTrees
    obtain ⟨tree, trees⟩ := List.forall_mem_cons.mp trees
    obtain ⟨firstKey, eachKey⟩ := List.forall_mem_cons.mp eachKey
    obtain ⟨first, each⟩ := List.forall_mem_cons.mp each
    have key := firstKey graph
    have one := first (graph.add pair.1).1
    have others := ih keyTrees trees eachKey each ((graph.add pair.1).1.add pair.2).1
    exact ⟨(key.1.trans one.1).trans others.1,
      .cons ⟨others.1.shows keyTree (one.1.shows keyTree key.2), others.1.shows tree one.2⟩
        others.2⟩

/-- What is added to a graph is shown by its place. -/
theorem adds_add (tree : data.IsTree) (graph : Graph) : graph.Adds data (graph.add data) := by
  induction tree generalizing graph with
  | atom isAtom => exact adds_atom isAtom
  | @list items inner ih =>
    have all := adds_all inner ih graph
    -- The list itself comes after its items, which stay where they are.
    have last : ((graph.addAll items).1.push (.list (graph.addAll items).2))[
        (graph.addAll items).1.size]? = some (.list (graph.addAll items).2) := shows_push _
    have wider := (Extends.refl (graph.addAll items).1).push (.list (graph.addAll items).2)
    refine ⟨all.1.push _, shows_list.mpr ⟨_, last, ?_⟩⟩
    exact forall₂_imp_of_mem all.2 fun item member _ shown =>
      wider.shows (inner item member) shown
  | @mapping pairs keys inner ihKeys ih =>
    have all := adds_pairs keys inner ihKeys ih graph
    have last : ((graph.addPairs pairs).1.push (.mapping (graph.addPairs pairs).2))[
        (graph.addPairs pairs).1.size]? = some (.mapping (graph.addPairs pairs).2) := shows_push _
    have wider := (Extends.refl (graph.addPairs pairs).1).push (.mapping (graph.addPairs pairs).2)
    refine ⟨all.1.push _, shows_mapping.mpr ⟨_, last, ?_⟩⟩
    exact forall₂_imp_of_mem all.2 fun pair member _ shown =>
      ⟨wider.shows (keys pair member) shown.1, wider.shows (inner pair member) shown.2⟩

end Graph

end Shows

theorem Datum.shows_ofData {data : Data} (tree : data.IsTree) :
    (Datum.ofData data).shows data = true :=
  (Graph.adds_add tree #[]).2

section Reading

open Declaration

variable {datum : Datum} {fields : List (String × Data)} {data : Data} {name : String}

theorem Graph.cell_of_stands {graph : Graph} {place : Nat} {cell : Cell}
    (stands : graph[place]? = some cell) : graph.cell place = cell := by
  rw [Graph.cell, Array.getD_eq_getD_getElem?, stands, Option.getD_some]

theorem Datum.data_of_shows (isAtom : data.isAtom = true) (shows : datum.shows data = true) :
    datum.data = data := by
  have cell := Graph.cell_of_stands ((Graph.shows_atom isAtom).mp shows)
  rw [Datum.data, Graph.unfold, cell]
  cases data with
  | real number => cases number <;> first | rfl | simp [Data.isAtom] at isAtom
  | _ => first | rfl | simp [Data.isAtom] at isAtom

theorem Datum.isText_of_shows {content : String} (shows : datum.shows (.text content) = true) :
    datum.isText name = (content == name) := by
  have cell := Graph.cell_of_stands ((Graph.shows_atom rfl).mp shows)
  rw [Datum.isText, Datum.cell, cell]

/-- The pairs of a datum that shows a record show the names and the data of its fields. -/
theorem Datum.exists_pairs (shows : datum.shows (.record fields) = true) :
    ∃ pairs, datum.pairs? = some pairs ∧ datum.elements? = some (pairs.map (·.1)) ∧
      List.Forall₂ (fun field pair => pair.1.shows (.text field.1) = true ∧
        pair.2.shows field.2 = true) fields pairs := by
  obtain ⟨places, stands, all⟩ := Graph.shows_mapping.mp shows
  have cell := Graph.cell_of_stands stands
  refine ⟨places.map fun pair => (⟨datum.graph, pair.1⟩, ⟨datum.graph, pair.2⟩), ?_, ?_, ?_⟩
  · rw [Datum.pairs?, Datum.cell, cell]
  · rw [Datum.elements?, Datum.cell, cell, List.map_map]
    rfl
  · rw [List.forall₂_map_right_iff]
    exact List.forall₂_map_left_iff.mp all

/-- Under the name of a field stands an item that is related to it as the items are. -/
theorem Datum.exists_lookup (related : Data → Datum → Prop) {pairs : List (Datum × Datum)}
    (all : List.Forall₂ (fun field pair => pair.1.shows (.text field.1) = true ∧
      related field.2 pair.2) fields pairs) (found : fields.lookup name = some data) :
    ∃ item, Datum.lookup? name pairs = some item ∧ related data item := by
  induction all with
  | nil => cases found
  | @cons field pair fields pairs first others ih =>
    have isText : pair.1.isText name = (field.1 == name) := Datum.isText_of_shows first.1
    rw [List.lookup_cons] at found
    rw [Datum.lookup?, List.find?_cons, isText, BEq.comm]
    cases same : name == field.1 with
    | true =>
      simp only [same, Option.some.injEq] at found
      exact ⟨pair.2, rfl, found ▸ first.2⟩
    | false =>
      simp only [same] at found
      exact ih found

/-- Whether a datum is a mapping from some names, to given data as far as these are atoms. -/
def Datum.Holds (datum : Datum) (fields : List (String × Data)) : Prop :=
  ∃ pairs, datum.pairs? = some pairs ∧ datum.elements? = some (pairs.map (·.1)) ∧
    List.Forall₂ (fun field pair => pair.1.shows (.text field.1) = true ∧
      (field.2.isAtom = true → pair.2.shows field.2 = true)) fields pairs

theorem Datum.holds_of_shows (shows : datum.shows (.record fields) = true) :
    datum.Holds fields := by
  obtain ⟨pairs, isMapping, elements, all⟩ := Datum.exists_pairs shows
  exact ⟨pairs, isMapping, elements, all.imp fun _ _ both => ⟨both.1, fun _ => both.2⟩⟩

theorem Datum.Holds.exists_item (holds : datum.Holds fields)
    (found : fields.lookup name = some data) :
    ∃ pairs item, datum.pairs? = some pairs ∧ Datum.lookup? name pairs = some item ∧
      (data.isAtom = true → item.shows data = true) := by
  obtain ⟨pairs, isMapping, -, all⟩ := holds
  obtain ⟨item, looked, shown⟩ := Datum.exists_lookup
    (fun data item => data.isAtom = true → item.shows data = true) all found
  exact ⟨pairs, item, isMapping, looked, shown⟩

theorem Datum.Holds.exists_need (holds : datum.Holds fields)
    (found : fields.lookup name = some data) : ∃ seen, need datum name = .ok seen := by
  obtain ⟨pairs, item, isMapping, looked, -⟩ := holds.exists_item found
  exact ⟨item.data, by simp only [need, isMapping, looked]⟩

theorem Datum.Holds.need (holds : datum.Holds fields) (found : fields.lookup name = some data)
    (isAtom : data.isAtom = true) : need datum name = .ok data := by
  obtain ⟨pairs, item, isMapping, looked, shown⟩ := holds.exists_item found
  simp only [Declaration.need, isMapping, looked, Datum.data_of_shows isAtom (shown isAtom)]

theorem Datum.Holds.exists_optional (holds : datum.Holds fields)
    (found : fields.lookup name = some data) :
    ∃ seen, Declaration.optional datum name = .ok seen := by
  obtain ⟨pairs, item, isMapping, looked, -⟩ := holds.exists_item found
  exact ⟨item.data, by simp only [Declaration.optional, field?, isMapping, looked, Except.map,
    Option.map_some, Option.getD_some]⟩

theorem Datum.Holds.optional (holds : datum.Holds fields) (found : fields.lookup name = some data)
    (isAtom : data.isAtom = true) : Declaration.optional datum name = .ok data := by
  obtain ⟨pairs, item, isMapping, looked, shown⟩ := holds.exists_item found
  simp only [Declaration.optional, field?, isMapping, looked, Except.map, Option.map_some,
    Option.getD_some, Datum.data_of_shows isAtom (shown isAtom)]

theorem Declaration.field?_of_shows (shows : datum.shows (.record fields) = true)
    (found : fields.lookup name = some data) :
    ∃ item, field? datum name = .ok (some item) ∧ item.shows data = true := by
  obtain ⟨pairs, isMapping, -, all⟩ := Datum.exists_pairs shows
  obtain ⟨item, looked, shown⟩ :=
    Datum.exists_lookup (fun data item => item.shows data = true) all found
  exact ⟨item, by simp only [field?, isMapping, looked], shown⟩

theorem Declaration.need_of_shows (shows : datum.shows (.record fields) = true)
    (found : fields.lookup name = some data) (isAtom : data.isAtom = true) :
    need datum name = .ok data :=
  (Datum.holds_of_shows shows).need found isAtom

theorem Declaration.optional_of_shows (shows : datum.shows (.record fields) = true)
    (found : fields.lookup name = some data) (isAtom : data.isAtom = true) :
    optional datum name = .ok data :=
  (Datum.holds_of_shows shows).optional found isAtom

/-- An empty list has no elements, as if it were absent. -/
theorem Declaration.elementsOf_of_shows (name : String) {items : List Data}
    (shows : datum.shows (.record fields) = true)
    (found : fields.lookup name = some (.list items)) :
    ∃ elements, elementsOf datum name = .ok elements ∧
      List.Forall₂ (fun item element => element.shows item = true) items elements := by
  obtain ⟨item, isField, shown⟩ := field?_of_shows shows found
  obtain ⟨places, stands, all⟩ := Graph.shows_list.mp shown
  have cell := Graph.cell_of_stands stands
  refine ⟨places.map fun place => ⟨item.graph, place⟩, ?_, List.forall₂_map_right_iff.mpr all⟩
  have isPresent : item.isPresent = !places.isEmpty := by rw [Datum.isPresent, Datum.cell, cell]
  have elements : item.elements? = some (places.map fun place => ⟨item.graph, place⟩) := by
    rw [Datum.elements?, Datum.cell, cell]
  rw [elementsOf, isField]
  cases places with
  | nil =>
    change (if !item.isPresent then _ else _) = _
    rw [isPresent]
    rfl
  | cons place places =>
    change (if !item.isPresent then _ else _) = _
    rw [isPresent, elements]
    rfl

theorem Yaml.exists_of_restores (restores : Yaml.restores data = true) :
    ∃ datum, Yaml.load (Yaml.write data) = .ok datum ∧ datum.shows data = true := by
  rw [Yaml.restores] at restores
  cases loaded : Yaml.load (Yaml.write data) with
  | ok datum => exact ⟨datum, rfl, by simpa only [loaded] using restores⟩
  | error fault => simp only [loaded, Bool.false_eq_true] at restores

theorem Datum.isPresent_of_shows (shows : datum.shows (.record fields) = true) :
    datum.isPresent = !fields.isEmpty := by
  obtain ⟨places, stands, all⟩ := Graph.shows_mapping.mp shows
  have cell := Graph.cell_of_stands stands
  have pairs := List.forall₂_map_left_iff.mp all
  rw [Datum.isPresent, Datum.cell, cell]
  cases pairs <;> rfl

theorem Data.mem_of_mem_distinct {key : Data} {keys : List Data}
    (member : key ∈ Data.distinct keys) : key ∈ keys := by
  have kept (rest found : List Data) (inside : key ∈ rest.foldl (fun found datum =>
      if found.any (Data.same datum) then found else found ++ [datum]) found) :
      key ∈ found ∨ key ∈ rest := by
    induction rest generalizing found with
    | nil => exact .inl inside
    | cons first rest ih =>
      rw [List.foldl_cons] at inside
      have step := ih _ inside
      cases isFound : found.any (Data.same first) with
      | true =>
        rw [isFound, if_pos rfl] at step
        exact step.imp_right (List.mem_cons_of_mem first)
      | false =>
        rw [isFound, if_neg Bool.false_ne_true, List.mem_append, List.mem_singleton,
          or_assoc] at step
        exact step.imp_right List.mem_cons.mpr
  exact (kept keys [] member).resolve_left List.not_mem_nil

theorem Data.areKeys_texts (names : List String) :
    Data.areKeys (names.map Data.text) = true := by
  induction names with
  | nil => rfl
  | cons name names ih => simp only [List.map_cons, Data.areKeys, Data.isKey, ih, Bool.and_self]

/-- A record whose names are known has no other keys. -/
theorem Datum.Holds.unknownKeys (holds : datum.Holds fields) {known : List String}
    (isKnown : ∀ name ∈ fields.map (·.1), name ∈ known) : datum.unknownKeys known = .ok [] := by
  obtain ⟨pairs, -, elements, all⟩ := holds
  have keys : (pairs.map (·.1)).map Datum.data = (fields.map (·.1)).map Data.text := by
    clear isKnown elements
    induction all with
    | nil => rfl
    | cons first _ ih =>
      simp only [List.map_cons, ih, Datum.data_of_shows rfl first.1]
  have none : ((Data.distinct ((fields.map (·.1)).map Data.text)).filter fun key =>
      !known.any fun name => Data.same key (.text name)) = [] := by
    rw [List.filter_eq_nil_iff]
    intro key member
    obtain ⟨name, isName, rfl⟩ := List.mem_map.mp (Data.mem_of_mem_distinct member)
    have same : Data.same (.text name) (.text name) = true := by
      simp only [Data.same, Data.sameKey, Data.unmarked, BEq.rfl]
    simp only [Bool.not_eq_true', Bool.not_eq_false, List.any_eq_true]
    exact ⟨name, isKnown name isName, same⟩
  simp only [Datum.unknownKeys, elements, keys, Data.areKeys_texts, none, if_true]
  rfl

theorem Datum.Holds.warnUnknown (holds : datum.Holds fields) {known : List String} (sort : String)
    (isKnown : ∀ name ∈ fields.map (·.1), name ∈ known) :
    warnUnknown sort datum known = pure () := by
  rw [Declaration.warnUnknown, holds.unknownKeys isKnown]
  rfl

end Reading

end CommandConsole
