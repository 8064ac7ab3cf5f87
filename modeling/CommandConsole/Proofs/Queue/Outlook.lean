import CommandConsole.Proofs.Run.Effect
import CommandConsole.Proofs.Queue.Owned

set_option autoImplicit false

/-!
What a setting's callback will have heard last when everything that waits has been replayed. Main
statements: neither a change that is told of at once (`agrees_told`) nor one that is queued
(`agrees_queued`) nor a replay (`Agrees.replay`) lets this differ from what the setting holds,
unless a change has overtaken others.
-/
namespace CommandConsole

variable {κ : Type}

/-- The value that a statement gives a setting of a kind, if it gives one. -/
def Statement.value? (statement : Statement) (kind : Kind) : Option Value :=
  match statement.arguments with
  | [token] => (Value.parse kind token).toOption
  | _ => none

/-- The last of the statements that wait for an entry of a namespace. -/
def Namespace.waiting? (space : Namespace κ) (entry : String) : Option Statement :=
  (space.pending.filter (·.name == qualify space.name entry)).getLast?

namespace Event

def heard? (serial : Nat) (entry : String) : Event κ → Option Value
  | called call _ =>
    match call.occasion with
    | .change value => if call.space = serial ∧ call.entry = entry then some value else none
    | .command _ => none
  | _ => none

/-- What a change of a setting overtakes, if an event tells of such a change. A change that is
queued overtakes nothing; where the callback is told of it at once, it overtakes what waits for the
setting then. -/
def overtakes? (serial : Nat) (entry : String) : Event κ → Option (Option Statement)
  | called call registry =>
    match call.occasion with
    | .change _ =>
      if call.space = serial ∧ call.entry = entry ∧ call.isReplay = false then
        some ((registry.space? serial).bind (·.waiting? entry))
      else none
    | .command _ => none
  | changed space name _ => if space = serial ∧ name = entry then some none else none
  | _ => none

end Event

def lastHeard (serial : Nat) (entry : String) (trace : List (Event κ)) : Option Value :=
  trace.findSome? (Event.heard? serial entry)

/-- The last statement that the latest change of a setting has overtaken. -/
def overtaken? (serial : Nat) (entry : String) (trace : List (Event κ)) : Option Statement :=
  (trace.findSome? (Event.overtakes? serial entry)).join

theorem lastHeard_cons (serial : Nat) (entry : String) (event : Event κ) (trace : List (Event κ)) :
    lastHeard serial entry (event :: trace) =
      (event.heard? serial entry).or (lastHeard serial entry trace) := by
  rw [lastHeard, List.findSome?_cons]
  cases event.heard? serial entry <;> rfl

theorem overtaken?_cons (serial : Nat) (entry : String) (event : Event κ)
    (trace : List (Event κ)) :
    overtaken? serial entry (event :: trace) =
      (event.overtakes? serial entry).getD (overtaken? serial entry trace) := by
  rw [overtaken?, List.findSome?_cons]
  cases event.overtakes? serial entry <;> rfl

section News

/-- Nothing new has been told of a setting. -/
structure NoNews (serial : Nat) (entry : String) (earlier later : List (Event κ)) : Prop where
  heard : lastHeard serial entry later = lastHeard serial entry earlier
  overtaken : overtaken? serial entry later = overtaken? serial entry earlier

variable {serial : Nat} {entry : String} {earlier middle later : List (Event κ)}

theorem NoNews.refl (trace : List (Event κ)) : NoNews serial entry trace trace :=
  ⟨rfl, rfl⟩

theorem NoNews.trans (first : NoNews serial entry earlier middle)
    (second : NoNews serial entry middle later) : NoNews serial entry earlier later :=
  ⟨second.heard.trans first.heard, second.overtaken.trans first.overtaken⟩

theorem NoNews.tell {event : Event κ} (trace : List (Event κ))
    (unheard : event.heard? serial entry = none) (none : event.overtakes? serial entry = none) :
    NoNews serial entry trace (event :: trace) :=
  ⟨by rw [lastHeard_cons, unheard, Option.none_or], by rw [overtaken?_cons, none, Option.getD_none]⟩

theorem noNews_running (console : Console κ) (handler : Handler) (isReplay : Bool)
    (space : Namespace κ) (command : Command κ) (statement : Statement) :
    NoNews serial entry console.trace
      (console.running handler isReplay space command statement).trace := by
  have executed : NoNews serial entry console.trace
      (console.tell (.executed space.serial command.name statement)).trace := .tell _ rfl rfl
  unfold Console.running
  cases command.action with
  | none => exact executed
  | some callback => exact executed.trans (.tell _ rfl rfl)

theorem noNews_assigning (console : Console κ) {space : Namespace κ} {setting : Setting κ}
    (value : Value) (apart : ¬ (space.serial = serial ∧ setting.name = entry)) :
    NoNews serial entry console.trace (console.assigning space setting value).trace :=
  .tell _ rfl (if_neg apart)

theorem noNews_notifying (console : Console κ) (handler : Handler) (isReplay : Bool)
    {space : Namespace κ} {setting : Setting κ} (value : Value)
    (apart : ¬ (space.serial = serial ∧ setting.name = entry)) :
    NoNews serial entry console.trace
      (console.notifying handler isReplay space setting value).trace := by
  unfold Console.notifying
  cases setting.onChange with
  | none => exact .refl _
  | some callback =>
    exact .tell _ (if_neg apart) (if_neg fun same => apart ⟨same.1, same.2.1⟩)

end News

namespace Namespace

/-- What the callback of a setting will have heard last when what waits has been replayed. -/
def outlook? (space : Namespace κ) (trace : List (Event κ)) (setting : Setting κ) : Option Value :=
  match space.waiting? setting.name with
  | some statement => statement.value? setting.kind
  | none => lastHeard space.serial setting.name trace

/-- The outlook is what the setting holds, unless its latest change has overtaken a statement; then
it is what that statement gives. -/
def Agrees (space : Namespace κ) (trace : List (Event κ)) (setting : Setting κ) : Prop :=
  match overtaken? space.serial setting.name trace with
  | none => ∀ value ∈ space.outlook? trace setting, value = setting.current
  | some statement =>
    ∃ value ∈ statement.value? setting.kind, space.outlook? trace setting = some value

theorem Agrees.of_same {former latter : Namespace κ} {earlier later : List (Event κ)}
    {setting : Setting κ} (agrees : former.Agrees earlier setting)
    (overtaken : overtaken? latter.serial setting.name later =
      overtaken? former.serial setting.name earlier)
    (outlook : latter.outlook? later setting = former.outlook? earlier setting) :
    latter.Agrees later setting := by
  simpa only [Agrees, overtaken, outlook] using agrees

end Namespace

/-- Every setting of the table that has a callback agrees with its outlook, but for some that are
left out. -/
def AgreedBut (left : Nat → String → Prop) (registry : Registry κ) (trace : List (Event κ)) :
    Prop :=
  ∀ space ∈ registry.table, ∀ setting, Entry.setting setting ∈ space.entries →
    setting.onChange.isSome → ¬ left space.serial setting.name → space.Agrees trace setting

abbrev Agreed (registry : Registry κ) (trace : List (Event κ)) : Prop :=
  AgreedBut (fun _ _ => False) registry trace

section Agreed

variable {left : Nat → String → Prop} {registry : Registry κ} {trace : List (Event κ)}

theorem Agreed.leave (agreed : Agreed registry trace) (left : Nat → String → Prop) :
    AgreedBut left registry trace :=
  fun space present setting member observed _ => agreed space present setting member observed id

theorem AgreedBut.complete (agreed : AgreedBut left registry trace)
    (others : ∀ space ∈ registry.table, ∀ setting, Entry.setting setting ∈ space.entries →
      setting.onChange.isSome → left space.serial setting.name → space.Agrees trace setting) :
    Agreed registry trace := by
  intro space present setting member observed _
  by_cases isLeft : left space.serial setting.name
  · exact others space present setting member observed isLeft
  · exact agreed space present setting member observed isLeft

theorem AgreedBut.news (agreed : AgreedBut left registry trace) {later : List (Event κ)}
    (noNews : ∀ serial entry, ¬ left serial entry → NoNews serial entry trace later) :
    AgreedBut left registry later := by
  intro space present setting member observed kept
  have same := noNews space.serial setting.name kept
  refine (agreed space present setting member observed kept).of_same same.overtaken ?_
  simp only [Namespace.outlook?, same.heard]

theorem AgreedBut.update (agreed : AgreedBut left registry trace)
    {change : Namespace κ → Namespace κ} (keeps : Namespace.KeepsShape change) {serial : Nat}
    (still : ∀ space ∈ registry.table, space.serial = serial → ∀ setting,
      Entry.setting setting ∈ (change space).entries → ¬ left serial setting.name →
        Entry.setting setting ∈ space.entries ∧
          (change space).waiting? setting.name = space.waiting? setting.name) :
    AgreedBut left (registry.update serial change) trace := by
  intro space present setting member observed kept
  rw [Registry.table_update keeps, List.mem_map] at present
  obtain ⟨former, isFormer, rfl⟩ := present
  split at member
  · rename_i same
    rw [if_pos same] at kept ⊢
    rw [keeps.serial] at kept
    obtain ⟨inside, waiting⟩ := still former isFormer (eq_of_beq same) setting member
      (eq_of_beq same ▸ kept)
    refine (agreed former isFormer setting inside observed kept).of_same ?_ ?_
    · rw [keeps.serial]
    · simp only [Namespace.outlook?, waiting, keeps.serial]
  · rename_i apart
    rw [if_neg apart] at kept ⊢
    exact agreed former isFormer setting member observed kept

end Agreed

namespace Namespace

theorem entries_offer (space : Namespace κ) (statement : Statement) :
    (space.offer statement).2.entries = space.entries := by
  unfold offer
  split <;> rfl

/-- A statement of another name changes nothing of what waits for an entry. -/
theorem waiting?_offer_of_ne (space : Namespace κ) {statement : Statement} {entry : String}
    (apart : statement.name ≠ qualify space.name entry) :
    (space.offer statement).2.waiting? entry = space.waiting? entry := by
  unfold offer
  split
  · rfl
  · simp [waiting?, enqueue, apart]

theorem waiting?_offer (space : Namespace κ) {statement : Statement} {entry : String}
    (named : statement.name = qualify space.name entry) (accepted : (space.offer statement).1) :
    (space.offer statement).2.waiting? entry = some statement := by
  unfold offer at accepted ⊢
  split
  · rename_i full
    simp [full] at accepted
  · simp [waiting?, enqueue, named]

variable {space : Namespace κ} {statement : Statement} {entry : String}

theorem waiting?_dequeue_of_ne (queued : space.pending = statement :: space.dequeue.pending)
    (apart : statement.name ≠ qualify space.name entry) :
    space.dequeue.waiting? entry = space.waiting? entry := by
  have name : space.dequeue.name = space.name := rfl
  simp [waiting?, queued, name, apart]

/-- A statement that is taken waits no more; those after it wait as they did. -/
theorem waiting?_dequeue (queued : space.pending = statement :: space.dequeue.pending)
    (named : statement.name = qualify space.name entry) :
    space.waiting? entry = some ((space.dequeue.waiting? entry).getD statement) := by
  have name : space.dequeue.name = space.name := rfl
  simp [waiting?, queued, name, named, List.getLast?_cons]

theorem mem_pending_of_waiting? (waits : space.waiting? entry = some statement) :
    statement ∈ space.pending ∧ statement.name = qualify space.name entry := by
  have member := List.mem_of_getLast? waits
  simpa using List.mem_filter.mp member

/-- What a namespace has queued itself for a setting gives it a value. -/
theorem Owns.exists_value {setting : Setting κ} (owned : space.Owns statement) (sound : space.Sound)
    (member : .setting setting ∈ space.entries)
    (named : statement.name = qualify space.name setting.name) :
    ∃ value, statement.value? setting.kind = some value := by
  obtain ⟨found, inside, arguments, rfl, kinds⟩ := owned
  have same : found.name = setting.name :=
    (qualify_injective sound.isName.2 sound.isName.2 named).2
  obtain rfl : found = .setting setting := sound.eq_of_name member inside same
  obtain ⟨token, value, rfl, reads⟩ := kinds setting rfl
  exact ⟨value, by simp [Statement.value?, Statement.arguments, reads, Except.toOption]⟩

end Namespace

theorem Console.notifying_some {setting : Setting κ} {callback : Callback κ}
    (onChange : setting.onChange = some callback) (console : Console κ) (handler : Handler)
    (isReplay : Bool) (space : Namespace κ) (value : Value) :
    console.notifying handler isReplay space setting value =
      console.calling ⟨callback, space.serial, setting.name, handler, .change value, isReplay⟩ := by
  simp [Console.notifying, onChange]

section Changes

variable {console : Console κ} {space : Namespace κ} {left : Nat → String → Prop}

theorem AgreedBut.handling (agreed : AgreedBut left console.registry console.trace)
    (space : Namespace κ) (handler : Option Handler) :
    AgreedBut left (console.handling space handler).registry
      (console.handling space handler).trace :=
  (agreed.update (Namespace.keepsShape_handle handler)
    fun _ _ _ _ member _ => ⟨member, rfl⟩).news fun _ _ _ => .tell _ rfl rfl

theorem AgreedBut.assigning (agreed : AgreedBut left console.registry console.trace)
    {setting : Setting κ} (value : Value) (isLeft : left space.serial setting.name) :
    AgreedBut left (console.assigning space setting value).registry
      (console.assigning space setting value).trace := by
  refine (agreed.update (Namespace.keepsShape_assign setting.name value)
    fun former _ _ other member kept => ⟨?_, rfl⟩).news fun serial entry kept => ?_
  · obtain ⟨found, inside, becomes⟩ := List.mem_map.mp member
    split at becomes
    · rename_i named
      have name : other.name = found.name := by
        rw [← Entry.name_assign found value, becomes]
        rfl
      rw [name, eq_of_beq named] at kept
      exact absurd isLeft kept
    · exact becomes ▸ inside
  · apply noNews_assigning
    rintro ⟨rfl, rfl⟩
    exact kept isLeft

/-- A statement that is offered to a queue matters to the setting of its name only. -/
theorem AgreedBut.offering (agreed : AgreedBut left console.registry console.trace)
    (present : space ∈ console.registry.spaces) {statement : Statement}
    (apart : ∀ setting, Entry.setting setting ∈ space.entries → ¬ left space.serial setting.name →
      statement.name ≠ qualify space.name setting.name) :
    AgreedBut left (console.offering space statement).registry
      (console.offering space statement).trace := by
  refine (agreed.update (Namespace.keepsShape_offer statement)
    fun former isFormer same setting member kept => ?_).news fun _ _ _ => .tell _ rfl rfl
  obtain rfl := Registry.eq_of_serial present (Registry.mem_table.mp isFormer).1 same
  have inside : Entry.setting setting ∈ former.entries :=
    former.entries_offer statement ▸ member
  exact ⟨inside, former.waiting?_offer_of_ne (apart setting inside kept)⟩

/-- A statement that is taken from a queue matters to the setting of its name only. -/
theorem AgreedBut.taking (agreed : AgreedBut left console.registry console.trace)
    (present : space ∈ console.registry.spaces) {statement : Statement}
    (queued : space.pending = statement :: space.dequeue.pending)
    (apart : ∀ setting, Entry.setting setting ∈ space.entries → ¬ left space.serial setting.name →
      statement.name ≠ qualify space.name setting.name) :
    AgreedBut left (console.taking space statement).registry
      (console.taking space statement).trace := by
  refine (agreed.update Namespace.keepsShape_dequeue
    fun former isFormer same setting member kept => ⟨member, ?_⟩).news fun _ _ _ => .tell _ rfl rfl
  obtain rfl := Registry.eq_of_serial present (Registry.mem_table.mp isFormer).1 same
  exact Namespace.waiting?_dequeue_of_ne queued (apart setting member kept)

theorem AgreedBut.running (agreed : AgreedBut left console.registry console.trace)
    (handler : Handler) (isReplay : Bool) (space : Namespace κ) (command : Command κ)
    (statement : Statement) :
    AgreedBut left (console.running handler isReplay space command statement).registry
      (console.running handler isReplay space command statement).trace := by
  rw [Console.registry_running]
  exact agreed.news fun _ _ _ => noNews_running ..

theorem AgreedBut.notifying (agreed : AgreedBut left console.registry console.trace)
    (handler : Handler) (isReplay : Bool) {setting : Setting κ} (value : Value)
    (isLeft : left space.serial setting.name) :
    AgreedBut left (console.notifying handler isReplay space setting value).registry
      (console.notifying handler isReplay space setting value).trace := by
  rw [Console.registry_notifying]
  refine agreed.news fun serial entry kept => ?_
  apply noNews_notifying
  rintro ⟨rfl, rfl⟩
  exact kept isLeft

end Changes

section Agrees

variable {space : Namespace κ} {setting : Setting κ} {trace : List (Event κ)}

/-- A callback that is told of a change at once hears what the setting holds. -/
theorem Namespace.agrees_told {registry : Registry κ} (present : space ∈ registry.spaces)
    {call : Call κ} (serial : call.space = space.serial) (entry : call.entry = setting.name)
    (occasion : call.occasion = .change setting.current) (direct : call.isReplay = false)
    (gives : ∀ statement, space.waiting? setting.name = some statement →
      ∃ value, statement.value? setting.kind = some value) :
    space.Agrees (.called call registry :: trace) setting := by
  have heard : lastHeard space.serial setting.name (.called call registry :: trace) =
      some setting.current := by
    simp [lastHeard_cons, Event.heard?, occasion, serial, entry]
  have overtaken : overtaken? space.serial setting.name (.called call registry :: trace) =
      space.waiting? setting.name := by
    simp [overtaken?_cons, Event.overtakes?, occasion, serial, entry, direct,
      Registry.space?_of_mem present]
  simp only [Agrees, outlook?, overtaken, heard]
  cases waits : space.waiting? setting.name with
  | none => simp
  | some statement =>
    obtain ⟨value, gives⟩ := gives statement waits
    exact ⟨value, gives, gives⟩

/-- A callback will hear what a setting holds once the change that has been queued is replayed. -/
theorem Namespace.agrees_queued {serial : Nat} {statement : Statement} {accepted : Bool}
    (same : space.serial = serial) (waits : space.waiting? setting.name = some statement)
    (gives : statement.value? setting.kind = some setting.current) :
    space.Agrees (.offered serial statement accepted ::
      .changed serial setting.name setting.current :: trace) setting := by
  have overtaken : overtaken? space.serial setting.name (.offered serial statement accepted ::
      .changed serial setting.name setting.current :: trace) = none := by
    simp [overtaken?_cons, Event.overtakes?, same]
  simp [Agrees, outlook?, overtaken, waits, gives]

theorem Namespace.Agrees.replay {registry : Registry κ} {statement : Statement} {call : Call κ}
    {value : Value} (agrees : space.Agrees trace setting)
    (queued : space.pending = statement :: space.dequeue.pending)
    (named : statement.name = qualify space.name setting.name)
    (gives : statement.value? setting.kind = some value) (serial : call.space = space.serial)
    (entry : call.entry = setting.name) (occasion : call.occasion = .change value)
    (replayed : call.isReplay = true) :
    space.dequeue.Agrees (.called call registry :: .taken space.serial statement :: trace)
      setting := by
  have same : space.dequeue.serial = space.serial := rfl
  refine agrees.of_same ?_ ?_
  · simp [overtaken?_cons, Event.overtakes?, occasion, replayed, same]
  · have heard : lastHeard space.serial setting.name
        (.called call registry :: .taken space.serial statement :: trace) = some value := by
      simp [lastHeard_cons, Event.heard?, occasion, serial, entry]
    simp only [outlook?, same, heard, waiting?_dequeue queued named]
    cases space.dequeue.waiting? setting.name with
    | none => exact gives.symm
    | some later => rfl

/-- A namespace that nothing has been told of agrees with what it holds. -/
theorem Namespace.agrees_of_unheard (idle : space.pending = [])
    (unheard : lastHeard space.serial setting.name trace = none)
    (none : overtaken? space.serial setting.name trace = none) : space.Agrees trace setting := by
  have waits : space.waiting? setting.name = .none := by simp [waiting?, idle]
  simp [Agrees, outlook?, none, waits, unheard]

end Agrees

end CommandConsole
