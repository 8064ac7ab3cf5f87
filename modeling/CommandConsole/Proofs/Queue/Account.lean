import CommandConsole.Proofs.Queue.Owned
import CommandConsole.Proofs.Run.Moment

set_option autoImplicit false

namespace CommandConsole

variable {κ : Type}

namespace Event

def accepted? (serial : Nat) : Event κ → Option Statement
  | offered space statement true => if space = serial then some statement else none
  | _ => none

def taken? (serial : Nat) : Event κ → Option Statement
  | taken space statement => if space = serial then some statement else none
  | _ => none

end Event

def accepted (serial : Nat) (trace : List (Event κ)) : List Statement :=
  chronicle (Event.accepted? serial) trace

def taken (serial : Nat) (trace : List (Event κ)) : List Statement :=
  chronicle (Event.taken? serial) trace

/-- In the table, what a queue has accepted has been taken from it or is in it. -/
structure Accounted (registry : Registry κ) (trace : List (Event κ)) : Prop where
  fresh : ∀ serial, registry.spaces.length ≤ serial →
    accepted serial trace = [] ∧ taken serial trace = []
  balanced : ∀ space ∈ registry.table,
    accepted space.serial trace = taken space.serial trace ++ space.pending

variable {registry : Registry κ} {trace : List (Event κ)}

/-- An event that tells nothing of queues does not change what is known of them. -/
theorem Accounted.tell (accounted : Accounted registry trace) {event : Event κ}
    (silent : ∀ serial, event.accepted? serial = none ∧ event.taken? serial = none) :
    Accounted registry (event :: trace) := by
  have same (serial : Nat) : accepted serial (event :: trace) = accepted serial trace ∧
      taken serial (event :: trace) = taken serial trace := by
    simp [accepted, taken, chronicle_cons, silent serial]
  refine ⟨fun serial beyond => ?_, fun space member => ?_⟩
  · rw [(same serial).1, (same serial).2]
    exact accounted.fresh serial beyond
  · rw [(same _).1, (same _).2]
    exact accounted.balanced space member

/-- A change of one queue and the event that tells it keep the account. -/
theorem Accounted.update (accounted : Accounted registry trace) {event : Event κ}
    {space : Namespace κ} {change : Namespace κ → Namespace κ} (keeps : Namespace.KeepsShape change)
    (present : space ∈ registry.spaces)
    (others : ∀ serial ≠ space.serial,
      event.accepted? serial = none ∧ event.taken? serial = none)
    (moves : space.pending ++ (event.accepted? space.serial).toList =
      (event.taken? space.serial).toList ++ (change space).pending) :
    Accounted (registry.update space.serial change) (event :: trace) := by
  refine ⟨fun serial beyond => ?_, fun other member => ?_⟩
  · rw [Registry.length_update] at beyond
    have inside := Registry.serial_lt present
    obtain ⟨noneAccepted, noneTaken⟩ := others serial (by omega)
    obtain ⟨noAccepted, noTaken⟩ := accounted.fresh serial beyond
    rw [accepted] at noAccepted
    rw [taken] at noTaken
    simp [accepted, taken, chronicle_cons, noneAccepted, noneTaken, noAccepted, noTaken]
  · rw [Registry.table_update keeps, List.mem_map] at member
    obtain ⟨former, isFormer, rfl⟩ := member
    have balanced := accounted.balanced former isFormer
    split
    · rename_i same
      have isSpace := Registry.eq_of_serial present (Registry.mem_table.mp isFormer).1
        (eq_of_beq same)
      subst isSpace
      rw [accepted, taken] at balanced
      rw [keeps.serial, accepted, taken, chronicle_cons, chronicle_cons, balanced,
        List.append_assoc, List.append_assoc, moves]
    · rename_i apart
      obtain ⟨noneAccepted, noneTaken⟩ := others former.serial (by simpa using apart)
      rw [accepted, taken] at balanced
      simpa [accepted, taken, chronicle_cons, noneAccepted, noneTaken] using balanced

theorem Accounted.add (accounted : Accounted registry trace) {space : Namespace κ}
    (isNext : space.serial = registry.spaces.length) (isRegistered : space.isRegistered)
    (empty : space.pending = []) : Accounted (registry.add space) trace where
  fresh serial beyond := by
    simp only [Registry.add, List.length_append] at beyond
    exact accounted.fresh serial (by omega)
  balanced := by
    intro other member
    rw [Registry.table_add isNext isRegistered] at member
    rcases List.mem_append.mp member with member | member
    · exact accounted.balanced other member
    · obtain ⟨noneAccepted, noneTaken⟩ := accounted.fresh space.serial isNext.ge
      rw [List.mem_singleton.mp member, empty, noneAccepted, noneTaken, List.append_nil]

theorem Accounted.retire (accounted : Accounted registry trace) :
    Accounted registry.retire trace where
  fresh serial beyond :=
    accounted.fresh serial (by simpa [Registry.retire, Registry.map] using beyond)
  balanced := by
    intro other member
    rw [Registry.table_retire] at member
    exact absurd member List.not_mem_nil

theorem Effect.accounted {before after : Console κ} (effect : Effect before after)
    (accounted : Accounted before.registry before.trace) :
    Accounted after.registry after.trace := by
  cases effect with
  | @tell event telling =>
    apply accounted.tell
    intro serial
    cases event <;> first | exact telling.elim | exact ⟨rfl, rfl⟩
  | store storage => exact accounted
  | @create declaration space declared =>
    obtain ⟨-, -, shape, isRegistered, isNext, -⟩ := Registry.declared_ok declared
    have empty : space.pending = [] := (congrArg Namespace.pending shape).symm
    exact (accounted.add isNext isRegistered empty).tell fun _ => ⟨rfl, rfl⟩
  | retire asked => exact accounted.retire.tell fun _ => ⟨rfl, rfl⟩
  | @offer space statement present own =>
    refine accounted.update (Namespace.keepsShape_offer _) present (fun serial apart => ?_) ?_
    · unfold Namespace.offer
      split <;> simp [Event.accepted?, Event.taken?, apart.symm]
    · unfold Namespace.offer
      split <;> simp [Event.accepted?, Event.taken?, Namespace.enqueue]
  | assign present found kind =>
    exact accounted.update (Namespace.keepsShape_assign _ _) present (fun _ _ => ⟨rfl, rfl⟩)
      (by simp [Event.accepted?, Event.taken?, Namespace.assign])
  | handle handler present =>
    exact accounted.update (Namespace.keepsShape_handle _) present (fun _ _ => ⟨rfl, rfl⟩)
      (by simp [Event.accepted?, Event.taken?, Namespace.handle])
  | @take space _ statement present due =>
    refine accounted.update Namespace.keepsShape_dequeue present (fun serial apart => ?_) ?_
    · simp [Event.accepted?, Event.taken?, apart.symm]
    · rw [(Namespace.pending_of_due due).2]
      simp [Event.accepted?, Event.taken?]

end CommandConsole
