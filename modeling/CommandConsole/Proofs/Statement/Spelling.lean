import Mathlib.Data.List.TakeWhile

set_option autoImplicit false

/-!
Texts that are made of parts. A part fits or does not fit before the character that comes next. Main
statements: where a spelling leaves no choice, a text is made of parts (`IsExact.exists_parts`) in
one way only (`IsExact.unique`), and who can read one part can read them all (`InSequence.read`).
-/
namespace CommandConsole

/-- A text is split in one way where a test holds up to the split and not behind it. -/
theorem Text.append_unique {test : Char → Bool} {front other rest last : List Char}
    (inside : ∀ char ∈ front, test char = true) (otherInside : ∀ char ∈ other, test char = true)
    (ends : ∀ char ∈ rest.head?, test char = false)
    (otherEnds : ∀ char ∈ last.head?, test char = false) (same : front ++ rest = other ++ last) :
    front = other ∧ rest = last := by
  have upTo : ∀ {front rest : List Char}, (∀ char ∈ front, test char = true) →
      (∀ char ∈ rest.head?, test char = false) → (front ++ rest).takeWhile test = front := by
    intro front rest inside ends
    rw [List.takeWhile_append_of_pos inside]
    cases rest with
    | nil => exact List.append_nil front
    | cons char rest => simp [ends char rfl]
  have fronts : front = other := by
    rw [← upTo inside ends, same, upTo otherInside otherEnds]
  subst fronts
  exact ⟨rfl, List.append_cancel_left same⟩

/-- How parts of one kind are spelled: the characters of each part, and whether it fits before a
character, or before the end of the line. -/
structure Spelling (α : Type) where
  chars : α → List Char
  Fits : α → Option Char → Prop

namespace Spelling

variable {α : Type} (spelling : Spelling α)

def text (parts : List α) : List Char :=
  parts.flatMap spelling.chars

/-- Every part fits before the one behind it, and the last part before what comes next. -/
def InSequence : List α → Option Char → Prop
  | [], _ => True
  | part :: parts, next =>
    spelling.Fits part ((spelling.text parts).head?.or next) ∧ InSequence parts next

/-- A spelling leaves no choice: a text that does not stop begins with a part, and with one only. -/
structure IsExact (Stops : List Char → Prop) : Prop where
  begins : ∀ text, Stops text ∨ ∃ part rest, text = spelling.chars part ++ rest ∧
    spelling.Fits part rest.head? ∧ rest.length < text.length
  single : ∀ first second rest last, spelling.Fits first rest.head? →
    spelling.Fits second last.head? →
      spelling.chars first ++ rest = spelling.chars second ++ last → first = second ∧ rest = last
  goesOn : ∀ part rest, spelling.Fits part rest.head? → ¬ Stops (spelling.chars part ++ rest)

variable {spelling} {Stops : List Char → Prop}

theorem text_cons (part : α) (parts : List α) (rest : List Char) :
    spelling.text (part :: parts) ++ rest =
      spelling.chars part ++ (spelling.text parts ++ rest) := by
  rw [text, List.flatMap_cons, List.append_assoc, text]

theorem inSequence_cons {part : α} {parts : List α} {rest : List Char} :
    spelling.InSequence (part :: parts) rest.head? ↔
      spelling.Fits part (spelling.text parts ++ rest).head? ∧
        spelling.InSequence parts rest.head? := by
  rw [InSequence, List.head?_append]

theorem IsExact.exists_parts (isExact : spelling.IsExact Stops) (text : List Char) :
    ∃ parts rest, text = spelling.text parts ++ rest ∧ spelling.InSequence parts rest.head? ∧
      Stops rest := by
  -- On the length: the parts are not known yet, but each leaves a shorter text behind it.
  induction size : text.length using Nat.strongRecOn generalizing text with
  | ind size ih =>
    rcases isExact.begins text with stops | ⟨part, behind, isText, fits, shorter⟩
    · exact ⟨[], text, rfl, trivial, stops⟩
    · obtain ⟨parts, rest, isBehind, inSequence, stops⟩ :=
        ih behind.length (size ▸ shorter) behind rfl
      refine ⟨part :: parts, rest, ?_, ?_, stops⟩
      · rw [text_cons, ← isBehind, isText]
      · rw [inSequence_cons, ← isBehind]
        exact ⟨fits, inSequence⟩

theorem IsExact.not_stops (isExact : spelling.IsExact Stops) {parts : List α} {rest : List Char}
    (inSequence : spelling.InSequence parts rest.head?) (some : parts ≠ []) :
    ¬ Stops (spelling.text parts ++ rest) := by
  obtain ⟨part, others, rfl⟩ := List.exists_cons_of_ne_nil some
  rw [text_cons]
  exact isExact.goesOn part _ (inSequence_cons.mp inSequence).1

/-- A text is made of parts in one way only. -/
theorem IsExact.unique (isExact : spelling.IsExact Stops) {parts others : List α}
    {rest last : List Char} (inSequence : spelling.InSequence parts rest.head?)
    (otherwise : spelling.InSequence others last.head?) (stops : Stops rest)
    (otherStops : Stops last) (same : spelling.text parts ++ rest = spelling.text others ++ last) :
    parts = others ∧ rest = last := by
  induction parts generalizing others with
  | nil =>
    cases others with
    | nil => exact ⟨rfl, same⟩
    | cons part others =>
      have goesOn := isExact.not_stops otherwise (List.cons_ne_nil part others)
      rw [← same] at goesOn
      exact absurd stops goesOn
  | cons part parts ih =>
    cases others with
    | nil =>
      have goesOn := isExact.not_stops inSequence (List.cons_ne_nil part parts)
      rw [same] at goesOn
      exact absurd otherStops goesOn
    | cons other others =>
      rw [text_cons, text_cons] at same
      obtain ⟨fits, behind⟩ := inSequence_cons.mp inSequence
      obtain ⟨otherFits, otherBehind⟩ := inSequence_cons.mp otherwise
      obtain ⟨samePart, sameBehind⟩ := isExact.single _ _ _ _ fits otherFits same
      obtain ⟨sameParts, sameRest⟩ := ih behind otherBehind sameBehind
      exact ⟨by rw [samePart, sameParts], sameRest⟩

/-- A reader that reads one part as what it means reads parts in sequence as what they mean. -/
theorem InSequence.read {ρ : Type} {read : List Char → List Char → ρ} {meaning : α → List Char}
    (single : ∀ word part rest, spelling.Fits part rest.head? →
      read word (spelling.chars part ++ rest) = read (word ++ meaning part) rest)
    {parts : List α} {rest : List Char} (inSequence : spelling.InSequence parts rest.head?)
    (word : List Char) :
    read word (spelling.text parts ++ rest) = read (word ++ parts.flatMap meaning) rest := by
  induction parts generalizing word with
  | nil => rw [List.flatMap_nil, List.append_nil, text, List.flatMap_nil, List.nil_append]
  | cons part parts ih =>
    obtain ⟨fits, behind⟩ := inSequence_cons.mp inSequence
    rw [text_cons, single word part _ fits, ih behind, List.flatMap_cons, List.append_assoc]

theorem text_append (front back : List α) :
    spelling.text (front ++ back) = spelling.text front ++ spelling.text back :=
  List.flatMap_append

theorem text_singleton (part : α) : spelling.text [part] = spelling.chars part :=
  List.append_nil _

theorem inSequence_singleton {part : α} {next : Option Char} :
    spelling.InSequence [part] next ↔ spelling.Fits part next := by
  rw [InSequence, text, List.flatMap_nil, List.head?_nil, Option.none_or]
  exact and_iff_left trivial

theorem inSequence_append {front back : List α} {next : Option Char} :
    spelling.InSequence (front ++ back) next ↔
      spelling.InSequence front ((spelling.text back).head?.or next) ∧
        spelling.InSequence back next := by
  induction front with
  | nil => exact ⟨fun inSequence => ⟨trivial, inSequence⟩, And.right⟩
  | cons part front ih =>
    rw [List.cons_append, InSequence, InSequence, ih, text_append, List.head?_append,
      Option.or_assoc, and_assoc]

/-- What comes next matters to the last part only. -/
theorem InSequence.change {next other : Option Char}
    (changes : ∀ part, spelling.Fits part next → spelling.Fits part other) {parts : List α}
    (inSequence : spelling.InSequence parts next) : spelling.InSequence parts other := by
  induction parts with
  | nil => trivial
  | cons part parts ih =>
    obtain ⟨fits, behind⟩ := inSequence
    refine ⟨?_, ih behind⟩
    cases first : (spelling.text parts).head? with
    | none =>
      rw [first] at fits
      exact changes part fits
    | some char =>
      rw [first] at fits
      exact fits

theorem inSequence_of_forall {parts : List α}
    (always : ∀ part ∈ parts, ∀ next, spelling.Fits part next) (next : Option Char) :
    spelling.InSequence parts next := by
  induction parts with
  | nil => trivial
  | cons part parts ih =>
    exact ⟨always part List.mem_cons_self _,
      ih fun other member => always other (List.mem_cons_of_mem _ member)⟩

end Spelling

end CommandConsole
