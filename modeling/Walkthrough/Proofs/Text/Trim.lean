import Walkthrough.Proofs.Text.Ascii
import Walkthrough.Proofs.Text.Words

/-!
Texts without the blanks at their ends. Every text is a trimmed one with blanks around it, in one
way as far as the trimmed one goes.
-/
namespace Walkthrough.Text

variable {cs core before after : List Char} {c : Char}

/-- No blank stands at either end. -/
structure Trimmed (cs : List Char) : Prop where
  front : ∀ c ∈ cs.head?, isBlank c = false
  back : ∀ c ∈ cs.getLast?, isBlank c = false

/-- The text is the core with blanks around it. -/
def Surrounds (core cs : List Char) : Prop :=
  ∃ before after, Blank before ∧ Blank after ∧ before ++ (core ++ after) = cs

theorem blank_reverse : Blank cs.reverse ↔ Blank cs := by simp [Blank]

theorem trimStart_append (blank : Blank before) (cs : List Char) :
    trimStart (before ++ cs) = trimStart cs := by
  induction before with
  | nil => rfl
  | cons c before ih =>
    obtain ⟨first, later⟩ := blank_cons.mp blank
    rw [List.cons_append, trimStart, List.dropWhile_cons_of_pos first]
    exact ih later

theorem trimStart_cons (solid : isBlank c = false) (rest : List Char) :
    trimStart (c :: rest) = c :: rest :=
  List.dropWhile_cons_of_neg (by simp [solid])

theorem trimStart_of_front (front : ∀ c ∈ cs.head?, isBlank c = false) : trimStart cs = cs := by
  cases cs with
  | nil => rfl
  | cons c rest => exact trimStart_cons (front c rfl) rest

theorem exists_trimStart (cs : List Char) :
    ∃ before, Blank before ∧ before ++ trimStart cs = cs ∧
      ∀ c ∈ (trimStart cs).head?, isBlank c = false := by
  refine ⟨cs.takeWhile isBlank, List.all_eq_true.mp List.all_takeWhile,
    List.takeWhile_append_dropWhile, fun c first => ?_⟩
  have stops := List.head?_dropWhile_not isBlank cs
  rwa [← trimStart, first] at stops

theorem exists_trimEnd (cs : List Char) :
    ∃ after, Blank after ∧ trimEnd cs ++ after = cs ∧
      ∀ c ∈ (trimEnd cs).getLast?, isBlank c = false := by
  obtain ⟨before, blank, whole, front⟩ := exists_trimStart cs.reverse
  refine ⟨before.reverse, blank_reverse.mpr blank, ?_, ?_⟩
  · rw [trimEnd, ← List.reverse_append, whole, List.reverse_reverse]
  · rwa [trimEnd, List.getLast?_reverse]

theorem trimEnd_append (blank : Blank after) (back : ∀ c ∈ cs.getLast?, isBlank c = false) :
    trimEnd (cs ++ after) = cs := by
  rw [trimEnd, List.reverse_append, trimStart_append (blank_reverse.mpr blank),
    trimStart_of_front (by rwa [List.head?_reverse]), List.reverse_reverse]

theorem surrounds_trimChars (cs : List Char) : Surrounds (trimChars cs) cs := by
  obtain ⟨before, blankBefore, whole, -⟩ := exists_trimStart cs
  obtain ⟨after, blankAfter, rest, -⟩ := exists_trimEnd (trimStart cs)
  exact ⟨before, after, blankBefore, blankAfter, by rw [trimChars, rest, whole]⟩

theorem trimmed_trimChars (cs : List Char) : Trimmed (trimChars cs) := by
  obtain ⟨-, -, -, front⟩ := exists_trimStart cs
  obtain ⟨after, -, rest, back⟩ := exists_trimEnd (trimStart cs)
  refine ⟨fun c first => front c ?_, back⟩
  -- What is cut off at the end leaves the first character in its place.
  rw [trimChars, Option.mem_def] at first
  rw [← rest, List.head?_append, first]
  rfl

theorem trimChars_eq_iff : trimChars cs = core ↔ Trimmed core ∧ Surrounds core cs := by
  constructor
  · rintro rfl
    exact ⟨trimmed_trimChars cs, surrounds_trimChars cs⟩
  · rintro ⟨⟨front, back⟩, before, after, blankBefore, blankAfter, rfl⟩
    rw [trimChars, trimStart_append blankBefore]
    cases core with
    | nil =>
      have gone : trimStart after = [] := by simpa [trimStart] using trimStart_append blankAfter []
      rw [List.nil_append, gone]
      rfl
    | cons c rest =>
      rw [List.cons_append, trimStart_cons (front c rfl), ← List.cons_append,
        trimEnd_append blankAfter back]

theorem trimChars_eq_of_solid (solid : ∀ c ∈ core, isBlank c = false)
    (surrounds : Surrounds core cs) : trimChars cs = core :=
  trimChars_eq_iff.mpr ⟨⟨fun c first => solid c (List.mem_of_mem_head? first),
    fun c last => solid c (List.mem_of_mem_getLast? last)⟩, surrounds⟩

theorem trimChars_of_solid (solid : ∀ c ∈ cs, isBlank c = false) : trimChars cs = cs :=
  trimChars_eq_of_solid solid ⟨[], [], nofun, nofun, List.append_nil cs⟩

theorem trimChars_eq_nil_iff : trimChars cs = [] ↔ Blank cs := by
  constructor
  · intro gone
    obtain ⟨before, after, blankBefore, blankAfter, whole⟩ := surrounds_trimChars cs
    rw [gone] at whole
    exact whole ▸ blank_append.mpr ⟨blankBefore, blankAfter⟩
  · intro blank
    exact trimChars_eq_of_solid nofun ⟨cs, [], blank, nofun, List.append_nil cs⟩

end Walkthrough.Text
