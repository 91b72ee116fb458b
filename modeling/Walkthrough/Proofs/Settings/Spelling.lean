import Walkthrough.Proofs.Json.Numeral
import Walkthrough.Proofs.Text.Trim
import Walkthrough.Settings.Environment

/-!
What the values of variables spell: numbers, words for yes and no, and names. Blanks may stand
around each of them.
-/
namespace Walkthrough

open Text (Blank Trimmed Surrounds isBlank)

variable {cs core digits : List Char} {text : String} {n bound : Nat} {b : Bool}

def numberOf (digits : List Char) : Nat :=
  Binary64.digitsValue (digits.map fun c => c.toNat - '0'.toNat)

inductive IsNumeral : List Char → Nat → Prop where
  | plain {digits : List Char} (some_ : digits ≠ []) (each : ∀ c ∈ digits, c.isDigit = true) :
      IsNumeral digits (numberOf digits)
  | signed {digits : List Char} (some_ : digits ≠ []) (each : ∀ c ∈ digits, c.isDigit = true) :
      IsNumeral ('+' :: digits) (numberOf digits)

/-- A number below the bound, with blanks around it. -/
structure SpellsNumber (bound : Nat) (text : String) (n : Nat) : Prop where
  small : n < bound
  numeral : ∃ core, IsNumeral core n ∧ Surrounds core text.toList

theorem takeDigits_eq_nil (all : (takeDigits cs).2 = []) : ∀ c ∈ cs, c.isDigit = true := by
  induction cs with
  | nil => nofun
  | cons c rest ih =>
    cases digit : digitOf? c with
    | none => simp [takeDigits, digit] at all
    | some d =>
      simp only [takeDigits, digit] at all
      refine List.forall_mem_cons.mpr ⟨?_, ih all⟩
      unfold digitOf? at digit
      split at digit
      case isTrue within =>
        exact Char.isDigit_iff_toNat.mpr
          ⟨UInt32.le_iff_toNat_le.mp within.1, UInt32.le_iff_toNat_le.mp within.2⟩
      case isFalse => cases digit

theorem digitsOf?_eq_some_iff : digitsOf? digits = some n ↔
    digits ≠ [] ∧ (∀ c ∈ digits, c.isDigit = true) ∧ numberOf digits = n := by
  constructor
  · intro read
    cases digits with
    | nil => cases read
    | cons c rest =>
      simp only [digitsOf?] at read
      split at read
      case h_1 ds taken =>
        have each := takeDigits_eq_nil (congrArg Prod.snd taken)
        rw [takeDigits_of_isDigit each] at taken
        cases taken
        exact ⟨List.cons_ne_nil c rest, each, Option.some.inj read⟩
      case h_2 => cases read
  · rintro ⟨some_, each, rfl⟩
    cases digits with
    | nil => exact absurd rfl some_
    | cons c rest =>
      simp only [digitsOf?, takeDigits_of_isDigit each]
      rfl

theorem numeral?_eq_some_iff :
    numeral? bound text = some n ↔ n < bound ∧ IsNumeral text.toList n := by
  rw [numeral?, Option.filter_eq_some_iff, decide_eq_true_eq, and_comm]
  refine and_congr_right fun _ => ⟨fun read => ?_, fun numeral => ?_⟩
  · split at read
    · rename_i rest written
      obtain ⟨some_, each, rfl⟩ := digitsOf?_eq_some_iff.mp read
      rw [written]
      exact .signed some_ each
    · obtain ⟨some_, each, rfl⟩ := digitsOf?_eq_some_iff.mp read
      exact .plain some_ each
  · generalize text.toList = cs at numeral
    cases numeral with
    | signed some_ each => exact digitsOf?_eq_some_iff.mpr ⟨some_, each, rfl⟩
    | plain some_ each =>
      split
      · exact absurd (each '+' List.mem_cons_self) (by decide)
      · exact digitsOf?_eq_some_iff.mpr ⟨some_, each, rfl⟩

theorem IsNumeral.solid (h : IsNumeral core n) : ∀ c ∈ core, isBlank c = false := by
  cases h with
  | plain _ each => exact fun c mem => Text.isBlank_of_isDigit (each c mem)
  | signed _ each =>
    exact List.forall_mem_cons.mpr ⟨rfl, fun c mem => Text.isBlank_of_isDigit (each c mem)⟩

theorem numeral?_trim_iff :
    numeral? bound (Text.trim text) = some n ↔ SpellsNumber bound text n := by
  rw [numeral?_eq_some_iff, Text.trim, String.toList_ofList]
  constructor
  · rintro ⟨small, numeral⟩
    exact ⟨small, _, numeral, Text.surrounds_trimChars text.toList⟩
  · rintro ⟨small, core, numeral, surrounds⟩
    rw [Text.trimChars_eq_of_solid numeral.solid surrounds]
    exact ⟨small, numeral⟩

def flagWords : Bool → List String
  | true => ["1", "true", "yes", "on"]
  | false => ["0", "false", "no", "off"]

/-- A word for yes or no in any case, with blanks around it. -/
def SpellsFlag (text : String) (b : Bool) : Prop :=
  ∃ core, String.ofList (core.map Char.toLower) ∈ flagWords b ∧ Surrounds core text.toList

theorem flagOf?_iff_mem : Environment.flagOf? text = some b ↔
    Environment.lowerAscii (Text.trim text) ∈ flagWords b := by
  unfold Environment.flagOf?
  cases b <;> split <;> simp_all [flagWords]

theorem solid_of_flagWord (word : String.ofList (core.map Char.toLower) ∈ flagWords b) :
    ∀ c ∈ core, isBlank c = false := by
  have ascii : ∀ b, ∀ word ∈ flagWords b, ∀ c ∈ word.toList, 33 ≤ c.toNat ∧ c.toNat ≤ 126 := by
    intro b
    cases b <;> simp [flagWords]
  intro c mem
  have lower : c.toLower ∈ (String.ofList (core.map Char.toLower)).toList := by
    rw [String.toList_ofList]
    exact List.mem_map_of_mem mem
  obtain ⟨low, high⟩ := ascii b _ word _ lower
  exact Text.isBlank_of_toLower low high

theorem flagOf?_eq_some_iff : Environment.flagOf? text = some b ↔ SpellsFlag text b := by
  rw [flagOf?_iff_mem, Environment.lowerAscii, Text.trim, String.toList_ofList]
  constructor
  · exact fun word => ⟨_, word, Text.surrounds_trimChars text.toList⟩
  · rintro ⟨core, word, surrounds⟩
    rwa [Text.trimChars_eq_of_solid (solid_of_flagWord word) surrounds]

/-- A name in lower case, of a text that has more than blanks around it. -/
def SpellsName (text name : String) : Prop :=
  ∃ core, core ≠ [] ∧ Trimmed core ∧ Surrounds core text.toList ∧
    name = String.ofList (core.map Char.toLower)

theorem isAllBlank_iff : Text.isAllBlank text = true ↔ Blank text.toList := List.all_eq_true

theorem spellsName_iff {name : String} : SpellsName text name ↔
    ¬ Blank text.toList ∧ name = Environment.lowerAscii (Text.trim text) := by
  rw [← Text.trimChars_eq_nil_iff, Environment.lowerAscii, Text.trim, String.toList_ofList]
  constructor
  · rintro ⟨core, some_, trimmed, surrounds, rfl⟩
    rw [Text.trimChars_eq_iff.mpr ⟨trimmed, surrounds⟩]
    exact ⟨some_, rfl⟩
  · rintro ⟨some_, rfl⟩
    exact ⟨_, some_, Text.trimmed_trimChars _, Text.surrounds_trimChars _, rfl⟩

end Walkthrough
