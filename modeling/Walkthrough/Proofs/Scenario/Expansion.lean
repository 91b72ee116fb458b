import Walkthrough.Proofs.Fault.InTurn
import Walkthrough.Proofs.Scenario.Cut
import Walkthrough.Scenario.Placeholder

/-!
The expansion of a text. Every placeholder of the text gives way to its value, and the characters
between them stay. What comes of it is not expanded again.
-/
namespace Walkthrough.Placeholders

open Placeholder (Piece pieces Cut IsName token InsideToken)

variable {p : Placeholders}

/-- The value of a name: the given one, or else that of the environment. -/
inductive Gives (p : Placeholders) (name : List Char) (value : String) : Prop where
  | given (found : p.values.lookup (String.ofList name) = some value)
  | inherited {env : Environment} (missing : p.values.lookup (String.ofList name) = none)
      (behind : p.environment = some env) (found : env (String.ofList name) = some value)

def Defines (p : Placeholders) (name : List Char) : Prop := ∃ value, p.Gives name value

inductive Replaces (p : Placeholders) : Piece → List Char → Prop where
  | kept (c : Char) : p.Replaces (.char c) [c]
  | replaced {name : List Char} {value : String} (gives : p.Gives name value) :
      p.Replaces (.variable name) value.toList

def FirstLacking (p : Placeholders) (ps : List Piece) (name : List Char) : Prop :=
  ∃ before after, ps = before ++ .variable name :: after ∧
    (∀ earlier, .variable earlier ∈ before → p.Defines earlier) ∧ ¬p.Defines name

theorem lookup?_iff {name : List Char} {value : String} :
    p.lookup? (String.ofList name) = some value ↔ p.Gives name value := by
  unfold lookup?
  constructor
  · intro found
    split at found
    · next given =>
      cases found
      exact .given given
    · next missing =>
      obtain ⟨env, behind, inherited⟩ := Option.bind_eq_some_iff.mp found
      exact .inherited missing behind inherited
  · rintro (found | ⟨missing, behind, found⟩)
    · rw [found]
    · rw [missing, behind]
      exact found

theorem lookup?_none_iff {name : List Char} :
    p.lookup? (String.ofList name) = none ↔ ¬p.Defines name := by
  simp only [Defines, ← lookup?_iff, Option.eq_none_iff_forall_ne_some, not_exists]

theorem expandPiece_error_iff {piece : Piece} {fault : PlaceholderFault} :
    p.expandPiece piece = .error fault ↔ ∃ name, piece = .variable name ∧
      p.lookup? (String.ofList name) = none ∧ fault = .undefined (String.ofList name) := by
  rcases piece with c | name
  · simp [expandPiece]
  · cases value : p.lookup? (String.ofList name) with
    | some text => simp [expandPiece, value]
    | none => simp [expandPiece, value, eq_comm]

theorem expandPiece_ok_iff {piece : Piece} {part : List Char} :
    p.expandPiece piece = .ok part ↔ p.Replaces piece part := by
  constructor
  · intro expanded
    rcases piece with c | name
    · cases expanded
      exact .kept c
    · rw [expandPiece] at expanded
      split at expanded
      · next found =>
        cases expanded
        exact .replaced (lookup?_iff.mp found)
      · cases expanded
  · rintro (c | gives)
    · rfl
    · rw [expandPiece, lookup?_iff.mpr gives]

theorem expandPiece_succeeds_iff {piece : Piece} : (∃ part, p.expandPiece piece = .ok part) ↔
    ∀ name, piece = .variable name → p.Defines name := by
  constructor
  · rintro ⟨part, expanded⟩ name rfl
    cases expandPiece_ok_iff.mp expanded with
    | replaced gives => exact ⟨_, gives⟩
  · intro defined
    rcases piece with c | name
    · exact ⟨[c], rfl⟩
    · obtain ⟨value, gives⟩ := defined name rfl
      exact ⟨_, expandPiece_ok_iff.mpr (.replaced gives)⟩

theorem expandPieces_goesInTurn (p : Placeholders) :
    GoesInTurn p.expandPiece id p.expandPieces where
  nil := rfl
  cons _ _ := rfl

theorem expandPieces_ok_iff {ps : List Piece} {out : List Char} :
    p.expandPieces ps = .ok out ↔
      ∃ parts, List.Forall₂ p.Replaces ps parts ∧ out = parts.flatten := by
  rw [(expandPieces_goesInTurn p).ok_iff]
  simp only [expandPiece_ok_iff, List.flatMap_id]

theorem expandPieces_error_iff {ps : List Piece} {fault : PlaceholderFault} :
    p.expandPieces ps = .error fault ↔
      ∃ name, p.FirstLacking ps name ∧ fault = .undefined (String.ofList name) := by
  rw [(expandPieces_goesInTurn p).error_iff]
  constructor
  · rintro ⟨before, piece, after, rfl, served, fails⟩
    obtain ⟨name, rfl, undefined, rfl⟩ := expandPiece_error_iff.mp fails
    have defined (earlier : List Char) (member : .variable earlier ∈ before) : p.Defines earlier :=
      expandPiece_succeeds_iff.mp (served _ member) earlier rfl
    exact ⟨name, ⟨before, after, rfl, defined, lookup?_none_iff.mp undefined⟩, rfl⟩
  · rintro ⟨name, ⟨before, after, rfl, defined, undefined⟩, rfl⟩
    have fails := expandPiece_error_iff.mpr ⟨name, rfl, lookup?_none_iff.mpr undefined, rfl⟩
    refine ⟨before, .variable name, after, rfl, fun piece member => ?_, fails⟩
    apply expandPiece_succeeds_iff.mpr
    rintro earlier rfl
    exact defined earlier member

theorem expandPieces_chars (cs : List Char) : p.expandPieces (cs.map .char) = .ok cs := by
  induction cs with
  | nil => rfl
  | cons c rest ih =>
    rw [List.map_cons, expandPieces, ih]
    rfl

/-- What the expansion of a text gives, in terms of the text's pieces. -/
structure Expansion (p : Placeholders) (text : String) (ps : List Piece) : Prop where
  cut : ∀ other, Cut text.toList other ↔ other = ps
  spelled : ps.flatMap Piece.text = text.toList
  /-- Every placeholder gives way to its value, and nothing else changes. -/
  returns : ∀ result, p.expand text = .ok result ↔
    ∃ parts, List.Forall₂ p.Replaces ps parts ∧ result.toList = parts.flatten
  /-- The fault names the first placeholder that has no value. -/
  fails : ∀ fault, p.expand text = .error fault ↔
    ∃ name, p.FirstLacking ps name ∧ fault = .undefined (String.ofList name)
  succeeds : (∃ result, p.expand text = .ok result) ↔ ∀ name, .variable name ∈ ps → p.Defines name
  unchanged : (∀ name, IsName name → ¬token name <:+: text.toList) → p.expand text = .ok text
  splits : ∀ first second, text = first ++ second → ¬InsideToken ps first.toList.length →
    p.expand text = do
      let x ← p.expand first
      let y ← p.expand second
      return x ++ y

theorem expand_error_iff {text : String} {fault : PlaceholderFault} :
    p.expand text = .error fault ↔ p.expandPieces (pieces text.toList) = .error fault := by
  unfold expand
  cases p.expandPieces (pieces text.toList) <;> simp [Except.map]

theorem expand_ok_iff {text result : String} :
    p.expand text = .ok result ↔ p.expandPieces (pieces text.toList) = .ok result.toList := by
  unfold expand
  cases p.expandPieces (pieces text.toList) with
  | error fault => simp [Except.map]
  | ok out =>
    rw [Except.map, Except.ok.injEq, Except.ok.injEq]
    exact ⟨fun h => h ▸ String.toList_ofList.symm, fun h => h ▸ String.ofList_toList⟩

theorem expand_fails_iff {text : String} {fault : PlaceholderFault} :
    p.expand text = .error fault ↔
      ∃ name, p.FirstLacking (pieces text.toList) name ∧ fault = .undefined (String.ofList name) :=
  expand_error_iff.trans expandPieces_error_iff

theorem expand_succeeds_iff (p : Placeholders) (text : String) :
    (∃ result, p.expand text = .ok result) ↔
      ∀ name, .variable name ∈ pieces text.toList → p.Defines name := by
  have fails : (∃ fault, p.expand text = .error fault) ↔
      ∃ name, .variable name ∈ pieces text.toList ∧ ¬p.Defines name := by
    simp only [expand_error_iff, (expandPieces_goesInTurn p).fails_iff, expandPiece_error_iff,
      lookup?_none_iff]
    constructor
    · rintro ⟨_, member, _, name, rfl, undefined, -⟩
      exact ⟨name, member, undefined⟩
    · rintro ⟨name, member, undefined⟩
      exact ⟨_, member, _, name, rfl, undefined, rfl⟩
  cases expanded : p.expand text with
  | ok result =>
    have none_ : ¬∃ fault, p.expand text = .error fault := by simp [expanded]
    rw [fails] at none_
    refine ⟨fun _ name member => ?_, fun _ => ⟨result, rfl⟩⟩
    by_contra undefined
    exact none_ ⟨name, member, undefined⟩
  | error fault =>
    obtain ⟨name, member, undefined⟩ := fails.mp ⟨fault, expanded⟩
    exact ⟨nofun, fun defined => absurd (defined name member) undefined⟩

theorem expand_append {first second : String}
    (outside : ¬InsideToken (pieces (first ++ second).toList) first.toList.length) :
    p.expand (first ++ second) = do
      let x ← p.expand first
      let y ← p.expand second
      return x ++ y := by
  obtain ⟨ps₁, ps₂, both, cut₁, cut₂⟩ :=
    (Placeholder.cut_pieces (first ++ second).toList).append String.toList_append outside
  rw [Placeholder.cut_iff] at cut₁ cut₂
  unfold expand
  rw [both, (expandPieces_goesInTurn p).append, cut₁, cut₂]
  cases p.expandPieces ps₁ with
  | error fault => rfl
  | ok x =>
    cases p.expandPieces ps₂ with
    | error fault => rfl
    | ok y => exact congrArg Except.ok String.ofList_append

/-- A text is cut once, and its placeholders are replaced in one pass. -/
theorem expand_expands (p : Placeholders) (text : String) :
    p.Expansion text (pieces text.toList) where
  cut other := Placeholder.cut_iff.trans eq_comm
  spelled := (Placeholder.cut_pieces text.toList).text
  returns result := expand_ok_iff.trans expandPieces_ok_iff
  fails fault := expand_fails_iff
  succeeds := expand_succeeds_iff p text
  unchanged plain := by
    rw [expand_ok_iff, (Placeholder.cut_pieces text.toList).of_plain plain]
    exact expandPieces_chars text.toList
  splits first second parts outside := by
    subst parts
    exact expand_append outside

namespace Sample

/-- The value of `A` with a dollar sign before it is written like a placeholder, and `C` is only in
the environment. -/
def values : Placeholders :=
  { values := [("A", "\x7bB\x7d"), ("B", "b")]
    environment := some fun name => if name = "C" then some "c" else none }

example : (values.expand "$\x7b$\x7bA\x7d\x7d $\x7b\x7d $$\x7bC\x7d $\x7bA").toOption =
    some "$\x7b\x7bB\x7d\x7d $\x7b\x7d $c $\x7bA" := by decide +kernel

theorem dollar_expands : values.expand "$$\x7bA\x7d" = .ok "$\x7bB\x7d" := by
  have cut : pieces "$$\x7bA\x7d".toList = [.char '$', .variable ['A']] := by decide +kernel
  have law := expand_expands values "$$\x7bA\x7d"
  rw [cut] at law
  have found : values.Gives ['A'] "\x7bB\x7d" := .given (by decide +kernel)
  exact (law.returns _).mpr ⟨_, .cons (.kept '$') (.cons (.replaced found) .nil), by decide⟩

end Sample

end Walkthrough.Placeholders
