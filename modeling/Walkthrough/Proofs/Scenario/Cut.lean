import Walkthrough.Proofs.Text.Ascii
import Walkthrough.Scenario.Placeholder

/-!
The cut of a text into placeholders and the characters between them. A placeholder is a dollar sign
and a name in braces; the text is cut from left to right, and there is one way to do so.
-/
namespace Walkthrough.Placeholder

def NameChar (c : Char) : Prop :=
  Text.IsLetter c ∨ ('0' ≤ c ∧ c ≤ '9') ∨ c ∈ ['_', '.', ':', '-']

structure IsName (name : List Char) : Prop where
  nonempty : name ≠ []
  chars : ∀ c ∈ name, NameChar c

def token (name : List Char) : List Char := '$' :: '\x7b' :: (name ++ ['\x7d'])

def StartsToken (cs : List Char) : Prop := ∃ name, IsName name ∧ token name <+: cs

/-- The cut of a text into pieces, from left to right. -/
inductive Cut : List Char → List Piece → Prop where
  | nil : Cut [] []
  | replaced {name rest : List Char} {ps : List Piece} (named : IsName name) (tail : Cut rest ps) :
      Cut (token name ++ rest) (.variable name :: ps)
  | kept {c : Char} {rest : List Char} {ps : List Piece} (plain : ¬StartsToken (c :: rest))
      (tail : Cut rest ps) : Cut (c :: rest) (.char c :: ps)

theorem isNameChar_iff {c : Char} : isNameChar c = true ↔ NameChar c := by
  simp only [isNameChar, NameChar, Bool.or_eq_true, beq_iff_eq, Text.isAlphanum_iff, List.mem_cons,
    List.not_mem_nil, or_false, or_assoc]

theorem not_isNameChar_brace : isNameChar '\x7d' = false := by decide

theorem name?_token {name : List Char} (named : IsName name) (rest : List Char) :
    name? (token name ++ rest) = some (name, rest) := by
  have chars : ∀ c ∈ name, isNameChar c = true := fun c h => isNameChar_iff.mpr (named.chars c h)
  have written : token name ++ rest = '$' :: '\x7b' :: (name ++ '\x7d' :: rest) := by
    simp [token]
  obtain ⟨first, more, rfl⟩ := List.exists_cons_of_ne_nil named.nonempty
  rw [written, name?, List.takeWhile_append_of_pos chars, List.dropWhile_append_of_pos chars]
  simp [not_isNameChar_brace]

theorem of_name? {cs name rest : List Char} (h : name? cs = some (name, rest)) :
    IsName name ∧ cs = token name ++ rest := by
  unfold name? at h
  split at h
  · next after =>
    split at h
    · next first more tail taken dropped =>
      cases h
      have split_ := List.takeWhile_append_dropWhile (p := isNameChar) (l := after)
      rw [taken, dropped] at split_
      refine ⟨⟨List.cons_ne_nil first more, fun c member => ?_⟩, by simp [token, ← split_]⟩
      have good := List.all_takeWhile (p := isNameChar) (l := after)
      rw [taken] at good
      exact isNameChar_iff.mp (List.all_eq_true.mp good c member)
    · cases h
  · cases h

theorem startsToken_iff {cs : List Char} : StartsToken cs ↔ ∃ found, name? cs = some found := by
  constructor
  · rintro ⟨name, named, rest, rfl⟩
    exact ⟨_, name?_token named rest⟩
  · rintro ⟨⟨name, rest⟩, found⟩
    obtain ⟨named, rfl⟩ := of_name? found
    exact ⟨name, named, List.prefix_append ..⟩

theorem pieces_token {name : List Char} (named : IsName name) (rest : List Char) :
    pieces (token name ++ rest) = .variable name :: pieces rest := by
  have found := name?_token named rest
  rw [token, List.cons_append] at found ⊢
  rw [pieces]
  split
  · next other tail same =>
    cases found.symm.trans same
    rfl
  · next none_ => cases found.symm.trans none_

theorem pieces_char {c : Char} {rest : List Char} (plain : ¬StartsToken (c :: rest)) :
    pieces (c :: rest) = .char c :: pieces rest := by
  rw [startsToken_iff] at plain
  rw [pieces]
  split
  · next found => exact absurd ⟨_, found⟩ plain
  · rfl

theorem cut_pieces (cs : List Char) : Cut cs (pieces cs) := by
  induction cs using pieces.induct with
  | case1 =>
    rw [pieces]
    exact .nil
  | case2 c rest name tail found shorter ih =>
    obtain ⟨named, written⟩ := of_name? found
    rw [written, pieces_token named]
    exact .replaced named ih
  | case3 c rest none_ ih =>
    have plain : ¬StartsToken (c :: rest) := by
      rw [startsToken_iff, none_]
      simp
    rw [pieces_char plain]
    exact .kept plain ih

theorem cut_iff {cs : List Char} {ps : List Piece} : Cut cs ps ↔ pieces cs = ps := by
  constructor
  · intro cut
    induction cut with
    | nil => rw [pieces]
    | replaced named tail ih => rw [pieces_token named, ih]
    | kept plain tail ih => rw [pieces_char plain, ih]
  · rintro rfl
    exact cut_pieces cs

def Piece.text : Piece → List Char
  | .char c => [c]
  | .variable name => token name

theorem Cut.text {cs : List Char} {ps : List Piece} (cut : Cut cs ps) :
    ps.flatMap Piece.text = cs := by
  induction cut with
  | nil => rfl
  | replaced named tail ih => rw [List.flatMap_cons, ih, Piece.text]
  | kept plain tail ih => rw [List.flatMap_cons, ih, Piece.text, List.singleton_append]

/-- A place in a text lies inside one of its placeholders. -/
def InsideToken (ps : List Piece) (place : Nat) : Prop :=
  ∃ before name after, ps = before ++ .variable name :: after ∧
    (before.flatMap Piece.text).length < place ∧
      place < (before.flatMap Piece.text).length + (token name).length

theorem InsideToken.cons {ps : List Piece} {place : Nat} (h : InsideToken ps place)
    (piece : Piece) : InsideToken (piece :: ps) (piece.text.length + place) := by
  obtain ⟨before, name, after, rfl, past, within⟩ := h
  refine ⟨piece :: before, name, after, rfl, ?_⟩
  rw [List.flatMap_cons, List.length_append]
  omega

theorem Cut.append {cs : List Char} {ps : List Piece} (cut : Cut cs ps) {first second : List Char}
    (parts : cs = first ++ second) (outside : ¬InsideToken ps first.length) :
    ∃ ps₁ ps₂, ps = ps₁ ++ ps₂ ∧ Cut first ps₁ ∧ Cut second ps₂ := by
  induction cut generalizing first with
  | nil =>
    obtain ⟨rfl, rfl⟩ := List.append_eq_nil_iff.mp parts.symm
    exact ⟨[], [], rfl, .nil, .nil⟩
  | @replaced name rest ps named tail ih =>
    rcases Nat.eq_zero_or_pos first.length with empty | past
    · obtain rfl := List.length_eq_zero_iff.mp empty
      rw [List.nil_append] at parts
      exact ⟨[], _, rfl, .nil, parts ▸ .replaced named tail⟩
    · -- The first part does not end within the placeholder, so it has the whole of it.
      have reaches : (token name).length ≤ first.length :=
        Nat.le_of_not_lt fun short => outside ⟨[], name, ps, rfl, past, by simpa using short⟩
      have starts : token name <+: first :=
        List.prefix_of_prefix_length_le ⟨rest, rfl⟩ ⟨second, parts.symm⟩ reaches
      obtain ⟨more, rfl⟩ := starts
      have outside' : ¬InsideToken ps more.length := fun inside =>
        outside (by simpa [Piece.text] using inside.cons (.variable name))
      rw [List.append_assoc] at parts
      obtain ⟨ps₁, ps₂, rfl, cut₁, cut₂⟩ := ih (List.append_cancel_left parts) outside'
      exact ⟨.variable name :: ps₁, ps₂, rfl, .replaced named cut₁, cut₂⟩
  | @kept c rest ps plain tail ih =>
    rcases first with _ | ⟨d, more⟩
    · rw [List.nil_append] at parts
      exact ⟨[], _, rfl, .nil, parts ▸ .kept plain tail⟩
    · obtain ⟨rfl, rfl⟩ := List.cons.inj parts
      have outside' : ¬InsideToken ps more.length := fun inside =>
        outside (by simpa [Piece.text, Nat.add_comm] using inside.cons (.char c))
      obtain ⟨ps₁, ps₂, rfl, cut₁, cut₂⟩ := ih rfl outside'
      -- A placeholder at the front of the first part would stand at the front of the text.
      have plain' : ¬StartsToken (c :: more) := fun ⟨name, named, starts⟩ =>
        plain ⟨name, named, starts.trans (List.prefix_append ..)⟩
      exact ⟨.char c :: ps₁, ps₂, rfl, .kept plain' cut₁, cut₂⟩

theorem Cut.of_plain {cs : List Char} {ps : List Piece} (cut : Cut cs ps)
    (none_ : ∀ name, IsName name → ¬token name <:+: cs) : ps = cs.map .char := by
  induction cut with
  | nil => rfl
  | replaced named tail ih => exact absurd (List.prefix_append ..).isInfix (none_ _ named)
  | kept plain tail ih =>
    rw [ih fun name named inside => none_ name named (inside.trans (List.suffix_cons ..).isInfix)]
    rfl

end Walkthrough.Placeholder
