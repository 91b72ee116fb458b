import Mathlib.Tactic.SplitIfs
import Walkthrough.Proofs.Json.Numeral

/-!
What stands in a text for a string, and the outlines that show a value: those without faults that
are made, piece by piece, like the value itself.
-/
namespace Walkthrough.Json

theorem hexDigit?_lowerHexDigit :
    ∀ n < 16, Unicode.hexDigit? (Text.lowerHexDigit n) = some n := by decide

theorem hexUnit?_control {n : Nat} (small : n < 32) :
    hexUnit? '0' '0' (Text.lowerHexDigit (n / 16)) (Text.lowerHexDigit (n % 16)) = some n := by
  have high := hexDigit?_lowerHexDigit (n / 16) (by omega)
  have low := hexDigit?_lowerHexDigit (n % 16) (by omega)
  have zero : Unicode.hexDigit? '0' = some 0 := rfl
  simp only [hexUnit?, high, low, zero, Option.bind_eq_bind, Option.bind_some, Option.pure_def]
  congr
  omega

/-- The piece stands for the character, whatever comes after it. -/
def Piece.Spells (piece : Piece) (c : Char) : Prop := ∀ ending pieces,
  Quotation.charsOf ending (piece :: pieces) = (Quotation.charsOf ending pieces).map (c :: ·)

theorem Piece.spells_char (c : Char) : (Piece.char c).Spells c := fun _ _ => rfl

theorem Piece.spells_unit {c : Char} (small : c.toNat < 32) : (Piece.unit c.toNat).Spells c := by
  intro ending pieces
  have low : Quotation.isLowUnit c.toNat = false := by
    simp only [Quotation.isLowUnit, Bool.and_eq_false_iff, decide_eq_false_iff_not]
    omega
  have high : Quotation.isHighUnit c.toNat = false := by
    simp only [Quotation.isHighUnit, Bool.and_eq_false_iff, decide_eq_false_iff_not]
    omega
  rw [Quotation.charsOf.eq_def]
  dsimp only
  rw [low, high]
  simp only [Bool.false_eq_true, if_false, Char.ofNat_toNat]

def StartsWith (c : Char) (text rest : List Char) : Prop := ∃ piece : Piece, piece.Spells c ∧
  takeString text = (⟨piece :: (takeString rest).1.pieces, (takeString rest).1.ending⟩,
    (takeString rest).2)

theorem startsWith_letter {c e : Char} (rest : List Char) (escape : letterEscape? e = some c)
    (letter : e ≠ 'u') : StartsWith c ('\\' :: e :: rest) rest := by
  refine ⟨.char c, Piece.spells_char c, ?_⟩
  rw [takeString, escape]
  rintro a b c d more rfl
  exact fun _ => letter rfl

theorem startsWith_plain {c : Char} (rest : List Char) (quote : c ≠ '"') (escape : c ≠ '\\')
    (visible : ¬ c.toNat < 32) : StartsWith c (c :: rest) rest := by
  refine ⟨.char c, Piece.spells_char c, ?_⟩
  rw [takeString, if_neg quote, if_neg visible]
  all_goals intros; contradiction

theorem startsWith_escapeChar (c : Char) (rest : List Char) :
    StartsWith c (escapeChar c ++ rest) rest := by
  have named : ∀ {n : Nat}, c.toNat = n → Char.ofNat n = c := by
    rintro _ rfl
    exact Char.ofNat_toNat c
  unfold escapeChar
  split_ifs with quote backslash back tab line feed back small
  · subst quote
    exact startsWith_letter rest rfl (by decide)
  · subst backslash
    exact startsWith_letter rest rfl (by decide)
  · exact named back ▸ startsWith_letter rest rfl (by decide)
  · exact named tab ▸ startsWith_letter rest rfl (by decide)
  · exact named line ▸ startsWith_letter rest rfl (by decide)
  · exact named feed ▸ startsWith_letter rest rfl (by decide)
  · exact named back ▸ startsWith_letter rest rfl (by decide)
  · refine ⟨.unit c.toNat, Piece.spells_unit small, ?_⟩
    simp only [List.cons_append, List.nil_append, takeString, hexUnit?_control small]
  · exact startsWith_plain rest quote backslash small

theorem takeString_escaped (cs tail : List Char) : ∃ q : Quotation,
    takeString (cs.flatMap escapeChar ++ '"' :: tail) = (q, tail) ∧ q.ending = none ∧
      Quotation.charsOf q.ending q.pieces = .ok cs := by
  induction cs with
  | nil => exact ⟨⟨[], none⟩, by simp [takeString], rfl, rfl⟩
  | cons c rest ih =>
    obtain ⟨q, taken, ending, chars⟩ := ih
    obtain ⟨piece, spells, starts⟩ :=
      startsWith_escapeChar c (rest.flatMap escapeChar ++ '"' :: tail)
    rw [taken] at starts
    refine ⟨⟨piece :: q.pieces, q.ending⟩, ?_, ending, ?_⟩
    · rw [List.flatMap_cons, List.append_assoc, starts]
    · rw [spells, chars]
      rfl

theorem takeString_stringChars (s : String) (tail : List Char) : ∃ rest q,
    stringChars s ++ tail = '"' :: rest ∧ takeString rest = (q, tail) ∧ q.ending = none ∧
      q.text = .ok s := by
  obtain ⟨q, taken, ending, chars⟩ := takeString_escaped s.toList tail
  refine ⟨_, q, by simp [stringChars], taken, ending, ?_⟩
  rw [Quotation.text, chars]
  exact congrArg Except.ok String.ofList_toList

mutual

/-- The outline, which has no faults, is one of the value. -/
inductive Outline.Shows : Outline → Json → Prop
  | null : Outline.Shows .null .null
  | bool (b : Bool) : Outline.Shows (.bool b) (.bool b)
  | number (n : JsonNumber) : Outline.Shows (.number (.ok n)) (.number n)
  | string {q : Quotation} {s : String} (text : q.text = .ok s) :
      Outline.Shows (.string q) (.string s)
  | array {outlines : List Outline} {items : List Json} (all : Outline.ShowsItems outlines items) :
      Outline.Shows (.list outlines none) (.array items)
  | object {outlines : List (Quotation × Outline)} {members : List (String × Json)}
      (all : Outline.ShowsMembers outlines members) :
      Outline.Shows (.record outlines none) (.object members)

inductive Outline.ShowsItems : List Outline → List Json → Prop
  | nil : Outline.ShowsItems [] []
  | cons {o : Outline} {j : Json} {outlines : List Outline} {items : List Json}
      (first : o.Shows j) (rest : Outline.ShowsItems outlines items) :
      Outline.ShowsItems (o :: outlines) (j :: items)

inductive Outline.ShowsMembers : List (Quotation × Outline) → List (String × Json) → Prop
  | nil : Outline.ShowsMembers [] []
  | cons {q : Quotation} {s : String} {o : Outline} {j : Json}
      {outlines : List (Quotation × Outline)} {members : List (String × Json)}
      (name : q.text = .ok s) (first : o.Shows j)
      (rest : Outline.ShowsMembers outlines members) :
      Outline.ShowsMembers ((q, o) :: outlines) ((s, j) :: members)

end

mutual

def numbers : Json → List JsonNumber
  | .number n => [n]
  | .array items => itemNumbers items
  | .object members => memberNumbers members
  | .null | .bool _ | .string _ => []

def itemNumbers : List Json → List JsonNumber
  | [] => []
  | item :: rest => numbers item ++ itemNumbers rest

def memberNumbers : List (String × Json) → List JsonNumber
  | [] => []
  | (_, value) :: rest => numbers value ++ memberNumbers rest

end

theorem endsNumeral_nil : EndsNumeral [] := nofun

theorem skipSpace_cons {c : Char} (rest : List Char) (solid : isSpace c = false) :
    skipSpace (c :: rest) = c :: rest :=
  List.dropWhile_cons_of_neg (by simp [solid])

end Walkthrough.Json
