import Walkthrough.Proofs.Json.Written

/-!
Compact text is a single line. Control characters in strings and names are escaped, and nothing else
in the text of a value is one, so no text that a value holds can break the line.
-/
namespace Walkthrough.Json

def Visible (cs : List Char) : Prop := ∀ c ∈ cs, 32 ≤ c.toNat

instance (cs : List Char) : Decidable (Visible cs) :=
  List.decidableBAll (fun c : Char => 32 ≤ c.toNat) cs

variable {cs ds : List Char}

theorem Visible.cons {c : Char} (first : 32 ≤ c.toNat) (rest : Visible cs) : Visible (c :: cs) :=
  List.forall_mem_cons.mpr ⟨first, rest⟩

theorem Visible.append (front : Visible cs) (back : Visible ds) : Visible (cs ++ ds) :=
  List.forall_mem_append.mpr ⟨front, back⟩

theorem Visible.not_mem_newline (visible : Visible cs) : '\n' ∉ cs := by
  intro found
  have control : '\n'.toNat < 32 := by decide
  have := visible '\n' found
  omega

theorem lowerHexDigit_visible : ∀ n < 16, 32 ≤ (Text.lowerHexDigit n).toNat := by decide

theorem escapeChar_visible (c : Char) : Visible (escapeChar c) := by
  unfold escapeChar
  split_ifs with quote backslash back tab line feed back small
  any_goals decide
  · have high := lowerHexDigit_visible (c.toNat / 16) (by omega)
    have low := lowerHexDigit_visible (c.toNat % 16) (by omega)
    have mark : Visible ['\\', 'u', '0', '0'] := by decide
    exact mark.append (.cons high (.cons low nofun))
  · exact .cons (Nat.le_of_not_lt small) nofun

theorem stringChars_visible (s : String) : Visible (stringChars s) := by
  have quote : 32 ≤ '"'.toNat := by decide
  refine .cons quote (.append ?_ (.cons quote nofun))
  intro c member
  obtain ⟨d, -, escaped⟩ := List.mem_flatMap.mp member
  exact escapeChar_visible d c escaped

theorem numberChars_visible (n : JsonNumber) : Visible (numberChars n) := by
  intro c member
  rcases numberChars_chars n c member with digit | rfl | rfl | rfl | rfl
  · have := (Char.isDigit_iff_toNat.mp digit).1
    have zero : '0'.toNat = 48 := rfl
    omega
  all_goals decide

mutual

theorem chars_visible (j : Json) : Visible j.chars := by
  match j with
  | .null => rw [chars]; decide
  | .bool true => rw [chars]; decide
  | .bool false => rw [chars]; decide
  | .number n =>
    rw [chars]
    exact numberChars_visible n
  | .string s =>
    rw [chars]
    exact stringChars_visible s
  | .array [] => rw [chars]; decide
  | .array (item :: rest) =>
    rw [chars]
    exact .cons (by decide) ((chars_visible item).append (itemsChars_visible rest))
  | .object [] => rw [chars]; decide
  | .object ((name, value) :: rest) =>
    rw [chars]
    refine .cons (by decide) ((stringChars_visible name).append (.cons (by decide) ?_))
    exact (chars_visible value).append (membersChars_visible rest)

theorem itemsChars_visible (items : List Json) : Visible (itemsChars items) := by
  match items with
  | [] => rw [itemsChars]; decide
  | item :: rest =>
    rw [itemsChars]
    exact .cons (by decide) ((chars_visible item).append (itemsChars_visible rest))

theorem membersChars_visible (members : List (String × Json)) :
    Visible (membersChars members) := by
  match members with
  | [] => rw [membersChars]; decide
  | (name, value) :: rest =>
    rw [membersChars]
    refine .cons (by decide) ((stringChars_visible name).append (.cons (by decide) ?_))
    exact (chars_visible value).append (membersChars_visible rest)

end

end Walkthrough.Json
