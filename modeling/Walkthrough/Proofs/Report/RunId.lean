import Mathlib.Algebra.GroupWithZero.Nat
import Walkthrough.Proofs.Json.Written
import Walkthrough.Report.RunId

/-!
Run identifiers are read from the text that they are written as. The digits keep all of the bits,
and the groups that they stand in are those that are looked for.
-/
namespace Walkthrough.RunId

theorem hexDigits_length (n count : Nat) : (hexDigits n count).length = count := by
  induction count generalizing n with
  | zero => rfl
  | succ count ih => simp [hexDigits, ih]

theorem exists_digit_of_mem {n count : Nat} {c : Char} (member : c ∈ hexDigits n count) :
    ∃ d < 16, c = Text.lowerHexDigit d := by
  induction count generalizing n with
  | zero => cases member
  | succ count ih =>
    rcases List.mem_append.mp member with earlier | last
    · exact ih earlier
    · exact ⟨n % 16, Nat.mod_lt _ (by decide), List.mem_singleton.mp last⟩

theorem hexValue_hexDigits (n count : Nat) :
    Unicode.hexValue (hexDigits n count) = n % 16 ^ count := by
  induction count generalizing n with
  | zero => simp [hexDigits, Unicode.hexValue, Nat.mod_one]
  | succ count ih =>
    have last : n % 16 < 16 := Nat.mod_lt _ (by decide)
    have value : Unicode.hexValue (hexDigits n (count + 1)) =
        16 * Unicode.hexValue (hexDigits (n / 16) count) + n % 16 := by
      simp [hexDigits, Unicode.hexValue, Json.hexDigit?_lowerHexDigit _ last]
    rw [value, ih, Nat.pow_succ, Nat.mul_comm (16 ^ count), Nat.mod_mul, Nat.add_comm]

theorem digit_alone : ∀ d < 16, Text.lowerHexDigit d ≠ '-' ∧ Text.lowerHexDigit d ≠ '\x7b' ∧
    (Text.lowerHexDigit d).toLower ≠ 'u' := by decide

theorem cut_flatten (lengths : List Nat) (cs : List Char) :
    (cut lengths cs).flatten = cs.take lengths.sum := by
  induction lengths generalizing cs with
  | nil => simp [cut]
  | cons n rest ih => simp [cut, ih, List.take_add]

theorem filter_intercalate {pieces : List (List Char)} (apart : ∀ c ∈ pieces.flatten, c ≠ '-') :
    (List.intercalate ['-'] pieces).filter (· != '-') = pieces.flatten := by
  induction pieces with
  | nil => rfl
  | cons piece rest ih =>
    simp only [List.flatten_cons, List.mem_append] at apart
    have kept : piece.filter (· != '-') = piece :=
      List.filter_eq_self.mpr fun c member => by simpa using apart c (.inl member)
    have others := ih fun c member => apart c (.inr member)
    cases rest with
    | nil => simpa [List.intercalate] using kept
    | cons next more =>
      rw [List.intercalate_cons_cons, List.filter_append, List.filter_append, others, kept,
        List.flatten_cons]
      simp

variable (r : RunId)

def digits : List Char := hexDigits r.bits.toNat 32

theorem chars_eq : r.chars = List.intercalate ['-'] (cut groupLengths r.digits) := by
  rw [chars, digits]

theorem chars_filter : r.chars.filter (· != '-') = r.digits := by
  have whole : (cut groupLengths r.digits).flatten = r.digits := by
    rw [cut_flatten]
    exact List.take_of_length_le (Nat.le_of_eq (hexDigits_length _ 32))
  rw [chars_eq, filter_intercalate, whole]
  intro c member
  rw [whole] at member
  obtain ⟨d, small, rfl⟩ := exists_digit_of_mem member
  exact (digit_alone d small).1

theorem chars_cons : ∃ c rest, r.chars = c :: rest ∧ c ∈ r.digits ∧ '-' ∈ r.chars := by
  have groups : r.chars = r.digits.take 8 ++ '-' ::
      List.intercalate ['-'] (cut [4, 4, 4, 12] (r.digits.drop 8)) := by
    simp only [chars_eq, groupLengths, cut, List.intercalate_cons_cons, List.append_assoc,
      List.singleton_append]
  cases first : r.digits with
  | nil =>
    have length := hexDigits_length r.bits.toNat 32
    rw [← digits, first] at length
    cases length
  | cons c rest =>
    rw [first] at groups
    exact ⟨c, _, groups, List.mem_cons_self, by simp [groups]⟩

theorem inner?_chars : inner? r.chars = none := by
  obtain ⟨c, rest, written, member, -⟩ := r.chars_cons
  obtain ⟨d, small, rfl⟩ := exists_digit_of_mem member
  obtain ⟨-, brace, letter⟩ := digit_alone d small
  have marked : ((r.chars.take mark.length).map Char.toLower) ≠ mark := by
    rw [written]
    exact fun same => letter (List.cons.inj same).1
  simp [inner?, written, brace] at marked ⊢
  exact marked

theorem simple?_digits : simple? r.digits = some r := by
  have hexadecimal : r.digits.all (fun c => (Unicode.hexDigit? c).isSome) = true := by
    refine List.all_eq_true.mpr fun c member => ?_
    obtain ⟨d, small, rfl⟩ := exists_digit_of_mem member
    simp [Json.hexDigit?_lowerHexDigit d small]
  have value : ofDigits r.digits = r := by
    have below : r.bits.toNat % 16 ^ 32 = r.bits.toNat := Nat.mod_eq_of_lt r.bits.isLt
    rw [ofDigits, digits, hexValue_hexDigits, below, BitVec.ofNat_toNat, BitVec.setWidth_eq]
  rw [simple?, if_pos ⟨hexDigits_length _ 32, hexadecimal⟩, value]

theorem parse_text : parse r.text = .ok r := by
  have longer : r.chars.length ≠ 32 := by
    obtain ⟨_, _, -, -, hyphen⟩ := r.chars_cons
    have shorter : (r.chars.filter (· != '-')).length < r.chars.length :=
      List.length_filter_lt_length_iff_exists.mpr ⟨'-', hyphen, by decide⟩
    rw [chars_filter, digits, hexDigits_length] at shorter
    exact Nat.ne_of_gt shorter
  have grouped : hyphenated? r.chars = some r := by
    simp only [hyphenated?, chars_filter, ← chars_eq, if_true, simple?_digits]
  simp only [parse, text, String.toList_ofList, longer, if_false, inner?_chars, Option.getD_none,
    grouped]

end Walkthrough.RunId
