import Mathlib.Data.List.Basic
import Walkthrough.Json.Reader

/-!
Numbers in a text. A numeral ends where no digit, point or exponent follows, whatever comes after
it. Whole numbers always read back as they are written; a binary64 number need not, since reading
one rounds more than once.
-/
namespace Walkthrough

theorem digitOf?_of_isDigit {c : Char} (digit : c.isDigit = true) :
    digitOf? c = some (c.toNat - '0'.toNat) := by
  rw [Char.isDigit_iff_toNat] at digit
  refine if_pos ⟨?_, ?_⟩
  · exact Char.le_def.mpr (UInt32.le_iff_toNat_le.mpr digit.1)
  · exact Char.le_def.mpr (UInt32.le_iff_toNat_le.mpr digit.2)

theorem takeDigits_of_isDigit {cs : List Char} (digits : ∀ c ∈ cs, c.isDigit = true) :
    takeDigits cs = (cs.map fun c => c.toNat - '0'.toNat, []) := by
  induction cs with
  | nil => rfl
  | cons c rest ih =>
    have later := ih fun d member => digits d (List.mem_cons_of_mem c member)
    simp only [takeDigits, digitOf?_of_isDigit (digits c List.mem_cons_self), later, List.map_cons]

theorem takeDigits_append {cs tail : List Char} (ends : ∀ c ∈ tail.head?, digitOf? c = none) :
    takeDigits (cs ++ tail) = ((takeDigits cs).1, (takeDigits cs).2 ++ tail) := by
  induction cs with
  | nil =>
    cases tail with
    | nil => rfl
    | cons c rest => simp only [takeDigits, List.nil_append, ends c rfl]
  | cons c rest ih =>
    cases found : digitOf? c with
    | none => simp only [takeDigits, List.cons_append, found]
    | some d => simp only [takeDigits, List.cons_append, found, ih]

theorem takeDigits_suffix (cs : List Char) : (takeDigits cs).2 <:+ cs := by
  induction cs with
  | nil => exact List.suffix_rfl
  | cons c rest ih =>
    cases found : digitOf? c with
    | none => simp only [takeDigits, found, List.suffix_rfl]
    | some d =>
      simp only [takeDigits, found]
      exact ih.trans (List.suffix_cons c rest)

namespace Json

theorem bind_eq_ok_iff {ε α β : Type} {x : Except ε α} {next : α → Except ε β} {b : β} :
    (x >>= next) = .ok b ↔ ∃ a, x = .ok a ∧ next a = .ok b := by
  cases x with
  | error e => simp [bind, Except.bind]
  | ok a => simp [bind, Except.bind]

theorem map_eq_ok_iff {ε α β : Type} {x : Except ε α} {f : α → β} {b : β} :
    x.map f = .ok b ↔ ∃ a, x = .ok a ∧ f a = b := by
  cases x with
  | error e => simp [Except.map]
  | ok a => simp [Except.map]

def EndsNumeral (tail : List Char) : Prop :=
  ∀ c ∈ tail.head?, digitOf? c = none ∧ c ≠ '.' ∧ c ≠ 'e' ∧ c ≠ 'E'

theorem EndsNumeral.digits {tail : List Char} (ends : EndsNumeral tail) :
    ∀ c ∈ tail.head?, digitOf? c = none := fun c member => (ends c member).1

theorem takeSomeDigits_append {cs tail : List Char} {found : List Nat × List Char}
    (ends : EndsNumeral tail) (taken : takeSomeDigits cs = .ok found) :
    takeSomeDigits (cs ++ tail) = .ok (found.1, found.2 ++ tail) := by
  unfold takeSomeDigits at taken ⊢
  rw [takeDigits_append ends.digits]
  cases digits : takeDigits cs with
  | mk ds rest =>
    rw [digits] at taken
    cases ds with
    | nil => cases rest <;> cases taken
    | cons d more =>
      cases taken
      rfl

theorem takeWhole_append {cs tail : List Char} {found : List Nat × List Char}
    (ends : EndsNumeral tail) (taken : takeWhole cs = .ok found) :
    takeWhole (cs ++ tail) = .ok (found.1, found.2 ++ tail) := by
  unfold takeWhole at taken ⊢
  cases digits : takeSomeDigits cs with
  | error fault =>
    rw [digits] at taken
    cases taken
  | ok whole =>
    rw [takeSomeDigits_append ends digits]
    rw [digits] at taken
    obtain ⟨ds, rest⟩ := whole
    dsimp only at taken ⊢
    split at taken
    · cases taken
    · rename_i other
      cases taken
      split
      · rename_i leading
        cases leading
        exact absurd rfl (other _ _ _)
      · rfl

theorem takeFraction_append {cs tail : List Char} {found : List Nat × List Char}
    (ends : EndsNumeral tail) (taken : takeFraction cs = .ok found) :
    takeFraction (cs ++ tail) = .ok (found.1, found.2 ++ tail) := by
  unfold takeFraction at taken ⊢
  cases cs with
  | nil =>
    cases taken
    cases tail with
    | nil => rfl
    | cons c rest =>
      split
      · rename_i point
        cases point
        exact absurd rfl (ends '.' rfl).2.1
      · rfl
  | cons c rest =>
    by_cases point : c = '.'
    · subst point
      exact takeSomeDigits_append ends taken
    · split at taken
      · rename_i same
        cases same
        exact absurd rfl point
      · cases taken
        split
        · rename_i same
          cases same
          exact absurd rfl point
        · rfl

theorem takeExponent_signed {c d : Char} {more : List Char} (mark : c = 'e' ∨ c = 'E') :
    ∃ minus body, body <:+ d :: more ∧ ∀ tail, takeExponent (c :: d :: (more ++ tail)) =
      (takeSomeDigits (body ++ tail)).map fun (digits, rest) => (some (minus, digits), rest) := by
  by_cases minus : d = '-'
  · subst minus
    exact ⟨true, more, List.suffix_cons '-' more,
      fun tail => by simp only [takeExponent, mark, if_true]⟩
  · by_cases plus : d = '+'
    · subst plus
      exact ⟨false, more, List.suffix_cons '+' more,
        fun tail => by simp only [takeExponent, mark, if_true]⟩
    · refine ⟨false, d :: more, List.suffix_rfl, fun tail => ?_⟩
      simp only [takeExponent, mark, if_true]
      split
      · rename_i same
        cases same
        exact absurd rfl minus
      · rename_i same
        cases same
        exact absurd rfl plus
      · rfl

theorem takeExponent_append {cs tail : List Char} {found : Option (Bool × List Nat) × List Char}
    (ends : EndsNumeral tail) (taken : takeExponent cs = .ok found) :
    takeExponent (cs ++ tail) = .ok (found.1, found.2 ++ tail) := by
  cases cs with
  | nil =>
    cases taken
    cases tail with
    | nil => rfl
    | cons c rest =>
      have other := ends c rfl
      simp only [takeExponent, List.nil_append, other.2.2.1, other.2.2.2, or_self, if_false]
  | cons c rest =>
    by_cases mark : c = 'e' ∨ c = 'E'
    · cases rest with
      | nil =>
        simp only [takeExponent, mark, if_true] at taken
        cases taken
      | cons d more =>
        obtain ⟨minus, body, -, read⟩ := @takeExponent_signed c d more mark
        have alone := read []
        rw [List.append_nil, List.append_nil, taken] at alone
        obtain ⟨digits, first, rfl⟩ := map_eq_ok_iff.mp alone.symm
        rw [List.cons_append, List.cons_append, read, takeSomeDigits_append ends first]
        rfl
    · simp only [takeExponent, List.cons_append, mark, if_false] at taken ⊢
      cases taken
      rfl

theorem takeNumeral_append {negative : Bool} {cs tail : List Char} {found : Numeral × List Char}
    (ends : EndsNumeral tail) (taken : takeNumeral negative cs = .ok found) :
    takeNumeral negative (cs ++ tail) = .ok (found.1, found.2 ++ tail) := by
  obtain ⟨digits, whole, taken⟩ := bind_eq_ok_iff.mp taken
  obtain ⟨places, fraction, taken⟩ := bind_eq_ok_iff.mp taken
  obtain ⟨power, exponent, taken⟩ := bind_eq_ok_iff.mp taken
  cases taken
  exact bind_eq_ok_iff.mpr ⟨_, takeWhole_append ends whole, bind_eq_ok_iff.mpr
    ⟨_, takeFraction_append ends fraction, bind_eq_ok_iff.mpr
      ⟨_, takeExponent_append ends exponent, rfl⟩⟩⟩

theorem takeSomeDigits_suffix {cs : List Char} {found : List Nat × List Char}
    (taken : takeSomeDigits cs = .ok found) : found.2 <:+ cs := by
  have suffix := takeDigits_suffix cs
  unfold takeSomeDigits at taken
  split at taken
  · cases taken
  · cases taken
  · cases taken
    exact suffix

theorem takeWhole_suffix {cs : List Char} {found : List Nat × List Char}
    (taken : takeWhole cs = .ok found) : found.2 <:+ cs := by
  unfold takeWhole at taken
  split at taken
  · cases taken
  · exact takeSomeDigits_suffix taken

theorem takeFraction_suffix {cs : List Char} {found : List Nat × List Char}
    (taken : takeFraction cs = .ok found) : found.2 <:+ cs := by
  unfold takeFraction at taken
  split at taken
  · exact (takeSomeDigits_suffix taken).trans (List.suffix_cons '.' _)
  · cases taken
    exact List.suffix_rfl

theorem takeExponent_suffix {cs : List Char} {found : Option (Bool × List Nat) × List Char}
    (taken : takeExponent cs = .ok found) : found.2 <:+ cs := by
  cases cs with
  | nil =>
    cases taken
    exact List.suffix_rfl
  | cons c rest =>
    by_cases mark : c = 'e' ∨ c = 'E'
    · cases rest with
      | nil =>
        simp only [takeExponent, mark, if_true] at taken
        cases taken
      | cons d more =>
        obtain ⟨minus, body, suffix, read⟩ := @takeExponent_signed c d more mark
        have alone := read []
        rw [List.append_nil, List.append_nil, taken] at alone
        obtain ⟨digits, first, rfl⟩ := map_eq_ok_iff.mp alone.symm
        exact ((takeSomeDigits_suffix first).trans suffix).trans (List.suffix_cons c _)
    · simp only [takeExponent, mark, if_false] at taken
      cases taken
      exact List.suffix_rfl

theorem takeNumeral_suffix {negative : Bool} {cs : List Char} {found : Numeral × List Char}
    (taken : takeNumeral negative cs = .ok found) : found.2 <:+ cs := by
  obtain ⟨digits, whole, taken⟩ := bind_eq_ok_iff.mp taken
  obtain ⟨places, fraction, taken⟩ := bind_eq_ok_iff.mp taken
  obtain ⟨power, exponent, taken⟩ := bind_eq_ok_iff.mp taken
  cases taken
  exact (takeExponent_suffix exponent).trans
    ((takeFraction_suffix fraction).trans (takeWhole_suffix whole))

def IsNumeralChar (c : Char) : Prop :=
  c.isDigit = true ∨ c = '-' ∨ c = '+' ∨ c = '.' ∨ c = 'e'

theorem IsNumeralChar.not_space {c : Char} (h : IsNumeralChar c) : isSpace c = false := by
  rcases h with digit | rfl | rfl | rfl | rfl
  · unfold isSpace
    rw [Char.isDigit_iff_toNat] at digit
    simp only [Bool.or_eq_false_iff, decide_eq_false_iff_not]
    refine ⟨⟨⟨?_, ?_⟩, ?_⟩, ?_⟩ <;> rintro rfl <;> revert digit <;> decide
  all_goals decide

theorem decimalDigits_isDigit {n : Nat} : ∀ c ∈ decimalDigits n, c.isDigit = true := by
  intro c member
  rw [decimalDigits, Nat.repr_eq_ofList_toDigits, String.toList_ofList] at member
  exact Nat.isDigit_of_mem_toDigits (by decide) (by decide) member

theorem decimalDigits_cons (n : Nat) :
    ∃ c rest, decimalDigits n = c :: rest ∧ c.isDigit = true := by
  cases digits : decimalDigits n with
  | nil =>
    rw [decimalDigits, Nat.repr_eq_ofList_toDigits, String.toList_ofList] at digits
    exact absurd digits Nat.toDigits_ne_nil
  | cons c rest =>
    exact ⟨c, rest, rfl, decimalDigits_isDigit c (digits ▸ List.mem_cons_self)⟩

theorem positional_chars {digits tail : List Char} {point : Int}
    (numeral : ∀ c ∈ digits, c.isDigit = true) (ending : ∀ c ∈ tail, IsNumeralChar c) :
    ∀ c ∈ Decimal.positional digits point tail, IsNumeralChar c := by
  intro c member
  have digit : ∀ d ∈ digits, IsNumeralChar d := fun d h => .inl (numeral d h)
  unfold Decimal.positional at member
  split at member
  · simp only [List.mem_cons, List.mem_append, List.mem_replicate] at member
    rcases member with rfl | rfl | ⟨-, rfl⟩ | member
    · exact .inl rfl
    · exact .inr (.inr (.inr (.inl rfl)))
    · exact .inl rfl
    · exact digit c member
  · split at member
    · simp only [List.mem_cons, List.mem_append] at member
      rcases member with member | rfl | member
      · exact digit c (List.mem_of_mem_take member)
      · exact .inr (.inr (.inr (.inl rfl)))
      · exact digit c (List.mem_of_mem_drop member)
    · simp only [List.mem_append, List.mem_replicate] at member
      rcases member with (member | ⟨-, rfl⟩) | member
      · exact digit c member
      · exact .inl rfl
      · exact ending c member

theorem positional_cons {c : Char} {rest tail : List Char} {point : Int}
    (digit : c.isDigit = true) :
    ∃ d more, Decimal.positional (c :: rest) point tail = d :: more ∧ d.isDigit = true := by
  unfold Decimal.positional
  split
  · exact ⟨'0', _, rfl, rfl⟩
  · rename_i positive
    split
    · obtain ⟨k, places⟩ : ∃ k, point.toNat = k + 1 := ⟨point.toNat - 1, by omega⟩
      rw [places]
      exact ⟨c, _, rfl, digit⟩
    · exact ⟨c, _, rfl, digit⟩

theorem inData_chars (d : Decimal) : ∀ c ∈ d.inData, IsNumeralChar c := by
  have numeral : ∀ {n : Nat}, ∀ c ∈ decimalDigits n, IsNumeralChar c :=
    fun c member => .inl (decimalDigits_isDigit c member)
  have point : IsNumeralChar '.' := .inr (.inr (.inr (.inl rfl)))
  have zero : IsNumeralChar '0' := .inl rfl
  have whole : ∀ c ∈ ['.', '0'], IsNumeralChar c := by simp [point, zero]
  unfold Decimal.inData
  dsimp only
  split
  · simp [point, zero]
  · split
    · exact positional_chars decimalDigits_isDigit whole
    · intro c member
      simp only [List.mem_append, List.mem_cons] at member
      rcases member with member | rfl | rfl | member
      · split at member
        · cases member
        · rename_i digits
          exact numeral c (digits ▸ member)
        · rename_i first rest _ digits
          simp only [List.mem_cons] at member
          rcases member with rfl | rfl | member
          · exact numeral c (digits ▸ List.mem_cons_self)
          · exact point
          · exact numeral c (digits ▸ List.mem_cons_of_mem first member)
      · exact .inr (.inr (.inr (.inr rfl)))
      · split
        · exact .inr (.inl rfl)
        · exact .inr (.inr (.inl rfl))
      · exact numeral c member

theorem inData_cons (d : Decimal) : ∃ c rest, d.inData = c :: rest ∧ c.isDigit = true := by
  unfold Decimal.inData
  dsimp only
  obtain ⟨c, rest, digits, digit⟩ := decimalDigits_cons (d.trim 25).digits
  rw [digits]
  split
  · exact ⟨'0', _, rfl, rfl⟩
  · split
    · exact positional_cons digit
    · cases rest <;> exact ⟨c, _, rfl, digit⟩

theorem numberChars_chars (n : JsonNumber) : ∀ c ∈ numberChars n, IsNumeralChar c := by
  have signed : ∀ negative (body : List Char), (∀ c ∈ body, IsNumeralChar c) →
      ∀ c ∈ Binary64.signChars negative ++ body, IsNumeralChar c := by
    intro negative body chars c member
    rcases List.mem_append.mp member with sign | member
    · cases negative with
      | false => cases sign
      | true => exact .inr (.inl (List.mem_singleton.mp sign))
    · exact chars c member
  cases n with
  | whole n fits => exact signed _ _ fun c member => .inl (decimalDigits_isDigit c member)
  | real negative size => exact signed _ _ (inData_chars _)

theorem numberChars_cons (n : JsonNumber) :
    ∃ c rest, numberChars n = c :: rest ∧ (c = '-' ∨ c.isDigit = true) := by
  have signed : ∀ negative body, (∃ c rest, body = c :: rest ∧ c.isDigit = true) →
      ∃ c rest, Binary64.signChars negative ++ body = c :: rest ∧
        (c = '-' ∨ c.isDigit = true) := by
    rintro negative body ⟨c, rest, rfl, digit⟩
    cases negative with
    | false => exact ⟨c, rest, rfl, .inr digit⟩
    | true => exact ⟨'-', c :: rest, rfl, .inl rfl⟩
  cases n with
  | whole n fits => exact signed _ _ (decimalDigits_cons _)
  | real negative size => exact signed _ _ (inData_cons _)

theorem takeValue_minus (fuel : Nat) (rest : List Char) :
    takeValue (fuel + 1) ('-' :: rest) = takenNumeral (takeNumeral true rest) := by
  simp [takeValue, skipSpace, isSpace]

theorem takeValue_digit (fuel : Nat) {c : Char} (rest : List Char) (digit : c.isDigit = true) :
    takeValue (fuel + 1) (c :: rest) = takenNumeral (takeNumeral false (c :: rest)) := by
  have solid : isSpace c = false := IsNumeralChar.not_space (.inl digit)
  have other : ∀ d : Char, d.isDigit = false → c ≠ d := by
    rintro d none rfl
    cases digit.symm.trans none
  simp [takeValue, skipSpace, solid, digit, other '"' rfl, other '[' rfl, other '\x7b' rfl,
    other 'n' rfl, other 't' rfl, other 'f' rfl, other '-' rfl]

end Json

namespace JsonNumber

/-- The number is read from its own text. -/
def ReadsBack (n : JsonNumber) : Prop := Json.parse (Json.number n).compact = .ok (.number n)

def found? : Except Json.ReadFault Json → Option JsonNumber
  | .ok (.number n) => some n
  | _ => none

theorem found?_eq_some_iff {found : Except Json.ReadFault Json} {n : JsonNumber} :
    found? found = some n ↔ found = .ok (.number n) := by
  unfold found?
  split <;> simp_all

instance (n : JsonNumber) : Decidable n.ReadsBack := decidable_of_iff _ found?_eq_some_iff

end JsonNumber

namespace Json

theorem outlineOf_ofList (cs : List Char) :
    outlineOf (String.ofList cs) = takeValue (3 * cs.length + 3) cs := by
  rw [outlineOf, String.toList_ofList]

theorem run_of_taken {α : Type} {read : Reader α} {cs : List Char} {o : Outline} {a : α}
    (taken : takeValue (3 * cs.length + 3) cs = (o, some []))
    (value : read (some nestingLimit) o = .ok a) :
    Reader.run read (String.ofList cs) = .ok a := by
  rw [Reader.run, outlineOf_ofList, taken]
  dsimp only
  rw [value]
  rfl

theorem takeValue_numberChars (n : JsonNumber) : ∃ negative body,
    (∀ c ∈ body, IsNumeralChar c) ∧ ∀ fuel tail, takeValue (fuel + 1) (numberChars n ++ tail) =
      takenNumeral (takeNumeral negative (body ++ tail)) := by
  have chars := numberChars_chars n
  obtain ⟨c, rest, written, rfl | digit⟩ := numberChars_cons n
  · rw [written] at chars ⊢
    exact ⟨true, rest, fun c member => chars c (List.mem_cons_of_mem _ member),
      fun fuel tail => takeValue_minus fuel (rest ++ tail)⟩
  · rw [written] at chars ⊢
    exact ⟨false, c :: rest, chars, fun fuel tail => takeValue_digit fuel (rest ++ tail) digit⟩

theorem takeValue_number {n : JsonNumber} {tail : List Char} (readsBack : n.ReadsBack)
    (ends : EndsNumeral tail) (fuel : Nat) :
    takeValue (fuel + 1) (numberChars n ++ tail) = (.number (.ok n), some tail) := by
  obtain ⟨negative, body, chars, taken⟩ := takeValue_numberChars n
  have alone := taken (3 * (numberChars n).length + 2) []
  rw [List.append_nil, List.append_nil] at alone
  rw [JsonNumber.ReadsBack, Json.parse, compact, Json.chars, Reader.run, outlineOf_ofList,
    alone] at readsBack
  rw [taken]
  cases numeral : takeNumeral negative body with
  | error fault =>
    rw [numeral] at readsBack
    cases readsBack
  | ok found =>
    obtain ⟨read, rest⟩ := found
    rw [numeral] at readsBack
    obtain ⟨j, value, closed⟩ := bind_eq_ok_iff.mp readsBack
    obtain ⟨m, number, rfl⟩ := map_eq_ok_iff.mp value
    -- Nothing but space could be left, and there is none in the text of a number.
    have left : rest = [] := by
      cases rest with
      | nil => rfl
      | cons c more =>
        have solid := (chars c ((takeNumeral_suffix numeral).subset List.mem_cons_self)).not_space
        simp [skipSpace, solid, Reader.malformed] at closed
    subst left
    cases closed
    rw [takeNumeral_append ends numeral]
    have same : read.number = .ok n := by
      cases counted : read.number with
      | error fault =>
        rw [counted] at number
        cases number
      | ok m =>
        rw [counted] at number
        cases number
        rfl
    simp only [takenNumeral, same, List.nil_append]

theorem digitChar_ne_zero : ∀ n < 10, 0 < n → n.digitChar ≠ '0' := by decide

theorem toDigits_head? {n : Nat} (positive : 0 < n) : (Nat.toDigits 10 n).head? ≠ some '0' := by
  induction n using Nat.strongRecOn with
  | ind n ih =>
    rw [Nat.toDigits_eq_if (by decide)]
    split
    · rename_i small
      simpa using digitChar_ne_zero n small positive
    · rw [List.head?_append_of_ne_nil _ Nat.toDigits_ne_nil]
      exact ih (n / 10) (by omega) (by omega)

theorem digitsValue_decimalDigits (n : Nat) :
    Binary64.digitsValue ((decimalDigits n).map fun c => c.toNat - '0'.toNat) = n := by
  rw [Binary64.digitsValue, List.foldl_map, decimalDigits, Nat.repr_eq_ofList_toDigits,
    String.toList_ofList, ← Nat.ofDigitChars_eq_foldl, Nat.ofDigitChars_ten_toDigits]

theorem le_foldl_digits (acc : Nat) (ds : List Nat) :
    acc ≤ ds.foldl (fun n d => 10 * n + d) acc := by
  induction ds generalizing acc with
  | nil => exact Nat.le_refl acc
  | cons d rest ih => exact Nat.le_trans (by omega) (ih (10 * acc + d))

theorem takeWord_eq {acc : Nat} {ds : List Nat}
    (fits : ds.foldl (fun n d => 10 * n + d) acc ≤ Numeral.wordLimit) :
    Numeral.takeWord acc ds = (ds.foldl (fun n d => 10 * n + d) acc, []) := by
  induction ds generalizing acc with
  | nil => rfl
  | cons d rest ih =>
    have next : 10 * acc + d ≤ Numeral.wordLimit :=
      Nat.le_trans (le_foldl_digits _ rest) fits
    rw [Numeral.takeWord, if_pos next, ih fits, List.foldl_cons]

def digitValues (n : Nat) : List Nat := (decimalDigits n).map fun c => c.toNat - '0'.toNat

theorem takeWhole_decimalDigits (n : Nat) :
    takeWhole (decimalDigits n) = .ok (digitValues n, []) := by
  have digits := takeDigits_of_isDigit (decimalDigits_isDigit (n := n))
  obtain ⟨c, rest, written, digit⟩ := decimalDigits_cons n
  have some : takeSomeDigits (decimalDigits n) = .ok (digitValues n, []) := by
    rw [takeSomeDigits, digits, digitValues, written]
    rfl
  rw [takeWhole, some]
  split
  · -- A zero in front would stand alone.
    rename_i leading
    obtain ⟨zero, more⟩ : c.toNat - '0'.toNat = 0 ∧ rest ≠ [] := by
      simp only [digitValues, written, List.map_cons, Except.ok.injEq, Prod.mk.injEq,
        List.cons.injEq] at leading
      exact ⟨leading.1.1, by rintro rfl; simp at leading⟩
    have front : c = '0' := by
      rw [Char.isDigit_iff_toNat] at digit
      exact Char.toNat_inj.mp (Nat.le_antisymm (Nat.sub_eq_zero_iff_le.mp zero) digit.1)
    rcases Nat.eq_zero_or_pos n with rfl | positive
    · obtain ⟨-, rfl⟩ := List.cons.inj written
      exact absurd rfl more
    · refine absurd ?_ (toDigits_head? positive)
      rw [decimalDigits, Nat.repr_eq_ofList_toDigits, String.toList_ofList] at written
      rw [written, front]
      rfl
  · rfl

theorem takeNumeral_decimalDigits (negative : Bool) (n : Nat) :
    takeNumeral negative (decimalDigits n) = .ok (⟨negative, digitValues n, [], none⟩, []) := by
  rw [takeNumeral, takeWhole_decimalDigits]
  rfl

theorem number_digitValues {negative : Bool} {n : Nat} {value : Int} (fits : FitsWord value)
    (same : (if negative then -(n : Int) else n) = value) (signed : negative = true → 0 < n) :
    (Numeral.mk negative (digitValues n) [] none).number = .ok (.whole value fits) := by
  subst same
  have word : Numeral.takeWord 0 (digitValues n) = (n, []) := by
    have value := digitsValue_decimalDigits n
    rw [takeWord_eq]
    · exact congrArg (·, []) value
    · change Binary64.digitsValue (digitValues n) ≤ _
      rw [digitValues, value]
      cases negative <;> simp only [FitsWord, Numeral.wordLimit, Bool.false_eq_true, if_false,
        if_true] at fits ⊢ <;> omega
  have zero : (negative && n == 0) = false := by
    cases negative with
    | false => rfl
    | true => simpa using Nat.pos_iff_ne_zero.mp (signed rfl)
  simp only [Numeral.number, word, zero, fits, List.isEmpty_nil, Option.isNone_none, Bool.and_self,
    if_true, Bool.false_eq_true, if_false, dif_pos]

theorem readsBack_whole (n : Int) (fits : FitsWord n) : (JsonNumber.whole n fits).ReadsBack := by
  refine run_of_taken (o := .number (.ok (.whole n fits))) ?_ rfl
  rw [chars, numberChars]
  by_cases negative : n < 0
  · simp only [negative, decide_true, Binary64.signChars, if_true, List.singleton_append]
    have size : (if true then -(n.natAbs : Int) else n.natAbs) = n := by
      rw [if_pos rfl]
      omega
    rw [takeValue_minus, takeNumeral_decimalDigits, takenNumeral,
      number_digitValues fits size (by omega)]
  · simp only [negative, decide_false, Binary64.signChars, Bool.false_eq_true, if_false,
      List.nil_append]
    have size : (if false then -(n.natAbs : Int) else n.natAbs) = n := by
      rw [if_neg Bool.false_ne_true]
      omega
    obtain ⟨c, rest, written, digit⟩ := decimalDigits_cons n.natAbs
    rw [written, takeValue_digit _ _ digit, ← written, takeNumeral_decimalDigits, takenNumeral,
      number_digitValues fits size nofun]

end Json

end Walkthrough
