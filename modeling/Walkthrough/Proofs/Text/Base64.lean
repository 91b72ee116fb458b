import Walkthrough.Text.Base64

/-!
The base64 that is read is the base64 that is written: a text is decoded to bytes exactly when it is
their encoding. So a text has at most one reading, and a text that is no encoding is refused.
-/
namespace Walkthrough.Base64

theorem value?_symbol : ∀ n < 64, value? (symbol n) = some n := by decide

theorem value?_pad : value? pad = none := by decide

theorem symbol_of_value? {b : UInt8} {n : Nat} (h : value? b = some n) :
    symbol n = b ∧ n < 64 := by
  have each : ∀ m < 256, ∀ k ∈ value? (UInt8.ofNat m), symbol k = UInt8.ofNat m ∧ k < 64 := by
    decide +kernel
  have here := each b.toNat b.toNat_lt n
  rw [UInt8.ofNat_toNat] at here
  exact here h

/-- The step of the definition as a whole; its own equations ask which symbol it is. -/
theorem symbols_cons (offset : Nat) (firstPad : Option Nat) (b : UInt8) (rest : List UInt8) :
    symbols offset firstPad (b :: rest) =
      if b = pad then
        if offset % 4 < 2 then .error (.badByte (firstPad.getD offset) pad)
        else symbols (offset + 1) (some (firstPad.getD offset)) rest
      else match firstPad, value? b with
        | some first, _ => .error (.badByte first pad)
        | none, none => .error (.badByte offset b)
        | none, some n => (symbols (offset + 1) none rest).map (n :: ·) := rfl

theorem symbols_cons_iff {offset : Nat} {b : UInt8} {rest : List UInt8} {values : List Nat} :
    symbols offset none (b :: rest) = .ok values ↔
      (b = pad ∧ 2 ≤ offset % 4 ∧ symbols (offset + 1) (some offset) rest = .ok values) ∨
        ∃ n more, value? b = some n ∧ symbols (offset + 1) none rest = .ok more ∧
          values = n :: more := by
  rw [symbols_cons]
  by_cases padding : b = pad
  · rw [if_pos padding, padding, value?_pad]
    by_cases early : offset % 4 < 2
    · simp [early, Nat.not_le_of_lt early]
    · simp [early, Nat.le_of_not_lt early]
  · rw [if_neg padding]
    cases value? b with
    | none => simp [padding]
    | some n =>
      cases symbols (offset + 1) none rest with
      | error fault => simp [padding, Except.map]
      | ok more => simp [padding, Except.map, eq_comm (a := values)]

theorem symbols_after_group {offset first : Nat} (starts : offset % 4 = 0) {text : List UInt8}
    {values : List Nat} :
    symbols offset (some first) text = .ok values ↔ text = [] ∧ values = [] := by
  cases text with
  | nil => simp [symbols, eq_comm]
  | cons b rest =>
    rw [symbols_cons]
    by_cases padding : b = pad
    · simp [padding, starts]
    · simp [padding]

theorem symbols_after_pad {offset first : Nat} (last : offset % 4 = 3) {b : UInt8}
    {rest : List UInt8} {values : List Nat} :
    symbols offset (some first) (b :: rest) = .ok values ↔ b = pad ∧ rest = [] ∧ values = [] := by
  rw [symbols_cons]
  by_cases padding : b = pad
  · have after : (offset + 1) % 4 = 0 := by omega
    simp [padding, last, symbols_after_group after]
  · simp [padding]

/-- A group of four symbols. Padding may stand for the last of them or for the last two, and then
the text is over. -/
theorem symbols_group_iff {offset : Nat} (starts : offset % 4 = 0) {a b c d : UInt8}
    {rest : List UInt8} {values : List Nat} :
    symbols offset none (a :: b :: c :: d :: rest) = .ok values ↔
      ∃ x y, value? a = some x ∧ value? b = some y ∧
        ((c = pad ∧ d = pad ∧ rest = [] ∧ values = [x, y]) ∨
          ∃ z, value? c = some z ∧ ((d = pad ∧ rest = [] ∧ values = [x, y, z]) ∨
            ∃ u more, value? d = some u ∧ symbols (offset + 4) none rest = .ok more ∧
              values = x :: y :: z :: u :: more)) := by
  -- Padding comes too early in the first two places, and closes the text in the last two.
  have first : ¬2 ≤ offset % 4 := by omega
  have second : ¬2 ≤ (offset + 1) % 4 := by omega
  have third : 2 ≤ (offset + 2) % 4 := by omega
  have fourth : (offset + 3) % 4 = 3 := by omega
  have after : (offset + 4) % 4 = 0 := by omega
  simp only [symbols_cons_iff, first, second, third, fourth, Nat.add_assoc, Nat.reduceAdd,
    symbols_after_pad fourth, symbols_after_group after, false_and, and_false, false_or, true_and,
    Nat.reduceLeDiff]
  constructor
  · rintro ⟨x, _, isX, ⟨y, _, isY, ends | ⟨z, _, isZ, ends | ⟨u, more, isU, read, rfl⟩, rfl⟩, rfl⟩,
      rfl⟩
    · obtain ⟨isPad, isPad', ended, rfl⟩ := ends
      exact ⟨x, y, isX, isY, .inl ⟨isPad, isPad', ended, rfl⟩⟩
    · obtain ⟨isPad, ended, rfl⟩ := ends
      exact ⟨x, y, isX, isY, .inr ⟨z, isZ, .inl ⟨isPad, ended, rfl⟩⟩⟩
    · exact ⟨x, y, isX, isY, .inr ⟨z, isZ, .inr ⟨u, more, isU, read, rfl⟩⟩⟩
  · rintro ⟨x, y, isX, isY, ⟨isPad, isPad', ended, rfl⟩ | ⟨z, isZ, ⟨isPad, ended, rfl⟩ |
      ⟨u, more, isU, read, rfl⟩⟩⟩
    · exact ⟨x, _, isX, ⟨y, _, isY, .inl ⟨isPad, isPad', ended, rfl⟩, rfl⟩, rfl⟩
    · exact ⟨x, _, isX, ⟨y, _, isY, .inr ⟨z, _, isZ, .inl ⟨isPad, ended, rfl⟩, rfl⟩, rfl⟩, rfl⟩
    · exact ⟨x, _, isX, ⟨y, _, isY, .inr ⟨z, _, isZ, .inr ⟨u, more, isU, read, rfl⟩, rfl⟩, rfl⟩,
        rfl⟩

theorem encode_four {x y z u : Nat} (hx : x < 64) (hy : y < 64) (hz : z < 64) (hu : u < 64)
    (more : List Nat) : encode (bytesOf (x :: y :: z :: u :: more)) =
      symbol x :: symbol y :: symbol z :: symbol u :: encode (bytesOf more) := by
  -- No byte overflows, and each symbol gets back the bits that two bytes may share.
  have byte₁ : (x * 4 + y / 16) % 256 = x * 4 + y / 16 := by omega
  have byte₂ : (y % 16 * 16 + z / 4) % 256 = y % 16 * 16 + z / 4 := by omega
  have byte₃ : (z % 4 * 64 + u) % 256 = z % 4 * 64 + u := by omega
  have x_ : (x * 4 + y / 16) / 4 = x := by omega
  have y_ : (x * 4 + y / 16) % 4 * 16 + (y % 16 * 16 + z / 4) / 16 = y := by omega
  have z_ : (y % 16 * 16 + z / 4) % 16 * 4 + (z % 4 * 64 + u) / 64 = z := by omega
  have u_ : (z % 4 * 64 + u) % 64 = u := by omega
  simp only [bytesOf, encode, UInt8.toNat_ofNat', Nat.reducePow, byte₁, byte₂, byte₃, x_, y_, z_,
    u_]

theorem encode_three {x y z : Nat} (hx : x < 64) (hy : y < 64) (hz : z < 64) (even : z % 4 = 0) :
    encode (bytesOf [x, y, z]) = [symbol x, symbol y, symbol z, pad] := by
  have byte₁ : (x * 4 + y / 16) % 256 = x * 4 + y / 16 := by omega
  have byte₂ : (y % 16 * 16 + z / 4) % 256 = y % 16 * 16 + z / 4 := by omega
  have x_ : (x * 4 + y / 16) / 4 = x := by omega
  have y_ : (x * 4 + y / 16) % 4 * 16 + (y % 16 * 16 + z / 4) / 16 = y := by omega
  have z_ : (y % 16 * 16 + z / 4) % 16 * 4 = z := by omega
  simp only [bytesOf, encode, UInt8.toNat_ofNat', Nat.reducePow, byte₁, byte₂, x_, y_, z_]

theorem encode_two {x y : Nat} (hx : x < 64) (hy : y < 64) (even : y % 16 = 0) :
    encode (bytesOf [x, y]) = [symbol x, symbol y, pad, pad] := by
  have byte₁ : (x * 4 + y / 16) % 256 = x * 4 + y / 16 := by omega
  have x_ : (x * 4 + y / 16) / 4 = x := by omega
  have y_ : (x * 4 + y / 16) % 4 * 16 = y := by omega
  simp only [bytesOf, encode, UInt8.toNat_ofNat', Nat.reducePow, byte₁, x_, y_]

theorem encode_of_symbols (text : List UInt8) {offset : Nat} {values : List Nat}
    (whole : text.length % 4 = 0) (starts : offset % 4 = 0)
    (read : symbols offset none text = .ok values) (even : hasStrayBits values = false) :
    text = encode (bytesOf values) := by
  match text with
  | [] =>
    cases read
    rfl
  | [_] | [_, _] | [_, _, _] => simp at whole
  | a :: b :: c :: d :: rest =>
    obtain ⟨x, y, isX, isY, ends⟩ := (symbols_group_iff starts).mp read
    obtain ⟨rfl, hx⟩ := symbol_of_value? isX
    obtain ⟨rfl, hy⟩ := symbol_of_value? isY
    rcases ends with ⟨rfl, rfl, rfl, rfl⟩ | ⟨z, isZ, ends⟩
    · rw [encode_two hx hy (by simpa [hasStrayBits] using even)]
    · obtain ⟨rfl, hz⟩ := symbol_of_value? isZ
      rcases ends with ⟨rfl, rfl, rfl⟩ | ⟨u, more, isU, reads, rfl⟩
      · rw [encode_three hx hy hz (by simpa [hasStrayBits] using even)]
      · obtain ⟨rfl, hu⟩ := symbol_of_value? isU
        have whole' : rest.length % 4 = 0 := by
          simp only [List.length_cons] at whole
          omega
        have starts' : (offset + 4) % 4 = 0 := by omega
        rw [encode_four hx hy hz hu, ← encode_of_symbols rest whole' starts' reads even]

theorem symbols_encode (bytes : List UInt8) (offset : Nat) (starts : offset % 4 = 0) :
    ∃ values, symbols offset none (encode bytes) = .ok values ∧ hasStrayBits values = false ∧
      bytesOf values = bytes := by
  induction bytes using encode.induct generalizing offset with
  | case1 a b c rest ih =>
    have ha := a.toNat_lt
    have hb := b.toNat_lt
    have hc := c.toNat_lt
    obtain ⟨more, reads, even, back⟩ := ih (offset + 4) (by omega)
    refine ⟨_, (symbols_group_iff starts).mpr ⟨_, _, value?_symbol (a.toNat / 4) (by omega),
      value?_symbol _ (by omega), .inr ⟨_, value?_symbol _ (by omega), .inr ⟨_, more,
        value?_symbol _ (by omega), reads, rfl⟩⟩⟩, even, ?_⟩
    have a_ : a.toNat / 4 * 4 + (a.toNat % 4 * 16 + b.toNat / 16) / 16 = a.toNat := by omega
    have b_ : (a.toNat % 4 * 16 + b.toNat / 16) % 16 * 16 +
      (b.toNat % 16 * 4 + c.toNat / 64) / 4 = b.toNat := by omega
    have c_ : (b.toNat % 16 * 4 + c.toNat / 64) % 4 * 64 + c.toNat % 64 = c.toNat := by omega
    rw [bytesOf, a_, b_, c_, back, UInt8.ofNat_toNat, UInt8.ofNat_toNat, UInt8.ofNat_toNat]
  | case2 a b =>
    have ha := a.toNat_lt
    have hb := b.toNat_lt
    refine ⟨_, (symbols_group_iff starts).mpr ⟨_, _, value?_symbol (a.toNat / 4) (by omega),
      value?_symbol _ (by omega), .inr ⟨_, value?_symbol (b.toNat % 16 * 4) (by omega),
        .inl ⟨rfl, rfl, rfl⟩⟩⟩, ?_, ?_⟩
    · have even : b.toNat % 16 * 4 % 4 = 0 := by omega
      simp [hasStrayBits, even]
    · have a_ : a.toNat / 4 * 4 + (a.toNat % 4 * 16 + b.toNat / 16) / 16 = a.toNat := by omega
      have b_ : (a.toNat % 4 * 16 + b.toNat / 16) % 16 * 16 + b.toNat % 16 * 4 / 4 = b.toNat := by
        omega
      rw [bytesOf, a_, b_, UInt8.ofNat_toNat, UInt8.ofNat_toNat]
  | case3 a =>
    have ha := a.toNat_lt
    refine ⟨_, (symbols_group_iff starts).mpr ⟨_, _, value?_symbol (a.toNat / 4) (by omega),
      value?_symbol (a.toNat % 4 * 16) (by omega), .inl ⟨rfl, rfl, rfl, rfl⟩⟩, ?_, ?_⟩
    · have even : a.toNat % 4 * 16 % 16 = 0 := by omega
      simp [hasStrayBits, even]
    · have a_ : a.toNat / 4 * 4 + a.toNat % 4 * 16 / 16 = a.toNat := by omega
      rw [bytesOf, a_, UInt8.ofNat_toNat]
  | case4 => exact ⟨[], rfl, rfl, rfl⟩

theorem encode_whole (bytes : List UInt8) : (encode bytes).length % 4 = 0 := by
  induction bytes using encode.induct with
  | case1 a b c rest ih =>
    simp only [encode, List.length_cons]
    omega
  | case2 a b => simp [encode]
  | case3 a => simp [encode]
  | case4 => rfl

theorem decode_ok_iff {text bytes : List UInt8} :
    decode text = .ok bytes ↔ text.length % 4 = 0 ∧
      ∃ values, symbols 0 none text = .ok values ∧ hasStrayBits values = false ∧
        bytes = bytesOf values := by
  unfold decode
  by_cases long : text.length % 4 = 1
  · simp [long]
  · rw [if_neg long]
    cases symbols 0 none text with
    | error fault => simp [bind, Except.bind]
    | ok values =>
      by_cases whole : text.length % 4 = 0
      · cases stray : hasStrayBits values with
        | true => simp [bind, Except.bind, whole, stray]
        | false => simp [bind, Except.bind, whole, stray, eq_comm (a := bytes)]
      · simp [bind, Except.bind, whole]

theorem decode_ok_iff_encode {text bytes : List UInt8} :
    decode text = .ok bytes ↔ text = encode bytes := by
  rw [decode_ok_iff]
  constructor
  · rintro ⟨whole, values, read, even, rfl⟩
    exact encode_of_symbols text whole rfl read even
  · rintro rfl
    obtain ⟨values, read, even, back⟩ := symbols_encode bytes 0 rfl
    exact ⟨encode_whole bytes, values, read, even, back.symm⟩

theorem decode_error_iff {text : List UInt8} :
    (∃ fault, decode text = .error fault) ↔ ∀ bytes, text ≠ encode bytes := by
  simp only [ne_eq, ← decode_ok_iff_encode]
  cases decode text <;> simp

end Walkthrough.Base64
