import Mathlib.Data.String.Basic
import Walkthrough.Proofs.Text.Base64
import Walkthrough.Proofs.Text.Trim

/-!
Base64 as text. Its symbols are characters of one byte and none of them is blank, so what holds of
bytes holds of texts: a text is decoded exactly when it is the text of the bytes.
-/
namespace Walkthrough

namespace Text

theorem loop_eq_append_drop (bs : ByteArray) (i : Nat) (read : List UInt8) :
    ByteArray.toList.loop bs i read = read.reverse ++ bs.data.toList.drop i := by
  fun_induction ByteArray.toList.loop bs i read with
  | case1 i read more ih =>
    have inside : i < bs.data.toList.length := by simpa using more
    rw [ih, List.drop_eq_getElem_cons inside]
    simp [ByteArray.get!, more]
  | case2 i read done =>
    rw [List.drop_eq_nil_of_le (by simpa using Nat.le_of_not_lt done)]
    simp

theorem toList_bytes (bs : ByteArray) : bs.toList = bs.data.toList := by
  simp [ByteArray.toList, loop_eq_append_drop]

theorem utf8_inj {s t : String} (same : s.toUTF8.toList = t.toUTF8.toList) : s = t := by
  rw [toList_bytes, toList_bytes, Array.toList_inj] at same
  exact String.toByteArray_inj.mp (ByteArray.ext same)

theorem utf8_ofList (cs : List Char) :
    (String.ofList cs).toUTF8.toList = cs.flatMap String.utf8EncodeChar := by
  rw [toList_bytes, String.toUTF8, String.toByteArray_ofList, List.utf8Encode,
    List.data_toByteArray]

end Text

namespace Base64

structure IsPlain (b : UInt8) : Prop where
  byte : String.utf8EncodeChar (Char.ofNat b.toNat) = [b]
  solid : Text.isBlank (Char.ofNat b.toNat) = false

theorem pad_isPlain : IsPlain pad := ⟨by decide, by decide⟩

theorem symbol_isPlain {n : Nat} (small : n < 64) : IsPlain (symbol n) := by
  have each : ∀ n < 64, String.utf8EncodeChar (Char.ofNat (symbol n).toNat) = [symbol n] ∧
      Text.isBlank (Char.ofNat (symbol n).toNat) = false := by decide +kernel
  obtain ⟨byte, solid⟩ := each n small
  exact ⟨byte, solid⟩

theorem encode_isPlain (bytes : List UInt8) : ∀ b ∈ encode bytes, IsPlain b := by
  induction bytes using encode.induct with
  | case1 a b c rest ih =>
    have ha := a.toNat_lt
    have hb := b.toNat_lt
    have hc := c.toNat_lt
    simp only [encode, List.forall_mem_cons]
    exact ⟨symbol_isPlain (by omega), symbol_isPlain (by omega), symbol_isPlain (by omega),
      symbol_isPlain (by omega), ih⟩
  | case2 a b =>
    have ha := a.toNat_lt
    have hb := b.toNat_lt
    simp only [encode, List.forall_mem_cons]
    exact ⟨symbol_isPlain (by omega), symbol_isPlain (by omega), symbol_isPlain (by omega),
      pad_isPlain, List.forall_mem_nil _⟩
  | case3 a =>
    have ha := a.toNat_lt
    simp only [encode, List.forall_mem_cons]
    exact ⟨symbol_isPlain (by omega), symbol_isPlain (by omega), pad_isPlain, pad_isPlain,
      List.forall_mem_nil _⟩
  | case4 => exact List.forall_mem_nil _

theorem utf8_text (bytes : List UInt8) : (text bytes).toUTF8.toList = encode bytes := by
  have each : ∀ symbols : List UInt8, (∀ b ∈ symbols, IsPlain b) →
      (symbols.map fun b => Char.ofNat b.toNat).flatMap String.utf8EncodeChar = symbols := by
    intro symbols
    induction symbols with
    | nil => exact fun _ => rfl
    | cons b rest ih =>
      intro plain
      have later := ih fun c member => plain c (List.mem_cons_of_mem b member)
      rw [List.map_cons, List.flatMap_cons, (plain b List.mem_cons_self).byte, later]
      rfl
  rw [text, Text.utf8_ofList, each (encode bytes) (encode_isPlain bytes)]

theorem trim_text (bytes : List UInt8) : Text.trim (text bytes) = text bytes := by
  have solid : ∀ c ∈ (text bytes).toList, Text.isBlank c = false := by
    intro c member
    rw [text, String.toList_ofList] at member
    obtain ⟨b, symbol, rfl⟩ := List.mem_map.mp member
    exact (encode_isPlain bytes b symbol).solid
  rw [Text.trim, Text.trimChars_of_solid solid, String.ofList_toList]

theorem decode_text_iff {s : String} {bytes : List UInt8} :
    decode s.toUTF8.toList = .ok bytes ↔ s = text bytes := by
  rw [decode_ok_iff_encode, ← utf8_text]
  constructor
  · exact Text.utf8_inj
  · rintro rfl
    rfl

end Base64

end Walkthrough
