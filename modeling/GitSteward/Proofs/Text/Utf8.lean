-- The bytes of texts. A character is spelt by one to four bytes, the first of which tells how many
-- there are, and texts are in the same order as their bytes.
import GitSteward.Text.Lossy
import Mathlib.Data.List.Basic

namespace GitSteward.Text

/-- The byte of a number. -/
abbrev byte (n : Nat) : UInt8 := UInt8.ofNat n

/-- The bytes that spell a character, by how many they are. -/
inductive Spells (c : Char) : Bytes → Prop
  | one : c.toNat < 0x80 → Spells c [byte c.toNat]
  | two : 0x80 ≤ c.toNat → c.toNat < 0x800 →
      Spells c [byte (0xC0 + c.toNat / 64), byte (0x80 + c.toNat % 64)]
  | three : 0x800 ≤ c.toNat → c.toNat < 0x10000 → (c.toNat < 0xD800 ∨ 0xDFFF < c.toNat) →
      Spells c [byte (0xE0 + c.toNat / 4096), byte (0x80 + c.toNat / 64 % 64),
        byte (0x80 + c.toNat % 64)]
  | four : 0x10000 ≤ c.toNat → c.toNat < 0x110000 →
      Spells c [byte (0xF0 + c.toNat / 262144), byte (0x80 + c.toNat / 4096 % 64),
        byte (0x80 + c.toNat / 64 % 64), byte (0x80 + c.toNat % 64)]

theorem spells_utf8EncodeChar (c : Char) : Spells c (String.utf8EncodeChar c) := by
  have hvalid : c.toNat < 0xD800 ∨ 0xDFFF < c.toNat ∧ c.toNat < 0x110000 := c.valid
  have hval : c.val.toNat = c.toNat := rfl
  unfold String.utf8EncodeChar
  simp only [hval]
  split
  · exact .one (by omega)
  · split
    · rw [Nat.mod_eq_of_lt (by omega : c.toNat / 64 < 32), Nat.add_comm, Nat.add_comm _ 128]
      exact .two (by omega) (by omega)
    · split
      · rw [Nat.mod_eq_of_lt (by omega : c.toNat / 4096 < 16), Nat.add_comm, Nat.add_comm _ 128,
          Nat.add_comm _ 128]
        exact .three (by omega) (by omega) (by omega)
      · rw [Nat.mod_eq_of_lt (by omega : c.toNat / 262144 < 8), Nat.add_comm, Nat.add_comm _ 128,
          Nat.add_comm _ 128, Nat.add_comm _ 128]
        exact .four (by omega) (by omega)

/-- The bytes of a text are those of its characters. -/
theorem utf8_eq (s : String) : utf8 s = s.toList.flatMap String.utf8EncodeChar := by
  rw [utf8, String.toUTF8, ← String.utf8Encode_toList, List.utf8Encode]
  simp

theorem toNat_byte {n : Nat} (h : n < 256) : (byte n).toNat = n := UInt8.toNat_ofNat_of_lt h

/-! ## The order of texts -/

/-- The bytes of a smaller character are smaller, whatever comes after them. -/
theorem utf8EncodeChar_append_lt {a b : Char} (h : a < b) (x y : Bytes) :
    String.utf8EncodeChar a ++ x < String.utf8EncodeChar b ++ y := by
  have hlt : a.toNat < b.toNat := h
  have ha := spells_utf8EncodeChar a
  have hb := spells_utf8EncodeChar b
  generalize String.utf8EncodeChar a = p at ha
  generalize String.utf8EncodeChar b = q at hb
  cases ha <;> cases hb
  all_goals try omega
  all_goals
    simp (disch := omega) only [List.cons_append, List.cons_lt_cons_iff, UInt8.lt_iff_toNat_lt,
      ← UInt8.toNat_inj, toNat_byte]
    omega

theorem flatMap_utf8EncodeChar_lt {a b : List Char} (h : a < b) :
    a.flatMap String.utf8EncodeChar < b.flatMap String.utf8EncodeChar := by
  induction a generalizing b with
  | nil =>
    cases b with
    | nil => exact absurd h (List.lt_irrefl [])
    | cons c rest =>
      have hne := String.utf8EncodeChar_ne_nil (c := c)
      cases hbytes : String.utf8EncodeChar c with
      | nil => exact absurd hbytes hne
      | cons first more =>
        simp [hbytes]
  | cons c rest ih =>
    cases b with
    | nil => cases h
    | cons d more =>
      rw [List.flatMap_cons, List.flatMap_cons]
      rcases List.cons_lt_cons_iff.mp h with hlt | ⟨rfl, hlt⟩
      · exact utf8EncodeChar_append_lt hlt _ _
      · exact List.append_left_lt (ih hlt)

/-- Texts are in the order of their bytes. -/
theorem utf8_lt_utf8 {a b : String} (h : a < b) : utf8 a < utf8 b := by
  rw [utf8_eq, utf8_eq]
  exact flatMap_utf8EncodeChar_lt (String.lt_iff.mp h)

end GitSteward.Text
