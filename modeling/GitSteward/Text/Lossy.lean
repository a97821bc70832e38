-- Reading bytes as text when they may not be one. Each longest piece that begins a
-- character and breaks off is read as one replacement character.

namespace GitSteward

/-- Bytes on their way between a client and a process. -/
abbrev Bytes := List UInt8

namespace Text

/-- What stands for bytes that make no character. -/
def replacement : Char := '\uFFFD'

/-- The bytes of a text. -/
def utf8 (s : String) : Bytes := s.toUTF8.data.toList

/-- Whether a byte continues a character. -/
def continues (b : UInt8) : Bool := 0x80 ≤ b && b ≤ 0xBF

/-- The length of a character and the range of its second byte, told by its first byte. The
range keeps out overlong forms, surrogates and what lies beyond Unicode. -/
def lead? (b : UInt8) : Option (Nat × UInt8 × UInt8) :=
  if 0xC2 ≤ b && b ≤ 0xDF then some (2, 0x80, 0xBF)
  else if b = 0xE0 then some (3, 0xA0, 0xBF)
  else if b = 0xED then some (3, 0x80, 0x9F)
  else if 0xE1 ≤ b && b ≤ 0xEF then some (3, 0x80, 0xBF)
  else if b = 0xF0 then some (4, 0x90, 0xBF)
  else if 0xF1 ≤ b && b ≤ 0xF3 then some (4, 0x80, 0xBF)
  else if b = 0xF4 then some (4, 0x80, 0x8F)
  else none

/-- The character whose bits are `high` and then the low six of each byte. -/
def charOf (high : Nat) (more : Bytes) : Char :=
  Char.ofNat (more.foldl (fun n b => n * 0x40 + b.toNat % 0x40) high)

/-- The first character of bytes, or nothing where they make none, and how many bytes that
takes away. -/
def nextChar (b : UInt8) (rest : Bytes) : Option Char × Nat :=
  if b < 0x80 then (some (Char.ofNat b.toNat), 1)
  else match lead? b with
    | none => (none, 1)
    | some (length, low, high) =>
      let more := rest.take (length - 1)
      match more with
      | [] => (none, 1)
      | second :: others =>
        if second < low || high < second then (none, 1)
        else
          let good := others.takeWhile continues
          if good.length + 2 = length then
            (some (charOf (b.toNat % Nat.pow 2 (7 - length)) more), length)
          else (none, good.length + 2)

theorem nextChar_pos (b : UInt8) (rest : Bytes) : 0 < (nextChar b rest).2 := by
  unfold nextChar
  split
  · simp
  · split
    · simp
    · dsimp only
      split
      · simp
      · split
        · simp
        · split
          · rename_i h
            simp only
            omega
          · simp

/-- The characters of bytes, with a replacement for each piece that makes none, last to
first and before `done`. -/
def lossyOnto (done : List Char) (bytes : Bytes) : List Char :=
  match bytes with
  | [] => done
  | b :: rest =>
    let next := nextChar b rest
    lossyOnto (next.1.getD replacement :: done) ((b :: rest).drop next.2)
termination_by bytes.length
decreasing_by
  have := nextChar_pos b rest
  simp only [List.length_drop, List.length_cons]
  omega

/-- The characters of bytes, with a replacement for each piece that makes none. -/
def lossyChars (bytes : Bytes) : List Char := (lossyOnto [] bytes).reverse

/-- Bytes as text. -/
def lossy (bytes : Bytes) : String := String.ofList (lossyChars bytes)

/-- The text that bytes spell, if they spell one. -/
def text? (bytes : Bytes) : Option String := String.fromUTF8? ⟨bytes.toArray⟩

end Text

end GitSteward
