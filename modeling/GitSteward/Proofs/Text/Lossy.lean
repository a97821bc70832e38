-- Texts of which only the last bytes are left. The bytes of a character that was cut are read as
-- one replacement each, and all characters after it as they were.
import GitSteward.Proofs.Copier.Tail
import GitSteward.Proofs.Text.Utf8
import Mathlib.Data.List.Infix
import Mathlib.Data.List.TakeWhile

namespace GitSteward.Text

variable {c : Char} {cs kept : List Char} {b second : UInt8} {n limit : Nat}

/-- The bytes of characters. -/
abbrev spell (cs : List Char) : Bytes := cs.flatMap String.utf8EncodeChar

/-! ## First bytes -/

theorem lead?_two (h : 0xC2 ≤ n) (h' : n ≤ 0xDF) :
    lead? (byte n) = some (2, byte 0x80, byte 0xBF) := by
  have hn := toNat_byte (by omega : n < 256)
  simp only [lead?, UInt8.le_iff_toNat_le, hn]
  simp [h, h']

theorem lead?_three (h : 0xE0 ≤ n) (h' : n ≤ 0xEF) :
    lead? (byte n) =
      some (3, byte (if n = 0xE0 then 0xA0 else 0x80), byte (if n = 0xED then 0x9F else 0xBF)) := by
  have hn := toNat_byte (by omega : n < 256)
  simp only [lead?, UInt8.le_iff_toNat_le, ← UInt8.toNat_inj, hn]
  split_ifs <;> simp_all <;> omega

theorem lead?_four (h : 0xF0 ≤ n) (h' : n ≤ 0xF4) :
    lead? (byte n) =
      some (4, byte (if n = 0xF0 then 0x90 else 0x80), byte (if n = 0xF4 then 0x8F else 0xBF)) := by
  have hn := toNat_byte (by omega : n < 256)
  simp only [lead?, UInt8.le_iff_toNat_le, ← UInt8.toNat_inj, hn]
  split_ifs <;> simp_all <;> omega

theorem continues_iff : continues b ↔ 0x80 ≤ b.toNat ∧ b.toNat ≤ 0xBF := by
  simp [continues, UInt8.le_iff_toNat_le]

/-- No character begins with a byte that continues one. -/
theorem lead?_of_continues (h : continues b) : lead? b = none := by
  have hb := continues_iff.mp h
  simp only [lead?, UInt8.le_iff_toNat_le, ← UInt8.toNat_inj]
  split_ifs <;> simp_all <;> omega

/-! ## One character -/

/-- A byte that continues a character makes none. -/
theorem nextChar_of_continues (h : continues b) (rest : Bytes) : nextChar b rest = (none, 1) := by
  have hlarge : ¬b < 0x80 := by
    have hb := continues_iff.mp h
    simp only [UInt8.lt_iff_toNat_lt]
    simp
    omega
  rw [nextChar, if_neg hlarge, lead?_of_continues h]

/-- A first byte with as many bytes after it as it tells makes a character with them. -/
theorem nextChar_of_lead {length : Nat} {low high : UInt8} (others : Bytes) (hlarge : ¬b < 0x80)
    (hlead : lead? b = some (length, low, high)) (hlength : others.length + 2 = length)
    (hlow : low ≤ second) (hhigh : second ≤ high) (hothers : ∀ b ∈ others, continues b)
    (hvalue : (second :: others).foldl (fun n b => n * 0x40 + b.toNat % 0x40)
      (b.toNat % Nat.pow 2 (7 - length)) = c.toNat) (rest : Bytes) :
    nextChar b (second :: others ++ rest) = (some c, length) := by
  have hmore : (second :: others ++ rest).take (length - 1) = second :: others := by
    have hlen : length - 1 = (second :: others).length := by simp; omega
    rw [hlen, List.take_left]
  have hgood : others.takeWhile continues = others := List.takeWhile_eq_self_iff.mpr hothers
  have hsecond : (second < low || high < second) = false := by
    simp [UInt8.not_lt, hlow, hhigh]
  have hchar : charOf (b.toNat % Nat.pow 2 (7 - length)) (second :: others) = c := by
    rw [charOf, hvalue, Char.ofNat_toNat]
  rw [nextChar, if_neg hlarge, hlead]
  simp only [hmore, hsecond, hgood, hlength, hchar]
  simp

theorem not_lt_byte (h : 0x80 ≤ n) (h' : n < 256) : ¬byte n < 0x80 := by
  simp only [UInt8.lt_iff_toNat_lt, toNat_byte h']
  simp
  omega

theorem byte_le {m : Nat} (h : n ≤ m) (h' : m < 256) : byte n ≤ byte m := by
  rw [UInt8.le_iff_toNat_le, toNat_byte (by omega), toNat_byte h']
  exact h

theorem continues_cons {more : Bytes} (h : n < 64) (hmore : ∀ b ∈ more, continues b) :
    ∀ b ∈ byte (0x80 + n) :: more, continues b := by
  refine List.forall_mem_cons.mpr ⟨?_, hmore⟩
  rw [continues_iff, toNat_byte (by omega)]
  omega

/-- The bytes of a character make this character, whatever comes after them. -/
theorem nextChar_of_spells {bytes : Bytes} (h : Spells c bytes) :
    ∃ first more, bytes = first :: more ∧ more.length ≤ 3 ∧ (∀ b ∈ more, continues b) ∧
      ∀ rest, nextChar first (more ++ rest) = (some c, bytes.length) := by
  cases h with
  | one h =>
    refine ⟨_, [], rfl, by simp, nofun, fun rest => ?_⟩
    have hsmall : byte c.toNat < 0x80 := by
      simp only [UInt8.lt_iff_toNat_lt, toNat_byte (by omega : c.toNat < 256)]
      simpa using h
    rw [nextChar, if_pos hsmall, toNat_byte (by omega), Char.ofNat_toNat]
    rfl
  | two h h' =>
    have hlead := lead?_two (n := 0xC0 + c.toNat / 64) (by omega) (by omega)
    have hmore := continues_cons (by omega : c.toNat % 64 < 64) (List.forall_mem_nil _)
    refine ⟨_, _, rfl, by simp, hmore, fun rest => ?_⟩
    refine nextChar_of_lead [] (not_lt_byte (by omega) (by omega)) hlead rfl
      ?_ ?_ nofun ?_ rest
    · exact byte_le (by omega) (by omega)
    · exact byte_le (by omega) (by omega)
    · simp (disch := omega) only [List.foldl, toNat_byte]
      simp only [Nat.pow_eq, Nat.reduceSub, Nat.reducePow]
      omega
  | three h h' hv =>
    have hlead := lead?_three (n := 0xE0 + c.toNat / 4096) (by omega) (by omega)
    have hlast := continues_cons (by omega : c.toNat % 64 < 64) (List.forall_mem_nil _)
    have hmore := continues_cons (by omega : c.toNat / 64 % 64 < 64) hlast
    refine ⟨_, _, rfl, by simp, hmore, fun rest => ?_⟩
    refine nextChar_of_lead [_] (not_lt_byte (by omega) (by omega)) hlead rfl
      ?_ ?_ hlast ?_ rest
    · exact byte_le (by split_ifs <;> omega) (by omega)
    · exact byte_le (by split_ifs <;> omega) (by split_ifs <;> omega)
    · simp (disch := omega) only [List.foldl, toNat_byte]
      simp only [Nat.pow_eq, Nat.reduceSub, Nat.reducePow]
      omega
  | four h h' =>
    have hlead := lead?_four (n := 0xF0 + c.toNat / 262144) (by omega) (by omega)
    have hlast := continues_cons (by omega : c.toNat % 64 < 64) (List.forall_mem_nil _)
    have hothers := continues_cons (by omega : c.toNat / 64 % 64 < 64) hlast
    have hmore := continues_cons (by omega : c.toNat / 4096 % 64 < 64) hothers
    refine ⟨_, _, rfl, by simp, hmore, fun rest => ?_⟩
    refine nextChar_of_lead [_, _] (not_lt_byte (by omega) (by omega)) hlead rfl
      ?_ ?_ hothers ?_ rest
    · exact byte_le (by split_ifs <;> omega) (by omega)
    · exact byte_le (by split_ifs <;> omega) (by split_ifs <;> omega)
    · simp (disch := omega) only [List.foldl, toNat_byte]
      simp only [Nat.pow_eq, Nat.reduceSub, Nat.reducePow]
      omega

/-! ## Whole texts -/

theorem lossyOnto_append (done before : List Char) (bytes : Bytes) :
    lossyOnto (done ++ before) bytes = lossyOnto done bytes ++ before := by
  fun_induction lossyOnto done bytes with
  | case1 => rw [lossyOnto]
  | case2 done b rest next ih =>
    rw [lossyOnto]
    exact ih

/-- Bytes are read piece by piece. -/
theorem lossyChars_cons (b : UInt8) (rest : Bytes) :
    lossyChars (b :: rest) =
      (nextChar b rest).1.getD replacement ::
        lossyChars ((b :: rest).drop (nextChar b rest).2) := by
  rw [lossyChars, lossyOnto, ← List.nil_append [_], lossyOnto_append]
  simp [lossyChars]

theorem lossyChars_nil : lossyChars [] = [] := by
  rw [lossyChars, lossyOnto]
  rfl

theorem lossyChars_spell (cs : List Char) : lossyChars (spell cs) = cs := by
  induction cs with
  | nil => exact lossyChars_nil
  | cons c rest ih =>
    obtain ⟨first, more, hbytes, -, -, hnext⟩ := nextChar_of_spells (spells_utf8EncodeChar c)
    rw [spell, List.flatMap_cons, hbytes, List.cons_append, lossyChars_cons, hnext, hbytes]
    simp [ih]

/-- Bytes that continue a character which is not there are read as one replacement each. -/
theorem lossyChars_stranded {stranded : Bytes} (h : ∀ b ∈ stranded, continues b) (rest : Bytes) :
    lossyChars (stranded ++ rest) =
      List.replicate stranded.length replacement ++ lossyChars rest := by
  induction stranded with
  | nil => rfl
  | cons b more ih =>
    obtain ⟨here, later⟩ := List.forall_mem_cons.mp h
    rw [List.cons_append, lossyChars_cons, nextChar_of_continues here]
    simp [ih later, List.replicate_succ]

/-! ## Cut texts -/

/-- The longest end of a text that is made of whole characters and has so many bytes at most. -/
def lastChars (limit : Nat) : List Char → List Char
  | [] => []
  | c :: rest => if (spell (c :: rest)).length ≤ limit then c :: rest else lastChars limit rest

theorem lastChars_suffix (limit : Nat) (cs : List Char) : lastChars limit cs <:+ cs := by
  induction cs with
  | nil => exact List.suffix_rfl
  | cons c rest ih =>
    unfold lastChars
    split
    · exact List.suffix_rfl
    · exact ih.trans (List.suffix_cons c rest)

theorem length_spell_lastChars (limit : Nat) (cs : List Char) :
    (spell (lastChars limit cs)).length ≤ limit := by
  induction cs with
  | nil => exact Nat.zero_le limit
  | cons c rest ih =>
    unfold lastChars
    split
    · assumption
    · exact ih

theorem lastChars_of_le (h : (spell cs).length ≤ limit) : lastChars limit cs = cs := by
  cases cs with
  | nil => rfl
  | cons c rest => rw [lastChars, if_pos h]

/-- No longer end of the text has so few bytes. -/
theorem suffix_lastChars (h : kept <:+ cs) (hlimit : (spell kept).length ≤ limit) :
    kept <:+ lastChars limit cs := by
  induction cs with
  | nil => simpa [lastChars] using h
  | cons c rest ih =>
    unfold lastChars
    split
    · exact h
    · rename_i hlong
      rcases List.suffix_cons_iff.mp h with rfl | h
      · exact absurd hlimit hlong
      · exact ih h

/-- The last bytes of a text are some bytes of a character that was cut, and whole characters. -/
theorem lastBytes_spell (limit : Nat) (cs : List Char) :
    ∃ stranded, stranded.length ≤ 3 ∧ (∀ b ∈ stranded, continues b) ∧
      lastBytes limit (spell cs) = stranded ++ spell (lastChars limit cs) := by
  induction cs with
  | nil => exact ⟨[], by simp, nofun, by simp [lastBytes, lastChars]⟩
  | cons c rest ih =>
    obtain ⟨first, more, hbytes, hlength, hcontinues, -⟩ :=
      nextChar_of_spells (spells_utf8EncodeChar c)
    have hspell : spell (c :: rest) = first :: more ++ spell rest := by
      rw [spell, List.flatMap_cons, hbytes]
    unfold lastChars
    split
    · rename_i hshort
      refine ⟨[], by simp, nofun, ?_⟩
      rw [lastBytes, Nat.sub_eq_zero_of_le hshort]
      rfl
    · rename_i hlong
      rw [hspell, List.length_append, List.length_cons] at hlong
      rcases Nat.lt_or_ge limit (spell rest).length with hcut | hfits
      · -- the cut is further on
        obtain ⟨stranded, hstranded, hall, hlast⟩ := ih
        refine ⟨stranded, hstranded, hall, ?_⟩
        have hdrop : (first :: more ++ spell rest).length - limit =
            (first :: more).length + ((spell rest).length - limit) := by
          rw [List.length_append]
          omega
        rw [← hlast, hspell, lastBytes, lastBytes, hdrop, List.drop_length_add_append]
      · -- the cut is inside this character, or right behind it
        rw [lastChars_of_le hfits]
        refine ⟨more.drop (more.length + (spell rest).length - limit), ?_, ?_, ?_⟩
        · simp; omega
        · exact fun b hb => hcontinues b (List.mem_of_mem_drop hb)
        · have hdrop : (first :: more ++ spell rest).length - limit =
              more.length + (spell rest).length - limit + 1 := by
            rw [List.length_append, List.length_cons]
            omega
          rw [hspell, lastBytes, hdrop, List.cons_append, List.drop_succ_cons,
            List.drop_append_of_le_length (by omega)]

/-- What is left of a text at some limit: so many bytes of a character that was cut, and the
characters behind them. -/
structure Cut (limit : Nat) (text : String) (bytes : Nat) (kept : List Char) : Prop where
  suffix : kept <:+ text.toList
  fits : (spell kept).length ≤ limit
  /-- no longer end of the text fits -/
  longest : ∀ other, other <:+ text.toList → (spell other).length ≤ limit → other <:+ kept
  /-- nothing that the limit allows is missing -/
  all : bytes + (spell kept).length = min limit (utf8 text).length
  few : bytes ≤ 3
  /-- a text that fits is not cut -/
  whole : (utf8 text).length ≤ limit → bytes = 0 ∧ kept = text.toList

/-- Of a text of which only the last bytes are left, all whole characters are read, behind one
replacement for each byte of the character that was cut. -/
theorem lossy_lastBytes (limit : Nat) (text : String) :
    ∃ bytes kept, Cut limit text bytes kept ∧
      lossy (lastBytes limit (utf8 text)) =
        String.ofList (List.replicate bytes replacement ++ kept) := by
  rw [utf8_eq]
  obtain ⟨stranded, hstranded, hall, hlast⟩ := lastBytes_spell limit text.toList
  have hlength := congrArg List.length hlast
  rw [length_lastBytes, List.length_append] at hlength
  refine ⟨stranded.length, lastChars limit text.toList, ⟨lastChars_suffix _ _,
    length_spell_lastChars _ _, fun _ => suffix_lastChars, ?_, hstranded, fun hshort => ?_⟩, ?_⟩
  · rw [utf8_eq, hlength]
  · rw [utf8_eq] at hshort
    rw [lastChars_of_le hshort, Nat.min_eq_right hshort] at hlength
    exact ⟨Nat.right_eq_add.mp hlength, lastChars_of_le hshort⟩
  · rw [hlast, lossy, lossyChars_stranded hall, lossyChars_spell]

/-! ## White space at the end -/

/-- Trimming takes away white space at the end, as much as there is, and nothing else. -/
theorem toList_trimEnd (s : String) :
    ∃ blanks, s.toList = (trimEnd s).toList ++ blanks ∧ (∀ c ∈ blanks, isBlank c) ∧
      ∀ c ∈ (trimEnd s).toList.getLast?, ¬isBlank c := by
  refine ⟨(s.toList.reverse.takeWhile isBlank).reverse, ?_, fun c hc => ?_, fun c hc => ?_⟩
  · rw [trimEnd, String.toList_ofList, ← List.reverse_append, List.takeWhile_append_dropWhile,
      List.reverse_reverse]
  · exact List.mem_takeWhile_imp (List.mem_reverse.mp hc)
  · rw [trimEnd, String.toList_ofList, List.getLast?_reverse] at hc
    have hhead := List.head?_dropWhile_not isBlank s.toList.reverse
    rw [Option.mem_def.mp hc] at hhead
    simpa using hhead

/-- Replacements are kept, and a text behind them is trimmed by itself. -/
theorem trimEnd_replacements (cut : Nat) (cs : List Char) :
    trimEnd (String.ofList (List.replicate cut replacement ++ cs)) =
      String.ofList (List.replicate cut replacement ++ (trimEnd (String.ofList cs)).toList) := by
  have hvisible : isBlank replacement = false := by decide
  have hkeep : (List.replicate cut replacement).dropWhile isBlank =
      List.replicate cut replacement := by
    cases cut with
    | zero => rfl
    | succ cut => rw [List.replicate_succ, List.dropWhile_cons, hvisible]; rfl
  rw [trimEnd, trimEnd, String.toList_ofList, String.toList_ofList, String.toList_ofList,
    List.reverse_append, List.reverse_replicate, List.dropWhile_append, hkeep]
  split
  · rename_i hblank
    simp [List.isEmpty_iff.mp hblank]
  · simp

end GitSteward.Text
