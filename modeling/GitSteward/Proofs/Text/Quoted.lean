-- Quoted texts show where they end. A quote inside is never taken for the one at the end, and no
-- two characters are escaped alike. So a quoted text can be read in one way only, whatever comes
-- after it, and so can what is put together from such texts.
import GitSteward.Text.Quoted
import Mathlib.Data.List.Basic

namespace GitSteward.Text

variable {α : Type} {write : α → List Char} {x y rest rest' : List Char} {c d : Char} {m n : Nat}

/-! ## Texts that show where they end -/

/-- A way of writing things down whose texts show where they end: they are told apart even when
other texts come after them. -/
def SelfDelimiting (write : α → List Char) : Prop :=
  ∀ a b rest rest', write a ++ rest = write b ++ rest' → a = b ∧ rest = rest'

namespace SelfDelimiting

theorem append_inj (h : SelfDelimiting write) {a b : α} :
    write a ++ rest = write b ++ rest' ↔ a = b ∧ rest = rest' := by
  constructor
  · exact h a b rest rest'
  · rintro ⟨rfl, rfl⟩
    rfl

theorem preceded (h : SelfDelimiting write) (before : List Char) :
    SelfDelimiting fun a => before ++ write a := by
  intro a b rest rest' same
  simpa only [List.append_assoc, List.append_cancel_left_eq, h.append_inj] using same

theorem followed (h : SelfDelimiting write) (after : List Char) :
    SelfDelimiting fun a => write a ++ after := by
  intro a b rest rest' same
  simpa only [List.append_assoc, List.append_cancel_left_eq, h.append_inj] using same

/-- Things are written one after the other, and then something that none of them begins with. -/
theorem all (h : SelfDelimiting write) (last : List Char)
    (apart : ∀ a rest rest', write a ++ rest ≠ last ++ rest') :
    SelfDelimiting fun l : List α => l.flatMap write ++ last := by
  intro l
  induction l with
  | nil =>
    intro l' rest rest' same
    cases l' with
    | nil => exact ⟨rfl, List.append_cancel_left same⟩
    | cons b l' =>
      simp only [List.flatMap_cons, List.flatMap_nil, List.nil_append, List.append_assoc] at same
      exact absurd same.symm (apart b _ _)
  | cons a l ih =>
    intro l' rest rest' same
    cases l' with
    | nil =>
      simp only [List.flatMap_cons, List.flatMap_nil, List.nil_append, List.append_assoc] at same
      exact absurd same (apart a _ _)
    | cons b l' =>
      simp only [List.flatMap_cons, List.append_assoc, h.append_inj] at same
      obtain ⟨rfl, rfl⟩ := ih l' rest rest' (by simpa only [List.append_assoc] using same.2)
      exact ⟨by rw [same.1], rfl⟩

/-- A list may be written in another way when it is empty, if that shows. -/
theorem ofCons {write : List α → List Char}
    (more : ∀ a b l l' rest rest', write (a :: l) ++ rest = write (b :: l') ++ rest' →
      a :: l = b :: l' ∧ rest = rest')
    (apart : ∀ a l rest rest', write (a :: l) ++ rest ≠ write [] ++ rest') :
    SelfDelimiting write := by
  intro l l' rest rest' same
  cases l with
  | nil =>
    cases l' with
    | nil => exact ⟨rfl, List.append_cancel_left same⟩
    | cons b l' => exact absurd same.symm (apart b l' rest' rest)
  | cons a l =>
    cases l' with
    | nil => exact absurd same (apart a l rest rest')
    | cons b l' => exact more a b l l' rest rest' same

end SelfDelimiting

/-! ## Hexadecimal digits -/

theorem digitChar_inj : ∀ m < 16, ∀ n < 16, m.digitChar = n.digitChar → m = n := by decide

theorem digitChar_ne_brace : ∀ n < 16, n.digitChar ≠ '\x7d' := by decide

theorem hexDigits_of_lt (h : n < 16) : hexDigits n = [n.digitChar] := Nat.toDigits_of_lt_base h

theorem hexDigits_of_ge (h : 16 ≤ n) :
    hexDigits n = hexDigits (n / 16) ++ [(n % 16).digitChar] :=
  Nat.toDigits_of_base_le (by decide) h

/-- One digit is not the same as several. -/
theorem hexDigits_ne (hm : m < 16) (hn : 16 ≤ n) : hexDigits m ≠ hexDigits n := by
  rw [hexDigits_of_lt hm, hexDigits_of_ge hn, ← List.nil_append [m.digitChar]]
  intro same
  exact Nat.toDigits_ne_nil (List.append_inj_left' same rfl).symm

theorem hexDigits_inj (h : hexDigits m = hexDigits n) : m = n := by
  induction m using Nat.strongRecOn generalizing n with
  | ind m ih =>
    rcases Nat.lt_or_ge m 16 with hm | hm <;> rcases Nat.lt_or_ge n 16 with hn | hn
    · rw [hexDigits_of_lt hm, hexDigits_of_lt hn, List.singleton_inj] at h
      exact digitChar_inj m hm n hn h
    · exact absurd h (hexDigits_ne hm hn)
    · exact absurd h.symm (hexDigits_ne hn hm)
    · rw [hexDigits_of_ge hm, hexDigits_of_ge hn] at h
      obtain ⟨high, low⟩ := List.append_inj' h rfl
      have hhigh : m / 16 = n / 16 := ih (m / 16) (by omega) high
      have hlow : m % 16 = n % 16 :=
        digitChar_inj _ (by omega) _ (by omega) (List.singleton_inj.mp low)
      omega

theorem brace_notMem_hexDigits (n : Nat) : '\x7d' ∉ hexDigits n := by
  induction n using Nat.strongRecOn with
  | ind n ih =>
    rcases Nat.lt_or_ge n 16 with hn | hn
    · rw [hexDigits_of_lt hn, List.mem_singleton]
      exact (digitChar_ne_brace n hn).symm
    · rw [hexDigits_of_ge hn, List.mem_append, List.mem_singleton, not_or]
      exact ⟨ih (n / 16) (by omega), (digitChar_ne_brace _ (by omega)).symm⟩

/-- The digits end at the first brace, so what comes after them is no part of them. -/
theorem selfDelimiting_hexDigits : SelfDelimiting fun n => hexDigits n ++ ['\x7d'] := by
  intro m n rest rest' same
  simp only [List.append_assoc, List.singleton_append] at same
  have ends (n : Nat) : ∀ c ∈ hexDigits n, (c != '\x7d') = true := by
    intro c hc
    exact bne_iff_ne.mpr fun brace => brace_notMem_hexDigits n (brace ▸ hc)
  have digits (n : Nat) (rest : List Char) :
      (hexDigits n ++ '\x7d' :: rest).takeWhile (· != '\x7d') = hexDigits n := by
    rw [List.takeWhile_append_of_pos (ends n)]
    simp
  have hn : hexDigits m = hexDigits n := by rw [← digits m rest, same, digits n rest']
  rw [hn, List.append_cancel_left_eq, List.cons.injEq] at same
  exact ⟨hexDigits_inj hn, same.2⟩

/-! ## Escaped characters -/

/-- The characters that are escaped by a letter or sign of their own. -/
def marks : List (Char × Char) :=
  [('0', '\x00'), ('t', '\t'), ('r', '\r'), ('n', '\n'), ('\\', '\\'), ('"', '"')]

/-- How a character is written inside quotes. -/
inductive Escaped (c : Char) : List Char → Prop
  | plain : c ≠ '\\' → c ≠ '"' → Escaped c [c]
  | marked (mark : Char) : (mark, c) ∈ marks → Escaped c ['\\', mark]
  | coded : Escaped c ('\\' :: 'u' :: '\x7b' :: (hexDigits c.toNat ++ ['\x7d']))

theorem escaped_escapeChar (c : Char) : Escaped c (escapeChar c) := by
  unfold escapeChar
  split
  · exact .marked '0' (by decide)
  · exact .marked 't' (by decide)
  · exact .marked 'r' (by decide)
  · exact .marked 'n' (by decide)
  · exact .marked '\\' (by decide)
  · exact .marked '"' (by decide)
  · split
    · exact .plain ‹_› ‹_›
    · exact .coded

theorem eq_of_mark : ∀ p ∈ marks, ∀ q ∈ marks, p.1 = q.1 → p.2 = q.2 := by decide

theorem mark_ne_u : ∀ p ∈ marks, p.1 ≠ 'u' := by decide

/-- No two characters are escaped alike. -/
theorem Escaped.append_inj (hx : Escaped c x) (hy : Escaped d y)
    (same : x ++ rest = y ++ rest') : c = d ∧ rest = rest' := by
  cases hx with
  | plain notSlash _ =>
    cases hy with
    | plain => exact List.cons.inj same
    | marked => exact absurd (List.cons.inj same).1 notSlash
    | coded => exact absurd (List.cons.inj same).1 notSlash
  | marked mark hmark =>
    cases hy with
    | plain notSlash _ => exact absurd (List.cons.inj same).1.symm notSlash
    | marked mark' hmark' =>
      simp only [List.cons_append, List.nil_append, List.cons.injEq, true_and] at same
      exact ⟨eq_of_mark _ hmark _ hmark' same.1, same.2⟩
    | coded =>
      simp only [List.cons_append, List.nil_append, List.cons.injEq, true_and] at same
      exact absurd same.1 (mark_ne_u _ hmark)
  | coded =>
    cases hy with
    | plain notSlash _ => exact absurd (List.cons.inj same).1.symm notSlash
    | marked mark' hmark' =>
      simp only [List.cons_append, List.nil_append, List.cons.injEq, true_and] at same
      exact absurd same.1.symm (mark_ne_u _ hmark')
    | coded =>
      simp only [List.cons_append, List.cons.injEq, true_and] at same
      obtain ⟨hcode, hrest⟩ := selfDelimiting_hexDigits _ _ _ _ same
      exact ⟨Char.toNat_inj.mp hcode, hrest⟩

theorem selfDelimiting_escapeChar : SelfDelimiting escapeChar :=
  fun c d _ _ => (escaped_escapeChar c).append_inj (escaped_escapeChar d)

/-- Inside quotes nothing begins with a quote. -/
theorem escapeChar_append_ne (c : Char) (rest rest' : List Char) :
    escapeChar c ++ rest ≠ ['"'] ++ rest' := by
  intro same
  have hc := escaped_escapeChar c
  generalize escapeChar c = x at hc same
  cases hc with
  | plain _ notQuote => exact notQuote (List.cons.inj same).1
  | marked => exact absurd (List.cons.inj same).1 (by decide)
  | coded => exact absurd (List.cons.inj same).1 (by decide)

/-! ## Quoted texts -/

theorem toList_quoted (s : String) :
    (quoted s).toList = ['"'] ++ (s.toList.flatMap escapeChar ++ ['"']) := by
  simp [quoted, quotedChars]

theorem selfDelimiting_quoted : SelfDelimiting fun s => (quoted s).toList := by
  have chars := (selfDelimiting_escapeChar.all ['"'] escapeChar_append_ne).preceded ['"']
  intro s t rest rest' same
  simp only [toList_quoted] at same
  obtain ⟨hchars, hrest⟩ := chars _ _ rest rest' same
  exact ⟨String.toList_inj.mp hchars, hrest⟩

end GitSteward.Text
