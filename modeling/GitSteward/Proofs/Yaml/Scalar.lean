-- What plain scalars spell. Six words spell the truth values. Of the texts that are made of digits,
-- the one that spells a number is its decimal, without a zero too many in front.
import GitSteward.Yaml.Scalar

namespace GitSteward.Yaml

variable {s : String} {c : Char} {cs : List Char} {limit n : Nat}

/-! ## Truth values -/

theorem readBool?_eq_some {b : Bool} : readBool? s = some b ↔
    s ∈ if b then ["true", "True", "TRUE"] else ["false", "False", "FALSE"] := by
  cases b with
  | true =>
    simp only [readBool?, if_true, List.mem_cons, List.not_mem_nil, or_false]
    grind
  | false =>
    simp only [readBool?, Bool.false_eq_true, if_false, List.mem_cons, List.not_mem_nil, or_false]
    grind

/-! ## Digits -/

theorem isDigit_iff : c.isDigit ↔ 48 ≤ c.toNat ∧ c.toNat ≤ 57 := by
  simp only [Char.isDigit, Bool.and_eq_true, decide_eq_true_eq, ge_iff_le, UInt32.le_iff_toNat_le]
  rfl

theorem digit?_ten (c : Char) : digit? 10 c = if c.isDigit then some (c.toNat - 48) else none := by
  unfold digit?
  by_cases hd : c.isDigit
  · have h : '0' ≤ c ∧ c ≤ '9' := isDigit_iff.mp hd
    have hlt : c.toNat - 48 < 10 := by
      have := (isDigit_iff.mp hd).2
      omega
    simp [h, hd, hlt]
  · have h : ¬ ('0' ≤ c ∧ c ≤ '9') := fun h => hd (isDigit_iff.mpr h)
    -- a letter counts for ten at least
    have hlarge : ¬ (if 'a' ≤ c ∧ c ≤ 'f' then c.toNat - 'a'.toNat + 10
        else if 'A' ≤ c ∧ c ≤ 'F' then c.toNat - 'A'.toNat + 10 else 16) < 10 := by
      split
      · omega
      · split <;> omega
    simp only [h, hd, if_false]
    rw [if_neg hlarge, if_neg Bool.false_ne_true]

/-- A digit is the one of its own value. -/
theorem digitChar_of_isDigit (hd : c.isDigit) :
    c.toNat - 48 < 10 ∧ Nat.digitChar (c.toNat - 48) = c := by
  obtain ⟨hge, hle⟩ := isDigit_iff.mp hd
  have hlt : c.toNat - 48 < 10 := by omega
  refine ⟨hlt, Char.toNat_inj.mp ?_⟩
  rw [Nat.toNat_digitChar_of_lt_ten hlt]
  omega

theorem ofDigitChars_cons (c : Char) (cs : List Char) (before : Nat) :
    Nat.ofDigitChars 10 (c :: cs) before = Nat.ofDigitChars 10 cs (10 * before + (c.toNat - 48)) :=
  Nat.ofDigitChars_cons

/-- Digits that come after others put their number after that of the others. -/
theorem foldl_digits (hd : ∀ c ∈ cs, c.isDigit) (before : Nat) :
    cs.foldl (fun n? c => n?.bind fun n => (digit? 10 c).map (n * 10 + ·)) (some before) =
      some (Nat.ofDigitChars 10 cs before) := by
  induction cs generalizing before with
  | nil => rfl
  | cons c rest ih =>
    obtain ⟨hc, hrest⟩ := List.forall_mem_cons.mp hd
    rw [List.foldl_cons, ofDigitChars_cons, ← ih hrest]
    simp [digit?_ten, hc, Nat.mul_comm]

theorem readDigits?_eq (hne : cs ≠ []) (hd : ∀ c ∈ cs, c.isDigit) :
    readDigits? 10 limit cs = (some (Nat.ofDigitChars 10 cs 0)).filter (· ≤ limit) := by
  unfold readDigits?
  rw [foldl_digits hd, if_neg (by simpa using hne)]

/-! ## Decimals -/

/-- Digits after the decimal of a number make a longer decimal with it. -/
theorem toDigits_ofDigitChars {before : Nat} (h0 : 0 < before) (hd : ∀ c ∈ cs, c.isDigit) :
    Nat.toDigits 10 (Nat.ofDigitChars 10 cs before) = Nat.toDigits 10 before ++ cs := by
  induction cs generalizing before with
  | nil => simp
  | cons c rest ih =>
    obtain ⟨hc, hrest⟩ := List.forall_mem_cons.mp hd
    obtain ⟨hlt, hchar⟩ := digitChar_of_isDigit hc
    have hlonger : Nat.toDigits 10 (10 * before + (c.toNat - 48)) =
        Nat.toDigits 10 before ++ [c] := by
      rw [← Nat.toDigits_append_toDigits (by decide) h0 hlt, Nat.toDigits_of_lt_base hlt, hchar]
    rw [ofDigitChars_cons, ih (by omega) hrest, hlonger, List.append_assoc]
    rfl

/-- Only the decimal of zero begins with a zero. -/
theorem eq_zero_of_head?_toDigits (h : (Nat.toDigits 10 n).head? = some '0') : n = 0 := by
  induction n using Nat.strongRecOn with
  | _ n ih =>
    by_cases hlt : n < 10
    · rw [Nat.toDigits_of_lt_base hlt] at h
      simpa using h
    · rw [Nat.toDigits_of_base_le (by decide) (by omega), List.head?_append,
        List.head?_eq_some_head Nat.toDigits_ne_nil, Option.some_or,
        ← List.head?_eq_some_head] at h
      have := ih (n / 10) (by omega) h
      omega

theorem isPaddedNumber_digits (hd : ∀ c ∈ cs, c.isDigit) :
    isPaddedNumber cs ↔ cs.head? = some '0' ∧ cs ≠ ['0'] := by
  cases cs with
  | nil => simp [isPaddedNumber]
  | cons c rest =>
    obtain ⟨hc, hrest⟩ := List.forall_mem_cons.mp hd
    have hminus : c ≠ '-' := by rintro rfl; cases hc
    have hplus : c ≠ '+' := by rintro rfl; cases hc
    by_cases h0 : c = '0'
    · subst h0
      have hall : rest.all Char.isDigit = true := List.all_eq_true.mpr hrest
      simp [isPaddedNumber, hall]
    · simp [isPaddedNumber, hminus, hplus, h0]

/-- Digits are a decimal unless there is none, or a zero too many. -/
theorem toDigits_eq_iff (hd : ∀ c ∈ cs, c.isDigit) :
    Nat.toDigits 10 (Nat.ofDigitChars 10 cs 0) = cs ↔ cs ≠ [] ∧ ¬ isPaddedNumber cs := by
  rw [isPaddedNumber_digits hd]
  constructor
  · intro h
    refine ⟨h ▸ Nat.toDigits_ne_nil, fun ⟨hhead, hne⟩ => ?_⟩
    rw [← h] at hhead
    rw [eq_zero_of_head?_toDigits hhead, Nat.toDigits_zero] at h
    exact hne h.symm
  · rintro ⟨hne, hunpadded⟩
    cases cs with
    | nil => exact absurd rfl hne
    | cons c rest =>
      obtain ⟨hc, hrest⟩ := List.forall_mem_cons.mp hd
      obtain ⟨hlt, hchar⟩ := digitChar_of_isDigit hc
      by_cases h0 : c = '0'
      · have hsingle : c :: rest = ['0'] := by simpa [h0] using hunpadded
        rw [hsingle]
        rfl
      · have hpos : 0 < 10 * 0 + (c.toNat - 48) := by
          refine Nat.pos_of_ne_zero fun hzero => h0 ?_
          rw [← hchar, show c.toNat - 48 = 0 by omega]
          rfl
        rw [ofDigitChars_cons, toDigits_ofDigitChars hpos hrest, Nat.mul_zero, Nat.zero_add,
          Nat.toDigits_of_lt_base hlt, hchar]
        rfl

theorem splitBase?_digits (hd : ∀ c ∈ cs, c.isDigit) : splitBase? cs = none := by
  unfold splitBase?
  split
  · simp [Char.isDigit] at hd
  · simp [Char.isDigit] at hd
  · simp [Char.isDigit] at hd
  · rfl

/-- Digits have no sign and no mark of a base. -/
theorem readUnsigned?_eq (hd : ∀ c ∈ s.toList, c.isDigit) : readUnsigned? limit s =
    if isPaddedNumber s.toList then none else readDigits? 10 limit s.toList := by
  unfold readUnsigned?
  generalize s.toList = cs at hd
  cases cs with
  | nil => rfl
  | cons c rest =>
    have hplus : c ≠ '+' := by
      rintro rfl
      cases hd _ (List.mem_cons_self ..)
    simp [hplus, splitBase?_digits hd]

/-- A text that is made of digits spells a number just if it is the decimal of that, which is no
larger than the limit. -/
theorem readUnsigned?_digits (hd : ∀ c ∈ s.toList, c.isDigit) :
    readUnsigned? limit s = some n ↔ s = toString n ∧ n ≤ limit := by
  have htext : s = toString n ↔ Nat.toDigits 10 n = s.toList := by
    rw [Nat.toString_eq_ofList_toDigits, ← String.toList_inj, String.toList_ofList, eq_comm]
  rw [readUnsigned?_eq hd, htext]
  constructor
  · intro h
    split at h
    · cases h
    · rename_i hunpadded
      have hne : s.toList ≠ [] := by
        rintro hnil
        simp [hnil, readDigits?] at h
      rw [readDigits?_eq hne hd] at h
      obtain ⟨rfl, hle⟩ : Nat.ofDigitChars 10 s.toList 0 = n ∧ n ≤ limit := by
        simpa [Option.filter_eq_some_iff, and_comm] using h
      exact ⟨(toDigits_eq_iff hd).mpr ⟨hne, hunpadded⟩, hle⟩
  · rintro ⟨hdigits, hle⟩
    have hvalue : Nat.ofDigitChars 10 s.toList 0 = n := by
      rw [← hdigits, Nat.ofDigitChars_ten_toDigits]
    obtain ⟨hne, hunpadded⟩ := (toDigits_eq_iff hd).mp (by rw [hvalue, hdigits])
    rw [if_neg hunpadded, readDigits?_eq hne hd, hvalue]
    simpa using hle

/-- Every number that is not too large is read from its decimal. -/
theorem readUnsigned?_toString (hle : n ≤ limit) : readUnsigned? limit (toString n) = some n := by
  refine (readUnsigned?_digits ?_).mpr ⟨rfl, hle⟩
  rw [Nat.toString_eq_ofList_toDigits, String.toList_ofList]
  exact fun c => Nat.isDigit_of_mem_toDigits (by decide) (by decide)

end GitSteward.Yaml
