/-!
# Text/Numeral — decimal numerals without leading zeros

`numeral?` reads a natural number from decimal digits.  `numeral?_eq_some_iff` says that it accepts
exactly what `Nat.toDigits 10` writes, so every number has one numeral.
-/

namespace AsmForms

/-- Reads a decimal numeral.  Zero is `0`; no other numeral begins with that digit. -/
def numeral? : List Char → Option Nat
  | [] => none
  | '0' :: rest => if rest = [] then some 0 else none
  | digits => if digits.all Char.isDigit then some (Nat.ofDigitChars 10 digits 0) else none

theorem numeral?_cons {c : Char} (h : c ≠ '0') (rest : List Char) :
    numeral? (c :: rest) =
      if (c :: rest).all Char.isDigit then some (Nat.ofDigitChars 10 (c :: rest) 0) else none := by
  rw [numeral?]
  · simp
  · simpa using h

/-- The character of a digit is one of the ten. -/
theorem exists_digitChar_of_isDigit {c : Char} (h : c.isDigit = true) :
    ∃ d < 10, c = Nat.digitChar d ∧ c.toNat - '0'.toNat = d := by
  have low : 48 ≤ c.toNat ∧ c.toNat ≤ 57 := by
    simp only [Char.isDigit, ge_iff_le, Bool.and_eq_true, decide_eq_true_eq] at h
    exact h
  refine ⟨c.toNat - 48, by omega, ?_, rfl⟩
  have table : ∀ d < 10, Char.ofNat (48 + d) = Nat.digitChar d := by decide
  rw [← table _ (by omega), show 48 + (c.toNat - 48) = c.toNat by omega, Char.ofNat_toNat]

/-- Further digits extend the numeral of a positive number. -/
theorem toDigits_append_digits {digits : List Char} (h : ∀ c ∈ digits, c.isDigit = true) {n : Nat}
    (hn : 0 < n) :
    Nat.toDigits 10 n ++ digits = Nat.toDigits 10 (Nat.ofDigitChars 10 digits n) := by
  induction digits generalizing n with
  | nil => simp
  | cons c digits ih =>
    obtain ⟨d, hd, hc, hval⟩ := exists_digitChar_of_isDigit (h c (by simp))
    rw [Nat.ofDigitChars_cons, hval, ← ih (fun x hx => h x (by simp [hx])) (by omega),
      ← Nat.toDigits_append_toDigits (by decide) hn hd, Nat.toDigits_of_lt_base hd, hc]
    simp

/-- The numeral of a positive number does not begin with a zero. -/
theorem head?_toDigits_ne {n : Nat} (hn : 0 < n) : (Nat.toDigits 10 n).head? ≠ some '0' := by
  induction n using Nat.strongRecOn with
  | ind n ih =>
    rw [Nat.toDigits_eq_if (by decide)]
    split
    next hlt =>
      have table : ∀ d < 10, 0 < d → [Nat.digitChar d].head? ≠ some '0' := by decide
      exact table n hlt hn
    next hge =>
      obtain ⟨c, rest, hd⟩ := List.exists_cons_of_ne_nil
        (Nat.toDigits_ne_nil (n := n / 10) (b := 10))
      have hfirst := ih (n / 10) (by omega) (by omega)
      rw [hd] at hfirst ⊢
      exact hfirst

/-- **A number has exactly one numeral**, the one its decimal digits spell. -/
theorem numeral?_eq_some_iff {digits : List Char} {n : Nat} :
    numeral? digits = some n ↔ digits = Nat.toDigits 10 n := by
  constructor
  · intro h
    match digits with
    | [] => simp [numeral?] at h
    | c :: rest =>
      by_cases hc : c = '0'
      · subst hc
        simp only [numeral?] at h
        split at h
        next hrest =>
          obtain rfl := Option.some.inj h
          rw [hrest, Nat.toDigits_zero]
        next => simp at h
      · rw [numeral?_cons hc] at h
        split at h
        next hall =>
          simp only [List.all_cons, Bool.and_eq_true, List.all_eq_true] at hall
          obtain ⟨d, hd, hcd, hval⟩ := exists_digitChar_of_isDigit hall.1
          have hpos : 0 < d := by
            refine Nat.pos_of_ne_zero fun h0 => hc ?_
            rw [hcd, h0]
            rfl
          obtain rfl := Option.some.inj h
          rw [Nat.ofDigitChars_cons, hval, Nat.mul_zero, Nat.zero_add,
            ← toDigits_append_digits hall.2 hpos, Nat.toDigits_of_lt_base hd, ← hcd]
          rfl
        next => simp at h
  · rintro rfl
    rcases Nat.eq_zero_or_pos n with rfl | hn
    · rw [Nat.toDigits_zero]
      rfl
    · have hhead := head?_toDigits_ne hn
      have hval : Nat.ofDigitChars 10 (Nat.toDigits 10 n) 0 = n := Nat.ofDigitChars_ten_toDigits
      have hall : ∀ c ∈ Nat.toDigits 10 n, c.isDigit = true := fun c =>
        Nat.isDigit_of_mem_toDigits (by decide) (by decide)
      obtain ⟨c, rest, hd⟩ := List.exists_cons_of_ne_nil (Nat.toDigits_ne_nil (n := n) (b := 10))
      rw [hd] at hhead hval hall ⊢
      rw [numeral?_cons (fun hc => hhead (by rw [hc]; rfl)), if_pos (List.all_eq_true.mpr hall),
        hval]

end AsmForms
