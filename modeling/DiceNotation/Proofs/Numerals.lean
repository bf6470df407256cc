import DiceNotation.Decimal

set_option autoImplicit false

namespace DiceNotation.Decimal

theorem value_cons (c : Char) (rest : List Char) :
    value (c :: rest) = Nat.ofDigitChars 10 rest (c.toNat - '0'.toNat) := by
  simp [value, Nat.ofDigitChars_cons]

@[simp] theorem value_zero_cons (rest : List Char) : value ('0' :: rest) = value rest :=
  value_cons '0' rest

theorem toNat_of_isDigit {c : Char} (digit : c.isDigit = true) :
    '0'.toNat ≤ c.toNat ∧ c.toNat ≤ '9'.toNat := by
  simpa [Char.isDigit, UInt32.le_iff_toNat_le] using digit

theorem value_eq_zero_iff {run : List Char} (digits : ∀ c ∈ run, c.isDigit = true) :
    value run = 0 ↔ ∀ c ∈ run, c = '0' := by
  induction run with
  | nil => simp [value]
  | cons c rest ih =>
    have later := ih fun other member => digits other (by simp [member])
    have low := (toNat_of_isDigit (digits c (by simp))).1
    have first : c.toNat - '0'.toNat = 0 ↔ c = '0' := by
      rw [← Char.toNat_inj]
      omega
    rw [value_cons, Nat.ofDigitChars_eq_ofDigitChars_zero, Nat.add_eq_zero_iff, ← value, later,
      Nat.mul_eq_zero, first]
    simp

theorem value_lt_hundred {run : List Char} (digits : ∀ c ∈ run, c.isDigit = true)
    (short : run.length ≤ 2) : value run < 100 := by
  have digit (c : Char) (member : c ∈ run) := (toNat_of_isDigit (digits c member)).2
  match run with
  | [] => simp [value]
  | [c] =>
    have first := digit c (by simp)
    simp at first
    simp [value_cons]
    omega
  | [c, d] =>
    have first := digit c (by simp)
    have second := digit d (by simp)
    simp at first second
    simp [value_cons, Nat.ofDigitChars_cons]
    omega

theorem length_digits_le_two_iff (n : Nat) : (digits n).length ≤ 2 ↔ n < 100 :=
  Nat.length_toDigits_le_iff (by decide) (by decide)

theorem head?_digits_ne_zero {n : Nat} (positive : 0 < n) : (digits n).head? ≠ some '0' := by
  induction n using Nat.strongRecOn with
  | ind n ih =>
    by_cases single : n < 10
    · rw [digits, Nat.toDigits_of_lt_base single]
      have zero := Nat.toNat_digitChar_of_lt_ten single
      intro same
      simp at same
      rw [same] at zero
      simp at zero
      omega
    · have front := ih (n / 10) (by omega) (by omega)
      obtain ⟨first, rest, leading⟩ := List.exists_cons_of_ne_nil (digits_ne_nil (n / 10))
      rw [leading] at front
      rw [digits, Nat.toDigits_of_base_le (by decide) (Nat.not_lt.mp single), ← digits, leading]
      simpa using front

end DiceNotation.Decimal
