import DiceNotation.Proofs.Reading
import DiceNotation.Spec

set_option autoImplicit false

namespace DiceNotation

theorem bind_eq_ok_iff {ε α β : Type} {first : Except ε α} {next : α → Except ε β} {value : β} :
    first >>= next = .ok value ↔ ∃ middle, first = .ok middle ∧ next middle = .ok value := by
  cases first <;> simp [bind, Except.bind]

theorem mapError_eq_ok_iff {ε δ α : Type} {change : ε → δ} {result : Except ε α} {value : α} :
    result.mapError change = .ok value ↔ result = .ok value := by
  cases result <;> simp [Except.mapError]

namespace Reading

def literals (reading : Reading) : List (List Char) :=
  [reading.count, reading.faces, reading.threshold, reading.modifier]

def spec (reading : Reading) (code : String) (mode : Mode) : Spec :=
  let faces := Decimal.value reading.faces
  { code := code
    dice := if reading.count = [] then 1 else Decimal.value reading.count
    mode := mode
    faces := faces
    zeroBased := reading.faces.head? = some '0'
    threshold :=
      if reading.threshold ≠ [] then Decimal.value reading.threshold
      else if reading.letter ∈ ['k', 'K', 'n', 'N'] then 1
      else faces
    sign := if reading.fromSign.head? = some '-' then .minus else .plus
    modifier := Decimal.value reading.modifier }

end Reading

theorem Decimal.value_or_zero (run : List Char) :
    (if run = [] then 0 else Decimal.value run) = Decimal.value run := by
  by_cases empty : run = [] <;> simp [empty, Decimal.value]

theorem Token.numberOr_run? (absent start : Nat) (run : List Char) (number : Nat) :
    Token.numberOr absent (Token.run? start run) = .ok number ↔
      Decimal.value run ≤ largestNumber ∧
        number = if run = [] then absent else Decimal.value run := by
  by_cases empty : run = []
  · simp [Token.run?, empty, Token.numberOr, Decimal.value, eq_comm]
  · by_cases fits : Decimal.value run ≤ largestNumber <;>
      simp [Token.run?, empty, Token.numberOr, Token.number, fits, eq_comm]

namespace Reading

theorem zeroBased_outline (reading : Reading) :
    reading.outline.zeroBased = decide (reading.faces.head? = some '0') := by
  by_cases empty : reading.faces = [] <;> simp [Outline.zeroBased, outline, Token.run?, empty]

theorem sign_outline (reading : Reading) :
    reading.outline.sign = if reading.fromSign.head? = some '-' then .minus else .plus := by
  cases rest : reading.fromSign <;> simp [Outline.sign, outline, modifierAt, rest]

theorem modifier_outline (reading : Reading) :
    ∃ start, reading.outline.modifier.bind (·.digits) = Token.run? start reading.modifier := by
  cases rest : reading.fromSign with
  | nil => exact ⟨0, by simp [outline, modifierAt, modifier, rest, Token.run?]⟩
  | cons sign digits => exact ⟨_, by simp only [outline, modifierAt, modifier, rest]; rfl⟩

theorem mode_outline (reading : Reading) (mode : Mode) :
    reading.outline.mode = .ok mode ↔ reading.letter = mode.letter := by
  rw [← Mode.ofLetter?_eq_some_iff]
  cases found : Mode.ofLetter? reading.letter <;> simp [Outline.mode, outline, found]

theorem defaultThreshold_eq {reading : Reading} {mode : Mode} (faces : Nat)
    (known : reading.letter = mode.letter) :
    mode.defaultThreshold faces = if reading.letter ∈ ['k', 'K', 'n', 'N'] then 1 else faces := by
  rw [known]
  cases mode <;> rfl

theorem spec_eq {reading : Reading} {mode : Mode} (code : String)
    (known : reading.letter = mode.letter) :
    reading.spec code mode =
      { code := code
        dice := if reading.count = [] then 1 else Decimal.value reading.count
        mode := mode
        faces := Decimal.value reading.faces
        zeroBased := decide (reading.faces.head? = some '0')
        threshold :=
          if reading.threshold = [] then mode.defaultThreshold (Decimal.value reading.faces)
          else Decimal.value reading.threshold
        sign := if reading.fromSign.head? = some '-' then .minus else .plus
        modifier := Decimal.value reading.modifier } := by
  by_cases given : reading.threshold = [] <;> simp [spec, given, defaultThreshold_eq _ known]

end Reading

theorem Spec.ofOutline_eq_ok_iff (code : String) (reading : Reading) (spec : Spec) :
    Spec.ofOutline code reading.outline = .ok spec ↔
      ∃ mode : Mode, reading.letter = mode.letter ∧
        (∀ literal ∈ reading.literals, Decimal.value literal ≤ largestNumber) ∧
        spec = reading.spec code mode := by
  obtain ⟨start, digits⟩ := reading.modifier_outline
  rw [Spec.ofOutline]
  simp only [bind_eq_ok_iff, reading.mode_outline, digits, reading.zeroBased_outline,
    reading.sign_outline]
  simp only [Reading.outline, Token.numberOr_run?, Decimal.value_or_zero]
  constructor
  · rintro ⟨mode, known, dice, ⟨countFits, rfl⟩, faces, ⟨facesFit, rfl⟩, threshold,
      ⟨thresholdFits, rfl⟩, modifier, ⟨modifierFits, rfl⟩, read⟩
    refine ⟨mode, known, ?_, ?_⟩
    · simp [Reading.literals, countFits, facesFit, thresholdFits, modifierFits]
    · rw [← Except.ok.inj read, Reading.spec_eq code known]
  · rintro ⟨mode, known, fit, rfl⟩
    simp only [Reading.literals, List.forall_mem_cons] at fit
    obtain ⟨countFits, facesFit, thresholdFits, modifierFits, -⟩ := fit
    exact ⟨mode, known, _, ⟨countFits, rfl⟩, _, ⟨facesFit, rfl⟩, _, ⟨thresholdFits, rfl⟩, _,
      ⟨modifierFits, rfl⟩, congrArg Except.ok (Reading.spec_eq code known).symm⟩

theorem Mode.isAlpha_letter (mode : Mode) : mode.letter.isAlpha = true := by
  cases mode <;> rfl

theorem Sign.isSign_symbol (sign : Sign) : Reading.isSign sign.symbol = true := by
  cases sign <;> rfl

namespace Spec

variable {code : String} {spec : Spec}

theorem exists_reading_of_parse (read : parse code = .ok spec) :
    ∃ (reading : Reading) (mode : Mode), code.toList = reading.text ∧
      (∀ c ∈ reading.count, c.isDigit = true) ∧ reading.letter = mode.letter ∧
      (∀ literal ∈ reading.literals, Decimal.value literal ≤ largestNumber) ∧
      spec = reading.spec code mode := by
  rw [parse, mapError_eq_ok_iff, bind_eq_ok_iff, Outline.ofCode, Outline.ofTokens_scan] at read
  obtain ⟨outline, found, read⟩ := read
  cases cut : Reading.ofText code.toList with
  | error misfit => simp [cut, Except.map] at found
  | ok reading =>
    obtain ⟨whole, digits, -⟩ := (Reading.ofText_eq_ok_iff _ reading).mp cut
    obtain rfl : reading.outline = outline := by simpa [cut, Except.map] using found
    obtain ⟨mode, known, fit, same⟩ := (ofOutline_eq_ok_iff code reading spec).mp read
    exact ⟨reading, mode, whole, List.all_eq_true.mp digits, known, fit, same⟩

theorem parse_of_reading {reading : Reading} {mode : Mode} (whole : code.toList = reading.text)
    (digits : ∀ c ∈ reading.count, c.isDigit = true) (known : reading.letter = mode.letter)
    (fit : ∀ literal ∈ reading.literals, Decimal.value literal ≤ largestNumber) :
    parse code = .ok (reading.spec code mode) := by
  have cut := (Reading.ofText_eq_ok_iff code.toList reading).mpr
    ⟨whole, List.all_eq_true.mpr digits, known ▸ mode.isAlpha_letter⟩
  rw [parse, mapError_eq_ok_iff, bind_eq_ok_iff, Outline.ofCode, Outline.ofTokens_scan]
  refine ⟨reading.outline, by simp [cut, Except.map], ?_⟩
  exact (ofOutline_eq_ok_iff code reading _).mpr ⟨mode, known, fit, rfl⟩

theorem parse_eq_ok_iff (code : String) (spec : Spec) :
    parse code = .ok spec ↔
      ∃ (reading : Reading) (mode : Mode), code.toList = reading.text ∧
        (∀ c ∈ reading.count, c.isDigit = true) ∧ reading.letter = mode.letter ∧
        (∀ literal ∈ reading.literals, Decimal.value literal ≤ largestNumber) ∧
        spec = reading.spec code mode := by
  constructor
  · exact exists_reading_of_parse
  · rintro ⟨reading, mode, whole, digits, known, fit, rfl⟩
    exact parse_of_reading whole digits known fit

structure Bounded (spec : Spec) : Prop where
  dice_le : spec.dice ≤ largestNumber
  faces_le : spec.faces ≤ largestNumber
  threshold_le : spec.threshold ≤ largestNumber
  modifier_le : spec.modifier ≤ largestNumber

theorem bounded_of_parse (read : parse code = .ok spec) : spec.Bounded := by
  obtain ⟨reading, mode, -, -, -, fit, rfl⟩ := exists_reading_of_parse read
  simp only [Reading.literals, List.forall_mem_cons] at fit
  obtain ⟨countFits, facesFit, thresholdFits, modifierFits, -⟩ := fit
  have one : 1 ≤ largestNumber := by decide
  refine ⟨?_, facesFit, ?_, modifierFits⟩
  · dsimp only [Reading.spec]
    split <;> assumption
  · dsimp only [Reading.spec]
    split
    · exact thresholdFits
    · split <;> assumption

end Spec

end DiceNotation
