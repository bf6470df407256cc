import DiceNotation.Proofs.Validation
import DiceNotation.Roll

set_option autoImplicit false

namespace DiceNotation

open Reading

theorem Reading.clauses_of_runs {faces threshold modifier : List Char} (count : List Char)
    (letter : Char) (sign : Sign) (facesRun : ∀ c ∈ faces, c.isDigit = true)
    (thresholdRun : ∀ c ∈ threshold, c.isDigit = true)
    (modifierRun : ∀ c ∈ modifier, c.isDigit = true) :
    let reading : Reading :=
      ⟨count, letter, faces ++ '.' :: (threshold ++ sign.symbol :: modifier)⟩
    reading.faces = faces ∧ reading.threshold = threshold ∧
      reading.fromSign = sign.symbol :: modifier ∧ reading.modifier = modifier := by
  intro reading
  have marked := sign.isSign_symbol
  have boundary : ∀ c ∈ (sign.symbol :: modifier).head?, c.isDigit = false := by
    simpa using isDigit_eq_false_of_isSign marked
  have unsigned {run : List Char} (digits : ∀ c ∈ run, c.isDigit = true) :
      ∀ c ∈ run, (! isSign c) = true := fun c member => by
    simp [isSign_eq_false_of_isDigit (digits c member)]
  have behind : reading.fromSign = sign.symbol :: modifier := by
    rw [fromSign, List.dropWhile_append_of_pos (unsigned facesRun),
      List.dropWhile_cons_of_pos (by rfl), List.dropWhile_append_of_pos (unsigned thresholdRun),
      List.dropWhile_cons_of_neg (by simp [marked])]
  refine ⟨takeWhile_run facesRun (by simp), ?_, behind, ?_⟩
  · rw [Reading.threshold, dropWhile_run facesRun (by simp), dottedRun,
      takeWhile_run thresholdRun boundary]
  · rw [Reading.modifier, behind, List.tail_cons, List.takeWhile_eq_self_iff.mpr modifierRun]

namespace Spec

def faceText (spec : Spec) : List Char :=
  (if spec.zeroBased then ['0'] else []) ++ Decimal.digits spec.faces

def full (spec : Spec) : String :=
  String.ofList (Decimal.digits spec.dice ++ spec.mode.letter :: (spec.faceText ++
    '.' :: (Decimal.digits spec.threshold ++ spec.sign.symbol :: Decimal.digits spec.modifier)))

def fullReading (spec : Spec) : Reading :=
  { count := Decimal.digits spec.dice
    letter := spec.mode.letter
    tail := spec.faceText ++
      '.' :: (Decimal.digits spec.threshold ++ spec.sign.symbol :: Decimal.digits spec.modifier) }

variable {code : String} {spec : Spec}

theorem fullReading_cuts (spec : Spec) : spec.fullReading.Cuts spec.full :=
  ⟨String.toList_ofList, fun _ => Decimal.isDigit_of_mem_digits, spec.mode.isAlpha_letter⟩

theorem isDigit_of_mem_faceText {c : Char} (member : c ∈ spec.faceText) : c.isDigit = true := by
  rw [faceText, List.mem_append] at member
  cases member with
  | inl zero =>
    split at zero
    · rw [List.mem_singleton.mp zero]
      rfl
    · contradiction
  | inr digit => exact Decimal.isDigit_of_mem_digits digit

theorem value_faceText (spec : Spec) : Decimal.value spec.faceText = spec.faces := by
  rw [faceText]
  split <;> simp

theorem head?_faceText (shown : spec.zeroBased = true ∨ 1 ≤ spec.faces) :
    decide (spec.faceText.head? = some '0') = spec.zeroBased := by
  rw [faceText]
  cases zero : spec.zeroBased with
  | true => rfl
  | false =>
    have positive : 0 < spec.faces := by simpa [zero, Nat.succ_le_iff] using shown
    simpa using Decimal.head?_digits_ne_zero positive

theorem clauses_fullReading (spec : Spec) :
    spec.fullReading.faces = spec.faceText ∧
      spec.fullReading.threshold = Decimal.digits spec.threshold ∧
      spec.fullReading.fromSign = spec.sign.symbol :: Decimal.digits spec.modifier ∧
      spec.fullReading.modifier = Decimal.digits spec.modifier :=
  Reading.clauses_of_runs _ _ _ (fun _ => isDigit_of_mem_faceText)
    (fun _ => Decimal.isDigit_of_mem_digits) (fun _ => Decimal.isDigit_of_mem_digits)

theorem spec_fullReading (shown : spec.zeroBased = true ∨ 1 ≤ spec.faces) :
    spec.fullReading.spec spec.full spec.mode = { spec with code := spec.full } := by
  obtain ⟨faces, threshold, fromSign, modifier⟩ := spec.clauses_fullReading
  have counted : spec.fullReading.count = Decimal.digits spec.dice := rfl
  have sign : (if spec.sign.symbol = '-' then Sign.minus else Sign.plus) = spec.sign := by
    cases spec.sign <;> rfl
  rw [Reading.spec_eq spec.full rfl, faces, threshold, fromSign, modifier, counted,
    head?_faceText shown]
  simp [Decimal.digits_ne_nil, value_faceText, sign]

theorem parse_full (bounded : spec.Bounded) (shown : spec.zeroBased = true ∨ 1 ≤ spec.faces) :
    parse spec.full = .ok { spec with code := spec.full } := by
  obtain ⟨faces, threshold, fromSign, modifier⟩ := spec.clauses_fullReading
  have counted : spec.fullReading.count = Decimal.digits spec.dice := rfl
  have cuts := spec.fullReading_cuts
  rw [← spec_fullReading shown]
  refine parse_of_reading cuts.whole cuts.digits rfl ?_
  simpa [Reading.literals, counted, faces, threshold, modifier, value_faceText] using
    ⟨bounded.dice_le, bounded.faces_le, bounded.threshold_le, bounded.modifier_le⟩

theorem shown_of_faces {reading : Reading} (given : reading.faces ≠ []) (mode : Mode) :
    (reading.spec code mode).zeroBased = true ∨ 1 ≤ (reading.spec code mode).faces := by
  by_cases zero : Decimal.value reading.faces = 0
  · have zeros := (Decimal.value_eq_zero_iff fun c => @isDigit_of_mem_faces reading c).mp zero
    obtain ⟨first, rest, faces⟩ := List.exists_cons_of_ne_nil given
    left
    simp [Reading.spec, faces, zeros first (by simp [faces])]
  · exact .inr (Nat.one_le_iff_ne_zero.mpr zero)

theorem validate_full {reading : Reading} {mode : Mode} (cuts : reading.Cuts code)
    (valid : (reading.spec code mode).validate = .ok ()) :
    let spec := reading.spec code mode
    Spec.validate { spec with code := spec.full } = .ok () := by
  intro spec
  obtain ⟨short, -, rules⟩ := cuts.validate_eq_ok_iff.mp valid
  have again : spec.fullReading.Cuts (Spec.code { spec with code := spec.full }) :=
    spec.fullReading_cuts
  have faced : spec.fullReading.faces ≠ [] := by
    rw [spec.clauses_fullReading.1, faceText]
    simp [Decimal.digits_ne_nil]
  have counted : (Decimal.digits spec.dice).length ≤ 2 :=
    (Decimal.length_digits_le_two_iff _).mpr (cuts.dice_lt_hundred short mode)
  exact again.validate_eq_ok_iff.mpr ⟨counted, faced, rules⟩

theorem full_keeps_meaning (read : parse code = .ok spec) :
    ∃ reading : Reading, reading.Cuts code ∧ (spec.validate = .ok () → reading.faces ≠ []) ∧
      (reading.faces ≠ [] → ∃ again, parse spec.full = .ok again ∧
        again = { spec with code := spec.full } ∧ again.full = spec.full ∧
        (spec.validate = .ok () → again.validate = .ok () ∧
          ∀ (limits : Limits) (source : WordSource) (position : Nat),
            let drawn := (spec.roll limits).run source position
            let redrawn := (again.roll limits).run source position
            ∃ outcome, drawn.value = .ok outcome ∧ redrawn.value = .ok outcome ∧
              redrawn.position = drawn.position)) := by
  have bounded := bounded_of_parse read
  obtain ⟨reading, mode, cuts, -, -, rfl⟩ := exists_cuts_of_parse read
  refine ⟨reading, cuts, fun valid => (cuts.validate_eq_ok_iff.mp valid).2.1, ?_⟩
  intro given
  refine ⟨_, parse_full bounded (shown_of_faces given mode), rfl, rfl, ?_⟩
  intro valid
  have again := validate_full cuts valid
  refine ⟨again, ?_⟩
  intro limits source position
  rw [run_roll_of_ok valid, run_roll_of_ok again]
  exact ⟨_, rfl, rfl, rfl⟩

theorem full_keeps_zero_based_dice :
    let spec : Spec := ⟨"x06", 1, .explode, 6, true, 6, .plus, 0⟩
    parse "x06" = .ok spec ∧
      parse "1x06.6+0" = .ok { spec with code := "1x06.6+0" } := by
  intro spec
  have read : parse "x06" = .ok spec := by rfl
  have valid : spec.validate = .ok () := by decide
  have written : spec.full = "1x06.6+0" := by decide
  obtain ⟨reading, -, faced, rewritten⟩ := full_keeps_meaning read
  obtain ⟨again, reread, rfl, -⟩ := rewritten (faced valid)
  rw [written] at reread
  exact ⟨read, reread⟩

end Spec

end DiceNotation
