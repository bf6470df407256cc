import DiceNotation.Proofs.Numerals
import DiceNotation.Proofs.Parse

set_option autoImplicit false

namespace DiceNotation

open Text

structure Reading.Cuts (reading : Reading) (code : String) : Prop where
  whole : code.toList = reading.text
  digits : ∀ c ∈ reading.count, c.isDigit = true
  letter : reading.letter.isAlpha = true

structure Rule where
  kept : Bool
  error : CodeError

namespace Reading

variable {reading other : Reading} {code : String} {mode : Mode}

theorem utf8Size_of_isAlpha {c : Char} (letter : c.isAlpha = true) : c.utf8Size = 1 := by
  have range := toNat_of_isAlpha letter
  simp at range
  rw [Char.utf8Size_eq_one_iff, UInt32.le_iff_toNat_le]
  change c.toNat ≤ 127
  omega

theorem cuts_iff : reading.Cuts code ↔ ofText code.toList = .ok reading := by
  rw [ofText_eq_ok_iff, List.all_eq_true]
  exact ⟨fun cuts => ⟨cuts.whole, cuts.digits, cuts.letter⟩,
    fun ⟨whole, digits, letter⟩ => ⟨whole, digits, letter⟩⟩

theorem Cuts.unique (first : reading.Cuts code) (second : other.Cuts code) : other = reading := by
  rw [cuts_iff] at first second
  exact Except.ok.inj (second.symm.trans first)

theorem Cuts.outline (cuts : reading.Cuts code) : Outline.ofCode code = .ok reading.outline := by
  rw [Outline.ofCode, Outline.ofTokens_scan, cuts_iff.mp cuts]
  rfl

theorem checkShape_outline (reading : Reading) :
    reading.outline.checkShape =
      if 2 < reading.count.length then
        .error ⟨.countTooLong, ⟨0, byteLength reading.count⟩⟩
      else if reading.faces = [] then
        .error ⟨.missingFaces,
          ⟨byteLength reading.count, byteLength reading.count + reading.letter.utf8Size⟩⟩
      else .ok () := by
  have counted : (Token.run? 0 reading.count).filter (2 < ·.text.length) =
      if 2 < reading.count.length then some ⟨.digits, reading.count, 0⟩ else none := by
    by_cases empty : reading.count = [] <;> simp [Token.run?, empty, Option.filter]
  simp only [Outline.checkShape, outline, counted]
  by_cases long : 2 < reading.count.length
  · simp [long, Token.span]
  · by_cases empty : reading.faces = [] <;> simp [long, empty, Token.run?, Token.span, byteLength]

-- In the order in which they are checked: a code that breaks several is told the first.
def rules (reading : Reading) (spec : Spec) : List Rule :=
  let letterStart := byteLength reading.count
  [⟨reading.count.length ≤ 2, .malformed spec.code ⟨.countTooLong, ⟨0, letterStart⟩⟩⟩,
    ⟨reading.faces ≠ [],
      .malformed spec.code ⟨.missingFaces, ⟨letterStart, letterStart + 1⟩⟩⟩,
    ⟨1 ≤ spec.faces, .degenerate spec.code .zeroFaces⟩,
    ⟨1 ≤ spec.threshold, .degenerate spec.code .zeroThreshold⟩,
    ⟨1 ≤ spec.dice, .degenerate spec.code .zeroDice⟩,
    ⟨spec.zeroBased || 2 ≤ spec.faces, .degenerate spec.code .singleFace⟩,
    ⟨spec.zeroBased || spec.mode.isKeep || 2 ≤ spec.threshold,
      .degenerate spec.code .thresholdOfOne⟩]

theorem Cuts.checkShape_eq {spec : Spec} (cuts : reading.Cuts spec.code) :
    spec.checkShape =
      if 2 < reading.count.length then
        .error (.malformed spec.code ⟨.countTooLong, ⟨0, byteLength reading.count⟩⟩)
      else if reading.faces = [] then
        .error (.malformed spec.code
          ⟨.missingFaces, ⟨byteLength reading.count, byteLength reading.count + 1⟩⟩)
      else .ok () := by
  have shape : spec.checkShape =
      reading.outline.checkShape.mapError (.malformed spec.code) := by
    rw [Spec.checkShape, cuts.outline]
    rfl
  rw [shape, checkShape_outline, utf8Size_of_isAlpha cuts.letter]
  split_ifs <;> rfl

theorem Cuts.validate_eq_ite {spec : Spec} (cuts : reading.Cuts spec.code) :
    spec.validate =
      if 2 < reading.count.length then
        .error (.malformed spec.code ⟨.countTooLong, ⟨0, byteLength reading.count⟩⟩)
      else if reading.faces = [] then
        .error (.malformed spec.code
          ⟨.missingFaces, ⟨byteLength reading.count, byteLength reading.count + 1⟩⟩)
      else
        match spec.degeneracy? with
        | some reason => .error (.degenerate spec.code reason)
        | none => .ok () := by
  rw [Spec.validate, cuts.checkShape_eq]
  split_ifs <;> rfl

theorem Cuts.validate_eq {spec : Spec} (cuts : reading.Cuts spec.code) :
    spec.validate =
      match (reading.rules spec).find? (! ·.kept) with
      | some rule => .error rule.error
      | none => .ok () := by
  rw [cuts.validate_eq_ite, Spec.degeneracy?]
  split_ifs <;> simp_all [rules]

theorem Cuts.validate_eq_ok_iff {spec : Spec} (cuts : reading.Cuts spec.code) :
    spec.validate = .ok () ↔
      reading.count.length ≤ 2 ∧ reading.faces ≠ [] ∧ 1 ≤ spec.faces ∧ 1 ≤ spec.threshold ∧
        1 ≤ spec.dice ∧
        (spec.zeroBased = true ∨
          2 ≤ spec.faces ∧ (spec.mode = .keepHighest ∨ spec.mode = .keepLowest ∨
            2 ≤ spec.threshold)) := by
  have accepted : spec.validate = .ok () ↔ ∀ rule ∈ reading.rules spec, rule.kept = true := by
    rw [cuts.validate_eq]
    cases broken : (reading.rules spec).find? (! ·.kept) with
    | none => simpa using broken
    | some rule =>
      have breaks := List.find?_some broken
      simp only [Bool.not_eq_true'] at breaks
      simpa using ⟨rule, List.mem_of_find?_eq_some broken, breaks⟩
  have keeps : spec.mode.isKeep = true ↔ spec.mode = .keepHighest ∨ spec.mode = .keepLowest := by
    cases spec.mode <;> simp [Mode.isKeep]
  simp [accepted, rules, keeps, or_assoc, ← or_and_left]

theorem Cuts.validate_eq_malformed_iff {spec : Spec} (cuts : reading.Cuts spec.code)
    (broken : String) (misfit : Misfit) :
    spec.validate = .error (.malformed broken misfit) ↔
      broken = spec.code ∧
        (2 < reading.count.length ∧ misfit = ⟨.countTooLong, ⟨0, byteLength reading.count⟩⟩ ∨
          reading.count.length ≤ 2 ∧ reading.faces = [] ∧
            misfit = ⟨.missingFaces,
              ⟨byteLength reading.count, byteLength reading.count + 1⟩⟩) := by
  rw [cuts.validate_eq_ite, @eq_comm _ broken, @eq_comm _ misfit, @eq_comm _ misfit]
  split_ifs with long unfaced
  · simp [long, Nat.not_le.mpr long]
  · simp [Nat.not_lt.mp long, long, unfaced]
  · cases spec.degeneracy? <;> simp [long, unfaced]

theorem Cuts.validate_eq_zeroFaces_iff {spec : Spec} (cuts : reading.Cuts spec.code) :
    spec.validate = .error (.degenerate spec.code .zeroFaces) ↔
      reading.count.length ≤ 2 ∧ reading.faces ≠ [] ∧ spec.faces = 0 := by
  have degenerate : spec.degeneracy? = some .zeroFaces ↔ spec.faces = 0 := by
    rw [Spec.degeneracy?]
    split_ifs <;> simp_all
  rw [cuts.validate_eq_ite, ← degenerate]
  split_ifs with long unfaced
  · simp [Nat.not_le.mpr long]
  · simp [unfaced]
  · cases spec.degeneracy? <;> simp [Nat.not_lt.mp long, unfaced]

theorem Cuts.dice_lt_hundred (cuts : reading.Cuts code) (short : reading.count.length ≤ 2)
    (mode : Mode) : (reading.spec code mode).dice < 100 := by
  dsimp only [Reading.spec]
  split
  · decide
  · exact Decimal.value_lt_hundred cuts.digits short

theorem isDigit_of_mem_faces {c : Char} (member : c ∈ reading.faces) : c.isDigit = true :=
  List.mem_takeWhile_imp member

end Reading

theorem Die.min_lt_max {die : Die} (some_face : 1 ≤ die.faces)
    (enough : die.zeroBased = true ∨ 2 ≤ die.faces) : die.min < die.max := by
  have covered : die.faces ≤ die.max := Nat.le_max_left ..
  rw [Die.min]
  split
  · omega
  · simp_all
    omega

theorem Die.min_lt_iff {die : Die} {threshold : Nat} :
    die.min < threshold ↔ 1 ≤ threshold ∧ (die.zeroBased = true ∨ 2 ≤ threshold) := by
  rw [Die.min]
  cases die.zeroBased <;> simp <;> omega

namespace Spec

variable {code : String} {spec : Spec}

theorem exists_cuts_of_parse (read : parse code = .ok spec) :
    ∃ (reading : Reading) (mode : Mode), reading.Cuts code ∧ reading.letter = mode.letter ∧
      (∀ literal ∈ reading.literals, Decimal.value literal ≤ largestNumber) ∧
      spec = reading.spec code mode := by
  obtain ⟨reading, mode, whole, digits, known, fit, same⟩ := exists_reading_of_parse read
  exact ⟨reading, mode, ⟨whole, digits, known ▸ mode.isAlpha_letter⟩, known, fit, same⟩

theorem degeneracy?_of_valid (valid : spec.validate = .ok ()) : spec.degeneracy? = none := by
  rw [validate, bind_eq_ok_iff] at valid
  obtain ⟨-, -, sound⟩ := valid
  cases found : spec.degeneracy? with
  | none => rfl
  | some reason => simp [found] at sound

theorem degeneracy?_eq_none_iff :
    spec.degeneracy? = none ↔
      1 ≤ spec.faces ∧ 1 ≤ spec.threshold ∧ 1 ≤ spec.dice ∧
        (spec.zeroBased = true ∨
          2 ≤ spec.faces ∧ (spec.mode.isKeep = true ∨ 2 ≤ spec.threshold)) := by
  rw [degeneracy?]
  split_ifs <;> grind

theorem faces_pos_of_valid (valid : spec.validate = .ok ()) : 1 ≤ spec.faces :=
  (degeneracy?_eq_none_iff.mp (degeneracy?_of_valid valid)).1

theorem dice_pos_of_valid (valid : spec.validate = .ok ()) : 1 ≤ spec.dice :=
  (degeneracy?_eq_none_iff.mp (degeneracy?_of_valid valid)).2.2.1

theorem min_lt_threshold_of_valid (valid : spec.validate = .ok ())
    (counted : spec.mode.isKeep = false) : spec.die.min < spec.threshold := by
  obtain ⟨-, positive, -, floor⟩ := degeneracy?_eq_none_iff.mp (degeneracy?_of_valid valid)
  refine Die.min_lt_iff.mpr ⟨positive, ?_⟩
  exact floor.imp_right fun enough => by simpa [counted] using enough.2

theorem dice_le_of_valid (read : parse code = .ok spec)
    (valid : spec.validate = .ok ()) : spec.dice ≤ 99 := by
  obtain ⟨reading, mode, cuts, -, -, rfl⟩ := exists_cuts_of_parse read
  obtain ⟨short, -⟩ := cuts.validate_eq_ok_iff.mp valid
  exact Nat.le_of_lt_succ (cuts.dice_lt_hundred short mode)

theorem validate_finds_first_broken_rule (read : parse code = .ok spec) :
    ∃ reading : Reading, reading.Cuts code ∧
      (spec.validate = .ok () ↔
        reading.count.length ≤ 2 ∧ reading.faces ≠ [] ∧ 1 ≤ spec.faces ∧ 1 ≤ spec.threshold ∧
          1 ≤ spec.dice ∧
          (spec.zeroBased = true ∨
            2 ≤ spec.faces ∧ (spec.mode = .keepHighest ∨ spec.mode = .keepLowest ∨
              2 ≤ spec.threshold))) ∧
      (∀ error, spec.validate = .error error ↔
        ∃ rule, (reading.rules spec).find? (! ·.kept) = some rule ∧ rule.error = error) ∧
      (∃ outline, Outline.ofCode spec.code = .ok outline) ∧
      (spec.validate = .error (.degenerate code .zeroFaces) ↔
        reading.count.length ≤ 2 ∧ reading.faces ≠ [] ∧ ∀ c ∈ reading.faces, c = '0') ∧
      (spec.validate = .ok () → 1 ≤ spec.dice ∧ spec.dice ≤ 99 ∧ spec.die.min < spec.die.max) := by
  obtain ⟨reading, mode, cuts, -, -, rfl⟩ := exists_cuts_of_parse read
  have zeros := Decimal.value_eq_zero_iff fun c => @Reading.isDigit_of_mem_faces reading c
  refine ⟨reading, cuts, cuts.validate_eq_ok_iff, ?_, ⟨_, cuts.outline⟩, ?_, ?_⟩
  · intro error
    rw [Reading.Cuts.validate_eq cuts]
    cases (reading.rules (reading.spec code mode)).find? (! ·.kept) <;> simp
  · rw [← zeros]
    exact cuts.validate_eq_zeroFaces_iff
  · intro valid
    obtain ⟨short, -, some_face, -, some_die, enough⟩ := cuts.validate_eq_ok_iff.mp valid
    exact ⟨some_die, Nat.le_of_lt_succ (cuts.dice_lt_hundred short mode),
      Die.min_lt_max some_face (enough.imp_right (·.1))⟩

theorem validate_refuses_zero_threshold_first :
    let spec : Spec := ⟨"0d1.0", 0, .sum, 1, false, 0, .plus, 0⟩
    parse "0d1.0" = .ok spec ∧
      spec.validate = .error (.degenerate "0d1.0" .zeroThreshold) := by
  intro spec
  have read : parse "0d1.0" = .ok spec := by rfl
  obtain ⟨reading, cuts, -, refused, -⟩ := validate_finds_first_broken_rule read
  have here : Reading.Cuts ⟨['0'], 'd', ['1', '.', '0']⟩ "0d1.0" :=
    ⟨rfl, List.forall_mem_singleton.mpr rfl, rfl⟩
  obtain rfl := here.unique cuts
  exact ⟨read, (refused _).mpr ⟨_, rfl, rfl⟩⟩

end Spec

end DiceNotation
