import DiceNotation.Proofs.Validation
import DiceNotation.Roll

set_option autoImplicit false

namespace DiceNotation

open Reading

def CodeError.about (code : String) : CodeError → CodeError
  | .malformed _ misfit => .malformed code misfit
  | .degenerate _ reason => .degenerate code reason

namespace Reading

def extend (reading : Reading) (more : List Char) : Reading :=
  { reading with tail := reading.tail ++ more }

variable {reading other : Reading} {code : String} {more : List Char}

@[simp] theorem count_extend (reading : Reading) (more : List Char) :
    (reading.extend more).count = reading.count := rfl

@[simp] theorem letter_extend (reading : Reading) (more : List Char) :
    (reading.extend more).letter = reading.letter := rfl

theorem Cuts.extend (cuts : reading.Cuts code) (more : String) :
    (reading.extend more.toList).Cuts (code ++ more) :=
  ⟨by simp [cuts.whole, Reading.text, Reading.extend], cuts.digits, cuts.letter⟩

theorem Cuts.sign_in_tail (cuts : reading.Cuts code) (signed : ∃ c ∈ code.toList, isSign c = true) :
    ∃ c ∈ reading.tail, isSign c = true := by
  obtain ⟨c, member, sign⟩ := signed
  rw [cuts.whole, Reading.text] at member
  rcases List.mem_append.mp member with inCount | inRest
  · simpa [isDigit_eq_false_of_isSign sign] using cuts.digits c inCount
  · rcases List.mem_cons.mp inRest with rfl | inTail
    · simpa [isAlpha_eq_false_of_isSign sign] using cuts.letter
    · exact ⟨c, inTail, sign⟩

theorem faces_extend (reading : Reading) (boundary : ∀ c ∈ more.head?, c.isDigit = false) :
    (reading.extend more).faces = reading.faces :=
  takeWhile_append_of_head reading.tail boundary

theorem threshold_extend (reading : Reading)
    (boundary : ∀ c ∈ more.head?, c.isDigit = false ∧ c ≠ '.') :
    (reading.extend more).threshold = reading.threshold := by
  rw [threshold, extend, dropWhile_append_of_head reading.tail fun c first => (boundary c first).1,
    dottedRun_append_of_head _ boundary]
  rfl

theorem fromSign_eq_nil (unsigned : ∀ c ∈ reading.tail, isSign c = false) :
    reading.fromSign = [] :=
  List.dropWhile_eq_nil_iff.mpr fun c member => by simp [unsigned c member]

theorem fromSign_extend_of_unsigned (unsigned : ∀ c ∈ reading.tail, isSign c = false) :
    (reading.extend more).fromSign = more.dropWhile (! isSign ·) := by
  rw [fromSign, extend, List.dropWhile_append_of_pos fun c member => by simp [unsigned c member]]

theorem fromSign_extend_of_signed (signed : ∃ c ∈ reading.tail, isSign c = true)
    (more : List Char) :
    ∃ sign rest, reading.fromSign = sign :: rest ∧
      (reading.extend more).fromSign = sign :: (rest ++ more) := by
  obtain ⟨c, member, sign⟩ := signed
  have some_sign : reading.fromSign ≠ [] := by
    intro empty
    simpa [sign] using List.dropWhile_eq_nil_iff.mp empty c member
  obtain ⟨first, rest, found⟩ := List.exists_cons_of_ne_nil some_sign
  refine ⟨first, rest, found, ?_⟩
  rw [fromSign, extend, List.dropWhile_append, ← fromSign, found]
  rfl

theorem modifier_extend (reading : Reading) (boundary : ∀ c ∈ more.head?, c.isDigit = false)
    (unsigned : (∃ c ∈ reading.tail, isSign c = true) ∨ ∀ c ∈ more, isSign c = false) :
    (reading.extend more).fromSign.head? = reading.fromSign.head? ∧
      (reading.extend more).modifier = reading.modifier := by
  by_cases signed : ∃ c ∈ reading.tail, isSign c = true
  · obtain ⟨sign, rest, found, behind⟩ := fromSign_extend_of_signed signed more
    rw [modifier, modifier, behind, found, List.tail_cons, List.tail_cons,
      takeWhile_append_of_head rest boundary]
    exact ⟨rfl, rfl⟩
  · have plain : ∀ c ∈ reading.tail, isSign c = false := by simpa using signed
    have later : more.dropWhile (! isSign ·) = [] :=
      List.dropWhile_eq_nil_iff.mpr fun c member => by
        simp [unsigned.resolve_left signed c member]
    rw [modifier, modifier, fromSign_extend_of_unsigned plain, fromSign_eq_nil plain, later]
    exact ⟨rfl, rfl⟩

theorem Cuts.validate_about (spec : Spec) {again : Spec} (cuts : reading.Cuts spec.code)
    (others : other.Cuts again.code) (count : other.count = reading.count)
    (faces : other.faces = reading.faces) (numbers : again.degeneracy? = spec.degeneracy?) :
    again.validate = spec.validate.mapError (·.about again.code) := by
  rw [cuts.validate_eq_ite, others.validate_eq_ite, count, faces, numbers]
  split_ifs with long unfaced
  · rfl
  · rfl
  · cases spec.degeneracy? <;> rfl

end Reading

namespace Spec

variable {spec : Spec}

theorem roll_about {code : String}
    (verdict : Spec.validate { spec with code := code } =
      spec.validate.mapError (·.about code))
    (limits : Limits) (source : WordSource) (position : Nat) :
    let drawn := (spec.roll limits).run source position
    let redrawn := (Spec.roll limits { spec with code := code }).run source position
    redrawn.value = drawn.value.mapError (·.about code) ∧ redrawn.position = drawn.position := by
  cases valid : spec.validate with
  | error error =>
    rw [valid] at verdict
    rw [run_roll_of_error valid, run_roll_of_error verdict]
    exact ⟨rfl, rfl⟩
  | ok =>
    rw [valid] at verdict
    rw [run_roll_of_ok valid, run_roll_of_ok verdict]
    exact ⟨rfl, rfl⟩

theorem trailing_text_is_ignored {code : String} {spec : Spec} (read : parse code = .ok spec)
    (more : String) (boundary : ∀ c ∈ more.toList.head?, c.isDigit = false ∧ c ≠ '.')
    (unsigned : (∃ c ∈ code.toList, isSign c = true) ∨ ∀ c ∈ more.toList, isSign c = false) :
    let longer := { spec with code := code ++ more }
    parse (code ++ more) = .ok longer ∧
      longer.validate = spec.validate.mapError (·.about (code ++ more)) ∧
      ∀ (limits : Limits) (source : WordSource) (position : Nat),
        let drawn := (spec.roll limits).run source position
        let redrawn := (longer.roll limits).run source position
        redrawn.value = drawn.value.mapError (·.about (code ++ more)) ∧
          redrawn.position = drawn.position ∧
          (spec.validate = .ok () →
            ∃ outcome, drawn.value = .ok outcome ∧ redrawn.value = .ok outcome) := by
  intro longer
  obtain ⟨reading, mode, cuts, known, fit, rfl⟩ := exists_cuts_of_parse read
  have again := cuts.extend more
  have faces := faces_extend reading fun c first => (boundary c first).1
  have threshold := threshold_extend reading boundary
  obtain ⟨sign, modifier⟩ := modifier_extend reading (fun c first => (boundary c first).1)
    (unsigned.imp_left cuts.sign_in_tail)
  have same : (reading.extend more.toList).spec (code ++ more) mode = longer := by
    simp only [Reading.spec, count_extend, letter_extend, faces, threshold, sign, modifier]
    rfl
  have verdict : longer.validate =
      (reading.spec code mode).validate.mapError (·.about (code ++ more)) :=
    Reading.Cuts.validate_about (reading.spec code mode) cuts again rfl faces rfl
  refine ⟨?_, verdict, ?_⟩
  · rw [← same]
    refine parse_of_reading again.whole again.digits known ?_
    simpa only [Reading.literals, count_extend, faces, threshold, modifier] using fit
  · intro limits source position
    obtain ⟨values, reached⟩ := roll_about verdict limits source position
    refine ⟨values, reached, ?_⟩
    intro valid
    refine ⟨_, congrArg Drawn.value (run_roll_of_ok valid source position), ?_⟩
    rw [values, run_roll_of_ok valid]
    rfl

theorem second_sign_is_ignored :
    let spec : Spec := ⟨"2d6.-3", 2, .sum, 6, false, 6, .minus, 3⟩
    parse "2d6.-3" = .ok spec ∧ (∃ c ∈ "2d6.-3".toList, isSign c = true) ∧
      parse "2d6.-3 été+9" = .ok { spec with code := "2d6.-3 été+9" } := by
  intro spec
  have read : parse "2d6.-3" = .ok spec := by rfl
  have signed : ∃ c ∈ "2d6.-3".toList, isSign c = true := ⟨'-', by decide, rfl⟩
  obtain ⟨again, -⟩ :=
    trailing_text_is_ignored read " été+9" (by simp) (.inl signed)
  exact ⟨read, signed, again⟩

end Spec

end DiceNotation
