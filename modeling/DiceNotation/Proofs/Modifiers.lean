import DiceNotation.Proofs.Refusals
import DiceNotation.Proofs.Suffixes
import DiceNotation.Proofs.Totals

set_option autoImplicit false

namespace DiceNotation

open Reading

def modifierClause (sign : Sign) (modifier : Nat) : String :=
  String.ofList (sign.symbol :: Decimal.digits modifier)

section Clause

variable {reading : Reading} {base : String} {modifier : Nat} (sign : Sign)

theorem toList_modifierClause (modifier : Nat) :
    (modifierClause sign modifier).toList = sign.symbol :: Decimal.digits modifier :=
  String.toList_ofList

theorem head?_modifierClause (modifier : Nat) :
    ∀ c ∈ (modifierClause sign modifier).toList.head?, c.isDigit = false ∧ c ≠ '.' := by
  have marked := sign.isSign_symbol
  simpa [toList_modifierClause] using ⟨isDigit_eq_false_of_isSign marked, ne_dot_of_isSign marked⟩

theorem Reading.Cuts.plain_tail (cuts : reading.Cuts base)
    (unsigned : ∀ c ∈ base.toList, isSign c = false) : ∀ c ∈ reading.tail, isSign c = false :=
  fun c member => unsigned c (by simp [cuts.whole, Reading.text, member])

theorem Reading.clauses_with_modifier (plain : ∀ c ∈ reading.tail, isSign c = false)
    (modifier : Nat) :
    let longer := reading.extend (modifierClause sign modifier).toList
    longer.faces = reading.faces ∧ longer.threshold = reading.threshold ∧
      longer.fromSign = sign.symbol :: Decimal.digits modifier ∧
      longer.modifier = Decimal.digits modifier := by
  intro longer
  have boundary := head?_modifierClause sign modifier
  have behind : longer.fromSign = sign.symbol :: Decimal.digits modifier := by
    rw [fromSign_extend_of_unsigned plain, toList_modifierClause,
      List.dropWhile_cons_of_neg (by simp [sign.isSign_symbol])]
  refine ⟨faces_extend reading fun c first => (boundary c first).1,
    threshold_extend reading boundary, behind, ?_⟩
  rw [Reading.modifier, behind, List.tail_cons,
    List.takeWhile_eq_self_iff.mpr fun _ => Decimal.isDigit_of_mem_digits]

theorem Reading.literals_with_modifier (plain : ∀ c ∈ reading.tail, isSign c = false)
    (fits : modifier ≤ largestNumber)
    (fit : ∀ literal ∈ reading.literals, Decimal.value literal ≤ largestNumber) :
    ∀ literal ∈ (reading.extend (modifierClause sign modifier).toList).literals,
      Decimal.value literal ≤ largestNumber := by
  obtain ⟨faces, threshold, -, digits⟩ := clauses_with_modifier sign plain modifier
  simp only [literals, List.forall_mem_cons, count_extend, faces, threshold, digits,
    Decimal.value_digits] at fit ⊢
  exact ⟨fit.1, fit.2.1, fit.2.2.1, fits, by simp⟩

theorem Reading.spec_with_modifier (plain : ∀ c ∈ reading.tail, isSign c = false) (code : String)
    (mode : Mode) (modifier : Nat) :
    (reading.extend (modifierClause sign modifier).toList).spec code mode =
      { reading.spec code mode with sign := sign, modifier := modifier } := by
  obtain ⟨faces, threshold, behind, digits⟩ := clauses_with_modifier sign plain modifier
  have read : (if sign.symbol = '-' then Sign.minus else Sign.plus) = sign := by
    cases sign <;> rfl
  simp only [Reading.spec, count_extend, letter_extend, faces, threshold, behind, digits,
    List.head?_cons, Option.some.injEq, read, Decimal.value_digits]
  rfl

theorem Reading.spec_without_modifier (plain : ∀ c ∈ reading.tail, isSign c = false)
    (code : String) (mode : Mode) :
    (reading.spec code mode).sign = .plus ∧ (reading.spec code mode).modifier = 0 := by
  simp [Reading.spec, Reading.modifier, fromSign_eq_nil plain, Decimal.value]

theorem Reading.mem_placed_with_modifier (plain : ∀ c ∈ reading.tail, isSign c = false)
    (fits : modifier ≤ largestNumber) {literal : Literal} (large : literal.tooLarge = true) :
    literal ∈ (reading.extend (modifierClause sign modifier).toList).placed ↔
      literal ∈ reading.placed := by
  obtain ⟨faces, threshold, -, digits⟩ := clauses_with_modifier sign plain modifier
  have none_before : reading.modifier = [] := by
    rw [Reading.modifier, fromSign_eq_nil plain]
    rfl
  have apart {other : Literal} (small : Decimal.value other.digits ≤ largestNumber) :
      literal ≠ other := by
    rintro rfl
    exact absurd small (Nat.not_le.mpr (of_decide_eq_true large))
  simp only [placed, List.mem_cons, List.not_mem_nil, or_false, count_extend, letter_extend, faces,
    threshold]
  have last {before : List Char} : literal ≠ ⟨before, Decimal.digits modifier⟩ :=
    apart (by rwa [Decimal.value_digits])
  have lastBefore {before : List Char} : literal ≠ ⟨before, []⟩ := apart (Nat.zero_le _)
  simp only [digits, none_before, last, lastBefore, or_false]

theorem Refused.with_modifier {misfit : Misfit} (unsigned : ∀ c ∈ base.toList, isSign c = false)
    (fits : modifier ≤ largestNumber) (refused : Refused base misfit) :
    Refused (base ++ modifierClause sign modifier) misfit := by
  cases refused with
  | missingMode cut unlettered =>
    refine .missingMode ?_ unlettered
    have boundary : ∀ c ∈ (modifierClause sign modifier).toList.head?, (! isSign c) = false := by
      simp [toList_modifierClause, sign.isSign_symbol]
    rw [cut, String.toList_append, takeWhile_append_of_head _ boundary]
  | badCount whole plain first other =>
    exact .badCount (by rw [String.toList_append, whole, List.append_assoc, List.cons_append])
      plain first other
  | @unknownMode reading cuts unknown =>
    let longer := reading.extend (modifierClause sign modifier).toList
    exact @Refused.unknownMode _ longer (cuts.extend _) unknown
  | numberTooLarge cuts known member large leftmost =>
    have placed {literal : Literal} :=
      @mem_placed_with_modifier _ _ sign (cuts.plain_tail unsigned) fits literal
    refine .numberTooLarge (cuts.extend _) known ((placed large).mpr member) large ?_
    intro other member tooLarge
    exact leftmost other ((placed tooLarge).mp member) tooLarge

end Clause

namespace Spec

theorem total_shifts {spec : Spec} (noSign : spec.sign = .plus) (noModifier : spec.modifier = 0)
    (code : String) (sign : Sign) (modifier : Nat) (rolls : List Nat) :
    let shifted := { spec with code := code, sign := sign, modifier := modifier }
    (shifted.outcomeOf rolls).total = match sign with
      | .plus => (spec.outcomeOf rolls).total + modifier
      | .minus => (spec.outcomeOf rolls).total - modifier := by
  cases sign <;> simp [outcomeOf, noSign, noModifier, Sign.apply]

theorem modifier_only_shifts_total {base : String} (unsigned : ∀ c ∈ base.toList, isSign c = false)
    (sign : Sign) {modifier : Nat} (fits : modifier ≤ largestNumber) :
    let code := base ++ modifierClause sign modifier
    (∀ spec, parse base = .ok spec →
      let shifted := { spec with code := code, sign := sign, modifier := modifier }
      parse code = .ok shifted ∧
        shifted.validate = spec.validate.mapError (·.about code) ∧
        (spec.validate = .ok () →
          ∀ (limits : Limits) (source : WordSource) (position : Nat),
            let drawn := (spec.roll limits).run source position
            let redrawn := (shifted.roll limits).run source position
            redrawn.position = drawn.position ∧
              ∃ before after, drawn.value = .ok before ∧ redrawn.value = .ok after ∧
                after.rolls = before.rolls ∧
                (after.total = match sign with
                  | .plus => before.total + modifier
                  | .minus => before.total - modifier) ∧
                (before.rolls.length ≤ Int32.maxValue.toInt →
                  ∀ total ∈ [before.total, after.total],
                    Int64.minValue.toInt ≤ total ∧ total ≤ Int64.maxValue.toInt))) ∧
      ∀ error, parse base = .error error → parse code = .error (error.about code) := by
  intro code
  constructor
  · intro spec read shifted
    have bounded := bounded_of_parse read
    obtain ⟨reading, mode, cuts, known, fit, rfl⟩ := exists_cuts_of_parse read
    have plain := cuts.plain_tail unsigned
    have again : (reading.extend (modifierClause sign modifier).toList).Cuts code :=
      cuts.extend _
    have faces := (clauses_with_modifier sign plain modifier).1
    have verdict : shifted.validate =
        (reading.spec base mode).validate.mapError (·.about code) :=
      Reading.Cuts.validate_about (reading.spec base mode) cuts again rfl faces rfl
    refine ⟨?_, verdict, ?_⟩
    · rw [parse_of_reading again.whole again.digits known
        (literals_with_modifier sign plain fits fit), spec_with_modifier sign plain]
      rfl
    · intro valid limits source position
      have shiftedBounded : shifted.Bounded := { bounded with modifier_le := fits }
      obtain ⟨noSign, noModifier⟩ := spec_without_modifier plain base mode
      have beforeFits := total_rollDice_fits limits bounded source position
      have afterFits := total_rollDice_fits limits shiftedBounded source position
      rw [valid] at verdict
      rw [run_roll_of_ok valid, run_roll_of_ok verdict]
      refine ⟨rfl, _, _, rfl, rfl, rfl, ?_, ?_⟩
      · exact total_shifts noSign noModifier code sign modifier _
      · intro few
        simp only [List.forall_mem_cons]
        exact ⟨(beforeFits few).2, (afterFits few).2, by simp⟩
  · intro error failed
    obtain ⟨misfit, refused⟩ | ⟨spec, read⟩ := exists_refused_or_parse base
    · rw [parse_of_refused refused] at failed
      obtain rfl := Except.error.inj failed
      exact parse_of_refused (refused.with_modifier sign unsigned fits)
    · simp [read] at failed

theorem modifier_behind_open_dot_shifts_total :
    let spec : Spec := ⟨"2x6.", 2, .explode, 6, false, 6, .plus, 0⟩
    (∀ c ∈ "2x6.".toList, isSign c = false) ∧ 3 ≤ largestNumber ∧ parse "2x6." = .ok spec ∧
      parse "2x6.-3" = .ok { spec with code := "2x6.-3", sign := .minus, modifier := 3 } := by
  intro spec
  have unsigned : ∀ c ∈ "2x6.".toList, isSign c = false := by simp [isSign]
  have fits : 3 ≤ largestNumber := by decide
  have read : parse "2x6." = .ok spec := by rfl
  have written : "2x6." ++ modifierClause .minus 3 = "2x6.-3" := by decide
  obtain ⟨again, -⟩ := (modifier_only_shifts_total unsigned .minus fits).1 spec read
  rw [written] at again
  exact ⟨unsigned, fits, read, again⟩

end Spec

end DiceNotation
