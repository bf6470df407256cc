import DiceNotation.Proofs.Runs

set_option autoImplicit false

namespace DiceNotation.CommandLine

-- The specs that a run rolls for one code.
def copies (times : Nat) (code : String) : List Spec :=
  match verdict code with
  | .error _ => []
  | .ok spec => List.replicate times spec

def rollInTurn : List Spec → Draw Printed
  | [] => return ⟨[], none⟩
  | spec :: rest => do
    match ← spec.roll {} with
    | .error error => return ⟨[], some error⟩
    | .ok outcome =>
      let others ← rollInTurn rest
      return ⟨(spec, outcome) :: others.rolls, others.failure⟩

theorem verdict_of_mem_copies {times : Nat} {code : String} {spec : Spec}
    (member : spec ∈ copies times code) : verdict code = .ok spec := by
  cases found : verdict code with
  | error error => simp [copies, found] at member
  | ok judged =>
    simp only [copies, found] at member
    rw [List.eq_of_mem_replicate member]

theorem valid_of_mem_copies {times : Nat} {code : String} {spec : Spec}
    (member : spec ∈ copies times code) : spec.validate = .ok () :=
  (verdict_eq_ok_iff.mp (verdict_of_mem_copies member)).2

theorem copies_zero (code : String) : copies 0 code = [] := by
  cases found : verdict code <;> simp [copies, found]

theorem flatMap_copies_one_replicate (times : Nat) (code : String) :
    (List.replicate times code).flatMap (copies 1) = copies times code := by
  cases found : verdict code <;> simp [copies, found, List.flatMap_replicate]

theorem rollTimes_eq_rollInTurn (spec : Spec) (times : Nat) :
    rollTimes spec times = rollInTurn (List.replicate times spec) := by
  induction times with
  | zero => rfl
  | succ times ih =>
    rw [rollTimes, ih]
    rfl

section Run

variable (source : WordSource) (position : Nat)

theorem run_rollInTurn_cons {spec : Spec} (valid : spec.validate = .ok ()) (rest : List Spec) :
    (rollInTurn (spec :: rest)).run source position =
      let first := (spec.roll {}).run source position
      let others := (rollInTurn rest).run source first.position
      let outcome := spec.outcomeOf ((spec.rollDice {}).run source position).value
      ⟨⟨(spec, outcome) :: others.value.rolls, others.value.failure⟩, others.position,
        first.events ++ others.events⟩ := by
  simp [rollInTurn, Spec.run_roll_of_ok valid]

theorem run_rollInTurn_append {first : List Spec}
    (valid : ∀ spec ∈ first, spec.validate = .ok ()) (second : List Spec) :
    (rollInTurn (first ++ second)).run source position =
      let front := (rollInTurn first).run source position
      let back := (rollInTurn second).run source front.position
      ⟨⟨front.value.rolls ++ back.value.rolls, back.value.failure⟩, back.position,
        front.events ++ back.events⟩ := by
  induction first generalizing position with
  | nil => simp [rollInTurn]
  | cons spec rest ih =>
    obtain ⟨here, later⟩ := List.forall_mem_cons.mp valid
    rw [List.cons_append, run_rollInTurn_cons source position here,
      run_rollInTurn_cons source position here]
    simp [ih _ later]

theorem specs_rollInTurn {specs : List Spec} (valid : ∀ spec ∈ specs, spec.validate = .ok ()) :
    ((rollInTurn specs).run source position).value.rolls.map (·.1) = specs := by
  induction specs generalizing position with
  | nil => rfl
  | cons spec rest ih =>
    obtain ⟨here, later⟩ := List.forall_mem_cons.mp valid
    rw [run_rollInTurn_cons source position here]
    simp [ih _ later]

theorem run_rollCode (times : Nat) (code : String) :
    let drawn := (rollCode times code).run source position
    let rolled := (rollInTurn (copies times code)).run source position
    drawn.value = rolled.value ∧ drawn.position = rolled.position := by
  obtain ⟨value, reached, -⟩ := run_checked code source position
  cases found : verdict code with
  | error error =>
    rw [found] at value
    simp [rollCode, value, reached, copies, found, rollInTurn]
  | ok spec =>
    rw [found] at value
    simp [rollCode, value, reached, copies, found, rollTimes_eq_rollInTurn]

theorem rollCode_unbroken (times : Nat) (code : String) :
    ((rollCode times code).run source position).value.failure = none := by
  cases found : verdict code with
  | error error =>
    rw [(run_rollCode_of_error times source position found).1]
  | ok spec => exact (run_rollCode_of_ok times source position found).1

theorem run_rollCodes_eq_rollInTurn (times : Nat) (codes : List String) :
    let drawn := (rollCodes times codes).run source position
    let rolled := (rollInTurn (codes.flatMap (copies times))).run source position
    drawn.value = rolled.value ∧ drawn.position = rolled.position := by
  induction codes generalizing position with
  | nil => exact ⟨rfl, rfl⟩
  | cons code rest ih =>
    obtain ⟨value, reached⟩ := run_rollCode source position times code
    obtain ⟨others, last⟩ := ih ((rollCode times code).run source position).position
    have unbroken := rollCode_unbroken source position times code
    rw [run_rollCodes_cons times source position rest unbroken, List.flatMap_cons,
      run_rollInTurn_append source position fun spec => valid_of_mem_copies]
    dsimp only
    rw [others, last, value, reached]
    exact ⟨rfl, rfl⟩

end Run

theorem output_eq_map (options : Options) (filter : LogFilter) (source : WordSource) :
    (options.answer filter source).output =
      ((rollInTurn (options.codes.flatMap (copies options.times))).run source 0).value.rolls.map
        fun roll => options.form.text roll.1 roll.2 := by
  rw [answer_eq, (run_rollAll options source).1,
    (run_rollCodes_eq_rollInTurn source 0 options.times options.codes).1]

theorem run_is_one_stream (options : Options) (filter : LogFilter) (source : WordSource) :
    let output := fun options : Options => (options.answer filter source).output
    let specs := options.codes.flatMap (copies options.times)
    let rolls := ((rollInTurn specs).run source 0).value.rolls
    output options =
      output { options with
        times := 1, codes := options.codes.flatMap (List.replicate options.times) } ∧
    (options.times = 0 → output options = []) ∧
    (∀ more, output options <+: output { options with codes := options.codes ++ more }) ∧
    rolls.map (·.1) = specs ∧
    output { options with form := .line } = rolls.map (fun roll => roll.2.line roll.1) ∧
    output { options with form := .total } =
      rolls.map (fun roll => String.ofList (Decimal.signed roll.2.total)) ∧
    output { options with form := .json } =
      rolls.map (fun roll => String.ofList (roll.2.recordJson roll.1).render) := by
  intro output specs rolls
  have shown (options : Options) := output_eq_map options filter source
  have valid : ∀ spec ∈ specs, spec.validate = .ok () := by
    intro spec member
    obtain ⟨code, -, copied⟩ := List.mem_flatMap.mp member
    exact valid_of_mem_copies copied
  refine ⟨?_, ?_, ?_, ?_, shown _, shown _, shown _⟩
  · simp only [output, shown, List.flatMap_assoc, flatMap_copies_one_replicate]
  · intro never
    have empty : options.codes.flatMap (copies options.times) = [] := by simp [never, copies_zero]
    simp only [output, shown, empty]
    rfl
  · intro more
    simp only [output, shown, List.flatMap_append]
    rw [run_rollInTurn_append source 0 valid, List.map_append]
    exact List.prefix_append ..
  · exact specs_rollInTurn source 0 valid

end DiceNotation.CommandLine
