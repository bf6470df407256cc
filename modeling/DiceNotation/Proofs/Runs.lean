import DiceNotation.CommandLine.Run

set_option autoImplicit false

namespace DiceNotation

namespace Draw

variable {α β : Type} {holds : Event → Prop}

def Notes (holds : Event → Prop) (draw : Draw α) : Prop :=
  ∀ source position, ∀ event ∈ (draw.run source position).events, holds event

theorem notes_pure (value : α) : (pure value : Draw α).Notes holds := by
  simp [Notes]

theorem notes_word : word.Notes holds := by
  simp [Notes]

theorem notes_note {event : Event} (here : holds event) : (note event).Notes holds := by
  simpa [Notes] using here

theorem Notes.bind {first : Draw α} {next : α → Draw β} (before : first.Notes holds)
    (after : ∀ value, (next value).Notes holds) : (first >>= next).Notes holds := by
  intro source position event member
  simp only [run_bind, List.mem_append] at member
  cases member with
  | inl early => exact before source position event early
  | inr late => exact after _ source _ event late

theorem Notes.map {draw : Draw α} (noted : draw.Notes holds) (change : α → β) :
    (change <$> draw).Notes holds :=
  noted

theorem Notes.replicate {draw : Draw α} (noted : draw.Notes holds) (count : Nat) :
    (Draw.replicate count draw).Notes holds := by
  induction count with
  | zero => exact notes_pure []
  | succ count ih => exact noted.bind fun first => ih.map (first :: ·)

end Draw

def Event.Logged (event : Event) : Prop :=
  CommandLine.isRefusal event = false

namespace Die

theorem notes_sample (die : Die) : die.sample.Notes Event.Logged := by
  refine Draw.Notes.map (Draw.notes_word.bind fun high => ?_) _
  dsimp only
  split
  · exact Draw.notes_pure _
  · exact Draw.notes_word.bind fun low => Draw.notes_pure _

theorem notes_explodeFrom (die : Die) (threshold cap remaining latest : Nat) :
    (die.explodeFrom threshold cap remaining latest).Notes Event.Logged := by
  induction remaining generalizing latest with
  | zero =>
    rw [explodeFrom]
    split
    · exact (Draw.notes_note (by rfl)).bind fun _ => Draw.notes_pure _
    · exact Draw.notes_pure _
  | succ remaining ih =>
    rw [explodeFrom]
    split
    · exact die.notes_sample.bind fun value =>
        (Draw.notes_note (by rfl)).bind fun _ => (ih value).map (value :: ·)
    · exact Draw.notes_pure _

theorem notes_explode (die : Die) (threshold cap : Nat) :
    (die.explode threshold cap).Notes Event.Logged :=
  die.notes_sample.bind fun first =>
    (die.notes_explodeFrom threshold cap cap first).map (first :: ·)

theorem notes_roll (die : Die) (mode : Mode) (threshold : Nat) (limits : Limits) :
    (die.roll mode threshold limits).Notes Event.Logged := by
  rw [roll]
  split
  · exact die.notes_explode threshold limits.extraPerDie
  · exact die.notes_sample.map List.singleton

theorem notes_explodeRounds (die : Die) (threshold dice cap remaining round total : Nat) :
    (die.explodeRounds threshold dice cap remaining round total).Notes Event.Logged := by
  induction remaining generalizing round total with
  | zero =>
    rw [explodeRounds]
    split
    · exact (Draw.notes_note (by rfl)).bind fun _ => Draw.notes_pure _
    · exact Draw.notes_pure _
  | succ remaining ih =>
    rw [explodeRounds]
    split
    · refine (Draw.notes_note (by rfl)).bind fun _ => ?_
      exact (die.notes_explode threshold cap).bind fun added =>
        (ih (round + 1) (total + Resolution.sum added)).map (added ++ ·)
    · exact Draw.notes_pure _

end Die

namespace Spec

theorem notes_rollDice (limits : Limits) (spec : Spec) :
    (spec.rollDice limits).Notes Event.Logged := by
  refine ((spec.die.notes_roll spec.mode spec.threshold limits).replicate spec.dice).bind ?_
  intro dice
  split
  · exact (spec.die.notes_explodeRounds _ _ _ _ _ _).map (dice.flatten ++ ·)
  · exact Draw.notes_pure _

theorem notes_roll (limits : Limits) (spec : Spec) : (spec.roll limits).Notes Event.Logged := by
  rw [roll]
  split
  · exact (Draw.notes_note (by rfl)).bind fun _ => Draw.notes_pure _
  · exact ((spec.notes_rollDice limits).map spec.outcomeOf).bind fun outcome =>
      (Draw.notes_note (by rfl)).bind fun _ => Draw.notes_pure _

end Spec

namespace CommandLine

def verdict (code : String) : Except CodeError Spec := do
  let spec ← Spec.parse code
  spec.validate
  return spec

def isGood (code : String) : Bool :=
  (verdict code).isOk

def refusal? (code : String) : Option CodeError :=
  match verdict code with
  | .error error => some error
  | .ok _ => none

variable {code : String} {spec : Spec}

theorem verdict_of_error {error : CodeError} (unread : Spec.parse code = .error error) :
    verdict code = .error error := by
  rw [verdict, unread]
  rfl

theorem verdict_of_ok (read : Spec.parse code = .ok spec) :
    verdict code = spec.validate.map fun _ => spec := by
  rw [verdict, read]
  change (spec.validate >>= fun _ => .ok spec) = _
  cases spec.validate <;> rfl

theorem verdict_eq_ok_iff :
    verdict code = .ok spec ↔ Spec.parse code = .ok spec ∧ spec.validate = .ok () := by
  cases read : Spec.parse code with
  | error error => simp [verdict_of_error read]
  | ok found =>
    rw [verdict_of_ok read]
    constructor
    · intro good
      cases valid : found.validate with
      | error error => simp [valid, Except.map] at good
      | ok _ =>
        obtain rfl : found = spec := by simpa [valid, Except.map] using good
        exact ⟨rfl, valid⟩
    · rintro ⟨same, valid⟩
      obtain rfl := Except.ok.inj same
      rw [valid]
      rfl

theorem run_checked (code : String) (source : WordSource) (position : Nat) :
    let drawn := (checked code).run source position
    drawn.value = verdict code ∧ drawn.position = position ∧
      drawn.events.filter isRefusal = [] := by
  cases read : Spec.parse code with
  | error error => simp [checked, read, verdict_of_error read]
  | ok spec => simp [checked, read, verdict_of_ok read, isRefusal]

theorem filter_isRefusal_of_notes {α : Type} {draw : Draw α} (noted : draw.Notes Event.Logged)
    (source : WordSource) (position : Nat) :
    (draw.run source position).events.filter isRefusal = [] := by
  rw [List.filter_eq_nil_iff]
  intro event member
  simp [show isRefusal event = false from noted source position event member]

theorem run_rollTimes (valid : spec.validate = .ok ()) (times : Nat) (source : WordSource)
    (position : Nat) :
    let drawn := (rollTimes spec times).run source position
    drawn.value.failure = none ∧ drawn.value.rolls.map (·.1) = List.replicate times spec ∧
      drawn.events.filter isRefusal = [] := by
  induction times generalizing position with
  | zero => simp [rollTimes]
  | succ times ih =>
    have silent := filter_isRefusal_of_notes (spec.notes_roll {}) source position
    obtain ⟨outcome, rolled⟩ :
        ∃ outcome, ((spec.roll {}).run source position).value = .ok outcome :=
      ⟨_, congrArg Drawn.value (Spec.run_roll_of_ok valid source position)⟩
    obtain ⟨unbroken, specs, quiet⟩ := ih ((spec.roll {}).run source position).position
    simp only [rollTimes, Draw.run_bind, rolled, Draw.run_pure, List.append_nil,
      List.filter_append, silent, quiet, List.map_cons, specs, and_true]
    exact ⟨unbroken, rfl⟩

section Step

variable {error : CodeError} (times : Nat) (source : WordSource) (position : Nat)

theorem run_rollCode_of_error (bad : verdict code = .error error) :
    let drawn := (rollCode times code).run source position
    drawn.value = ⟨[], none⟩ ∧ drawn.position = position ∧
      drawn.events.filter isRefusal = [.refused error] := by
  obtain ⟨value, reached, quiet⟩ := run_checked code source position
  rw [bad] at value
  simp only [rollCode, Draw.run_bind, value, reached, Draw.run_note, Draw.run_pure,
    List.filter_append, quiet, true_and]
  rfl

theorem run_rollCode_of_ok (good : verdict code = .ok spec) :
    let drawn := (rollCode times code).run source position
    drawn.value.failure = none ∧ drawn.value.rolls.map (·.1) = List.replicate times spec ∧
      drawn.events.filter isRefusal = [] := by
  obtain ⟨value, reached, quiet⟩ := run_checked code source position
  obtain ⟨unbroken, specs, silent⟩ :=
    run_rollTimes (verdict_eq_ok_iff.mp good).2 times source position
  rw [good] at value
  simp only [rollCode, Draw.run_bind, value, reached, List.filter_append, quiet, silent]
  exact ⟨unbroken, specs, rfl⟩

theorem run_rollCodes_cons (rest : List String)
    (unbroken : ((rollCode times code).run source position).value.failure = none) :
    (rollCodes times (code :: rest)).run source position =
      let first := (rollCode times code).run source position
      let others := (rollCodes times rest).run source first.position
      ⟨⟨first.value.rolls ++ others.value.rolls, others.value.failure⟩, others.position,
        first.events ++ others.events⟩ := by
  simp [rollCodes, unbroken]

theorem run_rollCodes (codes : List String) :
    let drawn := (rollCodes times codes).run source position
    drawn.value.failure = none ∧
      drawn.value.rolls.map (·.1) =
        (codes.filterMap fun code => (verdict code).toOption).flatMap (List.replicate times) ∧
      drawn.events.filter isRefusal = (codes.filterMap refusal?).map .refused := by
  induction codes generalizing position with
  | nil => exact ⟨rfl, rfl, rfl⟩
  | cons code rest ih =>
    obtain ⟨unbroken, specs, refused⟩ := ih ((rollCode times code).run source position).position
    cases found : verdict code with
    | error error =>
      obtain ⟨value, -, reported⟩ := run_rollCode_of_error times source position found
      rw [run_rollCodes_cons times source position rest (by rw [value])]
      simp [unbroken, value, specs, refused, reported, found, refusal?, Except.toOption]
    | ok spec =>
      obtain ⟨kept, rolled, quiet⟩ := run_rollCode_of_ok times source position found
      rw [run_rollCodes_cons times source position rest kept]
      simp [unbroken, rolled, specs, refused, quiet, found, refusal?, Except.toOption]

theorem run_rollCodes_filter (codes : List String) :
    let drawn := (rollCodes times codes).run source position
    let kept := (rollCodes times (codes.filter isGood)).run source position
    kept.value = drawn.value ∧ kept.position = drawn.position := by
  -- A bad code leaves the position where it was, so the runs of the rest start at the same word.
  induction codes generalizing position with
  | nil => exact ⟨rfl, rfl⟩
  | cons code rest ih =>
    obtain ⟨values, reached⟩ := ih ((rollCode times code).run source position).position
    cases found : verdict code with
    | error error =>
      obtain ⟨value, stayed, -⟩ := run_rollCode_of_error times source position found
      rw [run_rollCodes_cons times source position rest (by rw [value])]
      rw [stayed] at values reached
      simp [isGood, found, Except.isOk, Except.toBool, value, stayed, values, reached]
    | ok spec =>
      obtain ⟨kept, -, -⟩ := run_rollCode_of_ok times source position found
      have good : isGood code = true := by rw [isGood, found]; rfl
      rw [List.filter_cons_of_pos good, run_rollCodes_cons times source position rest kept,
        run_rollCodes_cons times source position _ kept]
      simp [values, reached]

end Step

theorem refusal?_isSome (code : String) : (refusal? code).isSome = ! isGood code := by
  rw [refusal?, isGood]
  cases verdict code <;> rfl

theorem length_filterMap_refusal? (codes : List String) :
    (codes.filterMap refusal?).length = codes.countP (! isGood ·) := by
  rw [List.length_filterMap_eq_countP]
  simp only [refusal?_isSome]

theorem flatMap_eventLines_off (events : List Event) :
    events.flatMap (eventLines (.ofLevel .off)) =
      (events.filter isRefusal).flatMap (eventLines (.ofLevel .off)) := by
  induction events with
  | nil => rfl
  | cons event rest ih =>
    by_cases refusal : isRefusal event = true
    · simp [refusal, ih]
    · have hidden : eventLines (.ofLevel .off) event = [] := by
        cases event with
        | refused error => exact absurd rfl refusal
        | _ => rfl
      simp [refusal, hidden, ih]

theorem run_rollAll (options : Options) (source : WordSource) :
    let drawn := (rollAll options).run source 0
    let rolled := (rollCodes options.times options.codes).run source 0
    drawn.value = rolled.value ∧
      drawn.events.filter isRefusal = rolled.events.filter isRefusal := by
  simp [rollAll, isRefusal]

def closing : Nat → List String
  | 0 => []
  | 1 => ["error: 1 bad die code"]
  | count => ["error: " ++ String.ofList (Decimal.digits count) ++ " bad die codes"]

theorem fault?_of_unbroken {printed : Printed} (unbroken : printed.failure = none) (count : Nat) :
    ((printed.fault? count).map ("error: " ++ ·)).toList = closing count ∧
      (printed.fault? count).isSome = decide (count ≠ 0) := by
  rw [Printed.fault?, unbroken]
  match count with
  | 0 => exact ⟨rfl, rfl⟩
  | 1 => exact ⟨rfl, rfl⟩
  | count + 2 => simp [closing, badCodes, String.append_assoc]

theorem answer_eq (options : Options) (filter : LogFilter) (source : WordSource) :
    let drawn := (rollAll options).run source 0
    let count := options.codes.countP (! isGood ·)
    options.answer filter source =
      { output := drawn.value.rolls.map fun (spec, outcome) => options.form.text spec outcome
        errors := drawn.events.flatMap (eventLines filter) ++ closing count
        exit := if count = 0 then 0 else 1 } := by
  obtain ⟨value, refusals⟩ := run_rollAll options source
  obtain ⟨unbroken, -, reported⟩ := run_rollCodes options.times source 0 options.codes
  have counted : ((rollAll options).run source 0).events.countP isRefusal =
      options.codes.countP (! isGood ·) := by
    rw [List.countP_eq_length_filter, refusals, reported, List.length_map,
      length_filterMap_refusal?]
  rw [← value] at unbroken
  obtain ⟨lines, failed⟩ := fault?_of_unbroken unbroken (options.codes.countP (! isGood ·))
  simp only [Options.answer, counted, lines, failed]
  by_cases none_bad : options.codes.countP (! isGood ·) = 0 <;> simp [none_bad]

theorem bad_codes_leave_good_ones_alone (options : Options) (filter : LogFilter)
    (source : WordSource) :
    let bad := options.codes.filterMap refusal?
    let count := options.codes.countP (! isGood ·)
    let drawn := (rollAll options).run source 0
    let answer := options.answer filter source
    let kept := { options with codes := options.codes.filter isGood }
    answer.output = (kept.answer filter source).output ∧
      answer.exit = (if count = 0 then 0 else 1) ∧
      (∃ events : List Event, events.filter isRefusal = bad.map .refused ∧
        answer.errors = events.flatMap (eventLines filter) ++ closing count) ∧
      (options.answer (.ofLevel .off) source).errors =
        bad.flatMap CodeError.complaint ++ closing count ∧
      drawn.value.failure = none ∧
      drawn.value.rolls.map (·.1) =
        (options.codes.filterMap fun code => (verdict code).toOption).flatMap
          (List.replicate options.times) := by
  intro bad count drawn answer kept
  obtain ⟨value, refusals⟩ := run_rollAll options source
  obtain ⟨keptValue, -⟩ := run_rollAll kept source
  obtain ⟨unbroken, specs, reported⟩ := run_rollCodes options.times source 0 options.codes
  obtain ⟨same, -⟩ := run_rollCodes_filter options.times source 0 options.codes
  have answered (filter : LogFilter) := answer_eq options filter source
  refine ⟨?_, congrArg Answer.exit (answered filter), ⟨drawn.events, ?_, ?_⟩, ?_, ?_, ?_⟩
  · simp only [answer, answered, answer_eq kept, value, keptValue]
    rw [same]
  · rw [refusals, reported]
  · exact congrArg Answer.errors (answered filter)
  · rw [answered, flatMap_eventLines_off, refusals, reported, List.flatMap_map]
    rfl
  · rw [value, unbroken]
  · rw [value, specs]

end CommandLine

end DiceNotation
