import DiceNotation.Proofs.Bounds
import DiceNotation.Proofs.Checked

set_option autoImplicit false

namespace DiceNotation

structure Limits.Bounded (limits : Limits) : Prop where
  extraPerDie_le : limits.extraPerDie ≤ largestNumber
  rounds_le : limits.rounds ≤ largestNumber

namespace Width

theorem word_holds {number : Nat} (small : number ≤ largestNumber) : word.Holds number :=
  ⟨Int.natCast_nonneg number, Int.ofNat_le.mpr small⟩

theorem long_holds {number : Nat} (small : number < UInt64.size) : long.Holds number :=
  ⟨Int.natCast_nonneg number, Int.le_sub_one_of_lt (Int.ofNat_lt.mpr small)⟩

theorem signedLong_holds {number : Nat} (small : (number : Int) ≤ Int64.maxValue.toInt) :
    signedLong.Holds number :=
  ⟨Int.le_trans (by decide) (Int.natCast_nonneg number), small⟩

theorem sum_eq {width : Width} {rolls : List Nat} {total : Nat}
    (holds : ∀ part ≤ total + Resolution.sum rolls, width.Holds part) :
    width.sum total rolls = pure (total + Resolution.sum rolls) := by
  induction rolls generalizing total with
  | nil => rfl
  | cons roll rest ih =>
    have first : Resolution.sum (roll :: rest) = roll + Resolution.sum rest := List.sum_cons
    rw [first, ← Nat.add_assoc] at holds ⊢
    have here := holds (total + roll) (Nat.le_add_right ..)
    rw [Width.sum, fit_of_holds here, pure_bind]
    exact ih holds

theorem signedLong_sum_eq {rolls : List Nat}
    (small : (Resolution.sum rolls : Int) ≤ Int64.maxValue.toInt) :
    signedLong.sum 0 rolls = pure (Resolution.sum rolls) := by
  rw [sum_eq fun part inside => signedLong_holds (by omega), Nat.zero_add]

theorem sum_le_square {rolls : List Nat} (each : ∀ roll ∈ rolls, roll ≤ largestNumber)
    (few : rolls.length < UInt32.size) :
    Resolution.sum rolls ≤ largestNumber * largestNumber :=
  Nat.le_trans (List.sum_le_card_nsmul rolls largestNumber each)
    (Nat.mul_le_mul_right _ (Nat.le_pred_of_lt few))

theorem long_sum_eq {rolls : List Nat} (each : ∀ roll ∈ rolls, roll ≤ largestNumber)
    (few : rolls.length < UInt32.size) : long.sum 0 rolls = pure (Resolution.sum rolls) := by
  have limit : largestNumber * largestNumber < UInt64.size := by decide
  have small := sum_le_square each few
  rw [sum_eq fun part inside => long_holds (by omega), Nat.zero_add]

theorem target_eq {threshold dice round : Nat} (diceFit : dice ≤ largestNumber)
    (roundFits : round ≤ largestNumber)
    (close : threshold * (dice + round) ≤ largestNumber * largestNumber + largestNumber) :
    target threshold dice round = pure (threshold * (dice + round)) := by
  have limit : largestNumber * largestNumber + largestNumber < UInt64.size := by decide
  have few : largestNumber + largestNumber < UInt64.size := by decide
  have factor := long_holds (show dice + round < UInt64.size by omega)
  have product := long_holds (Nat.lt_of_le_of_lt close limit)
  rw [target, fit_of_holds factor, pure_bind, fit_of_holds product]

end Width

namespace Die

variable {die : Die} {threshold dice cap : Nat} {source : WordSource}

theorem agrees_checkedExplodeFrom (capFits : cap ≤ largestNumber) {remaining extra : Nat}
    (counted : extra + remaining = cap) (latest position : Nat) :
    Agrees source position (die.checkedExplodeFrom threshold remaining extra latest)
      (die.explodeFrom threshold cap remaining latest) := by
  induction remaining generalizing extra latest position with
  | zero =>
    obtain rfl : extra = cap := counted
    by_cases high : threshold ≤ latest <;>
      simp only [checkedExplodeFrom, explodeFrom, high, if_true, if_false]
    · exact (agrees_lift _).bind (agrees_pure [])
    · exact agrees_pure []
  | succ remaining ih =>
    by_cases high : threshold ≤ latest <;>
      simp only [checkedExplodeFrom, explodeFrom, high, if_true, if_false]
    · have next : extra + 1 + remaining = cap := by omega
      refine (agrees_lift _).bind ((agrees_lift _).bind (.fit ?_ ((ih next _ _).map _)))
      exact Width.word_holds (by omega)
    · exact agrees_pure []

theorem agrees_checkedExplode (capFits : cap ≤ largestNumber) (position : Nat) :
    Agrees source position (die.checkedExplode threshold cap) (die.explode threshold cap) :=
  (agrees_lift _).bind ((agrees_checkedExplodeFrom capFits (Nat.zero_add cap) _ _).map _)

theorem agrees_checkedRoll {limits : Limits} (capFits : limits.extraPerDie ≤ largestNumber)
    (mode : Mode) (position : Nat) :
    Agrees source position (die.checkedRoll mode threshold limits)
      (die.roll mode threshold limits) := by
  rw [checkedRoll, roll]
  split
  · exact agrees_checkedExplode capFits position
  · exact (agrees_lift _).map _

theorem agrees_checkedRounds (facesFit : die.faces ≤ largestNumber)
    (thresholdFits : threshold ≤ largestNumber) (diceFit : dice ≤ largestNumber)
    (capFits : cap ≤ largestNumber) {remaining round position : Nat} {rolls : List Nat}
    (counted : round + remaining ≤ largestNumber) (each : ∀ roll ∈ rolls, roll ≤ largestNumber)
    -- The target of the round before was met, so this one is at most a threshold above the sum.
    (close : threshold * (dice + round) ≤ largestNumber * largestNumber + largestNumber) :
    let rounds := die.explodeRounds threshold dice cap remaining round (Resolution.sum rolls)
    rolls.length + (rounds.run source position).value.length < UInt32.size →
      Agrees source position (die.checkedRounds threshold dice cap remaining round rolls)
        rounds := by
  induction remaining generalizing round position rolls with
  | zero =>
    intro rounds few
    have total := Width.long_sum_eq each (by omega)
    have target := Width.target_eq diceFit (show round ≤ largestNumber by omega) close
    by_cases high : threshold * (dice + round) ≤ Resolution.sum rolls <;>
      simp only [rounds, checkedRounds, explodeRounds, total, target, pure_bind, high, if_true,
        if_false]
    · exact (agrees_lift _).bind (agrees_pure [])
    · exact agrees_pure []
  | succ remaining ih =>
    intro rounds few
    have total := Width.long_sum_eq each (by omega)
    have target := Width.target_eq diceFit (show round ≤ largestNumber by omega) close
    by_cases high : threshold * (dice + round) ≤ Resolution.sum rolls
    · have drew := (die.chain_explode threshold cap source position).2
      have added := drew.le_largestNumber facesFit
      have later : threshold * (dice + (round + 1)) ≤
          largestNumber * largestNumber + largestNumber := by
        have small := Width.sum_le_square each (by omega)
        rw [← Nat.add_assoc, Nat.mul_succ]
        omega
      simp only [rounds, checkedRounds, explodeRounds, total, target, pure_bind, high,
        if_true, Draw.run_bind, Draw.run_map, Draw.run_note, List.length_append,
        ← Nat.add_assoc, ← List.sum_append] at few ⊢
      refine (agrees_lift _).bind ((agrees_checkedExplode capFits _).bind (.fit ?_ (.map ?_ _)))
      · exact Width.word_holds (by omega)
      · refine ih (by omega) (List.forall_mem_append.mpr ⟨each, added⟩) later ?_
        rw [List.length_append]
        exact few
    · simp only [rounds, checkedRounds, explodeRounds, total, target, pure_bind, high, if_false]
      exact agrees_pure []

theorem agrees_checkedExplodeTotal {limits : Limits} (limitsFit : limits.Bounded)
    (facesFit : die.faces ≤ largestNumber) (thresholdFits : threshold ≤ largestNumber)
    (diceFit : dice ≤ largestNumber) {rolls : List Nat}
    (each : ∀ roll ∈ rolls, roll ≤ largestNumber) {position : Nat}
    (few : ((die.explodeTotal threshold dice limits rolls).run source position).value.length <
      UInt32.size) :
    Agrees source position (die.checkedExplodeTotal threshold dice limits rolls)
      (die.explodeTotal threshold dice limits rolls) := by
  have close : threshold * (dice + 0) ≤ largestNumber * largestNumber + largestNumber :=
    Nat.le_add_right_of_le (Nat.mul_le_mul thresholdFits diceFit)
  refine .map (agrees_checkedRounds facesFit thresholdFits diceFit limitsFit.extraPerDie_le
    ((Nat.zero_add _).symm ▸ limitsFit.rounds_le) each close ?_) _
  simpa only [explodeTotal, Draw.run_map, List.length_append] using few

end Die

theorem Mode.checkedResolve_eq {rolls : List Nat} (each : ∀ roll ∈ rolls, roll ≤ largestNumber)
    (few : rolls.length ≤ Int32.maxValue.toInt) (mode : Mode) (threshold : Nat) :
    mode.checkedResolve threshold rolls = pure (mode.resolve threshold rolls) := by
  have small := Mode.resolve_le each (by decide) mode threshold
  have fits := (Sign.plus.apply_fits few small (Nat.zero_le _)).1
  cases mode with
  | sum => exact Width.signedLong_sum_eq fits
  | explode => exact Width.signedLong_sum_eq fits
  | explodeAll => exact Width.signedLong_sum_eq fits
  | keepHighest => exact Width.signedLong_sum_eq fits
  | keepLowest => exact Width.signedLong_sum_eq fits
  | countMin => exact Width.fit_of_holds (Width.signedLong_holds fits)
  | countMax => exact Width.fit_of_holds (Width.signedLong_holds fits)

namespace Spec

variable {spec : Spec}

theorem agrees_checkedRollDice {limits : Limits} (limitsFit : limits.Bounded)
    (bounded : spec.Bounded) {source : WordSource} {position : Nat}
    (few : ((spec.rollDice limits).run source position).value.length < UInt32.size) :
    Agrees source position (spec.checkedRollDice limits) (spec.rollDice limits) := by
  refine (Agrees.replicate (fun _ =>
    Die.agrees_checkedRoll limitsFit.extraPerDie_le spec.mode _) spec.dice position).bind ?_
  by_cases total : spec.mode = .explodeAll
  · simp only [rollDice, total, if_true, Draw.run_bind] at few ⊢
    have drew := Die.drew_replicate_flatten (fun position =>
      spec.die.drew_roll .explodeAll spec.threshold limits source position) spec.dice position
    exact Die.agrees_checkedExplodeTotal limitsFit bounded.faces_le bounded.threshold_le
      bounded.dice_le (drew.le_largestNumber bounded.faces_le) few
  · simp only [total, if_false]
    exact agrees_pure _

theorem agrees_checkedRoll {limits : Limits} (limitsFit : limits.Bounded)
    (bounded : spec.Bounded) {source : WordSource} {position : Nat}
    (few : spec.validate = .ok () →
      ((spec.rollDice limits).run source position).value.length ≤ Int32.maxValue.toInt) :
    Agrees source position (spec.checkedRoll limits) (spec.roll limits) := by
  cases verdict : spec.validate with
  | error error =>
    simp only [checkedRoll, roll, verdict]
    exact (agrees_lift _).bind (agrees_pure _)
  | ok =>
    have few := few verdict
    have limit : Int32.maxValue.toInt < UInt32.size := by decide
    have each := (drew_rollDice limits spec source position).1.le_largestNumber bounded.faces_le
    have fits := (total_rollDice_fits limits bounded source position few).2
    simp only [checkedRoll, roll, verdict, bind_map_left]
    refine (agrees_checkedRollDice limitsFit bounded (by omega)).bind ?_
    rw [Mode.checkedResolve_eq each few, pure_bind]
    exact .check fits ((agrees_lift _).bind (agrees_pure _))

theorem length_rollDice_default_le {code : String} (read : parse code = .ok spec)
    (valid : spec.validate = .ok ()) (source : WordSource) (position : Nat) :
    ((spec.rollDice {}).run source position).value.length ≤ 99 + 1000 * 1001 := by
  have few := dice_le_of_valid read valid
  refine Nat.le_trans (length_rollDice_le {} spec source position) (Nat.max_le.mpr ⟨?_, ?_⟩)
  · exact Nat.le_trans (Nat.mul_le_mul_right _ few) (by decide)
  · exact Nat.add_le_add_right few _

end Spec

theorem checked_rolls_run_through :
    (∀ (die : Die) (threshold dice : Nat) (limits : Limits) (rolls : List Nat)
        (source : WordSource) (position : Nat),
      die.faces ≤ largestNumber → threshold ≤ largestNumber → dice ≤ largestNumber →
      limits.Bounded → (∀ roll ∈ rolls, roll ≤ largestNumber) →
      let draw := die.explodeTotal threshold dice limits rolls
      (draw.run source position).value.length < UInt32.size →
        Agrees source position (die.checkedExplodeTotal threshold dice limits rolls) draw) ∧
    (∀ (die : Die) (mode : Mode) (threshold : Nat) (limits : Limits) (source : WordSource)
        (position : Nat), limits.Bounded →
      Agrees source position (die.checkedRoll mode threshold limits)
        (die.roll mode threshold limits)) ∧
    ∀ (code : String) (spec : Spec) (source : WordSource) (position : Nat),
      Spec.parse code = .ok spec →
        (∀ limits : Limits, limits.Bounded → spec.validate = .ok () →
          ∃ outcome, ((spec.roll limits).run source position).value = .ok outcome ∧
            (outcome.rolls.length ≤ Int32.maxValue.toInt →
              Agrees source position (spec.checkedRoll limits) (spec.roll limits))) ∧
        Agrees source position (spec.checkedRoll {}) (spec.roll {}) ∧
        ∀ outcome, ((spec.roll {}).run source position).value = .ok outcome →
          outcome.rolls.length ≤ 99 + 1000 * 1001 := by
  refine ⟨?_, ?_, ?_⟩
  · intro die threshold dice limits rolls source position facesFit thresholdFits diceFit limitsFit
      each draw few
    exact Die.agrees_checkedExplodeTotal limitsFit facesFit thresholdFits diceFit each few
  · intro die mode threshold limits source position limitsFit
    exact Die.agrees_checkedRoll limitsFit.extraPerDie_le mode position
  · intro code spec source position read
    have bounded := Spec.bounded_of_parse read
    have defaults : Limits.Bounded {} := ⟨by decide, by decide⟩
    have short := fun valid => Spec.length_rollDice_default_le read valid source position
    refine ⟨?_, ?_, ?_⟩
    · intro limits limitsFit valid
      refine ⟨_, congrArg Drawn.value (Spec.run_roll_of_ok valid source position), ?_⟩
      intro few
      exact Spec.agrees_checkedRoll limitsFit bounded fun _ => few
    · refine Spec.agrees_checkedRoll defaults bounded fun valid => ?_
      exact Int.le_trans (Int.ofNat_le.mpr (short valid)) (by decide)
    · intro outcome rolled
      cases verdict : spec.validate with
      | error error => simp [Spec.run_roll_of_error verdict] at rolled
      | ok =>
        rw [Spec.run_roll_of_ok verdict] at rolled
        rw [← Except.ok.inj rolled]
        exact short verdict

end DiceNotation
