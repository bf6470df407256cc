import DiceNotation.Proofs.Unexploded
import Mathlib.Data.List.DropRight

set_option autoImplicit false

namespace DiceNotation

namespace Reading

open Text

def summing (reading : Reading) : Reading :=
  { count := reading.count
    letter := Mode.sum.letter
    tail := reading.faces ++ reading.fromSign }

def sumCode (reading : Reading) : String :=
  String.ofList reading.summing.text

variable {reading : Reading} {code : String} {mode : Mode}

theorem Cuts.summing (cuts : reading.Cuts code) : reading.summing.Cuts reading.sumCode :=
  ⟨String.toList_ofList, cuts.digits, Mode.sum.isAlpha_letter⟩

theorem clauses_summing (reading : Reading) :
    reading.summing.faces = reading.faces ∧ reading.summing.threshold = [] ∧
      reading.summing.fromSign = reading.fromSign ∧
      reading.summing.modifier = reading.modifier := by
  have digits (c : Char) (member : c ∈ reading.faces) : c.isDigit = true :=
    isDigit_of_mem_faces member
  have signed (c : Char) (first : c ∈ reading.fromSign.head?) : isSign c = true :=
    head?_dropWhile_isSign reading.tail c first
  have boundary (c : Char) (first : c ∈ reading.fromSign.head?) : c.isDigit = false :=
    isDigit_eq_false_of_isSign (signed c first)
  have behind : reading.summing.fromSign = reading.fromSign := by
    rw [fromSign, summing, List.dropWhile_append_of_pos fun c member => by
      simp [isSign_eq_false_of_isDigit (digits c member)]]
    exact List.dropWhile_idempotent _ _
  refine ⟨takeWhile_run digits boundary, ?_, behind, ?_⟩
  · rw [threshold, summing, dropWhile_run digits boundary]
    exact dottedRun_append_of_head []
      fun c first => ⟨boundary c first, ne_dot_of_isSign (signed c first)⟩
  · rw [modifier, behind, modifier]

theorem spec_summing (reading : Reading) (code : String) (mode : Mode) :
    reading.summing.spec reading.sumCode .sum =
      { reading.spec code mode with
        code := reading.sumCode, mode := .sum, threshold := (reading.spec code mode).faces } := by
  obtain ⟨faces, threshold, behind, digits⟩ := reading.clauses_summing
  simp only [Reading.spec, faces, threshold, behind, digits]
  rfl

theorem parse_sumCode (cuts : reading.Cuts code)
    (fit : ∀ literal ∈ reading.literals, Decimal.value literal ≤ largestNumber) :
    Spec.parse reading.sumCode = .ok (reading.summing.spec reading.sumCode .sum) := by
  obtain ⟨faces, threshold, -, digits⟩ := reading.clauses_summing
  have again := cuts.summing
  refine Spec.parse_of_reading again.whole again.digits rfl ?_
  simp only [literals, List.forall_mem_cons, faces, threshold, digits] at fit ⊢
  exact ⟨fit.1, fit.2.1, Nat.zero_le _, fit.2.2.2⟩

theorem validate_summing (cuts : reading.Cuts code)
    (valid : (reading.spec code mode).validate = .ok ()) :
    (reading.summing.spec reading.sumCode .sum).validate = .ok () := by
  obtain ⟨short, faced, some_face, -, some_die, enough⟩ := cuts.validate_eq_ok_iff.mp valid
  have again : reading.summing.Cuts (reading.summing.spec reading.sumCode .sum).code :=
    cuts.summing
  rw [again.validate_eq_ok_iff, spec_summing reading code mode, reading.clauses_summing.1]
  exact ⟨short, faced, some_face, some_face, some_die,
    enough.imp_right fun two => ⟨two.1, .inr (.inr two.1)⟩⟩

end Reading

namespace Spec

structure Sums (plain spec : Spec) : Prop where
  valid : plain.validate = .ok ()
  mode : plain.mode = .sum
  dice : plain.dice = spec.dice
  die : plain.die = spec.die
  sign : plain.sign = spec.sign
  modifier : plain.modifier = spec.modifier

variable {code : String} {plain spec : Spec} {limits : Limits} {source : WordSource}
  {position : Nat}

theorem exists_sums (read : parse code = .ok spec) (valid : spec.validate = .ok ()) :
    ∃ (reading : Reading) (plain : Spec), reading.Cuts code ∧
      parse reading.sumCode = .ok plain ∧ plain.Sums spec := by
  obtain ⟨reading, mode, cuts, -, fit, rfl⟩ := exists_cuts_of_parse read
  refine ⟨reading, _, cuts, Reading.parse_sumCode cuts fit, ?_⟩
  have plain := Reading.validate_summing cuts valid
  rw [Reading.spec_summing reading code mode] at plain ⊢
  exact ⟨plain, rfl, rfl, rfl, rfl, rfl⟩

theorem Sums.run_roll (sums : plain.Sums spec) (valid : spec.validate = .ok ())
    (exploding : spec.mode = .explode ∨ spec.mode = .explodeAll)
    (single : (spec.rollDice limits).run source position =
      (Draw.replicate spec.dice spec.die.sample).run source position) :
    let drawn := (spec.roll limits).run source position
    let summed := (plain.roll limits).run source position
    summed.value = drawn.value ∧ summed.position = drawn.position := by
  have plainDice : plain.rollDice limits = Draw.replicate spec.dice spec.die.sample := by
    rw [rollDice_of_plain limits (by simp [sums.mode]) (by simp [sums.mode]), sums.dice, sums.die]
  have worth (rolls : List Nat) : plain.outcomeOf rolls = spec.outcomeOf rolls := by
    obtain single | total := exploding
    · simp only [outcomeOf, sums.mode, single, sums.sign, sums.modifier, Mode.resolve]
    · simp only [outcomeOf, sums.mode, total, sums.sign, sums.modifier, Mode.resolve]
  rw [run_roll_of_ok valid, run_roll_of_ok sums.valid, plainDice, single]
  simp only [worth, and_self]

theorem run_rollDice_of_unreachable (valid : spec.validate = .ok ())
    (unreachable : spec.faces < spec.threshold) (limits : Limits) (source : WordSource)
    (position : Nat) :
    (spec.rollDice limits).run source position =
      (Draw.replicate spec.dice spec.die.sample).run source position := by
  have drew := spec.die.drew_replicate_sample spec.dice source position
  refine run_rollDice_of_low (dice_pos_of_valid valid) fun _ roll member => ?_
  exact Nat.lt_of_le_of_lt (between_of_valid valid drew roll member).2 unreachable

theorem dice_lt_length_rollDice_iff (total : spec.mode = .explodeAll) (limits : Limits)
    (source : WordSource) (position : Nat) :
    let dice := (Draw.replicate spec.dice spec.die.sample).run source position
    spec.dice < ((spec.rollDice limits).run source position).value.length ↔
      1 ≤ limits.rounds ∧ spec.threshold * spec.dice ≤ Resolution.sum dice.value := by
  intro dice
  have count := Draw.length_replicate spec.dice spec.die.sample source position
  obtain ⟨extra, values, -, -, closed, rounds⟩ := rounds_rollDice limits total source position
  have stopped : _ = [] ↔
      Resolution.sum dice.value < spec.threshold * spec.dice ∨ limits.rounds = 0 :=
    rounds.eq_nil_iff
  have enough := length_le_length_flatten fun chain member => (closed chain member).nonempty
  rw [values, List.length_append, count]
  constructor
  · intro longer
    have some_round : ¬ (Resolution.sum dice.value < spec.threshold * spec.dice ∨
        limits.rounds = 0) := by
      rw [← stopped]
      intro empty
      simp [empty] at longer
    omega
  · rintro ⟨allowed, met⟩
    have some_round := stopped.not.mpr (by omega)
    have positive := List.length_pos_iff.mpr some_round
    omega

theorem take_rollDice (total : spec.mode = .explodeAll) (limits : Limits) (source : WordSource)
    (position : Nat) :
    ((spec.rollDice limits).run source position).value.take spec.dice =
      ((Draw.replicate spec.dice spec.die.sample).run source position).value := by
  obtain ⟨extra, values, -⟩ := rounds_rollDice limits total source position
  rw [values, List.take_left' (Draw.length_replicate ..)]

theorem mul_faces_le_sum_iff (valid : spec.validate = .ok ()) (source : WordSource)
    (position : Nat) :
    let dice := (Draw.replicate spec.dice spec.die.sample).run source position
    spec.faces * spec.dice ≤ Resolution.sum dice.value ↔
      ∀ roll ∈ dice.value, roll = spec.faces := by
  have drew := spec.die.drew_replicate_sample spec.dice source position
  have below := Resolution.mul_le_sum_iff
    fun roll member => (between_of_valid valid drew roll member).2
  rw [Draw.length_replicate, Nat.mul_comm] at below
  exact below

section Top

variable (top : ∀ index, source index = 4294967295)
include top

theorem eq_faces_of_top (valid : spec.validate = .ok ()) (bounded : spec.Bounded) {after : Nat}
    {rolls : List Nat} (drew : spec.die.Drew source position rolls after) :
    ∀ roll ∈ rolls, roll = spec.faces := by
  have facesFit : spec.die.faces ≤ largestNumber := bounded.faces_le
  have highest : spec.die.max = spec.faces := Die.max_eq_faces (faces_pos_of_valid valid)
  rw [← drew.1, ← highest]
  refine Draw.forall_mem_replicate (· = spec.die.max) (fun position => ?_) _ _
  rw [Die.run_sample_of_last facesFit (top position)]

theorem dice_lt_length_of_top_chains (single : spec.mode = .explode)
    (valid : spec.validate = .ok ()) (bounded : spec.Bounded)
    (reachable : spec.threshold ≤ spec.faces) (allowed : 1 ≤ limits.extraPerDie) :
    spec.dice < ((spec.rollDice limits).run source position).value.length := by
  have drew := (drew_rollDice limits spec source position).1
  have shown := eq_faces_of_top top valid bounded drew
  obtain ⟨chains, values, count, closed⟩ := chains_rollDice limits single source position
  rw [values] at shown ⊢
  -- A chain of a single value would have stopped short of its limit, at a face that explodes.
  have pairs : ∀ chain ∈ chains, 2 ≤ chain.length := by
    intro chain member
    by_contra short
    have some_value := (closed chain member).nonempty
    have low := (closed chain member).ended (by omega) _ (List.getLast?_eq_some_getLast some_value)
    have high := shown _ (List.mem_flatten.mpr ⟨chain, member, List.getLast_mem some_value⟩)
    omega
  have longer := length_mul_le_length_flatten pairs
  have some_die := dice_pos_of_valid valid
  omega

theorem dice_lt_length_of_top_dice (total : spec.mode = .explodeAll)
    (valid : spec.validate = .ok ()) (bounded : spec.Bounded)
    (reachable : spec.threshold ≤ spec.faces) (allowed : 1 ≤ limits.rounds) :
    spec.dice < ((spec.rollDice limits).run source position).value.length := by
  have drew := spec.die.drew_replicate_sample spec.dice source position
  have shown := eq_faces_of_top top valid bounded drew
  have met := (mul_faces_le_sum_iff valid source position).mpr shown
  have target := Nat.mul_le_mul_right spec.dice reachable
  exact (dice_lt_length_rollDice_iff total limits source position).mpr
    ⟨allowed, Nat.le_trans target met⟩

end Top

theorem dice_explode_iff_threshold_can_be_rolled (read : parse code = .ok spec)
    (valid : spec.validate = .ok ()) (exploding : spec.mode = .explode ∨ spec.mode = .explodeAll)
    (limits : Limits) :
    (∃ (reading : Reading) (plain : Spec), reading.Cuts code ∧
      parse reading.sumCode = .ok plain ∧ plain.Sums spec) ∧
    (spec.faces < spec.threshold → ∀ plain : Spec, plain.Sums spec →
      ∀ (source : WordSource) (position : Nat),
        let drawn := (spec.roll limits).run source position
        let summed := (plain.roll limits).run source position
        (∃ outcome, drawn.value = .ok outcome) ∧ summed.value = drawn.value ∧
          summed.position = drawn.position) ∧
    (spec.threshold ≤ spec.faces → (spec.mode = .explode → 1 ≤ limits.extraPerDie) →
      (spec.mode = .explodeAll → 1 ≤ limits.rounds) →
      ∃ source : WordSource, ∀ position, ∃ outcome,
        ((spec.roll limits).run source position).value = .ok outcome ∧
          spec.dice < outcome.rolls.length) := by
  have bounded := bounded_of_parse read
  refine ⟨exists_sums read valid, ?_, ?_⟩
  · intro unreachable plain sums source position
    have single := run_rollDice_of_unreachable valid unreachable limits source position
    exact ⟨⟨_, congrArg Drawn.value (run_roll_of_ok valid source position)⟩,
      sums.run_roll valid exploding single⟩
  · intro reachable perDie rounds
    refine ⟨fun _ => 4294967295, fun position => ?_⟩
    rw [run_roll_of_ok valid]
    refine ⟨_, rfl, ?_⟩
    obtain single | total := exploding
    · exact dice_lt_length_of_top_chains (fun _ => rfl) single valid bounded reachable
        (perDie single)
    · exact dice_lt_length_of_top_dice (fun _ => rfl) total valid bounded reachable (rounds total)

theorem unreachable_threshold_sums_zero_based_dice :
    let spec : Spec := ⟨"2e004.5-1", 2, .explodeAll, 4, true, 5, .minus, 1⟩
    let plain : Spec := ⟨"2d004-1", 2, .sum, 4, true, 4, .minus, 1⟩
    let drawn := (spec.roll {}).run (fun _ => 4294967295) 0
    let summed := (plain.roll {}).run (fun _ => 4294967295) 0
    parse "2e004.5-1" = .ok spec ∧ spec.validate = .ok () ∧ spec.mode = .explodeAll ∧
      parse "2d004-1" = .ok plain ∧ drawn.value = .ok ⟨[4, 4], 7⟩ ∧
      summed.value = drawn.value ∧ summed.position = drawn.position := by
  intro spec plain drawn summed
  have read : parse "2e004.5-1" = .ok spec := by rfl
  have valid : spec.validate = .ok () := by decide
  have sums : plain.Sums spec := ⟨by decide, rfl, rfl, rfl, rfl, rfl⟩
  have rolled : drawn.value = .ok ⟨[4, 4], 7⟩ := by decide +kernel
  obtain ⟨-, unreachable, -⟩ :=
    dice_explode_iff_threshold_can_be_rolled read valid (.inr rfl) {}
  obtain ⟨-, same⟩ := unreachable (by decide) plain sums (fun _ => 4294967295) 0
  exact ⟨read, valid, rfl, by rfl, rolled, same⟩

theorem rounds_follow_top_faces_alone (read : parse code = .ok spec)
    (valid : spec.validate = .ok ()) (total : spec.mode = .explodeAll)
    (topped : spec.threshold = spec.faces) (allowed : 1 ≤ limits.rounds) (source : WordSource)
    (position : Nat) :
    let drawn := (spec.roll limits).run source position
    (∃ (reading : Reading) (plain : Spec), reading.Cuts code ∧
      parse reading.sumCode = .ok plain ∧ plain.Sums spec) ∧
    ∃ outcome, drawn.value = .ok outcome ∧ spec.dice ≤ outcome.rolls.length ∧
      (spec.dice < outcome.rolls.length ↔
        ∀ roll ∈ outcome.rolls.take spec.dice, roll = spec.faces) ∧
      (¬ (∀ roll ∈ outcome.rolls.take spec.dice, roll = spec.faces) →
        outcome.rolls.length = spec.dice ∧ ∀ plain : Spec, plain.Sums spec →
          let summed := (plain.roll limits).run source position
          summed.value = drawn.value ∧ summed.position = drawn.position) := by
  intro drawn
  have met := mul_faces_le_sum_iff valid source position
  have longer := dice_lt_length_rollDice_iff total limits source position
  have enough := (drew_rollDice limits spec source position).2
  dsimp only at met longer
  simp only [topped, met, allowed, true_and] at longer
  refine ⟨exists_sums read valid, ?_⟩
  have rolled : drawn = _ := run_roll_of_ok valid source position
  rw [rolled]
  refine ⟨_, rfl, enough, ?_, ?_⟩
  · rw [outcomeOf, take_rollDice total]
    exact longer
  · rw [outcomeOf, take_rollDice total]
    intro others
    refine ⟨Nat.le_antisymm (Nat.not_lt.mp (mt longer.mp others)) enough, fun plain sums => ?_⟩
    rw [← rolled]
    refine sums.run_roll valid (.inr total) (run_rollDice_of_missed total ?_)
    rw [topped]
    exact Nat.not_le.mp (mt met.mp others)

theorem lower_face_adds_no_round :
    let spec : Spec := ⟨"2e06+1", 2, .explodeAll, 6, true, 6, .plus, 1⟩
    let source : WordSource := fun position => if position = 0 then 4294967295 else 0
    parse "2e06+1" = .ok spec ∧ spec.validate = .ok () ∧ spec.mode = .explodeAll ∧
      ∃ outcome, ((spec.roll ⟨1000, 1⟩).run source 0).value = .ok outcome ∧
        outcome = ⟨[6, 0], 7⟩ ∧ ¬ (∀ roll ∈ outcome.rolls.take 2, roll = 6) := by
  intro spec source
  have read : parse "2e06+1" = .ok spec := by rfl
  have valid : spec.validate = .ok () := by decide
  have rolled : ((spec.roll ⟨1000, 1⟩).run source 0).value = .ok ⟨[6, 0], 7⟩ := by decide +kernel
  obtain ⟨-, outcome, found, -, longer, -⟩ :=
    @rounds_follow_top_faces_alone _ spec ⟨1000, 1⟩ read valid rfl rfl (by decide) source 0
  obtain rfl : outcome = ⟨[6, 0], 7⟩ := Except.ok.inj (found.symm.trans rolled)
  exact ⟨read, valid, rfl, _, found, rfl, mt longer.mpr (by decide)⟩

end Spec

end DiceNotation
