import DiceNotation.Proofs.Bounds

set_option autoImplicit false

namespace DiceNotation

theorem Chain.eq_nil_of_low {threshold cap value : Nat} {front back : List Nat}
    (closed : Chain threshold cap (front ++ value :: back)) (low : value < threshold) :
    back = [] := by
  by_contra more
  have exploded := closed.exploded value
    (by simp [List.dropLast_append_of_ne_nil, List.dropLast_cons_of_ne_nil more])
  exact absurd low (Nat.not_lt.mpr exploded)

theorem Reading.Cuts.validate_eq_ok_iff_min_lt {reading : Reading} {spec : Spec}
    (cuts : reading.Cuts spec.code) (counted : spec.mode.isKeep = false)
    (short : reading.count.length ≤ 2) (faced : reading.faces ≠ []) (some_die : 1 ≤ spec.dice)
    (some_face : 1 ≤ spec.faces) (enough : spec.zeroBased = true ∨ 2 ≤ spec.faces) :
    spec.validate = .ok () ↔ spec.die.min < spec.threshold := by
  have unkept : spec.mode ≠ .keepHighest ∧ spec.mode ≠ .keepLowest := by
    constructor <;> intro keep <;> simp [keep, Mode.isKeep] at counted
  have numbered : spec.die.zeroBased = spec.zeroBased := rfl
  rw [cuts.validate_eq_ok_iff, Die.min_lt_iff, numbered]
  obtain zero | two := enough
  · simp [short, faced, some_die, some_face, zero]
  · simp [short, faced, some_die, some_face, two, unkept]

namespace Die

variable {die : Die} {threshold : Nat}

theorem run_explode_of_low {source : WordSource} {position : Nat} (cap : Nat)
    (low : (die.sample.run source position).value < threshold) :
    (die.explode threshold cap).run source position =
      (List.singleton <$> die.sample).run source position := by
  simp [explode, die.explodeFrom_of_lt cap cap low, List.singleton]

theorem explodeTotal_of_lt {dice : Nat} {rolls : List Nat} (limits : Limits)
    (low : Resolution.sum rolls < threshold * dice) :
    die.explodeTotal threshold dice limits rolls = pure rolls := by
  have missed : Resolution.sum rolls < threshold * (dice + 0) := low
  simp [explodeTotal, die.explodeRounds_of_lt _ _ missed]

end Die

namespace Spec

variable {spec : Spec} {limits : Limits} {source : WordSource} {position : Nat}

theorem run_rollDice_of_missed (total : spec.mode = .explodeAll)
    (missed :
      Resolution.sum ((Draw.replicate spec.dice spec.die.sample).run source position).value <
        spec.threshold * spec.dice) :
    (spec.rollDice limits).run source position =
      (Draw.replicate spec.dice spec.die.sample).run source position := by
  simp [rollDice_of_explodeAll limits total, Die.explodeTotal_of_lt limits missed]

theorem run_rollDice_of_low_dice (single : spec.mode = .explode)
    (low : ∀ roll ∈ ((Draw.replicate spec.dice spec.die.sample).run source position).value,
      roll < spec.threshold) :
    (spec.rollDice limits).run source position =
      (Draw.replicate spec.dice spec.die.sample).run source position := by
  have same (position : Nat)
      (below : ∀ roll ∈ ((List.singleton <$> spec.die.sample).run source position).value,
        roll < spec.threshold) :
      (spec.die.explode spec.threshold limits.extraPerDie).run source position =
        (List.singleton <$> spec.die.sample).run source position :=
    Die.run_explode_of_low _ (below _ (by simp [List.singleton]))
  -- The samples are taken as chains of one value, since chains are what an exploding die draws.
  rw [← Draw.flatten_replicate_singleton spec.dice spec.die.sample] at low ⊢
  rw [rollDice_of_explode limits single, Draw.run_map, Draw.run_map,
    Draw.run_replicate_congr (∀ roll ∈ ·, roll < spec.threshold) same]
  intro chain member roll inside
  exact low roll (List.mem_flatten.mpr ⟨chain, member, inside⟩)

theorem run_rollDice_of_low (some_die : 1 ≤ spec.dice)
    (low : spec.mode = .explode ∨ spec.mode = .explodeAll →
      ∀ roll ∈ ((Draw.replicate spec.dice spec.die.sample).run source position).value,
        roll < spec.threshold) :
    (spec.rollDice limits).run source position =
      (Draw.replicate spec.dice spec.die.sample).run source position := by
  by_cases single : spec.mode = .explode
  · exact run_rollDice_of_low_dice single (low (.inl single))
  · by_cases total : spec.mode = .explodeAll
    · have count := Draw.length_replicate spec.dice spec.die.sample source position
      have below := Resolution.sum_lt (List.ne_nil_of_length_pos (by omega)) (low (.inr total))
      rw [count, Nat.mul_comm] at below
      exact run_rollDice_of_missed total below
    · rw [rollDice_of_plain limits single total]

theorem min_lt_threshold_of_exploding (valid : spec.validate = .ok ())
    (exploding : spec.mode = .explode ∨ spec.mode = .explodeAll) :
    spec.die.min < spec.threshold := by
  have counted : spec.mode.isKeep = false := by
    obtain single | total := exploding
    · simp [single, Mode.isKeep]
    · simp [total, Mode.isKeep]
  exact min_lt_threshold_of_valid valid counted

theorem run_rollDice_of_first (valid : spec.validate = .ok ()) (bounded : spec.Bounded)
    (first : ∀ index, source index = 0) :
    (spec.rollDice limits).run source position =
      ⟨List.replicate spec.dice spec.die.min, position + spec.dice, []⟩ := by
  have facesFit : spec.die.faces ≤ largestNumber := bounded.faces_le
  have samples := Draw.run_replicate_of_each
    (fun position => Die.run_sample_of_first facesFit (first position)) spec.dice position
  rw [run_rollDice_of_low (dice_pos_of_valid valid), samples]
  intro exploding roll member
  rw [samples] at member
  rw [List.eq_of_mem_replicate member]
  exact min_lt_threshold_of_exploding valid exploding

theorem lowest_face_never_explodes {code : String} (read : parse code = .ok spec) :
    (∃ reading : Reading, reading.Cuts code ∧
      (spec.mode.isKeep = false → reading.count.length ≤ 2 → reading.faces ≠ [] →
        1 ≤ spec.dice → 1 ≤ spec.faces → spec.zeroBased = true ∨ 2 ≤ spec.faces →
        (spec.validate = .ok () ↔ spec.die.min < spec.threshold))) ∧
    (spec.validate = .ok () → ∀ (limits : Limits) (source : WordSource) (position : Nat),
      let dice := (Draw.replicate spec.dice spec.die.sample).run source position
      let chain := (spec.die.roll .explode spec.threshold limits).run source position
      let drawn := (spec.roll limits).run source position
      ∃ outcome, drawn.value = .ok outcome ∧
        (spec.mode = .explode ∨ spec.mode = .explodeAll →
          ∀ values ∈ chain.value :: spec.chains limits outcome.rolls, ∀ front back,
            values = front ++ spec.die.min :: back → back = []) ∧
        (spec.mode = .explodeAll → (∀ roll ∈ dice.value, roll = spec.die.min) →
          outcome.rolls = dice.value ∧ drawn.position = dice.position) ∧
        ((∀ index, source index = 0) →
          outcome.rolls = List.replicate spec.dice spec.die.min ∧
            drawn.position = position + spec.dice)) := by
  constructor
  · obtain ⟨reading, mode, cuts, -, -, rfl⟩ := exists_cuts_of_parse read
    refine ⟨reading, cuts, ?_⟩
    intro counted short faced some_die some_face enough
    exact Reading.Cuts.validate_eq_ok_iff_min_lt cuts counted short faced some_die some_face enough
  · intro valid limits source position dice chain drawn
    obtain ⟨-, -, closed, -⟩ := flatten_chains_rollDice limits spec source position
    have rolled : drawn = _ := run_roll_of_ok valid source position
    rw [rolled]
    refine ⟨_, rfl, ?_, ?_, ?_⟩
    · rintro exploding values member front back rfl
      have chained : Chain spec.threshold limits.extraPerDie (front ++ spec.die.min :: back) := by
        obtain same | inside := List.mem_cons.mp member
        · simp only [same, chain, Die.roll_explode]
          exact (spec.die.chain_explode spec.threshold limits.extraPerDie source position).1
        · exact closed _ inside
      exact chained.eq_nil_of_low (min_lt_threshold_of_exploding valid exploding)
    · intro total lowest
      have same : (spec.rollDice limits).run source position = dice :=
        run_rollDice_of_low (dice_pos_of_valid valid) fun exploding roll member =>
          lowest roll member ▸ min_lt_threshold_of_exploding valid exploding
      simp only [outcomeOf, same, and_self]
    · intro first
      simp only [outcomeOf, run_rollDice_of_first valid (bounded_of_parse read) first, and_self]

theorem threshold_of_one_spares_the_zero_face :
    let spec : Spec := ⟨"2e04.1-9", 2, .explodeAll, 4, true, 1, .minus, 9⟩
    let drawn := (spec.roll {}).run (fun _ => 0) 5
    parse "2e04.1-9" = .ok spec ∧ spec.validate = .ok () ∧ drawn.position = 7 ∧
      ∃ outcome, drawn.value = .ok outcome ∧ outcome.rolls = [0, 0] := by
  intro spec drawn
  have read : parse "2e04.1-9" = .ok spec := by rfl
  have valid : spec.validate = .ok () := by decide
  obtain ⟨-, rolled⟩ := lowest_face_never_explodes read
  obtain ⟨outcome, found, -, -, first⟩ := rolled valid {} (fun _ => 0) 5
  obtain ⟨rolls, reached⟩ := first fun _ => rfl
  exact ⟨read, valid, reached, outcome, found, rolls⟩

end Spec

end DiceNotation
