import DiceNotation.Log
import DiceNotation.Proofs.Truncation

set_option autoImplicit false

namespace DiceNotation

namespace Event

def withMessage (message : String) (events : List Event) : List Event :=
  events.filter (·.message = message)

variable {message : String}

@[simp] theorem withMessage_nil : withMessage message [] = [] := rfl

@[simp] theorem withMessage_cons (event : Event) (rest : List Event) :
    withMessage message (event :: rest) =
      if event.message = message then event :: withMessage message rest
      else withMessage message rest := by
  simp [withMessage, List.filter_cons]

@[simp] theorem withMessage_append (first second : List Event) :
    withMessage message (first ++ second) =
      withMessage message first ++ withMessage message second :=
  List.filter_append ..

theorem withMessage_flatMap {α : Type} (log : α → List Event) (list : List α) :
    withMessage message (list.flatMap log) =
      list.flatMap fun item => withMessage message (log item) :=
  List.filter_flatMap ..

theorem withMessage_exploded (values : List Nat) :
    withMessage message (values.map .dieExploded) =
      if message = "die exploded" then values.map .dieExploded else [] := by
  induction values with
  | nil => simp
  | cons value rest ih =>
    rw [List.map_cons, withMessage_cons, ih]
    by_cases exploded : "die exploded" = message
    · subst exploded
      simp [Event.message]
    · simp [Event.message, exploded, Ne.symm exploded]

theorem exists_warning_iff {events : List Event} :
    (∃ event ∈ events, event.level? = some .warn) ↔
      (∃ extra threshold, .dieCapped extra threshold ∈
        withMessage "explosion cap reached for one die" events) ∨
      ∃ round total target, .totalCapped round total target ∈
        withMessage "explode-on-total cap reached" events := by
  simp only [withMessage, List.mem_filter, message, decide_true, and_true]
  constructor
  · rintro ⟨event, member, warns⟩
    cases event with
    | dieCapped extra threshold => exact .inl ⟨extra, threshold, member⟩
    | totalCapped round total target => exact .inr ⟨round, total, target, member⟩
    | _ => simp [level?] at warns
  · rintro (⟨_, _, member⟩ | ⟨_, _, _, member⟩)
    · exact ⟨_, member, rfl⟩
    · exact ⟨_, member, rfl⟩

end Event

def chainLog (threshold cap : Nat) (chain : List Nat) : List Event :=
  chain.tail.map .dieExploded ++
    if isCapped threshold cap chain then [.dieCapped cap threshold] else []

def roundsLog (threshold dice cap : Nat) : (round total : Nat) → List (List Nat) → List Event
  | round, total, [] =>
    let target := threshold * (dice + round)
    if target ≤ total then [.totalCapped round total target] else []
  | round, total, chain :: rest =>
    .totalExploded round total (threshold * (dice + round)) ::
      (chainLog threshold cap chain ++
        roundsLog threshold dice cap (round + 1) (total + Resolution.sum chain) rest)

theorem Draw.events_replicate {α : Type} {draw : Draw α} {source : WordSource}
    (log : α → List Event)
    (each : ∀ position,
      (draw.run source position).events = log (draw.run source position).value)
    (count position : Nat) :
    let drawn := (replicate count draw).run source position
    drawn.events = drawn.value.flatMap log := by
  induction count generalizing position with
  | zero => rfl
  | succ count ih =>
    simp only [replicate, run_bind, run_map, List.flatMap_cons]
    rw [each, ih]

namespace Die

variable {die : Die} {threshold cap : Nat} {source : WordSource}

theorem events_sample (die : Die) (source : WordSource) (position : Nat) :
    (die.sample.run source position).events = [] := by
  rw [sample, Draw.run_map, Draw.run_below]
  dsimp only
  split <;> rfl

theorem events_explodeFrom (remaining latest position : Nat) :
    let drawn := (die.explodeFrom threshold cap remaining latest).run source position
    drawn.events = drawn.value.map .dieExploded ++
      if isCapped threshold remaining (latest :: drawn.value) then [.dieCapped cap threshold]
      else [] := by
  induction remaining generalizing latest position with
  | zero => by_cases high : threshold ≤ latest <;> simp [explodeFrom, isCapped, high]
  | succ remaining ih =>
    by_cases high : threshold ≤ latest
    · simp [explodeFrom, isCapped, high, events_sample, ih]
    · simp [explodeFrom, isCapped, high]

theorem events_explode (position : Nat) :
    let drawn := (die.explode threshold cap).run source position
    drawn.events = chainLog threshold cap drawn.value := by
  simp only [explode, Draw.run_bind, Draw.run_map, events_sample, List.nil_append,
    events_explodeFrom, chainLog, List.tail_cons]

theorem events_explodeRounds (dice remaining round total position : Nat) :
    let drawn :=
      (die.explodeRounds threshold dice cap remaining round total).run source position
    drawn.events = roundsLog threshold dice cap round total
      (cutChains threshold cap drawn.value).1 := by
  induction remaining generalizing round total position with
  | zero =>
    by_cases high : threshold * (dice + round) ≤ total <;>
      simp [explodeRounds, high, cutChains, cutFrom, roundsLog]
  | succ remaining ih =>
    by_cases high : threshold * (dice + round) ≤ total
    · have closed := (die.chain_explode threshold cap source position).1
      simp only [explodeRounds, high, if_true, Draw.run_bind, Draw.run_map, Draw.run_note,
        cutChains_append closed, roundsLog, ← events_explode, ← ih, List.singleton_append]
    · simp [explodeRounds, high, cutChains, cutFrom, roundsLog]

end Die

section Messages

open Event (withMessage)

variable (threshold cap : Nat) (chains : List (List Nat))

theorem withMessage_chainLog (message : String) (chain : List Nat) :
    withMessage message (chainLog threshold cap chain) =
      (if message = "die exploded" then chain.tail.map .dieExploded else []) ++
        if message = "explosion cap reached for one die" ∧ isCapped threshold cap chain then
          [.dieCapped cap threshold]
        else [] := by
  rw [chainLog, Event.withMessage_append, Event.withMessage_exploded]
  by_cases full : isCapped threshold cap chain <;> simp [full, Event.message, eq_comm]

theorem exploded_chainLogs :
    withMessage "die exploded" (chains.flatMap (chainLog threshold cap)) =
      (chains.flatMap List.tail).map .dieExploded := by
  simp [Event.withMessage_flatMap, withMessage_chainLog, List.map_flatMap]

theorem capped_chainLogs :
    withMessage "explosion cap reached for one die" (chains.flatMap (chainLog threshold cap)) =
      List.replicate (chains.countP (isCapped threshold cap)) (.dieCapped cap threshold) := by
  induction chains with
  | nil => rfl
  | cons chain rest ih =>
    by_cases full : isCapped threshold cap chain <;>
      simp [withMessage_chainLog, full, ih, List.replicate_succ]

theorem totals_chainLogs {message : String} (exploded : message ≠ "die exploded")
    (capped : message ≠ "explosion cap reached for one die") :
    withMessage message (chains.flatMap (chainLog threshold cap)) = [] := by
  simp [Event.withMessage_flatMap, withMessage_chainLog, exploded, capped]

variable (dice round total : Nat)

theorem die_roundsLog {message : String} (exploded : message ≠ "total exploded")
    (capped : message ≠ "explode-on-total cap reached") :
    withMessage message (roundsLog threshold dice cap round total chains) =
      withMessage message (chains.flatMap (chainLog threshold cap)) := by
  induction chains generalizing round total with
  | nil =>
    by_cases high : threshold * (dice + round) ≤ total <;>
      simp [roundsLog, high, Event.message, capped.symm]
  | cons chain rest ih => simp [roundsLog, ih, Event.message, exploded.symm]

theorem exploded_roundsLog :
    withMessage "total exploded" (roundsLog threshold dice cap round total chains) =
      (List.range chains.length).map fun r =>
        .totalExploded (round + r) (total + Resolution.sum (chains.take r).flatten)
          (threshold * (dice + (round + r))) := by
  induction chains generalizing round total with
  | nil =>
    by_cases high : threshold * (dice + round) ≤ total <;> simp [roundsLog, high, Event.message]
  | cons chain rest ih =>
    simp [roundsLog, ih, withMessage_chainLog, Event.message, List.range_succ_eq_map,
      Nat.add_assoc, Nat.add_comm 1]

theorem capped_roundsLog :
    let sum := total + Resolution.sum chains.flatten
    let target := threshold * (dice + (round + chains.length))
    withMessage "explode-on-total cap reached" (roundsLog threshold dice cap round total chains) =
      if target ≤ sum then [.totalCapped (round + chains.length) sum target] else [] := by
  induction chains generalizing round total with
  | nil =>
    by_cases high : threshold * (dice + round) ≤ total <;>
      simp [roundsLog, high, Event.message]
  | cons chain rest ih =>
    simp [roundsLog, ih, withMessage_chainLog, Event.message, Nat.add_assoc, Nat.add_comm 1]

end Messages

theorem Chain.settled_iff {threshold cap : Nat} {chain : List Nat}
    (closed : Chain threshold cap chain) :
    Settled threshold chain ↔ ¬ isCapped threshold cap chain := by
  obtain ⟨front, last, rfl⟩ : ∃ front last, chain = front ++ [last] :=
    ⟨_, _, (List.dropLast_concat_getLast closed.nonempty).symm⟩
  have front_high : front.countP (· < threshold) = 0 := by
    simpa [List.countP_eq_zero] using closed.exploded
  -- A chain has one low value or else is capped, and none of its values but the last is low.
  have one := closed.count_low
  rw [List.countP_append, front_high, List.countP_singleton] at one
  by_cases low : last < threshold <;> simp_all [Settled]

theorem length_flatMap_tail {chains : List (List Nat)} (each : ∀ chain ∈ chains, chain ≠ []) :
    (chains.flatMap List.tail).length + chains.length = chains.flatten.length := by
  induction chains with
  | nil => rfl
  | cons chain rest ih =>
    obtain ⟨here, others⟩ := List.forall_mem_cons.mp each
    have later := ih others
    have positive := List.length_pos_iff.mpr here
    simp only [List.flatMap_cons, List.length_append, List.length_tail, List.length_cons,
      List.flatten_cons]
    omega

namespace Spec

def explosionLog (limits : Limits) (spec : Spec) (rolls : List Nat) : List Event :=
  match spec.mode with
  | .explode => (spec.chains limits rolls).flatMap (chainLog spec.threshold limits.extraPerDie)
  | .explodeAll =>
    roundsLog spec.threshold spec.dice limits.extraPerDie 0
      (Resolution.sum (rolls.take spec.dice)) (spec.chains limits rolls)
  | _ => []

variable (limits : Limits) {spec : Spec}

theorem explosionLog_of_plain (single : spec.mode ≠ .explode) (total : spec.mode ≠ .explodeAll)
    (rolls : List Nat) : spec.explosionLog limits rolls = [] := by
  cases mode : spec.mode <;> simp_all [explosionLog]

theorem events_replicate_sample (spec : Spec) (source : WordSource) (position : Nat) :
    ((Draw.replicate spec.dice spec.die.sample).run source position).events = [] := by
  rw [Draw.events_replicate (fun _ => []) (spec.die.events_sample source)]
  simp

theorem rollDice_draws_chains (single : spec.mode = .explode) (source : WordSource)
    (position : Nat) :
    let drawn := (spec.rollDice limits).run source position
    let dice :=
      (Draw.replicate spec.dice (spec.die.explode spec.threshold limits.extraPerDie)).run source
        position
    drawn.value = dice.value.flatten ∧ spec.chains limits drawn.value = dice.value ∧
      drawn.events = dice.events := by
  have closed := Draw.forall_mem_replicate (Chain spec.threshold limits.extraPerDie)
    (fun position => (spec.die.chain_explode _ _ source position).1) spec.dice position
  rw [rollDice_of_explode limits single]
  simp only [chains, single, Draw.run_map, cutChains_flatten closed, and_self]

theorem events_rollDice (spec : Spec) (source : WordSource) (position : Nat) :
    let drawn := (spec.rollDice limits).run source position
    drawn.events = spec.explosionLog limits drawn.value := by
  by_cases single : spec.mode = .explode
  · obtain ⟨-, cut, events⟩ := rollDice_draws_chains limits single source position
    simp only [explosionLog, single, cut, events]
    exact Draw.events_replicate _ Die.events_explode ..
  · by_cases total : spec.mode = .explodeAll
    · have count := Draw.length_replicate spec.dice spec.die.sample source position
      have silent := events_replicate_sample spec source position
      rw [rollDice_of_explodeAll limits total]
      simp only [explosionLog, chains, total, Draw.run_bind, Die.explodeTotal, Draw.run_map,
        silent, List.nil_append, List.take_left' count, List.drop_left' count]
      exact Die.events_explodeRounds ..
    · rw [rollDice_of_plain limits single total]
      dsimp only
      rw [events_replicate_sample, explosionLog_of_plain limits single total]

theorem die_explosionLog {message : String} (exploded : message ≠ "total exploded")
    (capped : message ≠ "explode-on-total cap reached") (spec : Spec) (rolls : List Nat) :
    Event.withMessage message (spec.explosionLog limits rolls) =
      Event.withMessage message
        ((spec.chains limits rolls).flatMap (chainLog spec.threshold limits.extraPerDie)) := by
  cases mode : spec.mode <;> simp only [explosionLog, mode]
  case explodeAll => exact die_roundsLog _ _ _ _ _ _ exploded capped
  all_goals simp only [chains, mode, List.flatMap_nil]

theorem totals_explosionLog {message : String} (exploded : message ≠ "die exploded")
    (capped : message ≠ "explosion cap reached for one die")
    (unrounded : spec.mode ≠ .explodeAll) (rolls : List Nat) :
    Event.withMessage message (spec.explosionLog limits rolls) = [] := by
  cases mode : spec.mode <;> simp only [explosionLog, mode]
  case explode => exact totals_chainLogs _ _ _ exploded capped
  case explodeAll => exact absurd mode unrounded
  all_goals rfl

theorem rounds_explosionLog (total : spec.mode = .explodeAll) {front : List Nat}
    {chains : List (List Nat)} (count : front.length = spec.dice)
    (cut : spec.chains limits (front ++ chains.flatten) = chains)
    (rounds : Rounds spec.threshold spec.dice limits.rounds 0 (Resolution.sum front) chains) :
    let log := spec.explosionLog limits (front ++ chains.flatten)
    let before := fun r => Resolution.sum (front ++ (chains.take r).flatten)
    let target := fun r => spec.threshold * (spec.dice + r)
    let sum := Resolution.sum (front ++ chains.flatten)
    Event.withMessage "total exploded" log =
        (List.range chains.length).map (fun r => .totalExploded r (before r) (target r)) ∧
      Event.withMessage "explode-on-total cap reached" log =
        if chains.length = limits.rounds ∧ target chains.length ≤ sum then
          [.totalCapped chains.length sum (target chains.length)]
        else [] := by
  have log : spec.explosionLog limits (front ++ chains.flatten) =
      roundsLog spec.threshold spec.dice limits.extraPerDie 0 (Resolution.sum front) chains := by
    simp only [explosionLog, total, cut, List.take_left' count]
  -- Rounds that stop short of their limit stop at a target that they miss.
  have full : chains.length = limits.rounds ∧
        spec.threshold * (spec.dice + chains.length) ≤
          Resolution.sum front + Resolution.sum chains.flatten ↔
      spec.threshold * (spec.dice + chains.length) ≤
        Resolution.sum front + Resolution.sum chains.flatten := by
    have short := rounds.length_le
    have missed := rounds.missed
    rw [Nat.zero_add] at missed
    omega
  dsimp only
  rw [log, exploded_roundsLog, capped_roundsLog]
  simp only [Nat.zero_add, List.sum_append, full, and_self]

theorem totalCapped_rollDice (spec : Spec) (source : WordSource) (position : Nat) :
    let drawn := (spec.rollDice limits).run source position
    let rounds := (spec.chains limits drawn.value).length
    let target := spec.threshold * (spec.dice + rounds)
    let total := Resolution.sum drawn.value
    Event.withMessage "explode-on-total cap reached" drawn.events =
      if spec.mode = .explodeAll ∧ rounds = limits.rounds ∧ target ≤ total then
        [.totalCapped rounds total target]
      else [] := by
  dsimp only
  rw [events_rollDice]
  by_cases total : spec.mode = .explodeAll
  · obtain ⟨count, values, -, cut, -, rounds⟩ := rounds_rollDice limits total source position
    have capped := (rounds_explosionLog limits total (Draw.length_replicate ..) cut rounds).2
    rw [values, capped, cut]
    simp only [total, true_and]
  · rw [totals_explosionLog limits (by decide) (by decide) total]
    simp only [total, false_and, if_false]

theorem settled_iff {rolls : List Nat}
    (closed : ∀ chain ∈ spec.chains limits rolls,
      Chain spec.threshold limits.extraPerDie chain) :
    spec.Settled limits rolls ↔
      (spec.chains limits rolls).countP (isCapped spec.threshold limits.extraPerDie) = 0 ∧
        ¬ (spec.mode = .explodeAll ∧ (spec.chains limits rolls).length = limits.rounds ∧
          spec.threshold * (spec.dice + (spec.chains limits rolls).length) ≤
            Resolution.sum rolls) := by
  have ended : (∀ chain ∈ spec.chains limits rolls, DiceNotation.Settled spec.threshold chain) ↔
      (spec.chains limits rolls).countP (isCapped spec.threshold limits.extraPerDie) = 0 := by
    rw [List.countP_eq_zero]
    exact forall₂_congr fun chain inside => (closed chain inside).settled_iff
  rw [← ended]
  constructor
  · intro settled
    refine ⟨settled.ended, ?_⟩
    rintro ⟨total, last, met⟩
    exact Nat.not_le.mpr (settled.missed total last) met
  · rintro ⟨each, missed⟩
    exact ⟨each, fun total last => Nat.not_le.mp fun met => missed ⟨total, last, met⟩⟩

theorem exists_warning_iff (spec : Spec) (source : WordSource) (position : Nat) :
    let drawn := (spec.rollDice limits).run source position
    (∃ event ∈ drawn.events, event.level? = some .warn) ↔ ¬ spec.Settled limits drawn.value := by
  obtain ⟨front, -, closed, -⟩ := flatten_chains_rollDice limits spec source position
  have totals := totalCapped_rollDice limits spec source position
  dsimp only at closed totals ⊢
  rw [Event.exists_warning_iff, totals, events_rollDice, die_explosionLog limits (by decide)
    (by decide), capped_chainLogs, settled_iff limits closed, not_and_or, not_not]
  apply or_congr
  · simp [List.mem_replicate]
  · constructor
    · rintro ⟨round, total, target, member⟩
      by_contra missed
      simp [missed] at member
    · intro full
      rw [if_pos full]
      exact ⟨_, _, _, List.mem_singleton_self _⟩

theorem length_exploded_rollDice (spec : Spec) (source : WordSource) (position : Nat) :
    let rolls := ((spec.rollDice limits).run source position).value
    let chains := spec.chains limits rolls
    let rounds := if spec.mode = .explode then 0 else chains.length
    (chains.flatMap List.tail).length + spec.dice + rounds = rolls.length := by
  obtain ⟨front, values, closed, single_front, other_front⟩ :=
    flatten_chains_rollDice limits spec source position
  have extra := length_flatMap_tail fun chain inside => (closed chain inside).nonempty
  have length := congrArg List.length values
  rw [List.length_append, ← extra] at length
  by_cases single : spec.mode = .explode
  · obtain ⟨rfl, count⟩ := single_front single
    simp only [single, if_true, List.length_nil] at length ⊢
    omega
  · have count := other_front single
    simp only [single, if_false]
    omega

theorem rounds_logged (total : spec.mode = .explodeAll) (source : WordSource) (position : Nat) :
    let dice := (Draw.replicate spec.dice spec.die.sample).run source position
    let drawn := (spec.rollDice limits).run source position
    let chains := spec.chains limits drawn.value
    let before := fun r => Resolution.sum (dice.value ++ (chains.take r).flatten)
    let target := fun r => spec.threshold * (spec.dice + r)
    let explode := spec.die.explode spec.threshold limits.extraPerDie
    chains = ((Draw.replicate chains.length explode).run source dice.position).value ∧
      drawn.value = dice.value ++ chains.flatten ∧
      (∀ r < chains.length, target r ≤ before r) ∧
      Event.withMessage "total exploded" drawn.events =
        (List.range chains.length).map (fun r => .totalExploded r (before r) (target r)) := by
  have length := Draw.length_replicate spec.dice spec.die.sample source position
  obtain ⟨count, values, -, cut, -, rounds⟩ := rounds_rollDice limits total source position
  dsimp only at values cut rounds ⊢
  have logged := (rounds_explosionLog limits total length cut rounds).1
  have met := rounds.met
  simp only [Draw.length_replicate, Nat.zero_add, ← List.sum_append] at logged met
  rw [events_rollDice, values, cut, Draw.length_replicate]
  exact ⟨rfl, rfl, met, logged⟩

theorem log_accounts_for_extra_dice (limits : Limits) {spec : Spec}
    (valid : spec.validate = .ok ()) (source : WordSource) (position : Nat) :
    let drawn := (spec.roll limits).run source position
    let logged := fun message => Event.withMessage message drawn.events
    let explode := spec.die.roll .explode spec.threshold limits
    ∃ outcome, drawn.value = .ok outcome ∧
      let chains := spec.chains limits outcome.rolls
      logged "die exploded" = (chains.flatMap List.tail).map .dieExploded ∧
      logged "explosion cap reached for one die" =
        List.replicate (chains.countP (isCapped spec.threshold limits.extraPerDie))
          (.dieCapped limits.extraPerDie spec.threshold) ∧
      (spec.mode = .explode →
        chains = ((Draw.replicate spec.dice explode).run source position).value ∧
        outcome.rolls = chains.flatten ∧
        (logged "die exploded").length + spec.dice = outcome.count ∧
        logged "total exploded" = [] ∧ logged "explode-on-total cap reached" = []) ∧
      (spec.mode = .explodeAll →
        let dice := (Draw.replicate spec.dice spec.die.sample).run source position
        let rounds := chains.length
        let before := fun r => Resolution.sum (dice.value ++ (chains.take r).flatten)
        let target := fun r => spec.threshold * (spec.dice + r)
        chains = ((Draw.replicate rounds explode).run source dice.position).value ∧
        outcome.rolls = dice.value ++ chains.flatten ∧
        (logged "die exploded").length + spec.dice + rounds = outcome.count ∧
        (∀ r < rounds, target r ≤ before r) ∧
        logged "total exploded" =
          (List.range rounds).map (fun r => .totalExploded r (before r) (target r)) ∧
        logged "explode-on-total cap reached" =
          if rounds = limits.rounds ∧ target rounds ≤ outcome.rawSum then
            [.totalCapped rounds outcome.rawSum (target rounds)]
          else []) ∧
      (spec.mode ≠ .explode → spec.mode ≠ .explodeAll →
        drawn.events = [.rolled spec.code outcome.rolls outcome.total]) ∧
      ((∃ event ∈ drawn.events, event.level? = some .warn) ↔
        ¬ spec.Settled limits outcome.rolls) := by
  intro drawn logged explode
  have rolled : drawn = _ := run_roll_of_ok valid source position
  have told {message : String} (other : "rolled" ≠ message) : logged message =
      Event.withMessage message ((spec.rollDice limits).run source position).events := by
    simp [logged, rolled, Event.message, other]
  have exploding : explode = spec.die.explode spec.threshold limits.extraPerDie :=
    spec.die.roll_explode ..
  have exploded : logged "die exploded" = _ := told (by decide)
  have capped : logged "explosion cap reached for one die" = _ := told (by decide)
  have totalExploded : logged "total exploded" = _ := told (by decide)
  have totalCapped : logged "explode-on-total cap reached" = _ :=
    (told (by decide)).trans (totalCapped_rollDice limits spec source position)
  have count := length_exploded_rollDice limits spec source position
  have events := events_rollDice limits spec source position
  dsimp only at count events
  rw [events, die_explosionLog limits (by decide) (by decide), exploded_chainLogs] at exploded
  rw [events, die_explosionLog limits (by decide) (by decide), capped_chainLogs] at capped
  rw [exploding, totalExploded, totalCapped, exploded, List.length_map]
  refine ⟨_, congrArg Drawn.value rolled, rfl, capped, ?_, ?_, ?_, ?_⟩
  · intro single
    obtain ⟨values, cut, -⟩ := rollDice_draws_chains limits single source position
    have unrounded : spec.mode ≠ .explodeAll := by simp [single]
    rw [if_pos single] at count
    refine ⟨cut, values.trans (congrArg List.flatten cut).symm, count, ?_, ?_⟩
    · rw [events, totals_explosionLog limits (by decide) (by decide) unrounded]
    · exact if_neg fun full => unrounded full.1
  · intro total
    obtain ⟨draws, values, met, rounds⟩ := rounds_logged limits total source position
    have unchained : spec.mode ≠ .explode := by simp [total]
    rw [if_neg unchained] at count
    refine ⟨draws, values, count, met, rounds, ?_⟩
    simp only [total, true_and]
    rfl
  · intro single total
    rw [rolled]
    dsimp only
    rw [events, explosionLog_of_plain limits single total, List.nil_append]
  · rw [rolled]
    simpa [Event.level?, outcomeOf] using exists_warning_iff limits spec source position

theorem dice_of_sixes_log_their_caps :
    let spec : Spec := ⟨"2e6.6", 2, .explodeAll, 6, false, 6, .plus, 0⟩
    let drawn := (spec.roll ⟨1, 1⟩).run (fun _ => 4294967295) 0
    parse "2e6.6" = .ok spec ∧ spec.validate = .ok () ∧
      drawn.value = .ok ⟨[6, 6, 6, 6], 24⟩ ∧
      Event.withMessage "die exploded" drawn.events = [.dieExploded 6] ∧
      Event.withMessage "explosion cap reached for one die" drawn.events = [.dieCapped 1 6] ∧
      Event.withMessage "total exploded" drawn.events = [.totalExploded 0 12 12] ∧
      Event.withMessage "explode-on-total cap reached" drawn.events = [.totalCapped 1 24 18] := by
  intro spec drawn
  have valid : spec.validate = .ok () := by decide
  have rolled : drawn.value = .ok ⟨[6, 6, 6, 6], 24⟩ := by decide +kernel
  obtain ⟨outcome, found, exploded, capped, -, rounds, -⟩ :=
    log_accounts_for_extra_dice ⟨1, 1⟩ valid (fun _ => 4294967295) 0
  obtain rfl : outcome = ⟨[6, 6, 6, 6], 24⟩ := Except.ok.inj (found.symm.trans rolled)
  obtain ⟨-, -, -, -, totalExploded, totalCapped⟩ := rounds rfl
  exact ⟨by rfl, valid, rolled, exploded, capped, totalExploded.trans (by decide +kernel),
    totalCapped⟩

end Spec

end DiceNotation
