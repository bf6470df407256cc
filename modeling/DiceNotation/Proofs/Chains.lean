import DiceNotation.Proofs.Totals

set_option autoImplicit false

namespace DiceNotation

-- The first argument is the chain that is still open.
def cutFrom (threshold cap : Nat) : List Nat → List Nat → List (List Nat) × List Nat
  | chain, [] => ([], chain)
  | chain, value :: rest =>
    if value < threshold ∨ chain.length + 1 = cap + 1 then
      let (chains, left) := cutFrom threshold cap [] rest
      ((chain ++ [value]) :: chains, left)
    else
      cutFrom threshold cap (chain ++ [value]) rest

-- The values behind the last cut are left over.
def cutChains (threshold cap : Nat) (rolls : List Nat) : List (List Nat) × List Nat :=
  cutFrom threshold cap [] rolls

def isCapped (threshold cap : Nat) (chain : List Nat) : Bool :=
  chain.length = cap + 1 && chain.all (threshold ≤ ·)

variable {threshold cap : Nat}

theorem cutFrom_append {chain more : List Nat} (closed : Chain threshold cap (chain ++ more))
    (some_more : more ≠ []) (rest : List Nat) :
    cutFrom threshold cap chain (more ++ rest) =
      ((chain ++ more) :: (cutChains threshold cap rest).1, (cutChains threshold cap rest).2) := by
  -- On the values that the open chain still lacks: only the last of them makes a cut.
  induction more generalizing chain with
  | nil => contradiction
  | cons value more ih =>
    cases more with
    | nil =>
      have stops : value < threshold ∨ chain.length + 1 = cap + 1 := by
        have short := closed.length_le
        have ended := closed.ended
        simp at short ended
        omega
      simp only [List.cons_append, List.nil_append, cutFrom, if_pos stops, cutChains]
    | cons next more =>
      have goes_on : ¬ (value < threshold ∨ chain.length + 1 = cap + 1) := by
        have short := closed.length_le
        have high := closed.exploded value (by simp)
        simp at short
        omega
      have shift : chain ++ value :: next :: more = chain ++ [value] ++ next :: more := by simp
      rw [shift] at closed ⊢
      rw [List.cons_append, cutFrom, if_neg goes_on]
      exact ih closed (by simp)

theorem cutChains_append {chain : List Nat} (closed : Chain threshold cap chain)
    (rest : List Nat) :
    cutChains threshold cap (chain ++ rest) =
      (chain :: (cutChains threshold cap rest).1, (cutChains threshold cap rest).2) :=
  cutFrom_append (by simpa using closed) closed.nonempty rest

theorem cutChains_flatten {chains : List (List Nat)}
    (each : ∀ chain ∈ chains, Chain threshold cap chain) :
    cutChains threshold cap chains.flatten = (chains, []) := by
  induction chains with
  | nil => rfl
  | cons chain rest ih =>
    have later := ih fun other member => each other (by simp [member])
    rw [List.flatten_cons, cutChains_append (each chain (by simp)), later]

theorem Chain.count_low {chain : List Nat} (closed : Chain threshold cap chain) :
    chain.countP (· < threshold) + (if isCapped threshold cap chain then 1 else 0) = 1 := by
  obtain ⟨front, last, rfl⟩ : ∃ front last, chain = front ++ [last] :=
    ⟨_, _, (List.dropLast_concat_getLast closed.nonempty).symm⟩
  have exploded : ∀ value ∈ front, threshold ≤ value := by simpa using closed.exploded
  have front_high : front.countP (· < threshold) = 0 := by
    simpa [List.countP_eq_zero] using exploded
  rw [List.countP_append, front_high, List.countP_singleton]
  by_cases low : last < threshold
  · simp [isCapped, low]
  · have short := closed.length_le
    have ended := closed.ended
    have full : front.length = cap := by
      simp at short ended
      omega
    have all_high : front.all (threshold ≤ ·) := by simpa using exploded
    simp [isCapped, low, full, all_high, Nat.not_lt.mp low]

theorem countP_low_flatten {chains : List (List Nat)}
    (each : ∀ chain ∈ chains, Chain threshold cap chain) :
    chains.flatten.countP (· < threshold) + chains.countP (isCapped threshold cap) =
      chains.length := by
  induction chains with
  | nil => rfl
  | cons chain rest ih =>
    have here := (each chain (by simp)).count_low
    have later := ih fun other member => each other (by simp [member])
    rw [List.flatten_cons, List.countP_append, List.countP_cons, List.length_cons]
    omega

theorem length_flatten_le {chains : List (List Nat)}
    (each : ∀ chain ∈ chains, Chain threshold cap chain) :
    chains.flatten.length ≤ chains.length * (cap + 1) := by
  induction chains with
  | nil => simp
  | cons chain rest ih =>
    have here := (each chain (by simp)).length_le
    have later := ih fun other member => each other (by simp [member])
    rw [List.flatten_cons, List.length_append, List.length_cons, Nat.succ_mul]
    omega

namespace Spec

variable (limits : Limits) {spec : Spec}

theorem chains_rollDice (single : spec.mode = .explode) (source : WordSource) (position : Nat) :
    ∃ chains : List (List Nat),
      ((spec.rollDice limits).run source position).value = chains.flatten ∧
      chains.length = spec.dice ∧
      ∀ chain ∈ chains, Chain spec.threshold limits.extraPerDie chain := by
  rw [rollDice_of_explode limits single]
  refine ⟨_, rfl, Draw.length_replicate .., ?_⟩
  exact Draw.forall_mem_replicate _
    (fun position => (spec.die.chain_explode _ _ source position).1) spec.dice position

end Spec

end DiceNotation
