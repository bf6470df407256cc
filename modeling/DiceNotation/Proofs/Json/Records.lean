import DiceNotation.CommandLine.Run
import DiceNotation.Proofs.Json.Lines
import DiceNotation.Proofs.Parse

set_option autoImplicit false

namespace DiceNotation

namespace Json

theorem fields?_record (fields : List (String × Value)) (names : List String) :
    (Value.record fields).fields? names =
      names.mapM fun name =>
        only? (fields.filterMap fun field => if field.1 = name then some field.2 else none) := by
  have named : (fields.map fun field => (pieces field.1.toList, field.2)).mapM
      (fun member => (text? member.1).map fun text => (text, member.2)) =
      some (fields.map fun field => (field.1.toList, field.2)) := by
    induction fields with
    | nil => rfl
    | cons field fields ih => simp [ih]
  rw [Value.record, Value.fields?, named]
  simp only [Option.bind_eq_bind, Option.bind_some, List.filterMap_map, Function.comp_def,
    String.toList_inj]

theorem int?_ofInt (value : Int) : (Value.ofInt value).int? = some value := by
  have digits (n : Nat) : (Decimal.digits n).all Char.isDigit = true :=
    List.all_eq_true.mpr fun _ => Decimal.isDigit_of_mem_digits
  cases value with
  | ofNat n =>
    have all := digits n
    have same := Decimal.value_digits n
    obtain ⟨c, rest, shown, -, unsigned⟩ := exists_digits n
    simp only [Value.ofInt, Decimal.signed, shown] at all same ⊢
    rw [Value.int?, if_pos all, same]
    · rfl
    · intro _ same
      exact absurd (List.cons.inj same).1 unsigned
  | negSucc n =>
    simp [Value.ofInt, Decimal.signed, Value.int?, digits, Int.negSucc_eq]

theorem number?_ofNat {n : Nat} (fits : n ≤ largestNumber) :
    (Value.ofNat n).number? = some n := by
  have whole : (Value.ofNat n).int? = some (n : Int) := int?_ofInt n
  rw [Value.number?, whole, Option.bind_eq_bind, Option.bind_some, if_pos (by omega),
    Int.toNat_natCast]

theorem total?_ofInt {value : Int} (low : Int64.minValue.toInt ≤ value)
    (high : value ≤ Int64.maxValue.toInt) : (Value.ofInt value).total? = some value := by
  rw [Value.total?, int?_ofInt, Option.bind_eq_bind, Option.bind_some]
  exact if_pos ⟨low, high⟩

theorem mapM_number? {numbers : List Nat} (fit : ∀ n ∈ numbers, n ≤ largestNumber) :
    (numbers.map Value.ofNat).mapM Value.number? = some numbers := by
  induction numbers with
  | nil => rfl
  | cons n rest ih =>
    simp only [List.forall_mem_cons] at fit
    simp [number?_ofNat fit.1, ih fit.2]

end Json

open Json

structure Outcome.Fits (outcome : Outcome) : Prop where
  rolls_le : ∀ roll ∈ outcome.rolls, roll ≤ largestNumber
  total_ge : Int64.minValue.toInt ≤ outcome.total
  total_le : outcome.total ≤ Int64.maxValue.toInt

theorem Outcome.ofJson?_of_fields {json : Value} {outcome : Outcome} (fits : outcome.Fits)
    (found : json.fields? ["rolls", "total"] =
      some [rollsJson outcome.rolls, .ofInt outcome.total]) :
    Outcome.ofJson? json = some outcome := by
  simp [Outcome.ofJson?, found, rollsJson, Value.items?, mapM_number? fits.rolls_le,
    total?_ofInt fits.total_ge fits.total_le]

theorem Outcome.ofJson?_toJson {outcome : Outcome} (fits : outcome.Fits) :
    Outcome.ofJson? outcome.toJson = some outcome :=
  Outcome.ofJson?_of_fields fits (by simp [Outcome.toJson, fields?_record, only?])

theorem Outcome.ofJson?_recordJson (spec : Spec) {outcome : Outcome} (fits : outcome.Fits) :
    Outcome.ofJson? (outcome.recordJson spec) = some outcome :=
  Outcome.ofJson?_of_fields fits (by simp [Outcome.recordJson, fields?_record, only?])

theorem Limits.ofJson?_toJson {limits : Limits} (perDie : limits.extraPerDie ≤ largestNumber)
    (rounds : limits.rounds ≤ largestNumber) : Limits.ofJson? limits.toJson = some limits := by
  simp [Limits.ofJson?, Limits.toJson, fields?_record, only?, number?_ofNat perDie,
    number?_ofNat rounds]

theorem Die.ofJson?_toJson {spec : Spec} (facesFit : spec.faces ≤ largestNumber) :
    Die.ofJson? spec.toJson = some spec.die := by
  simp [Die.ofJson?, Spec.toJson, fields?_record, only?, number?_ofNat facesFit, Value.bool?,
    Spec.die]

theorem written_ofNat (n : Nat) : Written (.ofNat n) :=
  .number n

theorem written_rolls (rolls : List Nat) : Written (rollsJson rolls) := by
  refine .array ?_
  intro item member
  obtain ⟨roll, -, rfl⟩ := List.mem_map.mp member
  exact written_ofNat roll

theorem Outcome.written_recordJson (spec : Spec) (outcome : Outcome) :
    Written (outcome.recordJson spec) :=
  .record (by simpa using ⟨.text _, written_rolls _, .text _, written_ofNat _, .number _⟩)

theorem Outcome.written_toJson (outcome : Outcome) : Written outcome.toJson :=
  .record (by simpa using ⟨written_rolls _, .number _⟩)

theorem Limits.written_toJson (limits : Limits) : Written limits.toJson :=
  .record (by simpa using ⟨written_ofNat _, written_ofNat _⟩)

theorem Spec.written_toJson (spec : Spec) : Written spec.toJson :=
  .record (by
    simpa using
      ⟨.text _, written_ofNat _, .text _, written_ofNat _, .bool _, written_ofNat _, .text _,
        written_ofNat _⟩)

theorem json_is_read_back {code : String} {spec : Spec} (read : Spec.parse code = .ok spec)
    {outcome : Outcome} (fits : outcome.Fits) (limits : Limits)
    (perDie : limits.extraPerDie ≤ largestNumber) (rounds : limits.rounds ≤ largestNumber) :
    let line := (CommandLine.Form.text .json spec outcome).toList
    (∀ c ∈ line, 0x20 ≤ c.toNat) ∧
      (parse? line >>= Outcome.ofJson?) = some outcome ∧
      (parse? outcome.toJson.render >>= Outcome.ofJson?) = some outcome ∧
      (parse? limits.toJson.render >>= Limits.ofJson?) = some limits ∧
      (parse? spec.toJson.render >>= Die.ofJson?) = some spec.die := by
  have written : (CommandLine.Form.text .json spec outcome).toList =
      (outcome.recordJson spec).render := String.toList_ofList
  have bounded := Spec.bounded_of_parse read
  intro line
  refine ⟨?_, ?_, ?_, ?_, ?_⟩
  · intro c member
    simp only [line, written] at member
    exact printable_render (Outcome.written_recordJson spec outcome) c member
  · simp only [line, written]
    rw [parse?_render (Outcome.written_recordJson spec outcome)]
    exact Outcome.ofJson?_recordJson spec fits
  · rw [parse?_render outcome.written_toJson]
    exact Outcome.ofJson?_toJson fits
  · rw [parse?_render limits.written_toJson]
    exact Limits.ofJson?_toJson perDie rounds
  · rw [parse?_render spec.written_toJson]
    exact Die.ofJson?_toJson bounded.faces_le

theorem escaped_code_is_read_back :
    let spec : Spec := ⟨"d6\"\\\x01😀", 1, .sum, 6, false, 6, .plus, 0⟩
    let outcome : Outcome := ⟨[0, 4294967295], -9223372036854775808⟩
    let line := (CommandLine.Form.text .json spec outcome).toList
    Spec.parse "d6\"\\\x01😀" = .ok spec ∧ (∀ c ∈ line, 0x20 ≤ c.toNat) ∧
      (parse? line >>= Outcome.ofJson?) = some outcome := by
  intro spec outcome line
  have read : Spec.parse "d6\"\\\x01😀" = .ok spec := by rfl
  have fits : outcome.Fits := ⟨by decide, by decide, by decide⟩
  obtain ⟨oneLine, readBack, -⟩ := json_is_read_back read fits {} (by decide) (by decide)
  exact ⟨read, oneLine, readBack⟩

end DiceNotation
