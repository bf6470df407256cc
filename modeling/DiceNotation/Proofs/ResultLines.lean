import DiceNotation.Proofs.Stream
import DiceNotation.Proofs.Validation
import DiceNotation.ResultLine
import Mathlib.Data.List.DropRight

set_option autoImplicit false

namespace DiceNotation

namespace Decimal

theorem digits_append_inj {n m : Nat} {front back : List Char}
    (frontEnds : ∀ c ∈ front.head?, c.isDigit = false)
    (backEnds : ∀ c ∈ back.head?, c.isDigit = false)
    (same : digits n ++ front = digits m ++ back) : n = m ∧ front = back := by
  have runs := congrArg (List.takeWhile Char.isDigit) same
  have rests := congrArg (List.dropWhile Char.isDigit) same
  have digit (n : Nat) : ∀ c ∈ digits n, c.isDigit = true := fun _ => isDigit_of_mem_digits
  rw [takeWhile_run (digit n) frontEnds, takeWhile_run (digit m) backEnds] at runs
  rw [dropWhile_run (digit n) frontEnds, dropWhile_run (digit m) backEnds] at rests
  exact ⟨by simpa using congrArg value runs, rests⟩

theorem digits_inj {n m : Nat} (same : digits n = digits m) : n = m := by
  simpa using congrArg value same

theorem cons_ne_digits {c : Char} (other : c.isDigit = false) (n : Nat) (rest back : List Char) :
    c :: rest ≠ digits n ++ back := by
  obtain ⟨first, later, shown⟩ := List.exists_cons_of_ne_nil (digits_ne_nil n)
  have digit : first.isDigit = true := isDigit_of_mem_digits (n := n) (by simp [shown])
  rw [shown]
  rintro same
  obtain rfl := (List.cons.inj same).1
  simp [other] at digit

theorem signed_inj {first second : Int} (same : signed first = signed second) : first = second := by
  have minus (n : Nat) (rest : List Char) : '-' :: rest ≠ digits n := by
    simpa using cons_ne_digits (by rfl : '-'.isDigit = false) n rest []
  cases first with
  | ofNat n =>
    cases second with
    | ofNat m => exact congrArg Int.ofNat (digits_inj same)
    | negSucc m => exact absurd same.symm (minus n _)
  | negSucc n =>
    cases second with
    | ofNat m => exact absurd same (minus m _)
    | negSucc m => exact congrArg Int.negSucc (Nat.succ.inj (digits_inj (List.cons.inj same).2))

end Decimal

section Rolls

open Decimal

def laterRollsText (rolls : List Nat) : List Char :=
  rolls.flatMap fun roll => ',' :: ' ' :: digits roll

theorem rollsText_cons (roll : Nat) (rest : List Nat) :
    rollsText (roll :: rest) = '[' :: (digits roll ++ laterRollsText rest ++ [']']) := by
  have joined : [',', ' '].intercalate ((roll :: rest).map digits) =
      digits roll ++ laterRollsText rest := by
    induction rest generalizing roll with
    | nil => simp [laterRollsText]
    | cons next rest ih =>
      calc [',', ' '].intercalate ((roll :: next :: rest).map digits)
        _ = digits roll ++ ',' :: ' ' :: [',', ' '].intercalate ((next :: rest).map digits) := by
          simp [List.intercalate]
        _ = digits roll ++ laterRollsText (next :: rest) := by
          rw [ih]
          rfl
  rw [rollsText, joined]
  rfl

theorem head?_laterRollsText (rolls : List Nat) (back : List Char) :
    ∀ c ∈ (laterRollsText rolls ++ ']' :: back).head?, c.isDigit = false := by
  cases rolls <;> simp [laterRollsText]

theorem laterRollsText_append_inj {first second : List Nat} {front back : List Char}
    (same : laterRollsText first ++ ']' :: front = laterRollsText second ++ ']' :: back) :
    first = second ∧ front = back := by
  induction first generalizing second with
  | nil =>
    cases second with
    | nil => simpa [laterRollsText] using same
    | cons roll rest => simp [laterRollsText] at same
  | cons roll rest ih =>
    cases second with
    | nil => simp [laterRollsText] at same
    | cons other others =>
      simp only [laterRollsText, List.flatMap_cons, List.cons_append, List.append_assoc,
        List.cons.injEq, true_and] at same
      obtain ⟨rfl, behind⟩ := digits_append_inj (head?_laterRollsText rest front)
        (head?_laterRollsText others back) same
      obtain ⟨rfl, rfl⟩ := ih behind
      exact ⟨rfl, rfl⟩

theorem rollsText_append_inj {first second : List Nat} {front back : List Char}
    (same : rollsText first ++ front = rollsText second ++ back) :
    first = second ∧ front = back := by
  have empty : rollsText [] = ['[', ']'] := by rfl
  have closed : ']'.isDigit = false := by rfl
  cases first with
  | nil =>
    cases second with
    | nil => simpa [empty] using same
    | cons other others =>
      simp only [empty, rollsText_cons, List.cons_append, List.nil_append, List.append_assoc,
        List.cons.injEq, true_and] at same
      exact (cons_ne_digits closed _ _ _ same).elim
  | cons roll rest =>
    cases second with
    | nil =>
      simp only [empty, rollsText_cons, List.cons_append, List.nil_append, List.append_assoc,
        List.cons.injEq, true_and] at same
      exact (cons_ne_digits closed _ _ _ same.symm).elim
    | cons other others =>
      simp only [rollsText_cons, List.cons_append, List.nil_append, List.append_assoc,
        List.cons.injEq, true_and] at same
      obtain ⟨rfl, behind⟩ := digits_append_inj (head?_laterRollsText rest front)
        (head?_laterRollsText others back) same
      obtain ⟨rfl, rfl⟩ := laterRollsText_append_inj behind
      exact ⟨rfl, rfl⟩

end Rolls

section Colons

theorem colon_not_mem_digits (n : Nat) : ':' ∉ Decimal.digits n := by
  intro member
  have digit := Decimal.isDigit_of_mem_digits member
  simp at digit

theorem colon_not_mem_signed (value : Int) : ':' ∉ Decimal.signed value := by
  cases value with
  | ofNat n => exact colon_not_mem_digits n
  | negSucc n => simpa [Decimal.signed] using colon_not_mem_digits (n + 1)

theorem colon_not_mem_rollsText (rolls : List Nat) : ':' ∉ rollsText rolls := by
  cases rolls with
  | nil => simp [rollsText]
  | cons roll rest => simp [rollsText_cons, laterRollsText, colon_not_mem_digits]

end Colons

def Spec.modifierText (spec : Spec) : List Char :=
  [' ', spec.sign.symbol, ' '] ++ Decimal.digits spec.modifier ++ [' ', '=', ' ']

namespace Outcome

def report (spec : Spec) (outcome : Outcome) : List Char :=
  ' ' :: (rollsText outcome.rolls ++ (spec.modifierText ++ Decimal.signed outcome.total))

variable {spec : Spec} {first second : Outcome}

theorem toList_line (spec : Spec) (outcome : Outcome) :
    (outcome.line spec).toList = spec.code.toList ++ ':' :: outcome.report spec := by
  simp [line, lineText, report, Spec.modifierText]

theorem colon_not_mem_report (spec : Spec) (outcome : Outcome) : ':' ∉ outcome.report spec := by
  have unmarked : ':' ≠ spec.sign.symbol := by cases spec.sign <;> simp [Sign.symbol]
  simp [report, Spec.modifierText, colon_not_mem_rollsText, colon_not_mem_digits,
    colon_not_mem_signed, unmarked]

theorem report_inj (same : first.report spec = second.report spec) : first = second := by
  obtain ⟨rolls, behind⟩ := rollsText_append_inj (List.cons.inj same).2
  have total := Decimal.signed_inj (List.append_cancel_left behind)
  cases first
  cases second
  simp_all

end Outcome

def beforeColon (line : String) : String :=
  String.ofList (line.toList.rdropWhile (· ≠ ':')).dropLast

theorem beforeColon_line (spec : Spec) (outcome : Outcome) :
    beforeColon (outcome.line spec) = spec.code := by
  have plain : ∀ c ∈ (outcome.report spec).reverse, decide (c ≠ ':') = true := by
    intro c member
    have other := ne_of_mem_of_not_mem (List.mem_reverse.mp member)
      (outcome.colon_not_mem_report spec)
    simpa using other
  have ended : (outcome.line spec).toList.rdropWhile (· ≠ ':') = spec.code.toList ++ [':'] := by
    rw [Outcome.toList_line, List.rdropWhile, List.reverse_append, List.reverse_cons,
      List.append_assoc, List.dropWhile_append_of_pos plain]
    simp
  rw [beforeColon, ended, List.dropLast_concat, String.ofList_toList]

example : beforeColon "d6: [1] + 0 = 1: [4] + 0 = 4" = "d6: [1] + 0 = 1" := by decide

namespace Spec

variable {code : String} {spec : Spec}

theorem code_of_parse (read : parse code = .ok spec) : spec.code = code := by
  obtain ⟨reading, mode, -, -, -, rfl⟩ := exists_cuts_of_parse read
  rfl

end Spec

structure Audited (line : String) (spec : Spec) (outcome : Outcome) : Prop where
  read : Spec.parse (beforeColon line) = .ok spec
  printed : outcome.line spec = line
  total : outcome.total =
    spec.sign.apply (spec.mode.resolve spec.threshold outcome.rolls) spec.modifier

section Lines

variable {code otherCode : String} {spec other : Spec} {outcome second : Outcome}

theorem eq_of_line_eq (read : Spec.parse code = .ok spec)
    (otherRead : Spec.parse otherCode = .ok other) (same : outcome.line spec = second.line other) :
    spec = other ∧ outcome = second := by
  have codes := congrArg beforeColon same
  rw [beforeColon_line, beforeColon_line, Spec.code_of_parse read,
    Spec.code_of_parse otherRead] at codes
  subst codes
  obtain rfl := Except.ok.inj (read.symm.trans otherRead)
  have texts := congrArg String.toList same
  rw [Outcome.toList_line, Outcome.toList_line] at texts
  have reports : outcome.report spec = second.report spec :=
    (List.cons.inj (List.append_cancel_left texts)).2
  exact ⟨rfl, Outcome.report_inj reports⟩

theorem audited_of_roll (read : Spec.parse code = .ok spec) {limits : Limits}
    {source : WordSource} {position : Nat}
    (rolled : ((spec.roll limits).run source position).value = .ok outcome) :
    Audited (outcome.line spec) spec outcome := by
  refine ⟨by rwa [beforeColon_line, Spec.code_of_parse read], rfl, ?_⟩
  cases valid : spec.validate with
  | error error => simp [Spec.run_roll_of_error valid] at rolled
  | ok =>
    rw [Spec.run_roll_of_ok valid] at rolled
    rw [← Except.ok.inj rolled]
    rfl

end Lines

namespace CommandLine

theorem rolled_of_mem_rollInTurn {specs : List Spec}
    (valid : ∀ spec ∈ specs, spec.validate = .ok ()) {source : WordSource} {position : Nat}
    {roll : Spec × Outcome} (member : roll ∈ ((rollInTurn specs).run source position).value.rolls) :
    roll.1 ∈ specs ∧ ∃ start, ((roll.1.roll {}).run source start).value = .ok roll.2 := by
  induction specs generalizing position with
  | nil => simp [rollInTurn] at member
  | cons spec rest ih =>
    obtain ⟨here, later⟩ := List.forall_mem_cons.mp valid
    rw [run_rollInTurn_cons source position here] at member
    obtain rfl | behind := List.mem_cons.mp member
    · refine ⟨by simp, position, ?_⟩
      rw [Spec.run_roll_of_ok here]
    · obtain ⟨inside, start, rolled⟩ := ih later behind
      exact ⟨by simp [inside], start, rolled⟩

theorem audited_of_mem_output {options : Options} (form : options.form = .line)
    {filter : LogFilter} {source : WordSource} {line : String}
    (member : line ∈ (options.answer filter source).output) :
    beforeColon line ∈ options.codes ∧ ∃ spec outcome, Audited line spec outcome := by
  rw [output_eq_map, form] at member
  obtain ⟨⟨spec, outcome⟩, rolled, rfl⟩ := List.mem_map.mp member
  have valid : ∀ spec ∈ options.codes.flatMap (copies options.times), spec.validate = .ok () := by
    intro spec member
    obtain ⟨code, -, copied⟩ := List.mem_flatMap.mp member
    exact valid_of_mem_copies copied
  obtain ⟨copied, start, found⟩ := rolled_of_mem_rollInTurn valid rolled
  obtain ⟨code, listed, copied⟩ := List.mem_flatMap.mp copied
  have read := (verdict_eq_ok_iff.mp (verdict_of_mem_copies copied)).1
  refine ⟨?_, spec, outcome, audited_of_roll read found⟩
  change beforeColon (outcome.line spec) ∈ _
  rwa [beforeColon_line, Spec.code_of_parse read]

end CommandLine

end DiceNotation
