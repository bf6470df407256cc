import DiceNotation.Proofs.Json.RoundTrip

set_option autoImplicit false

namespace DiceNotation.Json

def Printable (text : List Char) : Prop :=
  ∀ c ∈ text, ' ' ≤ c

instance (text : List Char) : Decidable (Printable text) :=
  List.decidableBAll _ text

@[simp] theorem printable_cons_iff (c : Char) (rest : List Char) :
    Printable (c :: rest) ↔ ' ' ≤ c ∧ Printable rest :=
  List.forall_mem_cons

@[simp] theorem printable_append_iff (front back : List Char) :
    Printable (front ++ back) ↔ Printable front ∧ Printable back :=
  List.forall_mem_append

theorem printable_nil : Printable [] := by
  simp [Printable]

theorem printable_hexDigits (unit : Nat) : Printable (hexDigits unit) := by
  have each : ∀ digit < 16, ' ' ≤ Nat.digitChar digit := by decide
  have small (n : Nat) : ' ' ≤ Nat.digitChar (n % 16) := each _ (Nat.mod_lt n (by decide))
  simp [hexDigits, small, printable_nil]

theorem printable_escape (c : Char) : Printable (escape c) := by
  unfold escape
  split_ifs with quote slash back feed line ret tab control
  · decide
  · decide
  · decide
  · decide
  · decide
  · decide
  · decide
  · rw [printable_cons_iff, printable_cons_iff]
    exact ⟨by decide, by decide, printable_hexDigits c.toNat⟩
  · simpa [printable_nil] using control

theorem printable_renderString (text : List Char) : Printable (renderString (pieces text)) := by
  have body : Printable ((pieces text).flatMap Piece.render) := by
    intro c member
    obtain ⟨piece, inside, member⟩ := List.mem_flatMap.mp member
    obtain ⟨original, -, rfl⟩ := List.mem_map.mp inside
    exact printable_escape original c member
  have quote : ' ' ≤ '"' := by decide
  simp [renderString, body, quote, printable_nil]

theorem printable_digits (n : Nat) : Printable (Decimal.digits n) := by
  intro c member
  have low := (Decimal.toNat_of_isDigit (Decimal.isDigit_of_mem_digits member)).1
  exact UInt32.le_iff_toNat_le.mpr (Nat.le_trans (by decide) low)

theorem printable_signed (value : Int) : Printable (Decimal.signed value) := by
  cases value with
  | ofNat n => exact printable_digits n
  | negSucc n => exact (printable_cons_iff '-' _).mpr ⟨by decide, printable_digits (n + 1)⟩

theorem printable_renderItems {items : List Value}
    (each : ∀ item ∈ items, Printable item.render) : Printable (renderItems items) := by
  induction items with
  | nil => exact printable_nil
  | cons item items ih =>
    have here := each item (by simp)
    have later := ih fun other member => each other (by simp [member])
    cases items with
    | nil => exact here
    | cons next items =>
      have comma : ' ' ≤ ',' := by decide
      simp [renderItems_cons_cons, here, later, comma]

theorem printable_renderMembers {members : List (List Piece × Value)}
    (each : ∀ member ∈ members, (∃ text, member.1 = pieces text) ∧ Printable member.2.render) :
    Printable (renderMembers members) := by
  have colon : ' ' ≤ ':' := by decide
  have comma : ' ' ≤ ',' := by decide
  induction members with
  | nil => exact printable_nil
  | cons member members ih =>
    obtain ⟨key, value⟩ := member
    obtain ⟨⟨text, rfl⟩, here⟩ := each (key, value) (by simp)
    have later := ih fun other member => each other (by simp [member])
    cases members with
    | nil => simpa [renderMembers, printable_renderString, colon] using here
    | cons next members =>
      simpa [renderMembers_cons_cons, printable_renderString, colon, comma, later] using here

theorem printable_render {value : Value} (written : Written value) : Printable value.render := by
  induction written with
  | bool value => cases value <;> decide
  | number value => exact printable_signed value
  | text text => exact printable_renderString text
  | array each ih =>
    have items := printable_renderItems ih
    have opening : ' ' ≤ '[' := by decide
    have closing : ' ' ≤ ']' := by decide
    simp [Value.render, items, opening, closing, printable_nil]
  | record each ih =>
    have members := printable_renderMembers
      (forall_mem_record (fun value => Printable value.render) ih)
    have opening : ' ' ≤ '\x7b' := by decide
    have closing : ' ' ≤ '\x7d' := by decide
    simp [Value.record, Value.render, members, opening, closing, printable_nil]

end DiceNotation.Json
