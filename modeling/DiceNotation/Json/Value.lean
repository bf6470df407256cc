import DiceNotation.Decimal

set_option autoImplicit false

namespace DiceNotation.Json

-- An escape may stand for one half of a surrogate pair, which is no character by itself.
inductive Piece where
  | character (c : Char)
  | half (unit : Nat)
deriving DecidableEq, Repr

inductive Value where
  | null
  | bool (value : Bool)
  | number (literal : List Char)
  | string (pieces : List Piece)
  | array (items : List Value)
  | object (members : List (List Piece × Value))

def pieces (text : List Char) : List Piece :=
  text.map .character

def Value.ofNat (value : Nat) : Value :=
  .number (Decimal.digits value)

def Value.ofInt (value : Int) : Value :=
  .number (Decimal.signed value)

def Value.ofText (text : List Char) : Value :=
  .string (pieces text)

def Value.record (fields : List (String × Value)) : Value :=
  .object (fields.map fun field => (pieces field.1.toList, field.2))

def text? : List Piece → Option (List Char)
  | [] => some []
  | .character c :: rest => (c :: ·) <$> text? rest
  | .half high :: .half low :: rest =>
    if high < 0xDC00 ∧ 0xDC00 ≤ low then
      (Char.ofNat (0x10000 + (high - 0xD800) * 0x400 + (low - 0xDC00)) :: ·) <$> text? rest
    else
      none
  | .half _ :: _ => none

@[simp] theorem text?_pieces (text : List Char) : text? (pieces text) = some text := by
  induction text with
  | nil => rfl
  | cons c rest ih => simp_all [pieces, text?]

end DiceNotation.Json
