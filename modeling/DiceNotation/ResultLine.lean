import DiceNotation.Roll

set_option autoImplicit false

namespace DiceNotation

def rollsText (rolls : List Nat) : List Char :=
  '[' :: [',', ' '].intercalate (rolls.map Decimal.digits) ++ [']']

def Outcome.lineText (spec : Spec) (outcome : Outcome) : List Char :=
  spec.code.toList ++ [':', ' '] ++ rollsText outcome.rolls ++ [' ', spec.sign.symbol, ' '] ++
    Decimal.digits spec.modifier ++ [' ', '=', ' '] ++ Decimal.signed outcome.total

def Outcome.line (spec : Spec) (outcome : Outcome) : String :=
  String.ofList (outcome.lineText spec)

end DiceNotation
