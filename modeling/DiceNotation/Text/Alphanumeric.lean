import DiceNotation.Text.Alphabetic
import DiceNotation.Text.Numeric

set_option autoImplicit false

namespace DiceNotation.Text

def isAlphanumeric (c : Char) : Bool :=
  isAlphabetic c || isNumeric c

end DiceNotation.Text
