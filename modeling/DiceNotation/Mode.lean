set_option autoImplicit false

namespace DiceNotation

inductive Mode where
  | sum
  | explode
  | explodeAll
  | keepHighest
  | keepLowest
  | countMin
  | countMax
deriving DecidableEq, Repr

namespace Mode

def letter : Mode → Char
  | .sum => 'd'
  | .explode => 'x'
  | .explodeAll => 'e'
  | .keepHighest => 'k'
  | .keepLowest => 'K'
  | .countMin => 'n'
  | .countMax => 'N'

-- The case of a letter matters: `k` keeps the highest dice and `K` the lowest.
def ofLetter? : Char → Option Mode
  | 'd' => some .sum
  | 'x' => some .explode
  | 'e' => some .explodeAll
  | 'k' => some .keepHighest
  | 'K' => some .keepLowest
  | 'n' => some .countMin
  | 'N' => some .countMax
  | _ => none

@[simp] theorem ofLetter?_letter (mode : Mode) : ofLetter? mode.letter = some mode := by
  cases mode <;> rfl

theorem ofLetter?_eq_some_iff (letter : Char) (mode : Mode) :
    ofLetter? letter = some mode ↔ letter = mode.letter := by
  constructor
  · intro known
    unfold ofLetter? at known
    split at known <;> simp_all [Mode.letter] <;> subst known <;> rfl
  · rintro rfl
    exact ofLetter?_letter mode

def name : Mode → String
  | .sum => "sum"
  | .explode => "explode"
  | .explodeAll => "explode_all"
  | .keepHighest => "keep_highest"
  | .keepLowest => "keep_lowest"
  | .countMin => "count_min"
  | .countMax => "count_max"

def isKeep : Mode → Bool
  | .keepHighest | .keepLowest => true
  | _ => false

def defaultThreshold (mode : Mode) (faces : Nat) : Nat :=
  match mode with
  | .sum | .explode | .explodeAll => faces
  | .keepHighest | .keepLowest | .countMin | .countMax => 1

end Mode

inductive Sign where
  | plus
  | minus
deriving DecidableEq, Repr, Inhabited

namespace Sign

def symbol : Sign → Char
  | .plus => '+'
  | .minus => '-'

def apply : Sign → Int → Nat → Int
  | .plus, value, modifier => value + modifier
  | .minus, value, modifier => value - modifier

end Sign

end DiceNotation
