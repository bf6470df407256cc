import DiceNotation.Spec

set_option autoImplicit false

namespace DiceNotation

inductive Event where
  | started (seed : Option UInt64) (times codes : Nat)
  | parsed (spec : Spec)
  | refused (error : CodeError)
  | rollRefused (error : CodeError)
  | rolled (code : String) (rolls : List Nat) (total : Int)
  | dieExploded (value : Nat)
  | dieCapped (extra threshold : Nat)
  | totalExploded (round total target : Nat)
  | totalCapped (round total target : Nat)
deriving DecidableEq, Repr

end DiceNotation
