set_option autoImplicit false

namespace DiceNotation

-- Counted in the bytes of UTF-8.
structure Span where
  start : Nat
  stop : Nat
deriving DecidableEq, Repr

inductive Misreading where
  | missingMode
  | unknownMode (letter : Char)
  | badCount
  | countTooLong
  | missingFaces
  | numberTooLarge
deriving DecidableEq, Repr

def Misreading.message : Misreading → String
  | .missingMode => "no die type letter"
  | .unknownMode letter => "unknown die type '" ++ String.singleton letter ++ "'"
  | .badCount => "expected a dice count before the die type"
  | .countTooLong => "dice count has more than two digits"
  | .missingFaces => "missing face count after the die type"
  | .numberTooLarge => "number too large"

inductive Degeneracy where
  | zeroFaces
  | zeroThreshold
  | zeroDice
  | singleFace
  | thresholdOfOne
deriving DecidableEq, Repr

def Degeneracy.message : Degeneracy → String
  | .zeroFaces => "die has no faces"
  | .zeroThreshold => "threshold must be at least 1"
  | .zeroDice => "at least one die must be rolled"
  | .singleFace => "die numbered from 1 needs at least 2 faces"
  | .thresholdOfOne => "threshold of 1 always triggers"

structure Misfit where
  reason : Misreading
  span : Span
deriving DecidableEq, Repr

inductive CodeError where
  | malformed (code : String) (misfit : Misfit)
  | degenerate (code : String) (reason : Degeneracy)
deriving DecidableEq, Repr

namespace CodeError

def code : CodeError → String
  | .malformed code _ | .degenerate code _ => code

def isMalformed : CodeError → Bool
  | .malformed .. => true
  | .degenerate .. => false

def isDegenerate : CodeError → Bool
  | .malformed .. => false
  | .degenerate .. => true

def message : CodeError → String
  | .malformed code misfit => "malformed die code '" ++ code ++ "': " ++ misfit.reason.message
  | .degenerate code reason => "degenerate die code '" ++ code ++ "': " ++ reason.message

end CodeError

end DiceNotation
