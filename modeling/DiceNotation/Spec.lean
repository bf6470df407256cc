import DiceNotation.Decimal
import DiceNotation.Die
import DiceNotation.Mode
import DiceNotation.Outline

set_option autoImplicit false

namespace DiceNotation

def largestNumber : Nat := UInt32.size - 1

structure Spec where
  code : String
  dice : Nat
  mode : Mode
  faces : Nat
  zeroBased : Bool
  threshold : Nat
  sign : Sign
  modifier : Nat
deriving DecidableEq, Repr

def Token.number (token : Token) : Except Misfit Nat :=
  if Decimal.value token.text ≤ largestNumber then .ok (Decimal.value token.text)
  else .error ⟨.numberTooLarge, token.span⟩

def Token.numberOr (absent : Nat) : Option Token → Except Misfit Nat
  | none => .ok absent
  | some token => token.number

namespace Outline

def mode (outline : Outline) : Except Misfit Mode :=
  let letter := outline.letter.text.headD '\x00'
  match Mode.ofLetter? letter with
  | some mode => .ok mode
  | none => .error ⟨.unknownMode letter, outline.letter.span⟩

-- A zero in front of the faces is not a part of their number alone: it numbers the die from 0.
def zeroBased (outline : Outline) : Bool :=
  match outline.faces with
  | some faces => faces.text.head? = some '0'
  | none => false

def sign (outline : Outline) : Sign :=
  match outline.modifier with
  | some clause => if clause.sign.kind = .minus then .minus else .plus
  | none => .plus

end Outline

namespace Spec

def ofOutline (code : String) (outline : Outline) : Except Misfit Spec := do
  let mode ← outline.mode
  let dice ← Token.numberOr 1 outline.count
  let faces ← Token.numberOr 0 outline.faces
  let threshold ← Token.numberOr (mode.defaultThreshold faces) outline.threshold
  let modifier ← Token.numberOr 0 (outline.modifier.bind (·.digits))
  return ⟨code, dice, mode, faces, outline.zeroBased, threshold, outline.sign, modifier⟩

def parse (code : String) : Except CodeError Spec :=
  (Outline.ofCode code >>= ofOutline code).mapError (.malformed code)

def die (spec : Spec) : Die :=
  ⟨spec.faces, spec.zeroBased⟩

-- A die numbered from 0 may have one face and a threshold of 1: it shows two values, and one
-- of them is below the threshold.
def degeneracy? (spec : Spec) : Option Degeneracy :=
  if spec.faces < 1 then some .zeroFaces
  else if spec.threshold < 1 then some .zeroThreshold
  else if spec.dice < 1 then some .zeroDice
  else if spec.zeroBased then none
  else if spec.faces < 2 then some .singleFace
  else if !spec.mode.isKeep && spec.threshold < 2 then some .thresholdOfOne
  else none

def checkShape (spec : Spec) : Except CodeError Unit :=
  (Outline.ofCode spec.code >>= Outline.checkShape).mapError (.malformed spec.code)

def validate (spec : Spec) : Except CodeError Unit := do
  spec.checkShape
  match spec.degeneracy? with
  | some reason => .error (.degenerate spec.code reason)
  | none => .ok ()

def valid (spec : Spec) : Bool :=
  spec.validate.isOk

end Spec

end DiceNotation
