import DiceNotation.Token

set_option autoImplicit false

namespace DiceNotation

structure ModifierClause where
  sign : Token
  digits : Option Token
deriving DecidableEq, Repr

structure DieClause where
  count : Option Token
  letter : Token
  rest : List Token
deriving DecidableEq, Repr

structure FaceClause where
  faces : Option Token
  threshold : Option Token
deriving DecidableEq, Repr

def leadingDigits? : List Token → Option Token
  | [] => none
  | token :: _ => if token.isDigits then some token else none

def dottedDigits? : List Token → Option Token
  | [] => none
  | token :: rest => if token.kind = .dot then leadingDigits? rest else none

def ModifierClause.cut (tokens : List Token) : List Token × Option ModifierClause :=
  match tokens.dropWhile (! ·.isSign) with
  | [] => (tokens, none)
  | sign :: rest => (tokens.takeWhile (! ·.isSign), some ⟨sign, leadingDigits? rest⟩)

def countOf : List Token → Except Misfit (Option Token)
  | [] => .ok none
  | [token] => if token.isDigits then .ok (some token) else .error ⟨.badCount, token.span⟩
  | tokens => .error ⟨.badCount, Token.covering tokens⟩

def DieClause.ofTokens (tokens : List Token) : Except Misfit DieClause :=
  match tokens.dropWhile (! ·.isLetter) with
  | [] => .error ⟨.missingMode, Token.covering tokens⟩
  | letter :: rest =>
    (countOf (tokens.takeWhile (! ·.isLetter))).map fun count => ⟨count, letter, rest⟩

def FaceClause.ofTokens (tokens : List Token) : FaceClause :=
  match leadingDigits? tokens with
  | some faces => ⟨some faces, dottedDigits? tokens.tail⟩
  | none => ⟨none, dottedDigits? tokens⟩

structure Outline where
  count : Option Token
  letter : Token
  faces : Option Token
  threshold : Option Token
  modifier : Option ModifierClause
deriving DecidableEq, Repr

namespace Outline

-- What follows the last clause is ignored, so `3d6 fire` has the clauses of `3d6`.
def ofTokens (tokens : List Token) : Except Misfit Outline := do
  let (dieTokens, modifier) := ModifierClause.cut tokens
  let die ← DieClause.ofTokens dieTokens
  let face := FaceClause.ofTokens die.rest
  return ⟨die.count, die.letter, face.faces, face.threshold, modifier⟩

def ofCode (code : String) : Except Misfit Outline :=
  ofTokens (Token.scan code.toList)

def checkShape (outline : Outline) : Except Misfit Unit :=
  match outline.count.filter (2 < ·.text.length), outline.faces with
  | some count, _ => .error ⟨.countTooLong, count.span⟩
  | none, none => .error ⟨.missingFaces, outline.letter.span⟩
  | none, some _ => .ok ()

end Outline

end DiceNotation
