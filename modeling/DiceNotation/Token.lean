import DiceNotation.CodeError
import DiceNotation.Text.Bytes

set_option autoImplicit false

namespace DiceNotation

inductive Token.Kind where
  | digits
  | letter
  | dot
  | plus
  | minus
  | other
deriving DecidableEq, Repr

namespace Token.Kind

-- Digits and letters are the ASCII ones; any other character is of no use to a die code.
def ofChar (c : Char) : Kind :=
  if c.isDigit then .digits
  else if c.isAlpha then .letter
  else if c = '.' then .dot
  else if c = '+' then .plus
  else if c = '-' then .minus
  else .other

def name : Kind → String
  | .digits => "digits"
  | .letter => "letter"
  | .dot => "."
  | .plus => "+"
  | .minus => "-"
  | .other => "other"

end Token.Kind

structure Token where
  kind : Token.Kind
  text : List Char
  start : Nat
deriving DecidableEq, Repr

namespace Token

def span (token : Token) : Span :=
  ⟨token.start, token.start + Text.byteLength token.text⟩

def isDigits (token : Token) : Bool :=
  token.kind = .digits

def isLetter (token : Token) : Bool :=
  token.kind = .letter

def isSign (token : Token) : Bool :=
  token.kind = .plus ∨ token.kind = .minus

def covering (tokens : List Token) : Span :=
  match tokens.head?, tokens.getLast? with
  | some first, some last => ⟨first.start, last.span.stop⟩
  | _, _ => ⟨0, 0⟩

-- Only digits run together.
def attach (head : Token) : List Token → List Token
  | [] => [head]
  | next :: rest =>
    if head.isDigits && next.isDigits then
      { head with text := head.text ++ next.text } :: rest
    else
      head :: next :: rest

def scanFrom : Nat → List Char → List Token
  | _, [] => []
  | start, c :: rest =>
    attach ⟨.ofChar c, [c], start⟩ (scanFrom (start + c.utf8Size) rest)

def scan (code : List Char) : List Token :=
  scanFrom 0 code

theorem flatMap_text_attach (head : Token) (rest : List Token) :
    (attach head rest).flatMap text = head.text ++ rest.flatMap text := by
  cases rest with
  | nil => simp [attach]
  | cons next rest => by_cases joined : head.isDigits && next.isDigits <;> simp [attach, joined]

theorem flatMap_text_scanFrom (start : Nat) (code : List Char) :
    (scanFrom start code).flatMap text = code := by
  induction code generalizing start with
  | nil => rfl
  | cons c rest ih => simp [scanFrom, flatMap_text_attach, ih]

theorem flatMap_text_scan (code : List Char) : (scan code).flatMap text = code :=
  flatMap_text_scanFrom 0 code

end Token

end DiceNotation
