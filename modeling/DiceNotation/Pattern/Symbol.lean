import DiceNotation.Hexadecimal
import DiceNotation.Pattern.Mode

set_option autoImplicit false

namespace DiceNotation.Pattern

inductive Symbol
  | literal (c : Char)
  | byte (c : Char)
  | shorthand (negated : Bool)
  | textEdge
  | wordEdge
deriving DecidableEq, Repr

namespace Symbol

def char? : Symbol → Option Char
  | .literal c | .byte c => some c
  | .shorthand _ | .textEdge | .wordEdge => none

-- There are no tables of the classes and cases of Unicode, and outside of Unicode no match may
-- cut a character into its bytes.
def fits (mode : Mode) : Symbol → Bool
  | .literal _ => .unicode ∉ mode || .ignoreCase ∉ mode
  | .byte c => if .unicode ∈ mode then .ignoreCase ∉ mode else c.toNat < 0x80
  | .shorthand negated => .unicode ∉ mode && !negated
  | .textEdge => true
  | .wordEdge => .unicode ∉ mode

def readHexadecimal? (mode : Mode) : Nat → List Char → Option (List Char × List Char)
  | 0, text => some ([], text)
  | count + 1, text =>
    match mode.skip text with
    | [] => none
    | digit :: rest =>
      (readHexadecimal? mode count rest).map fun (digits, rest) => (digit :: digits, rest)

def readCode? (mode : Mode) (count : Nat) (text : List Char) : Option (Char × List Char) := do
  let (digits, rest) ← readHexadecimal? mode count text
  let code ← Hexadecimal.value? digits
  if code.isValidChar then some (Char.ofNat code, rest) else none

def readEscaped? (mode : Mode) : List Char → Option (Symbol × List Char)
  | [] => none
  | 'x' :: rest => (readCode? mode 2 rest).map fun (c, rest) => (.byte c, rest)
  | 'u' :: rest => (readCode? mode 4 rest).map fun (c, rest) => (.literal c, rest)
  | 'U' :: rest => (readCode? mode 8 rest).map fun (c, rest) => (.literal c, rest)
  | c :: rest =>
    match c with
    | 'a' => some (.literal '\x07', rest)
    | 'f' => some (.literal '\x0c', rest)
    | 'n' => some (.literal '\n', rest)
    | 'r' => some (.literal '\r', rest)
    | 't' => some (.literal '\t', rest)
    | 'v' => some (.literal '\x0b', rest)
    | 'd' | 's' | 'w' => some (.shorthand false, rest)
    | 'D' | 'S' | 'W' => some (.shorthand true, rest)
    | 'A' | 'z' => some (.textEdge, rest)
    | 'b' | 'B' | '<' | '>' => some (.wordEdge, rest)
    | c => if c.toNat < 0x80 ∧ !c.isAlphanum then some (.literal c, rest) else none

def read? (mode : Mode) : List Char → Option (Symbol × List Char)
  | [] => none
  | '\\' :: rest => readEscaped? mode rest
  | c :: rest => some (.literal c, rest)

end Symbol

end DiceNotation.Pattern
