import DiceNotation.Text.Blank

set_option autoImplicit false

namespace DiceNotation.Pattern

inductive Switch
  | ignoreCase
  | eachLine
  | dotTakesNewline
  | shortestFirst
  | carriageReturn
  | unicode
  | spaced
deriving DecidableEq, Repr

def Switch.ofLetter? : Char → Option Switch
  | 'i' => some .ignoreCase
  | 'm' => some .eachLine
  | 's' => some .dotTakesNewline
  | 'U' => some .shortestFirst
  | 'R' => some .carriageReturn
  | 'u' => some .unicode
  | 'x' => some .spaced
  | _ => none

abbrev Mode := List Switch

namespace Mode

def start : Mode :=
  [.unicode]

mutual

def skipBlanks : List Char → List Char
  | [] => []
  | c :: rest =>
    if Text.isBlank c then skipBlanks rest
    else if c = '#' then skipComment rest
    else c :: rest

def skipComment : List Char → List Char
  | [] => []
  | c :: rest => if c = '\n' then skipBlanks rest else skipComment rest

end

def skip (mode : Mode) (text : List Char) : List Char :=
  if .spaced ∈ mode then skipBlanks text else text

-- Looked for inside a comment too; where nothing but blanks is left the first has to do.
def peek? (mode : Mode) (text : List Char) : Option Char :=
  if .spaced ∈ mode then
    match text.dropWhile Text.isBlank with
    | '#' :: comment => (comment.dropWhile Text.isBlank ++ text).head?
    | rest => (rest ++ text).head?
  else
    text.head?

end Mode

structure Change where
  on : List Switch
  off : List Switch
deriving DecidableEq, Repr

namespace Change

def nothing : Change :=
  ⟨[], []⟩

def apply (change : Change) (mode : Mode) : Mode :=
  change.on ++ mode.filter (· ∉ change.off)

def read? (letters : List Char) : Option Change := do
  let on ← (letters.takeWhile (· ≠ '-')).mapM Switch.ofLetter?
  match letters.dropWhile (· ≠ '-') with
  | [] => if on.Nodup then some ⟨on, []⟩ else none
  | _ :: letters =>
    let off ← letters.mapM Switch.ofLetter?
    if off ≠ [] ∧ (on ++ off).Nodup then some ⟨on, off⟩ else none

end Change

end DiceNotation.Pattern
