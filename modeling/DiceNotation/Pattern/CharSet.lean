import DiceNotation.Pattern.Symbol

set_option autoImplicit false

namespace DiceNotation.Pattern

inductive CharSet
  | range (first last : Char)
  | shorthand (negated : Bool)
  | named (negated : Bool)
  | bracketed (negated : Bool) (inner : CharSet)
  | union (members : List CharSet)
  | combined (left right : CharSet)
deriving Repr

namespace CharSet

def ofMembers : List CharSet → CharSet
  | [member] => member
  | members => .union members

mutual

def depth : CharSet → Nat
  | .range .. | .shorthand _ | .named _ => 0
  | .bracketed _ inner => inner.depth + 1
  | .union [] => 0
  | .union (first :: others) => max first.depth (deepest others) + 1
  | .combined left right => max left.depth right.depth + 1

def deepest : List CharSet → Nat
  | [] => 0
  | first :: others => max first.depth (deepest others)

end

mutual

def fits (mode : Mode) : CharSet → Bool
  | .range first last =>
    if .unicode ∈ mode then .ignoreCase ∉ mode else first.toNat < 0x80 && last.toNat < 0x80
  | .shorthand negated => .unicode ∉ mode && !negated
  | .named negated => if .unicode ∈ mode then .ignoreCase ∉ mode else !negated
  | .bracketed negated inner => (.unicode ∈ mode || !negated) && inner.fits mode
  | .union members => allFit mode members
  | .combined left right => left.fits mode && right.fits mode

def allFit (mode : Mode) : List CharSet → Bool
  | [] => true
  | first :: others => first.fits mode && allFit mode others

end

def names : List String :=
  ["alnum", "alpha", "ascii", "blank", "cntrl", "digit", "graph", "lower", "print", "punct",
    "space", "upper", "word", "xdigit"]

def readNamed? (text : List Char) : Option (CharSet × List Char) := do
  let ':' :: text := text | none
  let (negated, text) := match text with
    | '^' :: text => (true, text)
    | _ => (false, text)
  let name := text.takeWhile (· ≠ ':')
  let ':' :: ']' :: rest := text.dropWhile (· ≠ ':') | none
  if names.any (·.toList = name) then some (.named negated, rest) else none

def ofSymbol? : Symbol → Option CharSet
  | .literal c | .byte c => some (.range c c)
  | .shorthand negated => some (.shorthand negated)
  | .textEdge | .wordEdge => none

def ofRange? (first last : Symbol) : Option CharSet := do
  let first ← first.char?
  let last ← last.char?
  if first ≤ last then some (.range first last) else none

-- A hyphen in front of the closing bracket or of another hyphen makes no range.
def readMember? (mode : Mode) (text : List Char) : Option (CharSet × List Char) := do
  let (first, rest) ← Symbol.read? mode text
  let single := (ofSymbol? first).map fun member => (member, rest)
  match mode.skip rest with
  | '-' :: after =>
    if mode.peek? after = some ']' ∨ mode.peek? after = some '-' then
      single
    else
      let (last, rest) ← Symbol.read? mode (mode.skip after)
      let member ← ofRange? first last
      return (member, rest)
  | _ => single

inductive Progress
  | start
  | hyphens
  | inside
deriving DecidableEq, Repr

structure Unclosed where
  progress : Progress
  left : Option CharSet
  members : List CharSet

namespace Unclosed

def empty : Unclosed :=
  ⟨.start, none, []⟩

def add (set : Unclosed) (progress : Progress) (member : CharSet) : Unclosed :=
  ⟨progress, set.left, member :: set.members⟩

def close (set : Unclosed) : CharSet :=
  let right := ofMembers set.members.reverse
  match set.left with
  | none => right
  | some left => .combined left right

def operator (set : Unclosed) : Unclosed :=
  ⟨.inside, some set.close, []⟩

end Unclosed

def readSign (mode : Mode) (text : List Char) : Bool × List Char :=
  match mode.skip text with
  | '^' :: rest => (true, rest)
  | rest => (false, rest)

-- Hyphens at the start stand for themselves, and so does a closing bracket there.
def readMembers : Nat → Mode → Unclosed → List Char → Option (CharSet × List Char)
  | 0, _, _, _ => none
  | fuel + 1, mode, set, text =>
    match set.progress, mode.skip text with
    | _, [] => none
    | .start, ']' :: rest => readMembers fuel mode (set.add .inside (.range ']' ']')) rest
    | .start, '-' :: rest | .hyphens, '-' :: rest =>
      readMembers fuel mode (set.add .hyphens (.range '-' '-')) rest
    | _, ']' :: rest => some (set.close, rest)
    | _, '&' :: '&' :: rest | _, '-' :: '-' :: rest | _, '~' :: '~' :: rest =>
      readMembers fuel mode set.operator rest
    | _, '[' :: rest =>
      match readNamed? rest with
      | some (member, rest) => readMembers fuel mode (set.add .inside member) rest
      | none => do
        let (negated, rest) := readSign mode rest
        let (inner, rest) ← readMembers fuel mode .empty rest
        readMembers fuel mode (set.add .inside (.bracketed negated inner)) rest
    | _, text => do
      let (member, rest) ← readMember? mode text
      readMembers fuel mode (set.add .inside member) rest

-- Every step takes a character, so the length of the text bounds their number.
def read? (mode : Mode) (text : List Char) : Option (CharSet × List Char) := do
  let (negated, rest) := readSign mode text
  let (inner, rest) ← readMembers (text.length + 1) mode .empty rest
  return (.bracketed negated inner, rest)

end CharSet

end DiceNotation.Pattern
