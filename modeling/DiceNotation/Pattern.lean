import DiceNotation.Pattern.CharSet
import DiceNotation.Text.Alphanumeric

set_option autoImplicit false

namespace DiceNotation

inductive Pattern
  | symbol (symbol : Pattern.Symbol)
  | anyChar
  | oneOf (set : Pattern.CharSet)
  | switch (change : Pattern.Change)
  | repeated (operand : Pattern)
  | group (change : Pattern.Change) (body : Pattern)
  | sequence (items : List Pattern)
  | choice (branches : List Pattern)
deriving Repr

namespace Pattern

def ofItems : List Pattern → Pattern
  | [item] => item
  | items => .sequence items

def ofBranches : List Pattern → Pattern
  | [branch] => branch
  | branches => .choice branches

mutual

def depth : Pattern → Nat
  | .symbol _ | .anyChar | .switch _ => 0
  | .oneOf set => set.depth
  | .repeated operand => operand.depth + 1
  | .group _ body => body.depth + 1
  | .sequence [] | .choice [] => 0
  | .sequence (first :: others) | .choice (first :: others) =>
    max first.depth (deepest others) + 1

def deepest : List Pattern → Nat
  | [] => 0
  | first :: others => max first.depth (deepest others)

end

mutual

-- A switch in one branch holds for the later branches too.
def after? : Pattern → Mode → Option Mode
  | .symbol char, mode => if char.fits mode then some mode else none
  | .anyChar, mode => if .unicode ∈ mode then some mode else none
  | .oneOf set, mode => if set.fits mode then some mode else none
  | .switch change, mode => some (change.apply mode)
  | .repeated operand, mode => operand.after? mode
  | .group change body, mode => (body.after? (change.apply mode)).map fun _ => mode
  | .sequence items, mode => afterAll? items mode
  | .choice branches, mode => afterAll? branches mode

def afterAll? : List Pattern → Mode → Option Mode
  | [], mode => some mode
  | first :: others, mode => do afterAll? others (← first.after? mode)

end

def depthLimit : Nat :=
  250

def isUsable (pattern : Pattern) : Bool :=
  pattern.depth ≤ depthLimit && (pattern.after? .start).isSome

abbrev Name := List Char

def Name.isValid : Name → Bool
  | [] => false
  | first :: others =>
    (first = '_' || Text.isAlphabetic first) &&
      others.all fun c => c = '_' || c = '.' || c = '[' || c = ']' || Text.isAlphanumeric c

inductive Opening
  | switch (change : Change)
  | group (change : Change) (name : Option Name)

namespace Opening

def readName? (text : List Char) : Option (Opening × List Char) := do
  let name : Name := text.takeWhile (· ≠ '>')
  let '>' :: rest := text.dropWhile (· ≠ '>') | none
  if name.isValid then some (.group .nothing (some name), rest) else none

def readChange? (text : List Char) : Option (Opening × List Char) := do
  let letters := text.takeWhile fun c => c ≠ ')' ∧ c ≠ ':'
  let change ← Change.read? letters
  match letters, text.drop letters.length with
  | _ :: _, ')' :: rest => some (.switch change, rest)
  | _, ':' :: rest => some (.group change none, rest)
  | _, _ => none

def read? : List Char → Option (Opening × List Char)
  | '?' :: 'P' :: '<' :: rest | '?' :: '<' :: rest => readName? rest
  | '?' :: rest => readChange? rest
  | rest => some (.group .nothing none, rest)

end Opening

-- A question mark right after a repetition asks for few rounds of it.
def dropFewest : List Char → List Char
  | '?' :: rest => rest
  | rest => rest

structure Unfinished where
  mode : Mode
  branches : List Pattern
  items : List Pattern
  names : List Name

namespace Unfinished

def start (mode : Mode) (names : List Name) : Unfinished :=
  ⟨mode, [], [], names⟩

def add (pattern : Unfinished) (item : Pattern) : Unfinished :=
  { pattern with items := item :: pattern.items }

def branch (pattern : Unfinished) : Unfinished :=
  { pattern with branches := ofItems pattern.items.reverse :: pattern.branches, items := [] }

def finish (pattern : Unfinished) : Pattern :=
  ofBranches pattern.branch.branches.reverse

def switch (pattern : Unfinished) (change : Change) : Unfinished :=
  { pattern.add (.switch change) with mode := change.apply pattern.mode }

def repeat? (pattern : Unfinished) : Option Unfinished :=
  match pattern.items with
  | [] | .switch _ :: _ => none
  | item :: others => some { pattern with items := .repeated item :: others }

def name? (pattern : Unfinished) : Option Name → Option (List Name)
  | none => some pattern.names
  | some name => if name ∈ pattern.names then none else some (name :: pattern.names)

end Unfinished

def readBody : Nat → Unfinished → List Char → Option (Pattern × List Name × List Char)
  | 0, _, _ => none
  | fuel + 1, pattern, text =>
    match pattern.mode.skip text with
    | [] => some (pattern.finish, pattern.names, [])
    | ')' :: rest => some (pattern.finish, pattern.names, ')' :: rest)
    | '|' :: rest => readBody fuel pattern.branch rest
    | '?' :: rest | '*' :: rest | '+' :: rest => do
      readBody fuel (← pattern.repeat?) (dropFewest rest)
    -- A count could only end with a brace, and that ends the field as well.
    | '\x7b' :: _ => none
    | '.' :: rest => readBody fuel (pattern.add .anyChar) rest
    | '^' :: rest | '$' :: rest => readBody fuel (pattern.add (.symbol .textEdge)) rest
    | '[' :: rest => do
      let (set, rest) ← CharSet.read? pattern.mode rest
      readBody fuel (pattern.add (.oneOf set)) rest
    | '(' :: rest => do
      let (opening, rest) ← Opening.read? (pattern.mode.skip rest)
      match opening with
      | .switch change => readBody fuel (pattern.switch change) rest
      | .group change name =>
        let names ← pattern.name? name
        let (body, names, rest) ← readBody fuel (.start (change.apply pattern.mode) names) rest
        let ')' :: rest := rest | none
        readBody fuel { pattern.add (.group change body) with names } rest
    | text => do
      let (char, rest) ← Symbol.read? pattern.mode text
      readBody fuel (pattern.add (.symbol char)) rest

def read? (text : List Char) : Option Pattern := do
  let (pattern, _, rest) ← readBody (text.length + 1) (.start .start []) text
  if rest = [] then some pattern else none

def isValid (text : List Char) : Bool :=
  (read? text).any isUsable

end Pattern

end DiceNotation
