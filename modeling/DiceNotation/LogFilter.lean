import DiceNotation.Decimal
import DiceNotation.Log
import DiceNotation.Pattern
import DiceNotation.Text.Alphanumeric
import DiceNotation.Text.Blank
import DiceNotation.Text.Bytes

set_option autoImplicit false

namespace DiceNotation

def Event.place : Event → String
  | .started .. | .refused _ => "droll::roll"
  | .parsed _ => "droll_core::notation"
  | .rollRefused _ | .rolled .. => "droll_core::engine"
  | .dieExploded _ | .dieCapped .. | .totalExploded .. | .totalCapped .. =>
    "droll_core::resolution::explode"

namespace Level

def ofName? (text : List Char) : Option Level :=
  all.find? fun level => text.map Char.toLower = level.name.toList

def ofText? (text : List Char) : Option Level :=
  match Decimal.unsigned? 6 text with
  | some rank => all[rank]?
  | none => ofName? text

end Level

inductive FilterFault
  | unreadable
  -- A part of a directive would have to begin or end inside a character.
  | splitCharacter
deriving DecidableEq, Repr

structure FieldTest where
  name : List Char
  value : Option (List Char)
deriving DecidableEq, Repr

namespace FieldTest

def read? (text : List Char) : Option FieldTest := do
  if text = [] then none
  let name := text.takeWhile (· ≠ '=')
  match text.drop name.length with
  | [] => some ⟨name, none⟩
  | _ :: rest =>
    let value := rest.takeWhile (· ≠ '=')
    if Decimal.isReal value || Pattern.isValid value then some ⟨name, some value⟩ else none

-- Values are compared inside spans only, and no event happens inside one.
def passes (test : FieldTest) (event : Event) : Bool :=
  test.value.isNone &&
    (("message", []) :: event.fields).any fun (name, _) => name.toList = test.name

end FieldTest

structure Directive where
  place : List Char
  span : Option (List Char)
  field : Option FieldTest
  level : Level
deriving DecidableEq, Repr

namespace Directive

def covers (directive : Directive) (event : Event) : Bool :=
  directive.span.isNone && directive.place.isPrefixOf event.place.toList &&
    directive.field.all (·.passes event)

def fieldName (directive : Directive) : List Char :=
  match directive.field with
  | some test => test.name
  | none => []

def asSpecificAs (first second : Directive) : Bool :=
  second.place.length < first.place.length ||
    (second.place.length = first.place.length &&
      !decide (first.fieldName < second.fieldName))

def readLevel? : List Char → Option Level
  | [] => some .trace
  | text => Level.ofText? text

def startsPlace (c : Char) : Bool :=
  c = '-' || c = ':' || c = '_' || Text.isAlphanumeric c

-- Parts are looked for in the text without the blanks around it, but cut out of the text with
-- the blanks, at the same distances in bytes. So blanks in front shift all that is cut.
structure Source where
  text : List Char

namespace Source

def seen (source : Source) : List Char :=
  Text.trimBlanks source.text

def distance (source : Source) (rest : List Char) : Nat :=
  Text.byteLength source.seen - Text.byteLength rest

def split (source : Source) (rest : List Char) :
    Except FilterFault (List Char × List Char) :=
  match Text.splitBytes? (source.distance rest) source.text with
  | some parts => .ok parts
  | none => .error .splitCharacter

def level (source : Source) (first : List Char) : Except FilterFault Level := do
  let (_, text) ← source.split first
  match readLevel? text with
  | some level => return level
  | none => throw .unreadable

def part (source : Source) (first last : List Char) : Except FilterFault (List Char) := do
  let (front, _) ← source.split first
  let (text, _) ← source.split last
  return text.drop front.length

def field (source : Source) (first last : List Char) : Except FilterFault FieldTest := do
  match FieldTest.read? (← source.part first last) with
  | some test => return test
  | none => throw .unreadable

def brackets (source : Source) (inner : List Char) :
    Except FilterFault (Option (List Char) × Option FieldTest × List Char) := do
  let rest := inner.dropWhile fun c => c ≠ ']' ∧ c ≠ '\x7b'
  match rest with
  | [] => throw .unreadable
  | ']' :: after => return (some (← source.part inner rest), none, after)
  | _ :: inField =>
    let span ← source.part inner rest
    let rest := inField.dropWhile (· ≠ '\x7d')
    match rest with
    | [] => throw .unreadable
    | _ :: after =>
      let test ← source.field inField rest
      let ']' :: after := after | throw .unreadable
      return (if span = [] then none else some span, some test, after)

end Source

def read (text : List Char) : Except FilterFault Directive := do
  let source : Source := ⟨text⟩
  let seen := source.seen
  unless seen.head?.any (fun c => c = '[' || startsPlace c) do throw .unreadable
  let rest := seen.dropWhile fun c => c ≠ '=' ∧ c ≠ '['
  match rest with
  | [] =>
    match Level.ofText? text with
    | some level => return ⟨[], none, none, level⟩
    | none => return ⟨text, none, none, .trace⟩
  | '=' :: level => return ⟨← source.part seen rest, none, none, ← source.level level⟩
  | _ :: inner =>
    let place ← source.part seen rest
    let (span, field, rest) ← source.brackets inner
    match rest with
    | [] => return ⟨place, span, field, .trace⟩
    | '=' :: level => return ⟨place, span, field, ← source.level level⟩
    | _ => throw .unreadable

end Directive

abbrev LogFilter := List Directive

namespace LogFilter

def splitCommas : List Char → List (List Char)
  | [] => [[]]
  | c :: rest =>
    match c, splitCommas rest with
    | ',', parts => [] :: parts
    | c, part :: parts => (c :: part) :: parts
    | c, [] => [[c]]

def read (text : String) : Except FilterFault LogFilter :=
  ((splitCommas text.toList).filter (· ≠ [])).mapM Directive.read

def ofLevel (level : Level) : LogFilter :=
  [⟨[], none, none, level⟩]

-- Of directives that are equally specific the last one counts.
def directive? (filter : LogFilter) (event : Event) : Option Directive :=
  (List.filter (·.covers event) filter).foldl
    (fun best directive =>
      match best with
      | some best => if directive.asSpecificAs best then some directive else some best
      | none => some directive)
    none

def shows (filter : LogFilter) (event : Event) (level : Level) : Bool :=
  match filter.directive? event with
  | some directive => level.rank ≤ directive.level.rank
  | none => false

end LogFilter

end DiceNotation
