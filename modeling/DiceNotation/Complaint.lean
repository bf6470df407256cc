import DiceNotation.CodeError
import DiceNotation.Decimal
import DiceNotation.Text.Blank

set_option autoImplicit false

namespace DiceNotation

namespace Span

def middle (span : Span) : Nat :=
  (span.start + span.stop) / 2

def columns (span : Span) : List Nat :=
  List.range (span.stop + 2)

def underline (span : Span) (column : Nat) : Char :=
  if column = span.middle then (if span.start < span.stop then '┬' else '│')
  else if span.start ≤ column ∧ column < span.stop then '─'
  else ' '

def stem (span : Span) (column : Nat) : Char :=
  if column < span.middle then ' '
  else if column = span.middle then '╰'
  else '─'

end Span

def drawing (code : String) (span : Span) (message : String) : List String :=
  ["Error: " ++ message,
    "   ╭─[ die code:1:" ++ String.ofList (Decimal.digits (span.start + 1)) ++ " ]",
    "   │",
    " 1 │ " ++ String.ofList (Text.dropBlankEnd code.toList),
    "   │ " ++ String.ofList (span.columns.map span.underline),
    "   │ " ++ String.ofList (span.columns.map span.stem) ++ " " ++ message,
    "───╯"]

def badCodeLine (code : String) : String :=
  "bad die code: " ++ code

-- There is nothing to point at in an empty code.
def CodeError.complaint : CodeError → List String
  | .malformed code misfit =>
    (if code.isEmpty then [] else drawing code misfit.span misfit.reason.message) ++
      [badCodeLine code]
  | .degenerate code reason => [badCodeLine code, "  " ++ reason.message]

end DiceNotation
