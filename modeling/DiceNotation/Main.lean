import DiceNotation.CommandLine.Run

set_option autoImplicit false

-- Without a seed of its own, a run takes the words of a seed drawn at random.
def main (arguments : List String) : IO UInt32 := do
  let environment : DiceNotation.CommandLine.Environment :=
    ⟨← IO.getEnv "DROLL_LOG", ← IO.getEnv "RUST_LOG"⟩
  let seed ← IO.rand 0 (UInt64.size - 1)
  let answer := DiceNotation.CommandLine.answer arguments environment
    (DiceNotation.Seeded.words (UInt64.ofNat seed))
  answer.output.forM IO.println
  answer.errors.forM IO.eprintln
  return UInt32.ofNat answer.exit
