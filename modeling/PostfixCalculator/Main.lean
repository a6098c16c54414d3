/-
# The program

Writes the outcome of its arguments and ends with the status of that outcome.
-/
import PostfixCalculator.CommandLine

open PostfixCalculator CommandLine in
/-- Lines go to the standard output, the text of a failure to the standard error.  The texts of
the help and of a refusal are those of the library that reads the arguments, and are left out. -/
def main (arguments : List String) : IO UInt32 := do
  let outcome := run arguments
  match outcome with
  | .lines text => text.forM IO.println
  | .failure message => IO.eprintln message
  | .help | .usage => pure ()
  return outcome.status
