import LogGate.Session.Demonstration

/-!
The command line: it writes the lines of the demonstration.
-/

open LogGate

/-- A new session has no context, and nothing in the demonstration can fail there. -/
def main : IO Unit :=
  match ((Act.demonstrate []).run.run Session.initial).1 with
  | .ok lines => IO.print lines
  | .error _ => pure ()
