/-!
Verdicts of a filter on one log event.
-/

namespace LogGate

inductive Verdict where
  | accept
  | neutral
  | deny
deriving DecidableEq, Inhabited

def Verdict.name : Verdict → String
  | accept => "ACCEPT"
  | neutral => "NEUTRAL"
  | deny => "DENY"

/-- Only the three names in capital letters are read. -/
def Verdict.ofName? (name : String) : Option Verdict :=
  [accept, neutral, deny].find? (·.name == name)

end LogGate
