import LogGate.Rule

/-!
Filters. A filter applies a rule with a chosen order of levels, and knows where to find a snapshot
for an event that brings none.
-/

namespace LogGate

structure Filter where
  rule : Rule
  order : LevelOrder
  provider : Provider

namespace Filter

def evaluate (filter : Filter) (level : Level) (snapshot : Snapshot) : Value :=
  filter.rule.outcome filter.order level snapshot

def judge (filter : Filter) (rank : Value) (snapshot : Snapshot) : Except Failure Value :=
  filter.rule.judge filter.order rank snapshot

/-- Filters are equal by key and table; outcomes, order and provider do not count. -/
def same (first second : Filter) : Bool :=
  first.rule.same second.rule

def quoted (filter : Filter) : String :=
  "<DynamicThresholdFilter " ++ filter.rule.text ++ ">"

end Filter

end LogGate
