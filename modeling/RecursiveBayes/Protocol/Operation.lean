/-
This file names the operations that a network may provide. The generic inside
pass asks for them by these names, and a network that lacks one is reported with
the name.
-/

namespace RecursiveBayes

/-- An operation of a recursive Bayesian network. -/
inductive Operation where
  | nonTerminals
  | terminalChart
  | insideChart
  | updateInsideChart
  | insideSchedule
  | rootLocation
  | prior
  | computeInside
  | initInside
  deriving DecidableEq

/-- The name by which a missing operation is reported. -/
def Operation.name : Operation → String
  | nonTerminals => "non_terminals"
  | terminalChart => "get_terminal_chart"
  | insideChart => "get_inside_chart"
  | updateInsideChart => "update_inside_chart"
  | insideSchedule => "inside_schedule"
  | rootLocation => "root_location"
  | prior => "prior"
  | computeInside => "compute_inside"
  | initInside => "init_inside"

end RecursiveBayes
