/-
This file gathers the failures of the library. A fault is an answer about the
model or the request, with a wording of its own. A failure is a fault or an
abort. Constructors of models return faults only; everything that touches
positions or charts returns failures. Faults and checked results are used as
failures without further ado.
-/

import RecursiveBayes.Failure.Defect
import RecursiveBayes.Protocol.Operation
import RecursiveBayes.Rule.Fault
import RecursiveBayes.Span.Basic

namespace RecursiveBayes

/-- Why a network could not be built or a request to it could not be answered. An observation
of probability zero is not a fault. -/
inductive Fault (α : Type) where
  /-- The network does not provide an operation. -/
  | notImplemented (operation : Operation)
  /-- Shapes, weights, indices or symbols do not fit together. -/
  | malformed (defect : ModelDefect α)
  /-- A chart entry is read that no one has written. -/
  | unscheduled (variableIndex : Nat) (span : Span)
  /-- A location is addressed that the chart does not have. -/
  | invalidLocation (span : Span) (length : Nat)
  /-- The sequence is longer than the network accepts. -/
  | sequenceTooLong (length limit : Nat)
  /-- The text of a rule is not a rule. -/
  | parse (fault : RuleFault)
  /-- A symbol is used that was not declared. -/
  | unknownSymbol (name : String)
  deriving DecidableEq

/-- The wording of a fault. -/
def Fault.message {α : Type} [ScalarText α] : Fault α → String
  | notImplemented operation => "operation not implemented: " ++ operation.name
  | malformed defect => "malformed model: " ++ defect.message
  | unscheduled variableIndex span =>
    s!"chart entry for variable {variableIndex} at " ++ span.render ++
      " read before it was computed"
  | invalidLocation span length =>
    "invalid location " ++ span.render ++ s!" for a sequence of length {length}"
  | sequenceTooLong length limit =>
    s!"sequence of length {length} exceeds the configured maximum of {limit}"
  | parse fault => fault.message
  | unknownSymbol name => "unknown symbol: " ++ name

/-- A fault, or an abort. -/
inductive Failure (α : Type) where
  | fault (fault : Fault α)
  | abort (abort : Abort)
  deriving DecidableEq

/-- The result of building something from a description. -/
abbrev Built (α β : Type) : Type := Except (Fault α) β

/-- The result of a request to a model or a chart. -/
abbrev Outcome (α β : Type) : Type := Except (Failure α) β

instance {α : Type} : MonadLift (Except (Fault α)) (Except (Failure α)) where
  monadLift
    | .ok value => .ok value
    | .error fault => .error (.fault fault)

instance {α : Type} : MonadLift (Except Abort) (Except (Failure α)) where
  monadLift
    | .ok value => .ok value
    | .error abort => .error (.abort abort)

/-- Report a defect of a model. -/
def malformed {α β : Type} (defect : ModelDefect α) : Built α β :=
  .error (.malformed defect)

end RecursiveBayes
