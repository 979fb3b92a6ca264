import Stagecraft.Fault
import Stagecraft.Script.Grammar

/-!
Faults of scripts: why a script cannot be loaded, or one of its systems fails.
-/

namespace Stagecraft.Script

inductive EmitIssue where
  | unregistered
  | argumentCount (roles found : Nat)
  /-- An argument in the place of a role is not the name of an entity. -/
  | notEntity
  | missingPayload (schema : Schema)
deriving DecidableEq

def EmitIssue.message : EmitIssue → String
  | unregistered => "unregistered event"
  | argumentCount roles found =>
    "expected " ++ toString roles ++ " entities and a payload, found " ++ toString found
      ++ " arguments"
  | notEntity => "entity arguments must be entity bindings"
  | missingPayload schema => "missing payload of type " ++ schema.render

inductive Fault where
  | parse (fault : ParseFault)
  | scene (fault : Stagecraft.Fault)
  | unreadable (path reason : String)
  | unknownType (written : String) (line : Nat)
  | unknownVariable (name system : String)
  | unknownFunction (name system : String)
  | duplicateBinding (name system : String)
  | undeclaredComponent (binding component system : String)
  | invalidEmit (event system : String) (issue : EmitIssue)
  | invalidOperation (op : BinaryOp) (left right : Schema)
  | invalidUnary (op : UnaryOp) (operand : Schema)
  | unknownField (field : String) (schema : Schema)
  | conditionNotBoolean (found : Schema)
  | assignmentType (target : String) (expected found : Schema)
  | vectorComponent (found : Schema)
  | entityAsValue (name : String)
  | builtinArguments (name reason : String)
  | divisionByZero
  | moduloByZero
  | budgetExceeded (system : String) (budget : Nat)
deriving DecidableEq

namespace Fault

def message : Fault → String
  | parse fault => "parse error: " ++ fault.render
  | scene fault => fault.message
  | unreadable path reason => "cannot read " ++ path ++ ": " ++ reason
  | unknownType written line => "unknown type `" ++ written ++ "` at line " ++ toString line
  | unknownVariable name system =>
    "unknown variable `" ++ name ++ "` in system `" ++ system ++ "`"
  | unknownFunction name system =>
    "unknown function `" ++ name ++ "` in system `" ++ system ++ "`"
  | duplicateBinding name system =>
    "`" ++ name ++ "` is bound twice in system `" ++ system ++ "`"
  | undeclaredComponent binding component system =>
    "entity `" ++ binding ++ "` does not declare component `" ++ component ++ "` in system `"
      ++ system ++ "`"
  | invalidEmit event system issue =>
    "invalid emit of `" ++ event ++ "` in system `" ++ system ++ "`: " ++ issue.message
  | invalidOperation op left right =>
    "invalid operation `" ++ op.symbol ++ "` between " ++ left.render ++ " and " ++ right.render
  | invalidUnary op operand => "invalid operation `" ++ op.symbol ++ "` on " ++ operand.render
  | unknownField field schema => schema.render ++ " has no field `" ++ field ++ "`"
  | conditionNotBoolean found => "condition must be Boolean, found " ++ found.render
  | assignmentType target expected found =>
    "cannot assign " ++ found.render ++ " to `" ++ target ++ "` of type " ++ expected.render
  | vectorComponent found => "vector components must be Number, found " ++ found.render
  | entityAsValue name => "entity `" ++ name ++ "` cannot be used as a value"
  | builtinArguments name reason => "bad arguments to `" ++ name ++ "`: " ++ reason
  | divisionByZero => "Cannot divide by zero."
  | moduloByZero => "Cannot modulo by zero."
  | budgetExceeded system budget =>
    "system `" ++ system ++ "` exceeded its budget of " ++ toString budget ++ " steps"

def kind : Fault → FaultKind
  | parse _ => .parse
  | scene fault => fault.kind
  | unreadable _ _ | unknownType _ _ | unknownVariable _ _ | unknownFunction _ _
  | duplicateBinding _ _ | undeclaredComponent _ _ _ | invalidEmit _ _ _ => .validation
  | invalidOperation _ _ _ | invalidUnary _ _ | unknownField _ _ | conditionNotBoolean _
  | assignmentType _ _ _ | vectorComponent _ | entityAsValue _ | builtinArguments _ _ => .type
  | divisionByZero | moduloByZero | budgetExceeded _ _ => .runtime

end Fault

end Stagecraft.Script
