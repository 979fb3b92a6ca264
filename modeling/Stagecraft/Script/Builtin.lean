import Stagecraft.Behavior
import Stagecraft.Script.Fault

/-!
Builtins: the functions that scripts may call. What they need from outside is a table of the keys
that are pressed.
-/

namespace Stagecraft.Script

/-- Whether a key is pressed, by the key's name. A routine has one table for all its runs. -/
abbrev Keys : Type := String → Bool

def Keys.all : Keys := fun _ => true

inductive Builtin where
  | print
  | isPressed
deriving DecidableEq, Repr

namespace Builtin

def name : Builtin → String
  | print => "print"
  | isPressed => "isPressed"

def ofName? : String → Option Builtin
  | "print" => some print
  | "isPressed" => some isPressed
  | _ => none

/-- Call a builtin. Printing joins its arguments by blanks and yields the record without fields. -/
def call (builtin : Builtin) (keys : Keys) (args : List Value) : Behavior Fault Value :=
  match builtin, args with
  | print, args => do
    Behavior.output (.printed (" ".intercalate (args.map Value.render)))
    return .empty
  | isPressed, [.text key] => return .boolean (keys key)
  | isPressed, _ => .fail (.builtinArguments isPressed.name "expected a single String key")

end Builtin

def callFunction (keys : Keys) (system name : String) (args : List Value) : Behavior Fault Value :=
  match Builtin.ofName? name with
  | some builtin => builtin.call keys args
  | none => .fail (.unknownFunction name system)

end Stagecraft.Script
