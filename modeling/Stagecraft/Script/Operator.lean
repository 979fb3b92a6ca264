import Stagecraft.Script.Fault

/-!
Operators. Each is defined on the pairs of kinds listed in its clause and refuses all others, naming
both. Numbers and integers never meet.
-/

namespace Stagecraft.Script

/-- Division of numbers; either zero divides nothing. -/
def divide (left right : Float) : Except Fault Float :=
  if right == 0.0 then .error .divisionByZero else .ok (left / right)

def divideVector (left right : Vector3) : Except Fault Vector3 := do
  let x ← divide left.x right.x
  let y ← divide left.y right.y
  let z ← divide left.z right.z
  return ⟨x, y, z⟩

/-- The remainder, with the sign of the dividend. -/
def remainder (left right : Int64) : Except Fault Int64 :=
  if right = 0 then .error .moduloByZero else .ok (left % right)

def compareNumbers (op : BinaryOp) (left right : Float) : Option Bool :=
  match op with
  | .less => some (left < right)
  | .greater => some (left > right)
  | .lessEqual => some (left ≤ right)
  | .greaterEqual => some (left ≥ right)
  | _ => none

def compareTexts (op : BinaryOp) (left right : String) : Option Bool :=
  match op with
  | .less => some (left < right)
  | .greater => some (right < left)
  | .lessEqual => some (!(right < left))
  | .greaterEqual => some (!(left < right))
  | _ => none

def compareEqual (op : BinaryOp) (left right : Value) : Option Bool :=
  match op with
  | .equal => some (left.agrees right)
  | .notEqual => some (!left.agrees right)
  | _ => none

namespace BinaryOp

def onNumbers (op : BinaryOp) (left right : Float) : Option (Except Fault Value) :=
  match op with
  | .add => some (.ok (.number (left + right)))
  | .sub => some (.ok (.number (left - right)))
  | .mul => some (.ok (.number (left * right)))
  | .div => some ((divide left right).map .number)
  | op =>
    ((compareEqual op (.number left) (.number right)).or (compareNumbers op left right)).map
      (fun holds => .ok (.boolean holds))

def onTexts (op : BinaryOp) (left right : String) : Option (Except Fault Value) :=
  match op with
  | .add => some (.ok (.text (left ++ right)))
  | op =>
    ((compareEqual op (.text left) (.text right)).or (compareTexts op left right)).map
      (fun holds => .ok (.boolean holds))

def onVectors (op : BinaryOp) (left right : Vector3) : Option (Except Fault Value) :=
  match op with
  | .add => some (.ok (.vector (left.zipWith (· + ·) right)))
  | .sub => some (.ok (.vector (left.zipWith (· - ·) right)))
  | .mul => some (.ok (.vector (left.zipWith (· * ·) right)))
  | .div => some ((divideVector left right).map .vector)
  | op =>
    (compareEqual op (.vector left) (.vector right)).map (fun holds => .ok (.boolean holds))

/-- An operator on two truth values. Both operands are evaluated before. -/
def onBooleans (op : BinaryOp) (left right : Bool) : Option (Except Fault Value) :=
  match op with
  | .and => some (.ok (.boolean (left && right)))
  | .or => some (.ok (.boolean (left || right)))
  | op =>
    (compareEqual op (.boolean left) (.boolean right)).map (fun holds => .ok (.boolean holds))

def onIntegers (op : BinaryOp) (left right : Int64) : Option (Except Fault Value) :=
  match op with
  | .mod => some ((remainder left right).map .integer)
  | _ => none

def apply (op : BinaryOp) (left right : Value) : Except Fault Value :=
  let result? := match left, right with
    | .number left, .number right => op.onNumbers left right
    | .text left, .text right => op.onTexts left right
    | .vector left, .vector right => op.onVectors left right
    | .boolean left, .boolean right => op.onBooleans left right
    | .integer left, .integer right => op.onIntegers left right
    | _, _ => none
  result?.getD (.error (.invalidOperation op left.schema right.schema))

end BinaryOp

/-- Apply an operator to one value. The negation of the least integer is itself. -/
def UnaryOp.apply (op : UnaryOp) (operand : Value) : Except Fault Value :=
  match op, operand with
  | .neg, .number n => .ok (.number (-n))
  | .neg, .integer i => .ok (.integer (-i))
  | .neg, .vector v => .ok (.vector v.neg)
  | .not, .boolean b => .ok (.boolean !b)
  | _, _ => .error (.invalidUnary op operand.schema)

end Stagecraft.Script
