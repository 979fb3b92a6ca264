import Stagecraft.Proofs.Steps
import Stagecraft.Script.Routine

/-!
Parts: what can go wrong with values while a body runs. An assignment to a part changes no schema, and
what operators, fields and conversions refuse is a matter of values alone.
-/

namespace Stagecraft.Script

mutual

def Stmt.assigned : Stmt → List String
  | .assign target _ _ => if target.path.isEmpty then [target.root] else []
  | .declare _ name _ _ => [name]
  | .expr _ => []
  | .branch _ yes no _ => Stmt.assignedAll yes ++ Stmt.assignedAll no
  | .loop _ body _ => Stmt.assignedAll body
  | .emit _ _ _ => []
termination_by structural stmt => stmt

def Stmt.assignedAll : List Stmt → List String
  | [] => []
  | stmt :: rest => Stmt.assigned stmt ++ Stmt.assignedAll rest
termination_by structural stmts => stmts

end

/-- The faults that remain possible once a system was checked. Of the names, only those are unknown that
the body assigns itself, perhaps elsewhere or later, and the payload is none of them. -/
def Fault.Remains (decl : SystemDecl) : Fault → Prop
  | unknownVariable name _ =>
    name ∈ Stmt.assignedAll decl.body ∧ decl.event.payload.map Field.name ≠ some name
  | invalidOperation _ _ _ | invalidUnary _ _ | unknownField _ _ | conditionNotBoolean _
  | assignmentType _ _ _ | vectorComponent _ | builtinArguments _ _ | divisionByZero | moduloByZero
  | budgetExceeded _ _ => True
  | parse _ | scene _ | unreadable _ _ | unknownType _ _ | unknownFunction _ _ | duplicateBinding _ _
  | undeclaredComponent _ _ _ | invalidEmit _ _ _ | entityAsValue _ => False

def Fault.OfValues : Fault → Prop
  | invalidOperation _ _ _ | invalidUnary _ _ | unknownField _ _ | conditionNotBoolean _
  | assignmentType _ _ _ | vectorComponent _ | divisionByZero | moduloByZero => True
  | _ => False

theorem Fault.OfValues.remains {fault : Fault} (ofValues : fault.OfValues) (decl : SystemDecl) :
    fault.Remains decl := by
  cases fault <;> first | exact ofValues.elim | trivial

/-! ### Schemas -/

theorem schemas_replace {fields : List (String × Value)} {name : String} {part replacement : Value}
    (found : fields.lookup name = some part) (same : replacement.schema = part.schema) :
    Value.schemas (Keyed.replace name replacement fields) = Value.schemas fields := by
  induction fields with
  | nil => cases found
  | cons field rest ih =>
    obtain ⟨other, value⟩ := field
    rw [List.lookup_cons] at found
    unfold Keyed.replace
    by_cases equal : name = other
    · rw [if_pos equal]
      rw [beq_iff_eq.mpr equal] at found
      cases found
      rw [Value.schemas, Value.schemas, same]
    · rw [if_neg equal]
      rw [beq_eq_false_iff_ne.mpr equal] at found
      rw [Value.schemas, Value.schemas, ih found]

theorem coerce_schema {target : String} {value result : Value} {expected : Schema}
    (coerced : coerce target value expected = .ok result) : result.schema = expected := by
  unfold coerce at coerced
  split at coerced
  · next same =>
    cases coerced
    exact same
  · split at coerced
    · next inner =>
      split at coerced
      · next same =>
        cases coerced
        rw [Value.filled_schema, same]
      · cases coerced
    · cases coerced

/-- What is assigned to a part of a value leaves the schema of the whole as it was. -/
theorem setPath_schema {target : String} {value : Value} {path : List String} {slot result : Value}
    (replaced : setPath target value path slot = .ok result) : result.schema = slot.schema := by
  induction path generalizing slot result with
  | nil => exact coerce_schema replaced
  | cons name path ih =>
    cases slot with
    | record fields =>
      simp only [setPath] at replaced
      split at replaced
      · next part found =>
        obtain ⟨replacement, assigned, same⟩ := bind_ok replaced
        cases same
        rw [Value.schema, Value.schema, schemas_replace found (ih assigned)]
      · cases replaced
    | vector v =>
      simp only [setPath] at replaced
      split at replaced
      · split at replaced
        · split at replaced
          · cases replaced
            rfl
          · cases replaced
        · cases replaced
      · cases replaced
    | number | integer | text | boolean | optional => cases replaced

/-! ### Refusals -/

variable {fault : Fault}

theorem fieldOf_ofValues {value : Value} {name : String}
    (failed : fieldOf value name = .error fault) : fault.OfValues := by
  unfold fieldOf at failed
  split at failed
  · cases failed
  · cases failed
    trivial

theorem coerce_ofValues {target : String} {value : Value} {expected : Schema}
    (failed : coerce target value expected = .error fault) : fault.OfValues := by
  unfold coerce at failed
  split at failed
  · cases failed
  · split at failed
    · split at failed
      · cases failed
      · cases failed
        trivial
    · cases failed
      trivial

theorem setPath_ofValues {target : String} {value : Value} {path : List String} {slot : Value}
    (failed : setPath target value path slot = .error fault) : fault.OfValues := by
  induction path generalizing slot with
  | nil => exact coerce_ofValues failed
  | cons name path ih =>
    cases slot with
    | record fields =>
      simp only [setPath] at failed
      split at failed
      · next part found =>
        rcases bind_error failed with stopped | ⟨replacement, assigned, impossible⟩
        · exact ih stopped
        · cases impossible
      · cases failed
        trivial
    | vector v =>
      simp only [setPath] at failed
      split at failed
      · split at failed
        · split at failed
          · cases failed
          · cases failed
            trivial
        · cases failed
          trivial
      · cases failed
        trivial
    | number | integer | text | boolean | optional =>
      cases failed
      trivial

theorem divide_ofValues {left right : Float} (failed : divide left right = .error fault) :
    fault.OfValues := by
  unfold divide at failed
  split at failed
  · cases failed
    trivial
  · cases failed

theorem divideVector_ofValues {left right : Vector3}
    (failed : divideVector left right = .error fault) : fault.OfValues := by
  rcases bind_error failed with first | ⟨x, -, others⟩
  · exact divide_ofValues first
  · rcases bind_error others with second | ⟨y, -, last⟩
    · exact divide_ofValues second
    · rcases bind_error last with third | ⟨z, -, impossible⟩
      · exact divide_ofValues third
      · cases impossible

theorem remainder_ofValues {left right : Int64} (failed : remainder left right = .error fault) :
    fault.OfValues := by
  unfold remainder at failed
  split at failed
  · cases failed
    trivial
  · cases failed

theorem map_ofValues {α β : Type} {result : Except Fault α} {change : α → β}
    (refused : ∀ fault, result = .error fault → fault.OfValues)
    (failed : result.map change = .error fault) : fault.OfValues := by
  cases result with
  | ok value => cases failed
  | error reason =>
    cases failed
    exact refused _ rfl

namespace BinaryOp

variable {op : BinaryOp}

theorem onNumbers_ofValues {left right : Float}
    (failed : op.onNumbers left right = some (.error fault)) : fault.OfValues := by
  cases op with
  | div => exact map_ofValues (fun _ => divide_ofValues) (Option.some.inj failed)
  | _ => cases failed

theorem onTexts_ofValues {left right : String}
    (failed : op.onTexts left right = some (.error fault)) : fault.OfValues := by
  cases op <;> cases failed

theorem onVectors_ofValues {left right : Vector3}
    (failed : op.onVectors left right = some (.error fault)) : fault.OfValues := by
  cases op with
  | div => exact map_ofValues (fun _ => divideVector_ofValues) (Option.some.inj failed)
  | _ => cases failed

theorem onBooleans_ofValues {left right : Bool}
    (failed : op.onBooleans left right = some (.error fault)) : fault.OfValues := by
  cases op <;> cases failed

theorem onIntegers_ofValues {left right : Int64}
    (failed : op.onIntegers left right = some (.error fault)) : fault.OfValues := by
  cases op with
  | mod => exact map_ofValues (fun _ => remainder_ofValues) (Option.some.inj failed)
  | _ => cases failed

theorem apply_ofValues {left right : Value} (failed : op.apply left right = .error fault) :
    fault.OfValues := by
  have undefined : ∀ result? : Option (Except Fault Value),
      (∀ fault, result? = some (.error fault) → fault.OfValues) →
      result?.getD (.error (.invalidOperation op left.schema right.schema)) = .error fault →
      fault.OfValues := by
    intro result? refused failed
    cases result? with
    | none =>
      cases failed
      trivial
    | some result => exact refused fault (congrArg some failed)
  unfold apply at failed
  apply undefined _ _ failed
  intro reason refused
  split at refused
  · exact onNumbers_ofValues refused
  · exact onTexts_ofValues refused
  · exact onVectors_ofValues refused
  · exact onBooleans_ofValues refused
  · exact onIntegers_ofValues refused
  · cases refused

end BinaryOp

theorem UnaryOp.apply_ofValues {op : UnaryOp} {operand : Value}
    (failed : op.apply operand = .error fault) : fault.OfValues := by
  unfold apply at failed
  split at failed <;> cases failed
  trivial

theorem Bindings.asComponent_ofValues {value : Value}
    (failed : Bindings.asComponent value = .error fault) : fault.OfValues := by
  unfold Bindings.asComponent at failed
  split at failed
  · cases failed
  · cases failed
    trivial

theorem Bindings.asCondition_ofValues {value : Value}
    (failed : Bindings.asCondition value = .error fault) : fault.OfValues := by
  unfold Bindings.asCondition at failed
  split at failed
  · cases failed
  · cases failed
    trivial

theorem resolve_error {components : Registry Component} {source : String} {type : TypeExpr}
    {fault : Fault} (failed : resolve components source type = .error fault) :
    ∃ written line, fault = .unknownType written line := by
  fun_induction resolve with
  | case1 _ _ ih =>
    rcases bind_error failed with inner | ⟨_, -, impossible⟩
    · exact ih inner
    · cases impossible
  | case2 => cases failed
  | case3 | case4 =>
    cases failed
    exact ⟨_, _, rfl⟩

end Stagecraft.Script
