import Stagecraft.Proofs.Integrity
import Stagecraft.Proofs.Script.Reading

/-!
Alike: declarations that differ in their places only say the same. What is accepted of the one is accepted of
the other, with the same outcome, also where more is registered; and the systems that come of the two are the
same.
-/

namespace Stagecraft

def Settles {ε α : Type} (first other : Except ε α) : Prop := ∀ result, first = .ok result → other = .ok result

section Settles

variable {ε α β γ : Type} {first other : Except ε α}

theorem Settles.of_eq (same : first = other) : Settles first other := fun _ succeeded => same ▸ succeeded

theorem Settles.refl (attempt : Except ε α) : Settles attempt attempt := .of_eq rfl

theorem Settles.error {fault : ε} : Settles (.error fault) other := nofun

theorem Settles.bind {next nextOther : α → Except ε β} (settles : Settles first other)
    (after : ∀ result, first = .ok result → Settles (next result) (nextOther result)) :
    Settles (first >>= next) (other >>= nextOther) := by
  intro result succeeded
  obtain ⟨middle, ran, remaining⟩ := bind_ok succeeded
  rw [settles middle ran]
  exact after middle ran result remaining

theorem Settles.ite {condition conditionOther : Prop} [Decidable condition] [Decidable conditionOther]
    {no noOther : Except ε α} (same : condition ↔ conditionOther)
    (yes : condition → Settles first other) (not : ¬condition → Settles no noOther) :
    Settles (if condition then first else no) (if conditionOther then other else noOther) := by
  by_cases holds : condition
  · rw [if_pos holds, if_pos (same.mp holds)]
    exact yes holds
  · rw [if_neg holds, if_neg (mt same.mpr holds)]
    exact not holds

theorem Settles.mapM {step : α → Except ε γ} {stepOther : β → Except ε γ} {members : List α} {others : List β}
    (pairs : List.Forall₂ (fun member other => Settles (step member) (stepOther other)) members others) :
    Settles (members.mapM step) (others.mapM stepOther) := by
  induction pairs with
  | nil => exact .refl _
  | cons settles _ ih =>
    rw [List.mapM_cons, List.mapM_cons]
    exact settles.bind fun _ _ => ih.bind fun _ _ => .refl _

end Settles

theorem forall₂_of_map_eq {α β : Type} {image : α → β} {members others : List α}
    (same : members.map image = others.map image) :
    List.Forall₂ (fun member other => image member = image other) members others := by
  rw [← List.forall₂_eq_eq_eq, List.forall₂_map_left_iff, List.forall₂_map_right_iff] at same
  exact same

/-! ### Registries that know more -/

namespace Registry

variable {α : Type} [Named α] {small large : Registry α}

def Within (small large : Registry α) : Prop :=
  ∀ name entry, small.find? name = some entry → large.find? name = some entry

theorem Within.refl (registry : Registry α) : registry.Within registry := fun _ _ found => found

theorem Within.append (within : small.Within large) (more : Registry α) : small.Within (large.append more) :=
  fun _ _ found => find?_append (within _ _ found) more

theorem Within.contains (within : small.Within large) {name : String} (known : small.contains name = true) :
    large.contains name = true := by
  obtain ⟨entry, found⟩ := Option.isSome_iff_exists.mp known
  exact Option.isSome_iff_exists.mpr ⟨entry, within name entry found⟩

end Registry

namespace Script

/-! ### Types and declarations -/

theorem toRole_alike {roles others : List RoleDecl}
    (alike : roles.map RoleDecl.bare = others.map RoleDecl.bare) :
    roles.map RoleDecl.toRole = others.map RoleDecl.toRole := by
  have mapped := congrArg (List.map RoleDecl.toRole) alike
  rwa [List.map_map, List.map_map] at mapped

section Declarations

variable {small large : Registry Component} (within : small.Within large) (source sourceOther : String)
include within

theorem resolve_settles {type other : TypeExpr} (alike : type.bare = other.bare) :
    Settles (resolve small source type) (resolve large sourceOther other) := by
  obtain ⟨name, args⟩ := Grammar.bare_eq alike
  clear alike
  induction type using resolve.induct small generalizing other with
  | case1 inner span ih =>
    obtain ⟨_, argsOther, spanOther⟩ := other
    cases name
    obtain ⟨innerOther, rest, rfl, same, none⟩ := List.map_eq_cons_iff.mp args.symm
    rw [List.map_eq_nil_iff.mp none, resolve, resolve]
    obtain ⟨names, argsInner⟩ := Grammar.bare_eq same.symm
    exact .bind (ih names argsInner) fun _ _ => .refl _
  | case2 name span schema found =>
    obtain ⟨_, argsOther, spanOther⟩ := other
    cases name
    cases List.map_eq_nil_iff.mp args.symm
    -- The basic kinds come first, so a component that is new in `large` hides none of them.
    have still : ((Basic.ofName? name).map Schema.basic).or ((large.find? name).map Component.schema) =
        some schema := by
      rcases Option.or_eq_some_iff.mp found with basic | ⟨none, known⟩
      · rw [basic, Option.some_or]
      · obtain ⟨component, registered, rfl⟩ := Option.map_eq_some_iff.mp known
        rw [none, Option.none_or, within _ _ registered]
        rfl
    rw [resolve, resolve, found, still]
    exact .refl _
  | case3 name span none =>
    rw [resolve, none]
    exact .error
  | case4 type notOptional notPlain =>
    rw [resolve]
    · exact .error
    · exact notOptional
    · exact notPlain

theorem fields_settle {lines others : List Field} (alike : lines.map Field.bare = others.map Field.bare) :
    Settles (lines.mapM fun field => do return (field.name, ← resolve small source field.type))
      (others.mapM fun field => do return (field.name, ← resolve large sourceOther field.type)) := by
  refine .mapM ((forall₂_of_map_eq alike).imp ?_)
  rintro ⟨type, name, span⟩ ⟨typeOther, nameOther, spanOther⟩ same
  obtain ⟨types, rfl, -⟩ := Field.mk.inj same
  exact .bind (resolve_settles within _ _ types) fun _ _ => .refl _

theorem schema_settles {decl other : ComponentDecl} (alike : decl.bare = other.bare) :
    Settles (decl.schema small source) (other.schema large sourceOther) := by
  obtain ⟨name, body, span⟩ := decl
  obtain ⟨nameOther, bodyOther, spanOther⟩ := other
  have bodies := congrArg ComponentDecl.body alike
  unfold ComponentDecl.schema
  cases body with
  | alias_ type =>
    cases bodyOther with
    | fields => cases bodies
    | alias_ typeOther => exact resolve_settles within _ _ (ComponentBody.alias_.inj bodies)
  | fields lines =>
    cases bodyOther with
    | alias_ => cases bodies
    | fields others =>
      exact .bind (fields_settle within _ _ (ComponentBody.fields.inj bodies)) fun _ _ => .refl _

theorem contract_settles {decl other : EventDecl} (alike : decl.bare = other.bare) :
    Settles (decl.contract small source) (other.contract large sourceOther) := by
  obtain ⟨name, roles, payload, span⟩ := decl
  obtain ⟨nameOther, rolesOther, payloadOther, spanOther⟩ := other
  obtain ⟨rfl, roles, payloads, -⟩ := EventDecl.mk.inj alike
  have same := toRole_alike roles
  cases payload with
  | none =>
    cases Option.map_eq_none_iff.mp payloads.symm
    unfold EventDecl.contract
    dsimp only at same ⊢
    rw [same]
    exact .refl _
  | some field =>
    obtain ⟨fieldOther, rfl, fields⟩ := Option.map_eq_some_iff.mp payloads.symm
    unfold EventDecl.contract
    dsimp only at same ⊢
    rw [same]
    exact .bind (resolve_settles within _ _ (congrArg Field.type fields).symm) fun _ _ => .refl _

end Declarations

/-! ### Scopes -/

structure Scope.Within (scope other : Scope) : Prop where
  system : scope.system = other.system
  entities : scope.entities = other.entities
  components : scope.components.Within other.components
  events : scope.events.Within other.events

namespace Scope

variable {scope other : Scope}

theorem Within.refl (scope : Scope) : scope.Within scope := ⟨rfl, rfl, .refl _, .refl _⟩

section

variable (within : scope.Within other)
include within

theorem Within.entity? (name : String) : other.entity? name = scope.entity? name :=
  congrArg (List.lookup name) within.entities.symm

theorem Within.checkComponent (binding : String) (declared : List String) (component : String) :
    other.checkComponent binding declared component = scope.checkComponent binding declared component := by
  rw [Scope.checkComponent, Scope.checkComponent, within.system]

theorem Within.checkVariable (locals : List String) (name : String) :
    other.checkVariable locals name = scope.checkVariable locals name := by
  rw [Scope.checkVariable, Scope.checkVariable, within.entity?, within.system]

end

mutual

theorem checkExpr_bare (within : scope.Within other) {locals : List String} : (expr : Expr) →
    other.checkExpr locals expr.bare = scope.checkExpr locals expr
  | .literal _ _ => rfl
  | .var name _ => within.checkVariable locals name
  | .field base name span => by
    have inner : other.checkExpr locals base.bare = scope.checkExpr locals base := checkExpr_bare within base
    rw [Expr.bare, checkExpr_field, checkExpr_field]
    cases base with
    | var root span =>
      simp only [Expr.bare] at inner ⊢
      rw [within.entity?, inner]
      cases scope.entity? root with
      | none => rfl
      | some declared => exact within.checkComponent root declared name
    | _ => exact inner
  | .unary _ operand _ => checkExpr_bare within operand
  | .binary _ left right _ => by
    rw [Expr.bare, Scope.checkExpr, Scope.checkExpr, checkExpr_bare within left, checkExpr_bare within right]
  | .call name args _ => by
    rw [Expr.bare, Scope.checkExpr, Scope.checkExpr, checkExprs_bare within args, within.system]
  | .vector x y z _ => by
    rw [Expr.bare, Scope.checkExpr, Scope.checkExpr, checkExpr_bare within x, checkExpr_bare within y,
      checkExpr_bare within z]

theorem checkExprs_bare (within : scope.Within other) {locals : List String} : (exprs : List Expr) →
    other.checkExprs locals (Expr.bareAll exprs) = scope.checkExprs locals exprs
  | [] => rfl
  | expr :: rest => by
    rw [Expr.bareAll, Scope.checkExprs, Scope.checkExprs, checkExpr_bare within expr,
      checkExprs_bare within rest]

end

section

variable (within : scope.Within other)
include within

theorem checkExpr_alike (locals : List String) {expr same : Expr} (alike : expr.bare = same.bare) :
    scope.checkExpr locals expr = other.checkExpr locals same := by
  rw [← checkExpr_bare within, alike, checkExpr_bare (.refl other)]

theorem checkPlace_alike (locals : List String) {place same : Place} (alike : place.bare = same.bare) :
    scope.checkPlace locals place = other.checkPlace locals same := by
  obtain ⟨root, path, span⟩ := place
  obtain ⟨rootOther, pathOther, spanOther⟩ := same
  obtain ⟨rfl, rfl, -⟩ := Place.mk.inj alike
  unfold Scope.checkPlace
  dsimp only
  rw [within.entity?, within.checkVariable]
  cases scope.entity? root with
  | none => rfl
  | some declared =>
    cases path with
    | nil => rfl
    | cons component =>
      dsimp only
      rw [within.checkComponent]

theorem isEntity_bare (expr : Expr) : other.isEntity expr.bare = scope.isEntity expr := by
  cases expr with
  | var name => exact congrArg Option.isSome (within.entity? name)
  | _ => rfl

theorem isEntity_alike {args sames : List Expr} (alike : args.map Expr.bare = sames.map Expr.bare)
    (count : Nat) :
    (args.take count).all scope.isEntity = (sames.take count).all other.isEntity := by
  have bare (scope : Scope) (inside : scope.Within other) (args : List Expr) :
      (args.take count).all scope.isEntity = ((args.map Expr.bare).take count).all other.isEntity := by
    rw [← List.map_take, List.all_map]
    exact congrArg (List.all _) (funext fun expr => (isEntity_bare inside expr).symm)
  rw [bare scope within args, alike, ← bare other (.refl other)]

theorem checkEmit_settles (locals : List String) (event : String) {args sames : List Expr}
    (alike : args.map Expr.bare = sames.map Expr.bare) :
    Settles (scope.checkEmit locals event args) (other.checkEmit locals event sames) := by
  have length := congrArg List.length alike
  rw [List.length_map, List.length_map] at length
  unfold Scope.checkEmit
  cases found : scope.events.find? event with
  | none => exact .error
  | some contract =>
    have payloads := congrArg (fun (args : List Expr) => args[contract.roles.length]?) alike
    simp only [List.getElem?_map] at payloads
    rw [within.events _ _ found]
    dsimp only
    refine .ite (by rw [length]) (fun _ => .error) fun _ => ?_
    refine .ite (by rw [isEntity_alike within alike]) (fun _ => .error) fun _ => ?_
    cases payload : args[contract.roles.length]? with
    | none =>
      rw [payload] at payloads
      rw [Option.map_eq_none_iff.mp payloads.symm]
      exact .ite Iff.rfl (fun _ => .refl _) fun _ => .error
    | some expr =>
      rw [payload] at payloads
      obtain ⟨same, there, alike⟩ := Option.map_eq_some_iff.mp payloads.symm
      rw [there]
      exact .of_eq (checkExpr_alike within locals alike.symm)

end

/-! ### Statements -/

mutual

theorem checkStmt_settles (within : scope.Within other) {locals : List String} : (stmt : Stmt) →
    {same : Stmt} → stmt.bare = same.bare →
    Settles (scope.checkStmt locals stmt) (other.checkStmt locals same)
  | .assign target value _, same, alike => by
    cases same with
    | assign targetOther valueOther _ =>
      obtain ⟨targets, values, -⟩ := Stmt.assign.inj alike
      rw [checkStmt, checkStmt, checkExpr_alike within locals values, checkPlace_alike within locals targets]
      exact .refl _
    | _ => cases alike
  | .declare type name value _, same, alike => by
    cases same with
    | declare typeOther nameOther valueOther _ =>
      obtain ⟨types, rfl, values, -⟩ := Stmt.declare.inj alike
      rw [checkStmt, checkStmt, checkExpr_alike within locals values, within.entity?, within.system]
      exact .bind (resolve_settles within.components _ _ types) fun _ _ => .refl _
    | _ => cases alike
  | .expr value, same, alike => by
    cases same with
    | expr valueOther =>
      rw [checkStmt, checkStmt, checkExpr_alike within locals (Stmt.expr.inj alike)]
      exact .refl _
    | _ => cases alike
  | .branch condition yes no _, same, alike => by
    cases same with
    | branch conditionOther yesOther noOther _ =>
      obtain ⟨conditions, yeses, nos, -⟩ := Stmt.branch.inj alike
      rw [checkStmt, checkStmt, checkExpr_alike within locals conditions]
      exact .bind (.refl _) fun _ _ => .bind (checkBlock_settles within yes yeses) fun _ _ =>
        checkBlock_settles within no nos
    | _ => cases alike
  | .loop condition body _, same, alike => by
    cases same with
    | loop conditionOther bodyOther _ =>
      obtain ⟨conditions, bodies, -⟩ := Stmt.loop.inj alike
      rw [checkStmt, checkStmt, checkExpr_alike within locals conditions]
      exact .bind (.refl _) fun _ _ => checkBlock_settles within body bodies
    | _ => cases alike
  | .emit event args _, same, alike => by
    cases same with
    | emit eventOther argsOther _ =>
      obtain ⟨rfl, arguments, -⟩ := Stmt.emit.inj alike
      rw [Expr.bareAll_eq, Expr.bareAll_eq] at arguments
      exact .bind (checkEmit_settles within locals event arguments) fun _ _ => .refl _
    | _ => cases alike

theorem checkBlock_settles (within : scope.Within other) {locals : List String} : (stmts : List Stmt) →
    {sames : List Stmt} → Stmt.bareAll stmts = Stmt.bareAll sames →
    Settles (scope.checkBlock locals stmts) (other.checkBlock locals sames)
  | [], sames, alike => by
    cases sames with
    | nil => exact .refl _
    | cons => cases alike
  | stmt :: rest, sames, alike => by
    cases sames with
    | nil => cases alike
    | cons same others =>
      obtain ⟨here, behind⟩ := List.cons.inj alike
      exact .bind (checkStmt_settles within stmt here) fun _ _ => checkBlock_settles within rest behind

end

end Scope

/-! ### Systems -/

section Systems

theorem bindRoles_alike (system : String) {roles others : List RoleDecl}
    (alike : roles.map RoleDecl.bare = others.map RoleDecl.bare) (entities : List (String × List String)) :
    SystemDecl.bindRoles system roles entities = SystemDecl.bindRoles system others entities := by
  induction roles generalizing others entities with
  | nil => rw [List.map_eq_nil_iff.mp alike.symm]
  | cons role rest ih =>
    obtain ⟨same, behind, rfl, bare, more⟩ := List.map_eq_cons_iff.mp alike.symm
    obtain ⟨names, components, -⟩ := RoleDecl.mk.inj bare
    rw [SystemDecl.bindRoles, SystemDecl.bindRoles, names, components]
    cases role.name with
    | none => exact ih more.symm entities
    | some name =>
      dsimp only
      rw [ih more.symm]

variable {decl other : SystemDecl} (alike : decl.bare = other.bare)
include alike

theorem bindings_alike : decl.bindings = other.bindings := by
  obtain ⟨name, params, event, -⟩ := SystemDecl.mk.inj alike
  unfold SystemDecl.bindings
  rw [name]
  refine bindRoles_alike _ ?_ _
  rw [List.map_append, List.map_append, params]
  exact congrArg _ (congrArg EventDecl.roles event)

theorem payload_alike : (decl.event.payload.map Field.name) = (other.event.payload.map Field.name) := by
  have payloads := congrArg (fun decl : SystemDecl => decl.event.payload.map Field.name) alike
  change (decl.event.payload.map Field.bare).map Field.name =
    (other.event.payload.map Field.bare).map Field.name at payloads
  rwa [Option.map_map, Option.map_map] at payloads

/-- A system that is accepted is accepted in another place and where there is more to refer to. -/
theorem check_settles {components componentsOther : Registry Component}
    (knows : components.Within componentsOther) {events eventsOther : Registry Contract}
    (hears : events.Within eventsOther) (source sourceOther : String) :
    Settles (decl.check components events source) (other.check componentsOther eventsOther sourceOther) := by
  obtain ⟨name, -, -, body, -⟩ := SystemDecl.mk.inj alike
  have payloads := payload_alike alike
  unfold SystemDecl.check
  rw [bindings_alike alike]
  refine .bind (.refl _) fun entities _ => ?_
  have within : Scope.Within ⟨decl.name, components, events, source, entities⟩
      ⟨other.name, componentsOther, eventsOther, sourceOther, entities⟩ := ⟨name, rfl, knows, hears⟩
  have block (locals : List String) :
      Settles (Scope.checkBlock _ locals decl.body) (Scope.checkBlock _ locals other.body) :=
    Scope.checkBlock_settles within decl.body body
  cases payload : decl.event.payload with
  | none =>
    rw [payload] at payloads
    rw [Option.map_eq_none_iff.mp payloads.symm]
    exact (block []).bind fun _ _ => .refl _
  | some field =>
    rw [payload] at payloads
    obtain ⟨fieldOther, there, names⟩ := Option.map_eq_some_iff.mp payloads.symm
    rw [there]
    dsimp only
    rw [names]
    refine .ite Iff.rfl (fun _ => .error) fun _ => ?_
    exact (block _).bind fun _ _ => .refl _

end Systems

/-! ### Runs -/

/-- Routines of systems that say the same, with the same means. -/
structure Routine.Alike (routine other : Routine) : Prop where
  decl : routine.decl.bare = other.decl.bare
  keys : routine.keys = other.keys
  budget : routine.budget = other.budget

structure Bindings.Alike (bindings other : Bindings) : Prop where
  routine : bindings.routine.Alike other.routine
  entities : bindings.entities = other.entities

namespace Routine.Alike

variable {routine other : Routine} (alike : routine.Alike other)
include alike

theorem name : routine.name = other.name := (SystemDecl.mk.inj alike.decl).1

theorem limit : routine.limit = other.limit := congrArg (Option.getD · countable) alike.budget

theorem componentId (component : String) : routine.componentId component = other.componentId component := by
  rw [Routine.componentId, Routine.componentId, alike.name]

theorem readComponent (entity : Entity) (component : String) :
    routine.readComponent entity component = other.readComponent entity component := by
  rw [Routine.readComponent, Routine.readComponent, alike.componentId]

theorem changeComponent (entity : Entity) (component : String) (change : Value → Except Fault Value) :
    routine.changeComponent entity component change = other.changeComponent entity component change := by
  rw [Routine.changeComponent, Routine.changeComponent, alike.componentId]

end Routine.Alike

namespace Bindings

variable {bindings other : Bindings}

theorem Alike.entity? (alike : bindings.Alike other) (name : String) :
    other.entity? name = bindings.entity? name :=
  congrArg (List.lookup name) alike.entities.symm

mutual

theorem eval_bare (alike : bindings.Alike other) {locals : Keyed Value} : (expr : Expr) →
    other.eval locals expr.bare = bindings.eval locals expr
  | .literal _ _ => rfl
  | .var name _ => by
    rw [Expr.bare, Bindings.eval, Bindings.eval, readLocal, readLocal, alike.entity?, alike.routine.name]
  | .field base name span => by
    have inner : other.eval locals base.bare = bindings.eval locals base := eval_bare alike base
    rw [Expr.bare, eval_field, eval_field]
    cases base with
    | var root span =>
      simp only [Expr.bare] at inner ⊢
      rw [alike.entity?, inner]
      cases bindings.entity? root with
      | none => rfl
      | some entity => exact (alike.routine.readComponent entity name).symm
    | _ =>
      simp only [Expr.bare] at inner ⊢
      rw [inner]
  | .unary _ operand _ => by
    rw [Expr.bare, Bindings.eval, Bindings.eval, eval_bare alike operand]
  | .binary _ left right _ => by
    rw [Expr.bare, Bindings.eval, Bindings.eval, eval_bare alike left, eval_bare alike right]
  | .call name args _ => by
    rw [Expr.bare, Bindings.eval, Bindings.eval, evalAll_bare alike args, alike.routine.keys,
      alike.routine.name]
  | .vector x y z _ => by
    rw [Expr.bare, Bindings.eval, Bindings.eval, eval_bare alike x, eval_bare alike y, eval_bare alike z]

theorem evalAll_bare (alike : bindings.Alike other) {locals : Keyed Value} : (exprs : List Expr) →
    other.evalAll locals (Expr.bareAll exprs) = bindings.evalAll locals exprs
  | [] => rfl
  | expr :: rest => by
    rw [Expr.bareAll, Bindings.evalAll, Bindings.evalAll, eval_bare alike expr, evalAll_bare alike rest]

end

section

variable (alike : bindings.Alike other)
include alike

theorem eval_alike (locals : Keyed Value) {expr same : Expr} (bare : expr.bare = same.bare) :
    bindings.eval locals expr = other.eval locals same := by
  rw [← eval_bare alike, bare, eval_bare ⟨⟨rfl, rfl, rfl⟩, rfl⟩]

theorem step_alike : bindings.step = other.step := by
  rw [step, step, alike.routine.limit, alike.routine.name]

theorem evalHere_alike {expr same : Expr} (bare : expr.bare = same.bare) :
    bindings.evalHere expr = other.evalHere same := by
  simp only [evalHere, eval_alike alike _ bare]

theorem assign_alike {target same : Place} (bare : target.bare = same.bare) (value : Value) :
    bindings.assign target value = other.assign same value := by
  obtain ⟨root, path, span⟩ := target
  obtain ⟨rootOther, pathOther, spanOther⟩ := same
  obtain ⟨rfl, rfl, -⟩ := Place.mk.inj bare
  unfold assign
  dsimp only
  rw [alike.entity?, alike.routine.name]
  cases bindings.entity? root with
  | none => rfl
  | some entity =>
    cases path with
    | nil => rfl
    | cons component path =>
      dsimp only
      rw [alike.routine.changeComponent]
      rfl

theorem target?_bare (expr : Expr) : other.target? expr.bare = bindings.target? expr := by
  cases expr with
  | var name => exact alike.entity? name
  | _ => rfl

theorem targets_alike {args sames : List Expr} (bare : args.map Expr.bare = sames.map Expr.bare) (count : Nat) :
    (args.take count).mapM bindings.target? = (sames.take count).mapM other.target? := by
  have same (bindings : Bindings) (alike : bindings.Alike other) (args : List Expr) :
      (args.take count).mapM bindings.target? = ((args.map Expr.bare).take count).mapM other.target? := by
    rw [← List.map_take, List.mapM_map]
    exact congrArg (List.mapM · _) (funext fun expr => (target?_bare alike expr).symm)
  rw [same bindings alike args, bare, ← same other ⟨⟨rfl, rfl, rfl⟩, rfl⟩]

theorem repeatWhile_alike (condition : Run Bool) (body : Run Unit) (rounds : Nat) :
    bindings.repeatWhile condition body rounds = other.repeatWhile condition body rounds := by
  induction rounds with
  | zero => rw [repeatWhile, repeatWhile, alike.routine.limit, alike.routine.name]
  | succ rounds ih => rw [repeatWhile, repeatWhile, ih, step_alike alike]

end

structure Knows (bindings : Bindings) (scope : Scope) : Prop where
  components : scope.components.Within bindings.routine.components
  events : scope.events.Within bindings.routine.events

theorem emit_alike (alike : bindings.Alike other) {scope : Scope} (knows : bindings.Knows scope)
    (knowsOther : other.Knows scope) {locals : List String} {event : String} {args sames : List Expr}
    (checked : scope.checkEmit locals event args = .ok ()) (bare : args.map Expr.bare = sames.map Expr.bare) :
    bindings.emit event args = other.emit event sames := by
  unfold Scope.checkEmit at checked
  cases found : scope.events.find? event with
  | none =>
    rw [found] at checked
    cases checked
  | some contract =>
    have payloads := congrArg (fun (args : List Expr) => args[contract.roles.length]?) bare
    simp only [List.getElem?_map] at payloads
    unfold emit
    rw [knows.events _ _ found, knowsOther.events _ _ found, alike.routine.name]
    dsimp only
    rw [targets_alike alike bare]
    cases payload : args[contract.roles.length]? with
    | none =>
      rw [payload] at payloads
      rw [Option.map_eq_none_iff.mp payloads.symm]
    | some expr =>
      rw [payload] at payloads
      obtain ⟨same, there, exprs⟩ := Option.map_eq_some_iff.mp payloads.symm
      rw [there]
      dsimp only
      rw [evalHere_alike alike exprs.symm]

mutual

/-- What is accepted does the same in another place and where there is more to refer to. -/
theorem exec_alike (alike : bindings.Alike other) {scope : Scope} (knows : bindings.Knows scope)
    (knowsOther : other.Knows scope) {locals later : List String} : (stmt : Stmt) → {same : Stmt} →
    stmt.bare = same.bare → scope.checkStmt locals stmt = .ok later → bindings.exec stmt = other.exec same
  | .assign target value _, same, bare, _ => by
    cases same with
    | assign targetOther valueOther _ =>
      obtain ⟨targets, values, -⟩ := Stmt.assign.inj bare
      rw [exec, exec, step_alike alike, evalHere_alike alike values, funext (assign_alike alike targets)]
    | _ => cases bare
  | .declare type name value _, same, bare, checked => by
    cases same with
    | declare typeOther nameOther valueOther _ =>
      obtain ⟨types, rfl, values, -⟩ := Stmt.declare.inj bare
      -- The type was resolved when the system was accepted, so the run finds the same schema in both routines.
      obtain ⟨schema, resolved, -⟩ := bind_ok checked
      rw [exec, exec, step_alike alike, evalHere_alike alike values,
        resolve_settles knows.components _ _ rfl schema resolved,
        resolve_settles knowsOther.components _ _ types schema resolved]
    | _ => cases bare
  | .expr value, same, bare, _ => by
    cases same with
    | expr valueOther =>
      rw [exec, exec, step_alike alike, evalHere_alike alike (Stmt.expr.inj bare)]
    | _ => cases bare
  | .branch condition yes no _, same, bare, checked => by
    cases same with
    | branch conditionOther yesOther noOther _ =>
      obtain ⟨conditions, yeses, nos, -⟩ := Stmt.branch.inj bare
      obtain ⟨_, -, blocks⟩ := bind_ok checked
      obtain ⟨between, first, second⟩ := bind_ok blocks
      rw [exec, exec, step_alike alike, evalHere_alike alike conditions,
        execBlock_alike alike knows knowsOther yes yeses first,
        execBlock_alike alike knows knowsOther no nos second]
    | _ => cases bare
  | .loop condition body _, same, bare, checked => by
    cases same with
    | loop conditionOther bodyOther _ =>
      obtain ⟨conditions, bodies, -⟩ := Stmt.loop.inj bare
      obtain ⟨_, -, block⟩ := bind_ok checked
      rw [exec, exec, step_alike alike, evalHere_alike alike conditions,
        execBlock_alike alike knows knowsOther body bodies block, alike.routine.limit]
      simp only [repeatWhile_alike alike]
    | _ => cases bare
  | .emit event args _, same, bare, checked => by
    cases same with
    | emit eventOther argsOther _ =>
      obtain ⟨rfl, arguments, -⟩ := Stmt.emit.inj bare
      rw [Expr.bareAll_eq, Expr.bareAll_eq] at arguments
      obtain ⟨_, emits, -⟩ := bind_ok checked
      rw [exec, exec, step_alike alike, emit_alike alike knows knowsOther emits arguments]
    | _ => cases bare

theorem execBlock_alike (alike : bindings.Alike other) {scope : Scope} (knows : bindings.Knows scope)
    (knowsOther : other.Knows scope) {locals later : List String} : (stmts : List Stmt) → {sames : List Stmt} →
    Stmt.bareAll stmts = Stmt.bareAll sames → scope.checkBlock locals stmts = .ok later →
    bindings.execBlock stmts = other.execBlock sames
  | [], sames, bare, _ => by
    cases sames with
    | nil => rfl
    | cons => cases bare
  | stmt :: rest, sames, bare, checked => by
    cases sames with
    | nil => cases bare
    | cons same others =>
      obtain ⟨here, behind⟩ := List.cons.inj bare
      obtain ⟨between, first, second⟩ := bind_ok checked
      rw [execBlock, execBlock, exec_alike alike knows knowsOther stmt here first,
        execBlock_alike alike knows knowsOther rest behind second]

end

end Bindings

namespace Routine

variable {routine other : Routine}

theorem candidates_alike (alike : routine.Alike other) {params others : List RoleDecl}
    (bare : params.map RoleDecl.bare = others.map RoleDecl.bare) :
    routine.candidates params = other.candidates others := by
  induction params generalizing others with
  | nil => rw [List.map_eq_nil_iff.mp bare.symm]; rfl
  | cons param rest ih =>
    obtain ⟨same, behind, rfl, here, more⟩ := List.map_eq_cons_iff.mp bare.symm
    obtain ⟨-, components, -⟩ := RoleDecl.mk.inj here
    rw [candidates, candidates, ih more.symm, components]
    simp only [funext alike.componentId]

theorem bindNames_alike {roles others : List RoleDecl}
    (bare : roles.map RoleDecl.bare = others.map RoleDecl.bare)
    (bound : List (String × Entity)) (entities : List Entity) :
    bindNames bound roles entities = bindNames bound others entities := by
  induction roles generalizing others bound entities with
  | nil => rw [List.map_eq_nil_iff.mp bare.symm]
  | cons role rest ih =>
    obtain ⟨same, behind, rfl, here, more⟩ := List.map_eq_cons_iff.mp bare.symm
    obtain ⟨names, -, -⟩ := RoleDecl.mk.inj here
    cases entities with
    | nil => rfl
    | cons entity entities =>
      rw [bindNames, bindNames, names]
      cases role.name with
      | none => exact ih more.symm bound entities
      | some name => exact ih more.symm _ entities

section

variable (alike : routine.Alike other)
include alike

theorem bindings_alike (event : Event) (tuple : List Entity) :
    (routine.bindings event tuple).Alike (other.bindings event tuple) := by
  obtain ⟨-, params, events, -, -⟩ := SystemDecl.mk.inj alike.decl
  refine ⟨alike, ?_⟩
  change bindNames (bindNames [] _ _) _ _ = bindNames (bindNames [] _ _) _ _
  rw [bindNames_alike params, bindNames_alike (congrArg EventDecl.roles events)]

variable (checked : routine.decl.check routine.components routine.events routine.source = .ok ())
  (knows : routine.components.Within other.components) (hears : routine.events.Within other.events)
include checked knows hears

theorem runOn_alike (event : Event) (tuple : List Entity) :
    routine.runOn event tuple = other.runOn event tuple := by
  obtain ⟨entities, locals, later, -, -, body⟩ := SystemDecl.check_ok checked
  obtain ⟨-, -, -, bodies, -⟩ := SystemDecl.mk.inj alike.decl
  have block : (routine.bindings event tuple).execBlock routine.decl.body =
      (other.bindings event tuple).execBlock other.decl.body :=
    Bindings.execBlock_alike (bindings_alike alike event tuple) ⟨.refl _, .refl _⟩ ⟨knows, hears⟩
      routine.decl.body bodies body
  have payloads := payload_alike alike.decl
  unfold runOn
  rw [block]
  cases payload : routine.decl.event.payload with
  | none =>
    rw [payload] at payloads
    rw [Option.map_eq_none_iff.mp payloads.symm]
  | some field =>
    rw [payload] at payloads
    obtain ⟨fieldOther, there, names⟩ := Option.map_eq_some_iff.mp payloads.symm
    rw [there]
    dsimp only
    rw [names]

/-- A system that was accepted does the same as one that says the same where there is more to refer to. -/
theorem toSystem_alike (listener : Contract) : routine.toSystem listener = other.toSystem listener := by
  obtain ⟨-, params, -, -, -⟩ := SystemDecl.mk.inj alike.decl
  have run (event : Event) : routine.run event = other.run event := by
    unfold run
    rw [candidates_alike alike params, funext (runOn_alike alike checked knows hears event)]
  unfold toSystem
  rw [alike.name, toRole_alike params]
  simp only [run]

end

end Routine

end Script

end Stagecraft
