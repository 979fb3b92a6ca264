import Stagecraft.Proofs.Script.Declarations
import Stagecraft.Proofs.Script.Moments

/-!
Vocabulary: what the types that a script writes denote. The name of a component denotes its schema in
everything behind it, unless a kind of values has the name; then the kind is denoted, and a component of that
name can be declared but not be written as a type.
-/

namespace Stagecraft

namespace Registry

variable {α : Type} [Named α] {registry : Registry α} {name other : String} {entry : α}

theorem names_before (registry : Registry α) (name : String) :
    (registry.before name).names = registry.names.takeWhile (· != name) := by
  rw [names, before, names, List.takeWhile_map]
  rfl

theorem Gains.names_before {later : Registry α} {first second : List String}
    (gains : registry.Gains (first ++ name :: second) later) :
    (later.before name).names = registry.names ++ first := by
  have others : ∀ other ∈ registry.names ++ first, (other != name) = true := by
    intro other inside
    rw [bne_iff_ne]
    rintro rfl
    rcases List.mem_append.mp inside with old | new
    · exact gains.fresh other (List.mem_append_right _ List.mem_cons_self) old
    · exact (List.nodup_append.mp gains.distinct).2.2 other new other List.mem_cons_self rfl
  rw [Registry.names_before, gains.behind, ← List.append_assoc, List.takeWhile_append_of_pos others,
    List.takeWhile_cons_of_neg (by simp), List.append_nil]

theorem find?_of_before (found : (registry.before name).find? other = some entry) :
    registry.find? other = some entry := by
  have split : registry = (registry.before name).append
      ⟨registry.entries.dropWhile (fun entry => Named.name entry != name)⟩ := by
    rw [append, before, List.takeWhile_append_dropWhile]
  rw [split]
  exact find?_append found _

end Registry

namespace Script

variable {known : Registry Component} {source : String} {type : TypeExpr} {schema : Schema}

/-! ### Types -/

def TypeExpr.word : TypeExpr → String
  | ⟨"Optional", [inner], _⟩ => TypeExpr.word inner
  | ⟨name, _, _⟩ => name

theorem TypeExpr.word_name (name : String) (span : Text.Span) : TypeExpr.word ⟨name, [], span⟩ = name := by
  rw [TypeExpr.word]
  nofun

/-- What a type denotes where the names of components go before those of kinds. -/
inductive TypeExpr.Denotes (known : Registry Component) : TypeExpr → Schema → Prop
  | component {name : String} {span : Text.Span} {component : Component}
      (found : known.find? name = some component) : Denotes known ⟨name, [], span⟩ component.schema
  | kind {name : String} {span : Text.Span} {kind : Basic} (unknown : known.find? name = none)
      (named : Basic.ofName? name = some kind) : Denotes known ⟨name, [], span⟩ (.basic kind)
  | optional {inner : TypeExpr} {span : Text.Span} {schema : Schema} (inside : Denotes known inner schema) :
      Denotes known ⟨"Optional", [inner], span⟩ (.optional schema)

theorem denotes_name_of_component {component : Component} {name : String} {span : Text.Span}
    (found : known.find? name = some component) :
    TypeExpr.Denotes known ⟨name, [], span⟩ schema ↔ schema = component.schema := by
  constructor
  · intro denotes
    cases denotes with
    | component same =>
      rw [found] at same
      cases same
      rfl
    | kind unknown =>
      rw [found] at unknown
      cases unknown
  · rintro rfl
    exact .component found

/-- A name means one thing: a component of this name has the schema of a kind of this name. -/
def Plain (known : Registry Component) (name : String) : Prop :=
  ∀ component ∈ known.find? name, ∀ kind ∈ Basic.ofName? name, component.schema = .basic kind

instance (known : Registry Component) (name : String) : Decidable (Plain known name) :=
  inferInstanceAs (Decidable (∀ component ∈ known.find? name, ∀ kind ∈ Basic.ofName? name,
    component.schema = .basic kind))

theorem resolve_name_iff {name : String} {span : Text.Span} :
    resolve known source ⟨name, [], span⟩ = .ok schema ↔
      ((Basic.ofName? name).map Schema.basic).or ((known.find? name).map Component.schema) = some schema := by
  rw [resolve]
  split
  · next found => rw [found, Except.ok.injEq, Option.some.injEq]
  · next missing => simp only [missing, reduceCtorEq]

theorem resolve_component_iff {component : Component} {name : String} (found : known.find? name = some component)
    (span : Text.Span) :
    resolve known source ⟨name, [], span⟩ = .ok component.schema ↔ Plain known name := by
  rw [resolve_name_iff, found]
  unfold Plain
  cases Basic.ofName? name with
  | none => simp
  | some kind => simp [found, eq_comm]

theorem denotes_iff_plain (resolved : resolve known source type = .ok schema) :
    type.Denotes known schema ↔ Plain known type.word := by
  fun_induction resolve generalizing schema with
  | case1 inner span ih =>
    obtain ⟨content, same, done⟩ := bind_ok resolved
    cases done
    rw [TypeExpr.word, ← ih same]
    refine ⟨fun denotes => ?_, .optional⟩
    cases denotes with
    | optional inside => exact inside
  | case2 name span found same =>
    cases resolved
    rw [TypeExpr.word_name]
    cases there : known.find? name with
    | none =>
      rw [there, Option.map_none, Option.or_none] at same
      obtain ⟨kind, named, rfl⟩ := Option.map_eq_some_iff.mp same
      simp only [Plain, there, TypeExpr.Denotes.kind there named, Option.mem_def, reduceCtorEq,
        false_implies, implies_true]
    | some component =>
      have plain : resolve known source ⟨name, [], span⟩ = .ok component.schema ↔ Plain known name :=
        resolve_component_iff there span
      rw [denotes_name_of_component there, ← plain, resolve_name_iff, same, Option.some.injEq]
  | case3 | case4 => cases resolved

/-! ### Items -/

mutual

def Stmt.types : Stmt → List TypeExpr
  | .declare type _ _ _ => [type]
  | .branch _ yes no _ => Stmt.typesAll yes ++ Stmt.typesAll no
  | .loop _ body _ => Stmt.typesAll body
  | .assign _ _ _ | .expr _ | .emit _ _ _ => []
termination_by structural stmt => stmt

def Stmt.typesAll : List Stmt → List TypeExpr
  | [] => []
  | stmt :: rest => Stmt.types stmt ++ Stmt.typesAll rest
termination_by structural stmts => stmts

end

def Item.types : Item → List TypeExpr
  | .component ⟨_, .alias_ type, _⟩ => [type]
  | .component ⟨_, .fields lines, _⟩ => lines.map Field.type
  | .event decl => decl.payload.toList.map Field.type
  | .system decl => decl.event.payload.toList.map Field.type ++ Stmt.typesAll decl.body

/-- The components that the types of an item can name: those before a component, and all of them in events
and systems. -/
def Item.vocabulary (components : Registry Component) : Item → Registry Component
  | .component decl => components.before decl.name
  | .event _ | .system _ => components

theorem Item.find?_of_vocabulary (item : Item) {components : Registry Component} {name : String}
    {component : Component} (found : (item.vocabulary components).find? name = some component) :
    components.find? name = some component := by
  cases item with
  | component => exact Registry.find?_of_before found
  | event | system => exact found

def Resolves (known : Registry Component) (source : String) (type : TypeExpr) : Prop :=
  ∃ schema, resolve known source type = .ok schema

mutual

theorem checkStmt_resolves {scope : Scope} : (stmt : Stmt) → {locals later : List String} →
    scope.checkStmt locals stmt = .ok later →
      ∀ type ∈ stmt.types, Resolves scope.components scope.source type
  | .declare type name value _, _, _, checked => by
    obtain ⟨schema, resolved, -⟩ := bind_ok checked
    rw [Stmt.types, List.forall_mem_singleton]
    exact ⟨schema, resolved⟩
  | .branch _ yes no _, _, _, checked => by
    obtain ⟨_, -, others⟩ := bind_ok checked
    obtain ⟨_, first, second⟩ := bind_ok others
    rw [Stmt.types, List.forall_mem_append]
    exact ⟨checkBlock_resolves yes first, checkBlock_resolves no second⟩
  | .loop _ body _, _, _, checked => by
    obtain ⟨_, -, inside⟩ := bind_ok checked
    rw [Stmt.types]
    exact checkBlock_resolves body inside
  | .assign _ _ _, _, _, _ | .expr _, _, _, _ | .emit _ _ _, _, _, _ => nofun
termination_by structural stmt => stmt

theorem checkBlock_resolves {scope : Scope} : (stmts : List Stmt) → {locals later : List String} →
    scope.checkBlock locals stmts = .ok later →
      ∀ type ∈ Stmt.typesAll stmts, Resolves scope.components scope.source type
  | [], _, _, _ => nofun
  | stmt :: rest, _, _, checked => by
    obtain ⟨_, first, others⟩ := bind_ok checked
    rw [Stmt.typesAll, List.forall_mem_append]
    exact ⟨checkStmt_resolves stmt first, checkBlock_resolves rest others⟩
termination_by structural stmts => stmts

end

theorem EventDecl.payload_resolves {decl : EventDecl} {contract : Contract}
    (written : decl.contract known source = .ok contract) :
    ∀ type ∈ decl.payload.toList.map Field.type, Resolves known source type := by
  unfold EventDecl.contract at written
  cases payload : decl.payload with
  | none => nofun
  | some field =>
    rw [payload] at written
    obtain ⟨schema, resolved, -⟩ := bind_ok written
    exact List.forall_mem_singleton.mpr ⟨schema, resolved⟩

theorem Item.Registered.resolves {settings : Settings} {catalog : Catalog} {item : Item}
    (registered : item.Registered settings source catalog) :
    ∀ type ∈ item.types, Resolves (item.vocabulary catalog.components) source type := by
  cases item with
  | component decl =>
    obtain ⟨schema, found, -⟩ := registered
    obtain ⟨name, body, span⟩ := decl
    cases body with
    | alias_ type => exact List.forall_mem_singleton.mpr ⟨schema, found⟩
    | fields lines =>
      obtain ⟨entries, resolved, -⟩ := bind_ok found
      intro type inside
      obtain ⟨line, among, rfl⟩ := List.mem_map.mp inside
      obtain ⟨entry, -, here⟩ := exists_image_of_forall₂ (mapM_ok_iff.mp resolved) among
      obtain ⟨schema, same, -⟩ := bind_ok here
      exact ⟨schema, same⟩
  | event decl =>
    obtain ⟨contract, written, -⟩ := registered
    exact EventDecl.payload_resolves written
  | system decl =>
    obtain ⟨checked, contract, heard, -⟩ := registered
    obtain ⟨entities, locals, later, -, -, body⟩ := SystemDecl.check_ok checked
    exact List.forall_mem_append.mpr
      ⟨EventDecl.payload_resolves heard.written, checkBlock_resolves decl.body body⟩

theorem declare_leads {bindings : Bindings} {type : TypeExpr} {name : String} {value : Expr}
    {span : Text.Span} {before after : Moment}
    (ended : (bindings.exec (.declare type name value span)).Leads before () after) :
    ∃ schema held, resolve bindings.routine.components bindings.routine.source type = .ok schema ∧
      after.progress.locals.lookup name = some held ∧ held.schema = schema := by
  obtain ⟨_, begun, -, others⟩ := Run.Leads.of_bind ended
  obtain ⟨schema, resolved, found, remaining⟩ := Run.Leads.of_bind others
  obtain ⟨result, evaluated, -, last⟩ := Run.Leads.of_bind remaining
  obtain ⟨held, coerced, fits, set⟩ := Run.Leads.of_bind last
  obtain ⟨found, -⟩ := found.of_attempt
  obtain ⟨fits, -⟩ := fits.of_attempt
  refine ⟨schema, held, found, ?_, coerce_schema fits⟩
  rw [set.of_modify, Keyed.lookup_insert, if_pos rfl]

/-! ### Scripts -/

/-- The types of a script that is loaded stand for schemas. A component sees the components from before the
load and those above it in the script, and events and systems see all components. The name of a component that
is seen stands for the schema that is registered for it, and a type denotes what it stands for, exactly if the
name is plain. Locals get the schemas that their types stand for. -/
theorem load_resolves_types {settings : Settings} {before after : Catalog} {summary : Summary}
    (loaded : load settings source before = .ok (summary, after)) :
    ∃ tree, parse source = .ok tree ∧
      (∀ above decl below, tree.components = above ++ decl :: below →
        ((Item.component decl).vocabulary after.components).names =
          before.components.names ++ above.map ComponentDecl.name) ∧
      (∀ item ∈ tree.items, item.Registered settings source after ∧
        (∀ name component span, (item.vocabulary after.components).find? name = some component →
          after.components.find? name = some component ∧
          (resolve (item.vocabulary after.components) source ⟨name, [], span⟩ = .ok component.schema ↔
            Plain (item.vocabulary after.components) name)) ∧
        ∀ type ∈ item.types, ∃ schema,
          resolve (item.vocabulary after.components) source type = .ok schema ∧
          (type.Denotes (item.vocabulary after.components) schema ↔
            Plain (item.vocabulary after.components) type.word)) ∧
      (∀ decl ∈ tree.components, ∃ component, after.components.find? decl.name = some component ∧
        ∀ span, resolve after.components source ⟨decl.name, [], span⟩ = .ok component.schema ↔
          Plain after.components decl.name) ∧
      ∀ decl ∈ tree.systems, ∀ bindings : Bindings, bindings.routine = settings.routine source after decl →
        ∀ type name value span start final,
          (bindings.exec (.declare type name value span)).Leads start () final →
            ∃ schema held, resolve after.components source type = .ok schema ∧
              final.progress.locals.lookup name = some held ∧ held.schema = schema := by
  obtain ⟨tree, more, parsed, rfl, follows, rfl, names, registered⟩ := load_registers loaded
  refine ⟨tree, parsed, ?_, ?_, ?_, ?_⟩
  · intro above decl below split
    have gains := follows.components.gains
    rw [show more.components.names = tree.components.map ComponentDecl.name from
      congrArg Summary.components names, split, List.map_append, List.map_cons] at gains
    exact gains.names_before
  · intro item inside
    refine ⟨registered item inside, ?_, ?_⟩
    · intro name component span found
      exact ⟨item.find?_of_vocabulary found, resolve_component_iff found span⟩
    · intro type among
      obtain ⟨schema, resolved⟩ := (registered item inside).resolves type among
      exact ⟨schema, resolved, denotes_iff_plain resolved⟩
  · intro decl inside
    obtain ⟨schema, -, found⟩ := registered _ (Tree.mem_components.mp inside)
    exact ⟨_, found, resolve_component_iff found⟩
  · intro decl _ bindings same type name value span start final ended
    have declared := declare_leads ended
    rw [same] at declared
    exact declared

def rewardScript : String :=
  "component Stats\n\tNumber xp\ncomponent Bonus = Stats\n" ++
    "system Reward(player<Stats>) event Win(Bonus bonus)\n\tStats old = player.Stats\n\tplayer.Stats = bonus\n"

theorem rewardScript_denotes :
    ∃ tree summary after, parse rewardScript = .ok tree ∧
      load .standard rewardScript .empty = .ok (summary, after) ∧
      (tree.items.flatMap Item.types).map TypeExpr.word = ["Number", "Stats", "Bonus", "Stats"] ∧
      ∀ item ∈ tree.items, ∀ type ∈ item.types, ∃ schema,
        resolve (item.vocabulary after.components) rewardScript type = .ok schema ∧
        type.Denotes (item.vocabulary after.components) schema := by
  obtain ⟨tree, summary, after, parsed, loaded, words, plain⟩ :
      ∃ tree summary after, parse rewardScript = .ok tree ∧
        load .standard rewardScript .empty = .ok (summary, after) ∧
        (tree.items.flatMap Item.types).map TypeExpr.word = ["Number", "Stats", "Bonus", "Stats"] ∧
        ∀ item ∈ tree.items, ∀ type ∈ item.types, Plain (item.vocabulary after.components) type.word :=
    exists_loaded_of_decide (by decide +kernel)
  obtain ⟨same, parsedSame, -, resolved, -⟩ := load_resolves_types loaded
  cases parsed.symm.trans parsedSame
  refine ⟨tree, summary, after, parsed, loaded, words, fun item inside type among => ?_⟩
  obtain ⟨schema, found, denotes⟩ := (resolved item inside).2.2 type among
  exact ⟨schema, found, denotes.mpr (plain item inside type among)⟩

def hiddenScript : String := "component Vec3 = Number\ncomponent Y\n\tVec3 v\n"

/-- The script is accepted. Its first component consists of numbers, but its name stands for vectors. -/
theorem hidden_component :
    ∃ tree summary after, parse hiddenScript = .ok tree ∧
      load .standard hiddenScript .empty = .ok (summary, after) ∧
      ∃ item ∈ tree.items, ∃ type ∈ item.types, type.name = "Vec3" ∧ type.args = [] ∧
        (item.vocabulary after.components).find? "Vec3" = some (.of "Vec3" (.basic .number)) ∧
        resolve (item.vocabulary after.components) hiddenScript type = .ok (.basic .vector) ∧
        after.components.find? "Y" = some (.of "Y" (.record [("v", .basic .vector)])) :=
  exists_loaded_of_decide (by decide +kernel)

end Script

end Stagecraft
