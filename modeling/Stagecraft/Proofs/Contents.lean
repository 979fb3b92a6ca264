import Stagecraft.Proofs.Interchange
import Stagecraft.Proofs.Population

/-!
Contents: what optionals hold, and what nobody looks at. A check compares schemas, and the schema of an
optional is the one that it names, whatever it holds. So a check sees the outline of a value and no more; all
of a value is as its schema prescribes if the content of every optional in it passes a check of its own.
-/

namespace Stagecraft

namespace Value

mutual

/-- What the optionals in a value hold, at any depth, each content behind the schema that is named for it. -/
def contents : Value → List (Schema × Value)
  | .record fields => fieldContents fields
  | .optional inner (some value) => (inner, value) :: contents value
  | .optional _ none => []
  | .number _ | .integer _ | .text _ | .boolean _ | .vector _ => []
termination_by structural value => value

def fieldContents : List (String × Value) → List (Schema × Value)
  | [] => []
  | (_, value) :: rest => contents value ++ fieldContents rest
termination_by structural fields => fields

end

mutual

/-- Every part of the value has the schema that its place prescribes, as far as there are no optionals. Those
name the schema for what they hold. -/
def Outlines : Value → Schema → Prop
  | .number _, schema => schema = .basic .number
  | .integer _, schema => schema = .basic .integer
  | .text _, schema => schema = .basic .text
  | .boolean _, schema => schema = .basic .boolean
  | .vector _, schema => schema = .basic .vector
  | .record fields, .record schemas => FieldsOutline fields schemas
  | .record _, _ => False
  | .optional inner _, schema => schema = .optional inner
termination_by structural value => value

def FieldsOutline : List (String × Value) → List (String × Schema) → Prop
  | [], schemas => schemas = []
  | (_, _) :: _, [] => False
  | (m, value) :: rest, (n, schema) :: schemas =>
    m = n ∧ Outlines value schema ∧ FieldsOutline rest schemas
termination_by structural fields => fields

end

/-! ### What a check sees -/

mutual

theorem schema_eq_iff_outlines : (value : Value) → (expected : Schema) →
    (value.schema = expected ↔ value.Outlines expected)
  | .number _, _ | .integer _, _ | .text _, _ | .boolean _, _ | .vector _, _ | .optional _ _, _ => by
    rw [schema, Outlines, eq_comm]
  | .record fields, .record schemas => by
    rw [schema, Outlines, Schema.record.injEq]
    exact schemas_eq_iff_outline fields schemas
  | .record _, .basic _ => by simp [schema, Outlines]
  | .record _, .optional _ => by simp [schema, Outlines]

theorem schemas_eq_iff_outline : (fields : List (String × Value)) → (expected : List (String × Schema)) →
    (schemas fields = expected ↔ FieldsOutline fields expected)
  | [], _ => by rw [schemas, FieldsOutline, eq_comm]
  | (_, _) :: _, [] => by simp [schemas, FieldsOutline]
  | (_, value) :: rest, (_, expected) :: others => by
    rw [schemas, FieldsOutline, List.cons.injEq, Prod.mk.injEq, schema_eq_iff_outlines value expected,
      schemas_eq_iff_outline rest others, and_assoc]

end

theorem check_ok_iff_outlines (value : Value) (schema : Schema) :
    value.check schema = .ok () ↔ value.Outlines schema :=
  (check_ok_iff value schema).trans (schema_eq_iff_outlines value schema)

/-! ### What a check does not see -/

mutual

theorem fits_iff_outlines : (value : Value) → (schema : Schema) →
    (value.Fits schema ↔
      value.Outlines schema ∧ ∀ held ∈ value.contents, held.2.check held.1 = .ok ())
  | .number _, _ | .integer _, _ | .text _, _ | .boolean _, _ | .vector _, _ => by
    simp [Fits, Outlines, contents]
  | .record fields, .record schemas => by
    rw [Fits, Outlines, contents]
    exact fieldsFit_iff_outline fields schemas
  | .record _, .basic _ => by simp [Fits, Outlines]
  | .record _, .optional _ => by simp [Fits, Outlines]
  | .optional _ none, _ => by simp [Fits, Outlines, contents]
  | .optional inner (some value), _ => by
    -- The content fits where its own outline does, which its check tells, and the contents inside it do.
    rw [Fits, Outlines, contents, List.forall_mem_cons, fits_iff_outlines value inner,
      check_ok_iff_outlines]

theorem fieldsFit_iff_outline : (fields : List (String × Value)) → (schemas : List (String × Schema)) →
    (FieldsFit fields schemas ↔
      FieldsOutline fields schemas ∧ ∀ held ∈ fieldContents fields, held.2.check held.1 = .ok ())
  | [], _ => by simp [FieldsFit, FieldsOutline, fieldContents]
  | (_, _) :: _, [] => by simp [FieldsFit, FieldsOutline]
  | (_, value) :: rest, (_, schema) :: schemas => by
    rw [FieldsFit, FieldsOutline, fieldContents, List.forall_mem_append, fits_iff_outlines value schema,
      fieldsFit_iff_outline rest schemas]
    tauto

end

end Value

/-! ### What a scene accepts -/

namespace Scene

/-- A check tells the outline of a value. Every value that is admitted to a scene has the outline of its
component's schema, and has the schema in all its parts exactly if the content of each of its optionals passes
the check against the schema that the optional names. -/
theorem admitted_fits_iff (title : String) (limits : Limits) (commands : List Command) :
    let scene := (Scene.empty title limits).after commands
    (∀ (value : Value) schema, value.check schema = .ok () ↔ value.Outlines schema) ∧
    (∀ (value : Value) schema, value.Fits schema ↔
      value.check schema = .ok () ∧ ∀ held ∈ value.contents, held.2.check held.1 = .ok ()) ∧
    ∀ entity id (value : Value),
      ((∃ later, Scene.add entity id value scene = (.ok (), later)) ↔
        scene.roster.isAlive entity = true ∧
          ∃ component, scene.store.component? id = some component ∧ value.Outlines component.schema) ∧
      ∀ later component, Scene.add entity id value scene = (.ok (), later) →
        scene.store.component? id = some component →
        later.store.get? entity id = some value ∧ value.Outlines component.schema ∧
          (value.Fits component.schema ↔ ∀ held ∈ value.contents, held.2.check held.1 = .ok ()) := by
  intro scene
  have formed : scene.WellFormed := after_wellFormed title limits commands
  refine ⟨Value.check_ok_iff_outlines, ?_, ?_⟩
  · intro value schema
    rw [Value.check_ok_iff_outlines, Value.fits_iff_outlines]
  · intro entity id value
    constructor
    · constructor
      · intro added
        obtain ⟨later, added⟩ := added
        obtain ⟨signature, component, roster, owned, known, fits, -⟩ := add_ok formed.roster added
        exact ⟨Option.isSome_iff_exists.mpr ⟨signature, owned⟩, component, known,
          (Value.schema_eq_iff_outlines value _).mp fits⟩
      · intro admissible
        obtain ⟨alive, component, known, outlines⟩ := admissible
        obtain ⟨signature, roster, -, added⟩ := add_accepted formed.roster alive known
          ((Value.schema_eq_iff_outlines value _).mpr outlines)
        exact ⟨_, added⟩
    · intro later component added known
      obtain ⟨signature, other, roster, -, same, fits, -, left⟩ := add_ok formed.roster added
      rw [known] at same
      cases same
      have outlines := (Value.schema_eq_iff_outlines value _).mp fits
      refine ⟨?_, outlines, ?_⟩
      · simp [left, Store.get?_write, Store.column?_openColumn, known]
      · rw [Value.fits_iff_outlines]
        exact and_iff_right outlines

def gauge : List Command := [.register (.of "Level" (.optional (.basic .number))), .create]

/-- A level that is no number is admitted, and the entity has it from then on. -/
theorem misfit_is_admitted :
    let scene := (Scene.empty "tank" .standard).after gauge
    let level : Value := .optional (.basic .number) (some (.text "high"))
    scene.store.component? ⟨0⟩ = some (.of "Level" (.optional (.basic .number))) ∧
      level.check (.optional (.basic .number)) = .ok () ∧
      ¬ level.Fits (.optional (.basic .number)) ∧
      (Scene.add ⟨0⟩ ⟨0⟩ level scene).1 = .ok () ∧
      (Scene.add ⟨0⟩ ⟨0⟩ level scene).2.store.get? ⟨0⟩ ⟨0⟩ = some level := by
  intro scene level
  refine ⟨by decide +kernel, rfl, ?_, by decide +kernel, by decide +kernel⟩
  simp [level, Value.Fits]

/-- A missing level is admitted. An integer is not, though it fits where an integer may be missing. -/
theorem level_fits :
    let scene := (Scene.empty "tank" .standard).after gauge
    let level : Value := .filled (.integer 3)
    (∃ later, Scene.add ⟨0⟩ ⟨0⟩ (Value.vacant (.basic .number)) scene = (.ok (), later) ∧
      later.store.get? ⟨0⟩ ⟨0⟩ = some (.vacant (.basic .number))) ∧
    (¬ ∃ later, Scene.add ⟨0⟩ ⟨0⟩ level scene = (.ok (), later)) ∧
    level.Fits (.optional (.basic .integer)) := by
  intro scene level
  obtain ⟨-, fits, admits⟩ := admitted_fits_iff "tank" .standard gauge
  have known : scene.store.component? ⟨0⟩ = some (.of "Level" (.optional (.basic .number))) := by
    decide +kernel
  refine ⟨?_, ?_, ?_⟩
  · obtain ⟨accepted, after⟩ := admits ⟨0⟩ ⟨0⟩ (.vacant (.basic .number))
    obtain ⟨later, added⟩ := accepted.mpr ⟨by decide +kernel, _, known, rfl⟩
    exact ⟨later, added, (after later _ added known).1⟩
  · intro added
    obtain ⟨-, component, same, outlines⟩ := (admits ⟨0⟩ ⟨0⟩ level).1.mp added
    cases known.symm.trans same
    cases outlines
  · rw [fits]
    exact ⟨rfl, List.forall_mem_singleton.mpr rfl⟩

end Scene

end Stagecraft
