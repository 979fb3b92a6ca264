import Mathlib.Data.Set.Finite.Basic
import Stagecraft.Proofs.Consistency
import Stagecraft.Store.InPlace

/-!
Holdings: what a store is to a host that does not see its slots, its counts and its table of names. Any calls,
in any order, are answered as by a list of components with names of their own and a finite map from kinds and
entities to values.
-/

namespace Stagecraft

namespace Store

/-- Few components with names of their own, whose kinds are their places, and a finite map from kinds and
entities to values. -/
structure Holdings where
  components : List Component
  value? : ComponentId → Entity → Option Value
  few : components.length ≤ maxKinds
  distinct : (components.map Component.name).Nodup
  finite : {key : ComponentId × Entity | (value? key.1 key.2).isSome}.Finite

namespace Holdings

def empty : Holdings where
  components := []
  value? _ _ := none
  few := Nat.zero_le _
  distinct := List.nodup_nil
  finite := by simp

def position? (holdings : Holdings) (name : String) : Option ComponentId :=
  (holdings.components.findIdx? fun component => component.name == name).map ComponentId.mk

theorem position?_eq_none_iff (holdings : Holdings) (name : String) :
    holdings.position? name = none ↔ name ∉ holdings.components.map Component.name := by
  simp [position?, List.findIdx?_eq_none_iff]

def component (holdings : Holdings) (id : ComponentId) : Except Fault Component :=
  match holdings.components[id.index]? with
  | some component => .ok component
  | none => .error (.unknownComponent id)

def valuesOf (holdings : Holdings) (entity : Entity) : List (ComponentId × Value) :=
  ((List.range holdings.components.length).map ComponentId.mk).filterMap fun id =>
    (holdings.value? id entity).map fun value => (id, value)

def append (holdings : Holdings) (component : Component) (unknown : holdings.position? component.name = none)
    (room : holdings.components.length < maxKinds) : Holdings where
  components := holdings.components ++ [component]
  value? := holdings.value?
  few := by
    rw [List.length_append]
    exact room
  distinct := by
    rw [List.map_append, List.map_singleton, ← List.concat_eq_append]
    exact holdings.distinct.concat ((holdings.position?_eq_none_iff component.name).mp unknown)
  finite := holdings.finite

def assign (holdings : Holdings) (entity : Entity) (id : ComponentId) (content : Option Value) : Holdings where
  components := holdings.components
  value? kind other := if entity = other ∧ id = kind then content else holdings.value? kind other
  few := holdings.few
  distinct := holdings.distinct
  finite := by
    apply (holdings.finite.insert (id, entity)).subset
    rintro ⟨kind, other⟩ present
    by_cases same : entity = other ∧ id = kind
    · exact .inl (by rw [same.1, same.2])
    · exact .inr (by simpa only [Set.mem_ofPred_eq, if_neg same] using present)

def drop (holdings : Holdings) (entity : Entity) : Holdings where
  components := holdings.components
  value? kind other := if entity = other then none else holdings.value? kind other
  few := holdings.few
  distinct := holdings.distinct
  finite := by
    apply holdings.finite.subset
    rintro ⟨kind, other⟩ present
    by_cases same : entity = other
    · simp [same] at present
    · simpa only [Set.mem_ofPred_eq, if_neg same] using present

def register (holdings : Holdings) (component : Component) : Except Fault (ComponentId × Holdings) :=
  match unknown : holdings.position? component.name with
  | some id => .ok (id, holdings)
  | none =>
    if room : holdings.components.length < maxKinds then
      .ok (⟨holdings.components.length⟩, holdings.append component unknown room)
    else .error (.tooManyComponents maxKinds)

theorem register_known {holdings : Holdings} {component : Component} {id : ComponentId}
    (known : holdings.position? component.name = some id) : holdings.register component = .ok (id, holdings) := by
  unfold register
  split
  · next found =>
    rw [known] at found
    cases found
    rfl
  · next unknown =>
    rw [known] at unknown
    cases unknown

theorem register_unknown {holdings : Holdings} {component : Component}
    (unknown : holdings.position? component.name = none) :
    holdings.register component = if room : holdings.components.length < maxKinds then
      .ok (⟨holdings.components.length⟩, holdings.append component unknown room)
    else .error (.tooManyComponents maxKinds) := by
  unfold register
  split
  · next found =>
    rw [unknown] at found
    cases found
  · rfl

def play : Call → Operation Holdings Answer
  | .register component => .replace fun holdings => do
    let (id, holdings) ← holdings.register component
    return (.registered id, holdings)
  | .add entity id value => .replace fun holdings => do
    let component ← holdings.component id
    component.accept value
    return (.done, holdings.assign entity id (some value))
  | .set entity id value => .replace fun holdings => do
    let component ← holdings.component id
    if (holdings.value? id entity).isNone then throw (.missingComponent entity component.name)
    component.accept value
    return (.done, holdings.assign entity id (some value))
  | .remove entity id => .replace fun holdings => do
    let _ ← holdings.component id
    return (.taken (holdings.value? id entity), holdings.assign entity id none)
  | .drop entity => fun holdings => (.ok .done, holdings.drop entity)

end Holdings

theorem Holdings.play_refused {holdings : Holdings} {call : Call} {fault : Fault}
    (refused : (play call holdings).1 = .error fault) : (play call holdings).2 = holdings := by
  unfold play at refused ⊢
  cases call with
  | drop entity => cases refused
  | _ => exact Operation.replace_refused refused

/-- A store in step that has the components and the values of some holdings. -/
structure StandsFor (store : Store) (holdings : Holdings) : Prop where
  wellFormed : store.WellFormed
  component? : ∀ id, store.component? id = holdings.components[id.index]?
  get? : ∀ entity id, store.get? entity id = holdings.value? id entity

namespace StandsFor

variable {store : Store} {holdings : Holdings}

theorem empty : Store.empty.StandsFor .empty where
  wellFormed := empty_wellFormed
  component? id := by simp [Store.component?, Store.empty, Holdings.empty]
  get? entity id := by simp [Store.get?, column?, Store.empty, Holdings.empty]

theorem components (stands : store.StandsFor holdings) :
    store.kinds.toList.map Kind.component = holdings.components := by
  apply List.ext_getElem?
  intro place
  rw [List.getElem?_map, Array.getElem?_toList]
  exact stands.component? ⟨place⟩

theorem size (stands : store.StandsFor holdings) : store.kinds.size = holdings.components.length := by
  rw [← stands.components, List.length_map, Array.length_toList]

theorem componentId? (stands : store.StandsFor holdings) (name : String) :
    store.componentId? name = holdings.position? name := by
  have named : store.kinds.toList.findIdx? ((fun component => component.name == name) ∘ Kind.component) =
      store.kinds.findIdx? fun kind => kind.component.name == name :=
    (List.findIdx?_toArray _ _).symm
  rw [Store.componentId?, Holdings.position?, ← stands.components, List.findIdx?_map, named]

theorem component (stands : store.StandsFor holdings) (id : ComponentId) :
    store.component id = holdings.component id := by
  have found := stands.component? id
  unfold Store.component Holdings.component
  cases known : holdings.components[id.index]? with
  | none =>
    rw [known] at found
    simp only [found]
  | some component =>
    rw [known] at found
    simp only [found]

theorem valuesOf (stands : store.StandsFor holdings) (entity : Entity) :
    store.valuesOf entity = holdings.valuesOf entity := by
  simp only [Store.valuesOf, Store.ids, Holdings.valuesOf, stands.size, stands.get?]

/-! ### What changes a store -/

theorem openColumn (stands : store.StandsFor holdings) (id : ComponentId) :
    (store.openColumn id).StandsFor holdings where
  wellFormed := openColumn_wellFormed stands.wellFormed id
  component? other := (component?_openColumn store id other).trans (stands.component? other)
  get? entity other := (get?_openColumn store id other entity).trans (stands.get? entity other)

theorem write (stands : store.StandsFor holdings) (entity : Entity) {id : ComponentId} {content : Option Value}
    (opened : content.isSome = true → (store.column? id).isSome = true)
    (fits : ∀ value component, content = some value → store.component? id = some component →
      value.schema = component.schema) :
    (store.write entity id content).StandsFor (holdings.assign entity id content) where
  wellFormed := write_wellFormed stands.wellFormed entity id content fits
  component? other := (component?_write store entity id other content).trans (stands.component? other)
  get? other kind := by
    simp only [get?_write, Holdings.assign, stands.get?]
    split
    · next same =>
      rw [← same.2]
      cases content with
      | none => cases store.column? id <;> rfl
      | some value =>
        obtain ⟨column, known⟩ := Option.isSome_iff_exists.mp (opened rfl)
        rw [known]
        rfl
    · rfl

theorem drop (stands : store.StandsFor holdings) (entity : Entity) :
    (store.drop entity).StandsFor (holdings.drop entity) where
  wellFormed := drop_wellFormed stands.wellFormed entity
  component? id := (component?_drop store entity id).trans (stands.component? id)
  get? other id := by simp only [get?_drop, Holdings.drop, stands.get?]

/-! ### One call -/

theorem append (stands : store.StandsFor holdings) {component : Component}
    (unknown : holdings.position? component.name = none) (room : holdings.components.length < maxKinds) :
    (Store.mk (store.kinds.push ⟨component, none⟩)).StandsFor (holdings.append component unknown room) where
  wellFormed := by
    have registered : store.register component =
        .ok (⟨store.kinds.size⟩, ⟨store.kinds.push ⟨component, none⟩⟩) := by
      rw [Store.register, stands.componentId?, unknown, if_neg (by rw [stands.size]; exact Nat.not_le_of_lt room)]
    exact register_wellFormed stands.wellFormed registered
  component? id := by
    rw [component?_push, stands.component?, stands.size, Holdings.append]
    by_cases last : id.index = holdings.components.length
    · rw [if_pos last, last, List.getElem?_concat_length]
    · rw [if_neg last]
      by_cases inside : id.index < holdings.components.length
      · rw [List.getElem?_append_left inside]
      · have past : (holdings.components ++ [component]).length ≤ id.index := by
          rw [List.length_append, List.length_singleton]
          omega
        rw [List.getElem?_eq_none (by omega), List.getElem?_eq_none past]
  get? entity id := by
    rw [Store.get?, column?_push]
    exact stands.get? entity id

theorem register (stands : store.StandsFor holdings) (component : Component) :
    (Store.play (.register component) store).1 = (Holdings.play (.register component) holdings).1 ∧
      (Store.play (.register component) store).2.StandsFor (Holdings.play (.register component) holdings).2 := by
  simp only [Store.play, Holdings.play, Operation.replace, Store.register, stands.componentId?, stands.size]
  cases unknown : holdings.position? component.name with
  | some id =>
    rw [Holdings.register_known unknown]
    exact ⟨rfl, stands⟩
  | none =>
    rw [Holdings.register_unknown unknown]
    by_cases room : holdings.components.length < maxKinds
    · rw [dif_pos room, if_neg (Nat.not_le_of_lt room)]
      exact ⟨rfl, stands.append unknown room⟩
    · rw [dif_neg room, if_pos (Nat.le_of_not_lt room)]
      exact ⟨rfl, stands⟩

theorem add (stands : store.StandsFor holdings) (entity : Entity) (id : ComponentId) (value : Value) :
    (Store.play (.add entity id value) store).1 = (Holdings.play (.add entity id value) holdings).1 ∧
      (Store.play (.add entity id value) store).2.StandsFor (Holdings.play (.add entity id value) holdings).2 := by
  simp only [Store.play, Holdings.play, Operation.replace, Operation.map_apply, add_apply, stands.component?,
    Holdings.component]
  cases known : holdings.components[id.index]? with
  | none => exact ⟨rfl, stands⟩
  | some component =>
    have registered : store.component? id = some component := (stands.component? id).trans known
    cases accepted : component.accept value with
    | error fault =>
      simp only [bind, Except.bind, accepted]
      exact ⟨rfl, stands.openColumn id⟩
    | ok =>
      simp only [bind, Except.bind, accepted]
      refine ⟨rfl, (stands.openColumn id).write entity ?_ ?_⟩
      · intro _
        rw [column?_openColumn, if_pos rfl, registered]
        rfl
      · intro written found same kept
        rw [component?_openColumn, registered] at kept
        cases same
        cases kept
        exact (component.accept_ok_iff value).mp accepted

theorem set (stands : store.StandsFor holdings) (entity : Entity) (id : ComponentId) (value : Value) :
    (Store.play (.set entity id value) store).1 = (Holdings.play (.set entity id value) holdings).1 ∧
      (Store.play (.set entity id value) store).2.StandsFor (Holdings.play (.set entity id value) holdings).2 := by
  simp only [Store.play, Holdings.play, Operation.replace, Store.set, Store.contains, stands.component?,
    stands.get?, Holdings.component]
  cases known : holdings.components[id.index]? with
  | none => exact ⟨rfl, stands⟩
  | some component =>
    have registered : store.component? id = some component := (stands.component? id).trans known
    cases present : holdings.value? id entity with
    | none => exact ⟨rfl, stands⟩
    | some previous =>
      cases accepted : component.accept value with
      | error fault =>
        simp only [bind, Except.bind, accepted]
        exact ⟨rfl, stands⟩
      | ok =>
        simp only [bind, Except.bind, accepted]
        refine ⟨rfl, stands.write entity ?_ ?_⟩
        · intro _
          have held := (stands.get? entity id).trans present
          obtain ⟨column, opened, -⟩ := Option.bind_eq_some_iff.mp held
          rw [opened]
          rfl
        · intro written found same kept
          rw [registered] at kept
          cases same
          cases kept
          exact (component.accept_ok_iff value).mp accepted

/-- A store in step answers every call as its holdings do, and stands for them afterwards. -/
theorem play (stands : store.StandsFor holdings) (call : Call) :
    (Store.play call store).1 = (Holdings.play call holdings).1 ∧
      (Store.play call store).2.StandsFor (Holdings.play call holdings).2 := by
  cases call with
  | register component => exact stands.register component
  | add entity id value => exact stands.add entity id value
  | set entity id value => exact stands.set entity id value
  | remove entity id =>
    simp only [Store.play, Holdings.play, Operation.replace, Store.remove, stands.component]
    cases holdings.component id with
    | error fault => exact ⟨rfl, stands⟩
    | ok component =>
      refine ⟨congrArg (Except.ok ∘ Answer.taken) (stands.get? entity id), stands.write entity ?_ ?_⟩
      · intro filled
        cases filled
      · intro written found same
        cases same
  | drop entity => exact ⟨rfl, stands.drop entity⟩

end StandsFor

theorem openColumn_of_open {store : Store} {id : ComponentId} {column : Column}
    (opened : store.column? id = some column) : store.openColumn id = store := by
  obtain ⟨⟨component, content⟩, placed, rfl⟩ := Option.bind_eq_some_iff.mp opened
  refine congrArg Store.mk (Array.ext_getElem? fun place => ?_)
  rw [getElem?_modify_of placed]
  split
  · next same =>
    subst same
    exact placed.symm
  · rfl

theorem WellFormed.counted_of_placed {store : Store} (wellFormed : store.WellFormed) {place : Nat} {kind : Kind}
    (placed : store.kinds[place]? = some kind) (column : Column) (opened : kind.column = some column) :
    column.Counted :=
  wellFormed.counted ⟨place⟩ column (by rw [column?, placed]; exact opened)

end Store

end Stagecraft
