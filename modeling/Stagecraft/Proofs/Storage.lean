import Stagecraft.Store
import Stagecraft.Proofs.Slots

/-!
Storage: what the operations of a store do to the values that entities have. A column counts its values
and lists their entities; a store holds values of the schemas of their components only.
-/

namespace Stagecraft

namespace Column

def Counted (column : Column) : Prop := column.size = column.slots.countP Option.isSome

theorem empty_counted : empty.Counted := rfl

theorem length_entities {column : Column} (counted : column.Counted) :
    column.entities.length = column.size := by
  rw [counted]
  exact Slots.length_occupied column.slots

theorem entities_ascending (column : Column) :
    column.entities.Pairwise (fun first second => first.id < second.id) :=
  Slots.ascending _ _

theorem mem_entities (column : Column) (entity : Entity) :
    entity ∈ column.entities ↔ (column.get? entity).isSome = true := by
  obtain ⟨id⟩ := entity
  simp only [entities, List.mem_filter, List.mem_map, List.mem_range, Entity.mk.injEq,
    exists_eq_right, and_iff_right_iff_imp]
  intro present
  by_contra outside
  simp [get?, Array.getElem?_eq_none (Nat.le_of_not_lt outside)] at present

theorem countP_extend (slots : Array (Option Value)) (entity : Entity) :
    (extend slots entity).countP Option.isSome = slots.countP Option.isSome := by
  simp [extend, Array.countP_replicate]

theorem set_counted {column : Column} (counted : column.Counted) (entity : Entity)
    (content : Option Value) : (column.set entity content).Counted := by
  unfold set
  split
  · exact counted
  · have inside : entity.id < (extend column.slots entity).size := by
      rw [size_extend]
      omega
    have count := Slots.countP_setIfInBounds _ _ inside content
    rw [getElem?_extend, countP_extend, ← counted] at count
    unfold Counted recount get?
    generalize column.slots[entity.id]?.join = previous at count ⊢
    cases previous <;> cases content <;> simp at count ⊢ <;> omega

end Column

namespace Store

def schema? (store : Store) (entity : Entity) (id : ComponentId) : Option Schema :=
  (store.get? entity id).map Value.schema

structure WellFormed (store : Store) : Prop where
  /-- Every kind has a bit in signatures. -/
  few : store.kinds.size ≤ maxKinds
  counted : ∀ id column, store.column? id = some column → column.Counted
  typed : ∀ id component entity value, store.component? id = some component →
    store.get? entity id = some value → value.schema = component.schema

theorem empty_wellFormed : empty.WellFormed where
  few := Nat.zero_le _
  counted id column opened := by simp [column?, empty] at opened
  typed id component entity value known := by simp [component?, empty] at known

theorem component?_of_get? {store : Store} {entity : Entity} {id : ComponentId} {value : Value}
    (present : store.get? entity id = some value) :
    ∃ component, store.component? id = some component := by
  unfold get? column? at present
  unfold component?
  cases known : store.kinds[id.index]? with
  | none => simp [known] at present
  | some kind => exact ⟨kind.component, rfl⟩

theorem lt_size_of_component? {store : Store} {id : ComponentId} {component : Component}
    (known : store.component? id = some component) : id.index < store.kinds.size := by
  by_contra outside
  simp [component?, Array.getElem?_eq_none (Nat.le_of_not_lt outside)] at known

theorem component?_of_componentId? {store : Store} {name : String} {id : ComponentId}
    (known : store.componentId? name = some id) :
    ∃ component, store.component? id = some component := by
  obtain ⟨index, found, rfl⟩ := Option.map_eq_some_iff.mp known
  obtain ⟨inside, -, -⟩ := Array.findIdx?_eq_some_iff_getElem.mp found
  rw [component?, Array.getElem?_eq_getElem inside]
  exact ⟨_, rfl⟩

theorem componentId?_congr {first second : Store}
    (same : ∀ id, second.component? id = first.component? id) (name : String) :
    second.componentId? name = first.componentId? name := by
  have components : second.kinds.map Kind.component = first.kinds.map Kind.component := by
    apply Array.ext_getElem?
    intro i
    simp only [Array.getElem?_map]
    exact same ⟨i⟩
  have index := congrArg (Array.findIdx? (fun component => component.name == name)) components
  simp only [Array.findIdx?_map] at index
  exact congrArg (Option.map ComponentId.mk) index

/-- Looking for values among further kinds finds no more. -/
theorem valuesOf_eq {store : Store} {bound : Nat} (enough : store.kinds.size ≤ bound)
    (entity : Entity) :
    store.valuesOf entity = ((List.range bound).map ComponentId.mk).filterMap
      (fun id => (store.get? entity id).map (fun value => (id, value))) := by
  obtain ⟨more, rfl⟩ := Nat.exists_eq_add_of_le enough
  have none : (((List.range more).map (store.kinds.size + ·)).map ComponentId.mk).filterMap
      (fun id => (store.get? entity id).map (fun value => (id, value))) = [] := by
    rw [List.filterMap_eq_nil_iff]
    intro id member
    obtain ⟨index, past, rfl⟩ := List.mem_map.mp member
    obtain ⟨offset, -, rfl⟩ := List.mem_map.mp past
    rw [get?, column?, Array.getElem?_eq_none (Nat.le_add_right _ _)]
    rfl
  rw [List.range_add, List.map_append, List.filterMap_append, none, List.append_nil]
  rfl

theorem valuesOf_congr {first second : Store} {entity : Entity}
    (same : ∀ id, second.get? entity id = first.get? entity id) :
    second.valuesOf entity = first.valuesOf entity := by
  rw [valuesOf_eq (Nat.le_max_left second.kinds.size first.kinds.size),
    valuesOf_eq (Nat.le_max_right second.kinds.size first.kinds.size)]
  simp only [same]

theorem get?_of_mem_valuesOf {store : Store} {entity : Entity} {id : ComponentId} {value : Value}
    (member : (id, value) ∈ store.valuesOf entity) : store.get? entity id = some value := by
  obtain ⟨kind, -, found⟩ := List.mem_filterMap.mp member
  obtain ⟨content, present, same⟩ := Option.map_eq_some_iff.mp found
  cases same
  exact present

/-! ### Opening, writing and dropping -/

theorem component?_openColumn (store : Store) (id other : ComponentId) :
    (store.openColumn id).component? other = store.component? other := by
  simp only [openColumn, component?, Array.getElem?_modify]
  split <;> cases store.kinds[other.index]? <;> rfl

theorem column?_openColumn (store : Store) (id other : ComponentId) :
    (store.openColumn id).column? other = if id = other then
      (store.component? other).map (fun _ => (store.column? other).getD .empty)
      else store.column? other := by
  obtain ⟨i⟩ := id
  obtain ⟨j⟩ := other
  simp only [openColumn, column?, component?, Array.getElem?_modify, ComponentId.mk.injEq]
  split <;> cases store.kinds[j]? <;> rfl

theorem get?_openColumn (store : Store) (id other : ComponentId) (entity : Entity) :
    (store.openColumn id).get? entity other = store.get? entity other := by
  simp only [get?, column?_openColumn]
  split
  · unfold component? column?
    cases store.kinds[other.index]? with
    | none => rfl
    | some kind =>
      obtain ⟨component, column⟩ := kind
      cases column with
      | none => exact Column.get?_empty entity
      | some column => rfl
  · rfl

theorem component?_write (store : Store) (entity : Entity) (id other : ComponentId)
    (content : Option Value) :
    (store.write entity id content).component? other = store.component? other := by
  simp only [write, component?, Array.getElem?_modify]
  split <;> cases store.kinds[other.index]? <;> rfl

theorem column?_write (store : Store) (entity : Entity) (id other : ComponentId)
    (content : Option Value) :
    (store.write entity id content).column? other = (store.column? other).map
      (fun column => if id = other then column.set entity content else column) := by
  obtain ⟨i⟩ := id
  obtain ⟨j⟩ := other
  simp only [write, column?, Array.getElem?_modify, ComponentId.mk.injEq]
  split
  · cases store.kinds[j]? <;> rfl
  · cases store.kinds[j]? with
    | none => rfl
    | some kind => simp

theorem get?_write (store : Store) (entity : Entity) (id : ComponentId) (content : Option Value)
    (other : Entity) (kind : ComponentId) :
    (store.write entity id content).get? other kind =
      if entity = other ∧ id = kind then (store.column? kind).bind (fun _ => content)
      else store.get? other kind := by
  simp only [get?, column?_write]
  cases store.column? kind with
  | none => simp
  | some column =>
    by_cases same : id = kind
    · simp [same, Column.get?_set]
    · simp [same]

theorem component?_drop (store : Store) (entity : Entity) (id : ComponentId) :
    (store.drop entity).component? id = store.component? id := by
  simp only [drop, component?, Array.getElem?_map, Option.map_map]
  rfl

theorem column?_drop (store : Store) (entity : Entity) (id : ComponentId) :
    (store.drop entity).column? id = (store.column? id).map (fun column => column.set entity none) := by
  simp only [drop, column?, Array.getElem?_map]
  cases store.kinds[id.index]? <;> rfl

theorem get?_drop (store : Store) (entity other : Entity) (id : ComponentId) :
    (store.drop entity).get? other id = if entity = other then none else store.get? other id := by
  simp only [get?, column?_drop]
  cases store.column? id with
  | none => simp
  | some column => exact Column.get?_set column entity other none

theorem openColumn_wellFormed {store : Store} (wellFormed : store.WellFormed) (id : ComponentId) :
    (store.openColumn id).WellFormed where
  few := by simpa [openColumn] using wellFormed.few
  counted other column opened := by
    rw [column?_openColumn] at opened
    split at opened
    · obtain ⟨component, -, rfl⟩ := Option.map_eq_some_iff.mp opened
      cases before : store.column? other with
      | none => exact Column.empty_counted
      | some column => exact wellFormed.counted other column before
    · exact wellFormed.counted other column opened
  typed other component entity value known present := by
    rw [component?_openColumn] at known
    rw [get?_openColumn] at present
    exact wellFormed.typed other component entity value known present

/-- Writing keeps a store in step if what is written has the schema of its component. -/
theorem write_wellFormed {store : Store} (wellFormed : store.WellFormed) (entity : Entity)
    (id : ComponentId) (content : Option Value)
    (fits : ∀ value component, content = some value → store.component? id = some component →
      value.schema = component.schema) : (store.write entity id content).WellFormed where
  few := by simpa [write] using wellFormed.few
  counted other column opened := by
    rw [column?_write] at opened
    obtain ⟨before, known, rfl⟩ := Option.map_eq_some_iff.mp opened
    have counted := wellFormed.counted other before known
    split
    · exact Column.set_counted counted entity content
    · exact counted
  typed other component holder value known present := by
    rw [component?_write] at known
    rw [get?_write] at present
    split at present
    · next same =>
      obtain ⟨-, -, written⟩ := Option.bind_eq_some_iff.mp present
      exact fits value component written (same.2 ▸ known)
    · exact wellFormed.typed other component holder value known present

theorem drop_wellFormed {store : Store} (wellFormed : store.WellFormed) (entity : Entity) :
    (store.drop entity).WellFormed where
  few := by simpa [drop] using wellFormed.few
  counted id column opened := by
    rw [column?_drop] at opened
    obtain ⟨before, known, rfl⟩ := Option.map_eq_some_iff.mp opened
    exact Column.set_counted (wellFormed.counted id before known) entity none
  typed id component other value known present := by
    rw [component?_drop] at known
    rw [get?_drop] at present
    split at present
    · cases present
    · exact wellFormed.typed id component other value known present

/-! ### Registration -/

theorem register_cases {store next : Store} {component : Component} {id : ComponentId}
    (registered : store.register component = .ok (id, next)) :
    (store.componentId? component.name = some id ∧ next = store) ∨
    (store.kinds.size < maxKinds ∧ id = ⟨store.kinds.size⟩ ∧
      next = ⟨store.kinds.push ⟨component, none⟩⟩) := by
  unfold register at registered
  split at registered
  · next found =>
    cases registered
    exact .inl ⟨found, rfl⟩
  · split at registered
    · cases registered
    · next room =>
      cases registered
      exact .inr ⟨Nat.lt_of_not_le room, rfl, rfl⟩

theorem component?_push (store : Store) (component : Component) (id : ComponentId) :
    (Store.mk (store.kinds.push ⟨component, none⟩)).component? id =
      if id.index = store.kinds.size then some component else store.component? id := by
  simp only [component?, Array.getElem?_push]
  split <;> rfl

theorem column?_push (store : Store) (component : Component) (id : ComponentId) :
    (Store.mk (store.kinds.push ⟨component, none⟩)).column? id = store.column? id := by
  simp only [column?, Array.getElem?_push]
  split
  · next last => rw [last, Array.getElem?_eq_none (Nat.le_refl _)]; rfl
  · rfl

theorem get?_register {store next : Store} {component : Component} {id : ComponentId}
    (registered : store.register component = .ok (id, next)) (entity : Entity)
    (other : ComponentId) : next.get? entity other = store.get? entity other := by
  rcases register_cases registered with ⟨-, rfl⟩ | ⟨-, -, rfl⟩
  · rfl
  · rw [get?, get?, column?_push]

theorem component?_register {store next : Store} {component : Component} {id : ComponentId}
    (registered : store.register component = .ok (id, next)) {other : ComponentId}
    {kept : Component} (known : store.component? other = some kept) :
    next.component? other = some kept := by
  rcases register_cases registered with ⟨-, rfl⟩ | ⟨-, -, rfl⟩
  · exact known
  · rw [component?_push, if_neg (Nat.ne_of_lt (lt_size_of_component? known)), known]

theorem componentId?_register {store next : Store} {component : Component} {id : ComponentId}
    (registered : store.register component = .ok (id, next)) {name : String} {kept : ComponentId}
    (known : store.componentId? name = some kept) : next.componentId? name = some kept := by
  rcases register_cases registered with ⟨-, rfl⟩ | ⟨-, -, rfl⟩
  · exact known
  · obtain ⟨index, found, rfl⟩ := Option.map_eq_some_iff.mp known
    simp only [componentId?, Array.findIdx?_push, found]
    rfl

theorem componentId?_registered {store next : Store} {component : Component} {id : ComponentId}
    (registered : store.register component = .ok (id, next)) :
    next.componentId? component.name = some id := by
  unfold register at registered
  split at registered
  · next found =>
    cases registered
    exact found
  · next unknown =>
    split at registered
    · cases registered
    · cases registered
      have absent := Option.map_eq_none_iff.mp unknown
      simp [componentId?, Array.findIdx?_push, absent]

theorem register_wellFormed {store next : Store} {component : Component} {id : ComponentId}
    (wellFormed : store.WellFormed) (registered : store.register component = .ok (id, next)) :
    next.WellFormed := by
  rcases register_cases registered with ⟨-, rfl⟩ | ⟨room, -, rfl⟩
  · exact wellFormed
  · refine ⟨?_, ?_, ?_⟩
    · rw [Array.size_push]
      exact room
    · intro other column opened
      rw [column?_push] at opened
      exact wellFormed.counted other column opened
    · intro other found entity value known present
      rw [get?, column?_push] at present
      have held : store.get? entity other = some value := present
      obtain ⟨before, registered⟩ := component?_of_get? held
      rw [component?_push, if_neg (Nat.ne_of_lt (lt_size_of_component? registered))] at known
      exact wellFormed.typed other found entity value known present

/-! ### Growth -/

structure Grows (before after : Store) : Prop where
  get? : ∀ entity id, after.get? entity id = before.get? entity id
  component? : ∀ id component, before.component? id = some component →
    after.component? id = some component
  componentId? : ∀ name id, before.componentId? name = some id →
    after.componentId? name = some id
  wellFormed : before.WellFormed → after.WellFormed

namespace Grows

theorem refl (store : Store) : store.Grows store :=
  ⟨fun _ _ => rfl, fun _ _ => id, fun _ _ => id, id⟩

theorem trans {first second third : Store} (one : first.Grows second) (other : second.Grows third) :
    first.Grows third where
  get? entity id := (other.get? entity id).trans (one.get? entity id)
  component? id component known := other.component? id component (one.component? id component known)
  componentId? name id known := other.componentId? name id (one.componentId? name id known)
  wellFormed formed := other.wellFormed (one.wellFormed formed)

theorem contains {before after : Store} (grows : before.Grows after) (entity : Entity)
    (id : ComponentId) : after.contains entity id = before.contains entity id :=
  congrArg Option.isSome (grows.get? entity id)

end Grows

theorem register_grows {store next : Store} {component : Component} {id : ComponentId}
    (registered : store.register component = .ok (id, next)) : store.Grows next where
  get? := get?_register registered
  component? _ _ := component?_register registered
  componentId? _ _ := componentId?_register registered
  wellFormed formed := register_wellFormed formed registered

theorem openColumn_grows (store : Store) (id : ComponentId) : store.Grows (store.openColumn id) where
  get? entity other := get?_openColumn store id other entity
  component? other _ known := (component?_openColumn store id other).trans known
  componentId? name _ known :=
    (componentId?_congr (component?_openColumn store id) name).trans known
  wellFormed formed := openColumn_wellFormed formed id

end Store

end Stagecraft
