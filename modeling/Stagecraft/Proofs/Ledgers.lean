import Stagecraft.Proofs.Holdings

/-!
Ledgers: stores in place. The slots of a column and their count, the shelves, the components and the table of
their names are changed on different paths, and stay in step: nothing breaks, and every call is answered as by
the holdings.
-/

namespace Stagecraft

/-! ### Columns and shelves in place -/

namespace Column.InPlace

variable {column : Column}

theorem recount_eq {size : Nat} {previous : Option Value} (content : Option Value)
    (positive : previous.isSome = true → 0 < size) :
    recount previous content size = some (.ok ⟨⟩, Column.recount size previous content) := by
  cases previous with
  | none => cases content <;> rfl
  | some value =>
    cases content with
    | none => exact Attempt.countDown_eq (positive rfl)
    | some other => rfl

theorem swap_eq {entity : Entity} (content : Option Value) (inside : entity.id < column.slots.size)
    (positive : (column.get? entity).isSome = true → 0 < column.size) :
    swap entity content column = some (.ok (column.get? entity),
      ⟨column.slots.setIfInBounds entity.id content, Column.recount column.size (column.get? entity) content⟩) := by
  have slot : column.slots[entity.id] = column.get? entity := by
    rw [get?, Array.getElem?_eq_getElem inside]
    rfl
  have swapped : Attempt.within slots (fun slots column => { column with slots := slots })
      (.onPlace entity.id (modifyGet fun previous => (previous, content))) column =
      some (.ok column.slots[entity.id], { column with slots := column.slots.set entity.id content }) :=
    Attempt.within_eq (Attempt.onPlace_eq inside rfl)
  have counted : Attempt.within size (fun size column => { column with size := size })
      (recount (column.get? entity) content) { column with slots := column.slots.set entity.id content } =
      some (.ok ⟨⟩,
        ⟨column.slots.set entity.id content, Column.recount column.size (column.get? entity) content⟩) :=
    Attempt.within_eq (recount_eq content positive)
  rw [slot] at swapped
  rw [swap, Attempt.bind_ok swapped, Attempt.bind_ok counted, Array.setIfInBounds_def, dif_pos inside]
  rfl

theorem set_eq (counted : column.Counted) (entity : Entity) (content : Option Value) :
    set entity content column = some (.ok (column.get? entity), column.set entity content) := by
  have positive : (column.get? entity).isSome = true → 0 < column.size := by
    intro present
    rw [← length_entities counted]
    exact List.length_pos_of_mem ((mem_entities column entity).mpr present)
  unfold set Column.set
  rw [Attempt.bind_get]
  by_cases past : column.slots.size ≤ entity.id
  · rw [if_pos past]
    cases content with
    | none =>
      have nothing : column.get? entity = none := by
        rw [get?, Array.getElem?_eq_none past]
        rfl
      have outside : column.slots.size ≤ entity.id ∧ (none : Option Value).isNone = true := ⟨past, rfl⟩
      rw [nothing, if_pos outside.2, if_pos outside]
      rfl
    | some value =>
      have inside : entity.id < (extend column.slots entity).size := by
        rw [size_extend]
        omega
      have same : Column.get? { column with slots := extend column.slots entity } entity = column.get? entity :=
        getElem?_extend column.slots entity entity.id
      have filled : ¬(some value).isNone = true := Bool.false_ne_true
      rw [if_neg filled, if_neg (fun outside => filled outside.2), Attempt.bind_modify,
        swap_eq (some value) inside (by rw [same]; exact positive), same]
  · have present : extend column.slots entity = column.slots := by
      rw [extend, Nat.sub_eq_zero_of_le (by omega), Array.replicate_zero, Array.append_empty]
    rw [if_neg past, if_neg (fun outside => past outside.1), present]
    exact swap_eq content (Nat.lt_of_not_le past) positive

end Column.InPlace

namespace Shelf

theorem set_accepted {column : Column} (counted : column.Counted) (component : Component) (entity : Entity)
    (content : Option Value) (accepted : ∀ value, content = some value → component.accept value = .ok ()) :
    set entity content ⟨component, column⟩ =
      some (.ok (column.get? entity), ⟨component, column.set entity content⟩) := by
  have done : Attempt.within Shelf.column (fun column shelf => { shelf with column := column })
      (Column.InPlace.set entity content) ⟨component, column⟩ =
      some (.ok (column.get? entity), ⟨component, column.set entity content⟩) :=
    Attempt.within_eq (Column.InPlace.set_eq counted entity content)
  unfold set
  rw [Attempt.bind_get]
  cases content with
  | none => exact done
  | some value =>
    simp only [accepted value rfl]
    exact done

theorem set_refused (column : Column) {component : Component} (entity : Entity) {value : Value} {fault : Fault}
    (refused : component.accept value = .error fault) :
    set entity (some value) ⟨component, column⟩ = some (.error fault, ⟨component, column⟩) := by
  unfold set
  rw [Attempt.bind_get]
  simp only [refused]
  rfl

theorem clear_eq (component : Component) {column : Option Column}
    (counted : ∀ opened, column = some opened → opened.Counted) (entity : Entity) :
    clear entity (column.map (Shelf.mk component)) = some (.ok (column.bind fun column => column.get? entity),
      (column.map fun column => column.set entity none).map (Shelf.mk component)) := by
  cases column with
  | none => rfl
  | some opened =>
    have done := set_accepted (counted opened rfl) component entity none nofun
    simp only [Option.map_some, clear, done]
    rfl

end Shelf

/-! ### Ledgers -/

namespace Ledger

structure Lists (ledger : Ledger) (store : Store) : Prop where
  components : ledger.components = store.kinds.map Kind.component
  shelves : ledger.shelves = store.kinds.map fun kind => kind.column.map (Shelf.mk kind.component)
  byName : ∀ name, ledger.componentId? name = store.componentId? name

namespace Lists

variable {ledger : Ledger} {store : Store}

theorem empty : Ledger.empty.Lists .empty where
  components := by simp [Ledger.empty, Store.empty]
  shelves := by simp [Ledger.empty, Store.empty]
  byName name := by simp [Ledger.componentId?, Ledger.empty, Store.componentId?, Store.empty]

theorem component_eq (lists : ledger.Lists store) (id : ComponentId) :
    component id ledger = some (store.component id, ledger) := by
  unfold component Store.component Store.component?
  rw [Attempt.bind_get, lists.components, Array.getElem?_map]
  cases store.kinds[id.index]? <;> rfl

theorem shelf? (lists : ledger.Lists store) (id : ComponentId) :
    ledger.shelf? id = store.kinds[id.index]?.bind fun kind => kind.column.map (Shelf.mk kind.component) := by
  rw [Ledger.shelf?, lists.shelves, Array.getElem?_map]
  cases store.kinds[id.index]? <;> rfl

theorem get? (lists : ledger.Lists store) (entity : Entity) (id : ComponentId) :
    ledger.get? entity id = store.get? entity id := by
  rw [Ledger.get?, lists.shelf?, Store.get?, Store.column?]
  cases store.kinds[id.index]? with
  | none => rfl
  | some kind =>
    obtain ⟨component, column⟩ := kind
    cases column <;> rfl

theorem valuesOf (lists : ledger.Lists store) (entity : Entity) :
    ledger.valuesOf entity = store.valuesOf entity := by
  simp only [Ledger.valuesOf, Ledger.ids, Store.valuesOf, Store.ids, lists.get?, lists.components, Array.size_map]

theorem onShelf {α : Type} (lists : ledger.Lists store) (after : Store) {id : ComponentId} {kind : Kind}
    (known : store.kinds[id.index]? = some kind) {attempt : Attempt (Option Shelf) α} {result : Except Fault α}
    {column : Option Column}
    (done : attempt (kind.column.map (Shelf.mk kind.component)) =
      some (result, column.map (Shelf.mk kind.component)))
    (changed : ∀ place, after.kinds[place]? =
      if id.index = place then some ⟨kind.component, column⟩ else store.kinds[place]?) :
    ∃ next, Ledger.onShelf id attempt ledger = some (result, next) ∧ next.Lists after := by
  have same (other : ComponentId) : after.component? other = store.component? other := by
    rw [Store.component?, Store.component?, changed]
    split
    · next place =>
      rw [← place, known]
      rfl
    · rfl
  obtain ⟨inside, held⟩ := Array.getElem?_eq_some_iff.mp known
  have bound : id.index < ledger.shelves.size := by
    rw [lists.shelves, Array.size_map]
    exact inside
  have there : ledger.shelves[id.index] = kind.column.map (Shelf.mk kind.component) := by
    simp only [lists.shelves, Array.getElem_map, held]
  refine ⟨_, Attempt.within_eq (Attempt.onPlace_eq bound (by rw [there]; exact done)), ?_, ?_, ?_⟩
  · rw [lists.components]
    apply Array.ext_getElem?
    intro place
    rw [Array.getElem?_map, Array.getElem?_map]
    exact (same ⟨place⟩).symm
  · apply Array.ext_getElem?
    intro place
    rw [Array.getElem?_set, Array.getElem?_map, changed, lists.shelves, Array.getElem?_map]
    split <;> rfl
  · intro name
    rw [Store.componentId?_congr same]
    exact lists.byName name

end Lists

def EndsAs {α : Type} (outcome : Option (Except Fault α × Ledger)) (answer : Except Fault α × Store) : Prop :=
  ∃ next, outcome = some (answer.1, next) ∧ next.Lists answer.2

theorem EndsAs.bind_pure {α β : Type} {attempt : Attempt Ledger α} {ledger : Ledger}
    {answer : Except Fault α × Store} (ends : EndsAs (attempt ledger) answer) (form : α → β) :
    EndsAs ((attempt >>= fun result => pure (form result)) ledger) (answer.1.map form, answer.2) := by
  obtain ⟨next, done, lists⟩ := ends
  obtain ⟨outcome, store⟩ := answer
  cases outcome with
  | error fault => exact ⟨next, Attempt.bind_error done _, lists⟩
  | ok result => exact ⟨next, Attempt.bind_ok done _, lists⟩

/-! ### One call in place -/

namespace Lists

variable {ledger : Ledger} {store : Store}

theorem register (lists : ledger.Lists store) (component : Component) :
    EndsAs (Ledger.register component ledger) (Operation.replace (Store.register · component) store) := by
  have size : ledger.components.size = store.kinds.size := by rw [lists.components, Array.size_map]
  unfold Ledger.register
  rw [Attempt.bind_get, lists.byName]
  simp only [Operation.replace, Store.register]
  cases known : store.componentId? component.name with
  | some id => exact ⟨ledger, rfl, lists⟩
  | none =>
    by_cases full : maxKinds ≤ store.kinds.size
    · simp only [size, if_pos full]
      exact ⟨ledger, rfl, lists⟩
    · simp only [size, if_neg full]
      refine ⟨_, rfl, ?_, ?_, ?_⟩
      · simp only [lists.components, Array.map_push]
      · simp only [lists.shelves, Array.map_push, Option.map_none]
      · intro name
        have absent := Option.map_eq_none_iff.mp known
        simp only [componentId?, List.lookup_cons, Store.componentId?, Array.findIdx?_push]
        by_cases same : name = component.name
        · rw [same, absent]
          simp
        · have different : (component.name == name) = false := by simpa using Ne.symm same
          have other : (name == component.name) = false := by simpa using same
          rw [different, other, if_neg Bool.false_ne_true, Option.or_none]
          exact lists.byName name

theorem onOpened (component : Component) (column : Option Column) {attempt : Attempt Shelf (Option Value)}
    {result : Except Fault (Option Value)} {next : Column}
    (done : attempt ⟨component, column.getD .empty⟩ = some (result, ⟨component, next⟩)) :
    Attempt.within (fun shelf : Option Shelf => shelf.getD ⟨component, .empty⟩)
      (fun shelf _ => some shelf) attempt (column.map (Shelf.mk component)) =
      some (result, (some next).map (Shelf.mk component)) := by
  have same : (column.map (Shelf.mk component)).getD ⟨component, .empty⟩ =
      ⟨component, column.getD .empty⟩ := by
    cases column <;> rfl
  rw [← same] at done
  exact Attempt.within_eq done

theorem add (lists : ledger.Lists store) (wellFormed : store.WellFormed) (entity : Entity) (id : ComponentId)
    (value : Value) :
    EndsAs (Ledger.add entity id value ledger) (Store.add entity id value store) := by
  have known := lists.component_eq id
  rw [Store.add_apply]
  unfold Ledger.add
  cases registered : store.component? id with
  | none =>
    rw [Store.component, registered] at known
    exact ⟨ledger, Attempt.bind_error known _, lists⟩
  | some component =>
    rw [Store.component, registered] at known
    obtain ⟨kind, placed, rfl⟩ := Option.map_eq_some_iff.mp registered
    rw [Attempt.bind_ok known]
    cases accepted : kind.component.accept value with
    | error fault =>
      have refused := onOpened kind.component kind.column (Shelf.set_refused _ entity accepted)
      obtain ⟨next, done, listed⟩ :=
        lists.onShelf (store.openColumn id) placed refused (getElem?_modify_of placed _)
      simp only [accepted]
      exact ⟨next, Attempt.bind_error done _, listed⟩
    | ok =>
      -- an open shelf counts as its column in the store does, and one that is opened now counts nothing
      have counted : (kind.column.getD .empty).Counted := by
        cases opened : kind.column with
        | none => exact Column.empty_counted
        | some column => exact wellFormed.counted_of_placed placed column opened
      have stored := onOpened kind.component kind.column (Shelf.set_accepted counted kind.component entity
        (some value) (by rintro _ ⟨⟩; exact accepted))
      have opened : (store.openColumn id).kinds[id.index]? =
          some ⟨kind.component, some (kind.column.getD .empty)⟩ := by
        rw [Store.openColumn, getElem?_modify_of placed, if_pos rfl]
      obtain ⟨next, done, listed⟩ := lists.onShelf ((store.openColumn id).write entity id (some value))
        placed stored (by
          intro place
          rw [Store.write, getElem?_modify_of opened, Store.openColumn, getElem?_modify_of placed]
          split <;> rfl)
      simp only [accepted]
      exact ⟨next, Attempt.bind_ok done _, listed⟩

theorem set (lists : ledger.Lists store) (wellFormed : store.WellFormed) (entity : Entity) (id : ComponentId)
    (value : Value) : EndsAs (Ledger.set entity id value ledger) (store.set entity id value) := by
  have known := lists.component_eq id
  unfold Ledger.set Store.set Store.contains
  rw [Attempt.bind_get, lists.get?]
  cases present : store.get? entity id with
  | none =>
    cases registered : store.component? id with
    | none =>
      rw [Store.component, registered] at known
      exact ⟨ledger, Attempt.bind_error known _, lists⟩
    | some component =>
      rw [Store.component, registered] at known
      exact ⟨ledger, Attempt.bind_ok known _, lists⟩
  | some previous =>
    obtain ⟨column, opened, held⟩ := Option.bind_eq_some_iff.mp present
    obtain ⟨component, registered⟩ := Store.component?_of_get? present
    have done := lists.add wellFormed entity id value
    rw [Store.add_apply, registered, Store.openColumn_of_open opened] at done
    simp only [registered, Option.isSome_some, if_true]
    cases accepted : component.accept value <;> simp only [accepted] at done ⊢ <;> exact done

theorem remove (lists : ledger.Lists store) (wellFormed : store.WellFormed) (entity : Entity) (id : ComponentId) :
    EndsAs (Ledger.remove entity id ledger) (Operation.replace (Store.remove · entity id) store) := by
  have known := lists.component_eq id
  unfold Ledger.remove Store.remove Operation.replace
  cases registered : store.component? id with
  | none =>
    rw [Store.component, registered] at known
    simp only [Store.component, registered]
    exact ⟨ledger, Attempt.bind_error known _, lists⟩
  | some component =>
    rw [Store.component, registered] at known
    obtain ⟨kind, placed, rfl⟩ := Option.map_eq_some_iff.mp registered
    have cleared := Shelf.clear_eq kind.component (wellFormed.counted_of_placed placed) entity
    obtain ⟨next, done, listed⟩ :=
      lists.onShelf (store.write entity id none) placed cleared (getElem?_modify_of placed _)
    have held : store.get? entity id = kind.column.bind fun column => column.get? entity := by
      rw [Store.get?, Store.column?, placed]
      rfl
    rw [Attempt.bind_ok known, done, ← held]
    simp only [Store.component, registered]
    exact ⟨next, rfl, listed⟩

theorem drop (lists : ledger.Lists store) (wellFormed : store.WellFormed) (entity : Entity) :
    EndsAs (Ledger.drop entity ledger) (.ok (), store.drop entity) := by
  have cleared (shelf : Option Shelf) (member : shelf ∈ ledger.shelves.toList) :
      (do let _ ← Shelf.clear entity : Attempt (Option Shelf) Unit) shelf =
        some (.ok (), shelf.map fun shelf => ⟨shelf.component, shelf.column.set entity none⟩) := by
    rw [lists.shelves, Array.toList_map, List.mem_map] at member
    obtain ⟨kind, inside, rfl⟩ := member
    obtain ⟨place, placed⟩ := List.mem_iff_getElem?.mp inside
    rw [Array.getElem?_toList] at placed
    rw [Attempt.bind_ok (Shelf.clear_eq kind.component (wellFormed.counted_of_placed placed) entity)]
    cases kind.column <;> rfl
  refine ⟨_, Attempt.within_eq (Attempt.onEach_eq cleared), ?_, ?_, ?_⟩
  · simp only [lists.components, Store.drop, Array.map_map]
    rfl
  · simp only [lists.shelves, Store.drop, Array.toList_map, List.map_map, Array.map_map]
    apply Array.ext_getElem?
    intro place
    simp only [List.getElem?_toArray, List.getElem?_map, Array.getElem?_toList, Array.getElem?_map]
    refine congrArg (store.kinds[place]?.map ·) (funext fun kind => ?_)
    cases column : kind.column <;> simp [column]
  · intro name
    rw [Store.componentId?_congr (Store.component?_drop store entity)]
    exact lists.byName name

/-- A ledger answers every call as its store does, nothing breaks, and it lists the store afterwards. -/
theorem play (lists : ledger.Lists store) (wellFormed : store.WellFormed) (call : Store.Call) :
    EndsAs (Ledger.play call ledger) (Store.play call store) := by
  cases call with
  | register component =>
    have done := (lists.register component).bind_pure Store.Answer.registered
    simp only [Store.play, Operation.replace] at done ⊢
    cases registered : store.register component <;> simp only [registered] at done ⊢ <;> exact done
  | add entity id value =>
    have done := (lists.add wellFormed entity id value).bind_pure fun _ => Store.Answer.done
    simp only [Store.play, Operation.map_apply]
    exact done
  | set entity id value => exact (lists.set wellFormed entity id value).bind_pure _
  | remove entity id =>
    have done := (lists.remove wellFormed entity id).bind_pure Store.Answer.taken
    simp only [Store.play, Operation.replace] at done ⊢
    cases removed : store.remove entity id <;> simp only [removed] at done ⊢ <;> exact done
  | drop entity => exact (lists.drop wellFormed entity).bind_pure _

end Lists

/-! ### Any calls -/

/-- What a host finds of a ledger, told by holdings. -/
structure Embodies (ledger : Ledger) (holdings : Store.Holdings) : Prop where
  components : ledger.components.toList = holdings.components
  componentId? : ∀ name, ledger.componentId? name = holdings.position? name
  get? : ∀ entity id, ledger.get? entity id = holdings.value? id entity
  valuesOf : ∀ entity, ledger.valuesOf entity = holdings.valuesOf entity
  /-- A shelf lists the entities that have a value, in ascending order, and counts them. -/
  shelf? : ∀ id shelf, ledger.shelf? id = some shelf →
    holdings.components[id.index]? = some shelf.component ∧
    shelf.column.entities.Pairwise (fun first second => first.id < second.id) ∧
    (∀ entity, entity ∈ shelf.column.entities ↔ (holdings.value? id entity).isSome = true) ∧
    shelf.column.size = shelf.column.entities.length
  /-- A refused call changes no component, no name and no value. -/
  refused : ∀ call fault next, play call ledger = some (.error fault, next) →
    next.components = ledger.components ∧ (∀ name, next.componentId? name = ledger.componentId? name) ∧
    ∀ entity id, next.get? entity id = ledger.get? entity id

section

variable {ledger : Ledger} {store : Store} {holdings : Store.Holdings}

theorem Lists.components_eq (lists : ledger.Lists store) (stands : store.StandsFor holdings) :
    ledger.components.toList = holdings.components := by
  rw [lists.components, Array.toList_map, stands.components]

theorem Lists.embodies (lists : ledger.Lists store) (stands : store.StandsFor holdings) :
    ledger.Embodies holdings where
  components := lists.components_eq stands
  componentId? name := (lists.byName name).trans (stands.componentId? name)
  get? entity id := (lists.get? entity id).trans (stands.get? entity id)
  valuesOf entity := (lists.valuesOf entity).trans (stands.valuesOf entity)
  shelf? id shelf opened := by
    rw [lists.shelf?] at opened
    obtain ⟨kind, placed, shelved⟩ := Option.bind_eq_some_iff.mp opened
    obtain ⟨column, filled, rfl⟩ := Option.map_eq_some_iff.mp shelved
    have counted := stands.wellFormed.counted_of_placed placed column filled
    refine ⟨?_, Column.entities_ascending column, fun entity => ?_, (Column.length_entities counted).symm⟩
    · rw [← stands.component?, Store.component?, placed]
      rfl
    · rw [Column.mem_entities, ← stands.get?, Store.get?, Store.column?, placed]
      simp [filled]
  refused call fault next refused := by
    obtain ⟨after, done, listed⟩ := lists.play stands.wellFormed call
    obtain ⟨answered, kept⟩ := stands.play call
    rw [refused] at done
    obtain ⟨answer, rfl⟩ := Prod.mk.inj (Option.some.inj done)
    rw [Store.Holdings.play_refused (answered.symm.trans answer.symm)] at kept
    refine ⟨?_, fun name => ?_, fun entity id => ?_⟩
    · exact Array.toList_inj.mp ((listed.components_eq kept).trans (lists.components_eq stands).symm)
    · rw [listed.byName, kept.componentId?, lists.byName, stands.componentId?]
    · rw [listed.get?, kept.get?, lists.get?, stands.get?]

end

/-- Any calls, in any order and with any entities, kinds and values, are answered as by holdings; nothing breaks,
and the ledger embodies the holdings afterwards. -/
theorem playAll_holdings (calls : List Store.Call) :
    ∃ answers holdings store ledger,
      Operation.playAll Store.Holdings.play calls .empty = (answers, holdings) ∧
      Operation.playAll Store.play calls .empty = (answers, store) ∧
      Attempt.playAll play calls .empty = some (answers, ledger) ∧
      ledger.Lists store ∧ ledger.Embodies holdings := by
  have inStep : ∀ call (store : Store) (holdings : Store.Holdings), store.StandsFor holdings →
      (Store.play call store).1 = (Store.Holdings.play call holdings).1 ∧
        (Store.play call store).2.StandsFor (Store.Holdings.play call holdings).2 :=
    fun call _ _ stands => stands.play call
  have inPlace : ∀ call (ledger : Ledger) (store : Store),
      (ledger.Lists store ∧ ∃ holdings, store.StandsFor holdings) →
      ∃ next, play call ledger = some ((Store.play call store).1, next) ∧
        next.Lists (Store.play call store).2 ∧ ∃ holdings, (Store.play call store).2.StandsFor holdings := by
    rintro call ledger store ⟨lists, holdings, stands⟩
    obtain ⟨next, done, listed⟩ := lists.play stands.wellFormed call
    exact ⟨next, done, listed, _, (stands.play call).2⟩
  obtain ⟨answered, stands⟩ := Operation.playAll_inStep inStep calls Store.StandsFor.empty
  obtain ⟨ledger, played, lists, -⟩ :=
    Attempt.playAll_inStep inPlace calls ⟨Lists.empty, _, Store.StandsFor.empty⟩
  refine ⟨_, _, _, ledger, rfl, ?_, ?_, lists, lists.embodies stands⟩
  · rw [← answered]
  · rw [played, answered]

end Ledger

end Stagecraft
