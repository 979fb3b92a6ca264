import Stagecraft.Attempt
import Stagecraft.Proofs.Entries
import Stagecraft.Proofs.Steps
import Stagecraft.SceneRegistry

/-!
Tenure: what a host finds under the numbers of its scenes. A number means one scene, with what was done to
it, for as long as the scene is kept, and nothing before and after.
-/

namespace Stagecraft.SceneRegistry

/-! ### Histories -/

structure Moment where
  before : SceneRegistry
  call : Call
  answer : Except Fault Answer
  after : SceneRegistry

def history : List Call → SceneRegistry → List Moment
  | [], _ => []
  | call :: calls, registry =>
    let (answer, after) := play call registry
    ⟨registry, call, answer, after⟩ :: history calls after

namespace Call

def isAdd : Call → Bool
  | add _ => true
  | _ => false

def target? : Call → Option Nat
  | remove id => some id
  | setCurrent id => some id
  | edit id _ => some id
  | _ => none

def reply : Call → Scene → Answer
  | remove _, scene => .removed scene
  | _, _ => .done

end Call

namespace Moment

def added? (moment : Moment) : Option (Nat × Scene) :=
  match moment.call, moment.answer with
  | .add scene, .ok (.added id) => some (id, scene)
  | _, _ => none

/-- What is done to the scene of a number, by that number or because the scene is the current one. -/
def edit (moment : Moment) (id : Nat) : Scene → Scene :=
  match moment.call with
  | .edit other change => if other = id then change else fun scene => scene
  | .editCurrent change => if moment.before.current = some id then change else fun scene => scene
  | _ => fun scene => scene

def touch (moment : Moment) (id : Nat) (found : Option Scene) : Option Scene :=
  match moment.call with
  | .remove gone => if id = gone then none else found
  | _ => found.map (moment.edit id)

theorem touch_none (moment : Moment) (id : Nat) : moment.touch id none = none := by
  unfold touch
  split
  · exact ite_self none
  · rfl

theorem touch_of_kept {moment : Moment} {id : Nat} (kept : moment.call ≠ .remove id) (found : Option Scene) :
    moment.touch id found = found.map (moment.edit id) := by
  obtain ⟨before, call, answer, after⟩ := moment
  cases call with
  | remove gone =>
    have other : id ≠ gone := by
      rintro rfl
      exact kept rfl
    simp [touch, edit, other]
  | _ => rfl

/-- The call is refused, or there is nothing to do it to. -/
def Failed (moment : Moment) : Prop :=
  (∃ fault, moment.answer = .error fault) ∨ moment.answer = .ok .nothing

end Moment

/-- What a host may rely on after a history. -/
structure Reliable (past : List Moment) (registry : SceneRegistry) : Prop where
  /-- A scene that is added gets a number. -/
  numbered : ∀ moment ∈ past, ∀ scene, moment.call = .add scene → ∃ id, moment.answer = .ok (.added id)
  /-- The number is greater than all that were given out before it. -/
  ascending : (past.filterMap Moment.added?).Pairwise fun earlier later => earlier.1 < later.1
  /-- Until it is given away, a scene is found under its number as it was added, with what was done to it. -/
  kept : ∀ earlier moment later id scene, past = earlier ++ moment :: later →
    moment.added? = some (id, scene) → (∀ next ∈ later, next.call ≠ .remove id) →
    registry.get id = .ok (later.foldl (fun scene next => next.edit id scene) scene)
  /-- From then on its number is unknown. -/
  removed : ∀ earlier moment later id scene, past = earlier ++ moment :: later →
    moment.added? = some (id, scene) → (∃ next ∈ later, next.call = .remove id) →
    registry.get id = .error (.unknownScene id)
  /-- A number that was never given out is unknown. -/
  unheard : ∀ id, (∀ moment ∈ past, ∀ scene, moment.added? ≠ some (id, scene)) →
    registry.get id = .error (.unknownScene id)
  /-- Every call that asks for a scene is answered by what is found under its number then. -/
  answered : ∀ moment ∈ past, ∀ id, moment.call.target? = some id →
    moment.answer = (moment.before.get id).map moment.call.reply
  /-- A call to the current scene gets to it whenever there is one. -/
  reached : ∀ moment ∈ past, ∀ change, moment.call = .editCurrent change →
    moment.answer = .ok (if moment.before.current.isSome then .done else .nothing)
  current : ∀ id, registry.current = some id → ∃ scene, registry.get id = .ok scene
  find? : ∀ name id, registry.find? name = some id ↔
    (∃ scene, registry.get id = .ok scene ∧ scene.name = name) ∧
    ∀ other scene, registry.get other = .ok scene → scene.name = name → id ≤ other
  failed : ∀ moment ∈ past, moment.Failed → moment.after = moment.before

/-! ### Scenes by numbers -/

section

variable {registry : SceneRegistry} {id other : Nat} {scene : Scene}

theorem get_eq_ok_iff : registry.get id = .ok scene ↔ registry.scene? id = some scene := by
  unfold SceneRegistry.get
  cases registry.scene? id <;> simp

theorem get_eq_error (absent : registry.scene? id = none) : registry.get id = .error (.unknownScene id) := by
  rw [SceneRegistry.get, absent]

theorem scene?_without : (registry.without id).scene? other =
    if other = id then none else registry.scene? other :=
  lookup_filter registry.scenes id other

theorem scene?_alter (change : Scene → Scene) : (registry.alter id change).scene? other =
    (registry.scene? other).map (if id = other then change else fun scene => scene) := by
  unfold alter scene?
  induction registry.scenes with
  | nil => rfl
  | cons entry rest ih =>
    obtain ⟨number, kept⟩ := entry
    dsimp only at ih ⊢
    rw [List.map_cons, List.lookup_cons]
    by_cases changed : number = id
    · subst changed
      rw [if_pos BEq.rfl, List.lookup_cons]
      by_cases same : other = number
      · simp [same]
      · simpa only [beq_eq_false_iff_ne.mpr same] using ih
    · rw [if_neg (by simpa using changed), List.lookup_cons]
      by_cases same : other = number
      · simp [same, Ne.symm changed]
      · simpa only [beq_eq_false_iff_ne.mpr same] using ih

/-- A number that is greater than all others has its place at the end. -/
theorem insertScene_eq_append {scenes : List (Nat × Scene)} (greater : ∀ entry ∈ scenes, entry.1 < id) :
    insertScene id scene scenes = scenes ++ [(id, scene)] := by
  induction scenes with
  | nil => rfl
  | cons entry rest ih =>
    obtain ⟨number, kept⟩ := entry
    have less : number < id := greater _ List.mem_cons_self
    rw [insertScene, if_neg (by omega), if_neg (by omega),
      ih fun entry member => greater entry (List.mem_cons_of_mem _ member), List.cons_append]

/-- Scenes are in the order of their numbers, all of which were given out, and the current one is among them. -/
structure Sound (registry : SceneRegistry) : Prop where
  ascending : registry.scenes.Pairwise fun entry next => entry.1 < next.1
  below : ∀ entry ∈ registry.scenes, entry.1 < registry.next
  current : ∀ id, registry.current = some id → (registry.scene? id).isSome = true

theorem Sound.empty : Sound .empty where
  ascending := List.Pairwise.nil
  below := nofun
  current := nofun

theorem Sound.scene?_eq_some_iff (sound : registry.Sound) :
    registry.scene? id = some scene ↔ (id, scene) ∈ registry.scenes :=
  Keyed.lookup_eq_some_iff (List.pairwise_map.mpr (sound.ascending.imp Nat.ne_of_lt))

theorem Sound.lt_next (sound : registry.Sound) (known : registry.scene? id = some scene) :
    id < registry.next :=
  sound.below _ (sound.scene?_eq_some_iff.mp known)

/-- The scene that is found by a name has it, and no scene of a lesser number does. -/
theorem Sound.least_of_find? (sound : registry.Sound) {name : String} (found : registry.find? name = some id) :
    (∃ scene, registry.get id = .ok scene ∧ scene.name = name) ∧
      ∀ other scene, registry.get other = .ok scene → scene.name = name → id ≤ other := by
  obtain ⟨⟨number, kept⟩, first, rfl⟩ := Option.map_eq_some_iff.mp found
  obtain ⟨named, front, back, split, skipped⟩ := List.find?_eq_some_iff_append.mp first
  have ordered := sound.ascending
  rw [split, List.pairwise_append, List.pairwise_cons] at ordered
  refine ⟨⟨kept, ?_, beq_iff_eq.mp named⟩, fun other scene known sameName => ?_⟩
  · rw [get_eq_ok_iff, sound.scene?_eq_some_iff, split]
    exact List.mem_append_right _ List.mem_cons_self
  · rw [get_eq_ok_iff, sound.scene?_eq_some_iff, split, List.mem_append, List.mem_cons] at known
    rcases known with inFront | same | behind
    · exact absurd sameName (by simpa using skipped _ inFront)
    · exact Nat.le_of_eq (congrArg Prod.fst same).symm
    · exact Nat.le_of_lt (ordered.2.1.1 _ behind)

theorem Sound.find?_eq_some_iff (sound : registry.Sound) {name : String} : registry.find? name = some id ↔
    (∃ scene, registry.get id = .ok scene ∧ scene.name = name) ∧
      ∀ other scene, registry.get other = .ok scene → scene.name = name → id ≤ other := by
  refine ⟨sound.least_of_find?, fun ⟨⟨scene, known, named⟩, least⟩ => ?_⟩
  cases found : registry.find? name with
  | none =>
    rw [SceneRegistry.find?, Option.map_eq_none_iff, List.find?_eq_none] at found
    have member := sound.scene?_eq_some_iff.mp (get_eq_ok_iff.mp known)
    exact absurd (beq_iff_eq.mpr named) (found _ member)
  | some number =>
    obtain ⟨⟨first, registered, alike⟩, lowest⟩ := sound.least_of_find? found
    exact congrArg some (Nat.le_antisymm (lowest id scene known named) (least number first registered alike))

end

/-! ### Single calls -/

/-- What a call can come to. -/
inductive Step (registry : SceneRegistry) : Call → Except Fault Answer → SceneRegistry → Prop
  | added (scene : Scene) : Step registry (.add scene) (.ok (.added registry.next))
      ⟨registry.scenes ++ [(registry.next, scene)], registry.next + 1,
        registry.current.or (some registry.next)⟩
  | removed {id : Nat} {scene : Scene} (known : registry.scene? id = some scene) :
      Step registry (.remove id) (.ok (.removed scene))
        { registry.without id with current := registry.current.filter (· != id) }
  | chosen {id : Nat} {scene : Scene} (known : registry.scene? id = some scene) :
      Step registry (.setCurrent id) (.ok .done) { registry with current := some id }
  | edited {id : Nat} {scene : Scene} (known : registry.scene? id = some scene) (change : Scene → Scene) :
      Step registry (.edit id change) (.ok .done) (registry.alter id change)
  | editedCurrent {id : Nat} (current : registry.current = some id) (change : Scene → Scene) :
      Step registry (.editCurrent change) (.ok .done) (registry.alter id change)
  | idle (current : registry.current = none) (change : Scene → Scene) :
      Step registry (.editCurrent change) (.ok .nothing) registry
  | unknown {call : Call} {id : Nat} (asked : call.target? = some id) (absent : registry.scene? id = none) :
      Step registry call (.error (.unknownScene id)) registry

section

variable {registry after : SceneRegistry} {call : Call} {answer : Except Fault Answer} {id : Nat} {scene : Scene}

theorem without_eq_self (absent : registry.scene? id = none) : registry.without id = registry := by
  have others : ∀ entry ∈ registry.scenes, (entry.1 != id) = true := fun entry member =>
    bne_comm.trans (List.lookup_eq_none_iff.mp absent entry member)
  rw [without, List.filter_eq_self.mpr others]

theorem remove_eq : remove id registry = match registry.scene? id with
    | none => (.error (.unknownScene id), registry.without id)
    | some scene => (.ok scene, { registry.without id with current := registry.current.filter (· != id) }) := by
  change (match registry.scene? id with
    | none => throw (.unknownScene id)
    | some scene => do
      modify fun registry => { registry with current := registry.current.filter (· != id) }
      return scene : Operation SceneRegistry Scene) (registry.without id) = _
  cases registry.scene? id <;> rfl

theorem setCurrent_eq : setCurrent id registry = match registry.scene? id with
    | none => (.error (.unknownScene id), registry)
    | some _ => (.ok (), { registry with current := some id }) := by
  unfold setCurrent
  rw [Operation.get_bind_apply]
  cases registry.scene? id <;> rfl

theorem edit_eq (change : Scene → Scene) : edit id change registry = match registry.scene? id with
    | none => (.error (.unknownScene id), registry)
    | some _ => (.ok (), registry.alter id change) := by
  unfold edit
  rw [Operation.get_bind_apply, Operation.liftM_bind_apply, SceneRegistry.get]
  cases registry.scene? id <;> rfl

theorem editCurrent_eq (change : Scene → Scene) : editCurrent change registry = match registry.current with
    | none => (.ok false, registry)
    | some id => (.ok (registry.scene? id).isSome, registry.alter id change) := by
  unfold editCurrent
  rw [Operation.get_bind_apply]
  cases registry.current <;> rfl

/-- As long as there are fresh numbers, every call comes to something. -/
theorem Sound.step (sound : registry.Sound) (room : call.isAdd = true → registry.next + 1 < numbers) :
    registry.Step call (play call registry).1 (play call registry).2 := by
  cases call with
  | add scene =>
    have played : play (.add scene) registry = (.ok (.added registry.next),
        ⟨insertScene registry.next scene registry.scenes, (registry.next + 1) % numbers,
          registry.current.or (some registry.next)⟩) := rfl
    -- the number is greater than all others and not the last one, so nothing is replaced and nothing wraps
    rw [played, insertScene_eq_append sound.below, Nat.mod_eq_of_lt (room rfl)]
    exact .added scene
  | remove id =>
    rw [play, Operation.bind_apply, remove_eq]
    cases known : registry.scene? id with
    | some scene => exact .removed known
    | none =>
      -- the scene is taken out before the refusal, but there is none
      rw [without_eq_self known]
      exact .unknown rfl known
  | setCurrent id =>
    rw [play, Operation.bind_apply, setCurrent_eq]
    cases known : registry.scene? id with
    | some scene => exact .chosen known
    | none => exact .unknown rfl known
  | edit id change =>
    rw [play, Operation.bind_apply, edit_eq]
    cases known : registry.scene? id with
    | some scene => exact .edited known change
    | none => exact .unknown rfl known
  | editCurrent change =>
    rw [play, Operation.bind_apply, editCurrent_eq]
    cases current : registry.current with
    | none => exact .idle current change
    | some id =>
      dsimp only
      rw [sound.current id current]
      exact .editedCurrent current change

theorem Step.next (step : registry.Step call answer after) :
    after.next = registry.next + if call.isAdd then 1 else 0 := by
  cases step with
  | unknown asked absent =>
    have old : call.isAdd = false := by
      cases call with
      | add scene => cases asked
      | _ => rfl
    rw [if_neg (by simp [old]), Nat.add_zero]
  | _ => rfl

theorem scene?_append (next : Nat) (current : Option Nat) :
    (SceneRegistry.mk (registry.scenes ++ [(registry.next, scene)]) next current).scene? id =
      (registry.scene? id).or (if id = registry.next then some scene else none) := by
  rw [SceneRegistry.scene?, List.lookup_append, List.lookup_cons]
  by_cases same : id = registry.next
  · simp [same, SceneRegistry.scene?]
  · simp [beq_eq_false_iff_ne.mpr same, same, SceneRegistry.scene?]

theorem Step.added? (step : registry.Step call answer after) :
    (Moment.mk registry call answer after).added?.map Prod.fst =
      if call.isAdd then some registry.next else none := by
  cases step with
  | unknown asked absent =>
    cases call with
    | add scene => cases asked
    | _ => rfl
  | _ => rfl

theorem Step.scene?_of_added (step : registry.Step call answer after) (sound : registry.Sound)
    (added : (Moment.mk registry call answer after).added? = some (id, scene)) :
    id < after.next ∧ after.scene? id = some scene := by
  cases step with
  | added =>
    cases added
    have fresh : registry.scene? registry.next = none :=
      Option.eq_none_iff_forall_ne_some.mpr fun other known => Nat.lt_irrefl _ (sound.lt_next known)
    rw [scene?_append, fresh, if_pos rfl]
    exact ⟨Nat.lt_succ_self _, rfl⟩
  | @unknown call _ asked _ => cases call <;> cases added
  | _ => cases added

theorem Step.scene? (step : registry.Step call answer after) (given : id < registry.next) :
    after.scene? id = (Moment.mk registry call answer after).touch id (registry.scene? id) := by
  cases step with
  | added scene =>
    rw [scene?_append, if_neg (Nat.ne_of_lt given), Option.or_none]
    exact Option.map_id'.symm
  | removed known => exact scene?_without
  | chosen known => exact Option.map_id'.symm
  | edited known change => exact scene?_alter change
  | editedCurrent known change =>
    rw [scene?_alter]
    simp [Moment.touch, Moment.edit, known]
  | idle nobody change => simp [Moment.touch, Moment.edit, nobody]
  | @unknown call number asked absent =>
    by_cases same : id = number
    · rw [same, absent, Moment.touch_none]
    · cases call with
      | remove gone =>
        cases asked
        exact (if_neg same).symm
      | setCurrent other => exact Option.map_id'.symm
      | edit other change =>
        cases asked
        simp [Moment.touch, Moment.edit, if_neg (Ne.symm same)]
      | _ => cases asked

theorem Sound.alter (sound : registry.Sound) (id : Nat) (change : Scene → Scene) :
    (registry.alter id change).Sound := by
  have numbers : (registry.alter id change).scenes.map Prod.fst = registry.scenes.map Prod.fst := by
    rw [SceneRegistry.alter, List.map_map]
    refine List.map_congr_left fun entry _ => ?_
    rw [Function.comp_apply]
    split
    · next same => exact (beq_iff_eq.mp same).symm
    · rfl
  constructor
  · rw [← List.pairwise_map (f := Prod.fst), numbers, List.pairwise_map]
    exact sound.ascending
  · have below : ∀ number ∈ registry.scenes.map Prod.fst, number < registry.next :=
      List.forall_mem_map.mpr sound.below
    rw [← numbers] at below
    exact List.forall_mem_map.mp below
  · intro current same
    rw [scene?_alter, Option.isSome_map]
    exact sound.current current same

theorem Step.answered (step : registry.Step call answer after) (asked : call.target? = some id) :
    answer = (registry.get id).map call.reply := by
  cases step with
  | removed known =>
    cases asked
    rw [get_eq_ok_iff.mpr known]
    rfl
  | chosen known =>
    cases asked
    rw [get_eq_ok_iff.mpr known]
    rfl
  | edited known change =>
    cases asked
    rw [get_eq_ok_iff.mpr known]
    rfl
  | unknown other absent =>
    cases asked.symm.trans other
    rw [get_eq_error absent]
    rfl
  | _ => cases asked

theorem Step.answer_of_add (step : registry.Step (.add scene) answer after) :
    answer = .ok (.added registry.next) := by
  cases step with
  | added => rfl
  | unknown asked => cases asked

theorem Step.answer_of_editCurrent {change : Scene → Scene}
    (step : registry.Step (.editCurrent change) answer after) :
    answer = .ok (if registry.current.isSome then .done else .nothing) := by
  cases step with
  | editedCurrent known => rw [known, Option.isSome_some, if_pos rfl]
  | idle nobody => simp [nobody]
  | unknown asked => cases asked

theorem Step.failed (step : registry.Step call answer after)
    (failed : (Moment.mk registry call answer after).Failed) : after = registry := by
  cases step with
  | idle nobody change => rfl
  | unknown asked absent => rfl
  | _ => rcases failed with ⟨_, ⟨⟩⟩ | ⟨⟨⟩⟩

theorem Step.sound (step : registry.Step call answer after) (sound : registry.Sound) : after.Sound := by
  cases step with
  | added scene =>
    constructor
    · rw [List.pairwise_append]
      refine ⟨sound.ascending, List.pairwise_singleton _ _, fun entry member last same => ?_⟩
      rw [List.mem_singleton.mp same]
      exact sound.below entry member
    · intro entry member
      rcases List.mem_append.mp member with kept | last
      · exact Nat.lt_succ_of_lt (sound.below entry kept)
      · rw [List.mem_singleton.mp last]
        exact Nat.lt_succ_self _
    · intro id same
      rw [scene?_append]
      rcases Option.or_eq_some_iff.mp same with kept | ⟨-, fresh⟩
      · rw [Option.isSome_or, sound.current id kept, Bool.true_or]
      · rw [if_pos (Option.some.inj fresh).symm, Option.isSome_or, Option.isSome_some, Bool.or_true]
  | removed known =>
    refine ⟨sound.ascending.filter _, fun entry member => sound.below entry (List.mem_of_mem_filter member), ?_⟩
    intro id same
    obtain ⟨same, other⟩ := Option.filter_eq_some_iff.mp same
    have found := sound.current id same
    change ((registry.without _).scene? id).isSome = true
    rwa [scene?_without, if_neg (by simpa using other)]
  | chosen known =>
    refine { sound with current := fun id same => ?_ }
    cases same
    exact Option.isSome_of_eq_some known
  | edited known change => exact sound.alter _ change
  | editedCurrent known change => exact sound.alter _ change
  | idle nobody change => exact sound
  | unknown asked absent => exact sound

end

/-! ### Runs -/

section

variable {registry : SceneRegistry} {calls : List Call} {id : Nat}

def after (calls : List Call) (registry : SceneRegistry) : SceneRegistry :=
  (Operation.playAll play calls registry).2

theorem after_cons (call : Call) : after (call :: calls) registry = after calls (play call registry).2 := rfl

theorem after_append (first rest : List Call) :
    after (first ++ rest) registry = after rest (after first registry) := by
  induction first generalizing registry with
  | nil => rfl
  | cons call first ih => exact ih

theorem history_cons (call : Call) : history (call :: calls) registry =
    ⟨registry, call, (play call registry).1, (play call registry).2⟩ ::
      history calls (play call registry).2 := rfl

theorem history_eq_append {earlier later : List Moment} (split : history calls registry = earlier ++ later) :
    ∃ first rest, calls = first ++ rest ∧ history first registry = earlier ∧
      history rest (after first registry) = later := by
  induction earlier generalizing calls registry with
  | nil => exact ⟨[], calls, rfl, rfl, split⟩
  | cons moment earlier ih =>
    cases calls with
    | nil => cases split
    | cons call calls =>
      rw [history_cons, List.cons_append] at split
      obtain ⟨rfl, further⟩ := List.cons.inj split
      obtain ⟨first, rest, rfl, before, behind⟩ := ih further
      exact ⟨call :: first, rest, rfl, by rw [history_cons, before], behind⟩

inductive Run : List Call → SceneRegistry → Prop
  | nil {registry : SceneRegistry} : Run [] registry
  | cons {registry : SceneRegistry} {call : Call} {calls : List Call}
      (step : registry.Step call (play call registry).1 (play call registry).2)
      (rest : Run calls (play call registry).2) : Run (call :: calls) registry

/-- Calls run through as long as there is a fresh number for every scene that is added. -/
theorem Sound.run (sound : registry.Sound) (room : registry.next + calls.countP Call.isAdd < numbers) :
    Run calls registry := by
  induction calls generalizing registry with
  | nil => exact .nil
  | cons call calls ih =>
    rw [List.countP_cons] at room
    have step := sound.step fun new : call.isAdd = true => by
      rw [if_pos new] at room
      omega
    refine .cons step (ih (step.sound sound) ?_)
    rw [step.next]
    omega

namespace Run

theorem sound (run : Run calls registry) (sound : registry.Sound) : (after calls registry).Sound := by
  induction run with
  | nil => exact sound
  | cons step _ ih => exact ih (step.sound sound)

theorem next (run : Run calls registry) :
    (after calls registry).next = registry.next + calls.countP Call.isAdd := by
  induction run with
  | nil => rfl
  | cons step _ ih =>
    rw [after_cons, ih, step.next, List.countP_cons]
    omega

theorem step_of_mem (run : Run calls registry) {moment : Moment} (member : moment ∈ history calls registry) :
    moment.before.Step moment.call moment.answer moment.after := by
  induction run with
  | nil => cases member
  | cons step _ ih =>
    rcases List.mem_cons.mp member with rfl | later
    · exact step
    · exact ih later

/-- The numbers that are given out are those from the next one on, in turn. -/
theorem map_added? (run : Run calls registry) :
    ((history calls registry).filterMap Moment.added?).map Prod.fst =
      List.range' registry.next (calls.countP Call.isAdd) := by
  rw [List.map_filterMap]
  induction run with
  | nil => rfl
  | @cons registry call calls step _ ih =>
    rw [step.next] at ih
    rw [history_cons, List.filterMap_cons, step.added?, ih, List.countP_cons]
    cases call.isAdd with
    | true => rfl
    | false => rfl

/-- What is found under a number that was given out, after any further calls. -/
theorem scene? (run : Run calls registry) (given : id < registry.next) : (after calls registry).scene? id =
    (history calls registry).foldl (fun found moment => moment.touch id found) (registry.scene? id) := by
  induction run with
  | nil => rfl
  | @cons registry call calls step _ ih =>
    have later : id < (play call registry).2.next := by
      rw [step.next]
      exact Nat.lt_add_right _ given
    rw [after_cons, ih later, step.scene? given]
    rfl

theorem of_append {first rest : List Call} (run : Run (first ++ rest) registry) :
    Run first registry ∧ Run rest (after first registry) := by
  induction first generalizing registry with
  | nil => exact ⟨.nil, run⟩
  | cons call first ih =>
    cases run with
    | cons step run =>
      obtain ⟨front, back⟩ := ih run
      exact ⟨.cons step front, back⟩

/-- A scene that was added is found under its number with what happened to it since. -/
theorem scene?_of_added (run : Run calls registry) (sound : registry.Sound) {earlier later : List Moment}
    {moment : Moment} {scene : Scene} (split : history calls registry = earlier ++ moment :: later)
    (added : moment.added? = some (id, scene)) :
    (after calls registry).scene? id = later.foldl (fun found next => next.touch id found) (some scene) := by
  obtain ⟨first, rest, rfl, -, behind⟩ := history_eq_append split
  obtain ⟨front, back⟩ := run.of_append
  have sound := front.sound sound
  rw [after_append]
  generalize after first registry = middle at sound back behind ⊢
  cases back with
  | nil => cases behind
  | cons step back =>
    rw [history_cons] at behind
    obtain ⟨rfl, rfl⟩ := List.cons.inj behind
    obtain ⟨given, found⟩ := step.scene?_of_added sound added
    rw [after_cons, back.scene? given, found]

end Run

end

section

variable {later : List Moment} {id : Nat}

theorem foldl_touch_kept (kept : ∀ next ∈ later, next.call ≠ .remove id) (scene : Scene) :
    later.foldl (fun found next => next.touch id found) (some scene) =
      some (later.foldl (fun scene next => next.edit id scene) scene) := by
  induction later generalizing scene with
  | nil => rfl
  | cons next later ih =>
    rw [List.foldl_cons, List.foldl_cons, Moment.touch_of_kept (kept next List.mem_cons_self), Option.map_some]
    exact ih (fun other member => kept other (List.mem_cons_of_mem _ member)) _

theorem foldl_touch_none : later.foldl (fun found next => next.touch id found) none = none := by
  induction later with
  | nil => rfl
  | cons next later ih => rw [List.foldl_cons, Moment.touch_none, ih]

theorem foldl_touch_removed (removed : ∃ next ∈ later, next.call = .remove id) (found : Option Scene) :
    later.foldl (fun found next => next.touch id found) found = none := by
  obtain ⟨next, member, gone⟩ := removed
  obtain ⟨before, behind, rfl⟩ := List.append_of_mem member
  rw [List.foldl_append, List.foldl_cons, Moment.touch, gone]
  dsimp only
  rw [if_pos rfl, foldl_touch_none]

end

/-- After any calls that add fewer scenes than there are numbers, a host may rely on the numbers. -/
theorem playAll_reliable (calls : List Call) (few : calls.countP Call.isAdd < numbers) :
    Reliable (history calls .empty) (after calls .empty) := by
  have run : Run calls .empty := Sound.empty.run (by rwa [SceneRegistry.empty, Nat.zero_add])
  have sound := run.sound Sound.empty
  constructor
  case numbered =>
    intro moment member scene asked
    have step := run.step_of_mem member
    rw [asked] at step
    exact ⟨_, step.answer_of_add⟩
  case ascending =>
    rw [← List.pairwise_map (f := Prod.fst), run.map_added?]
    exact List.pairwise_lt_range' 1
  case kept =>
    intro earlier moment later id scene split added kept
    rw [get_eq_ok_iff, run.scene?_of_added Sound.empty split added, foldl_touch_kept kept]
  case removed =>
    intro earlier moment later id scene split added removed
    apply get_eq_error
    rw [run.scene?_of_added Sound.empty split added, foldl_touch_removed removed]
  case unheard =>
    intro id unheard
    cases found : (after calls .empty).scene? id with
    | none => exact get_eq_error found
    | some scene =>
      -- what is found has a number below the next one, and all of these were given out
      have inside := sound.lt_next found
      rw [run.next] at inside
      have heard : id ∈ ((history calls .empty).filterMap Moment.added?).map Prod.fst := by
        rw [run.map_added?, List.mem_range'_1]
        exact ⟨Nat.zero_le _, inside⟩
      obtain ⟨⟨number, first⟩, listed, rfl⟩ := List.mem_map.mp heard
      obtain ⟨moment, member, added⟩ := List.mem_filterMap.mp listed
      exact absurd added (unheard moment member first)
  case answered => exact fun moment member id asked => (run.step_of_mem member).answered asked
  case reached =>
    intro moment member change asked
    have step := run.step_of_mem member
    rw [asked] at step
    exact step.answer_of_editCurrent
  case current =>
    intro id current
    obtain ⟨scene, found⟩ := Option.isSome_iff_exists.mp (sound.current id current)
    exact ⟨scene, get_eq_ok_iff.mpr found⟩
  case find? => exact fun name id => sound.find?_eq_some_iff
  case failed => exact fun moment member failed => (run.step_of_mem member).failed failed

def tour : List Call :=
  [.add (.empty "menu" .standard), .add (.empty "level" .standard), .setCurrent 1,
    .editCurrent fun scene => { scene with name := "cave" }, .remove 0, .setCurrent 0]

theorem tour_reliable : tour.countP Call.isAdd < numbers ∧
    Reliable (history tour .empty) (after tour .empty) ∧ (after tour .empty).find? "cave" = some 1 :=
  ⟨by decide, playAll_reliable tour (by decide), by decide⟩

end Stagecraft.SceneRegistry
