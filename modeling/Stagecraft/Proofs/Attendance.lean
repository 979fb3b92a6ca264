import Stagecraft.Proofs.Blindness
import Stagecraft.Proofs.Course
import Stagecraft.Proofs.Script.Integrity

/-!
Attendance: who listens to an event is there when it is delivered. A catalog lets no listener in that asks
for other components than the event of the name, and no body takes a component away. So what is asked of an
event once, before it is delivered, is all that any listener ever asks of it.
-/

namespace Stagecraft

/-! ### Catalogs that only grow -/

namespace Catalog

theorem after_append (catalog : Catalog) (first second : List Registration) :
    catalog.after (first ++ second) = (catalog.after first).after second :=
  List.foldl_append

theorem after_grows (catalog : Catalog) (registrations : List Registration) :
    ∃ more, catalog.after registrations = catalog.append more := by
  induction registrations generalizing catalog with
  | nil => exact ⟨empty, catalog.append_empty.symm⟩
  | cons registration rest ih =>
    obtain ⟨first, grown⟩ : ∃ first, (registration.perform catalog).2 = catalog.append first := by
      rw [Registration.perform_eq]
      cases declared : registration.declare catalog with
      | error fault => exact ⟨empty, catalog.append_empty.symm⟩
      | ok next =>
        obtain ⟨first, grows, -⟩ := Registration.declare_grows declared
        exact ⟨first, grows.after⟩
    obtain ⟨others, last⟩ := ih (registration.perform catalog).2
    refine ⟨first.append others, ?_⟩
    rw [← append_assoc, ← grown]
    exact last

theorem mem_systems_after {catalog : Catalog} {system : System}
    (member : system ∈ catalog.systems.entries) (registrations : List Registration) :
    system ∈ (catalog.after registrations).systems.entries := by
  obtain ⟨more, grown⟩ := catalog.after_grows registrations
  rw [grown]
  exact List.mem_append_left _ member

def Covers (events : Registry Contract) (system : System) : Prop :=
  ∀ name, system.listensTo name = true → ∃ declared, events.find? name = some declared ∧
    declared.roles.map Role.components = system.roles.map Role.components

theorem Whole.covers {catalog : Catalog} (whole : catalog.Whole) {system : System}
    (member : system ∈ catalog.systems.entries) : Covers catalog.events system := by
  intro name listens
  unfold System.listensTo at listens
  unfold System.roles
  cases listener : system.listener with
  | none =>
    rw [listener] at listens
    cases listens
  | some contract =>
    rw [listener] at listens
    obtain ⟨-, declared, found, agrees⟩ := (whole.supported system member).listener contract listener
    rw [beq_iff_eq.mp listens] at found
    exact ⟨declared, found, agrees.components⟩

end Catalog

/-! ### What is bound -/

namespace Store

theorem bindTargets_congr {first second : Store} (missing : Fault) {roles : List Role}
    {targets : List Entity} (same : ∀ role ∈ roles, ∀ entity,
      second.bindRole entity role.components = first.bindRole entity role.components) :
    second.bindTargets missing roles targets = first.bindTargets missing roles targets := by
  induction roles generalizing targets with
  | nil => rfl
  | cons role rest ih =>
    obtain ⟨here, others⟩ := List.forall_mem_cons.mp same
    cases targets with
    | nil => rfl
    | cons entity targets => rw [bindTargets, bindTargets, here, ih others]

theorem Rewrites.bindRoles {before after : Store} (rewrites : before.Rewrites after) (roles : List Role)
    (event : Event) : after.bindRoles roles event = before.bindRoles roles event := by
  refine bindTargets_congr _ fun role _ entity => mapM_congr fun name _ => ?_
  rw [rewrites.componentId?]
  simp only [rewrites.contains]

/-- Of roles, only the components count. -/
theorem bindTargets_ok_of_components {store : Store} {missing other : Fault} {roles found : List Role}
    (same : found.map Role.components = roles.map Role.components) {targets : List Entity}
    {refs : List (List ComponentRef)} (bound : store.bindTargets missing found targets = .ok refs) :
    store.bindTargets other roles targets = .ok refs := by
  induction roles generalizing found targets refs with
  | nil =>
    rw [List.map_eq_nil_iff.mp same] at bound
    exact bound
  | cons role rest ih =>
    obtain ⟨first, behind, rfl, here, others⟩ := List.map_eq_cons_iff.mp same
    cases targets with
    | nil => cases bound
    | cons entity targets =>
      obtain ⟨own, ownBound, remaining⟩ := bind_ok bound
      obtain ⟨more, moreBound, last⟩ := bind_ok remaining
      cases last
      rw [bindTargets, ← here, ownBound, ih others moreBound]
      rfl

end Store

namespace Scene

variable {scene : Scene} {events : Registry Contract} {event : Event}

/-- The targets of an event that meets its contract are alive, and the roles of the contract are bound. -/
theorem checkEvent_ok {store : Store} (accepted : scene.checkEvent events store event = .ok ()) :
    event.targets.forM scene.roster.checkAlive = .ok () ∧
      ∃ declared refs, events.find? event.name = some declared ∧
        store.bindRoles declared.roles event = .ok refs := by
  unfold checkEvent at accepted
  split at accepted
  · cases accepted
  · next declared found =>
    dsimp only at accepted
    split at accepted
    · cases accepted
    · split at accepted
      · cases accepted
      · obtain ⟨_, alive, remaining⟩ := bind_ok accepted
        obtain ⟨refs, bound, -⟩ := bind_ok remaining
        exact ⟨alive, declared, refs, found, bound⟩

theorem Meets.checkEvent {store : Store} (met : scene.Meets store) (wellFormed : scene.WellFormed)
    (events : Registry Contract) (event : Event) :
    scene.checkEvent events store event = scene.checkEvent events scene.store event := by
  unfold Scene.checkEvent
  simp only [(met.rewrites wellFormed.store).1.bindRoles]

/-- Who is covered can bind an event that meets its contract, all along a dispatch. -/
theorem Meets.binds {store : Store} (met : scene.Meets store) (wellFormed : scene.WellFormed)
    {system : System} (covers : Catalog.Covers events system)
    (listens : system.listensTo event.name = true)
    (accepted : scene.checkEvent events scene.store event = .ok ()) :
    ∃ refs, store.bindRoles system.roles event = .ok refs := by
  obtain ⟨-, declared, refs, found, bound⟩ := checkEvent_ok accepted
  obtain ⟨other, same, components⟩ := covers event.name listens
  rw [found] at same
  cases same
  rw [(met.rewrites wellFormed.store).1.bindRoles]
  exact ⟨refs, Store.bindTargets_ok_of_components components bound⟩

/-! ### Attendance -/

theorem mem_recipients {pair : Event × Enrolled} : pair ∈ scene.recipients event ↔
    pair.1 = event ∧ pair.2 ∈ scene.systems ∧ pair.2.system.listensTo event.name = true := by
  obtain ⟨other, enrolled⟩ := pair
  simp only [recipients, List.mem_map, List.mem_filter, Prod.mk.injEq, exists_eq_right_right]
  exact and_comm.trans (and_congr_left' eq_comm)

structure Acted (scene : Scene) (handing : Handing) : Prop where
  exists_run : ∃ store output refs, scene.Meets store ∧
    store.bindRoles handing.enrolled.system.roles handing.event = .ok refs ∧
    handing.result = ((handing.enrolled.system.body ⟨handing.event, refs⟩).run
      ⟨⟨store, scene.roster, handing.enrolled.components⟩, output⟩).1.mapError
        (Failure.system handing.enrolled.system.name)

/-- Where a body ran, a failure is its own. -/
theorem Acted.failure {handing : Handing} (acted : scene.Acted handing) {failure : Failure}
    (failed : failure ∈ handing.failures) :
    handing.result = .error failure ∧ ∃ cause, failure = .system handing.enrolled.system.name cause := by
  obtain ⟨store, output, refs, -, -, ended⟩ := acted.exists_run
  unfold Handing.failures at failed
  rcases result : handing.result with other | found <;> rw [result] at failed ended
  · obtain rfl := List.mem_singleton.mp failed
    rcases ran : ((handing.enrolled.system.body ⟨handing.event, refs⟩).run
      ⟨⟨store, scene.roster, handing.enrolled.components⟩, output⟩).1 with cause | found <;>
      rw [ran] at ended <;> cases ended
    exact ⟨rfl, cause, rfl⟩
  · cases failed

/-- A turn passes over an event that does not meet its contract, or hands one that does to its
recipients. -/
theorem Taken.passed_or_delivered {turn : Turn} (taken : scene.Taken events turn)
    (wellFormed : scene.WellFormed) :
    (∃ event fault, turn = .passed event fault ∧
      scene.checkEvent events scene.store event = .error fault) ∨
    ∃ event store output, turn = .delivered event (scene.handAll (scene.recipients event) store output).1 ∧
      scene.Meets store ∧ scene.checkEvent events scene.store event = .ok () := by
  obtain ⟨store, output, met, same⟩ := taken.exists_store
  rw [takeTurn, met.checkEvent wellFormed] at same
  cases checked : scene.checkEvent events scene.store turn.event with
  | error fault =>
    rw [checked] at same
    exact .inl ⟨_, fault, same, checked⟩
  | ok =>
    rw [checked] at same
    exact .inr ⟨_, store, output, same, met, checked⟩

/-- What was handed in a turn met its contract, and is what came of an invocation of a recipient. -/
theorem Taken.handed {turn : Turn} (taken : scene.Taken events turn) (wellFormed : scene.WellFormed) :
    ∀ handing ∈ turn.handings, scene.checkEvent events scene.store handing.event = .ok () ∧
      handing.enrolled ∈ scene.systems ∧
      handing.enrolled.system.listensTo handing.event.name = true ∧
      ∃ store output, scene.Meets store ∧
        handing.result = (scene.invoke handing.enrolled handing.event store output).1 := by
  intro handing member
  obtain ⟨event, fault, rfl, -⟩ | ⟨event, store, output, rfl, met, accepted⟩ :=
    taken.passed_or_delivered wellFormed
  · cases member
  · have listed : (handing.event, handing.enrolled) ∈ scene.recipients event := by
      rw [← scene.handAll_pairs (scene.recipients event) store output]
      exact List.mem_map_of_mem member
    obtain ⟨rfl, enrolled, listens⟩ := mem_recipients.mp listed
    obtain ⟨-, invoked⟩ := scene.handAll_meets (scene.recipients_enrolled _) met output
    exact ⟨accepted, enrolled, listens, invoked handing member⟩

theorem Taken.acted {turn : Turn} (taken : scene.Taken events turn) (wellFormed : scene.WellFormed)
    (covers : ∀ enrolled ∈ scene.systems, Catalog.Covers events enrolled.system) :
    ∀ handing ∈ turn.handings, scene.Acted handing := by
  intro handing member
  obtain ⟨accepted, enrolled, listens, store, output, met, result⟩ := taken.handed wellFormed handing member
  obtain ⟨refs, bound⟩ := met.binds wellFormed (covers _ enrolled) listens accepted
  refine ⟨store, output, refs, met, bound, ?_⟩
  rw [result, invoke_eq, bound]
  rfl

end Scene

def Course.Yields (course : Course) (event : Event) : Prop :=
  ∃ handing ∈ course.handings, event ∈ handing.followUps

namespace Scene

variable {scene : Scene} {events : Registry Contract} {event : Event}

theorem Descends.yields {course : Course} {sent : Event} {depth : Nat}
    (descends : Descends sent course.rounds depth event) : event = sent ∨ course.Yields event := by
  refine descends.imp And.right ?_
  rintro ⟨parent, member, -, found⟩
  obtain ⟨handing, handed, follows⟩ := List.mem_flatMap.mp found
  exact ⟨handing, List.mem_flatMap.mpr ⟨_, List.mem_map_of_mem member, handed⟩, follows⟩

/-- Who listens to an event is there when it is delivered, and does what it does. Nothing else goes wrong
but that a body fails, or that an event which follows does not meet its contract. -/
structure Attended (scene : Scene) (events : Registry Contract) (course : Course) : Prop where
  /-- Every delivered event is handed to all who listen to it. -/
  handed : course.handings.map (fun handing => (handing.event, handing.enrolled)) =
    course.report.dispatched.toList.flatMap scene.recipients
  /-- These handings, one after the other, are all that changes the store and the output. -/
  replayed : scene.handAll (course.report.dispatched.toList.flatMap scene.recipients) scene.store #[] =
    (course.handings, course.store, course.output)
  /-- None of them is refused what it asks of the event, at whatever point it asks. -/
  binds : ∀ event ∈ course.report.dispatched, ∀ enrolled ∈ scene.systems,
    enrolled.system.listensTo event.name = true → ∀ store, scene.Meets store →
      ∃ refs, store.bindRoles enrolled.system.roles event = .ok refs
  acted : ∀ handing ∈ course.handings, scene.Acted handing
  failures : ∀ failure ∈ course.report.failures,
    (∃ handing ∈ course.handings, handing.result = .error failure ∧
      ∃ cause, failure = .system handing.enrolled.system.name cause) ∨
    ∃ followUp fault, .passed followUp fault ∈ course.turns ∧ course.Yields followUp ∧
      failure = .refused fault ∧
      ∀ store, scene.Meets store → scene.checkEvent events store followUp = .error fault

theorem course_attended (wellFormed : scene.WellFormed)
    (covers : ∀ enrolled ∈ scene.systems, Catalog.Covers events enrolled.system)
    (accepted : scene.checkEvent events scene.store event = .ok ()) (count : Nat) :
    scene.Attended events (scene.course events event count) := by
  obtain ⟨-, taken⟩ := scene.course_taken events event count
  obtain ⟨-, descends⟩ := scene.course_descends events event count
  have handed := scene.course_handed events event count
  have replayed := scene.course_replayed events event count
  generalize scene.course events event count = course at taken descends handed replayed
  have acted : ∀ handing ∈ course.handings, scene.Acted handing := by
    intro handing member
    obtain ⟨turn, inside, handed⟩ := List.mem_flatMap.mp member
    exact (taken turn inside).acted wellFormed covers handing handed
  refine ⟨handed, replayed, ?_, acted, ?_⟩
  · intro delivered member enrolled among listens store met
    rw [← Array.mem_toList_iff, Course.dispatched_report] at member
    obtain ⟨turn, inside, here⟩ := List.mem_flatMap.mp member
    obtain ⟨_, fault, rfl, -⟩ | ⟨_, _, _, rfl, -, fine⟩ :=
      (taken turn inside).passed_or_delivered wellFormed
    · cases here
    · obtain rfl := List.mem_singleton.mp here
      exact met.binds wellFormed (covers enrolled among) listens fine
  · intro failure member
    rw [← Array.mem_toList_iff, Course.failures_report] at member
    obtain ⟨turn, inside, here⟩ := List.mem_flatMap.mp member
    obtain ⟨followUp, fault, rfl, refused⟩ | ⟨_, _, _, rfl, -, -⟩ :=
      (taken turn inside).passed_or_delivered wellFormed
    · refine .inr ⟨followUp, fault, inside, ?_, List.mem_singleton.mp here, ?_⟩
      · obtain ⟨round, played, same⟩ := List.mem_map.mp inside
        have origin := (descends round played).yields
        rw [same] at origin
        -- The sent event met its contract from the start.
        refine origin.resolve_left fun sent => ?_
        rw [show followUp = event from sent, accepted] at refused
        cases refused
      · exact fun store met => (met.checkEvent wellFormed events followUp).trans refused
    · obtain ⟨handing, handed, failed⟩ := List.mem_flatMap.mp here
      have among : handing ∈ course.handings := List.mem_flatMap.mpr ⟨_, inside, handed⟩
      exact .inl ⟨handing, among, (acted handing among).failure failed⟩

theorem perform_offered (command : Command) (wellFormed : scene.WellFormed) {enrolled : Enrolled}
    (member : enrolled ∈ (command.perform scene).2.systems) :
    enrolled ∈ scene.systems ∨ ∃ name catalog, command = .enroll name catalog ∧
      enrolled.system ∈ catalog.systems.entries := by
  rcases perform_agreesOutside command wellFormed with
    ⟨touched, agrees⟩ | ⟨limits, rfl⟩ | ⟨name, catalog, rfl⟩
  · exact .inl (agrees.systems ▸ member)
  · exact .inl member
  · cases answer : ((Command.enroll name catalog).perform scene).1 with
    | some fault => exact .inl ((refused_agreesOutside _ wellFormed answer).systems ▸ member)
    | none =>
      obtain ⟨_, ran⟩ := Operation.exists_of_not_refusal? answer
      obtain ⟨system, ids, store, found, -, -, -, after⟩ := enroll_ok ran
      rw [Command.perform, after] at member
      refine (List.mem_append.mp member).imp_right fun last => ⟨name, catalog, rfl, ?_⟩
      rw [List.mem_singleton.mp last]
      exact List.mem_of_find?_eq_some found

theorem after_offered (commands : List Command) {scene : Scene} (wellFormed : scene.WellFormed)
    {enrolled : Enrolled} (member : enrolled ∈ (scene.after commands).systems) :
    enrolled ∈ scene.systems ∨ ∃ name catalog, .enroll name catalog ∈ commands ∧
      enrolled.system ∈ catalog.systems.entries := by
  induction commands generalizing scene with
  | nil => exact .inl member
  | cons command rest ih =>
    rcases ih (perform_wellFormed command wellFormed) member with here | ⟨name, catalog, behind, put⟩
    · refine (perform_offered command wellFormed here).imp_right ?_
      rintro ⟨name, catalog, rfl, put⟩
      exact ⟨name, catalog, List.mem_cons_self, put⟩
    · exact .inr ⟨name, catalog, List.mem_cons_of_mem command behind, put⟩

/-- Whatever a host registered, in whatever order and with whatever success: in a scene whose systems were
all enrolled at some time on the way, a dispatch with the events of the catalog delivers every event to
whoever listens to it. At no depth is a system refused what it binds. -/
theorem after_attended (registrations : List Registration) (title : String) (limits : Limits)
    (commands : List Command)
    (enabled : ∀ enrolled ∈ ((empty title limits).after commands).systems, ∃ first,
      first <+: registrations ∧ enrolled.system ∈ (Catalog.empty.after first).systems.entries)
    (event : Event) (report : Report)
    (recorded : Report.ofResult? (((empty title limits).after commands).dispatch
      (Catalog.empty.after registrations).events event).result = some report) :
    let scene := (empty title limits).after commands
    let events := (Catalog.empty.after registrations).events
    ∃ count, scene.Follows events event (scene.dispatch events event) count ∧
      report = (scene.course events event count).report ∧
      scene.Attended events (scene.course events event count) := by
  intro scene events
  have wellFormed : scene.WellFormed := after_wellFormed title limits commands
  have covers : ∀ enrolled ∈ scene.systems, Catalog.Covers events enrolled.system := by
    intro enrolled member
    obtain ⟨first, ⟨later, rfl⟩, put⟩ := enabled enrolled member
    have kept := Catalog.mem_systems_after put later
    rw [← Catalog.after_append] at kept
    exact (Catalog.after_whole Catalog.empty_whole _).covers kept
  obtain ⟨accepted, count, follows, same⟩ := dispatch_recorded recorded
  exact ⟨count, follows, same, course_attended wellFormed covers accepted count⟩

/-! ### A wick -/

def wick : Component := .of "Wick" (.basic .boolean)

def kindle : System :=
  ⟨"kindle", [⟨"wick", ["Wick"]⟩], some ⟨"spark", [⟨"source", ["Wick"]⟩], .empty⟩,
    fun bound => .done [⟨"smoke", bound.event.targets, .empty⟩, ⟨"haze", [], .empty⟩]⟩

def douse : System :=
  ⟨"douse", [⟨"wick", ["Wick"]⟩], some ⟨"spark", [⟨"victim", ["Wick"]⟩], .empty⟩,
    fun _ => .fail (.host "dry")⟩

def wickRegistrations : List Registration :=
  [.component wick, .event ⟨"smoke", [⟨"source", ["Wick"]⟩], .empty⟩, .system kindle, .system douse]

def wickCommands : List Command :=
  [.create, .insert ⟨0⟩ wick (.boolean true),
    .enroll "kindle" (Catalog.empty.after (wickRegistrations.take 3)),
    .enroll "douse" (Catalog.empty.after wickRegistrations)]

theorem spark_attended :
    let scene := (empty "stage" .standard).after wickCommands
    let events := (Catalog.empty.after wickRegistrations).events
    let spark : Event := ⟨"spark", [⟨0⟩], .empty⟩
    let report : Report := ⟨#[spark, ⟨"smoke", [⟨0⟩], .empty⟩], 1,
      #[.system "douse" (.host "dry"), .refused (.unregisteredEvent "haze")]⟩
    (∀ enrolled ∈ scene.systems, ∃ first, first <+: wickRegistrations ∧
      enrolled.system ∈ (Catalog.empty.after first).systems.entries) ∧
    Report.ofResult? (scene.dispatch events spark).result = some report ∧
    ∃ count, scene.Follows events spark (scene.dispatch events spark) count ∧
      report = (scene.course events spark count).report ∧
      scene.Attended events (scene.course events spark count) := by
  intro scene events spark report
  have enabled : ∀ enrolled ∈ scene.systems, ∃ first, first <+: wickRegistrations ∧
      enrolled.system ∈ (Catalog.empty.after first).systems.entries := by
    intro enrolled member
    rcases after_offered wickCommands (empty_wellFormed _ _) member with
      nobody | ⟨name, catalog, asked, put⟩
    · cases nobody
    · simp only [wickCommands, List.mem_cons, List.not_mem_nil, reduceCtorEq, Command.enroll.injEq,
        or_false, false_or] at asked
      obtain ⟨-, rfl⟩ | ⟨-, rfl⟩ := asked
      · exact ⟨_, List.take_prefix _ _, put⟩
      · exact ⟨_, List.prefix_refl _, put⟩
  have recorded : Report.ofResult? (scene.dispatch events spark).result = some report := by
    decide +kernel
  exact ⟨enabled, recorded, after_attended wickRegistrations _ _ wickCommands enabled spark report recorded⟩

end Scene

end Stagecraft
