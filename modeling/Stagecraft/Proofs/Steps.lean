import Mathlib.Data.List.Forall2
import Stagecraft.Operation

/-!
Steps: chains of what may be refused, one link after the other. What runs after a refusal is skipped, and
what an operation did before it stays.
-/

namespace Stagecraft

theorem bind_ok {ε α β : Type} {first : Except ε α} {next : α → Except ε β} {result : β}
    (succeeded : (first >>= next) = .ok result) :
    ∃ middle, first = .ok middle ∧ next middle = .ok result := by
  cases first with
  | error fault => cases succeeded
  | ok middle => exact ⟨middle, rfl, succeeded⟩

theorem bind_error {ε α β : Type} {first : Except ε α} {next : α → Except ε β} {fault : ε}
    (failed : (first >>= next) = .error fault) :
    first = .error fault ∨ ∃ middle, first = .ok middle ∧ next middle = .error fault := by
  cases first with
  | error reason =>
    cases failed
    exact .inl rfl
  | ok middle => exact .inr ⟨middle, rfl, failed⟩

theorem exists_ok_of_isOk {ε α : Type} {attempt : Except ε α} (succeeded : attempt.isOk = true) :
    ∃ result, attempt = .ok result := by
  cases attempt with
  | error fault => cases succeeded
  | ok result => exact ⟨result, rfl⟩

theorem mapError_ok {ε δ α : Type} {change : ε → δ} {result : Except ε α} {value : α}
    (succeeded : result.mapError change = .ok value) : result = .ok value := by
  cases result with
  | error fault => cases succeeded
  | ok found =>
    cases succeeded
    rfl

/-! ### Lists that are related member by member -/

section Related

variable {α β : Type} {related : α → β → Prop} {members : List α} {images : List β}

theorem getElem?_of_forall₂ (every : List.Forall₂ related members images) {place : Nat} {member : α}
    (found : members[place]? = some member) :
    ∃ image, images[place]? = some image ∧ related member image := by
  induction every generalizing place with
  | nil => cases found
  | @cons first image _ _ here _ ih =>
    cases place with
    | zero =>
      cases found
      exact ⟨image, rfl, here⟩
    | succ place => exact ih found

theorem exists_image_of_forall₂ (every : List.Forall₂ related members images) {member : α}
    (inside : member ∈ members) : ∃ image ∈ images, related member image := by
  obtain ⟨place, found⟩ := List.mem_iff_getElem?.mp inside
  obtain ⟨image, there, here⟩ := getElem?_of_forall₂ every found
  exact ⟨image, List.mem_of_getElem? there, here⟩

theorem exists_member_of_forall₂ (every : List.Forall₂ related members images) {image : β}
    (inside : image ∈ images) : ∃ member ∈ members, related member image :=
  exists_image_of_forall₂ (List.Forall₂.flip (R := flip related) every) inside

end Related

theorem mapM_ok_iff {ε α β : Type} {step : α → Except ε β} {members : List α} {results : List β} :
    members.mapM step = .ok results ↔
      List.Forall₂ (fun member result => step member = .ok result) members results := by
  induction members generalizing results with
  | nil =>
    rw [List.mapM_nil, List.forall₂_nil_left_iff]
    simp [pure, Except.pure, eq_comm]
  | cons member rest ih =>
    rw [List.mapM_cons, List.forall₂_cons_left_iff]
    constructor
    · intro succeeded
      obtain ⟨result, first, succeeded⟩ := bind_ok succeeded
      obtain ⟨others, second, succeeded⟩ := bind_ok succeeded
      cases succeeded
      exact ⟨result, others, first, ih.mp second, rfl⟩
    · rintro ⟨result, others, first, second, rfl⟩
      rw [first, ih.mpr second]
      rfl

theorem mapM_congr {ε α β : Type} {step other : α → Except ε β} {members : List α}
    (same : ∀ member ∈ members, step member = other member) :
    members.mapM step = members.mapM other := by
  induction members with
  | nil => rfl
  | cons member rest ih =>
    rw [List.mapM_cons, List.mapM_cons, same member List.mem_cons_self,
      ih (fun member behind => same member (List.mem_cons_of_mem _ behind))]

theorem mem_mapM_iff {ε α β : Type} {step : α → Except ε β} {members : List α} {results : List β}
    (succeeded : members.mapM step = .ok results) {result : β} :
    result ∈ results ↔ ∃ member ∈ members, step member = .ok result := by
  rw [mapM_ok_iff] at succeeded
  induction succeeded with
  | nil => simp
  | @cons member first rest others here _ ih =>
    rw [List.mem_cons, ih]
    simp [here, eq_comm]

theorem exists_mapM_iff {ε α β : Type} {step : α → Except ε β} {members : List α} :
    (∃ results, members.mapM step = .ok results) ↔
      ∀ member ∈ members, ∃ result, step member = .ok result := by
  induction members with
  | nil => exact iff_of_true ⟨[], rfl⟩ nofun
  | cons member rest ih =>
    rw [List.forall_mem_cons, ← ih, List.mapM_cons]
    constructor
    · rintro ⟨results, succeeded⟩
      obtain ⟨result, first, succeeded⟩ := bind_ok succeeded
      obtain ⟨others, second, -⟩ := bind_ok succeeded
      exact ⟨⟨result, first⟩, ⟨others, second⟩⟩
    · rintro ⟨⟨result, first⟩, ⟨others, second⟩⟩
      exact ⟨result :: others, by rw [first, second]; rfl⟩

namespace Operation

variable {σ τ α β : Type}

theorem bind_apply (operation : Operation σ α) (next : α → Operation σ β) (state : σ) :
    (operation >>= next) state = match operation state with
      | (.ok result, later) => next result later
      | (.error fault, later) => (.error fault, later) := by
  have unfolded : (operation >>= next) state =
      ExceptT.bindCont next (operation state).1 (operation state).2 := rfl
  rw [unfolded]
  rcases operation state with ⟨fault | result, later⟩ <;> rfl

theorem map_apply (change : α → β) (operation : Operation σ α) (state : σ) :
    (change <$> operation) state = ((operation state).1.map change, (operation state).2) := by
  rw [← bind_pure_comp, bind_apply]
  rcases operation state with ⟨fault | result, later⟩ <;> rfl

theorem get_bind_apply (next : σ → Operation σ β) (state : σ) :
    (get >>= next : Operation σ β) state = next state state := rfl

theorem liftM_bind_apply (result : Except Fault α) (next : α → Operation σ β) (state : σ) :
    ((liftM result : Operation σ α) >>= next) state = match result with
      | .ok found => next found state
      | .error fault => (.error fault, state) := by
  cases result <;> rfl

def Keeps (holds : σ → Prop) (operation : Operation σ α) : Prop :=
  ∀ state, holds state → holds (operation state).2

namespace Keeps

variable {holds : σ → Prop}

theorem pure (result : α) : Keeps holds (Pure.pure result : Operation σ α) :=
  fun _ before => before

theorem throw (fault : Fault) : Keeps holds (throw fault : Operation σ α) :=
  fun _ before => before

theorem bind {operation : Operation σ α} {next : α → Operation σ β}
    (first : Keeps holds operation) (second : ∀ result, Keeps holds (next result)) :
    Keeps holds (operation >>= next) := by
  intro state before
  have middle := first state before
  rw [bind_apply]
  split
  · next result later ran =>
    rw [ran] at middle
    exact second result later middle
  · next fault later ran =>
    rw [ran] at middle
    exact middle

theorem mapM {step : α → Operation σ β} {members : List α}
    (each : ∀ member ∈ members, Keeps holds (step member)) : Keeps holds (members.mapM step) := by
  induction members with
  | nil =>
    rw [List.mapM_nil]
    exact pure []
  | cons member rest ih =>
    rw [List.mapM_cons]
    exact bind (each member List.mem_cons_self)
      (fun _ => bind (ih (fun other behind => each other (List.mem_cons_of_mem member behind)))
        (fun _ => pure _))

end Keeps

end Operation

end Stagecraft
