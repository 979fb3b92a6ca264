import Stagecraft.Behavior

/-!
Requests: what a behavior asks for on its way to its end, and the situations that it comes through. They tell
two behaviors apart that end alike, and they tell how far one behavior goes along with another.
-/

namespace Stagecraft

namespace Request

def isWrite : Request → Bool
  | write _ _ _ => true
  | _ => false

end Request

namespace Behavior

variable {ε α β : Type}

def requests : Behavior ε α → Situation → List Request
  | done _, _ => []
  | fail _, _ => []
  | ask request next, situation =>
    request :: requests (next (situation.answer request).1) (situation.answer request).2

def situations : Behavior ε α → Situation → List Situation
  | done _, situation => [situation]
  | fail _, situation => [situation]
  | ask request next, situation =>
    situation :: situations (next (situation.answer request).1) (situation.answer request).2

theorem run_mem_situations (behavior : Behavior ε α) (situation : Situation) :
    (behavior.run situation).2 ∈ behavior.situations situation := by
  induction behavior generalizing situation with
  | done | fail => exact List.mem_cons_self
  | ask request next ih => exact List.mem_cons_of_mem _ (ih _ _)

theorem mem_situations_bind {behavior : Behavior ε α} {next : α → Behavior ε β}
    {situation passed : Situation} (member : passed ∈ (behavior.bind next).situations situation) :
    passed ∈ behavior.situations situation ∨ ∃ result later,
      behavior.run situation = (.ok result, later) ∧ passed ∈ (next result).situations later := by
  induction behavior generalizing situation with
  | done result => exact .inr ⟨result, situation, rfl, member⟩
  | fail => exact .inl member
  | ask request rest ih =>
    rcases List.mem_cons.mp member with rfl | behind
    · exact .inl List.mem_cons_self
    · exact (ih _ behind).imp_left (List.mem_cons_of_mem _)

theorem situations_mapReason {δ : Type} (change : ε → δ) (behavior : Behavior ε α) (situation : Situation) :
    (behavior.mapReason change).situations situation = behavior.situations situation := by
  induction behavior generalizing situation with
  | done | fail => rfl
  | ask request next ih => rw [mapReason, situations, situations, ih]

/-! ### Paths -/

inductive Takes : Behavior ε α → List Request → Except ε α → Prop
  | done (result : α) : Takes (.done result) [] (.ok result)
  | fail (reason : ε) : Takes (.fail reason) [] (.error reason)
  | ask {request : Request} {next : request.Answer → Behavior ε α} {requests : List Request}
      {ending : Except ε α} (answer : request.Answer) (rest : Takes (next answer) requests ending) :
      Takes (.ask request next) (request :: requests) ending

theorem takes_run (behavior : Behavior ε α) (situation : Situation) :
    behavior.Takes (behavior.requests situation) (behavior.run situation).1 := by
  induction behavior generalizing situation with
  | done result => exact .done result
  | fail reason => exact .fail reason
  | ask request next ih => exact .ask _ (ih _ _)

/-- A way through two behaviors is one through the first and then one through the second. -/
theorem Takes.of_bind {behavior : Behavior ε α} {next : α → Behavior ε β} {requests : List Request}
    {ending : Except ε β} (takes : (behavior.bind next).Takes requests ending) :
    (∃ first second result, requests = first ++ second ∧ behavior.Takes first (.ok result) ∧
      (next result).Takes second ending) ∨
    ∃ reason, ending = .error reason ∧ behavior.Takes requests (.error reason) := by
  induction behavior generalizing requests with
  | done result => exact .inl ⟨[], requests, result, rfl, .done result, takes⟩
  | fail reason =>
    cases takes
    exact .inr ⟨reason, rfl, .fail reason⟩
  | ask request rest ih =>
    cases takes with
    | ask answer takes =>
      rcases ih answer takes with ⟨first, second, result, rfl, ended, later⟩ | ⟨reason, rfl, failed⟩
      · exact .inl ⟨request :: first, second, result, rfl, .ask answer ended, later⟩
      · exact .inr ⟨reason, rfl, .ask answer failed⟩

/-- What comes after a behavior matters for the results that it may have. -/
theorem bind_congr {behavior : Behavior ε α} {next other : α → Behavior ε β}
    (same : ∀ requests result, behavior.Takes requests (.ok result) → next result = other result) :
    behavior.bind next = behavior.bind other := by
  induction behavior with
  | done result => exact same [] result (.done result)
  | fail => rfl
  | ask request rest ih =>
    rw [bind, bind]
    congr 1
    funext answer
    exact ih answer (fun requests result takes => same _ result (.ask answer takes))

/-! ### Cuts -/

/-- One behavior is another one that was cut in places: there it ends for the given reason. -/
inductive CutOf (reason : ε) : Behavior ε α → Behavior ε α → Prop
  | cut (whole : Behavior ε α) : CutOf reason (.fail reason) whole
  | done (result : α) : CutOf reason (.done result) (.done result)
  | fail (other : ε) : CutOf reason (.fail other) (.fail other)
  | ask {request : Request} {next whole : request.Answer → Behavior ε α}
      (rest : ∀ answer, CutOf reason (next answer) (whole answer)) :
      CutOf reason (.ask request next) (.ask request whole)

namespace CutOf

variable {reason : ε}

theorem refl (behavior : Behavior ε α) : behavior.CutOf reason behavior := by
  induction behavior with
  | done result => exact .done result
  | fail other => exact .fail other
  | ask request next ih => exact .ask ih

theorem bind {one other : Behavior ε α} {next whole : α → Behavior ε β} (first : one.CutOf reason other)
    (second : ∀ result, (next result).CutOf reason (whole result)) :
    (one.bind next).CutOf reason (other.bind whole) := by
  induction first with
  | cut => exact .cut _
  | done result => exact second result
  | fail other => exact .fail other
  | ask _ ih => exact .ask ih

end CutOf

end Behavior

end Stagecraft
