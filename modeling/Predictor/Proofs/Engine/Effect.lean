import Predictor.Proofs.Engine.Transition

/-!
What a move does to the admissions: nothing (`inert`), or an admission begins (`occupy`), goes
along with a task that moves on (`carry`), passes from a submission to its unit of work (`launch`),
or is given back (`finish`). Every move of the engine is a chain of such effects, so what these five
keep holds in every reachable state (`Reachable.of_effects`).
-/

namespace Predictor.Engine

open Telemetry

variable {σ : Type}

/-- A task that holds an admission moves on with it; the events are those it logs. -/
inductive Carries : Task → Task → List Event → Prop
  | creating (submission : Submission) (g g' : Bool) :
      Carries (.submit submission (.creating g)) (.submit submission (.creating g')) []
  | called (w : Work) (g : Bool) : Carries (.work w .new) (.work w (.classifying g)) []
  | classifying (w : Work) (g g' : Bool) :
      Carries (.work w (.classifying g)) (.work w (.classifying g')) []
  | answered (w : Work) (g g' : Bool) (label : Label) :
      Carries (.work w (.classifying g)) (.work w (.finalizing (.classified label) g')) []
  | unanswered (w : Work) (g g' : Bool) (error : ClassifyError) :
      Carries (.work w (.classifying g)) (.work w (.finalizing (.failed error.message) g'))
        [⟨.classificationFailed error, some (w.span none)⟩]
  | finalizing (w : Work) (outcome : Outcome) (g g' : Bool) :
      Carries (.work w (.finalizing outcome g)) (.work w (.finalizing outcome g')) []

/-- A task that holds an admission ends and gives it back; the events are those it logs. -/
inductive Finishes : Task → Task → List Event → Prop
  | rolledBack (submission : Submission) (g : Bool) (error : Error) :
      Finishes (.submit submission (.creating g))
        (.submit submission (.done (.returned (.error error))))
        [⟨.released submission.resource, none⟩, ⟨.creationFailed submission.resource error, none⟩]
  | createPanicked (submission : Submission) (g : Bool) :
      Finishes (.submit submission (.creating g)) (.submit submission (.done .panicked))
        [⟨.released submission.resource, none⟩]
  | cancelled (submission : Submission) (g : Bool) :
      Finishes (.submit submission (.creating g)) (.submit submission (.done .cancelled))
        [⟨.released submission.resource, none⟩]
  | classifyPanicked (w : Work) (g : Bool) :
      Finishes (.work w (.classifying g)) (.work w (.done true))
        [⟨.released w.resource, some (w.span none)⟩]
  | finalizePanicked (w : Work) (outcome : Outcome) (g : Bool) :
      Finishes (.work w (.finalizing outcome g)) (.work w (.done true))
        [⟨.released w.resource, some (w.span none)⟩]
  | written (w : Work) (outcome : Outcome) (g : Bool) :
      Finishes (.work w (.finalizing outcome g)) (.work w (.done false))
        [⟨.statusTransition outcome.status, some (w.span (some outcome.status))⟩,
          ⟨.released w.resource, some (w.span (some outcome.status))⟩]
  | unwritten (w : Work) (outcome : Outcome) (g : Bool) (error : Error) :
      Finishes (.work w (.finalizing outcome g)) (.work w (.done false))
        [⟨.finalizationFailed w.id w.resource error, some (w.span none)⟩,
          ⟨.released w.resource, some (w.span none)⟩]

/-- The resource that a task is about. -/
def Task.resource? : Task → Option String
  | .submit submission _ => some submission.resource
  | .work w _ => some w.resource
  | .drain _ => none

def Task.isFinishedWork : Task → Bool
  | .work _ (.done _) => true
  | _ => false

def Task.isFinished : Task → Bool
  | .submit _ (.done _) | .work _ (.done _) => true
  | _ => false

/-- Admissions taken (`true`) or given back (`false`) so far. -/
def State.turns (s : State σ) (up : Bool) : Nat := s.measured.count (.inFlight up)

inductive Effect : State σ → State σ → Prop
  | inert {s s' : State σ}
      (admission : s'.admission = s.admission ∨
        s.admission.atCapacity = false ∧ s'.admission = s.admission.reserve.unreserve)
      (entrants : s'.entrants = s.entrants) (turns : ∀ up, s'.turns up = s.turns up)
      (events : s'.events = s.events)
      (kept : ∀ (t : TaskId) (task : Task), s.tasks[t]? = some task →
        task.held?.isSome ∨ task.isFinished → s'.tasks[t]? = some task)
      (old : ∀ (t : TaskId) (task : Task), s'.tasks[t]? = some task →
        task.held?.isSome ∨ task.isFinishedWork → s.tasks[t]? = some task) :
      Effect s s'
  | occupy {s s' : State σ} {t : TaskId} {submission : Submission}
      (here : s.tasks[t]? = some (.submit submission .new))
      (free : s.admission.atCapacity = false)
      (claims : s.admission.reserve.claim? submission.resource = some s'.admission)
      (tasks : s'.tasks = s.tasks.set t (.submit submission (.creating true)))
      (entrants : s'.entrants = s.entrants ++ [t])
      (up : s'.turns true = s.turns true + 1) (down : s'.turns false = s.turns false)
      (events : s'.events = s.events) : Effect s s'
  | carry {s s' : State σ} {t : TaskId} {old new : Task} {es : List Event}
      (here : s.tasks[t]? = some old) (carries : Carries old new es)
      (admission : s'.admission = s.admission) (tasks : s'.tasks = s.tasks.set t new)
      (entrants : s'.entrants = s.entrants) (turns : ∀ up, s'.turns up = s.turns up)
      (events : s'.events = s.events ++ es) : Effect s s'
  | launch {s s' : State σ} {t : TaskId} {submission : Submission} {record : Prediction} {w : Work}
      (here : s.tasks[t]? = some (.submit submission (.creating true)))
      (resource : w.resource = submission.resource)
      (admission : s'.admission = s.admission)
      (tasks : s'.tasks =
        s.tasks.set t (.submit submission (.done (.returned (.ok record)))) ++ [.work w .new])
      (entrants : s'.entrants = s.entrants) (turns : ∀ up, s'.turns up = s.turns up)
      (events : s'.events = s.events ++ [⟨.admitted w.id w.resource submission.owner, none⟩]) :
      Effect s s'
  | finish {s s' : State σ} {t : TaskId} {old new : Task} {resource : String} {es : List Event}
      (here : s.tasks[t]? = some old) (finishes : Finishes old new es)
      (held : old.held? = some resource) (admission : s'.admission = s.admission.release resource)
      (tasks : s'.tasks = s.tasks.set t new) (entrants : s'.entrants = s.entrants)
      (up : s'.turns true = s.turns true) (down : s'.turns false = s.turns false + 1)
      (events : s'.events = s.events ++ es) : Effect s s'

theorem turns_add {s s' : State σ} (ms : List Measurement) (h : s'.measured = s.measured ++ ms)
    (up : Bool) : s'.turns up = s.turns up + ms.count (.inFlight up) := by
  rw [State.turns, h, List.count_append, State.turns]

/-! ## The effect of each move -/

/-- A task that holds nothing is replaced by one that holds nothing. -/
theorem Effect.inert_set {s s' : State σ} {t : TaskId} {before after : Task}
    (here : s.tasks[t]? = some before) (tasks : s'.tasks = s.tasks.set t after)
    (admission : s'.admission = s.admission ∨
      s.admission.atCapacity = false ∧ s'.admission = s.admission.reserve.unreserve)
    (entrants : s'.entrants = s.entrants) (turns : ∀ up, s'.turns up = s.turns up)
    (events : s'.events = s.events)
    (hbefore : before.held? = none ∧ before.isFinished = false)
    (hafter : after.held? = none ∧ after.isFinishedWork = false) : Effect s s' := by
  refine .inert admission entrants turns events (fun i task hi hheld => ?_) (fun i task hi hheld => ?_)
  · rw [getElem?_of_set_ne tasks, hi]
    rintro rfl
    obtain rfl := Option.some.inj (here.symm.trans hi)
    simp [hbefore] at hheld
  · rcases cases_of_set tasks hi with ⟨-, rfl⟩ | ⟨-, hold⟩
    · simp [hafter] at hheld
    · exact hold

/-- A task that holds nothing is added. -/
theorem Effect.inert_spawn {s s' : State σ} {after : Task} (tasks : s'.tasks = s.tasks ++ [after])
    (admission : s'.admission = s.admission) (entrants : s'.entrants = s.entrants)
    (turns : ∀ up, s'.turns up = s.turns up) (events : s'.events = s.events)
    (hafter : after.held? = none ∧ after.isFinishedWork = false) : Effect s s' := by
  refine .inert (.inl admission) entrants turns events (fun i task hi _ => getElem?_of_append tasks hi)
    fun i task hi hheld => ?_
  rcases cases_of_append tasks hi with ⟨-, rfl⟩ | hold
  · simp [hafter] at hheld
  · exact hold

/-- Nothing but the rest of the state changes. -/
theorem Effect.inert_eq {s s' : State σ} (tasks : s'.tasks = s.tasks)
    (admission : s'.admission = s.admission) (entrants : s'.entrants = s.entrants)
    (measured : s'.measured = s.measured) (events : s'.events = s.events) : Effect s s' :=
  .inert (.inl admission) entrants (fun up => by rw [State.turns, measured, State.turns]) events
    (fun _ _ hi _ => by rw [tasks, hi]) (fun _ _ hi _ => by rw [← tasks, hi])

theorem tasks_grant {s : State σ} {t : TaskId} {old : Task} (here : s.tasks[t]? = some old) :
    (s.grant t).tasks = s.tasks.set t old.grant := by
  let _ : Inhabited Task := ⟨old⟩
  simp [State.grant, List.modify_eq_set, here]

theorem effect_grant (s : State σ) (t : TaskId) : Effect s (s.grant t) := by
  cases here : s.tasks[t]? with
  | none =>
    refine .inert_eq ?_ rfl rfl rfl rfl
    exact List.modify_eq_self (List.getElem?_eq_none_iff.1 here)
  | some task =>
    have htasks := tasks_grant here
    have turns : ∀ up, (s.grant t).turns up = s.turns up := fun _ => rfl
    have events : (s.grant t).events = s.events ++ [] := (List.append_nil _).symm
    match task with
    | .submit submission (.creating g) =>
      exact .carry here (.creating submission g true) rfl htasks rfl turns events
    | .work w (.classifying g) => exact .carry here (.classifying w g true) rfl htasks rfl turns events
    | .work w (.finalizing outcome g) =>
      exact .carry here (.finalizing w outcome g true) rfl htasks rfl turns events
    | .submit _ .new | .submit _ (.done _) | .work _ .new | .work _ (.done _) | .drain _ =>
      exact .inert_eq (htasks.trans (set_same here)) rfl rfl rfl rfl

theorem effect_advance {t : TaskId} {s s' : State σ} (h : Advance t s s') : Effect s s' := by
  cases h with
  | occupy here _ free claims =>
    exact .occupy here free claims rfl rfl (turns_add [.inFlight true] rfl true)
      (turns_add [.inFlight true] rfl false) rfl
  | createPermit => exact .inert_eq rfl rfl rfl rfl rfl
  | call here =>
    exact .carry here (.called _ true) rfl rfl rfl (fun _ => rfl) (List.append_nil _).symm
  | answered here =>
    exact .carry here (.answered _ true true _) rfl rfl rfl (turns_add [.classified none] rfl)
      (List.append_nil _).symm
  | unanswered here =>
    rw [unanswered_eq]
    exact .carry here (.unanswered _ true true _) rfl rfl rfl (turns_add [.classified _] rfl) rfl
  | finalizePermit => exact .inert_eq rfl rfl rfl rfl rfl

theorem effect_grantNext (s : State σ) (t : Option TaskId) :
    Relation.ReflTransGen Effect s (s.grantNext t) := by
  cases t with
  | none => exact .refl
  | some t => exact .single (effect_grant s t)

theorem effect_grants (s : State σ) (through : List TaskId) :
    Relation.ReflTransGen Effect s (through.foldl State.grant s) := by
  induction through generalizing s with
  | nil => exact .refl
  | cons t rest ih => exact .head (effect_grant s t) (ih (s.grant t))

variable [PredictionStore σ]

theorem effect_halt {t : TaskId} {s s' : State σ} (h : Halt t s s') : Effect s s' := by
  cases h with
  | asleep => exact .inert_eq rfl rfl rfl rfl rfl
  | unnamed here =>
    exact .inert_set here rfl (.inl rfl) rfl (turns_add [.submitted _] rfl) rfl ⟨rfl, rfl⟩ ⟨rfl, rfl⟩
  | full here =>
    exact .inert_set here rfl (.inl rfl) rfl (turns_add [.submitted _] rfl) rfl ⟨rfl, rfl⟩ ⟨rfl, rfl⟩
  | duplicate here _ free =>
    exact .inert_set here rfl (.inr ⟨free, rfl⟩) rfl (turns_add [.submitted _] rfl) rfl ⟨rfl, rfl⟩
      ⟨rfl, rfl⟩
  | launched here =>
    exact .launch here rfl rfl rfl rfl (turns_add [.submitted _] rfl) rfl
  | rolledBack here =>
    have measured := List.append_assoc s.measured [.inFlight false] [.submitted .error]
    exact .finish here (.rolledBack _ true _) rfl rfl rfl rfl
      (turns_add [.inFlight false, .submitted .error] measured true)
      (turns_add [.inFlight false, .submitted .error] measured false) (List.append_assoc _ _ _)
  | createPanicked here =>
    exact .finish here (.createPanicked _ true) rfl rfl rfl rfl
      (turns_add [.inFlight false] rfl true) (turns_add [.inFlight false] rfl false) rfl
  | createHeld here =>
    exact .carry here (.creating _ true false) rfl rfl rfl (fun _ => rfl) (List.append_nil _).symm
  | gateHeld here =>
    exact .carry here (.called _ false) rfl rfl rfl (fun _ => rfl) (List.append_nil _).symm
  | classifyPanicked here =>
    exact .finish here (.classifyPanicked _ true) rfl rfl rfl rfl
      (turns_add [.inFlight false] rfl true) (turns_add [.inFlight false] rfl false) rfl
  | finalizePanicked here =>
    exact .finish here (.finalizePanicked _ _ true) rfl rfl rfl rfl
      (turns_add [.inFlight false] rfl true) (turns_add [.inFlight false] rfl false) rfl
  | @written w outcome _ here =>
    have measured := List.append_assoc s.measured [.finalized outcome.status] [.inFlight false]
    exact .finish here (.written w outcome true) rfl rfl rfl rfl
      (turns_add [.finalized outcome.status, .inFlight false] measured true)
      (turns_add [.finalized outcome.status, .inFlight false] measured false)
      (List.append_assoc _ _ _)
  | unwritten here =>
    have measured := List.append_assoc s.measured [.finalizeFailure] [.inFlight false]
    exact .finish here (.unwritten _ _ true _) rfl rfl rfl rfl
      (turns_add [.finalizeFailure, .inFlight false] measured true)
      (turns_add [.finalizeFailure, .inFlight false] measured false) (List.append_assoc _ _ _)
  | finalizeHeld here =>
    exact .carry here (.finalizing _ _ true false) rfl rfl rfl (fun _ => rfl) (List.append_nil _).symm
  | checked here =>
    unfold State.checkIdle
    split
    · exact .inert_set here rfl (.inl rfl) rfl (fun _ => rfl) rfl ⟨rfl, rfl⟩ ⟨rfl, rfl⟩
    · exact .inert_set here rfl (.inl rfl) rfl (fun _ => rfl) rfl ⟨rfl, rfl⟩ ⟨rfl, rfl⟩

theorem effect_outside {s s' : State σ} (h : Outside s s') : Relation.ReflTransGen Effect s s' := by
  cases h with
  | submit submission => exact .single (.inert_spawn rfl rfl rfl (fun _ => rfl) rfl ⟨rfl, rfl⟩)
  | drain => exact .single (.inert_spawn rfl rfl rfl (fun _ => rfl) rfl ⟨rfl, rfl⟩)
  | cancelNew here =>
    exact .single (.inert_set here rfl (.inl rfl) rfl (fun _ => rfl) rfl ⟨rfl, rfl⟩ ⟨rfl, rfl⟩)
  | cancelWaiting here =>
    exact .single (.finish here (.cancelled _ false) rfl rfl rfl rfl
      (turns_add [.inFlight false] rfl true) (turns_add [.inFlight false] rfl false) rfl)
  | cancelGranted here =>
    exact .single (.finish here (.cancelled _ true) rfl rfl rfl rfl
      (turns_add [.inFlight false] rfl true) (turns_add [.inFlight false] rfl false) rfl)
  | passCreate =>
    have first : Effect s (s.withCreatePermits s.surroundings.createPermits.add.2) :=
      .inert_eq rfl rfl rfl rfl rfl
    exact .head first (effect_grantNext _ _)
  | passFinalize =>
    have first : Effect s (s.withFinalizePermits s.surroundings.finalizePermits.add.2) :=
      .inert_eq rfl rfl rfl rfl rfl
    exact .head first (effect_grantNext _ _)
  | @passGate _ _ gates =>
    have first : Effect s (s.withGates gates) := .inert_eq rfl rfl rfl rfl rfl
    exact .head first (effect_grantNext _ _)
  | @openGates through gates =>
    have first : Effect s (s.withGates gates) := .inert_eq rfl rfl rfl rfl rfl
    exact .head first (effect_grants _ through)
  | behave | setCreateMode | setFinalizeMode | setCreatePassage | setFinalizePassage | createDirectly
  | finalizeDirectly =>
    exact .single (.inert_eq rfl rfl rfl rfl rfl)

theorem effect_transition {s s' : State σ} (h : Transition s s') :
    Relation.ReflTransGen Effect s s' := by
  cases h with
  | take => exact .single (.inert_eq rfl rfl rfl rfl rfl)
  | advance h => exact .single (effect_advance h)
  | halt h => exact .single (effect_halt h)
  | outside h => exact effect_outside h

/-- What every effect keeps holds in every reachable state, if it holds at the start. -/
theorem Reachable.of_effects {P : State σ → Prop} {initial s : State σ} (start : P initial)
    (kept : ∀ {r r' : State σ}, Effect r r' → P r → P r') (h : Reachable initial s) : P s := by
  refine h.invariant start fun hmove hr => ?_
  have chain := effect_transition hmove
  clear hmove
  induction chain with
  | refl => exact hr
  | tail _ last ih => exact kept last ih

end Predictor.Engine
