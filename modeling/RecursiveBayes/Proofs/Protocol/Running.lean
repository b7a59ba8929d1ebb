/-
This file runs actions. Running an action on a state gives its outcome together
with the state that it leaves behind, also when it fails. A sequence of actions
runs the later ones on the state of the earlier ones and stops at the first
failure, so whatever every single step keeps, a whole list of steps keeps as well.
-/

import Mathlib.Data.List.Forall2
import RecursiveBayes.Protocol.Run

namespace RecursiveBayes

variable {α σ ε β γ : Type}

/-! ### Outcomes -/

theorem ok_bind (value : β) (next : β → Except ε γ) :
    ((.ok value : Except ε β) >>= next) = next value := rfl

theorem exists_eq_ok_of_isOk {outcome : Except ε β} (accepted : outcome.isOk = true) :
    ∃ value, outcome = .ok value := by
  cases outcome with
  | error cause => cases accepted
  | ok value => exact ⟨value, rfl⟩

/-- What succeeds in two steps succeeds in the first one, and then in the second one. -/
theorem bind_eq_ok_iff {first : Except ε β} {next : β → Except ε γ} {result : γ} :
    (first >>= next) = .ok result ↔ ∃ value, first = .ok value ∧ next value = .ok result := by
  cases first with
  | error cause => exact ⟨fun same => (nomatch same), fun ⟨_, same, _⟩ => (nomatch same)⟩
  | ok value =>
    constructor
    · exact fun same => ⟨value, rfl, same⟩
    · rintro ⟨_, same, succeeds⟩
      cases same
      exact succeeds

/-- What was built is a result, and a result comes from what was built. -/
theorem lift_eq_ok_iff {built : Built α β} {value : β} :
    (liftM built : Outcome α β) = .ok value ↔ built = .ok value := by
  cases built with
  | error fault => exact ⟨fun same => (nomatch same), fun same => (nomatch same)⟩
  | ok made => exact ⟨fun same => congrArg _ (Except.ok.inj same), fun same => by rw [same]; rfl⟩

/-- A list of checks succeeds exactly if every check does. -/
theorem forM_eq_ok_iff {items : List γ} {check : γ → Except ε Unit} :
    items.forM check = .ok () ↔ ∀ item ∈ items, check item = .ok () := by
  induction items with
  | nil => exact ⟨fun _ item member => absurd member List.not_mem_nil, fun _ => rfl⟩
  | cons item rest inductionHypothesis =>
    show (check item >>= fun _ => rest.forM check) = _ ↔ _
    rw [bind_eq_ok_iff, List.forall_mem_cons, ← inductionHypothesis]
    exact ⟨fun ⟨_, first, others⟩ => ⟨first, others⟩, fun both => ⟨(), both⟩⟩

/-- A result, unless there is a failure. -/
def succeedUnless (failure? : Option ε) (value : β) : Except ε β :=
  match failure? with
  | some cause => .error cause
  | none => .ok value

theorem succeedUnless_eq_ok_iff {failure? : Option ε} {value result : β} :
    succeedUnless failure? value = .ok result ↔ failure? = none ∧ value = result := by
  cases failure? with
  | none => exact ⟨fun same => ⟨rfl, Except.ok.inj same⟩, fun same => congrArg _ same.2⟩
  | some cause => exact ⟨fun same => (nomatch same), fun same => (nomatch same.1)⟩

/-- A fold whose steps fail, or not, whatever was carried so far: it fails with the first
failure, and otherwise is the fold of what the steps return. -/
theorem foldlM_eq_succeedUnless {failure? : γ → Option ε} {combine : β → γ → β}
    {items : List γ} {step : β → γ → Except ε β}
    (steps : ∀ carried, ∀ item ∈ items,
      step carried item = succeedUnless (failure? item) (combine carried item)) (start : β) :
    items.foldlM step start =
      succeedUnless (items.findSome? failure?) (items.foldl combine start) := by
  induction items generalizing start with
  | nil => rfl
  | cons item rest inductionHypothesis =>
    rw [List.foldlM_cons, steps start item List.mem_cons_self, List.findSome?_cons]
    cases failure? item with
    | some cause => rfl
    | none =>
      exact inductionHypothesis (fun carried other member =>
        steps carried other (List.mem_cons_of_mem _ member)) _

/-- A fold whose steps all succeed is the fold of what the steps return. -/
theorem foldlM_eq_ok {items : List γ} {step : β → γ → Except ε β} {combine : β → γ → β}
    (steps : ∀ carried, ∀ item ∈ items, step carried item = .ok (combine carried item))
    (start : β) : items.foldlM step start = .ok (items.foldl combine start) := by
  induction items generalizing start with
  | nil => rfl
  | cons item rest inductionHypothesis =>
    rw [List.foldlM_cons, steps start item List.mem_cons_self]
    exact inductionHypothesis (fun carried other member =>
      steps carried other (List.mem_cons_of_mem _ member)) _

/-- Where each step of a fold that succeeds gives what is combined, the fold gives the fold of the
combinations. -/
theorem foldl_eq_of_foldlM_eq_ok {step : β → γ → Except ε β} {combine : β → γ → β}
    (steps : ∀ carried item next, step carried item = .ok next → combine carried item = next)
    {items : List γ} {start last : β} (ran : items.foldlM step start = .ok last) :
    items.foldl combine start = last := by
  induction items generalizing start with
  | nil =>
    cases ran
    rfl
  | cons item rest inductionHypothesis =>
    rw [List.foldlM_cons] at ran
    obtain ⟨next, stepped, others⟩ := bind_eq_ok_iff.mp ran
    rw [List.foldl_cons, steps _ _ _ stepped]
    exact inductionHypothesis others

/-- A list of requests succeeds exactly if there is one result for each request, with which the
request succeeds. -/
theorem mapM_eq_ok_iff {items : List γ} {request : γ → Except ε β} {results : List β} :
    items.mapM request = .ok results ↔
      List.Forall₂ (fun item result => request item = .ok result) items results := by
  induction items generalizing results with
  | nil =>
    rw [List.mapM_nil, List.forall₂_nil_left_iff]
    exact ⟨fun same => (Except.ok.inj same).symm, fun same => congrArg Except.ok same.symm⟩
  | cons item rest inductionHypothesis =>
    rw [List.mapM_cons, bind_eq_ok_iff, List.forall₂_cons_left_iff]
    constructor
    · rintro ⟨result, first, others⟩
      obtain ⟨more, succeeds, same⟩ := bind_eq_ok_iff.mp others
      cases same
      exact ⟨result, more, first, inductionHypothesis.mp succeeds, rfl⟩
    · rintro ⟨result, more, first, succeeds, rfl⟩
      exact ⟨result, first, bind_eq_ok_iff.mpr ⟨more, inductionHypothesis.mpr succeeds, rfl⟩⟩

/-- A list of requests that all succeed gives the list of their results. -/
theorem mapM_eq_ok {items : List γ} {request : γ → Except ε β} {result : γ → β}
    (succeeds : ∀ item ∈ items, request item = .ok (result item)) :
    items.mapM request = .ok (items.map result) := by
  rw [mapM_eq_ok_iff, List.forall₂_map_right_iff, List.forall₂_same]
  exact succeeds

/-! ### Actions -/

namespace Action

/-- The outcome of an action on a state, and the state after it. -/
def runOn (action : Action α σ β) (state : σ) : Outcome α β × σ :=
  action.run.run state

theorem runOn_pure (value : β) (state : σ) :
    runOn (pure value : Action α σ β) state = (.ok value, state) := rfl

theorem runOn_throw (cause : Failure α) (state : σ) :
    runOn (throw cause : Action α σ β) state = (.error cause, state) := rfl

theorem runOn_modify (change : σ → σ) (state : σ) :
    runOn (modify change : Action α σ Unit) state = (.ok (), change state) := rfl

theorem runOn_get_bind (next : σ → Action α σ γ) (state : σ) :
    runOn (get >>= next) state = runOn (next state) state := rfl

/-- The second action runs on the state after the first one, unless the first one fails. -/
theorem runOn_bind (first : Action α σ β) (next : β → Action α σ γ) (state : σ) :
    runOn (first >>= next) state =
      match runOn first state with
      | (.ok value, after) => runOn (next value) after
      | (.error cause, after) => (.error cause, after) := by
  show (ExceptT.bindCont next (runOn first state).1 |>.run (runOn first state).2) = _
  rcases runOn first state with ⟨outcome, after⟩
  cases outcome with
  | error cause => rfl
  | ok value => rfl

theorem runOn_bind_of_ok {first : Action α σ β} {next : β → Action α σ γ} {state after : σ}
    {value : β} (ran : runOn first state = (.ok value, after)) :
    runOn (first >>= next) state = runOn (next value) after := by
  rw [runOn_bind, ran]

theorem runOn_bind_of_error {first : Action α σ β} {next : β → Action α σ γ} {state after : σ}
    {cause : Failure α} (ran : runOn first state = (.error cause, after)) :
    runOn (first >>= next) state = (.error cause, after) := by
  rw [runOn_bind, ran]

/-- Where two actions succeed, the first one does, and then the second one after it. -/
theorem of_runOn_bind_eq_ok {first : Action α σ β} {next : β → Action α σ γ} {state : σ}
    {result : γ} (succeeds : (runOn (first >>= next) state).1 = .ok result) :
    ∃ value after, runOn first state = (.ok value, after) ∧
      (runOn (next value) after).1 = .ok result := by
  rw [runOn_bind] at succeeds
  rcases ran : runOn first state with ⟨outcome, after⟩
  rw [ran] at succeeds
  cases outcome with
  | error cause => cases succeeds
  | ok value => exact ⟨value, after, rfl, succeeds⟩

/-- What both of two actions keep, they keep one after the other, wherever they stop. -/
theorem runOn_bind_keeps {first : Action α σ β} {next : β → Action α σ γ} (holds : σ → Prop)
    {state : σ} (kept : holds (runOn first state).2)
    (keeps : ∀ value after, holds after → holds (runOn (next value) after).2) :
    holds (runOn (first >>= next) state).2 := by
  rw [runOn_bind]
  rcases ran : runOn first state with ⟨outcome, after⟩
  rw [ran] at kept
  cases outcome with
  | error cause => exact kept
  | ok value => exact keeps value after kept

/-! ### Lists of actions -/

theorem runOn_forM_nil (step : γ → Action α σ Unit) (state : σ) :
    runOn ([].forM step) state = (.ok (), state) := rfl

theorem runOn_forM_cons (step : γ → Action α σ Unit) (item : γ) (rest : List γ) (state : σ) :
    runOn ((item :: rest).forM step) state =
      match runOn (step item) state with
      | (.ok (), after) => runOn (rest.forM step) after
      | (.error cause, after) => (.error cause, after) := by
  show runOn (step item >>= fun _ => rest.forM step) state = _
  rw [runOn_bind]
  rcases runOn (step item) state with ⟨outcome, after⟩
  cases outcome with
  | error cause => rfl
  | ok _ => rfl

theorem of_runOn_forM_cons_eq_ok {step : γ → Action α σ Unit} {item : γ} {rest : List γ}
    {state : σ} (succeeds : (runOn ((item :: rest).forM step) state).1 = .ok ()) :
    ∃ after, runOn (step item) state = (.ok (), after) ∧
      (runOn (rest.forM step) after).1 = .ok () := by
  have both : (runOn (step item >>= fun _ => rest.forM step) state).1 = .ok () := succeeds
  obtain ⟨_, after, ran, others⟩ := of_runOn_bind_eq_ok both
  exact ⟨after, ran, others⟩

/-- What every step keeps, a list of steps keeps, whether or not it runs to its end. -/
theorem runOn_forM_keeps {step : γ → Action α σ Unit} (holds : σ → Prop) {items : List γ}
    (keeps : ∀ item ∈ items, ∀ state, holds state → holds (runOn (step item) state).2)
    {state : σ} (start : holds state) : holds (runOn (items.forM step) state).2 := by
  induction items generalizing state with
  | nil => exact start
  | cons item rest inductionHypothesis =>
    exact runOn_bind_keeps holds (keeps item List.mem_cons_self state start) fun _ _ next =>
      inductionHypothesis (fun other member => keeps other (List.mem_cons_of_mem _ member)) next

end Action

/-! ### Operations -/

theorem Protocol.runOn_ask {operation : Operation} (read : σ → Outcome α β) (state : σ) :
    Action.runOn (Protocol.ask operation (some read)) state = (read state, state) := rfl

end RecursiveBayes
