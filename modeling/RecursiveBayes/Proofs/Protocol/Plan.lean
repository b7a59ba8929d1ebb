/-
This file describes what an inside pass asks of a network. A request is one call
of an operation with its arguments. A plan is a tree of requests: what is asked
next may depend on every answer so far, and the plan ends with a probability. The
pass is one such plan, and it mentions no network.

Carried out for a network on a state, a plan stops at the first request that
fails. What is recorded of it are the requests made, the outcome and the state
left behind. Running the pass of any network is carrying out its plan.
-/

import RecursiveBayes.Proofs.Protocol.Running

namespace RecursiveBayes

variable {α : Type} [Scalar α] {σ Location Observations Chart : Type}

/-! ### Requests -/

/-- One call of an operation in an inside pass, with the arguments it is given. -/
inductive Request (α Location Chart : Type) [Scalar α] where
  | initInside
  | insideSchedule
  | computeInside (item : WorkItem Location)
  | updateInsideChart (item : WorkItem Location) (vectors : List (ValueVector α))
  | rootLocation
  | nonTerminals (locations : List Location)
  | insideChart
  | lookup (chart : Chart) (variableIndex : Nat) (root : Location)
  | prior
  | marginal (prior : Prior α) (roots : List (ValueVector α))

namespace Request

/-- What is answered to a request that does not fail. -/
abbrev Answer : Request α Location Chart → Type
  | initInside => Unit
  | insideSchedule => List (WorkItem Location)
  | computeInside _ => List (ValueVector α)
  | updateInsideChart _ _ => Unit
  | rootLocation => Location
  | nonTerminals _ => List Nat
  | insideChart => Chart
  | lookup _ _ _ => ValueVector α
  | prior => Prior α
  | marginal _ _ => α

/-- The operation that a network may lack for a request. The preparation has a default, and look-ups
and probabilities are requested of a chart and of a prior that are at hand. -/
def operation? : Request α Location Chart → Option Operation
  | initInside => none
  | insideSchedule => some .insideSchedule
  | computeInside _ => some .computeInside
  | updateInsideChart _ _ => some .updateInsideChart
  | rootLocation => some .rootLocation
  | nonTerminals _ => some .nonTerminals
  | insideChart => some .insideChart
  | lookup _ _ _ => none
  | prior => some .prior
  | marginal _ _ => none

end Request

/-! ### Answers -/

namespace Protocol

/-- A network provides an operation. The preparation always has its default. -/
def provides (protocol : Protocol α σ Location Observations Chart) : Operation → Bool
  | .nonTerminals => protocol.nonTerminals.isSome
  | .terminalChart => protocol.terminalChart.isSome
  | .insideChart => protocol.insideChart.isSome
  | .updateInsideChart => protocol.updateInsideChart.isSome
  | .insideSchedule => protocol.insideSchedule.isSome
  | .rootLocation => protocol.rootLocation.isSome
  | .prior => protocol.prior.isSome
  | .computeInside => protocol.computeInside.isSome
  | .initInside => true

/-- Use an operation that is provided, and report it by its name otherwise. -/
def useProvided {β γ : Type} (operation : Operation) (provided : Option β)
    (use : β → Outcome α γ) : Outcome α γ :=
  match provided with
  | none => .error (.fault (.notImplemented operation))
  | some given => use given

/-- What a network answers to a request on a state. -/
def answer (protocol : Protocol α σ Location Observations Chart) (state : σ) :
    (request : Request α Location Chart) → Outcome α request.Answer
  | .initInside => (Action.runOn protocol.initInside state).1
  | .insideSchedule =>
    useProvided .insideSchedule protocol.insideSchedule fun read => read state
  | .computeInside item =>
    useProvided .computeInside protocol.computeInside fun compute =>
      compute state item.variableIndex item.locations
  | .updateInsideChart item vectors =>
    useProvided .updateInsideChart protocol.updateInsideChart fun update =>
      (Action.runOn (update item.variableIndex item.locations vectors) state).1
  | .rootLocation => useProvided .rootLocation protocol.rootLocation fun read => read state
  | .nonTerminals locations =>
    useProvided .nonTerminals protocol.nonTerminals fun count => count state locations
  | .insideChart => useProvided .insideChart protocol.insideChart fun read => read state
  | .lookup chart variableIndex root =>
    match protocol.lookup chart variableIndex root with
    | none =>
      .error (.fault (.malformed (.rootNotComputed variableIndex (protocol.describe root))))
    | some vector => .ok vector
  | .prior => useProvided .prior protocol.prior fun read => read state
  | .marginal prior roots => liftM (prior.marginal roots)

/-- What a request makes of a state, whether or not it succeeds. The preparation and the writes
have effects; all other requests only read. -/
def effect (protocol : Protocol α σ Location Observations Chart) (state : σ) :
    Request α Location Chart → σ
  | .initInside => (Action.runOn protocol.initInside state).2
  | .updateInsideChart item vectors =>
    match protocol.updateInsideChart with
    | none => state
    | some update =>
      (Action.runOn (update item.variableIndex item.locations vectors) state).2
  | _ => state

omit [Scalar α] in
theorem runOn_ask_eq {β : Type} (operation : Operation) (provided : Option (σ → Outcome α β))
    (state : σ) :
    Action.runOn (ask operation provided) state =
      (useProvided operation provided (fun read => read state), state) := by
  cases provided <;> rfl

variable (protocol : Protocol α σ Location Observations Chart)

/-- A request for an operation that is not provided is answered with the name of it. -/
theorem answer_of_not_provided {request : Request α Location Chart} {operation : Operation}
    (needs : request.operation? = some operation) (missing : protocol.provides operation = false)
    (state : σ) :
    protocol.answer state request = .error (.fault (.notImplemented operation)) := by
  cases request <;> cases needs <;>
    · simp only [provides, Option.isSome_eq_false_iff, Option.isNone_iff_eq_none] at missing
      simp only [answer, useProvided, missing]

variable {protocol}

/-- A look-up is answered with what the chart holds, and nothing else. -/
theorem answer_lookup_eq_ok_iff {state : σ} {chart : Chart} {variableIndex : Nat}
    {root : Location} {vector : ValueVector α} :
    protocol.answer state (.lookup chart variableIndex root) = .ok vector ↔
      protocol.lookup chart variableIndex root = some vector := by
  rw [answer]
  cases protocol.lookup chart variableIndex root with
  | none => exact ⟨nofun, nofun⟩
  | some found => exact ⟨fun same => congrArg some (Except.ok.inj same), fun same =>
      congrArg Except.ok (Option.some.inj same)⟩

theorem answer_marginal_eq_ok_iff {state : σ} {prior : Prior α} {roots : List (ValueVector α)}
    {probability : α} :
    protocol.answer state (.marginal prior roots) = .ok probability ↔
      prior.marginal roots = .ok probability := by
  rw [answer]
  cases prior.marginal roots with
  | error cause => exact ⟨nofun, nofun⟩
  | ok found => exact ⟨fun same => congrArg Except.ok (Except.ok.inj same), fun same =>
      congrArg Except.ok (Except.ok.inj same)⟩

end Protocol

/-! ### Plans -/

/-- A tree of requests that ends with a probability. -/
inductive Plan (α Location Chart : Type) [Scalar α] where
  | finished (probability : α)
  | ask (request : Request α Location Chart) (next : request.Answer → Plan α Location Chart)

/-- What is recorded of a plan that was carried out. -/
structure Execution (α σ Location Chart : Type) [Scalar α] where
  /-- The requests made, the failing one included. -/
  requests : List (Request α Location Chart)
  outcome : Outcome α α
  /-- The state left behind. -/
  state : σ

namespace Plan

/-- Carry out a plan for a network on a state. -/
def execute (protocol : Protocol α σ Location Observations Chart) :
    Plan α Location Chart → σ → Execution α σ Location Chart
  | finished probability, state => ⟨[], .ok probability, state⟩
  | ask request next, state =>
    match protocol.answer state request with
    | .error cause => ⟨[request], .error cause, protocol.effect state request⟩
    | .ok answer =>
      let rest := (next answer).execute protocol (protocol.effect state request)
      ⟨request :: rest.requests, rest.outcome, rest.state⟩

/-- Do items of work, and go on from there. -/
def work : List (WorkItem Location) → Plan α Location Chart → Plan α Location Chart
  | [], next => next
  | item :: rest, next =>
    ask (.computeInside item) fun vectors =>
    ask (.updateInsideChart item vectors) fun _ =>
    work rest next

/-- Look up the vectors of `count` variables from `variableIndex` on, and go on with them. -/
def lookUps (chart : Chart) (root : Location) :
    (count variableIndex : Nat) → (List (ValueVector α) → Plan α Location Chart) →
      Plan α Location Chart
  | 0, _, next => next []
  | count + 1, variableIndex, next =>
    ask (.lookup chart variableIndex root) fun vector =>
    lookUps chart root count (variableIndex + 1) fun rest => next (vector :: rest)

/-- Combine the vectors at the root with the prior. -/
def readOut : Plan α Location Chart :=
  ask .rootLocation fun root =>
  ask (.nonTerminals [root]) fun (counts : List Nat) =>
  ask .insideChart fun chart =>
  lookUps chart root (counts.head?.getD 0) 0 fun roots =>
  ask .prior fun prior =>
  ask (.marginal prior roots) fun probability =>
  finished probability

/-- The inside pass. -/
def pass : Plan α Location Chart :=
  ask .initInside fun _ =>
  ask .insideSchedule fun items =>
  work items readOut

/-! ### Carrying out a plan -/

section Execute

variable {protocol : Protocol α σ Location Observations Chart} {state : σ}
  {request : Request α Location Chart} {next : request.Answer → Plan α Location Chart}

theorem execute_ask_of_error {cause : Failure α}
    (fails : protocol.answer state request = .error cause) :
    (ask request next).execute protocol state =
      ⟨[request], .error cause, protocol.effect state request⟩ := by
  rw [execute, fails]

theorem execute_ask_of_ok {answer : request.Answer}
    (answered : protocol.answer state request = .ok answer) :
    (ask request next).execute protocol state =
      let rest := (next answer).execute protocol (protocol.effect state request)
      ⟨request :: rest.requests, rest.outcome, rest.state⟩ := by
  rw [execute, answered]

/-- The first request of a plan is made. What holds of no requests, and of the requests that are
made after any answer, holds of the requests made after it. -/
theorem requests_ask {holds : List (Request α Location Chart) → Prop} (none : holds [])
    (others : ∀ answer, protocol.answer state request = .ok answer →
      holds ((next answer).execute protocol (protocol.effect state request)).requests) :
    ∃ rest, ((ask request next).execute protocol state).requests = request :: rest ∧
      holds rest := by
  cases answered : protocol.answer state request with
  | error cause =>
    rw [execute_ask_of_error answered]
    exact ⟨[], rfl, none⟩
  | ok answer =>
    rw [execute_ask_of_ok answered]
    exact ⟨_, rfl, others answer answered⟩

/-- Where a plan succeeds, it was answered, and it succeeds from there. -/
theorem of_outcome_ask_eq_ok {probability : α}
    (succeeds : ((ask request next).execute protocol state).outcome = .ok probability) :
    ∃ answer, protocol.answer state request = .ok answer ∧
      ((next answer).execute protocol (protocol.effect state request)).outcome =
        .ok probability := by
  cases answered : protocol.answer state request with
  | error cause =>
    rw [execute_ask_of_error answered] at succeeds
    cases succeeds
  | ok answer =>
    rw [execute_ask_of_ok answered] at succeeds
    exact ⟨answer, rfl, succeeds⟩

/-- A plan that only reads leaves the state as it was. -/
theorem state_ask_of_reads (reads : protocol.effect state request = state)
    (others : ∀ answer, ((next answer).execute protocol state).state = state) :
    ((ask request next).execute protocol state).state = state := by
  cases answered : protocol.answer state request with
  | error cause => rw [execute_ask_of_error answered, reads]
  | ok answer => rw [execute_ask_of_ok answered, reads, others]

theorem state_lookUps {chart : Chart} {root : Location}
    {next : List (ValueVector α) → Plan α Location Chart}
    (others : ∀ roots, ((next roots).execute protocol state).state = state)
    (count variableIndex : Nat) :
    ((lookUps chart root count variableIndex next).execute protocol state).state = state := by
  induction count generalizing variableIndex next with
  | zero => exact others []
  | succ count inductionHypothesis =>
    exact state_ask_of_reads rfl fun vector =>
      inductionHypothesis (fun rest => others (vector :: rest)) (variableIndex + 1)

/-- Reading out changes nothing. -/
theorem state_readOut (state : σ) :
    ((readOut : Plan α Location Chart).execute protocol state).state = state :=
  state_ask_of_reads rfl fun _ => state_ask_of_reads rfl fun _ => state_ask_of_reads rfl fun _ =>
    state_lookUps (fun _ => state_ask_of_reads rfl fun _ => state_ask_of_reads rfl fun _ => rfl)
      _ _

end Execute

variable (protocol : Protocol α σ Location Observations Chart)

/-- The effects of the requests made, in their order, and nothing else, lead to the state that is
left behind. -/
theorem state_execute (plan : Plan α Location Chart) (state : σ) :
    (plan.execute protocol state).state =
      (plan.execute protocol state).requests.foldl protocol.effect state := by
  induction plan generalizing state with
  | finished probability => rfl
  | ask request next inductionHypothesis =>
    cases answered : protocol.answer state request with
    | error cause =>
      rw [execute_ask_of_error answered]
      rfl
    | ok answer =>
      rw [execute_ask_of_ok answered]
      exact inductionHypothesis answer _

/-- A request that fails is the last one, and its failure is the outcome. -/
theorem stops_at_failure (plan : Plan α Location Chart) {state : σ}
    {before after : List (Request α Location Chart)} {request : Request α Location Chart}
    {cause : Failure α}
    (made : (plan.execute protocol state).requests = before ++ request :: after)
    (fails : protocol.answer (before.foldl protocol.effect state) request = .error cause) :
    after = [] ∧ (plan.execute protocol state).outcome = .error cause := by
  induction plan generalizing state before with
  | finished probability => exact absurd made.symm (List.append_ne_nil_of_right_ne_nil _ nofun)
  | ask first next inductionHypothesis =>
    cases answered : protocol.answer state first with
    | error earlier =>
      rw [execute_ask_of_error answered] at made ⊢
      cases before with
      | nil =>
        obtain ⟨rfl, rfl⟩ := List.cons.inj made
        have same : earlier = cause := Except.error.inj (answered.symm.trans fails)
        exact ⟨rfl, congrArg Except.error same⟩
      | cons other rest =>
        have none := (List.cons.inj made).2
        exact absurd none.symm (List.append_ne_nil_of_right_ne_nil _ nofun)
    | ok answer =>
      rw [execute_ask_of_ok answered] at made ⊢
      cases before with
      | nil =>
        obtain ⟨rfl, rfl⟩ := List.cons.inj made
        exact nomatch answered.symm.trans fails
      | cons other rest =>
        obtain ⟨rfl, others⟩ := List.cons.inj made
        exact inductionHypothesis answer others fails

/-- A failure is that of the last request. -/
theorem failure_of_last (plan : Plan α Location Chart) {state : σ} {cause : Failure α}
    (failed : (plan.execute protocol state).outcome = .error cause) :
    ∃ before request, (plan.execute protocol state).requests = before ++ [request] ∧
      protocol.answer (before.foldl protocol.effect state) request = .error cause := by
  induction plan generalizing state with
  | finished probability => cases failed
  | ask first next inductionHypothesis =>
    cases answered : protocol.answer state first with
    | error earlier =>
      rw [execute_ask_of_error answered] at failed ⊢
      have same : earlier = cause := Except.error.inj failed
      exact ⟨[], first, rfl, answered.trans (congrArg Except.error same)⟩
    | ok answer =>
      rw [execute_ask_of_ok answered] at failed ⊢
      obtain ⟨before, request, made, fails⟩ := inductionHypothesis answer failed
      exact ⟨first :: before, request, congrArg (first :: ·) made, fails⟩

/-! ### Plans of actions -/

/-- Running an action is carrying out a plan. -/
def Describes (plan : Plan α Location Chart) (action : Action α σ α) : Prop :=
  ∀ state, Action.runOn action state =
    ((plan.execute protocol state).outcome, (plan.execute protocol state).state)

variable {protocol}

theorem describes_finished (probability : α) :
    (finished probability : Plan α Location Chart).Describes protocol (pure probability) :=
  fun _ => rfl

/-- Two actions of which the first one is a request and the second one is planned from the
answer. -/
theorem describes_ask {request : Request α Location Chart}
    {next : request.Answer → Plan α Location Chart} {first : Action α σ request.Answer}
    {rest : request.Answer → Action α σ α}
    (asks : ∀ state, Action.runOn first state =
      (protocol.answer state request, protocol.effect state request))
    (others : ∀ answer, (next answer).Describes protocol (rest answer)) :
    (ask request next).Describes protocol (first >>= rest) := by
  intro state
  rw [Action.runOn_bind, asks state]
  cases answered : protocol.answer state request with
  | error cause => rw [execute_ask_of_error answered]
  | ok answer =>
    rw [execute_ask_of_ok answered]
    exact others answer _

theorem describes_work {plan : Plan α Location Chart} {action : Action α σ α}
    (others : plan.Describes protocol action) (items : List (WorkItem Location)) :
    (work items plan).Describes protocol (items.forM protocol.perform >>= fun _ => action) := by
  induction items with
  | nil => exact others
  | cons item rest inductionHypothesis =>
    have assoc : ((item :: rest).forM protocol.perform >>= fun _ => action) =
        protocol.askComputeInside item.variableIndex item.locations >>= fun vectors =>
          protocol.askUpdateInsideChart item.variableIndex item.locations vectors >>= fun _ =>
            rest.forM protocol.perform >>= fun _ => action := by
      show ((protocol.perform item >>= fun _ => rest.forM protocol.perform) >>= _) = _
      rw [Protocol.perform, bind_assoc, bind_assoc]
    rw [assoc]
    refine describes_ask (fun state => ?_) fun vectors =>
      describes_ask (fun state => ?_) fun _ => inductionHypothesis
    · cases provided : protocol.computeInside <;>
        simp only [Protocol.askComputeInside, Protocol.answer, provided] <;> rfl
    · cases provided : protocol.updateInsideChart <;>
        simp only [Protocol.askUpdateInsideChart, Protocol.answer, Protocol.effect, provided] <;>
        rfl

theorem describes_lookUps {chart : Chart} {root : Location}
    {next : List (ValueVector α) → Plan α Location Chart}
    {rest : List (ValueVector α) → Action α σ α}
    (others : ∀ roots, (next roots).Describes protocol (rest roots)) (count variableIndex : Nat) :
    (lookUps chart root count variableIndex next).Describes protocol
      (liftM (protocol.rootVectors chart root count variableIndex) >>= rest) := by
  induction count generalizing variableIndex next rest with
  | zero => exact others []
  | succ count inductionHypothesis =>
    intro state
    have later := fun vector =>
      inductionHypothesis (fun roots => others (vector :: roots)) (variableIndex + 1) state
    rw [lookUps, Protocol.rootVectors]
    cases found : protocol.lookup chart variableIndex root with
    | none =>
      have fails : protocol.answer state (.lookup chart variableIndex root) = .error (.fault
          (.malformed (.rootNotComputed variableIndex (protocol.describe root)))) := by
        rw [Protocol.answer, found]
      rw [execute_ask_of_error fails]
      rfl
    | some vector =>
      have answered : protocol.answer state (.lookup chart variableIndex root) = .ok vector := by
        rw [Protocol.answer, found]
      rw [execute_ask_of_ok answered]
      refine Eq.trans ?_ (later vector)
      cases protocol.rootVectors chart root count (variableIndex + 1) <;> rfl

theorem describes_readOut : readOut.Describes protocol protocol.readOut := by
  refine describes_ask (fun state => Protocol.runOn_ask_eq _ _ state) fun root => ?_
  refine describes_ask (fun state => ?_) fun (counts : List Nat) => ?_
  · cases provided : protocol.nonTerminals <;>
      simp only [Protocol.askNonTerminals, Protocol.answer, provided] <;> rfl
  refine describes_ask (fun state => Protocol.runOn_ask_eq _ _ state) fun chart => ?_
  refine describes_lookUps (fun roots => ?_) (counts.head?.getD 0) 0
  refine describes_ask (fun state => Protocol.runOn_ask_eq _ _ state) fun prior => ?_
  rw [← bind_pure (liftM (prior.marginal roots))]
  refine describes_ask (fun state => ?_) fun (probability : α) => describes_finished probability
  cases result : prior.marginal roots <;> simp only [Protocol.answer, result] <;> rfl

/-- Running the pass of any network is carrying out the plan of the pass. -/
theorem describes_pass : pass.Describes protocol protocol.run :=
  describes_ask (fun _ => rfl) fun _ =>
    describes_ask (fun state => Protocol.runOn_ask_eq _ _ state) fun items =>
      describes_work describes_readOut items

end Plan

end RecursiveBayes
