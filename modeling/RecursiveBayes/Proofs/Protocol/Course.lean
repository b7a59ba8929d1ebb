/-
This file proves what an inside pass asks of a network, and in which order. The
preparation and the schedule come first; then, item by item, the vectors are
computed and written; the root, the counts, the chart, the vectors of the root by
increasing variable, the prior and the probability come last. A pass makes the
requests of this course from the start up to the first one that fails, whichever
operations a network lacks and whatever it schedules.

A pass that succeeds has found every root vector in the chart, and there are as
many as the prior covers cells.
-/

import RecursiveBayes.Proofs.Network.Recursion
import RecursiveBayes.Proofs.Protocol.Plan

namespace RecursiveBayes

variable {α : Type} [Scalar α] {σ Location Observations Chart : Type}

/-! ### The probability of the root -/

/-- Next to the probability of each cell to be the root stand its values, one for each weight. -/
theorem Prior.map_length_zip_values (prior : Prior α) :
    (prior.structural.zip prior.values).map (fun cell => cell.2.length) =
      prior.valueWeights.map List.length := by
  have second : (prior.structural.zip prior.values).map Prod.snd = prior.values := by
    refine List.map_snd_zip (Nat.le_of_eq ?_)
    rw [prior.length_structural, cellCount, values, List.length_map]
  show List.map (List.length ∘ Prod.snd) _ = _
  rw [← List.map_map, second, values, List.map_map]
  exact List.map_congr_left fun weights _ => weights.length_normalized

/-- A prior gives a probability exactly if there is a root vector for every cell and each has one
entry for each value of its cell. -/
theorem Prior.marginal_eq_ok_iff {prior : Prior α} {roots : List (ValueVector α)}
    {probability : α} :
    prior.marginal roots = .ok probability ↔
      prior.valueWeights.map List.length = roots.map List.length ∧
        prior.likelihood roots = probability := by
  have checked (sum : α) (root : (α × ValueVector α) × ValueVector α) :
      addRoot sum root = succeedUnless
        (if root.1.2.length = root.2.length then none
          else some (.malformed (.rootLength root.1.2.length root.2.length)))
        (sum + root.1.1 * ValueVector.dot root.1.2 root.2) := by
    rw [addRoot]
    split <;> rfl
  have fits : (∀ root ∈ (prior.structural.zip prior.values).zip roots,
        root.1.2.length = root.2.length) ∧ roots.length = prior.cellCount ↔
      prior.valueWeights.map List.length = roots.map List.length := by
    have cells : (prior.structural.zip prior.values).length = prior.cellCount := by
      rw [← List.length_map fun cell => cell.2.length, prior.map_length_zip_values, List.length_map,
        cellCount]
    rw [← prior.map_length_zip_values, ← List.forall₂_eq_eq_eq, List.forall₂_map_left_iff,
      List.forall₂_map_right_iff, List.forall₂_iff_zip, cells, eq_comm (a := roots.length), and_comm]
    exact and_congr_right fun _ =>
      ⟨fun all _ _ member => all _ member, fun all _ member => all member⟩
  rw [← fits, marginal]
  split
  · rename_i count
    rw [foldlM_eq_succeedUnless (fun sum root _ => checked sum root), succeedUnless_eq_ok_iff,
      List.findSome?_eq_none_iff]
    simp only [count, and_true, ite_eq_left_iff, reduceCtorEq, imp_false, not_not]
    rfl
  · rename_i count
    refine ⟨fun same => ?_, fun both => absurd both.1.2 count⟩
    cases same

/-! ### The course of a pass -/

/-- A step of an inside pass: a request without the vectors, the root, the chart and the prior that
earlier answers put into it. -/
inductive Stage (Location : Type) where
  | initInside
  | insideSchedule
  | computeInside (item : WorkItem Location)
  | updateInsideChart (item : WorkItem Location)
  | rootLocation
  | nonTerminals
  | insideChart
  | lookup (variableIndex : Nat)
  | prior
  | marginal

/-- The step that makes a request. -/
def Request.stage : Request α Location Chart → Stage Location
  | initInside => .initInside
  | insideSchedule => .insideSchedule
  | computeInside item => .computeInside item
  | updateInsideChart item _ => .updateInsideChart item
  | rootLocation => .rootLocation
  | nonTerminals _ => .nonTerminals
  | insideChart => .insideChart
  | lookup _ variableIndex _ => .lookup variableIndex
  | prior => .prior
  | marginal _ _ => .marginal

namespace Stage

/-- The steps for an item of work. -/
def ofItem (item : WorkItem Location) : List (Stage Location) :=
  [computeInside item, updateInsideChart item]

/-- The steps that look up the given number of variables at the root and combine them with the
prior. -/
def ofReadOut (count : Nat) : List (Stage Location) :=
  [rootLocation, nonTerminals, insideChart] ++ (List.range count).map lookup ++ [prior, marginal]

/-- The steps of a whole pass. -/
def course (items : List (WorkItem Location)) (count : Nat) : List (Stage Location) :=
  [initInside, insideSchedule] ++ items.flatMap ofItem ++ ofReadOut count

end Stage

/-- The requests made are the first ones of some steps, and all of them upon success. -/
def Execution.Follows (execution : Execution α σ Location Chart)
    (stages : List (Stage Location)) : Prop :=
  execution.requests.map Request.stage <+: stages ∧
    (execution.outcome.isOk = true → execution.requests.map Request.stage = stages)

namespace Protocol

/-- The items that a network schedules on a state, and none if it does not answer. -/
def scheduled (protocol : Protocol α σ Location Observations Chart) (state : σ) :
    List (WorkItem Location) :=
  match protocol.answer state .insideSchedule with
  | .error _ => []
  | .ok items => items

/-- The number of variables that a network counts at its root on a state: the first of the counts
given, and zero if none is given. -/
def rootCount (protocol : Protocol α σ Location Observations Chart) (state : σ) : Nat :=
  match protocol.answer state .rootLocation with
  | .error _ => 0
  | .ok root =>
    match protocol.answer state (.nonTerminals [root]) with
    | .error _ => 0
    | .ok counts => (counts : List Nat).head?.getD 0

/-- A probability is read out of the state: the root vectors are those in the chart, one for every
cell that the prior covers and each with one entry for every value of its cell. -/
def ReadsOut (protocol : Protocol α σ Location Observations Chart) (state : σ)
    (probability : α) : Prop :=
  ∃ (root : Location) (counts : List Nat) (chart : Chart) (roots : List (ValueVector α))
      (prior : Prior α),
    protocol.answer state .rootLocation = .ok root ∧
    protocol.answer state (.nonTerminals [root]) = .ok counts ∧
    protocol.answer state .insideChart = .ok chart ∧
    protocol.answer state .prior = .ok prior ∧
    counts.head?.getD 0 = prior.cellCount ∧
    (List.range prior.cellCount).map (protocol.lookup chart · root) = roots.map some ∧
    prior.valueWeights.map List.length = roots.map List.length ∧
    probability = prior.likelihood roots

/-- Whatever is written among some requests is what was computed right before, for the same
item. -/
def WritesComputed (protocol : Protocol α σ Location Observations Chart) (state : σ)
    (requests : List (Request α Location Chart)) : Prop :=
  ∀ before item vectors after, requests = before ++ .updateInsideChart item vectors :: after →
    ∃ earlier, before = earlier ++ [.computeInside item] ∧
      protocol.answer (earlier.foldl protocol.effect state) (.computeInside item) = .ok vectors

end Protocol

namespace Plan

variable {protocol : Protocol α σ Location Observations Chart} {state : σ}

/-! ### The order of the requests -/

theorem follows_finished (probability : α) :
    ((finished probability : Plan α Location Chart).execute protocol state).Follows [] :=
  ⟨List.prefix_rfl, fun _ => rfl⟩

theorem follows_ask {request : Request α Location Chart}
    {next : request.Answer → Plan α Location Chart} {stages : List (Stage Location)}
    (others : ∀ answer, protocol.answer state request = .ok answer →
      ((next answer).execute protocol (protocol.effect state request)).Follows stages) :
    ((ask request next).execute protocol state).Follows (request.stage :: stages) := by
  cases answered : protocol.answer state request with
  | error cause =>
    rw [execute_ask_of_error answered]
    exact ⟨List.prefix_append [request.stage] stages, nofun⟩
  | ok answer =>
    rw [execute_ask_of_ok answered]
    obtain ⟨starts, complete⟩ := others answer answered
    exact ⟨(List.prefix_cons_inj _).mpr starts, fun succeeds =>
      congrArg (request.stage :: ·) (complete succeeds)⟩

/-- Work is followed by the steps of the plan after it, which is carried out on a state from which
it leads to the same state. -/
theorem follows_work {plan : Plan α Location Chart} {stages : List (Stage Location)} {last : σ}
    (others : ∀ state, (plan.execute protocol state).state = last →
      (plan.execute protocol state).Follows stages) (items : List (WorkItem Location))
    (reaches : ((work items plan).execute protocol state).state = last) :
    ((work items plan).execute protocol state).Follows (items.flatMap Stage.ofItem ++ stages) := by
  induction items generalizing state with
  | nil => exact others state reaches
  | cons item rest inductionHypothesis =>
    refine follows_ask fun vectors computed => follows_ask fun written wrote => ?_
    refine inductionHypothesis ?_
    rw [← reaches, work, execute_ask_of_ok computed, execute_ask_of_ok wrote]

theorem follows_lookUps {chart : Chart} {root : Location}
    {next : List (ValueVector α) → Plan α Location Chart} {stages : List (Stage Location)}
    (others : ∀ roots, ((next roots).execute protocol state).Follows stages)
    (count variableIndex : Nat) :
    ((lookUps chart root count variableIndex next).execute protocol state).Follows
      ((List.range' variableIndex count).map Stage.lookup ++ stages) := by
  induction count generalizing variableIndex next with
  | zero => exact others []
  | succ count inductionHypothesis =>
    rw [List.range'_succ]
    exact follows_ask fun vector _ =>
      inductionHypothesis (fun rest => others (vector :: rest)) (variableIndex + 1)

theorem follows_readOut :
    ((readOut : Plan α Location Chart).execute protocol state).Follows
      (Stage.ofReadOut (protocol.rootCount state)) := by
  refine follows_ask fun root located => follows_ask fun counts counted =>
    follows_ask fun chart _ => ?_
  have count : protocol.rootCount state = (counts : List Nat).head?.getD 0 := by
    have located : protocol.answer state .rootLocation = .ok root := located
    have counted : protocol.answer state (.nonTerminals [root]) = .ok counts := counted
    rw [Protocol.rootCount, located]
    simp only [counted]
  rw [count, List.range_eq_range']
  refine follows_lookUps (fun roots => ?_) _ 0
  exact follows_ask fun prior _ => follows_ask fun probability _ => follows_finished probability

theorem follows_pass :
    (pass.execute protocol state).Follows
      (Stage.course (protocol.scheduled (protocol.effect state .initInside))
        (protocol.rootCount (pass.execute protocol state).state)) := by
  have others (after : σ)
      (reaches : (readOut.execute protocol after).state = (pass.execute protocol state).state) :
      (readOut.execute protocol after).Follows
        (Stage.ofReadOut (protocol.rootCount (pass.execute protocol state).state)) := by
    rw [← reaches, state_readOut]
    exact follows_readOut
  refine follows_ask fun _ prepared => follows_ask fun (items : List (WorkItem Location)) read => ?_
  have listed : protocol.scheduled (protocol.effect state .initInside) = items := by
    rw [Protocol.scheduled, read]
  rw [listed]
  refine follows_work others items ?_
  rw [pass, execute_ask_of_ok prepared, execute_ask_of_ok read]

/-! ### The vectors that are written -/

theorem writesComputed_nil (state : σ) :
    protocol.WritesComputed state ([] : List (Request α Location Chart)) :=
  fun _ _ _ _ same => absurd same.symm (List.append_ne_nil_of_right_ne_nil _ nofun)

/-- Requests in front that are not writes do not matter. -/
theorem writesComputed_cons {request : Request α Location Chart}
    {requests : List (Request α Location Chart)}
    (other : ∀ item vectors, request ≠ .updateInsideChart item vectors)
    (rest : protocol.WritesComputed (protocol.effect state request) requests) :
    protocol.WritesComputed state (request :: requests) := by
  intro before item vectors after same
  cases before with
  | nil => exact absurd (List.cons.inj same).1 (other item vectors)
  | cons first before =>
    obtain ⟨rfl, others⟩ := List.cons.inj same
    obtain ⟨earlier, rfl, computed⟩ := rest before item vectors after others
    exact ⟨request :: earlier, rfl, computed⟩

/-- Vectors that are written right after they were computed do not matter either. -/
theorem writesComputed_item {item : WorkItem Location} {vectors : List (ValueVector α)}
    {requests : List (Request α Location Chart)}
    (computed : protocol.answer state (.computeInside item) = .ok vectors)
    (rest : protocol.WritesComputed
      (protocol.effect state (.updateInsideChart item vectors)) requests) :
    protocol.WritesComputed state
      (.computeInside item :: .updateInsideChart item vectors :: requests) := by
  intro before written values after same
  match before with
  | [] => cases same
  | [first] =>
    cases same
    exact ⟨[], rfl, computed⟩
  | first :: second :: before =>
    obtain ⟨rfl, sameTail⟩ := List.cons.inj same
    obtain ⟨rfl, others⟩ := List.cons.inj sameTail
    obtain ⟨earlier, rfl, computedLater⟩ := rest before written values after others
    exact ⟨.computeInside item :: .updateInsideChart item vectors :: earlier, rfl, computedLater⟩

theorem writesComputed_ask {request : Request α Location Chart}
    {next : request.Answer → Plan α Location Chart}
    (other : ∀ item vectors, request ≠ .updateInsideChart item vectors)
    (others : ∀ answer, protocol.WritesComputed (protocol.effect state request)
      ((next answer).execute protocol (protocol.effect state request)).requests) :
    protocol.WritesComputed state ((ask request next).execute protocol state).requests := by
  obtain ⟨rest, made, holds⟩ := requests_ask (writesComputed_nil _) fun answer _ => others answer
  rw [made]
  exact writesComputed_cons other holds

theorem writesComputed_work {plan : Plan α Location Chart}
    (others : ∀ state, protocol.WritesComputed state (plan.execute protocol state).requests)
    (items : List (WorkItem Location)) (state : σ) :
    protocol.WritesComputed state ((work items plan).execute protocol state).requests := by
  induction items generalizing state with
  | nil => exact others state
  | cons item rest inductionHypothesis =>
    cases computed : protocol.answer state (.computeInside item) with
    | error cause =>
      rw [work, execute_ask_of_error computed]
      exact writesComputed_cons nofun (writesComputed_nil _)
    | ok vectors =>
      obtain ⟨later, made, holds⟩ := requests_ask (writesComputed_nil _) fun _ _ =>
        inductionHypothesis (protocol.effect state (.updateInsideChart item vectors))
      rw [work, execute_ask_of_ok computed]
      show protocol.WritesComputed state (.computeInside item ::
        ((ask (.updateInsideChart item vectors) _).execute protocol state).requests)
      rw [made]
      exact writesComputed_item computed holds

/-- Reading out writes nothing. -/
theorem writesComputed_readOut (state : σ) :
    protocol.WritesComputed state (readOut.execute protocol state).requests := by
  intro before item vectors after made
  have member : .updateInsideChart item ∈
      (readOut.execute protocol state).requests.map Request.stage := by
    rw [made, List.map_append]
    exact List.mem_append_right _ List.mem_cons_self
  have listed := follows_readOut.1.subset member
  simp [Stage.ofReadOut] at listed

theorem writesComputed_pass (state : σ) :
    protocol.WritesComputed state (pass.execute protocol state).requests :=
  writesComputed_ask nofun fun _ => writesComputed_ask nofun fun items =>
    writesComputed_work writesComputed_readOut items _

/-! ### Passes that succeed -/

/-- Where work and the plan after it succeed, that plan succeeds on some state, and leads to the
same state. -/
theorem of_outcome_work_eq_ok {plan : Plan α Location Chart} {items : List (WorkItem Location)}
    {probability : α}
    (succeeds : ((work items plan).execute protocol state).outcome = .ok probability) :
    ∃ after, (plan.execute protocol after).outcome = .ok probability ∧
      ((work items plan).execute protocol state).state = (plan.execute protocol after).state := by
  induction items generalizing state with
  | nil => exact ⟨state, succeeds, rfl⟩
  | cons item rest inductionHypothesis =>
    obtain ⟨vectors, computed, written⟩ := of_outcome_ask_eq_ok succeeds
    obtain ⟨_, wrote, others⟩ := of_outcome_ask_eq_ok written
    obtain ⟨after, ends, same⟩ := inductionHypothesis others
    rw [work, execute_ask_of_ok computed, execute_ask_of_ok wrote]
    exact ⟨after, ends, same⟩

/-- Where look-ups and the plan after them succeed, the plan was given what the chart holds. -/
theorem of_outcome_lookUps_eq_ok {chart : Chart} {root : Location}
    {next : List (ValueVector α) → Plan α Location Chart} {count variableIndex : Nat}
    {probability : α}
    (succeeds : ((lookUps chart root count variableIndex next).execute protocol state).outcome =
      .ok probability) :
    ∃ roots, (List.range' variableIndex count).map (protocol.lookup chart · root) =
        roots.map some ∧
      ((next roots).execute protocol state).outcome = .ok probability := by
  induction count generalizing variableIndex next with
  | zero => exact ⟨[], rfl, succeeds⟩
  | succ count inductionHypothesis =>
    obtain ⟨vector, answered, others⟩ := of_outcome_ask_eq_ok succeeds
    obtain ⟨rest, found, ends⟩ := inductionHypothesis others
    have here : protocol.lookup chart variableIndex root = some vector :=
      Protocol.answer_lookup_eq_ok_iff.mp answered
    refine ⟨vector :: rest, ?_, ends⟩
    rw [List.range'_succ, List.map_cons, found, here, List.map_cons]

/-- Where a read-out succeeds, its result is read out of the state. -/
theorem of_outcome_readOut_eq_ok {probability : α}
    (succeeds : (readOut.execute protocol state).outcome = .ok probability) :
    protocol.ReadsOut state probability := by
  obtain ⟨root, located, succeeds⟩ := of_outcome_ask_eq_ok succeeds
  obtain ⟨(counts : List Nat), counted, succeeds⟩ := of_outcome_ask_eq_ok succeeds
  obtain ⟨chart, opened, succeeds⟩ := of_outcome_ask_eq_ok succeeds
  obtain ⟨roots, found, succeeds⟩ := of_outcome_lookUps_eq_ok succeeds
  obtain ⟨(prior : Prior α), given, succeeds⟩ := of_outcome_ask_eq_ok succeeds
  obtain ⟨_, combined, finished⟩ := of_outcome_ask_eq_ok succeeds
  cases finished
  obtain ⟨lengths, same⟩ := Prior.marginal_eq_ok_iff.mp
    (Protocol.answer_marginal_eq_ok_iff.mp combined)
  have rootCount : roots.length = prior.cellCount := by
    rw [← List.length_map List.length, ← lengths, List.length_map, Prior.cellCount]
  have counts_eq : counts.head?.getD 0 = prior.cellCount := by
    rw [← rootCount, ← List.length_map some, ← found, List.length_map, List.length_range']
  rw [counts_eq, ← List.range_eq_range'] at found
  exact ⟨root, counts, chart, roots, prior, located, counted, opened, given, counts_eq, found,
    lengths, same.symm⟩

/-- Where a pass succeeds, its result is read out of the state that it leaves. -/
theorem of_outcome_pass_eq_ok {probability : α}
    (succeeds : (pass.execute protocol state).outcome = .ok probability) :
    protocol.ReadsOut (pass.execute protocol state).state probability := by
  obtain ⟨_, prepared, scheduled⟩ := of_outcome_ask_eq_ok succeeds
  obtain ⟨items, read, worked⟩ := of_outcome_ask_eq_ok scheduled
  obtain ⟨after, ends, same⟩ := of_outcome_work_eq_ok worked
  rw [pass, execute_ask_of_ok prepared, execute_ask_of_ok read]
  show protocol.ReadsOut ((work items readOut).execute protocol _).state probability
  rw [same, state_readOut]
  exact of_outcome_readOut_eq_ok ends

/-- A plan that requests an operation that is not provided fails with the name of it. -/
theorem outcome_of_not_provided (plan : Plan α Location Chart) {request : Request α Location Chart}
    (made : request ∈ (plan.execute protocol state).requests) {operation : Operation}
    (needs : request.operation? = some operation)
    (missing : protocol.provides operation = false) :
    (plan.execute protocol state).outcome = .error (.fault (.notImplemented operation)) := by
  obtain ⟨before, after, split⟩ := List.append_of_mem made
  exact (plan.stops_at_failure protocol split
    (protocol.answer_of_not_provided needs missing _)).2

end Plan

/-! ### Passes of any network -/

/-- A pass of any network makes the requests of the course in their order, up to the first one
that fails, which is reported. The state that it leaves has the effects of the requests made and
no others, what was written is what was computed, and a request for an operation that is not
provided fails with its name. A result is read out of that state, with all root vectors as the
chart holds them. -/
theorem Protocol.run_stops_at_first_failure
    (protocol : Protocol α σ Location Observations Chart) (state : σ) :
    let performed := Plan.pass.execute protocol state
    let items := protocol.scheduled (protocol.effect state .initInside)
    let count := protocol.rootCount performed.state
    Action.runOn protocol.run state = (performed.outcome, performed.state) ∧
    performed.Follows (Stage.course items count) ∧
    performed.state = performed.requests.foldl protocol.effect state ∧
    (∀ before request after cause, performed.requests = before ++ request :: after →
      protocol.answer (before.foldl protocol.effect state) request = .error cause →
      after = [] ∧ performed.outcome = .error cause) ∧
    (∀ cause, performed.outcome = .error cause →
      ∃ before request, performed.requests = before ++ [request] ∧
        protocol.answer (before.foldl protocol.effect state) request = .error cause) ∧
    (∀ request ∈ performed.requests, ∀ operation, request.operation? = some operation →
      protocol.provides operation = false →
      performed.outcome = .error (.fault (.notImplemented operation))) ∧
    protocol.WritesComputed state performed.requests ∧
    ∀ probability, performed.outcome = .ok probability →
      protocol.ReadsOut performed.state probability := by
  refine ⟨Plan.describes_pass state, Plan.follows_pass, Plan.pass.state_execute protocol state,
    fun before request after cause made fails => ?_, fun cause failed => ?_,
    fun request made operation needs missing => ?_, Plan.writesComputed_pass state,
    fun probability succeeds => ?_⟩
  · exact Plan.pass.stops_at_failure protocol made fails
  · exact Plan.pass.failure_of_last protocol failed
  · exact Plan.pass.outcome_of_not_provided made needs missing
  · exact Plan.of_outcome_pass_eq_ok succeeds

/-- A network without any operation: its chart is empty and it has one location. -/
def Protocol.bare (α : Type) [Scalar α] : Protocol α Unit Unit Unit Unit where
  lookup _ _ _ := none
  describe _ := ""

-- The optional preparation goes well, and nothing is asked after the missing schedule.
example :
    (Plan.pass.execute (Protocol.bare α) ()).requests.map Request.stage =
        [.initInside, .insideSchedule] ∧
      (Plan.pass.execute (Protocol.bare α) ()).outcome =
        .error (.fault (.notImplemented .insideSchedule)) := ⟨rfl, rfl⟩

end RecursiveBayes
