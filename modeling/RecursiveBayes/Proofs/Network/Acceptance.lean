/-
This file says which raw data the constructors accept, condition by condition, and
which defect is reported where the parts of a network are accepted on their own but do
not fit together. What is checked of the parts is a list of checks, each with a rank;
the ranks increase along the list, and the defect that is reported is that of the
check of least rank among those that find one.
-/

import RecursiveBayes.Proofs.Network.Drafts
import RecursiveBayes.Proofs.Search

namespace RecursiveBayes

variable {α : Type}

/-! ### Checks -/

/-- What is checked of cells and a prior that are accepted on their own. -/
inductive Check where
  /-- The prior has a distribution for each cell. -/
  | counts
  /-- The distribution for a cell has a weight for each value of the cell. -/
  | values (cell : Nat)
  /-- A child of a transition of a cell is a cell that fits its axis. -/
  | child (cell transition : Nat) (side : Side)
  deriving DecidableEq

/-- The place of a check among all of them, in the order of lists: the numbers come first, and then
the cells one after the other, each with its distribution before its transitions. -/
def Check.rank : Check → List Nat
  | counts => []
  | values cell => [cell]
  | child cell transition .left => [cell, transition, 0]
  | child cell transition .right => [cell, transition, 1]

/-- The cell of a child of a transition of the cell `owner`. A child without a number is the owner
itself. -/
def Side.child (children : Option (Nat × Nat)) (owner : Nat) : Side → Nat
  | left => (children.map Prod.fst).getD owner
  | right => (children.map Prod.snd).getD owner

/-- The number of values that a table over pairs has for a child. -/
def Side.axis (weights : Tensor α 2) : Side → Nat
  | left => weights.leftAxis
  | right => weights.rightAxis

namespace NetworkDraft

/-- What is wrong with a child of a transition. -/
def misfit? (draft : NetworkDraft α) (cell transition : Nat) (side : Side) :
    TransitionDraft α → Option (ModelDefect α)
  | .terminal _ => none
  | .binary weights children =>
    match draft.cells[side.child children cell]? with
    | none => some (.missingChild cell transition side (side.child children cell))
    | some child =>
      if child.cardinality = side.axis weights then
        none
      else
        some (.childAxis cell transition side (side.axis weights) (side.child children cell)
          child.cardinality)

/-- What a check finds. There is nothing to find in a cell, a distribution or a transition that
does not exist. -/
def defectAt (draft : NetworkDraft α) : Check → Option (ModelDefect α)
  | .counts =>
    if draft.prior.values.length = draft.cells.length then
      none
    else
      some (.priorCells draft.prior.values.length draft.cells.length)
  | .values index => do
    let cell ← draft.cells[index]?
    let weights ← draft.prior.values[index]?
    if weights.length = cell.cardinality then
      none
    else
      some (.priorValues index weights.length cell.cardinality)
  | .child index position side => do
    let cell ← draft.cells[index]?
    let transition ← cell.transitions[position]?
    draft.misfit? index position side transition

end NetworkDraft

/-! ### The order of the checks -/

/-- The numbers along a numbered list increase. -/
theorem pairwise_zipIdx {Item : Type} (items : List Item) :
    items.zipIdx.Pairwise fun first second => first.2 < second.2 := by
  refine List.pairwise_iff_getElem.mpr fun place other _ _ less => ?_
  rw [List.getElem_zipIdx, List.getElem_zipIdx]
  exact Nat.add_lt_add_left less 0

/-- The checks of a cell. -/
def CellDraft.checks (cell : CellDraft α) (index : Nat) : List Check :=
  .values index :: cell.transitions.zipIdx.flatMap fun entry =>
    [.child index entry.2 .left, .child index entry.2 .right]

/-- The checks of a network. -/
def NetworkDraft.checks (draft : NetworkDraft α) : List Check :=
  .counts :: draft.cells.zipIdx.flatMap fun entry => entry.1.checks entry.2

/-- The rank of a check of a child begins with the numbers of the cell and the transition. -/
theorem Check.exists_rank_child {cell transition : Nat} {check : Check}
    (member : check ∈ [Check.child cell transition .left, Check.child cell transition .right]) :
    ∃ rest, check.rank = cell :: transition :: rest := by
  rcases List.mem_pair.mp member with rfl | rfl <;> exact ⟨_, rfl⟩

/-- The rank of a check of a cell begins with the number of the cell. -/
theorem CellDraft.exists_rank {cell : CellDraft α} {index : Nat} {check : Check}
    (member : check ∈ cell.checks index) : ∃ rest, check.rank = index :: rest := by
  rcases List.mem_cons.mp member with rfl | member
  · exact ⟨_, rfl⟩
  · obtain ⟨entry, _, member⟩ := List.mem_flatMap.mp member
    obtain ⟨rest, rank⟩ := Check.exists_rank_child member
    exact ⟨_, rank⟩

theorem CellDraft.pairwise_checks (cell : CellDraft α) (index : Nat) :
    (cell.checks index).Pairwise fun first second => first.rank < second.rank := by
  refine List.pairwise_cons.mpr ⟨?_, List.pairwise_flatMap.mpr ⟨?_, ?_⟩⟩
  · intro check member
    obtain ⟨entry, _, member⟩ := List.mem_flatMap.mp member
    obtain ⟨rest, rank⟩ := Check.exists_rank_child member
    rw [rank]
    exact List.cons_lt_cons_iff.mpr (Or.inr ⟨rfl, List.nil_lt_cons _ _⟩)
  · intro entry _
    refine List.pairwise_pair.mpr (List.cons_lt_cons_iff.mpr (Or.inr ⟨rfl, ?_⟩))
    exact List.cons_lt_cons_iff.mpr (Or.inr ⟨rfl, by decide⟩)
  · refine (pairwise_zipIdx _).imp fun {first second} less check member other otherMember => ?_
    obtain ⟨rest, rank⟩ := Check.exists_rank_child member
    obtain ⟨otherRest, otherRank⟩ := Check.exists_rank_child otherMember
    rw [rank, otherRank]
    exact List.cons_lt_cons_iff.mpr (Or.inr ⟨rfl, List.cons_lt_cons_iff.mpr (Or.inl less)⟩)

/-- The ranks increase along the list of checks. -/
theorem NetworkDraft.pairwise_checks (draft : NetworkDraft α) :
    draft.checks.Pairwise fun first second => first.rank < second.rank := by
  refine List.pairwise_cons.mpr ⟨?_, List.pairwise_flatMap.mpr ⟨?_, ?_⟩⟩
  · intro check member
    obtain ⟨entry, _, member⟩ := List.mem_flatMap.mp member
    obtain ⟨rest, rank⟩ := CellDraft.exists_rank member
    rw [rank]
    exact List.nil_lt_cons _ _
  · exact fun entry _ => entry.1.pairwise_checks entry.2
  · refine (pairwise_zipIdx _).imp fun {first second} less check member other otherMember => ?_
    obtain ⟨rest, rank⟩ := CellDraft.exists_rank member
    obtain ⟨otherRest, otherRank⟩ := CellDraft.exists_rank otherMember
    rw [rank, otherRank]
    exact List.cons_lt_cons_iff.mpr (Or.inl less)

/-- A check that finds something is in the list. -/
theorem NetworkDraft.mem_checks (draft : NetworkDraft α) (check : Check)
    (found : draft.defectAt check ≠ none) : check ∈ draft.checks := by
  have inCell {index : Nat} {cell : CellDraft α} (foundCell : draft.cells[index]? = some cell)
      (member : check ∈ cell.checks index) : check ∈ draft.checks :=
    List.mem_cons_of_mem _ (List.mem_flatMap.mpr
      ⟨(cell, index), List.mem_zipIdx_iff_getElem?.mpr foundCell, member⟩)
  cases check with
  | counts => exact List.mem_cons_self
  | values index =>
    cases foundCell : draft.cells[index]? with
    | none => simp [defectAt, foundCell] at found
    | some cell => exact inCell foundCell List.mem_cons_self
  | child index position side =>
    cases foundCell : draft.cells[index]? with
    | none => simp [defectAt, foundCell] at found
    | some cell =>
      cases foundTransition : cell.transitions[position]? with
      | none => simp [defectAt, foundCell, foundTransition] at found
      | some transition =>
        refine inCell foundCell (List.mem_cons_of_mem _ (List.mem_flatMap.mpr
          ⟨(transition, position), List.mem_zipIdx_iff_getElem?.mpr foundTransition, ?_⟩))
        cases side <;> simp

/-! ### The defect that is reported -/

variable [Scalar α]

namespace Network

variable {cells : List (Cell α)} {prior : Prior α} {configuration : Configuration}

/-- What is wrong with a child is what the check of it finds. -/
theorem childDefect?_eq_misfit? {index position : Nat} {side : Side}
    {transition : BinaryTransition α} :
    childDefect? cells index position side (side.child transition.children index)
        (side.axis transition.table.weights) =
      NetworkDraft.misfit? ⟨cells.map Cell.draft, prior.draft, configuration⟩ index position side
        (Transition.binary transition).draft := by
  simp only [childDefect?, Transition.draft, NetworkDraft.misfit?, List.getElem?_map]
  cases cells[side.child transition.children index]? <;> rfl

/-- What is wrong with the children of a transition is what the checks of both find. -/
theorem transitionDefect?_eq_findSome? {index position : Nat} {cell : Cell α}
    {transition : Transition α} (found : cells[index]? = some cell)
    (inside : cell.transitions[position]? = some transition) :
    transitionDefect? cells index (transition, position) =
      [Check.child index position .left, Check.child index position .right].findSome?
        (NetworkDraft.defectAt ⟨cells.map Cell.draft, prior.draft, configuration⟩) := by
  have atChild (side : Side) :
      NetworkDraft.defectAt ⟨cells.map Cell.draft, prior.draft, configuration⟩
          (.child index position side) =
        NetworkDraft.misfit? ⟨cells.map Cell.draft, prior.draft, configuration⟩ index position side
          transition.draft := by
    simp [NetworkDraft.defectAt, found, Cell.draft, inside]
  rw [findSome?_pair, atChild, atChild]
  cases transition with
  | terminal transition => rfl
  | binary transition => exact congrArg₂ Option.or childDefect?_eq_misfit? childDefect?_eq_misfit?

/-- What is wrong with a cell is the first that its checks find. -/
theorem cellDefect?_eq_findSome? {index : Nat} {cell : Cell α} {weights : ValueVector α}
    (found : cells[index]? = some cell) (foundWeights : prior.valueWeights[index]? = some weights) :
    cellDefect? cells ((cell, weights), index) =
      (cell.draft.checks index).findSome?
        (NetworkDraft.defectAt ⟨cells.map Cell.draft, prior.draft, configuration⟩) := by
  have atValues : NetworkDraft.defectAt ⟨cells.map Cell.draft, prior.draft, configuration⟩
      (.values index) =
        if weights.length = cell.cardinality then none
        else some (.priorValues index weights.length cell.cardinality) := by
    simp [NetworkDraft.defectAt, found, Prior.draft, foundWeights, Cell.draft]
  rw [CellDraft.checks, List.findSome?_cons, atValues, cellDefect?]
  split
  · rw [Cell.draft, List.zipIdx_map, List.flatMap_map]
    refine findSome?_eq_findSome?_flatMap fun entry member => ?_
    exact transitionDefect?_eq_findSome? found (List.mem_zipIdx_iff_getElem?.mp member)
  · rfl

/-- The defect of a network is the first that its checks find. -/
theorem firstDefect?_eq_findSome? :
    firstDefect? cells prior =
      (NetworkDraft.checks ⟨cells.map Cell.draft, prior.draft, configuration⟩).findSome?
        (NetworkDraft.defectAt ⟨cells.map Cell.draft, prior.draft, configuration⟩) := by
  have atCounts : NetworkDraft.defectAt ⟨cells.map Cell.draft, prior.draft, configuration⟩
      .counts =
        if prior.cellCount = cells.length then none
        else some (.priorCells prior.cellCount cells.length) := by
    rw [NetworkDraft.defectAt, List.length_map]
    rfl
  rw [NetworkDraft.checks, List.findSome?_cons, atCounts, firstDefect?]
  split
  · rename_i counts
    -- The distributions are as many as the cells, so they do not shorten the numbered list.
    have zipped : cells.zipIdx =
        (cells.zip prior.valueWeights).zipIdx.map (Prod.map Prod.fst id) := by
      rw [← List.zipIdx_map, List.map_fst_zip (Nat.le_of_eq counts.symm)]
    rw [List.zipIdx_map, zipped, List.map_map, List.flatMap_map]
    refine findSome?_eq_findSome?_flatMap fun entry member => ?_
    obtain ⟨found, foundWeights⟩ :=
      List.getElem?_zip_eq_some.mp (List.mem_zipIdx_iff_getElem?.mp member)
    exact cellDefect?_eq_findSome? found foundWeights
  · rfl

end Network

/-! ### Well-formed drafts -/

theorem Sizes.product_pos_iff {sizes : List Nat} :
    0 < Sizes.product sizes ↔ ∀ size ∈ sizes, 0 < size := by
  induction sizes with
  | nil => simp [Sizes.product]
  | cons size rest inductionHypothesis =>
    rw [Sizes.product, CanonicallyOrderedAdd.mul_pos, inductionHypothesis, List.forall_mem_cons]

/-- A table is sound exactly if all its entries are weights and all its axes have places. -/
theorem Tensor.sound_iff {rank : Nat} {weights : Tensor α rank} :
    weights.Sound ↔ (∀ weight ∈ weights.entries.toList, Scalar.isWeight weight = true) ∧
      ∀ size ∈ weights.shape, 0 < size := by
  have axes : weights.isEmpty = false ↔ ∀ size ∈ weights.shape, 0 < size := by
    rw [isEmpty_eq_false_iff, rows, Sizes.product_pos_iff, shape, List.forall_mem_append,
      List.forall_mem_singleton]
  rw [← axes, ← ValueVector.firstInvalid?_eq_none_iff, ← firstInvalid?_eq_firstInvalid?_toList]
  exact ⟨fun sound => ⟨sound.valid, sound.nonempty⟩, fun both => ⟨both.1, both.2⟩⟩

namespace TransitionDraft

/-- The sizes of all axes of the table. -/
def shape : TransitionDraft α → List Nat
  | terminal weights => weights.shape
  | binary weights _ => weights.shape

/-- All entries of the table. -/
def entries : TransitionDraft α → List α
  | terminal weights => weights.entries.toList
  | binary weights _ => weights.entries.toList

theorem sound_iff {draft : TransitionDraft α} :
    draft.Sound ↔ (∀ weight ∈ draft.entries, Scalar.isWeight weight = true) ∧
      ∀ size ∈ draft.shape, 0 < size := by
  cases draft <;> exact Tensor.sound_iff

end TransitionDraft

namespace NetworkDraft

/-- All weights of a draft, wherever they stand. -/
def weights (draft : NetworkDraft α) : List α :=
  (draft.cells.flatMap fun cell =>
      cell.weights ++ cell.transitions.flatMap TransitionDraft.entries) ++
    (draft.prior.structural ++ draft.prior.values.flatMap id)

/-- Cells and a prior that make up a network, as conditions on the raw data. The conditions on the
children hold for every binary transition, whatever its action weight is. -/
structure WellFormed (draft : NetworkDraft α) : Prop where
  cardinality_pos : ∀ cell ∈ draft.cells, 0 < cell.cardinality
  weights_valid : ∀ weight ∈ draft.weights, Scalar.isWeight weight = true
  axes_pos : ∀ cell ∈ draft.cells, ∀ transition ∈ cell.transitions,
    ∀ size ∈ transition.shape, 0 < size
  length_weights : ∀ cell ∈ draft.cells, cell.weights.length = cell.transitions.length
  parents_eq : ∀ cell ∈ draft.cells, ∀ transition ∈ cell.transitions,
    transition.parents = cell.cardinality
  length_structural : draft.prior.structural.length = draft.cells.length
  length_prior : draft.prior.values.length = draft.cells.length
  values : ∀ (index : Nat) (cell : CellDraft α) (weights : ValueVector α),
    draft.cells[index]? = some cell → draft.prior.values[index]? = some weights →
      weights ≠ [] ∧ weights.length = cell.cardinality
  children : ∀ (index : Nat) (cell : CellDraft α), draft.cells[index]? = some cell →
    ∀ (weights : Tensor α 2) (children : Option (Nat × Nat)),
      TransitionDraft.binary weights children ∈ cell.transitions → ∀ side : Side,
        ∃ child, draft.cells[side.child children index]? = some child ∧
          child.cardinality = side.axis weights

omit [Scalar α] in
/-- All weights of a draft have a property exactly if those of its cells, of their transitions and
of the prior have it. -/
theorem forall_mem_weights {draft : NetworkDraft α} {property : α → Prop} :
    (∀ weight ∈ draft.weights, property weight) ↔
      (∀ cell ∈ draft.cells, (∀ weight ∈ cell.weights, property weight) ∧
        ∀ transition ∈ cell.transitions, ∀ weight ∈ transition.entries, property weight) ∧
      (∀ weight ∈ draft.prior.structural, property weight) ∧
      ∀ weights ∈ draft.prior.values, ∀ weight ∈ weights, property weight := by
  simp only [weights, List.forall_mem_append, List.forall_mem_flatMap, id]

theorem WellFormed.sound {draft : NetworkDraft α} (wellFormed : draft.WellFormed) :
    draft.Sound := by
  obtain ⟨inCells, inStructural, inValues⟩ := forall_mem_weights.mp wellFormed.weights_valid
  refine ⟨fun cell member => ?_, ?_, wellFormed.length_prior, ?_, ?_⟩
  · exact {
      cardinality_pos := wellFormed.cardinality_pos cell member
      weights_valid := ValueVector.firstInvalid?_eq_none_iff.mpr (inCells cell member).1
      length_weights := wellFormed.length_weights cell member
      transitions := fun transition inside => TransitionDraft.sound_iff.mpr
        ⟨(inCells cell member).2 transition inside,
          wellFormed.axes_pos cell member transition inside⟩
      parents_eq := wellFormed.parents_eq cell member }
  · exact {
      structural_valid := ValueVector.firstInvalid?_eq_none_iff.mpr inStructural
      length_structural := wellFormed.length_structural.trans wellFormed.length_prior.symm
      values_valid := fun weights member =>
        ValueVector.firstInvalid?_eq_none_iff.mpr (inValues weights member)
      values_nonempty := fun weights member => by
        obtain ⟨index, inside, found⟩ := List.mem_iff_getElem.mp member
        have indexLt : index < draft.cells.length := wellFormed.length_prior ▸ inside
        exact (wellFormed.values index _ weights (List.getElem?_eq_getElem indexLt)
          (List.getElem?_eq_some_iff.mpr ⟨inside, found⟩)).1 }
  · exact fun index cell weights found foundWeights =>
      (wellFormed.values index cell weights found foundWeights).2
  · intro index cell found transition member
    cases transition with
    | terminal weights => trivial
    | binary weights children =>
      have fits := wellFormed.children index cell found weights children member
      exact ⟨fits .left, fits .right⟩

theorem Sound.wellFormed {draft : NetworkDraft α} (sound : draft.Sound) : draft.WellFormed where
  cardinality_pos cell member := (sound.cells cell member).cardinality_pos
  weights_valid := forall_mem_weights.mpr
    ⟨fun cell member =>
      ⟨ValueVector.firstInvalid?_eq_none_iff.mp (sound.cells cell member).weights_valid,
        fun transition inside =>
          (TransitionDraft.sound_iff.mp ((sound.cells cell member).transitions _ inside)).1⟩,
      ValueVector.firstInvalid?_eq_none_iff.mp sound.prior.structural_valid,
      fun weights member =>
        ValueVector.firstInvalid?_eq_none_iff.mp (sound.prior.values_valid weights member)⟩
  axes_pos cell member transition inside :=
    (TransitionDraft.sound_iff.mp ((sound.cells cell member).transitions transition inside)).2
  length_weights cell member := (sound.cells cell member).length_weights
  parents_eq cell member := (sound.cells cell member).parents_eq
  length_structural := sound.prior.length_structural.trans sound.length_prior
  length_prior := sound.length_prior
  values index cell weights found foundWeights :=
    ⟨sound.prior.values_nonempty weights (List.mem_of_getElem? foundWeights),
      sound.length_values index cell weights found foundWeights⟩
  children index cell found weights children member side := by
    have fits := sound.children index cell found _ member
    cases side with
    | left => exact fits.1
    | right => exact fits.2

/-! ### Acceptance and the first defect -/

/-- Where the cells and the prior are accepted on their own, the network is refused with the defect
that is found first. -/
theorem build_eq_error_iff {draft : NetworkDraft α}
    (cellsAccepted : ∀ cell ∈ draft.cells, ∃ built, cell.build = .ok built)
    (priorAccepted : ∃ prior, draft.prior.build = .ok prior) {fault : Fault α} :
    draft.build = .error fault ↔
      ∃ defect, draft.checks.findSome? draft.defectAt = some defect ∧
        fault = .malformed defect := by
  obtain ⟨drafts, priorDraft, configuration⟩ := draft
  have built : drafts ∈ Set.range (List.map Cell.draft) := by
    rw [Set.range_list_map]
    intro cell member
    obtain ⟨made, builtCell⟩ := cellsAccepted cell member
    exact ⟨made, CellDraft.build_eq_ok_iff.mp builtCell⟩
  obtain ⟨cells, rfl⟩ := built
  obtain ⟨prior, builtPrior⟩ := priorAccepted
  obtain rfl := PriorDraft.build_eq_ok_iff.mp builtPrior
  have each (item : CellDraft α) (result : Cell α) :
      item.build = .ok result ↔ result.draft = item := CellDraft.build_eq_ok_iff
  have builtCells : (cells.map Cell.draft).mapM CellDraft.build = .ok cells :=
    (mapM_eq_ok_iff_map each).mpr rfl
  rw [build, builtCells, ok_bind, builtPrior, ok_bind, ← Network.firstDefect?_eq_findSome?,
    Network.build]
  constructor
  · intro refused
    split at refused
    · rename_i defect found
      cases refused
      exact ⟨defect, found, rfl⟩
    · cases refused
  · rintro ⟨defect, found, rfl⟩
    split
    · rename_i other foundOther
      cases found.symm.trans foundOther
      rfl
    · rename_i sound
      cases found.symm.trans sound

/-- The constructors accept exactly the well-formed drafts. Where the cells and the prior are
accepted on their own and only do not fit together, the defect that is reported is that of the
first check that finds one: the number of distributions, then cell by cell the length of the
distribution and the transitions in order, with the left child before the right one and a missing
child before one that does not fit. -/
theorem build_accepts_wellFormed_reports_first (draft : NetworkDraft α) :
    ((∃ network, draft.build = .ok network) ↔ draft.WellFormed) ∧
    ((∀ cell ∈ draft.cells, ∃ built, cell.build = .ok built) →
      (∃ prior, draft.prior.build = .ok prior) → ∀ fault : Fault α,
        draft.build = .error fault ↔
          ∃ check defect, fault = .malformed defect ∧ draft.defectAt check = some defect ∧
            ∀ earlier : Check, earlier.rank < check.rank → draft.defectAt earlier = none) := by
  constructor
  · rw [exists_build_iff]
    exact ⟨Sound.wellFormed, WellFormed.sound⟩
  · intro cellsAccepted priorAccepted fault
    have first (defect : ModelDefect α) :
        draft.checks.findSome? draft.defectAt = some defect ↔
          ∃ check, draft.defectAt check = some defect ∧
            ∀ earlier : Check, earlier.rank < check.rank → draft.defectAt earlier = none :=
      findSome?_eq_some_iff_first draft.pairwise_checks (fun check other => List.lt_asymm)
        draft.mem_checks
    rw [build_eq_error_iff cellsAccepted priorAccepted]
    simp only [first]
    constructor
    · rintro ⟨defect, ⟨check, found, nothing⟩, rfl⟩
      exact ⟨check, defect, rfl, found, nothing⟩
    · rintro ⟨check, defect, rfl, found, nothing⟩
      exact ⟨defect, ⟨check, found, nothing⟩, rfl⟩

/-- Two cells of which the first refers to a cell that is missing, and a distribution that does not
fit the second. -/
def misreferring : NetworkDraft ℚ where
  cells :=
    [{ cardinality := 1
       weights := [3, 1]
       transitions :=
        [.terminal ⟨#v[4], 1, #[3, 1, 1, 0], by decide⟩,
         .binary ⟨#v[1, 2], 1, #[1, 2], by decide⟩ (some (0, 5))] },
     { cardinality := 1
       weights := [1]
       transitions := [.terminal ⟨#v[4], 1, #[1, 3, 0, 2], by decide⟩] }]
  prior := { structural := [1, 1], values := [[1], [1, 1]] }
  configuration := {}

/-- The missing child is reported, since the first cell is checked before the second one. -/
theorem misreferring_reports_missing_child :
    ((∀ cell ∈ misreferring.cells, ∃ built, cell.build = .ok built) ∧
      ∃ prior, misreferring.prior.build = .ok prior) ∧
    misreferring.defectAt (.values 1) = some (.priorValues 1 2 1) ∧
    misreferring.build = .error (.malformed (.missingChild 0 1 .right 5)) := by
  have cellsAccepted : ∀ cell ∈ misreferring.cells, ∃ built, cell.build = .ok built := by
    have accepted : ∀ cell ∈ misreferring.cells, cell.build.isOk = true := by decide +kernel
    exact fun cell member => exists_eq_ok_of_isOk (accepted cell member)
  have priorAccepted : ∃ prior, misreferring.prior.build = .ok prior :=
    exists_eq_ok_of_isOk (by decide +kernel)
  obtain ⟨_, reports⟩ := build_accepts_wellFormed_reports_first misreferring
  refine ⟨⟨cellsAccepted, priorAccepted⟩, by decide +kernel, ?_⟩
  refine (reports cellsAccepted priorAccepted _).mpr
    ⟨.child 0 1 .right, _, rfl, by decide +kernel, fun earlier before => ?_⟩
  cases earlier with
  | counts => rfl
  | values index =>
    obtain rfl : index = 0 := by simpa [Check.rank, List.cons_lt_cons_iff] using before
    decide +kernel
  | child index position side =>
    cases side with
    | left =>
      obtain ⟨rfl, rfl | rfl⟩ : index = 0 ∧ (position = 0 ∨ position = 1) := by
        simpa [Check.rank, List.cons_lt_cons_iff] using before
      · rfl
      · decide +kernel
    | right =>
      obtain ⟨rfl, rfl⟩ : index = 0 ∧ position = 0 := by
        simpa [Check.rank, List.cons_lt_cons_iff] using before
      rfl

end NetworkDraft

end RecursiveBayes
