/-
This file says which drafts are accepted. Everything that was built has a draft, the
raw data that it holds, and building a draft gives what has this draft and nothing
else. A draft is accepted exactly if it is sound: if its numbers are weights, no axis
of it is empty, and its parts fit together.

A network is changed by changing its draft. What has to be checked of the changed
network is then the soundness of a draft, and the check of the constructors never has
to be followed again.
-/

import RecursiveBayes.Network.Draft
import RecursiveBayes.Proofs.Network.Building
import RecursiveBayes.Proofs.Network.Soundness
import RecursiveBayes.Proofs.Transition.Tables

namespace RecursiveBayes

variable {α : Type} [Scalar α]

/-! ### The drafts of what was built -/

/-- The table and the children of a transition. -/
def Transition.draft : Transition α → TransitionDraft α
  | terminal transition => .terminal transition.table.weights
  | binary transition => .binary transition.table.weights transition.children

def Cell.draft (cell : Cell α) : CellDraft α where
  cardinality := cell.cardinality
  weights := cell.weights
  transitions := cell.transitions.map Transition.draft

def Prior.draft (prior : Prior α) : PriorDraft α where
  structural := prior.structuralWeights
  values := prior.valueWeights

def Network.draft (network : Network α) : NetworkDraft α where
  cells := network.cells.map Cell.draft
  prior := network.prior.draft
  configuration := network.configuration

theorem TransitionDraft.build_eq_ok_iff {draft : TransitionDraft α} {transition : Transition α} :
    draft.build = .ok transition ↔ transition.draft = draft := by
  cases draft with
  | terminal weights =>
    rw [build, bind_eq_ok_iff]
    constructor
    · rintro ⟨terminal, built, same⟩
      cases same
      rw [Transition.draft, TerminalTransition.build_eq_ok_iff.mp built]
    · intro same
      cases transition with
      | terminal terminal =>
        cases same
        exact ⟨terminal, TerminalTransition.build_eq_ok_iff.mpr rfl, rfl⟩
      | binary binary => cases same
  | binary weights children =>
    rw [build, bind_eq_ok_iff]
    constructor
    · rintro ⟨binary, built, same⟩
      cases same
      obtain ⟨table, named⟩ := BinaryTransition.build_eq_ok_iff.mp built
      rw [Transition.draft, table, named]
    · intro same
      cases transition with
      | terminal terminal => cases same
      | binary binary =>
        cases same
        exact ⟨binary, BinaryTransition.build_eq_ok_iff.mpr ⟨rfl, rfl⟩, rfl⟩

/-- A transition is determined by its draft. -/
theorem Transition.draft_injective :
    Function.Injective (draft : Transition α → TransitionDraft α) := by
  intro transition other same
  have built : other.draft.build = .ok transition := TransitionDraft.build_eq_ok_iff.mpr same
  exact Except.ok.inj (built.symm.trans (TransitionDraft.build_eq_ok_iff.mpr rfl))

/-- Where every request gives exactly what has it as its draft, a list of requests gives exactly
the list whose drafts they are. -/
theorem mapM_eq_ok_iff_map {ε Request Result : Type} {request : Request → Except ε Result}
    {draft : Result → Request}
    (build_iff : ∀ item result, request item = .ok result ↔ draft result = item)
    {items : List Request} {results : List Result} :
    items.mapM request = .ok results ↔ results.map draft = items := by
  have each (item : Request) (result : Result) :
      request item = .ok result ↔ item = draft result := (build_iff item result).trans eq_comm
  rw [mapM_eq_ok_iff, @eq_comm _ _ items, ← List.forall₂_eq_eq_eq, List.forall₂_map_right_iff]
  simp only [each]

theorem CellDraft.build_eq_ok_iff {draft : CellDraft α} {cell : Cell α} :
    draft.build = .ok cell ↔ cell.draft = draft := by
  have each (item : TransitionDraft α) (result : Transition α) :
      item.build = .ok result ↔ result.draft = item := TransitionDraft.build_eq_ok_iff
  rw [build, bind_eq_ok_iff]
  constructor
  · rintro ⟨domain, builtDomain, rest⟩
    obtain ⟨transitions, builtTransitions, built⟩ := bind_eq_ok_iff.mp rest
    obtain ⟨rfl, weights, rfl⟩ := Cell.build_eq_ok_iff.mp built
    rw [Cell.draft, (mapM_eq_ok_iff_map each).mp builtTransitions, weights, Cell.cardinality,
      Variable.build_eq_ok_iff.mp builtDomain]
  · rintro rfl
    exact ⟨cell.domain, Variable.build_eq_ok_iff.mpr rfl, bind_eq_ok_iff.mpr
      ⟨cell.transitions, (mapM_eq_ok_iff_map each).mpr rfl,
        Cell.build_eq_ok_iff.mpr ⟨rfl, rfl, rfl⟩⟩⟩

theorem PriorDraft.build_eq_ok_iff {draft : PriorDraft α} {prior : Prior α} :
    draft.build = .ok prior ↔ prior.draft = draft := by
  rw [build, Prior.build_eq_ok_iff, Prior.draft]
  constructor
  · rintro ⟨structural, values⟩
    rw [structural, values]
  · rintro rfl
    exact ⟨rfl, rfl⟩

/-- A draft is built into the network that has it as its draft. -/
theorem NetworkDraft.build_eq_ok_iff {draft : NetworkDraft α} {network : Network α} :
    draft.build = .ok network ↔ network.draft = draft := by
  have each (item : CellDraft α) (result : Cell α) :
      item.build = .ok result ↔ result.draft = item := CellDraft.build_eq_ok_iff
  rw [build, bind_eq_ok_iff]
  constructor
  · rintro ⟨cells, builtCells, rest⟩
    obtain ⟨prior, builtPrior, built⟩ := bind_eq_ok_iff.mp rest
    obtain ⟨rfl, rfl, configuration⟩ := Network.build_eq_ok_iff.mp built
    rw [Network.draft, (mapM_eq_ok_iff_map each).mp builtCells,
      PriorDraft.build_eq_ok_iff.mp builtPrior, configuration]
  · rintro rfl
    exact ⟨network.cells, (mapM_eq_ok_iff_map each).mpr rfl, bind_eq_ok_iff.mpr
      ⟨network.prior, PriorDraft.build_eq_ok_iff.mpr rfl,
        Network.build_eq_ok_iff.mpr ⟨rfl, rfl, rfl⟩⟩⟩

/-! ### Sound drafts -/

/-- The number of values that a transition would explain. -/
def TransitionDraft.parents : TransitionDraft α → Nat
  | terminal weights => weights.parents
  | binary weights _ => weights.parents

def TransitionDraft.Sound : TransitionDraft α → Prop
  | terminal weights => weights.Sound
  | binary weights _ => weights.Sound

/-- The data of a cell fit together, whatever cells its transitions refer to. -/
structure CellDraft.Sound (draft : CellDraft α) : Prop where
  cardinality_pos : 0 < draft.cardinality
  weights_valid : draft.weights.firstInvalid? = none
  length_weights : draft.weights.length = draft.transitions.length
  transitions : ∀ transition ∈ draft.transitions, transition.Sound
  parents_eq : ∀ transition ∈ draft.transitions, transition.parents = draft.cardinality

structure PriorDraft.Sound (draft : PriorDraft α) : Prop where
  structural_valid : draft.structural.firstInvalid? = none
  length_structural : draft.structural.length = draft.values.length
  values_valid : ∀ weights ∈ draft.values, ValueVector.firstInvalid? weights = none
  values_nonempty : ∀ weights ∈ draft.values, weights ≠ []

/-- There is a cell that fits an axis of a binary transition. -/
def NetworkDraft.HasChild (draft : NetworkDraft α) (child axis : Nat) : Prop :=
  ∃ cell, draft.cells[child]? = some cell ∧ cell.cardinality = axis

/-- The children of a transition of the cell `owner` are cells that fit its axes. A child without a
number is the cell itself. -/
def NetworkDraft.Fits (draft : NetworkDraft α) (owner : Nat) : TransitionDraft α → Prop
  | .terminal _ => True
  | .binary weights children =>
    draft.HasChild ((children.map Prod.fst).getD owner) weights.leftAxis ∧
      draft.HasChild ((children.map Prod.snd).getD owner) weights.rightAxis

/-- The cells and the prior are sound and fit together. -/
structure NetworkDraft.Sound (draft : NetworkDraft α) : Prop where
  cells : ∀ cell ∈ draft.cells, cell.Sound
  prior : draft.prior.Sound
  length_prior : draft.prior.values.length = draft.cells.length
  /-- The prior has one weight for each value of a cell. -/
  length_values : ∀ (index : Nat) (cell : CellDraft α) (weights : ValueVector α),
    draft.cells[index]? = some cell → draft.prior.values[index]? = some weights →
      weights.length = cell.cardinality
  children : ∀ (index : Nat) (cell : CellDraft α), draft.cells[index]? = some cell →
    ∀ transition ∈ cell.transitions, draft.Fits index transition

/-! ### Acceptance -/

theorem Transition.sound_draft (transition : Transition α) : transition.draft.Sound := by
  cases transition with
  | terminal terminal => exact terminal.table.sound
  | binary binary => exact binary.table.sound

theorem Transition.parents_draft (transition : Transition α) :
    transition.draft.parents = transition.parentCardinality := by
  cases transition <;> rfl

theorem TransitionDraft.Sound.exists_transition {draft : TransitionDraft α} (sound : draft.Sound) :
    ∃ transition : Transition α, transition.draft = draft := by
  cases draft with
  | terminal weights =>
    obtain ⟨table, rfl⟩ := Tensor.Sound.exists_table sound
    exact ⟨.terminal ⟨table⟩, rfl⟩
  | binary weights children =>
    obtain ⟨table, rfl⟩ := Tensor.Sound.exists_table sound
    exact ⟨.binary ⟨table, children⟩, rfl⟩

theorem Cell.sound_draft (cell : Cell α) : cell.draft.Sound where
  cardinality_pos := cell.domain.cardinality_pos
  weights_valid := cell.weights_valid
  length_weights := cell.length_weights.trans (List.length_map _).symm
  transitions := List.forall_mem_map.mpr fun transition _ => transition.sound_draft
  parents_eq := List.forall_mem_map.mpr fun transition member =>
    transition.parents_draft.trans (cell.parents_eq transition member)

theorem CellDraft.Sound.exists_cell {draft : CellDraft α} (sound : draft.Sound) :
    ∃ cell : Cell α, cell.draft = draft := by
  obtain ⟨cardinality, weights, drafts⟩ := draft
  obtain ⟨positive, valid, lengths, transitionsSound, parents⟩ := sound
  have built : drafts ∈ Set.range (List.map Transition.draft) := by
    rw [Set.range_list_map]
    exact fun draft member => (transitionsSound draft member).exists_transition
  obtain ⟨transitions, rfl⟩ := built
  refine ⟨⟨⟨cardinality, positive⟩, transitions, weights, valid,
    lengths.trans (List.length_map _), fun transition member => ?_⟩, rfl⟩
  rw [← transition.parents_draft]
  exact parents _ (List.mem_map_of_mem member)

theorem Prior.sound_draft (prior : Prior α) : prior.draft.Sound where
  structural_valid := prior.structuralWeights_valid
  length_structural := prior.length_structuralWeights
  values_valid := prior.valueWeights_valid
  values_nonempty := prior.valueWeights_nonempty

theorem PriorDraft.Sound.exists_prior {draft : PriorDraft α} (sound : draft.Sound) :
    ∃ prior : Prior α, prior.draft = draft :=
  ⟨⟨draft.structural, draft.values, sound.structural_valid, sound.length_structural,
    sound.values_valid, sound.values_nonempty⟩, rfl⟩

/-- A child fits an axis exactly if its draft does. -/
theorem exists_child_draft_iff {cells : List (Cell α)} {child axis : Nat} :
    (∃ cell, (cells.map Cell.draft)[child]? = some cell ∧ cell.cardinality = axis) ↔
      ∃ cell, cells[child]? = some cell ∧ cell.cardinality = axis := by
  simp only [List.getElem?_map, Option.map_eq_some_iff]
  constructor
  · rintro ⟨_, ⟨cell, found, rfl⟩, fits⟩
    exact ⟨cell, found, fits⟩
  · rintro ⟨cell, found, fits⟩
    exact ⟨cell.draft, ⟨cell, found, rfl⟩, fits⟩

theorem Network.sound_draft (network : Network α) : network.draft.Sound where
  cells := List.forall_mem_map.mpr fun cell _ => cell.sound_draft
  prior := network.prior.sound_draft
  length_prior := network.cellCount_prior.trans (List.length_map _).symm
  length_values index draft weights found foundWeights := by
    rw [Network.draft, List.getElem?_map, Option.map_eq_some_iff] at found
    obtain ⟨cell, foundCell, rfl⟩ := found
    obtain ⟨others, foundOthers, lengths, _⟩ := network.sound_cell foundCell
    cases foundOthers.symm.trans foundWeights
    exact lengths
  children index draft found := by
    rw [Network.draft, List.getElem?_map, Option.map_eq_some_iff] at found
    obtain ⟨cell, foundCell, rfl⟩ := found
    refine List.forall_mem_map.mpr fun transition member => ?_
    cases transition with
    | terminal terminal => trivial
    | binary binary =>
      obtain ⟨left, right⟩ := network.exists_children foundCell member
      exact ⟨exists_child_draft_iff.mpr left, exists_child_draft_iff.mpr right⟩

theorem NetworkDraft.Sound.exists_network {draft : NetworkDraft α} (sound : draft.Sound) :
    ∃ network : Network α, network.draft = draft := by
  obtain ⟨drafts, priorDraft, configuration⟩ := draft
  obtain ⟨cellsSound, priorSound, counts, lengths, children⟩ := sound
  have built : drafts ∈ Set.range (List.map Cell.draft) := by
    rw [Set.range_list_map]
    exact fun draft member => (cellsSound draft member).exists_cell
  obtain ⟨cells, rfl⟩ := built
  obtain ⟨prior, rfl⟩ := priorSound.exists_prior
  refine ⟨⟨cells, prior, configuration, ?_⟩, rfl⟩
  refine Network.firstDefect?_eq_none_iff.mpr ⟨counts.trans (List.length_map _), ?_⟩
  rintro ⟨⟨cell, weights⟩, index⟩ member
  obtain ⟨found, foundWeights⟩ :=
    List.getElem?_zip_eq_some.mp (List.mem_zipIdx_iff_getElem?.mp member)
  have foundDraft : (cells.map Cell.draft)[index]? = some cell.draft := by
    rw [List.getElem?_map, found, Option.map_some]
  have fits : weights.length = cell.cardinality :=
    lengths index cell.draft weights foundDraft foundWeights
  refine (if_pos fits).trans (List.findSome?_eq_none_iff.mpr ?_)
  rintro ⟨transition, position⟩ inside
  cases transition with
  | terminal terminal => rfl
  | binary binary =>
    obtain ⟨left, right⟩ := children index cell.draft foundDraft (Transition.binary binary).draft
      (List.mem_map_of_mem (List.fst_mem_of_mem_zipIdx inside))
    exact Option.or_eq_none_iff.mpr
      ⟨Network.childDefect?_eq_none_iff.mpr (exists_child_draft_iff.mp left),
        Network.childDefect?_eq_none_iff.mpr (exists_child_draft_iff.mp right)⟩

/-- The constructors accept exactly the sound drafts. -/
theorem NetworkDraft.exists_build_iff {draft : NetworkDraft α} :
    (∃ network, draft.build = .ok network) ↔ draft.Sound := by
  simp only [build_eq_ok_iff]
  constructor
  · rintro ⟨network, rfl⟩
    exact network.sound_draft
  · exact Sound.exists_network

end RecursiveBayes
