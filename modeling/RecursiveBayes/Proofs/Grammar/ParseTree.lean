/-
This file holds the parse trees of sentences. A leaf rewrites a symbol to a word, and
an inner node rewrites it to the symbols at the roots of its two parts. The weight of
a tree is the product of the probabilities of the productions at its nodes.

A sentence has only finitely many trees over given symbols. Their weights are summed
by a recurrence: the root is either a leaf, or it splits the sentence at some point
between two symbols.
-/

import RecursiveBayes.Proofs.Trees
import RecursiveBayes.Rule.Production

namespace RecursiveBayes

/-- A binary tree with a symbol at each node and a word at each leaf. -/
inductive ParseTree where
  | leaf (symbol word : String)
  | node (symbol : String) (left right : ParseTree)
  deriving DecidableEq

namespace ParseTree

/-- The symbol at the root. -/
def root : ParseTree → String
  | leaf symbol _ => symbol
  | node symbol _ _ => symbol

/-- The words at the leaves, from left to right. -/
def yield : ParseTree → List String
  | leaf _ word => [word]
  | node _ left right => left.yield ++ right.yield

/-- The productions that the tree uses, one for each node. -/
def productions : ParseTree → List Production
  | leaf symbol word => [.unary symbol word]
  | node symbol left right =>
    .binary symbol left.root right.root :: (left.productions ++ right.productions)

/-- The symbols at the nodes, which are the ones that the productions expand. -/
def symbols (tree : ParseTree) : List String :=
  tree.productions.map Production.lhs

/-- The product of the probabilities of all productions that the tree uses. -/
def weight (probability : Production → ℚ) (tree : ParseTree) : ℚ :=
  (tree.productions.map probability).prod

theorem weight_leaf (probability : Production → ℚ) (symbol word : String) :
    weight probability (leaf symbol word) = probability (.unary symbol word) :=
  List.prod_singleton

theorem weight_node (probability : Production → ℚ) (symbol : String) (left right : ParseTree) :
    weight probability (node symbol left right) =
      probability (.binary symbol left.root right.root) *
        (left.weight probability * right.weight probability) := by
  rw [weight, productions, List.map_cons, List.prod_cons, List.map_append, List.prod_append]
  rfl

theorem symbols_node (symbol : String) (left right : ParseTree) :
    symbols (node symbol left right) = symbol :: (left.symbols ++ right.symbols) := by
  rw [symbols, productions, List.map_cons, List.map_append]
  rfl

theorem yield_ne_nil (tree : ParseTree) : tree.yield ≠ [] := by
  induction tree with
  | leaf symbol word => exact List.cons_ne_nil _ _
  | node symbol left right leftHypothesis _ =>
    intro empty
    exact leftHypothesis (List.append_eq_nil_iff.mp empty).1

/-- Where the root of a tree splits the yield, and the symbols of the two parts. -/
def rootSplit : ParseTree → Nat × String × String
  | leaf _ _ => (0, "", "")
  | node _ left right => (left.yield.length, left.root, right.root)

/-! ### All trees of a sentence -/

/-- The tree that is a leaf, for a sentence of one word. -/
def leaves (root : String) : List String → Finset ParseTree
  | [word] => {leaf root word}
  | _ => ∅

/-- The trees with a root that splits the sentence, from the trees of all shorter sentences. -/
def nodes (symbols : Finset String) (root : String) (words : List String)
    (shorter : String → List String → Finset ParseTree) : Finset ParseTree :=
  Trees.joined (Finset.Ico 1 words.length ×ˢ (symbols ×ˢ symbols))
    (fun split => shorter split.2.1 (words.take split.1))
    (fun split => shorter split.2.2 (words.drop split.1))
    fun _ left right => node root left right

end ParseTree

/-- All trees over some symbols that have a given root and yield. -/
def parses (symbols : Finset String) (root : String) (words : List String) : Finset ParseTree :=
  if root ∈ symbols then
    ParseTree.leaves root words ∪ ParseTree.nodes symbols root words fun child part =>
      if part.length < words.length then parses symbols child part else ∅
  else
    ∅
termination_by words.length

/-- The sum of the weights of all trees over some symbols that have a given root and yield. -/
def parseWeight (symbols : Finset String) (probability : Production → ℚ) (root : String)
    (words : List String) : ℚ :=
  ∑ tree ∈ parses symbols root words, tree.weight probability

namespace ParseTree

variable {symbols : Finset String} {root : String} {words : List String}

/-- The guard on the lengths of the parts is only there to make the recursion end. -/
theorem parses_eq (rootMember : root ∈ symbols) :
    parses symbols root words = leaves root words ∪ nodes symbols root words (parses symbols) := by
  rw [parses, if_pos rootMember]
  refine congrArg _ (Finset.biUnion_congr rfl fun split member => ?_)
  obtain ⟨left, right⟩ := Trees.length_parts_lt (Finset.mem_product.mp member).1
  simp only [if_pos left, if_pos right]

theorem mem_leaves {tree : ParseTree} :
    tree ∈ leaves root words ↔ ∃ word, words = [word] ∧ tree = leaf root word := by
  match words with
  | [] => simp [leaves]
  | [word] => simp [leaves]
  | first :: second :: rest => simp [leaves]

theorem mem_nodes {shorter : String → List String → Finset ParseTree} {tree : ParseTree} :
    tree ∈ nodes symbols root words shorter ↔
      ∃ point ∈ Finset.Ico 1 words.length, ∃ leftRoot ∈ symbols, ∃ rightRoot ∈ symbols,
        ∃ left ∈ shorter leftRoot (words.take point),
          ∃ right ∈ shorter rightRoot (words.drop point), node root left right = tree := by
  simp only [nodes, Trees.mem_joined, Finset.mem_product, Prod.exists]
  constructor
  · rintro ⟨point, leftRoot, rightRoot, ⟨inside, leftMember, rightMember⟩, left, leftTree, right,
      rightTree, same⟩
    exact ⟨point, inside, leftRoot, leftMember, rightRoot, rightMember, left, leftTree, right,
      rightTree, same⟩
  · rintro ⟨point, inside, leftRoot, leftMember, rightRoot, rightMember, left, leftTree, right,
      rightTree, same⟩
    exact ⟨point, leftRoot, rightRoot, ⟨inside, leftMember, rightMember⟩, left, leftTree, right,
      rightTree, same⟩

/-- A tree of a sentence has a declared root, and is a leaf or splits the sentence. -/
theorem mem_parses_iff_shape {tree : ParseTree} :
    tree ∈ parses symbols root words ↔ root ∈ symbols ∧
      (tree ∈ leaves root words ∨ tree ∈ nodes symbols root words (parses symbols)) := by
  by_cases rootMember : root ∈ symbols
  · rw [parses_eq rootMember, Finset.mem_union]
    exact (and_iff_right rootMember).symm
  · rw [parses, if_neg rootMember]
    exact iff_of_false (Finset.notMem_empty _) fun both => rootMember both.1

theorem of_mem_parses {tree : ParseTree} (member : tree ∈ parses symbols root words) :
    tree.root = root ∧ tree.yield = words ∧ ∀ symbol ∈ tree.symbols, symbol ∈ symbols := by
  induction tree generalizing root words with
  | leaf symbol word =>
    obtain ⟨rootMember, here | here⟩ := mem_parses_iff_shape.mp member
    · obtain ⟨_, rfl, same⟩ := mem_leaves.mp here
      cases same
      exact ⟨rfl, rfl, fun other isRoot => List.mem_singleton.mp isRoot ▸ rootMember⟩
    · obtain ⟨_, _, _, _, _, _, _, _, _, _, same⟩ := mem_nodes.mp here
      cases same
  | node symbol left right leftHypothesis rightHypothesis =>
    obtain ⟨rootMember, here | here⟩ := mem_parses_iff_shape.mp member
    · obtain ⟨_, _, same⟩ := mem_leaves.mp here
      cases same
    · obtain ⟨point, _, _, _, _, _, _, leftTree, _, rightTree, same⟩ := mem_nodes.mp here
      cases same
      obtain ⟨_, leftYield, leftSymbols⟩ := leftHypothesis leftTree
      obtain ⟨_, rightYield, rightSymbols⟩ := rightHypothesis rightTree
      refine ⟨rfl, by rw [yield, leftYield, rightYield, List.take_append_drop], ?_⟩
      intro other isSymbol
      rw [symbols_node] at isSymbol
      rcases List.mem_cons.mp isSymbol with rfl | isSymbol
      · exact rootMember
      · exact (List.mem_append.mp isSymbol).elim (leftSymbols other) (rightSymbols other)

/-- The probability of rewriting a symbol to a sentence at once, which takes a single word. -/
def leafWeight (probability : Production → ℚ) (root : String) : List String → ℚ
  | [word] => probability (.unary root word)
  | _ => 0

theorem sum_leaves (probability : Production → ℚ) (root : String) (words : List String) :
    ∑ tree ∈ leaves root words, tree.weight probability = leafWeight probability root words := by
  match words with
  | [] => exact Finset.sum_empty
  | [word] => exact (Finset.sum_singleton _ _).trans (weight_leaf probability root word)
  | first :: second :: rest => exact Finset.sum_empty

/-- The trees with a split at the root factor: the trees of the two parts are chosen
independently. -/
theorem sum_nodes (probability : Production → ℚ) (symbols : Finset String) (root : String)
    (words : List String) :
    ∑ tree ∈ nodes symbols root words (parses symbols), tree.weight probability =
      ∑ point ∈ Finset.Ico 1 words.length, ∑ left ∈ symbols, ∑ right ∈ symbols,
        probability (.binary root left right) *
          (parseWeight symbols probability left (words.take point) *
            parseWeight symbols probability right (words.drop point)) := by
  have injective (_ : Nat × String × String) : Function.Injective2 (node root) :=
    fun left otherLeft right otherRight same => by
      cases same
      exact ⟨rfl, rfl⟩
  have tells : ∀ split ∈ Finset.Ico 1 words.length ×ˢ (symbols ×ˢ symbols),
      ∀ left ∈ parses symbols split.2.1 (words.take split.1),
        ∀ right ∈ parses symbols split.2.2 (words.drop split.1),
          (node root left right).rootSplit = split := by
    rintro ⟨point, leftRoot, rightRoot⟩ place left leftMember right rightMember
    obtain ⟨_, before⟩ := Finset.mem_Ico.mp (Finset.mem_product.mp place).1
    obtain ⟨rootLeft, yieldLeft, _⟩ := of_mem_parses leftMember
    obtain ⟨rootRight, _⟩ := of_mem_parses rightMember
    rw [rootSplit, yieldLeft, List.length_take, Nat.min_eq_left (Nat.le_of_lt before), rootLeft,
      rootRight]
  have factors : ∀ split ∈ Finset.Ico 1 words.length ×ˢ (symbols ×ˢ symbols),
      ∀ left ∈ parses symbols split.2.1 (words.take split.1),
        ∀ right ∈ parses symbols split.2.2 (words.drop split.1),
          (node root left right).weight probability =
            probability (.binary root split.2.1 split.2.2) *
              (left.weight probability * right.weight probability) := by
    rintro ⟨point, leftRoot, rightRoot⟩ _ left leftMember right rightMember
    rw [weight_node, (of_mem_parses leftMember).1, (of_mem_parses rightMember).1]
  rw [nodes, Trees.sum_joined injective rootSplit tells factors, Finset.sum_product]
  refine Finset.sum_congr rfl fun point _ => ?_
  rw [Finset.sum_product]
  rfl

theorem disjoint_leaves_nodes (symbols : Finset String) (root : String) (words : List String)
    (shorter : String → List String → Finset ParseTree) :
    Disjoint (leaves root words) (nodes symbols root words shorter) := by
  refine Finset.disjoint_left.mpr fun tree isLeaf isNode => ?_
  obtain ⟨_, _, rfl⟩ := mem_leaves.mp isLeaf
  obtain ⟨_, _, _, _, _, _, _, _, _, _, same⟩ := mem_nodes.mp isNode
  cases same

end ParseTree

open ParseTree

variable {symbols : Finset String} {root : String}

/-- The recurrence: a sentence is rewritten at once, or it is split at some point between two
symbols. -/
theorem parseWeight_eq (rootMember : root ∈ symbols) (probability : Production → ℚ)
    (words : List String) :
    parseWeight symbols probability root words = leafWeight probability root words +
      ∑ point ∈ Finset.Ico 1 words.length, ∑ left ∈ symbols, ∑ right ∈ symbols,
        probability (.binary root left right) *
          (parseWeight symbols probability left (words.take point) *
            parseWeight symbols probability right (words.drop point)) := by
  rw [parseWeight, parses_eq rootMember, Finset.sum_union (disjoint_leaves_nodes _ _ _ _),
    sum_leaves, sum_nodes]

end RecursiveBayes
