/-
This file holds the ways in which a run stops without a result that the model's
own vocabulary can describe: an index, a length or a size that no caller should
have passed. Everything that counts positions counts in machine words, so the
arithmetic on positions is checked against the word size here. Everything whose
size a caller names without supplying as many entries is checked against the
largest object that memory can hold. A checked result is used with a plain `←`
wherever richer failures are possible.
-/

namespace RecursiveBayes

/-- A run that stops because of an argument outside the domain of an operation. -/
inductive Abort where
  /-- The result of a sum, difference or product of positions is not a machine word. -/
  | overflow
  /-- A list is shorter than the index that is read. -/
  | indexOutOfRange
  /-- Two vectors that are multiplied entry by entry differ in length. -/
  | lengthMismatch
  /-- A table, a vector or a list is larger than the largest object that memory can hold. -/
  | allocation
  /-- A chart is read at a span that is empty, reversed or not within its sequence. -/
  | outsideSequence (start stop length : Nat)
  deriving DecidableEq

/-- A result that an argument outside the domain may prevent. -/
abbrev Checked (β : Type) : Type := Except Abort β

namespace Word

/-- The number of machine words, which have sixty-four bits. Positions, lengths and counts are
below it. -/
def limit : Nat := 18446744073709551616

/-- A number that has to fit into a machine word. -/
def checked (value : Nat) : Checked Nat :=
  if value < limit then .ok value else .error .overflow

/-- The sum of two words. -/
def add (left right : Nat) : Checked Nat :=
  checked (left + right)

/-- The difference of two words, which has to be non-negative. -/
def sub (left right : Nat) : Checked Nat :=
  if right ≤ left then .ok (left - right) else .error .overflow

/-- The product of two words. -/
def mul (left right : Nat) : Checked Nat :=
  checked (left * right)

theorem add_eq_ok {left right : Nat} (fits : left + right < limit) :
    add left right = .ok (left + right) := if_pos fits

theorem sub_eq_ok {left right : Nat} (ordered : right ≤ left) :
    sub left right = .ok (left - right) := if_pos ordered

theorem mul_eq_ok {left right : Nat} (fits : left * right < limit) :
    mul left right = .ok (left * right) := if_pos fits

end Word

namespace Memory

/-- The largest size in bytes of a single object in memory: the largest signed word. -/
def largestObject : Nat := 9223372036854775807

/-- Room for the given number of entries of the given size in bytes, in one object. -/
def reserve (entries entrySize : Nat) : Checked Unit :=
  if entrySize * entries ≤ largestObject then .ok () else .error .allocation

/-- The size in bytes of a number. -/
def numberSize : Nat := 8

/-- The size in bytes of a flag. -/
def flagSize : Nat := 1

/-- The size in bytes of a pair of positions. -/
def spanSize : Nat := 16

/-- The size in bytes of the two parts of a span. -/
def splitSize : Nat := 32

/-- The size in bytes of a work item, its list of spans apart. -/
def itemSize : Nat := 32

theorem reserve_eq_ok {entries entrySize : Nat} (fits : entrySize * entries ≤ largestObject) :
    reserve entries entrySize = .ok () := if_pos fits

end Memory

end RecursiveBayes
