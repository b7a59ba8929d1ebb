/-
This file holds the productions of a grammar and their written form. A
production expands its left-hand side either to one terminal symbol or to two
non-terminals; its written form puts an arrow between the two sides and one
space between symbols.
-/

namespace RecursiveBayes

/-- A rule of a grammar over named symbols. -/
inductive Production where
  /-- The left-hand side expands to one terminal symbol. -/
  | unary (lhs symbol : String)
  /-- The left-hand side expands to a pair of non-terminals. -/
  | binary (lhs left right : String)
  deriving DecidableEq

namespace Production

/-- The word that separates the two sides of a rule. -/
def arrow : String := "-->"

/-- The symbol that a production expands. -/
def lhs : Production → String
  | unary lhs _ => lhs
  | binary lhs _ _ => lhs

/-- The symbols on the right-hand side, from left to right. -/
def rhs : Production → List String
  | unary _ symbol => [symbol]
  | binary _ left right => [left, right]

/-- The written form of a production. -/
def render : Production → String
  | unary lhs symbol => lhs ++ " " ++ arrow ++ " " ++ symbol
  | binary lhs left right => lhs ++ " " ++ arrow ++ " " ++ left ++ " " ++ right

end Production

end RecursiveBayes
