import OlapFormula.Folding.Step
import OlapFormula.Rewriting

/-!
# Lowering

A formula is lowered from the leaves to the root. A node is rewritten if it can be, and what it is
rewritten to is lowered again; a node that cannot be rewritten is folded.
-/

namespace OlapFormula.Node

mutual

/-- Applies `finish` to every node, after what is in it. -/
def bottomUp (finish : Node → Node) : Node → Node
  | call kind args => finish (call kind (bottomUps finish args))
  | array items => finish (list (bottomUps finish items))
  | node => finish node

def bottomUps (finish : Node → Node) : List Node → List Node
  | [] => []
  | node :: nodes => bottomUp finish node :: bottomUps finish nodes

end

def folded (order : DateOrder) (node : Node) : Node := (node.fold? order).getD node

/-- Lowers a node in which everything is lowered, with at most `budget` rewritings one after the
other. -/
def lowerWithin (order : DateOrder) : (budget : Nat) → Node → Node
  | 0, node => folded order node
  | budget + 1, node =>
    match node.rewrite? order with
    | some rewritten => bottomUp (lowerWithin order budget) rewritten
    | none => folded order node

def maxRewrites : Nat := 16

/-- Lowers a node in which everything is lowered. -/
def lowerRoot (order : DateOrder) : Node → Node := lowerWithin order maxRewrites

/-- Lowers a node and everything in it. -/
def lower (order : DateOrder) : Node → Node := bottomUp (lowerRoot order)

end OlapFormula.Node
