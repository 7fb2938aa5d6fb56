import RowAccess.Pattern.Regex.Automaton.Built

/-!
# The states of a choice between words

A choice between words is a tree of their bytes. Where a word ends and others go on, the words before it
come first, so the ways out of a node fall into chunks: one for the words before the first end there,
one for those between the first end and the second, and so on. A node is a fork between its chunks and
its ends; a chunk is a table, or a single way out.
-/

namespace RowAccess.Pattern.Regex.Automaton

mutual

/-- A tree of words: how many words end here, and the ways out. -/
inductive WordTree
  | node (ends : Nat) (edges : Edges)

/-- Ways out of a node, each with its chunk, its byte and what is behind it. -/
inductive Edges
  | nil
  | cons (chunk byte : Nat) (tree : WordTree) (rest : Edges)

end

namespace Edges

/-- Changes what is behind a byte in a chunk; it may be new. -/
def change (chunk byte : Nat) (f : WordTree → WordTree) : Edges → Edges
  | nil => cons chunk byte (f (.node 0 nil)) nil
  | cons c b tree rest =>
      if c = chunk ∧ b = byte then cons c b (f tree) rest
      else cons c b tree (rest.change chunk byte f)

/-- The chunk of each way out. -/
def chunks : Edges → List Nat
  | nil => []
  | cons c _ _ rest => c :: rest.chunks

end Edges

/-- Adds a word. A second word that ends where nothing goes on changes nothing. -/
def WordTree.insert : List Nat → WordTree → WordTree
  | [], .node ends edges =>
      match ends, edges with
      | n + 1, .nil => .node (n + 1) .nil
      | n, edges => .node (n + 1) edges
  | b :: bs, .node ends edges => .node ends (edges.change ends b (WordTree.insert bs))

/-- What the tables of a node take, by the chunks of its ways out. -/
def tables (chunks : List Nat) : Built :=
  chunks.eraseDups.foldl
    (fun b c =>
      let n := chunks.count c
      b.add ⟨1, freeWay + (if n = 1 then 0 else byteWay * n)⟩)
    .nothing

mutual

/-- What a tree takes. A node without ways out is the end of the choice itself. -/
def WordTree.built : WordTree → Built
  | .node _ .nil => .nothing
  | .node ends edges =>
      ((tables edges.chunks).add ⟨1, freeWay * ends⟩).add edges.built

def Edges.built : Edges → Built
  | .nil => .nothing
  | .cons _ _ tree rest => tree.built.add rest.built

end

/-- The states of a choice between words. -/
def wordStates (words : List (List Nat)) : Build Tail := do
  let tree : WordTree := words.foldl (fun tree w => tree.insert w) (.node 0 .nil)
  grow (tree.built.add ⟨1, 0⟩)
  return .plain

end RowAccess.Pattern.Regex.Automaton
