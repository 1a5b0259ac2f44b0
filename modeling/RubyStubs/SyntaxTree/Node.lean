import RubyStubs.Text.Utf8

/-!
Syntax trees of Ruby source, as a grammar's parser reports them: each node has a kind, the source
text it covers and its parts in order. A part may have a role in its parent (its `field`), and
parts that are mere tokens are not named.

A parser reports byte ranges; `Node.ofSpan` looks up the text and line of each.
-/
namespace RubyStubs

structure Node where
  kind : String
  text : String
  line : Nat
  field : Option String
  named : Bool
  missing : Bool
  broken : Bool
  parts : List Node
  deriving Inhabited

namespace Node

def children (n : Node) : List Node := n.parts.filter (·.named)

def child? (n : Node) (field : String) : Option Node := n.parts.find? (·.field == some field)

theorem sizeOf_lt_of_mem {n c : Node} (h : c ∈ n.parts) : sizeOf c < sizeOf n := by
  obtain ⟨kind, text, line, field, named, missing, broken, parts⟩ := n
  have : sizeOf c < sizeOf parts := List.sizeOf_lt_of_mem h
  simp only [Node.mk.sizeOf_spec]
  omega

theorem mem_parts_of_mem_children {n c : Node} (h : c ∈ n.children) : c ∈ n.parts :=
  (List.mem_filter.mp h).1

theorem mem_parts_of_child? {n c : Node} {field : String} (h : n.child? field = some c) :
    c ∈ n.parts :=
  List.mem_of_find?_eq_some h

theorem sizeOf_lt_of_mem_children {n c : Node} (h : c ∈ n.children) : sizeOf c < sizeOf n :=
  sizeOf_lt_of_mem (mem_parts_of_mem_children h)

theorem sizeOf_lt_of_child? {n c : Node} {field : String} (h : n.child? field = some c) :
    sizeOf c < sizeOf n :=
  sizeOf_lt_of_mem (mem_parts_of_child? h)

def sequenceKinds : List String :=
  ["program", "body_statement", "block_body", "begin_block", "parenthesized_statements"]

def isSequence (n : Node) : Bool := sequenceKinds.contains n.kind

def isComment (n : Node) : Bool := n.kind == "comment"

end Node

/-- A node as reported by a parser: the bytes `start` to `stop` of the source. -/
structure Span where
  kind : String
  start : Nat
  stop : Nat
  field : Option String
  named : Bool
  missing : Bool
  broken : Bool
  parts : List Span
  deriving Inhabited

namespace Node

def slice (bytes : ByteArray) (start stop : Nat) : String :=
  Text.decode (bytes.extract start stop).toList

def lineAt (bytes : ByteArray) (start : Nat) : Nat :=
  (bytes.extract 0 start).toList.count 10 + 1

mutual

def ofSpan (bytes : ByteArray) : Span → Node
  | ⟨kind, start, stop, field, named, missing, broken, parts⟩ =>
    { kind, text := slice bytes start stop, line := lineAt bytes start, field, named, missing, broken,
      parts := ofSpans bytes parts }

def ofSpans (bytes : ByteArray) : List Span → List Node
  | [] => []
  | s :: ss => ofSpan bytes s :: ofSpans bytes ss

end

mutual

/-- The first node, in source order, that is an error or stands for something missing. A node
marked broken in which none is found stands for itself. -/
def firstDefect? : Node → Option Node
  | n@⟨kind, _, _, _, _, missing, broken, parts⟩ =>
    if kind == "ERROR" || missing then some n
    else if broken then some ((firstDefectIn? parts).getD n)
    else none

def firstDefectIn? : List Node → Option Node
  | [] => none
  | c :: cs =>
    match firstDefect? c with
    | some d => some d
    | none => firstDefectIn? cs

end

end Node

abbrev Reader := String → Node

end RubyStubs
