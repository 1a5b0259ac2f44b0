import RubyStubs.SyntaxTree.Node
import RubyStubs.Text.Blank

namespace RubyStubs
namespace Node

def callKinds : List String := ["call", "method_call", "command_call"]

def blockKinds : List String := ["block", "do_block"]

def isCall (n : Node) : Bool := callKinds.contains n.kind

def receiver? (n : Node) : Option Node :=
  if n.isCall then n.child? "receiver" else none

/-- The method that a call names. A name alone on a line is a call without arguments. -/
def callName? (n : Node) : Option String :=
  if n.kind == "identifier" || n.kind == "constant" then some n.text
  else if n.isCall then (n.child? "method").map (·.text)
  else none

def argumentList? (n : Node) : Option Node :=
  (n.child? "arguments").or (n.children.find? (·.kind == "argument_list"))

def arguments (n : Node) : List Node :=
  if n.isCall then
    match n.argumentList? with
    | some l => l.children.filter (!·.isComment)
    | none => []
  else []

def block? (n : Node) : Option Node :=
  if n.isCall then (n.child? "block").or (n.children.find? (blockKinds.contains ·.kind)) else none

def blockStatements (n : Node) : List Node :=
  n.children.flatMap fun c =>
    if c.kind == "block_parameters" || c.isComment then []
    else if c.isSequence then c.children.filter (!·.isComment)
    else [c]

def symbolKinds : List String :=
  ["simple_symbol", "delimited_symbol", "hash_key_symbol", "string"]

def symbolName? (n : Node) : Option String :=
  if symbolKinds.contains n.kind then
    some (Text.dropEnd (· == ':')
      (Text.dropEnds (fun c => c == '"' || c == '\'') (Text.dropStart (· == ':') n.text)))
  else none

def pair? (n : Node) : Option (String × Node) :=
  if n.kind == "pair" then
    match n.child? "key", n.child? "value" with
    | some k, some v => some (k.symbolName?.getD k.text, v)
    | _, _ => none
  else none

structure Link where
  name : Option String
  arguments : List Node

theorem sizeOf_lt_of_receiver? {n r : Node} (h : n.receiver? = some r) : sizeOf r < sizeOf n := by
  unfold receiver? at h
  split at h
  · exact sizeOf_lt_of_child? h
  · cases h

/-- Unwinds a chain of calls, innermost first. A name alone at the bottom is its first link; any
other bottom is returned as the object that the chain starts from. -/
def chain (n : Node) : Option Node × List Link :=
  if n.isCall then
    match h : n.receiver? with
    | some r => (r.chain.1, r.chain.2 ++ [⟨n.callName?, n.arguments⟩])
    | none => (none, [⟨n.callName?, n.arguments⟩])
  else if n.kind == "identifier" then (none, [⟨some n.text, []⟩])
  else (some n, [])
termination_by sizeOf n
decreasing_by all_goals exact sizeOf_lt_of_receiver? h

theorem sizeOf_lt_of_argumentList? {n l : Node} (h : n.argumentList? = some l) :
    sizeOf l < sizeOf n := by
  unfold argumentList? at h
  cases hc : n.child? "arguments" with
  | some m =>
    rw [hc] at h
    cases h
    exact sizeOf_lt_of_child? hc
  | none =>
    rw [hc] at h
    exact sizeOf_lt_of_mem_children (List.mem_of_find?_eq_some h)

theorem sizeOf_lt_of_mem_arguments {n a : Node} (h : a ∈ n.arguments) : sizeOf a < sizeOf n := by
  unfold arguments at h
  split at h
  · split at h
    · next l hl =>
      exact Nat.lt_trans (sizeOf_lt_of_mem_children (List.mem_filter.mp h).1)
        (sizeOf_lt_of_argumentList? hl)
    · cases h
  · cases h

theorem sizeOf_lt_of_pair? {n v : Node} {k : String} (h : n.pair? = some (k, v)) :
    sizeOf v < sizeOf n := by
  unfold pair? at h
  split at h
  · split at h
    · next hk hv =>
      cases h
      exact sizeOf_lt_of_child? hv
    · cases h
  · cases h

theorem sizeOf_lt_of_mem_chain {n : Node} {l : Link} {a : Node} (hl : l ∈ n.chain.2)
    (ha : a ∈ l.arguments) : sizeOf a < sizeOf n := by
  fun_induction chain n with
  | case1 n hc r hr ih =>
    rcases List.mem_append.mp hl with hl | hl
    · exact Nat.lt_trans (ih hl) (sizeOf_lt_of_receiver? hr)
    · rw [List.mem_singleton.mp hl] at ha
      exact sizeOf_lt_of_mem_arguments ha
  | case2 n hc hr =>
    rw [List.mem_singleton.mp hl] at ha
    exact sizeOf_lt_of_mem_arguments ha
  | case3 n hc hk =>
    rw [List.mem_singleton.mp hl] at ha
    cases ha
  | case4 n hc hk => cases hl

end Node
end RubyStubs
