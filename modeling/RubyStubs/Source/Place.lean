import RubyStubs.Source.Error
import RubyStubs.SyntaxTree.Call

namespace RubyStubs

structure Source where
  root : Node
  file : String

namespace Node

def definitionKinds : List String := ["method", "singleton_method"]

def isDefinition (n : Node) : Bool := definitionKinds.contains n.kind

def attributeCalls : List String := ["attr_reader", "attr_writer", "attr_accessor"]

def visibilityCalls : List String :=
  ["private", "protected", "public", "private_class_method", "public_class_method"]

def isAttributeCall (n : Node) : Bool := n.callName?.any attributeCalls.contains

def isVisibilityCall (n : Node) : Bool := n.callName?.any visibilityCalls.contains

def wrapped? (n : Node) : Option Node :=
  match n.arguments with
  | [a] => if a.isDefinition then some a else none
  | _ => none

def isSig (n : Node) : Bool :=
  n.isCall && n.callName? == some "sig" && n.block?.isSome &&
    n.receiver?.all fun r => Text.without r.text "::" == "T::Sig::WithoutRuntime"

/-- The children other than the first of each given role, with their indices. -/
def bodyParts (roles : List String) (i : Nat) : List Node → List (Nat × Node)
  | [] => []
  | c :: cs =>
    let next := if c.named then i + 1 else i
    let isHeader := c.field.any roles.contains
    if isHeader then bodyParts (c.field.elim roles roles.erase) next cs
    else (if c.named then [(i, c)] else []) ++ bodyParts roles next cs

def headerRoles (n : Node) : List String :=
  ["name", "superclass"] ++ if n.kind == "singleton_class" then ["value"] else []

def number (i : Nat) : List Node → List (Nat × Node)
  | [] => []
  | c :: cs => (i, c) :: number (i + 1) cs

def statements (n : Node) (p : NodePath) : List (NodePath × Node) :=
  (bodyParts n.headerRoles 0 n.parts).flatMap fun (i, c) =>
    if c.isSequence then (number 0 c.children).map fun (j, d) => ((p.child i).child j, d)
    else [(p.child i, c)]

theorem mem_of_mem_bodyParts {roles : List String} {i j : Nat} {cs : List Node} {c : Node}
    (h : (j, c) ∈ bodyParts roles i cs) : c ∈ cs := by
  induction cs generalizing roles i with
  | nil => cases h
  | cons d ds ih =>
    rw [bodyParts] at h
    split at h
    · exact List.mem_cons_of_mem _ (ih h)
    · rcases List.mem_append.mp h with h | h
      · split at h
        · cases List.mem_singleton.mp h
          exact List.mem_cons_self
        · cases h
      · exact List.mem_cons_of_mem _ (ih h)

theorem mem_of_mem_number {i j : Nat} {cs : List Node} {c : Node} (h : (j, c) ∈ number i cs) :
    c ∈ cs := by
  induction cs generalizing i with
  | nil => cases h
  | cons d ds ih =>
    rcases List.mem_cons.mp h with h | h
    · cases h
      exact List.mem_cons_self
    · exact List.mem_cons_of_mem _ (ih h)

theorem sizeOf_lt_of_mem_statements {n c : Node} {p q : NodePath} (h : (q, c) ∈ n.statements p) :
    sizeOf c < sizeOf n := by
  obtain ⟨⟨i, b⟩, hb, h⟩ := List.mem_flatMap.mp h
  have hlt := sizeOf_lt_of_mem (mem_of_mem_bodyParts hb)
  simp only at h
  split at h
  · obtain ⟨⟨j, d⟩, hd, he⟩ := List.mem_map.mp h
    cases he
    exact Nat.lt_trans (sizeOf_lt_of_mem_children (mem_of_mem_number hd)) hlt
  · cases List.mem_singleton.mp h
    exact hlt

end Node

namespace Source

def node (u : Source) (p : NodePath) : Except SourceError Node :=
  (u.root.locate p).mapError .path

def fail {α : Type} (u : Source) (what : Problem) (p : NodePath) : Except SourceError α := do
  let n ← u.node p
  .error (.problem what u.file n.line)

def previousFrom (u : Source) (up : List Int) : Nat → Except SourceError (Option NodePath)
  | 0 => .ok none
  | i + 1 => do
    let p : NodePath := ⟨(i : Int) :: up⟩
    if (← u.node p).isComment then u.previousFrom up i else return some p

def previous? (u : Source) (p : NodePath) : Except SourceError (Option NodePath) :=
  match p.steps with
  | [] => .error (.path .noLast)
  | i :: up => u.previousFrom up i.toNat

def nextFrom (u : Source) (up : List Int) (i : Nat) : Nat → Except SourceError (Option NodePath)
  | 0 => .ok none
  | left + 1 => do
    let p : NodePath := ⟨(i : Int) :: up⟩
    if (← u.node p).isComment then u.nextFrom up (i + 1) left else return some p

def next? (u : Source) (p : NodePath) : Except SourceError (Option NodePath) :=
  match p.steps with
  | [] => .error (.path .noParent)
  | i :: up => do
    let parent ← u.node ⟨up⟩
    if i + 1 < 0 then .error (.path (.negativeSibling 1))
    else u.nextFrom up (i + 1).toNat (parent.children.length - (i + 1).toNat)

def sigBefore? (u : Source) (p : NodePath) : Except SourceError (Option NodePath) := do
  match ← u.previous? p with
  | none => return none
  | some q => return if (← u.node q).isSig then some q else none

def definitionAfter? (u : Source) (p : NodePath) : Except SourceError (Option NodePath) := do
  match ← u.next? p with
  | none => return none
  | some q =>
    let n ← u.node q
    if n.isDefinition || (n.isAttributeCall && n.receiver?.isNone) ||
        (n.isVisibilityCall && n.wrapped?.isSome) then
      return some q
    else return none

/-- Whether a place is in the body of `class << self`, the innermost class or module deciding. -/
def withinEigen (u : Source) : List Int → Except SourceError Bool
  | [] => .ok false
  | _ :: up => do
    let n ← u.node ⟨up⟩
    if n.kind == "singleton_class" then return true
    else if n.kind == "class" || n.kind == "module" then return false
    else u.withinEigen up

def magicWords : List String :=
  ["typed:", "frozen_string_literal:", "encoding:", "coding:", "warn_indent:",
    "shareable_constant_value:"]

def commentText (n : Node) : String := Text.dropBlank (Text.without n.text "#")

def isMagic (text : String) : Bool := magicWords.any (Text.startsWith (Text.trim text) ·)

/-- The comments directly above a place, before those in `below`. Where the place heads a run of
statements, those before the run count too. A comment that speaks to a tool ends the search. -/
def commentsAbove (u : Source) (below : List String) (steps : List Int) :
    Except SourceError (List String) :=
  match steps with
  | [] => .ok below
  | i :: up =>
    if i == 0 then
      if up.isEmpty then .ok below
      else do
        if (← u.node ⟨up⟩).isSequence then u.commentsAbove below up else return below
    else if i < 0 then .error (.path (.negativeSibling (-1)))
    else do
      let n ← u.node ⟨(i - 1) :: up⟩
      if !n.isComment || isMagic (commentText n) then return below
      else u.commentsAbove (commentText n :: below) ((i - 1) :: up)
termination_by (steps.length, (steps.headD 0).toNat)
decreasing_by
  · exact Prod.Lex.left _ _ (Nat.lt_succ_self _)
  · refine Prod.Lex.right _ ?_
    simp only [List.headD_cons]
    have h : (i == 0) = false := by simpa using ‹¬(i == 0) = true›
    have : i ≠ 0 := by simpa using h
    omega

def commentsBefore (u : Source) (p : NodePath) : Except SourceError (List String) :=
  u.commentsAbove [] p.steps

mutual

def sigsBelow (p : NodePath) : Node → List NodePath
  | ⟨_, _, _, _, _, _, _, parts⟩ => sigsIn p 0 parts

def sigsIn (p : NodePath) (i : Nat) : List Node → List NodePath
  | [] => []
  | c :: cs =>
    if c.named then
      (if c.isSig then [p.child i] else []) ++ sigsBelow (p.child i) c ++ sigsIn p (i + 1) cs
    else sigsIn p i cs

end

def sigs (u : Source) : List NodePath := sigsBelow .root u.root

end Source
end RubyStubs
