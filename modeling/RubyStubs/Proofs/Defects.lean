import RubyStubs.Proofs.Safety

namespace RubyStubs

theorem findSome?_congr {α β : Type} {xs : List α} {f g : α → Option β} (h : ∀ x ∈ xs, f x = g x) :
    xs.findSome? f = xs.findSome? g := by
  induction xs with
  | nil => rfl
  | cons x xs ih =>
    rw [List.forall_mem_cons] at h
    rw [List.findSome?_cons, List.findSome?_cons, h.1, ih h.2]

namespace Node

def isDefect (n : Node) : Bool := n.kind == "ERROR" || n.missing

/-- Exactly the nodes with a defect in them, or that are one, are marked as broken. -/
def MarksDefects (root : Node) : Prop := ∀ n ∈ root.nodes, n.broken = n.nodes.any isDefect

theorem MarksDefects.of_mem_parts {n c : Node} (h : n.MarksDefects) (hc : c ∈ n.parts) : c.MarksDefects :=
  fun d hd => h d (mem_nodes_iff.mpr (.inr ⟨c, hc, hd⟩))

theorem nodesIn_eq_flatMap (cs : List Node) : nodesIn cs = cs.flatMap nodes := by
  induction cs with
  | nil => rfl
  | cons c cs ih => rw [nodesIn, ih, List.flatMap_cons]

theorem firstDefectIn?_eq_findSome? (cs : List Node) : firstDefectIn? cs = cs.findSome? firstDefect? := by
  induction cs with
  | nil => rfl
  | cons c cs ih =>
    rw [firstDefectIn?, List.findSome?_cons, ih]
    cases c.firstDefect? <;> rfl

theorem firstDefect?_eq (n : Node) :
    n.firstDefect? =
      if n.isDefect then some n
      else if n.broken then some ((n.parts.findSome? firstDefect?).getD n)
      else none := by
  rw [← firstDefectIn?_eq_findSome?]
  obtain ⟨kind, text, line, field, named, missing, broken, parts⟩ := n
  rw [firstDefect?]
  rfl

theorem MarksDefects.firstDefect?_eq_find? {n : Node} (h : n.MarksDefects) :
    n.firstDefect? = n.nodes.find? isDefect := by
  have hparts : n.parts.findSome? firstDefect? = (nodesIn n.parts).find? isDefect := by
    rw [nodesIn_eq_flatMap, List.find?_flatMap]
    apply findSome?_congr
    intro c hc
    have hlt := sizeOf_lt_of_mem hc
    exact (h.of_mem_parts hc).firstDefect?_eq_find?
  rw [firstDefect?_eq, nodes_eq, List.find?_cons, hparts]
  cases hdefect : n.isDefect with
  | true => rfl
  | false =>
    have hbroken : n.broken = ((nodesIn n.parts).find? isDefect).isSome := by
      have hmark := h n n.mem_nodes_self
      rwa [nodes_eq, List.any_cons, hdefect, Bool.false_or, ← List.isSome_find?] at hmark
    rw [hbroken]
    cases (nodesIn n.parts).find? isDefect <;> rfl
termination_by sizeOf n

theorem MarksDefects.firstDefect?_eq_none_iff {n : Node} (h : n.MarksDefects) :
    n.firstDefect? = none ↔ ∀ d ∈ n.nodes, ¬ d.isDefect := by
  rw [h.firstDefect?_eq_find?, List.find?_eq_none]

theorem MarksDefects.broken_iff {n : Node} (h : n.MarksDefects) : n.broken ↔ ∃ d ∈ n.nodes, d.isDefect := by
  rw [h n n.mem_nodes_self, List.any_eq_true]

end Node

namespace Source

variable {u : Source}

theorem program_of_broken (hbroken : u.root.broken) {d : Node} (hd : u.root.firstDefect? = some d) (o : ReadOptions) :
    u.program o = .ofExcept (.error (.problem .badSyntax u.file d.line)) := by
  rw [program, if_pos hbroken, hd, Option.getD_some]

/-- The defect that is found is the first of the tree, and there is one to be found exactly if the tree has one. A source
with a defect is never read: it is refused with the line of the first. -/
theorem first_defect_reported (h : u.root.MarksDefects) :
    u.root.firstDefect? = u.root.nodes.find? (·.isDefect) ∧
      (u.root.firstDefect? = none ↔ ∀ n ∈ u.root.nodes, ¬ n.isDefect) ∧
      ((∃ n ∈ u.root.nodes, n.isDefect) →
        ∃ before d after, u.root.nodes = before ++ d :: after ∧ (∀ n ∈ before, ¬ n.isDefect) ∧ d.isDefect ∧
          u.root.firstDefect? = some d ∧
          ∀ o, u.program o = .ofExcept (.error (.problem .badSyntax u.file d.line))) := by
  refine ⟨h.firstDefect?_eq_find?, h.firstDefect?_eq_none_iff, fun hdefect => ?_⟩
  obtain ⟨d, hfind⟩ := Option.isSome_iff_exists.mp (List.find?_isSome.mpr hdefect)
  obtain ⟨hd, before, after, hnodes, hbefore⟩ := List.find?_eq_some_iff_append.mp hfind
  have hfirst : u.root.firstDefect? = some d := h.firstDefect?_eq_find?.trans hfind
  refine ⟨before, d, after, hnodes, by simpa using hbefore, hd, hfirst, fun o => ?_⟩
  exact program_of_broken (h.broken_iff.mpr hdefect) hfirst o

theorem first_defect_reported_missing_token :
    let gap : Node := { Node.made "constant" "" [] with line := 2, named := false, missing := true, broken := true }
    let scope : Node := { Node.made "class" "class ; end" [gap] with line := 2, broken := true }
    let rest : Node := { Node.made "ERROR" ")" [] with line := 3, broken := true }
    let root : Node :=
      { Node.made "program" "# A\nclass ; end\n)" [.made "comment" "# A" [], scope, rest] with broken := true }
    let u : Source := { root, file := "a.rb" }
    u.root.MarksDefects ∧ (∃ n ∈ u.root.nodes, n.isDefect) ∧ u.root.firstDefect? = some gap ∧
      u.program {} = .ofExcept (.error (.problem .badSyntax "a.rb" 2)) := by
  intro gap scope rest root u
  have hmarks : u.root.MarksDefects := by
    unfold Node.MarksDefects
    decide
  obtain ⟨hfirst, -, hrefused⟩ := first_defect_reported hmarks
  have hgap : u.root.firstDefect? = some gap := hfirst.trans rfl
  have hdefect : ∃ n ∈ u.root.nodes, n.isDefect := List.find?_isSome.mp (by rw [← hfirst, hgap]; rfl)
  obtain ⟨_, d, _, -, -, -, hd, hprogram⟩ := hrefused hdefect
  cases hgap.symm.trans hd
  exact ⟨hmarks, hdefect, hgap, hprogram {}⟩

end Source
end RubyStubs
