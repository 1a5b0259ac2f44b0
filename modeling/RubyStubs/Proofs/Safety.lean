import RubyStubs.Proofs.Expression
import RubyStubs.Proofs.SigAgreement

namespace RubyStubs

namespace Node

mutual

def nodes : Node → List Node
  | n@⟨_, _, _, _, _, _, _, parts⟩ => n :: nodesIn parts

def nodesIn : List Node → List Node
  | [] => []
  | c :: cs => nodes c ++ nodesIn cs

end

structure Grammatical (root : Node) : Prop where
  definitionName : ∀ n ∈ root.nodes, n.isDefinition → (n.child? "name").isSome
  referenceObject : ∀ n ∈ root.nodes, n.kind = "element_reference" → (n.child? "object").isSome
  scopeName : ∀ n ∈ root.nodes, n.isScope → ∀ name ∈ n.child? "name", Text.names name.text ≠ []

theorem text_mem_of_isAttributeCall {n : Node} (hkind : n.kind = "constant") (h : n.isAttributeCall) :
    n.text ∈ attributeCalls := by
  have hname : n.callName? = some n.text := by simp [callName?, hkind]
  simpa [isAttributeCall, hname] using h

theorem nodes_eq (n : Node) : n.nodes = n :: nodesIn n.parts := by
  cases n
  rfl

theorem mem_nodesIn_iff {cs : List Node} {d : Node} : d ∈ nodesIn cs ↔ ∃ c ∈ cs, d ∈ c.nodes := by
  induction cs with
  | nil => simp [nodesIn]
  | cons c cs ih => simp [nodesIn, ih]

theorem mem_nodes_iff {n d : Node} : d ∈ n.nodes ↔ d = n ∨ ∃ c ∈ n.parts, d ∈ c.nodes := by
  rw [nodes_eq, List.mem_cons, mem_nodesIn_iff]

theorem mem_nodes_self (n : Node) : n ∈ n.nodes := mem_nodes_iff.mpr (.inl rfl)

theorem mem_nodes_of_mem_parts {root n c : Node} (hn : n ∈ root.nodes) (hc : c ∈ n.parts) :
    c ∈ root.nodes := by
  rcases mem_nodes_iff.mp hn with rfl | ⟨b, hb, hnb⟩
  · exact mem_nodes_iff.mpr (.inr ⟨c, hc, c.mem_nodes_self⟩)
  · have hlt := sizeOf_lt_of_mem hb
    exact mem_nodes_iff.mpr (.inr ⟨b, hb, mem_nodes_of_mem_parts hnb hc⟩)
termination_by sizeOf root

theorem mem_nodes_of_mem_arguments {root n a : Node} (hn : n ∈ root.nodes) (ha : a ∈ n.arguments) :
    a ∈ root.nodes := by
  unfold arguments at ha
  split at ha
  · split at ha
    · next l hl =>
      have hl : l ∈ n.parts := by
        rcases Option.or_eq_some_iff.mp hl with h | ⟨-, h⟩
        · exact mem_parts_of_child? h
        · exact mem_parts_of_mem_children (List.mem_of_find?_eq_some h)
      have ha : a ∈ l.parts := mem_parts_of_mem_children (List.mem_filter.mp ha).1
      exact mem_nodes_of_mem_parts (mem_nodes_of_mem_parts hn hl) ha
    · cases ha
  · cases ha

mutual

theorem firstDefect?_mem_nodes (n : Node) {d : Node} (h : n.firstDefect? = some d) : d ∈ n.nodes := by
  match n with
  | ⟨kind, text, line, field, named, missing, broken, parts⟩ =>
    rw [firstDefect?] at h
    split_ifs at h
    · cases h
      exact mem_nodes_self _
    · cases hd : firstDefectIn? parts with
      | none =>
        rw [hd] at h
        cases h
        exact mem_nodes_self _
      | some c =>
        rw [hd] at h
        cases h
        rw [nodes]
        exact List.mem_cons_of_mem _ (firstDefectIn?_mem_nodesIn parts hd)

theorem firstDefectIn?_mem_nodesIn (cs : List Node) {d : Node} (h : firstDefectIn? cs = some d) :
    d ∈ nodesIn cs := by
  match cs with
  | [] => cases h
  | c :: cs =>
    rw [firstDefectIn?] at h
    split at h
    · next hc =>
      cases h
      exact List.mem_append_left _ (firstDefect?_mem_nodes c hc)
    · exact List.mem_append_right _ (firstDefectIn?_mem_nodesIn cs h)

end

theorem isDefinition_of_wrapped? {n d : Node} (h : n.wrapped? = some d) :
    d.isDefinition ∧ d ∈ n.arguments := by
  unfold wrapped? at h
  split at h
  · next a ha =>
    split_ifs at h with hdef
    cases h
    rw [ha]
    exact ⟨hdef, List.mem_cons_self⟩
  · cases h

theorem isCall_of_mem_arguments {n a : Node} (h : a ∈ n.arguments) : n.isCall := by
  by_contra hcall
  rw [arguments, if_neg hcall] at h
  cases h

theorem not_isCall_of_isDefinition {n : Node} (h : n.isDefinition) :
    ¬ n.isCall ∧ n.kind ≠ "identifier" := by
  have hkind : n.kind = "method" ∨ n.kind = "singleton_method" := by
    simpa [isDefinition, definitionKinds] using h
  rcases hkind with hk | hk <;> simp [isCall, callKinds, hk]

theorem attributeKind?_of_isAttributeCall {n : Node} (h : n.isAttributeCall) :
    n.attributeKind?.isSome ∧ ¬ n.isVisibilityCall := by
  rw [isAttributeCall, Option.any_eq_true] at h
  obtain ⟨name, hname, hmem⟩ := h
  have hcases : name = "attr_reader" ∨ name = "attr_writer" ∨ name = "attr_accessor" := by
    simpa [attributeCalls] using hmem
  rcases hcases with rfl | rfl | rfl <;>
    simp [attributeKind?, isVisibilityCall, visibilityCalls, hname]

end Node

namespace Source

/-- A result, or a problem with a node of the source: no path that leads nowhere, and no part that is
not there. -/
inductive Safe (u : Source) {α : Type} : Except SourceError α → Prop
  | ok (a : α) : Safe u (.ok a)
  | problem (what : Problem) {n : Node} (h : n ∈ u.root.nodes) :
      Safe u (.error (.problem what u.file n.line))

namespace Safe

variable {u : Source} {α β : Type}

theorem bind {x : Except SourceError α} {f : α → Except SourceError β} (hx : u.Safe x)
    (hf : ∀ a, x = .ok a → u.Safe (f a)) : u.Safe (x >>= f) := by
  cases hx with
  | ok a => exact hf a rfl
  | problem what h => exact .problem what h

theorem map {x : Except SourceError α} (hx : u.Safe x) (f : α → β) : u.Safe (f <$> x) := by
  cases hx with
  | ok a => exact .ok (f a)
  | problem what h => exact .problem what h

theorem mapM {f : α → Except SourceError β} {xs : List α} (h : ∀ x ∈ xs, u.Safe (f x)) :
    u.Safe (xs.mapM f) := by
  induction xs with
  | nil => exact .ok []
  | cons x xs ih =>
    rw [List.mapM_cons]
    refine (h x List.mem_cons_self).bind fun y _ => ?_
    exact (ih fun z hz => h z (List.mem_cons_of_mem x hz)).bind fun ys _ => .ok (y :: ys)

theorem journal_bind {x : Read α} {f : α → Read β} (hx : u.Safe x.result)
    (hf : ∀ a, x.result = .ok a → u.Safe (f a).result) : u.Safe (x >>= f).result := by
  cases hresult : x.result with
  | ok a =>
    rw [Journal.bind_ok hresult]
    exact hf a hresult
  | error e =>
    rw [Journal.bind_error hresult]
    rw [hresult] at hx
    cases hx with
    | problem what h => exact .problem what h

theorem collect {xs : List α} {f : (x : α) → x ∈ xs → Read (List β)} (h : ∀ x hx, u.Safe (f x hx).result) :
    u.Safe (Journal.collect xs f).result := by
  induction xs with
  | nil => exact .ok []
  | cons x xs ih =>
    refine journal_bind (h x List.mem_cons_self) fun ys _ => ?_
    refine journal_bind (ih fun z hz => h z (List.mem_cons_of_mem x hz)) fun zs _ => ?_
    exact .ok (ys ++ zs)

end Safe

inductive At (u : Source) : NodePath → Node → Prop
  | root : At u .root u.root
  | child {p : NodePath} {n c : Node} {i : Nat} (h : At u p n) (hc : n.children[i]? = some c) :
      At u (p.child i) c

section Places

variable {u : Source} {p q : NodePath} {n c : Node} {i : Nat}

theorem At.node (h : u.At p n) : u.node p = .ok n := by
  induction h with
  | root => rfl
  | child _ hc ih => exact node_child_eq_ok_iff.mpr ⟨_, ih, hc⟩

theorem At.mem_nodes (h : u.At p n) : n ∈ u.root.nodes := by
  induction h with
  | root => exact u.root.mem_nodes_self
  | child _ hc ih =>
    exact Node.mem_nodes_of_mem_parts ih (Node.mem_parts_of_mem_children (List.mem_of_getElem? hc))

theorem At.of_mem_statements (h : u.At p n) (hc : (q, c) ∈ n.statements p) : u.At q c := by
  rcases Node.mem_statements hc with ⟨i, rfl, hget⟩ | ⟨i, j, b, rfl, hb, -, hget⟩
  · exact h.child hget
  · exact (h.child hb).child hget

theorem At.of_mem_statements_ne_root (hc : (q, c) ∈ n.statements p) : q ≠ .root := by
  rcases Node.mem_statements hc with ⟨i, rfl, -⟩ | ⟨i, j, b, rfl, -, -, -⟩ <;> nofun

theorem At.of_node_child (h : u.At p n) (hc : u.node (p.child i) = .ok c) : u.At (p.child i) c := by
  obtain ⟨m, hm, hget⟩ := node_child_eq_ok_iff.mp hc
  rw [h.node] at hm
  cases hm
  exact h.child hget

theorem At.exists_child (h : u.At p n) (hi : i < n.children.length) : ∃ c, u.At (p.child i) c :=
  ⟨n.children[i], h.child (List.getElem?_eq_getElem hi)⟩

theorem At.parent {j : Int} {up : List Int} (h : u.At ⟨j :: up⟩ c) :
    ∃ (i : Nat) (m : Node), j = i ∧ u.At ⟨up⟩ m ∧ m.children[i]? = some c := by
  cases h with
  | child hm hc => exact ⟨_, _, rfl, hm, hc⟩

theorem At.fail {α : Type} (h : u.At p n) (what : Problem) : u.Safe (u.fail what p : Except _ α) := by
  rw [Source.fail, h.node]
  exact .problem what h.mem_nodes

theorem At.unknown (h : u.At p n) (o : ReadOptions) (what : Problem) : u.Safe (u.unknown o what p) := by
  rw [Source.unknown]
  split_ifs
  · exact h.fail what
  · exact .ok []

theorem At.commentsBefore (h : u.At p n) : ∃ cs, u.commentsBefore p = .ok cs := by
  have hsteps (below : List String) (steps : List Int) (n : Node) (h : u.At ⟨steps⟩ n) :
      ∃ cs, u.commentsAbove below steps = .ok cs := by
    -- Up one level at the head of a run, to the left otherwise: either way to a node of the tree.
    fun_induction commentsAbove u below steps generalizing n with
    | case1 below => exact ⟨below, rfl⟩
    | case2 below => exact ⟨below, rfl⟩
    | case3 below i up _ _ ih =>
      obtain ⟨_, m, -, hm, -⟩ := h.parent
      rw [hm.node]
      by_cases hseq : m.isSequence
      · obtain ⟨cs, hcs⟩ := ih m hm
        exact ⟨cs, (if_pos hseq).trans hcs⟩
      · exact ⟨below, if_neg hseq⟩
    | case4 below i up _ hneg =>
      obtain ⟨j, -, rfl, -, -⟩ := h.parent
      omega
    | case5 below i up hzero _ ih =>
      obtain ⟨j, m, rfl, hm, hget⟩ := h.parent
      obtain ⟨j, rfl⟩ : ∃ k, j = k + 1 := Nat.exists_eq_succ_of_ne_zero (by simpa using hzero)
      have hpred : ((j + 1 : Nat) : Int) - 1 = (j : Int) := by omega
      have hlt : j < m.children.length := by
        have := (List.getElem?_eq_some_iff.mp hget).1
        omega
      obtain ⟨c, hc⟩ := hm.exists_child hlt
      have hnode : u.node ⟨(j : Int) :: up⟩ = .ok c := hc.node
      rw [hpred] at ih ⊢
      rw [hnode]
      by_cases hstop : !c.isComment || isMagic (commentText c)
      · exact ⟨below, if_pos hstop⟩
      · obtain ⟨cs, hcs⟩ := ih c c hc
        exact ⟨cs, (if_neg hstop).trans hcs⟩
  exact hsteps [] p.steps n h

theorem At.previousFrom (h : u.At p n) (hi : i ≤ n.children.length) :
    ∃ q, u.previousFrom p.steps i = .ok q := by
  induction i with
  | zero => exact ⟨none, rfl⟩
  | succ i ih =>
    obtain ⟨c, hc⟩ := h.exists_child (i := i) (by omega)
    by_cases hcomment : c.isComment
    · rw [CommentAt.previousFrom ⟨c, hc.node, hcomment⟩]
      exact ih (by omega)
    · rw [StatementAt.previousFrom ⟨c, hc.node, hcomment⟩]
      exact ⟨_, rfl⟩

theorem At.nextFrom {left : Nat} (h : u.At p n) (hi : i + left ≤ n.children.length) :
    ∃ q, u.nextFrom p.steps i left = .ok q := by
  induction left generalizing i with
  | zero => exact ⟨none, rfl⟩
  | succ left ih =>
    obtain ⟨c, hc⟩ := h.exists_child (i := i) (by omega)
    by_cases hcomment : c.isComment
    · rw [CommentAt.nextFrom ⟨c, hc.node, hcomment⟩]
      exact ih (by omega)
    · rw [StatementAt.nextFrom ⟨c, hc.node, hcomment⟩]
      exact ⟨_, rfl⟩

theorem At.sigBefore? (h : u.At p n) (hc : n.children[i]? = some c) :
    ∃ s, u.sigBefore? (p.child i) = .ok s ∧ ∀ q ∈ s, ∃ m, u.At q m ∧ m.isSig := by
  have hi : i ≤ n.children.length := Nat.le_of_lt (List.getElem?_eq_some_iff.mp hc).1
  obtain ⟨q, hq⟩ := h.previousFrom hi
  have hprevious : u.previous? (p.child i) = .ok q := hq
  cases q with
  | none =>
    refine ⟨none, ?_, nofun⟩
    rw [Source.sigBefore?, hprevious]
    rfl
  | some q =>
    obtain ⟨j, -, rfl, ⟨m, hm, -⟩, -⟩ := previousFrom_eq_some_iff.mp hq
    refine ⟨if m.isSig then some (p.child j) else none, ?_, ?_⟩
    · rw [Source.sigBefore?, hprevious]
      change (do return if (← u.node (p.child j)).isSig then some (p.child j) else none) = _
      rw [hm]
      rfl
    · intro q hq
      split_ifs at hq with hsig
      · cases hq
        exact ⟨m, h.of_node_child hm, hsig⟩
      · cases hq

theorem At.definitionAfter? (h : u.At p n) (hc : n.children[i]? = some c) :
    ∃ d, u.definitionAfter? (p.child i) = .ok d ∧ ∀ q ∈ d, ∃ m, u.At q m ∧ m.isSigTarget := by
  have hi : i < n.children.length := (List.getElem?_eq_some_iff.mp hc).1
  have hleft : i + 1 + (n.children.length - (i + 1)) ≤ n.children.length := by omega
  obtain ⟨q, hq⟩ := h.nextFrom hleft
  have hnext : u.next? (p.child i) = .ok q := (next?_child h.node i).trans hq
  cases q with
  | none =>
    refine ⟨none, ?_, nofun⟩
    rw [Source.definitionAfter?, hnext]
    rfl
  | some q =>
    obtain ⟨j, -, -, rfl, ⟨m, hm, -⟩, -⟩ := nextFrom_eq_some_iff.mp hq
    by_cases htarget : m.isSigTarget
    · refine ⟨some (p.child j), definitionAfter?_eq_some_iff.mpr ⟨hnext, m, hm, htarget⟩, ?_⟩
      rintro _ ⟨⟩
      exact ⟨m, h.of_node_child hm, htarget⟩
    · refine ⟨none, ?_, nofun⟩
      rw [Source.definitionAfter?, hnext]
      change (do if (← u.node (p.child j)).isSigTarget then return some (p.child j) else return none) = _
      rw [hm]
      exact if_neg htarget

end Places

section Definitions

variable {u : Source} {o : ReadOptions} {p : NodePath} {n : Node}

theorem At.sigPairs (h : u.At p n) (o : ReadOptions) (seen : List (String × TypeExpr)) (as : List Node) :
    u.Safe (u.sigPairs o p seen as) := by
  induction as generalizing seen with
  | nil => exact .ok seen
  | cons a as ih =>
    rw [Source.sigPairs]
    split
    · exact h.fail _
    · split_ifs
      · exact h.fail _
      · exact ih _

theorem At.sigLink (h : u.At p n) (o : ReadOptions) (info : SigInfo) (l : Node.Link) :
    u.Safe (u.sigLink o p info l) := by
  have hparameters (args : List Node) : u.Safe (u.sigParameters o p args) := by
    unfold sigParameters
    split_ifs
    · exact h.fail _
    · exact h.sigPairs o [] _
  unfold Source.sigLink
  split
  case h_7 => exact h.fail _
  case h_8 => exact (hparameters _).bind fun _ _ => .ok _
  all_goals exact .ok _

theorem At.sigLinks (h : u.At p n) (o : ReadOptions) (info : SigInfo) (ls : List Node.Link) :
    u.Safe (u.sigLinks o p info ls) := by
  induction ls generalizing info with
  | nil => exact .ok info
  | cons l ls ih => exact (h.sigLink o info l).bind fun info' _ => ih info'

theorem At.sigInfo (h : u.At p n) (o : ReadOptions) (hsig : n.isSig) : u.Safe (u.sigInfo o p) := by
  have hblock : n.block?.isSome := by
    simp only [Node.isSig, Bool.and_eq_true] at hsig
    exact hsig.1.2
  obtain ⟨b, hb⟩ := Option.isSome_iff_exists.mp hblock
  rcases sigInfo_of_block u o h.node hb with ⟨s, -, hread⟩ | ⟨-, hread⟩
  · rw [hread]
    exact h.sigLinks o _ _
  · rw [hread]
    exact h.fail _

theorem At.defParameters (h : u.At p n) (d : Node) : u.Safe (u.defParameters p d) := by
  rw [Source.defParameters]
  split
  · exact .ok []
  · refine .mapM fun c _ => ?_
    unfold defParameter
    split
    · exact h.fail _
    · split
      · exact h.fail _
      · exact .ok _

theorem At.typedParameters (h : u.At p n) (defs : List DefParameter) (sig : SigInfo) :
    u.Safe (u.typedParameters p defs sig) := by
  unfold Source.typedParameters
  simp only
  split_ifs
  · exact h.fail _
  · refine .mapM fun d _ => ?_
    split
    · exact h.fail _
    · exact .ok _

theorem At.method (h : u.At p n) {d : Node} (hname : (d.child? "name").isSome) (sig : Option SigInfo)
    (eigen : Bool) (comments : List String) : u.Safe (u.method p d sig eigen comments) := by
  obtain ⟨name, hname⟩ := Option.isSome_iff_exists.mp hname
  have hlevel : u.Safe (u.methodLevel p d eigen) := by
    unfold methodLevel
    split_ifs
    · exact h.fail _
    · exact .ok true
    · exact h.fail _
    · exact .ok eigen
  refine hlevel.bind fun level _ => ?_
  rw [hname]
  refine (h.defParameters d).bind fun defs _ => ?_
  cases sig with
  | none => exact .ok _
  | some sig => exact (h.typedParameters defs sig).bind fun _ _ => .ok _

theorem At.attributes (h : u.At p n) {d : Node} (hkind : d.attributeKind?.isSome) (sig : Option SigInfo)
    (eigen : Bool) (comments : List String) : u.Safe (u.attributes p d sig eigen comments) := by
  obtain ⟨kind, hkind⟩ := Option.isSome_iff_exists.mp hkind
  rw [Source.attributes, hkind]
  refine .mapM fun a _ => ?_
  split
  · exact h.fail _
  · exact .ok _

theorem isCall_of_isAttributeCall {n : Node} (h : n.isAttributeCall) (hkind : n.kind ≠ "constant") :
    n.isCall || n.kind == "identifier" := by
  by_contra hneither
  rw [Bool.not_eq_true, Bool.or_eq_false_iff] at hneither
  have hname : n.callName? = none := by simp [Node.callName?, hneither, hkind]
  rw [Node.isAttributeCall, hname] at h
  cases h

theorem At.definition (h : u.At p n) (hwf : u.root.Grammatical) (htarget : n.isSigTarget)
    (hconstant : n.kind = "constant" → ¬ n.isAttributeCall) {s : Option NodePath}
    (hs : ∀ q ∈ s, ∃ m, u.At q m ∧ m.isSig) (eigen : Bool) : u.Safe (u.definition o p s eigen) := by
  have hmethod {d : Node} (hd : d.isDefinition) (hinside : d ∈ u.root.nodes) (sig : Option SigInfo)
      (comments : List String) :
      u.Safe (if d.isCall || d.kind == "identifier" then u.attributes p d sig eigen comments
        else do return [← u.method p d sig eigen comments]) := by
    obtain ⟨hcall, hidentifier⟩ := Node.not_isCall_of_isDefinition hd
    rw [if_neg (by simp [hcall, hidentifier])]
    exact (h.method (hwf.definitionName d hinside hd) sig eigen comments).bind fun _ _ => .ok _
  have htarget : ∃ d, (if n.isCall && n.isVisibilityCall then n.wrapped? else some n) = some d ∧
      ∀ (sig : Option SigInfo) (comments : List String),
        u.Safe (if d.isCall || d.kind == "identifier" then u.attributes p d sig eigen comments
          else do return [← u.method p d sig eigen comments]) := by
    simp only [Node.isSigTarget, Bool.or_eq_true, Bool.and_eq_true, or_assoc] at htarget
    rcases htarget with hdef | ⟨hattribute, -⟩ | ⟨hvisibility, hwrapped⟩
    · refine ⟨n, if_neg (by simp [Node.not_isCall_of_isDefinition hdef]), fun sig comments => ?_⟩
      exact hmethod hdef h.mem_nodes sig comments
    · obtain ⟨hkind, hvisibility⟩ := Node.attributeKind?_of_isAttributeCall hattribute
      have hcall : n.isCall || n.kind == "identifier" :=
        isCall_of_isAttributeCall hattribute fun hk => hconstant hk hattribute
      refine ⟨n, if_neg (by simp [hvisibility]), fun sig comments => ?_⟩
      rw [if_pos hcall]
      exact h.attributes hkind sig eigen comments
    · obtain ⟨d, hd⟩ := Option.isSome_iff_exists.mp hwrapped
      obtain ⟨hdef, hmem⟩ := Node.isDefinition_of_wrapped? hd
      have hcall : (n.isCall && n.isVisibilityCall) = true := by
        simp [Node.isCall_of_mem_arguments hmem, hvisibility]
      refine ⟨d, (if_pos hcall).trans hd, fun sig comments => ?_⟩
      exact hmethod hdef (Node.mem_nodes_of_mem_arguments h.mem_nodes hmem) sig comments
  obtain ⟨d, hd, hread⟩ := htarget
  have hcomments : ∃ comments, u.commentsBefore (s.getD p) = .ok comments := by
    cases s with
    | none => exact h.commentsBefore
    | some q =>
      obtain ⟨m, hm, -⟩ := hs q rfl
      exact hm.commentsBefore
  have hsig : u.Safe (s.elim (.ok none) (some <$> u.sigInfo o ·)) := by
    cases s with
    | none => exact .ok none
    | some q =>
      obtain ⟨m, hm, hsig⟩ := hs q rfl
      exact (hm.sigInfo o hsig).map some
  obtain ⟨comments, hcomments⟩ := hcomments
  rw [definition_of_target u o eigen h.node hd, hcomments]
  exact hsig.bind fun sig _ => hread sig comments

theorem At.definitionAt {c : Node} {i : Nat} (h : u.At p n) (hc : n.children[i]? = some c)
    (hwf : u.root.Grammatical) (hdef : c.isDefining) (eigen : Bool) :
    u.Safe (u.definitionAt o (p.child i) eigen) := by
  obtain ⟨s, hs, hsig⟩ := h.sigBefore? hc
  have hconstant : c.kind = "constant" → ¬ c.isAttributeCall := by
    intro hk
    simp [Node.isDefining, Node.isDefinition, Node.definitionKinds, Node.isCall, Node.callKinds, hk] at hdef
  rw [Source.definitionAt, hs]
  exact (h.child hc).definition hwf (Node.isSigTarget_of_isDefining hdef) hconstant hsig eigen

end Definitions

section Reading

variable {u : Source} {o : ReadOptions} {p : NodePath} {n : Node}

theorem At.scopeKind (h : u.At p n) (o : ReadOptions) :
    u.Safe (u.scopeKind o n (n.statements p)) := by
  have hstatement (s : NodePath × Node) (hs : s ∈ (n.statements p).filter (·.2.remark == .none)) :
      u.At s.1 s.2 := h.of_mem_statements (List.mem_filter.mp hs).1
  unfold Source.scopeKind
  simp only
  split_ifs
  · exact .ok _
  · refine Safe.bind (.mapM fun s hs => ?_) fun _ _ => .ok _
    have hs := hstatement s (List.mem_filter.mp hs).1
    unfold enumBlock
    split
    · exact .ok []
    · refine .mapM fun e _ => ?_
      unfold enumerator
      split
      · split_ifs
        · exact hs.fail _
        · exact hs.fail _
        · exact .ok _
      · exact hs.fail _
  · refine Safe.bind (.mapM fun s hs => ?_) fun _ _ => .ok _
    have hs := hstatement s (List.mem_filter.mp hs).1
    unfold structField
    simp only
    split
    · split
      · exact hs.fail _
      · exact .ok _
    · exact hs.fail _
  · exact .ok _

theorem At.scopeHeader (h : u.At p n) (hwf : u.root.Grammatical) (hscope : n.isScope) (o : ReadOptions) :
    u.Safe (u.scopeHeader o n p (n.statements p)) := by
  unfold Source.scopeHeader
  split
  · exact h.fail _
  · next name hname =>
    refine (h.scopeKind o).bind fun kind _ => ?_
    cases hnames : (Text.names name.text).reverse with
    | nil =>
      rw [List.reverse_eq_nil_iff] at hnames
      exact absurd hnames (hwf.scopeName n h.mem_nodes hscope name hname)
    | cons own outer => exact .ok _

theorem At.assignment (h : u.At p n) (o : ReadOptions) (eigen : Bool) :
    u.Safe (u.assignment o n p eigen) := by
  obtain ⟨comments, hcomments⟩ := h.commentsBefore
  unfold Source.assignment
  split
  · split_ifs
    · rw [hcomments]
      exact .ok _
    · exact h.unknown o _
  · exact h.unknown o _

theorem At.call {c : Node} {i : Nat} (h : u.At p n) (hc : n.children[i]? = some c) (o : ReadOptions)
    (eigen : Bool)
    (hdefines : ¬ ((c.isAttributeCall && c.receiver?.isNone) || (c.isVisibilityCall && c.wrapped?.isSome))) :
    u.Safe (u.call o c (p.child i) eigen).result := by
  unfold Source.call
  rw [if_neg hdefines]
  by_cases hsig : c.isSig
  · rw [if_pos hsig]
    obtain ⟨d, hd, -⟩ := h.definitionAfter? hc
    change u.Safe (u.definitionAfter? (p.child i) >>= _)
    rw [hd]
    cases d with
    | none => exact (h.child hc).fail _
    | some d => exact .ok []
  · rw [if_neg hsig]
    cases c.mixin? with
    | none => exact .ok []
    | some mixin => cases eigen <;> exact .ok _

theorem At.readNode (h : u.At p n) (hwf : u.root.Grammatical) (o : ReadOptions) (eigen : Bool)
    (hplace : p = .root → n.isSequence) : u.Safe (u.readNode o n p eigen).result := by
  rw [← readWith_definitionAt]
  -- Only the root has nothing around it, and a sig is looked for among what is around a definition.
  fun_induction readWith u o (u.definitionAt o) n p eigen with
  | case1 n p eigen _ ih =>
    refine .collect fun s hs => ih s hs (h.of_mem_statements hs) ?_
    exact fun hroot => absurd hroot (At.of_mem_statements_ne_root hs)
  | case2 n p eigen _ hscope ih =>
    refine .journal_bind (h.scopeHeader hwf hscope o) fun header _ => ?_
    refine .journal_bind (.collect fun s hs => ?_) fun children _ => ?_
    · have hs' := mem_of_mem_innerStatements hs
      refine ih header s hs (h.of_mem_statements hs') ?_
      exact fun hroot => absurd hroot (At.of_mem_statements_ne_root hs')
    · obtain ⟨comments, hcomments⟩ := h.commentsBefore
      rw [hcomments]
      exact .ok _
  | case3 n p eigen _ _ hself ih =>
    refine .collect fun s hs => ih s hs (h.of_mem_statements hs) ?_
    exact fun hroot => absurd hroot (At.of_mem_statements_ne_root hs)
  | case4 n p eigen hseq _ _ hdef =>
    cases h with
    | root => exact absurd (hplace rfl) hseq
    | child hm hc => exact hm.definitionAt hc hwf hdef eigen
  | case5 n p eigen hseq hscope hself hdef =>
    cases h with
    | root => exact absurd (hplace rfl) hseq
    | @child q m _ i hm hc =>
      have hplace := hm.child hc
      rcases u.readNode_of_other (q.child i) eigen hseq hscope hself hdef with
        hread | ⟨what, -, hread⟩ | hread | ⟨hcall, hread⟩
      · rw [hread]
        exact .ok []
      · rw [hread]
        exact hplace.unknown o what
      · rw [hread]
        exact hplace.assignment o eigen
      · rw [hread]
        exact hm.call hc o eigen hcall

mutual

theorem mem_sigsBelow (n : Node) {p q : NodePath} (h : u.At p n) (hq : q ∈ sigsBelow p n) :
    ∃ (r : NodePath) (i : Nat) (m c : Node), q = r.child i ∧ u.At r m ∧ m.children[i]? = some c ∧ c.isSig := by
  match n with
  | ⟨kind, text, line, field, named, missing, broken, parts⟩ =>
    rw [sigsBelow] at hq
    exact mem_sigsIn parts h (by simp [Node.children]) hq

theorem mem_sigsIn (cs : List Node) {p q : NodePath} {n : Node} {i : Nat} (h : u.At p n)
    (hcs : n.children.drop i = cs.filter (·.named)) (hq : q ∈ sigsIn p i cs) :
    ∃ (r : NodePath) (i : Nat) (m c : Node), q = r.child i ∧ u.At r m ∧ m.children[i]? = some c ∧ c.isSig := by
  match cs with
  | [] => cases hq
  | c :: cs =>
    rw [sigsIn] at hq
    by_cases hnamed : c.named
    · rw [List.filter_cons_of_pos hnamed] at hcs
      have hget : n.children[i]? = some c := by
        rw [← List.head?_drop, hcs, List.head?_cons]
      have hrest : n.children.drop (i + 1) = cs.filter (·.named) := by
        rw [← List.tail_drop, hcs, List.tail_cons]
      simp only [hnamed, ↓reduceIte, List.mem_append, or_assoc] at hq
      rcases hq with hhead | hbelow | hrest'
      · split_ifs at hhead with hsig
        · cases List.mem_singleton.mp hhead
          exact ⟨p, i, n, c, rfl, h, hget, hsig⟩
        · cases hhead
      · exact mem_sigsBelow c (h.child hget) hbelow
      · exact mem_sigsIn cs h hrest hrest'
    · rw [List.filter_cons_of_neg hnamed] at hcs
      rw [if_neg hnamed] at hq
      exact mem_sigsIn cs h hcs hq

end

def ConstantAfter (u : Source) (s : NodePath) : Prop :=
  ∃ d n, u.next? s = .ok (some d) ∧ u.node d = .ok n ∧ n.kind = "constant" ∧ n.text ∈ Node.attributeCalls

theorem readSig_safe (hwf : u.root.Grammatical) (o : ReadOptions) (hp : p ∈ u.sigs) (hconstant : ¬ u.ConstantAfter p) :
    u.Safe (u.readSig o p) := by
  obtain ⟨r, i, m, c, rfl, hm, hc, hsig⟩ := mem_sigsBelow u.root .root hp
  have hplace := hm.child hc
  obtain ⟨d, hd, htarget⟩ := hm.definitionAfter? hc
  rw [readSig, hd]
  cases d with
  | none => exact hplace.fail _
  | some d =>
    obtain ⟨t, ht, htarget⟩ := htarget d rfl
    obtain ⟨eigen, heigen⟩ := exists_withinEigen hplace.node
    change u.Safe (u.withinEigen (r.child i).steps >>= _)
    rw [heigen]
    have hs : ∀ q ∈ some (r.child i), ∃ m, u.At q m ∧ m.isSig := by
      rintro _ ⟨⟩
      exact ⟨c, hplace, hsig⟩
    refine ht.definition hwf htarget (fun hkind hcall => hconstant ?_) hs eigen
    have hnext := (definitionAfter?_eq_some_iff.mp hd).1
    exact ⟨d, t, hnext, ht.node, hkind, Node.text_mem_of_isAttributeCall hkind hcall⟩

/-- Reading a program, or a sig of it, comes to declarations or to a problem with a node of the tree,
and where a type is read, the part that a reference is made on is there. A sig may be taken to stand
before a constant, which no call is read from: only there can a part be asked for that is missing. -/
theorem program_safe (u : Source) (o : ReadOptions) (hroot : u.root.isSequence) (hwf : u.root.Grammatical) :
    u.Safe (u.program o).result ∧
      (∀ p ∈ u.sigs, ¬ u.ConstantAfter p → u.Safe (u.readSig o p)) ∧
      ∀ n ∈ u.root.nodes, n.kind = "element_reference" → n.reference.1.isSome := by
  refine ⟨?_, fun p hp hconstant => readSig_safe hwf o hp hconstant, fun n hn hkind => ?_⟩
  · unfold program
    split_ifs
    · refine .problem .badSyntax ?_
      cases hdefect : u.root.firstDefect? with
      | none => exact u.root.mem_nodes_self
      | some d => exact Node.firstDefect?_mem_nodes u.root hdefect
    · refine .journal_bind ?_ fun children _ => .ok _
      exact At.readNode .root hwf o false fun _ => hroot
  · obtain ⟨object, hobject⟩ := Option.isSome_iff_exists.mp (hwf.referenceObject n hn hkind)
    simp [Node.reference, hobject]

theorem program_safe_in_class :
    let sig (e : Node) : Node := .made "call" "sig { ... }"
      [(Node.made "identifier" "sig" []).playing "method", (Node.made "block" "{ ... }" [e]).playing "block"]
    let type : Node := (Expr.reference (.constant "B") [.constant "C"]).tree
    let returns : Node := .made "call" "returns(B[C])"
      [(Node.made "identifier" "returns" []).playing "method",
        (Node.made "argument_list" "(B[C])" [type]).playing "arguments"]
    let method : Node := .made "method" "def f; end" [(Node.made "identifier" "f" []).playing "name"]
    let hidden : Node := .made "call" "private def f; end"
      [(Node.made "identifier" "private" []).playing "method",
        (Node.made "argument_list" "def f; end" [method]).playing "arguments"]
    let body : Node := .made "body_statement" "" [sig returns, hidden, sig (.made "identifier" "void" [])]
    let scope : Node := .made "class" "class A; ...; end" [(Node.made "constant" "A" []).playing "name", body]
    let u : Source := { root := .made "program" "class A; ...; end" [scope], file := "a.rb" }
    let s : NodePath := ((NodePath.root.child 0).child 1).child 0
    u.root.isSequence ∧ u.root.Grammatical ∧ s ∈ u.sigs ∧ ¬ u.ConstantAfter s ∧ u.Safe (u.program {}).result ∧
      u.Safe (u.readSig {} s) := by
  intro sig type returns method hidden body scope u s
  have hroot : u.root.isSequence := rfl
  have hwf : u.root.Grammatical := ⟨by decide, by decide, by decide⟩
  have hs : s ∈ u.sigs := by decide +kernel
  have hconstant : ¬ u.ConstantAfter s := by
    rintro ⟨d, n, hd, hn, hkind, -⟩
    have hnext : u.next? s = .ok (some (((NodePath.root.child 0).child 1).child 1)) := rfl
    cases hnext.symm.trans hd
    cases hn
    exact absurd hkind (by decide)
  obtain ⟨hprogram, hsigs, -⟩ := program_safe u {} hroot hwf
  exact ⟨hroot, hwf, hs, hconstant, hprogram, hsigs s hs hconstant⟩

/-- A constant after a sig that is spelt `attr_reader` is taken for the definition, and has no name to be read. -/
theorem constant_after_sig_not_safe :
    let sig : Node := .made "call" "sig { void }"
      [(Node.made "identifier" "sig" []).playing "method",
        (Node.made "block" "{ void }" [.made "identifier" "void" []]).playing "block"]
    let u : Source := { root := .made "program" "" [sig, .made "constant" "attr_reader" []], file := "a.rb" }
    u.root.isSequence ∧ u.root.Grammatical ∧ .child .root 0 ∈ u.sigs ∧
      u.readSig {} (.child .root 0) = .error .noPart ∧ ¬ u.Safe (u.readSig {} (.child .root 0)) := by
  intro sig u
  have hwf : u.root.Grammatical := ⟨by decide, by decide, by decide⟩
  have hafter : u.definitionAfter? (.child .root 0) = .ok (some (.child .root 1)) := rfl
  have hinfo : u.sigInfo {} (.child .root 0) = .ok { isVoid := true } := by
    change u.sigLinks {} (.child .root 0) {} (Node.made "identifier" "void" []).chain.2 = _
    rw [Node.chain_of_not_isCall (by decide)]
    rfl
  have hread : u.readSig {} (.child .root 0) = .error .noPart := by
    rw [readSig, hafter]
    change u.definition {} (.child .root 1) (some (.child .root 0)) false = _
    rw [definition_of_target u {} false (n := .made "constant" "attr_reader" []) rfl rfl, Option.elim_some, hinfo,
      Option.getD_some, commentsBefore_root_child_zero]
    rfl
  refine ⟨rfl, hwf, by decide +kernel, hread, fun hsafe => ?_⟩
  rw [hread] at hsafe
  cases hsafe

end Reading

end Source
end RubyStubs
