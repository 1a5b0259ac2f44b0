import RubyStubs.Proofs.Reading

namespace RubyStubs

def SourceError.isUnknown : SourceError → Bool
  | .problem what _ _ => what.isUnknown
  | .path _ | .noPart => false

def Known {α : Type} (x : Except SourceError α) : Prop := ∀ e, x = .error e → e.isUnknown = false

/-- What strict and lenient reading come to: the same, or the strict one stops at an unknown statement. -/
inductive Eased {α : Type} : Except SourceError α → Except SourceError α → Prop
  | same {x : Except SourceError α} (h : Known x) : Eased x x
  | unknown {e : SourceError} {y : Except SourceError α} (h : e.isUnknown = true) (hy : Known y) :
      Eased (.error e) y

section Closure

variable {α β : Type}

theorem known_ok (a : α) : Known (.ok a) := nofun

theorem known_error {e : SourceError} (h : e.isUnknown = false) : Known (.error e : Except SourceError α) := by
  intro e' he'
  cases he'
  exact h

theorem Known.bind {x : Except SourceError α} {f : α → Except SourceError β} (hx : Known x)
    (hf : ∀ a, Known (f a)) : Known (x >>= f) := by
  cases x with
  | error e => exact known_error (hx e rfl)
  | ok a => exact hf a

theorem Known.mapM {f : α → Except SourceError β} (hf : ∀ a, Known (f a)) (xs : List α) : Known (xs.mapM f) := by
  induction xs with
  | nil => exact known_ok []
  | cons x xs ih =>
    rw [List.mapM_cons]
    apply (hf x).bind
    intro y
    apply ih.bind
    intro ys
    exact known_ok (y :: ys)

theorem Eased.known {x y : Except SourceError α} (h : Eased x y) : Known y := by
  cases h with
  | same h => exact h
  | unknown _ hy => exact hy

theorem Eased.eq_or_unknown {x y : Except SourceError α} (h : Eased x y) :
    y = x ∨ ∃ e, x = .error e ∧ e.isUnknown = true := by
  cases h with
  | same _ => exact .inl rfl
  | unknown he _ => exact .inr ⟨_, rfl, he⟩

theorem Eased.ok (a : α) : Eased (.ok a) (.ok a) := .same (known_ok a)

theorem Eased.bind {x y : Except SourceError α} {f g : α → Except SourceError β} (h : Eased x y)
    (hf : ∀ a, Eased (f a) (g a)) : Eased (x >>= f) (y >>= g) := by
  cases h with
  | same h =>
    cases x with
    | error e => exact .same (known_error (h e rfl))
    | ok a => exact hf a
  | unknown he hy =>
    apply Eased.unknown he
    apply hy.bind
    intro a
    exact (hf a).known

theorem Journal.result_bind {ε : Type} (x : Journal ε α) (f : α → Journal ε β) :
    (x >>= f).result = x.result >>= fun a => (f a).result := by
  cases h : x.result with
  | error e => rw [bind_error h]; rfl
  | ok a => rw [bind_ok h]; rfl

theorem Eased.journal_bind {x y : Source.Read α} {f g : α → Source.Read β} (h : Eased x.result y.result)
    (hf : ∀ a, Eased (f a).result (g a).result) : Eased (x >>= f).result (y >>= g).result := by
  rw [Journal.result_bind, Journal.result_bind]
  exact h.bind hf

theorem Eased.collect {xs : List α} {f g : (x : α) → x ∈ xs → Source.Read (List β)}
    (h : ∀ x hx, Eased (f x hx).result (g x hx).result) :
    Eased (Journal.collect xs f).result (Journal.collect xs g).result := by
  induction xs with
  | nil => exact .ok []
  | cons x xs ih =>
    apply (h x List.mem_cons_self).journal_bind
    intro ys
    apply Eased.journal_bind (ih fun z hz => h z (List.mem_cons_of_mem x hz))
    intro zs
    exact .ok (ys ++ zs)

end Closure

namespace Source

section Places

variable (u : Source)

theorem known_node (p : NodePath) : Known (u.node p) := by
  rw [node]
  intro e he
  cases hlocate : u.root.locate p with
  | ok n =>
    rw [hlocate] at he
    cases he
  | error e' =>
    rw [hlocate] at he
    cases he
    rfl

theorem known_fail {α : Type} {what : Problem} (h : what.isUnknown = false) (p : NodePath) :
    Known (u.fail what p : Except SourceError α) := by
  apply (u.known_node p).bind
  intro n e he
  cases he
  exact h

theorem known_previousFrom (up : List Int) (i : Nat) : Known (u.previousFrom up i) := by
  induction i with
  | zero => exact known_ok none
  | succ i ih =>
    apply (u.known_node _).bind
    intro n
    split
    · exact ih
    · exact known_ok _

theorem known_nextFrom (up : List Int) (i left : Nat) : Known (u.nextFrom up i left) := by
  induction left generalizing i with
  | zero => exact known_ok none
  | succ left ih =>
    apply (u.known_node _).bind
    intro n
    split
    · exact ih (i + 1)
    · exact known_ok _

theorem known_sigBefore? (p : NodePath) : Known (u.sigBefore? p) := by
  have hprevious : Known (u.previous? p) := by
    unfold previous?
    split
    · exact known_error rfl
    · exact u.known_previousFrom _ _
  apply hprevious.bind
  intro q
  cases q with
  | none => exact known_ok none
  | some q =>
    apply (u.known_node q).bind
    intro n
    exact known_ok _

theorem known_definitionAfter? (p : NodePath) : Known (u.definitionAfter? p) := by
  have hnext : Known (u.next? p) := by
    unfold next?
    split
    · exact known_error rfl
    · apply (u.known_node _).bind
      intro n
      split
      · exact known_error rfl
      · exact u.known_nextFrom _ _ _
  apply hnext.bind
  intro q
  cases q with
  | none => exact known_ok none
  | some q =>
    apply (u.known_node q).bind
    intro n
    split <;> exact known_ok _

theorem known_commentsBefore (p : NodePath) : Known (u.commentsBefore p) := by
  have hsteps (below : List String) (steps : List Int) : Known (u.commentsAbove below steps) := by
    fun_induction commentsAbove u below steps with
    | case1 below => exact known_ok below
    | case2 below => exact known_ok below
    | case3 below i up _ _ ih =>
      apply (u.known_node _).bind
      intro n
      split
      · exact ih
      · exact known_ok below
    | case4 below i up =>
      exact known_error rfl
    | case5 below i up _ _ ih =>
      apply (u.known_node _).bind
      intro n
      split
      · exact known_ok below
      · exact ih n
  exact hsteps [] p.steps

end Places

section Definitions

variable (u : Source) (o : ReadOptions) (p : NodePath)

theorem known_sigPairs (seen : List (String × TypeExpr)) (as : List Node) : Known (u.sigPairs o p seen as) := by
  induction as generalizing seen with
  | nil => exact known_ok seen
  | cons a as ih =>
    rw [sigPairs]
    split
    · exact u.known_fail rfl p
    · split
      · exact u.known_fail rfl p
      · exact ih _

theorem known_sigLink (info : SigInfo) (l : Node.Link) : Known (u.sigLink o p info l) := by
  have hparameters (args : List Node) : Known (u.sigParameters o p args) := by
    unfold sigParameters
    split
    · exact u.known_fail rfl p
    · exact u.known_sigPairs o p [] _
  unfold sigLink
  split
  case h_7 => exact u.known_fail rfl p
  case h_8 =>
    apply (hparameters _).bind
    intro parameters
    exact known_ok _
  all_goals exact known_ok _

theorem known_sigInfo : Known (u.sigInfo o p) := by
  have hlinks (info : SigInfo) (ls : List Node.Link) : Known (u.sigLinks o p info ls) := by
    induction ls generalizing info with
    | nil => exact known_ok info
    | cons l ls ih =>
      apply (u.known_sigLink o p info l).bind
      exact ih
  apply (u.known_node p).bind
  intro n
  dsimp only
  split
  · exact known_error rfl
  · split
    · exact hlinks _ _
    · exact u.known_fail rfl p

theorem known_method (n : Node) (sig : Option SigInfo) (eigen : Bool) (comments : List String) :
    Known (u.method p n sig eigen comments) := by
  have hlevel : Known (u.methodLevel p n eigen) := by
    unfold methodLevel
    split
    · split
      · exact u.known_fail rfl p
      · split
        · exact known_ok true
        · exact u.known_fail rfl p
    · exact known_ok eigen
  have hdefs : Known (u.defParameters p n) := by
    unfold defParameters
    split
    · exact known_ok []
    · apply Known.mapM
      intro c
      unfold defParameter
      split
      · exact u.known_fail rfl p
      · split
        · exact u.known_fail rfl p
        · exact known_ok _
  have htyped (defs : List DefParameter) (sig : SigInfo) : Known (u.typedParameters p defs sig) := by
    unfold typedParameters
    dsimp only
    split
    · exact u.known_fail rfl p
    · apply Known.mapM
      intro d
      split
      · exact u.known_fail rfl p
      · exact known_ok _
  apply hlevel.bind
  intro level
  dsimp only
  split
  · exact known_error rfl
  · apply hdefs.bind
    intro defs
    cases sig with
    | none => exact known_ok _
    | some sig =>
      apply (htyped defs sig).bind
      intro parameters
      exact known_ok _

theorem known_attributes (n : Node) (sig : Option SigInfo) (eigen : Bool) (comments : List String) :
    Known (u.attributes p n sig eigen comments) := by
  unfold attributes
  split
  · exact known_error rfl
  · apply Known.mapM
    intro a
    split
    · exact u.known_fail rfl p
    · exact known_ok _

theorem known_definition (s : Option NodePath) (eigen : Bool) : Known (u.definition o p s eigen) := by
  have hread (d : Node) (sig : Option SigInfo) (comments : List String) :
      Known (if d.isCall || d.kind == "identifier" then u.attributes p d sig eigen comments
        else do return [← u.method p d sig eigen comments]) := by
    split
    · exact u.known_attributes p d sig eigen comments
    · apply (u.known_method p d sig eigen comments).bind
      intro m
      exact known_ok [m]
  apply (u.known_node p).bind
  intro n
  cases s with
  | none =>
    apply (u.known_commentsBefore p).bind
    intro comments
    split
    · exact known_error rfl
    · exact hread _ none comments
  | some s =>
    apply Known.bind
    · apply (u.known_sigInfo o s).bind
      intro sig
      exact known_ok (some sig)
    · intro sig
      apply (u.known_commentsBefore s).bind
      intro comments
      split
      · exact known_error rfl
      · exact hread _ sig comments

theorem known_definitionAt (eigen : Bool) : Known (u.definitionAt o p eigen) := by
  apply (u.known_sigBefore? p).bind
  intro s
  exact u.known_definition o p s eigen

theorem known_scopeKind (n : Node) (body : List (NodePath × Node)) : Known (u.scopeKind o n body) := by
  have henums (s : NodePath × Node) : Known (u.enumBlock s) := by
    unfold enumBlock
    split
    · exact known_ok []
    · apply Known.mapM
      intro e
      unfold enumerator
      split
      · split
        · exact u.known_fail rfl s.1
        · split
          · exact u.known_fail rfl s.1
          · exact known_ok _
      · exact u.known_fail rfl s.1
  have hfield (s : NodePath × Node) : Known (u.structField o s) := by
    unfold structField
    dsimp only
    split
    · split
      · exact u.known_fail rfl s.1
      · exact known_ok _
    · exact u.known_fail rfl s.1
  unfold scopeKind
  dsimp only
  split
  · exact known_ok _
  · split
    · apply (Known.mapM henums _).bind
      intro es
      exact known_ok _
    · split
      · apply (Known.mapM hfield _).bind
        intro fs
        exact known_ok _
      · exact known_ok _

theorem known_scopeHeader (n : Node) (body : List (NodePath × Node)) : Known (u.scopeHeader o n p body) := by
  unfold scopeHeader
  split
  · exact u.known_fail rfl p
  · apply (u.known_scopeKind o n body).bind
    intro kind
    split
    · exact known_error rfl
    · exact known_ok _

theorem known_call (n : Node) (eigen : Bool) : Known (u.call o n p eigen).result := by
  unfold call
  split
  · apply (u.known_definitionAfter? p).bind
    intro d
    cases d with
    | none => exact u.known_fail rfl p
    | some d => exact known_ok []
  · split
    · exact u.known_definitionAt o p eigen
    · split
      · cases eigen <;> exact known_ok _
      · exact known_ok []

end Definitions

section Congruence

variable (u : Source) {o o' : ReadOptions} (h : o.type = o'.type)

include h

theorem sigPairs_congr (p : NodePath) (seen : List (String × TypeExpr)) (as : List Node) :
    u.sigPairs o p seen as = u.sigPairs o' p seen as := by
  induction as generalizing seen with
  | nil => rfl
  | cons a as ih => simp only [sigPairs, h, ih]

theorem sigInfo_congr (p : NodePath) : u.sigInfo o p = u.sigInfo o' p := by
  have hlink (info : SigInfo) (l : Node.Link) : u.sigLink o p info l = u.sigLink o' p info l := by
    simp only [sigLink, sigParameters, u.sigPairs_congr h, h]
  have hlinks (info : SigInfo) (ls : List Node.Link) : u.sigLinks o p info ls = u.sigLinks o' p info ls := by
    induction ls generalizing info with
    | nil => rfl
    | cons l ls ih => simp only [sigLinks, hlink, ih]
  simp only [sigInfo, hlinks]

theorem definitionAt_congr : u.definitionAt o = u.definitionAt o' := by
  funext p eigen
  simp only [definitionAt, definition, u.sigInfo_congr h]

theorem call_congr : u.call o = u.call o' := by
  funext n p eigen
  simp only [call, u.definitionAt_congr h]

end Congruence

section Modes

variable {u : Source} {o : ReadOptions} {p : NodePath} {n : Node}

theorem eased_unknown (o : ReadOptions) (hn : u.node p = .ok n) {what : Problem} (h : what.isUnknown = true) :
    Eased (u.unknown { o with strict := true } what p) (u.unknown { o with strict := false } what p) := by
  rw [unknown, if_pos rfl, fail, hn]
  exact .unknown h (known_ok [])

theorem eased_assignment (o : ReadOptions) (hn : u.node p = .ok n) (eigen : Bool) :
    Eased (u.assignment { o with strict := true } n p eigen) (u.assignment { o with strict := false } n p eigen) := by
  unfold assignment
  split
  · split
    · apply Eased.same
      apply (u.known_commentsBefore p).bind
      intro comments
      exact known_ok _
    · exact eased_unknown o hn rfl
  · exact eased_unknown o hn rfl

theorem eased_readNode (hn : u.node p = .ok n) (eigen : Bool) :
    Eased (u.readNode { o with strict := true } n p eigen).result
      (u.readNode { o with strict := false } n p eigen).result := by
  rw [← readWith_definitionAt]
  fun_induction readWith u { o with strict := true } (u.definitionAt { o with strict := true }) n p eigen with
  | case1 n p eigen hseq ih =>
    rw [readNode_of_isSequence _ _ _ _ hseq]
    apply Eased.collect
    intro s hs
    exact ih s hs (node_of_mem_statements hn hs)
  | case2 n p eigen hseq hscope ih =>
    rw [readNode_of_isScope _ _ _ _ hscope]
    apply Eased.journal_bind (.same (u.known_scopeHeader _ p n _))
    intro header
    apply Eased.journal_bind
    · apply Eased.collect
      intro s hs
      exact ih header s hs (node_of_mem_statements hn (mem_of_mem_innerStatements hs))
    · intro children
      apply Eased.journal_bind (.same (u.known_commentsBefore p))
      intro comments
      exact .ok _
  | case3 n p eigen hseq hscope hself ih =>
    rw [readNode_of_isOwnSingleton _ _ _ _ hself]
    apply Eased.collect
    intro s hs
    exact ih s hs (node_of_mem_statements hn hs)
  | case4 n p eigen hseq hscope hself hdef =>
    have hsame : u.definitionAt { o with strict := true } = u.definitionAt { o with strict := false } :=
      u.definitionAt_congr rfl
    rw [readNode_of_isDefining _ _ _ _ hdef, ← hsame]
    exact .same (u.known_definitionAt _ p eigen)
  | case5 n p eigen hseq hscope hself hdef =>
    rcases u.readNode_of_other p eigen hseq hscope hself hdef with
      hread | ⟨what, hwhat, hread⟩ | hread | ⟨-, hread⟩
    · rw [hread, hread]
      exact .ok []
    · rw [hread, hread]
      exact eased_unknown o hn hwhat
    · rw [hread, hread]
      exact eased_assignment o hn eigen
    · have hsame : u.call { o with strict := true } = u.call { o with strict := false } := u.call_congr rfl
      rw [hread, hread, ← hsame]
      exact .same (u.known_call _ p n eigen)

end Modes

theorem eased_program (u : Source) (o : ReadOptions) :
    Eased (u.program { o with strict := true }).result (u.program { o with strict := false }).result := by
  unfold program
  split
  · exact .same (known_error rfl)
  · apply Eased.journal_bind (eased_readNode rfl false)
    intro children
    exact .ok _

/-- What strict reading comes to, lenient reading comes to as well: the same program, or the same error
unless it is about an unknown statement. Lenient reading has no errors about these, and fails only where
strict reading does. -/
theorem program_lenient (u : Source) (o : ReadOptions) :
    let strict := (u.program { o with strict := true }).result
    let lenient := (u.program { o with strict := false }).result
    (∀ root, strict = .ok root → lenient = .ok root) ∧
      (∀ e, strict = .error e → e.isUnknown = false → lenient = .error e) ∧
      ∀ e, lenient = .error e → e.isUnknown = false ∧ ∃ e', strict = .error e' := by
  intro strict lenient
  have heased : Eased strict lenient := u.eased_program o
  refine ⟨fun root hroot => ?_, fun e he hknown => ?_, fun e he => ⟨heased.known e he, ?_⟩⟩
  · rcases heased.eq_or_unknown with heq | ⟨e, he, -⟩
    · exact heq.trans hroot
    · cases hroot.symm.trans he
  · rcases heased.eq_or_unknown with heq | ⟨e', he', hunknown⟩
    · exact heq.trans he
    · cases he.symm.trans he'
      rw [hknown] at hunknown
      cases hunknown
  · rcases heased.eq_or_unknown with heq | ⟨e', he', -⟩
    · exact ⟨e, heq.symm.trans he⟩
    · exact ⟨e', he'⟩

theorem program_of_statements {u : Source} {ss : List (NodePath × Node)} (hbroken : u.root.broken = false)
    (hroot : u.root.isSequence) (hss : u.root.statements .root = ss) (o : ReadOptions) :
    (u.program o).result =
      (Journal.collect ss fun s _ => u.readNode o s.2 s.1 false).result >>= fun ds => .ok (.scope {} ds) := by
  subst hss
  rw [program, hbroken, if_neg Bool.false_ne_true, Journal.result_bind, read_root, readWith_definitionAt,
    readNode_of_isSequence _ _ _ _ hroot]
  rfl

theorem program_lenient_nameless :
    let node (kind : String) (line : Nat) (parts : List Node) : Node :=
      { kind, text := "", line, field := none, named := true, missing := false, broken := false, parts }
    let file (parts : List Node) : Source := { root := node "program" 1 parts, file := "a.rb" }
    let u : Source := file [node "comment" 1 []]
    let v : Source := file [node "class" 1 [], node "singleton_class" 2 []]
    let w : Source := file [node "singleton_class" 1 [], node "class" 2 []]
    (u.program {}).result = .ok (.scope {} []) ∧ (u.program { strict := false }).result = .ok (.scope {} []) ∧
      (v.program {}).result = .error (.problem .unnamedScope "a.rb" 1) ∧
      (v.program { strict := false }).result = .error (.problem .unnamedScope "a.rb" 1) ∧
      (w.program { strict := false }).result = .error (.problem .unnamedScope "a.rb" 2) ∧
      ∃ e, (w.program {}).result = .error e := by
  intro node file u v w
  have hu : (u.program {}).result = .ok (.scope {} []) := by
    have hss : u.root.statements .root = [(NodePath.root.child 0, node "comment" 1 [])] := rfl
    have hcomment : u.readNode {} (node "comment" 1 []) (NodePath.root.child 0) false = return [] := by
      rw [readNode]
      rfl
    rw [program_of_statements rfl rfl hss]
    simp only [Journal.collect, hcomment]
    rfl
  have hv : (v.program {}).result = .error (.problem .unnamedScope "a.rb" 1) := by
    have hss : v.root.statements .root =
        [(NodePath.root.child 0, node "class" 1 []), (NodePath.root.child 1, node "singleton_class" 2 [])] := rfl
    have hclass : v.readNode {} (node "class" 1 []) (NodePath.root.child 0) false =
        .ofExcept (.error (.problem .unnamedScope "a.rb" 1)) := by
      rw [readNode_of_isScope _ _ _ _ rfl]
      rfl
    rw [program_of_statements rfl rfl hss]
    simp only [Journal.collect, hclass]
    rfl
  have hw : (w.program { strict := false }).result = .error (.problem .unnamedScope "a.rb" 2) := by
    have hss : w.root.statements .root =
        [(NodePath.root.child 0, node "singleton_class" 1 []), (NodePath.root.child 1, node "class" 2 [])] := rfl
    have hforeign : w.readNode { strict := false } (node "singleton_class" 1 []) (NodePath.root.child 0) false =
        return [] := by
      rw [readNode]
      rfl
    have hclass : w.readNode { strict := false } (node "class" 2 []) (NodePath.root.child 1) false =
        .ofExcept (.error (.problem .unnamedScope "a.rb" 2)) := by
      rw [readNode_of_isScope _ _ _ _ rfl]
      rfl
    rw [program_of_statements rfl rfl hss]
    simp only [Journal.collect, hforeign, hclass]
    rfl
  obtain ⟨hok, -, -⟩ := program_lenient u {}
  obtain ⟨-, herror, -⟩ := program_lenient v {}
  obtain ⟨-, -, hfails⟩ := program_lenient w {}
  exact ⟨hu, hok _ hu, hv, herror _ hv rfl, hw, (hfails _ hw).2⟩

end Source
end RubyStubs
