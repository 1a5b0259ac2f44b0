import RubyStubs.Proofs.Printing
import RubyStubs.Proofs.ScopeReading

namespace RubyStubs

namespace Decl

mutual

def uncommented : Decl → Decl
  | .member m => .member { m with comments := [] }
  | .scope s ds => .scope { s with comments := [] } (uncommentedAll ds)

def uncommentedAll : List Decl → List Decl
  | [] => []
  | d :: ds => uncommented d :: uncommentedAll ds

end

theorem uncommentedAll_append (ds es : List Decl) :
    uncommentedAll (ds ++ es) = uncommentedAll ds ++ uncommentedAll es := by
  induction ds with
  | nil => rfl
  | cons d ds ih => rw [List.cons_append, uncommentedAll, uncommentedAll, ih, List.cons_append]

theorem isDeclaring_of_mem_inSingleton {ss : List Stmt} (hss : ∀ st ∈ ss, st.isDeclaring) {classLevel : Bool}
    {st : Stmt} (hst : st ∈ inSingleton classLevel ss) : st.isDeclaring := by
  cases classLevel with
  | false => exact hss st hst
  | true =>
    cases List.mem_singleton.mp hst
    rfl

theorem isDeclaring_of_isDeclared {o : ReadOptions} {d : Decl} (h : d.isDeclared o false) {st : Stmt}
    (hst : st ∈ d.stmts) : st.isDeclaring := by
  match d with
  | .scope s ds =>
    rw [stmts, List.mem_singleton] at hst
    subst hst
    unfold Scope.opening
    cases s.kind <;> rfl
  | .member ⟨name, .method b, _⟩ =>
    rcases List.mem_pair.mp hst with rfl | rfl
    · rfl
    · rfl
  | .member ⟨name, .attribute k b, _⟩ =>
    exact isDeclaring_of_mem_inSingleton (List.forall_mem_cons.mpr ⟨rfl, List.forall_mem_singleton.mpr rfl⟩) hst
  | .member ⟨name, .constant v classLevel, _⟩ =>
    exact isDeclaring_of_mem_inSingleton (List.forall_mem_singleton.mpr rfl) hst
  | .member ⟨_, .mixin _ _, _⟩ | .member ⟨_, .code _, _⟩ | .member ⟨_, .bare, _⟩ => cases h

theorem isDeclaring_of_areDeclared {o : ReadOptions} {ds : List Decl} (h : areDeclared o false ds) {st : Stmt}
    (hst : st ∈ stmtsAll ds) : st.isDeclaring := by
  induction ds with
  | nil => cases hst
  | cons d ds ih =>
    rw [areDeclared, Bool.and_eq_true] at h
    rcases List.mem_append.mp hst with hst | hst
    · exact isDeclaring_of_isDeclared h.1 hst
    · exact ih h.2 hst

end Decl

namespace Source

open Decl

variable {u : Source} {o : ReadOptions} {eigen : Bool} {q : NodePath}

def Yields (u : Source) (o : ReadOptions) (eigen : Bool) (s : NodePath × Node) (ds : List Decl) : Prop :=
  ∃ ds', (u.readNode o s.2 s.1 eigen).result = .ok ds' ∧ uncommentedAll ds' = ds

inductive YieldsAll (u : Source) (o : ReadOptions) (eigen : Bool) : List (NodePath × Node) → List Decl → Prop
  | nil : YieldsAll u o eigen [] []
  | cons {s : NodePath × Node} {xs : List (NodePath × Node)} {ds es : List Decl} (hs : u.Yields o eigen s ds)
      (hxs : YieldsAll u o eigen xs es) : YieldsAll u o eigen (s :: xs) (ds ++ es)

section Yields

variable {xs ys : List (NodePath × Node)} {ds es : List Decl}

theorem YieldsAll.one {s : NodePath × Node} (hs : u.Yields o eigen s ds) : u.YieldsAll o eigen [s] ds := by
  simpa using YieldsAll.cons hs .nil

theorem YieldsAll.append (hxs : u.YieldsAll o eigen xs ds) (hys : u.YieldsAll o eigen ys es) :
    u.YieldsAll o eigen (xs ++ ys) (ds ++ es) := by
  induction hxs with
  | nil => exact hys
  | cons hs _ ih =>
    rw [List.append_assoc]
    exact .cons hs ih

theorem YieldsAll.collect (h : u.YieldsAll o eigen xs ds) :
    ∃ ds', (Journal.collect xs fun s _ => u.readNode o s.2 s.1 eigen).result = .ok ds' ∧
      uncommentedAll ds' = ds := by
  induction h with
  | nil => exact ⟨[], rfl, rfl⟩
  | cons hs _ ih =>
    obtain ⟨ds', hds', rfl⟩ := hs
    obtain ⟨es', hes', rfl⟩ := ih
    refine ⟨ds' ++ es', ?_, uncommentedAll_append ds' es'⟩
    rw [Journal.collect, Journal.bind_ok hds', Journal.bind_ok hes']
    rfl

theorem yields_of_isComment {s : NodePath × Node} (h : s.2.isComment) : u.Yields o eigen s [] := by
  have hkind : s.2.kind = "comment" := by simpa [Node.isComment] using h
  refine ⟨[], ?_, rfl⟩
  rw [readNode]
  simp only [Node.isComment_not_isSequence h, h]
  rfl

theorem YieldsAll.of_filter (h : u.YieldsAll o eigen (xs.filter (!·.2.isComment)) ds) :
    u.YieldsAll o eigen xs ds := by
  induction xs generalizing ds with
  | nil => exact h
  | cons s xs ih =>
    cases hcomment : s.2.isComment with
    | true =>
      rw [List.filter_cons_of_neg (by simp [hcomment])] at h
      exact .cons (yields_of_isComment hcomment) (ih h)
    | false =>
      rw [List.filter_cons_of_pos (by simp [hcomment])] at h
      cases h with
      | cons hs hxs => exact .cons hs (ih hxs)

end Yields

section Statements

variable {n : Node} {p : NodePath} {i : Nat}

theorem readNode_command (o : ReadOptions) (eigen : Bool) {c : BareCall} (h : Stmt.Mirrors (.command c) n) :
    u.readNode o n p eigen = u.call o n p eigen := by
  obtain ⟨ns, hcall, -⟩ := h.2.isCallOf
  have hword : ¬ scopeCalls.contains (Text.trim n.text) := by
    intro hmem
    have hmark : ∀ m, Stmt.command c ≠ .mark m := by
      intro m hm
      cases hm
    exact h.trim_ne hmark (List.contains_iff_mem.mp hmem) rfl
  rw [readNode_of_isCall u o p eigen (by simp [hcall.isCall]), if_neg hword]

theorem yields_mixin {k : MixinKind} {target : String} (h : Stmt.Mirrors (.command (.mixin k target)) n) :
    u.Yields o false (p, n) [.member { name := target, body := .mixin k target }] := by
  obtain ⟨ns, hcall, -⟩ := h.2.isCallOf
  have hother : n.isSig = false ∧ n.isAttributeCall = false ∧ n.isVisibilityCall = false := by
    cases k <;> simp [Node.isSig, Node.isAttributeCall, Node.isVisibilityCall, Node.attributeCalls,
      Node.visibilityCalls, hcall.callName?, BareCall.name]
  refine ⟨[ofMixin k target], ?_, by simp [ofMixin, uncommentedAll, uncommented]⟩
  rw [readNode_command o false h, call]
  simp only [hother, h.mixin?, Bool.false_and, Bool.or_self, Bool.false_eq_true, ↓reduceIte]
  rfl

theorem yields_constant {name value : String} (hp : u.At p n)
    (h : Stmt.Mirrors (.constant name (.fragment value)) n) :
    u.Yields o eigen (p, n) [.member { name, body := .constant (.text value) eigen }] := by
  obtain ⟨hkind, -, ⟨l, hl, hconstant, rfl⟩, r, hr, hvalue⟩ := h
  obtain ⟨comments, hcomments⟩ := hp.commentsBefore
  have htext : r.text = value := hvalue.1
  refine ⟨[.member { name := l.text, comments, body := .constant (.text r.text) eigen }], ?_, ?_⟩
  · have hread : u.readNode o n p eigen = .ofExcept (u.assignment o n p eigen) := by
      rw [readNode]
      simp [Node.isSequence, Node.sequenceKinds, Node.isComment, Node.isDefinition, Node.definitionKinds, hkind]
    rw [hread, assignment, hl, hr]
    simp only [hconstant, beq_self_eq_true, ↓reduceIte, hcomments]
    rfl
  · rw [htext]
    rfl

theorem scope_of_opening {s : Scope} {ns : List Node} (h : s.opening.Mirrors n ns) :
    n.isScope ∧ n.HoldsBody ns := by
  unfold Scope.opening at h
  rw [Node.isScope_iff]
  cases hk : s.kind <;> rw [hk] at h
  case ofModule => exact ⟨.inr h.1, h.2.2⟩
  all_goals exact ⟨.inl h.1, h.2.2.2⟩

structure SigPair (u : Source) (q : NodePath) (m : Method) (c d : Nat × Node) : Prop where
  adjacent : u.Adjacent q c.1 d.1
  sig : u.At (q.child c.1) c.2
  target : u.At (q.child d.1) d.2
  isDeclared : m.isDeclared
  mirrors : m.sigStmt.Mirrors c.2

variable {m : Method} {c d : Nat × Node}

theorem SigPair.yields_sig (h : u.SigPair q m c d) (hd : d.2.isSigTarget) :
    u.Yields o eigen (q.child c.1, c.2) [] := by
  have hafter : u.definitionAfter? (q.child c.1) = .ok (some (q.child d.1)) := by
    apply definitionAfter?_eq_some_iff.mpr
    exact ⟨(next?_eq_some_iff h.adjacent.first).mpr ⟨d.1, rfl, h.adjacent⟩, d.2, h.target.node, hd⟩
  refine ⟨[], ?_, rfl⟩
  rw [readNode_of_isSig u o _ eigen (isSig_of_mirrors h.mirrors) hafter]
  rfl

theorem SigPair.definitionAt (h : u.SigPair q m c d) (ho : o.structured = false) (eigen : Bool)
    (hv : ¬ (d.2.isCall && d.2.isVisibilityCall)) :
    ∃ comments, u.definitionAt o (q.child d.1) eigen =
      if d.2.isCall || d.2.kind == "identifier" then
        u.attributes (q.child d.1) d.2 (some (sigOf m)) eigen comments
      else do return [← u.method (q.child d.1) d.2 (some (sigOf m)) eigen comments] := by
  have hbefore : u.sigBefore? (q.child d.1) = .ok (some (q.child c.1)) := by
    apply sigBefore?_eq_some_iff.mpr
    exact ⟨(previous?_eq_some_iff h.adjacent.second).mpr ⟨c.1, rfl, h.adjacent⟩, c.2, h.sig.node,
      isSig_of_mirrors h.mirrors⟩
  obtain ⟨comments, hcomments⟩ := h.sig.commentsBefore
  refine ⟨comments, ?_⟩
  rw [Source.definitionAt, hbefore]
  change u.definition o (q.child d.1) (some (q.child c.1)) eigen = _
  rw [definition_of_target u o eigen h.target.node (if_neg hv), Option.elim_some,
    sigInfo_eq_ok ho h.isDeclared h.sig.node h.mirrors, Option.getD_some, hcomments]
  rfl

theorem SigPair.yields_method (h : u.SigPair q m c d) (ho : o.structured = false) {name : String}
    (hd : Stmt.Mirrors (.definition m.classLevel name (m.parameters.map Parameter.formal)) d.2) :
    u.YieldsAll o false [(q.child c.1, c.2), (q.child d.1, d.2)] [.member { name, body := .method m }] := by
  have hkind : d.2.isDefinition := by
    rw [Node.isDefinition, hd.2.1]
    cases m.classLevel <;> rfl
  obtain ⟨hcall, hidentifier⟩ := Node.not_isCall_of_isDefinition hkind
  have hdefining : d.2.isDefining := by simp [Node.isDefining, hkind]
  obtain ⟨comments, hread⟩ := h.definitionAt ho false (by simp [hcall])
  have hresult : (u.readNode o d.2 (q.child d.1) false).result =
      .ok [.member { name, comments, body := .method m }] := by
    rw [readNode_of_isDefining u o _ false hdefining, hread, if_neg (by simp [hcall, hidentifier]),
      method_eq_ok h.isDeclared hd comments]
    rfl
  exact .cons (h.yields_sig (Node.isSigTarget_of_isDefining hdefining)) (.one ⟨_, hresult, rfl⟩)

theorem SigPair.yields_attribute (h : u.SigPair q m c d) (ho : o.structured = false) {k : AttributeKind}
    {name : String} {t : TypeExpr} (hname : Text.isLabel name) (hresult : m.result = some t)
    (hm : m = k.complete name { result := m.result, classLevel := m.classLevel })
    (hd : Stmt.Mirrors (.command (.accessor k name)) d.2) :
    u.YieldsAll o m.classLevel [(q.child c.1, c.2), (q.child d.1, d.2)]
      [.member { name, body := .attribute k m }] := by
  obtain ⟨ns, hcall, -⟩ := hd.2.isCallOf
  have hattribute : d.2.isAttributeCall := by
    rw [Node.isAttributeCall, hcall.callName?]
    cases k <;> rfl
  have hdefines : (d.2.isAttributeCall && d.2.receiver?.isNone) ||
      (d.2.isVisibilityCall && d.2.wrapped?.isSome) := by
    simp [hattribute, hcall.receiver?]
  have htarget : d.2.isSigTarget := by simp [Node.isSigTarget, hattribute, hcall.receiver?]
  have hvisibility := (Node.attributeKind?_of_isAttributeCall hattribute).2
  obtain ⟨comments, hread⟩ := h.definitionAt ho m.classLevel (by simp [hvisibility])
  have hok : (u.readNode o d.2 (q.child d.1) m.classLevel).result =
      .ok [.member { name, comments, body := .attribute k m }] := by
    rw [readNode_command o m.classLevel hd, u.call_of_isDefining o _ m.classLevel hdefines, hread,
      if_pos (by simp [hcall.isCall]), attributes_eq_ok hname hresult hm hd comments]
    rfl
  exact .cons (h.yields_sig htarget) (.one ⟨_, hok, rfl⟩)

end Statements

def ReadAs (u : Source) (o : ReadOptions) (eigen : Bool) (ss : List Stmt) (ds : List Decl) : Prop :=
  ∀ (q : NodePath) (before l after : List (Nat × Node)), u.IsRun q (before ++ (l ++ after)) →
    List.Forall₂ Stmt.Mirrors ss (l.map (·.2)) → u.YieldsAll o eigen (places q l) ds

namespace ReadAs

variable {ss ss' : List Stmt} {ds ds' : List Decl}

theorem nil : u.ReadAs o eigen [] [] := by
  intro q before l after hrun hl
  rw [List.forall₂_nil_left_iff, List.map_eq_nil_iff] at hl
  subst hl
  exact .nil

theorem append (h : u.ReadAs o eigen ss ds) (h' : u.ReadAs o eigen ss' ds') :
    u.ReadAs o eigen (ss ++ ss') (ds ++ ds') := by
  intro q before l after hrun hl
  obtain ⟨ms, ns, hsplit, hms, hns⟩ := forall₂_append_left hl
  obtain ⟨l₁, l₂, rfl, rfl, rfl⟩ := List.map_eq_append_iff.mp hsplit
  have hfirst : u.IsRun q (before ++ (l₁ ++ (l₂ ++ after))) := by simpa using hrun
  have hsecond : u.IsRun q (before ++ l₁ ++ (l₂ ++ after)) := by simpa using hrun
  rw [places_append]
  exact (h _ _ _ _ hfirst hms).append (h' _ _ _ _ hsecond hns)

theorem of_run (h : u.ReadAs o eigen ss ds) {l : List (Nat × Node)} (hrun : u.IsRun q l)
    (hl : List.Forall₂ Stmt.Mirrors ss (l.map (·.2))) : u.YieldsAll o eigen (places q l) ds := by
  have hwhole : u.IsRun q ([] ++ (l ++ [])) := by simpa using hrun
  exact h _ _ _ _ hwhole hl

theorem one {s : Stmt} (h : ∀ p n, u.At p n → s.Mirrors n → u.Yields o eigen (p, n) ds) :
    u.ReadAs o eigen [s] ds := by
  intro q before l after hrun hl
  obtain ⟨n, _, hn, hnil, hmap⟩ := List.forall₂_cons_left_iff.mp hl
  cases List.forall₂_nil_left_iff.mp hnil
  obtain ⟨⟨i, c⟩, rfl, rfl⟩ := List.map_eq_singleton_iff.mp hmap
  exact .one (h _ _ hrun.at hn)

theorem pair {m : Method} {s : Stmt} (hm : m.isDeclared)
    (h : ∀ q c d, u.SigPair q m c d → s.Mirrors d.2 →
      u.YieldsAll o eigen [(q.child c.1, c.2), (q.child d.1, d.2)] ds) :
    u.ReadAs o eigen [m.sigStmt, s] ds := by
  intro q before l after hrun hl
  obtain ⟨_, _, hsig, hrest, hmap⟩ := List.forall₂_cons_left_iff.mp hl
  obtain ⟨c, l, rfl, rfl, rfl⟩ := List.map_eq_cons_iff.mp hmap
  obtain ⟨_, _, hs, hnil, hmap⟩ := List.forall₂_cons_left_iff.mp hrest
  cases List.forall₂_nil_left_iff.mp hnil
  obtain ⟨d, rfl, rfl⟩ := List.map_eq_singleton_iff.mp hmap
  have hsecond : u.IsRun q (before ++ [c] ++ d :: after) := by simpa using hrun
  exact h _ _ _ ⟨hrun.adjacent, hrun.at, hsecond.at, hm, hsig⟩ hs

theorem singleton (h : u.ReadAs o true ss ds) : u.ReadAs o false [.block .singleton ss] ds := by
  refine one fun p n hp hn => ?_
  obtain ⟨-, ns, ⟨hkind, ⟨v, hv, hself⟩, hbody⟩, hns⟩ := hn
  have hown : n.isOwnSingleton := by
    rw [Node.isOwnSingleton_iff]
    exact ⟨hkind, by simp [hv, hself]⟩
  obtain ⟨q, l, hfilter, hrun, rfl⟩ := hbody.statements_filter hp
  have hyields : u.YieldsAll o true (places q l) ds := h.of_run hrun (Stmt.mirrorsAll_iff.mp hns)
  rw [← hfilter] at hyields
  rw [Yields, readNode_of_isOwnSingleton u o p false hown]
  exact hyields.of_filter.collect

theorem inSingleton {classLevel : Bool} (h : u.ReadAs o classLevel ss ds) :
    u.ReadAs o false (RubyStubs.inSingleton classLevel ss) ds := by
  cases classLevel with
  | false => exact h
  | true => exact h.singleton

end ReadAs

theorem readAs_member (ho : o.structured = false) {top : Bool} {m : Member} (hm : m.isDeclared top) :
    u.ReadAs o false m.stmts [.member { m with comments := [] }] := by
  obtain ⟨name, body, comments⟩ := m
  match body with
  | .method b => exact .pair hm fun _ _ _ h hd => h.yields_method ho hd
  | .attribute k b =>
    simp only [Member.isDeclared, Bool.and_eq_true, beq_iff_eq, Option.isSome_iff_exists] at hm
    obtain ⟨⟨⟨hname, hb⟩, t, ht⟩, hcomplete⟩ := hm
    exact .inSingleton (.pair hb fun _ _ _ h hd => h.yields_attribute ho hname ht hcomplete hd)
  | .constant (.text value) classLevel => exact .inSingleton (.one fun _ _ hp hn => yields_constant hp hn)
  | .mixin k target =>
    simp only [Member.isDeclared, Bool.and_eq_true, beq_iff_eq] at hm
    obtain ⟨-, rfl⟩ := hm
    exact .one fun _ _ _ hn => yields_mixin hn

theorem readAs_scope (ho : o.structured = false) {s : Scope} (hs : s.isDeclared o) {ss : List Stmt}
    {ds : List Decl} (hdecls : ∀ st ∈ ss, st.isDeclaring) (h : u.ReadAs o false ss ds) :
    u.ReadAs o false [.block s.opening ((Scope.sections s.kind).flatten ++ (s.mixinStmts ++ ss))]
      [.scope { s with comments := [] } ds] := by
  refine .one fun p n hp hn => ?_
  obtain ⟨-, ns, hopening, hns⟩ := hn
  obtain ⟨hscope, hholds⟩ := scope_of_opening hopening
  obtain ⟨q, l, hfilter, hrun, rfl⟩ := hholds.statements_filter hp
  have hl := Stmt.mirrorsAll_iff.mp hns
  have hheader : u.scopeHeader o n p (n.statements p) =
      .ok ([], { name := s.name, kind := s.kind, extended := s.extended, included := s.included }) := by
    rw [scopeHeader_filter fun _ hs hc => hholds.comment_startsWith hs hc, hfilter]
    exact scopeHeader_eq_ok hdecls (shows_places hl) ho hs hopening
  obtain ⟨before, rest, rfl, hrest, hleft⟩ := filter_isLeft_of_shows hdecls (q := q) hl
  -- Comments are left to be read but declare nothing, so the filters may be exchanged.
  have hinner : u.YieldsAll o false (innerStatements s.kind (n.statements p)) ds := by
    refine .of_filter ?_
    rw [innerStatements_eq_filter, List.filter_comm, hfilter, hleft]
    have hend : u.IsRun q (before ++ (rest ++ [])) := by simpa using hrun
    exact h _ _ _ _ hend hrest
  obtain ⟨children, hchildren, rfl⟩ := hinner.collect
  obtain ⟨comments, hcomments⟩ := hp.commentsBefore
  have hscopeEq : { s with comments } =
      { name := s.name, comments, kind := s.kind, extended := s.extended, included := s.included : Scope } := by
    simp only [Scope.isDeclared, Bool.and_eq_true, List.isEmpty_iff] at hs
    rw [← hs.2]
  refine ⟨[.scope { s with comments } children], ?_, rfl⟩
  rw [readNode_of_isScope u o p false hscope, hheader, Journal.bind_ok rfl, Journal.bind_ok hchildren, hcomments,
    Journal.bind_ok rfl, hscopeEq]
  rfl

-- What stands around the statements is general, so a list is read by its head and its tail.
mutual

theorem readAs_stmts (ho : o.structured = false) (d : Decl) {top : Bool} (hd : d.isDeclared o top) :
    u.ReadAs o false d.stmts [d.uncommented] := by
  match d with
  | .member m => exact readAs_member ho hd
  | .scope s ds =>
    rw [isDeclared, Bool.and_eq_true] at hd
    exact readAs_scope ho hd.1 (fun _ => isDeclaring_of_areDeclared hd.2) (readAs_stmtsAll ho ds hd.2)

theorem readAs_stmtsAll (ho : o.structured = false) (ds : List Decl) {top : Bool} (hds : areDeclared o top ds) :
    u.ReadAs o false (stmtsAll ds) (uncommentedAll ds) := by
  match ds with
  | [] => exact .nil
  | d :: ds =>
    rw [areDeclared, Bool.and_eq_true] at hds
    exact .append (readAs_stmts ho d hds.1) (readAs_stmtsAll ho ds hds.2)

end

theorem program_of_mirrors (ho : o.structured = false) {top : Bool} {ds : List Decl} (hds : areDeclared o top ds)
    (h : Stmt.MirrorsProgram (stmtsAll ds) u.root) :
    ∃ ds', (u.program o).result = .ok (.scope {} ds') ∧ uncommentedAll ds' = uncommentedAll ds := by
  obtain ⟨hkind, hbroken, hfield, ns, ⟨hseq, -, rfl⟩, hns⟩ := h
  have hns := Stmt.mirrorsAll_iff.mp hns
  have hchildren : ∀ c ∈ u.root.children, c.isSequence = false := by
    intro c hc
    cases hcomment : c.isComment with
    | true => exact Node.isComment_not_isSequence hcomment
    | false =>
      have hmem : c ∈ u.root.children.filter (!·.isComment) := List.mem_filter.mpr ⟨hc, by simp [hcomment]⟩
      obtain ⟨s, -, hs⟩ := exists_of_forall₂ hns hmem
      exact hs.not_isSequence
  have hyields : u.YieldsAll o false (places .root u.root.run) (uncommentedAll ds) := by
    refine (readAs_stmtsAll ho ds hds).of_run (.inr ⟨u.root, .root, rfl⟩) ?_
    rw [Node.map_run]
    exact hns
  have hstatements : u.YieldsAll o false (u.root.statements .root) (uncommentedAll ds) := by
    refine .of_filter ?_
    rw [Node.statements_of_no_field hfield hchildren, places, List.filter_map]
    exact hyields
  obtain ⟨ds', hds', huncommented⟩ := hstatements.collect
  refine ⟨ds', ?_, huncommented⟩
  have hread : (u.read o .root false).result = .ok ds' := by
    rw [read, At.root.node, Journal.bind_ok rfl, readNode_of_isSequence u o .root false hseq]
    exact hds'
  rw [program, hbroken, if_neg Bool.false_ne_true, Journal.bind_ok hread]
  rfl

end Source

namespace Rbi

open Source Decl

/-- An interface file in any style has the statements of its program, there are syntax trees that mirror them, and
each of these is read as the program, comments aside. -/
theorem write_reads_back (st : Style) (hst : st.sorted = false) (strictness : String) (o : ReadOptions)
    (ho : o.structured = false) (s : Scope) (ds : List Decl) (h : isInterface o (.scope s ds)) :
    ∃ text, write st strictness (.scope s ds) = .ok text ∧ WrittenAs (stmtsAll ds) text ∧
      (∃ root, Stmt.MirrorsProgram (stmtsAll ds) root) ∧
      ∀ (read : Reader) (file : String), Stmt.MirrorsProgram (stmtsAll ds) (read text) →
        ∃ d, (program { root := read text, file } o).result = .ok d ∧
          d.uncommented = uncommented (.scope s ds) := by
  obtain ⟨text, hwrite, hwritten⟩ := write_eq_ok hst strictness h
  refine ⟨text, hwrite, hwritten, ⟨_, Stmt.mirrorsProgram_programTree text [] _⟩, fun read file hmirrors => ?_⟩
  simp only [isInterface, Bool.and_eq_true, beq_iff_eq] at h
  obtain ⟨hs, hds⟩ := h
  obtain ⟨ds', hresult, huncommented⟩ := program_of_mirrors (u := { root := read text, file }) ho hds hmirrors
  refine ⟨_, hresult, ?_⟩
  rw [uncommented, uncommented, huncommented, hs]

def shapes : List Decl :=
  [.member { name := "Kernel", body := .mixin .extended "Kernel" },
    .scope { name := "Shapes", kind := .ofModule true, included := ["Comparable"] }
      [.scope { name := "Shape", kind := .ofClass { superclass := some "Base", isAbstract := true } }
          [.member
              { name := "area"
                body := .method
                  { parameters :=
                      [{ name := "scale", type := some (.raw "Integer"), default := some "ONE" },
                        { name := "*rest", type := some (.raw "T::Boolean") },
                        { name := "unit:", type := some (.raw "Unit"), default := some "METRE" }]
                    result := some (.raw "Integer")
                    isAbstract := true
                    isFinal := true
                    typeParameters := ["U"] } },
            .member
              { name := "count"
                body := .attribute .writer
                  { parameters := [{ name := "count", type := some (.raw "Integer") }]
                    result := some (.raw "Integer")
                    classLevel := true } },
            .member { name := "LIMIT", body := .constant (.text "MAX") true }],
        .scope { name := "Mode", kind := .enumOf {} [("Open", none), ("Shut", some "SHUT")] } [],
        .scope
          { name := "Point"
            kind := .structOf {}
              [{ name := "x", type := .raw "Integer", immutable := true, default := some "ZERO" }] }
          []]]

theorem write_reads_back_shapes :
    isInterface {} (.scope {} shapes) ∧
      ∃ text d, write { breakParams := 2 } "strong" (.scope {} shapes) = .ok text ∧
        (program
          { root := Stmt.programTree text [" typed: strong"] (stmtsAll shapes), file := "shapes.rbi" } {}).result =
            .ok d ∧
        d.uncommented = uncommented (.scope {} shapes) := by
  have hinterface : isInterface {} (.scope {} shapes) := by decide +kernel
  obtain ⟨text, hwrite, -, -, hread⟩ :=
    write_reads_back { breakParams := 2 } rfl "strong" {} rfl {} shapes hinterface
  obtain ⟨d, hd, huncommented⟩ := hread (Stmt.programTree · [" typed: strong"] (stmtsAll shapes)) "shapes.rbi"
    (Stmt.mirrorsProgram_programTree text _ _)
  exact ⟨hinterface, text, d, hwrite, hd, huncommented⟩

end Rbi
end RubyStubs
