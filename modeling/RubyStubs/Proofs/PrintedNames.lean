import RubyStubs.Proofs.ParameterMatching
import RubyStubs.Proofs.Printing

namespace RubyStubs

structure Text.IsParameterName (name : String) : Prop where
  bare : IsBare name
  label : isLabel name

namespace Source

variable {u : Source} {o : ReadOptions} {p : NodePath}

section Definition

variable {d : Node}

theorem formal_of_defParameter {c : Node} {x : DefParameter} (h : u.defParameter p c = .ok x) :
    ∃ f, c.formal? = some f ∧ x = defOf f := by
  cases hf : c.formal? with
  | some f =>
    rw [defParameter_of_formal? hf] at h
    exact ⟨f, rfl, (Except.ok.inj h).symm⟩
  | none =>
    rw [Node.formal?] at hf
    cases hkind : Node.parameterKind? c.kind with
    | none =>
      have hmarks : Node.parameterMarks? c.kind = none := by
        unfold Node.parameterKind? at hkind
        split at hkind <;> simp_all [Node.parameterMarks?]
      rw [defParameter, hmarks] at h
      exact absurd h (fail_ne_ok _ p x)
    | some kind =>
      simp only [hkind, Option.bind_some, Option.map_eq_none_iff] at hf
      rw [defParameter, hf] at h
      cases hmarks : Node.parameterMarks? c.kind with
      | none =>
        rw [hmarks] at h
        exact absurd h (fail_ne_ok _ p x)
      | some marks =>
        rw [hmarks] at h
        exact absurd h (fail_ne_ok _ p x)

theorem formals_of_defParameters {defs : List DefParameter} (h : u.defParameters p d = .ok defs) :
    ∃ fs, List.Forall₂ (fun c f => c.formal? = some f) d.parameterNodes fs ∧ defs = fs.map defOf := by
  have hdefs : u.defParameters p d = d.parameterNodes.mapM (u.defParameter p) := by
    cases hl : d.child? "parameters" <;> simp [defParameters, Node.parameterNodes, hl, pure, Except.pure]
  rw [hdefs, mapM_eq_ok_iff] at h
  generalize d.parameterNodes = cs at h
  induction h with
  | nil => exact ⟨[], .nil, rfl⟩
  | cons hx _ ih =>
    obtain ⟨f, hf, rfl⟩ := formal_of_defParameter hx
    obtain ⟨fs, hfs, rfl⟩ := ih
    exact ⟨f :: fs, .cons hf hfs, rfl⟩

theorem formals_of_method {sig : Option SigInfo} {eigen : Bool} {comments : List String} {x : Decl}
    (h : u.method p d sig eigen comments = .ok x) :
    ∃ name m fs, x = .member { name, comments, body := .method m } ∧
      List.Forall₂ (fun c f => c.formal? = some f) d.parameterNodes fs ∧
      List.Forall₂ (fun f q => ∃ t, q = Formal.typed f t) fs m.parameters := by
  cases sig with
  | some sig =>
    obtain ⟨classLevel, name, defs, parameters, -, -, hdefs, htyped, rfl⟩ := method_eq_ok_iff.mp h
    obtain ⟨fs, hfs, rfl⟩ := formals_of_defParameters hdefs
    obtain ⟨-, hfound⟩ := (typedParameters_eq_ok_iff rfl).mp htyped
    exact ⟨name.text, sig.method parameters classLevel, fs, rfl, hfs, hfound.imp fun f q ⟨e, _, hq⟩ => ⟨e.2, hq⟩⟩
  | none =>
    obtain ⟨classLevel, -, h⟩ := bind_eq_ok_iff.mp h
    cases hname : d.child? "name" with
    | none =>
      rw [hname] at h
      cases h
    | some name =>
      rw [hname] at h
      obtain ⟨defs, hdefs, h⟩ := bind_eq_ok_iff.mp h
      obtain ⟨fs, hfs, rfl⟩ := formals_of_defParameters hdefs
      cases h
      refine ⟨name.text, _, fs, rfl, hfs, ?_⟩
      rw [List.map_map, List.forall₂_map_right_iff, List.forall₂_same]
      exact fun f _ => ⟨.untyped, rfl⟩

theorem read_of_isDefining {n : Node} (hn : u.node p = .ok n) (hdef : n.isDefining) (eigen : Bool) :
    (u.read o p eigen).result = u.definitionAt o p eigen := by
  rw [Source.read, hn]
  exact congrArg Journal.result (readNode_of_isDefining u o p eigen hdef)

theorem formals_of_read {n : Node} {eigen : Bool} {ds : List Decl} (hn : u.node p = .ok n) (hdef : n.isDefining)
    (htarget : n.target? = some d) (hd : d.isDefinition) (h : (u.read o p eigen).result = .ok ds) :
    ∃ name comments m fs, ds = [.member { name, comments, body := .method m }] ∧
      List.Forall₂ (fun c f => c.formal? = some f) d.parameterNodes fs ∧
      List.Forall₂ (fun f q => ∃ t, q = Formal.typed f t) fs m.parameters := by
  rw [read_of_isDefining hn hdef] at h
  obtain ⟨s, -, h⟩ := bind_eq_ok_iff.mp h
  rw [definition_of_target u o eigen hn htarget, Node.not_call_of_isDefinition hd] at h
  obtain ⟨sig, -, h⟩ := bind_eq_ok_iff.mp h
  obtain ⟨comments, -, h⟩ := bind_eq_ok_iff.mp h
  obtain ⟨x, hx, h⟩ := bind_eq_ok_iff.mp h
  cases h
  obtain ⟨name, m, fs, rfl, hfs, hparameters⟩ := formals_of_method hx
  exact ⟨name, comments, m, fs, rfl, hfs, hparameters⟩

theorem bareNames_of_typed {fs : List Formal} {ps : List Parameter} (hfs : ∀ f ∈ fs, Text.IsBare f.name)
    (h : List.Forall₂ (fun f q => ∃ t, q = Formal.typed f t) fs ps) :
    ps.map Parameter.bareName = fs.map (·.name) := by
  induction h with
  | nil => rfl
  | cons hq _ ih =>
    obtain ⟨t, rfl⟩ := hq
    rw [List.forall_mem_cons] at hfs
    rw [List.map_cons, List.map_cons, Formal.bareName_typed hfs.1, ih hfs.2]

end Definition

section Sig

theorem fail_bind {α β : Type} (what : Problem) (p : NodePath) (f : α → Except SourceError β) :
    u.fail what p >>= f = u.fail what p := by
  rw [fail, fail]
  cases u.node p <;> rfl

theorem sigPairs_ok_or_repeated {as : List Node} (has : ∀ a ∈ as, a.pair?.isSome) (seen : List (String × TypeExpr)) :
    (∃ ts, u.sigPairs o p seen as = .ok ts) ∨
      ∃ name, u.sigPairs o p seen as = u.fail (.repeatedParameter name) p ∧
        [name, name].Sublist (seen.map (·.1) ++ (as.filterMap Node.pair?).map (·.1)) := by
  induction as generalizing seen with
  | nil => exact .inl ⟨seen, rfl⟩
  | cons a as ih =>
    rw [List.forall_mem_cons] at has
    obtain ⟨⟨name, value⟩, ha⟩ := Option.isSome_iff_exists.mp has.1
    rw [sigPairs, ha, List.filterMap_cons_some ha, List.map_cons]
    by_cases hold : seen.any (·.1 == name)
    · have hmem : name ∈ seen.map (·.1) := by simpa using hold
      refine .inr ⟨name, if_pos hold, ?_⟩
      exact (List.singleton_sublist.mpr hmem).append (List.singleton_sublist.mpr List.mem_cons_self)
    · have hrest := ih has.2 (seen ++ [(name, o.type value)])
      rw [List.map_append, List.append_assoc] at hrest
      simp only [hold, Bool.false_eq_true, ↓reduceIte]
      exact hrest

theorem sigParameters_ok_or_repeated {args : List Node} (hargs : args ≠ [])
    (hpairs : ∀ a ∈ Node.paramEntries args, a.pair?.isSome) :
    (∃ ts, u.sigParameters o p args = .ok ts) ∨
      ∃ name, u.sigParameters o p args = u.fail (.repeatedParameter name) p ∧
        [name, name].Sublist (((Node.paramEntries args).filterMap Node.pair?).map (·.1)) := by
  have hread : u.sigParameters o p args = u.sigPairs o p [] (Node.paramEntries args) :=
    if_neg (by simpa using hargs)
  rw [hread]
  exact sigPairs_ok_or_repeated hpairs []

theorem sigLinks_ok_or_repeated {links : List Node.Link}
    (hresults : ∀ l ∈ links, l.name = some "returns" → l.arguments.length = 1)
    (hgiven : ∀ l ∈ links, l.isParams → l.arguments ≠ [])
    (hpairs : ∀ l ∈ links, l.isParams → ∀ a ∈ Node.paramEntries l.arguments, a.pair?.isSome) (info : SigInfo) :
    (∃ info', u.sigLinks o p info links = .ok info') ∨
      ∃ name, u.sigLinks o p info links = u.fail (.repeatedParameter name) p ∧
        [name, name].Sublist ((Node.sigEntries links).map (·.1)) := by
  induction links generalizing info with
  | nil => exact .inl ⟨info, rfl⟩
  | cons l links ih =>
    rw [List.forall_mem_cons] at hresults hgiven hpairs
    have hstep : (∃ next, u.sigLink o p info l = .ok next) ∨
        ∃ name, u.sigLink o p info l = u.fail (.repeatedParameter name) p ∧
          [name, name].Sublist ((Node.sigEntries [l]).map (·.1)) := by
      by_cases hl : l.isParams
      · rw [sigLink_params hl]
        rcases sigParameters_ok_or_repeated (u := u) (o := o) (p := p) (hgiven.1 hl) (hpairs.1 hl) with
          ⟨ts, hts⟩ | ⟨name, hname, htwice⟩
        · rw [hts]
          exact .inl ⟨_, rfl⟩
        · rw [hname]
          exact .inr ⟨name, fail_bind _ p _, by simpa [Node.sigEntries, hl] using htwice⟩
      · obtain ⟨next, hnext, -⟩ := sigLink_of_not_isParams (u := u) (o := o) (p := p) hl hresults.1 info
        exact .inl ⟨next, hnext⟩
    have hentries : Node.sigEntries (l :: links) = Node.sigEntries [l] ++ Node.sigEntries links := by
      simp only [Node.sigEntries, ← List.flatMap_append, ← List.filter_append, List.singleton_append]
    rw [sigLinks, hentries, List.map_append]
    rcases hstep with ⟨next, hnext⟩ | ⟨name, hname, htwice⟩
    · rw [hnext]
      refine (ih hresults.2 hgiven.2 hpairs.2 next).imp_right ?_
      rintro ⟨name, hname, htwice⟩
      exact ⟨name, hname, htwice.trans (List.sublist_append_right _ _)⟩
    · rw [hname]
      exact .inr ⟨name, fail_bind _ p _, htwice.trans (List.sublist_append_left _ _)⟩

section Printed

variable {m : Method}

theorem name_of_mem_qualifierCalls {c : Expr.Call} (hc : c ∈ m.qualifierCalls) : c.1 ≠ "params" ∧ c.1 ≠ "returns" := by
  simp only [Method.qualifierCalls, List.mem_append] at hc
  rcases hc with (((hc | hc) | hc) | hc) | hc <;> split_ifs at hc <;> simp_all

theorem resultCall_link {l : Node.Link} (h : Expr.MirrorsLink m.resultCall l) :
    ¬ l.isParams ∧ (l.name = some "returns" → l.arguments.length = 1) := by
  obtain ⟨hname, hargs⟩ := h
  unfold Method.resultCall at hname hargs
  cases hresult : m.result with
  | none =>
    rw [hresult] at hname
    simp [Node.Link.isParams, hname]
  | some t =>
    rw [hresult] at hname hargs
    refine ⟨by simp [Node.Link.isParams, hname], fun _ => ?_⟩
    exact hargs.length_eq.symm

theorem entries_of_mirrors {ps : List Parameter} {args : List Node} (hps : ∀ q ∈ ps, Text.isLabel q.bareName)
    (h : List.Forall₂ Expr.Mirrors (ps.map Parameter.pair) args) :
    Node.paramEntries args = args ∧ (∀ a ∈ args, a.pair?.isSome) ∧
      (args.filterMap Node.pair?).map (·.1) = ps.map Parameter.bareName := by
  rw [List.forall₂_map_left_iff] at h
  refine ⟨?_, ?_⟩
  · rcases h with _ | ⟨hfirst, _ | _⟩
    · rfl
    · simp [Node.paramEntries, hfirst.1]
    · rfl
  · induction h with
    | nil => exact ⟨nofun, rfl⟩
    | cons ha _ ih =>
      rw [List.forall_mem_cons] at hps
      obtain ⟨v, hv, -⟩ := ha.pair? hps.1
      obtain ⟨has, hnames⟩ := ih hps.2
      refine ⟨List.forall_mem_cons.mpr ⟨by rw [hv]; rfl, has⟩, ?_⟩
      rw [List.filterMap_cons_some hv, List.map_cons, List.map_cons, hnames]

theorem paramsCall_links {ls : List Node.Link} (hlabels : ∀ q ∈ m.parameters, Text.isLabel q.bareName)
    (h : List.Forall₂ Expr.MirrorsLink m.paramsCall ls) :
    ls.length ≤ 1 ∧
      (∀ l ∈ ls, l.isParams ∧ l.arguments ≠ [] ∧ ∀ a ∈ Node.paramEntries l.arguments, a.pair?.isSome) ∧
      (ls.flatMap fun l => (Node.paramEntries l.arguments).filterMap Node.pair?).map (·.1) =
        m.parameters.map Parameter.bareName := by
  unfold Method.paramsCall at h
  split_ifs at h with hempty
  · cases List.forall₂_nil_left_iff.mp h
    rw [List.isEmpty_iff.mp hempty]
    exact ⟨by simp, nofun, rfl⟩
  · obtain ⟨⟨_, args⟩, _, ⟨rfl, hargs⟩, hnil, rfl⟩ := List.forall₂_cons_left_iff.mp h
    cases List.forall₂_nil_left_iff.mp hnil
    obtain ⟨hentries, hpairs, hnames⟩ := entries_of_mirrors hlabels hargs
    have hne : args ≠ [] := by
      rintro rfl
      have hlength := hargs.length_eq
      simp_all
    refine ⟨le_rfl, List.forall_mem_singleton.mpr ⟨rfl, hne, hentries.symm ▸ hpairs⟩, ?_⟩
    rw [List.flatMap_singleton, hentries, hnames]

theorem printed_links {ls : List Node.Link} (hlabels : ∀ q ∈ m.parameters, Text.isLabel q.bareName)
    (h : List.Forall₂ Expr.MirrorsLink (m.qualifierCalls ++ m.paramsCall ++ [m.resultCall]) ls) :
    Node.OrderlySig ls ∧ (∀ l ∈ ls, l.isParams → l.arguments ≠ []) ∧
      (Node.sigEntries ls).map (·.1) = m.parameters.map Parameter.bareName := by
  obtain ⟨ls, rs, rfl, h, hr⟩ := forall₂_append_left h
  obtain ⟨ks, ps, rfl, hk, hp⟩ := forall₂_append_left h
  obtain ⟨honce, hps, hnames⟩ := paramsCall_links hlabels hp
  have hks : ∀ l ∈ ks, ¬ l.isParams ∧ l.name ≠ some "returns" := by
    intro l hl
    obtain ⟨c, hc, hname, -⟩ := exists_of_forall₂ hk hl
    simpa [Node.Link.isParams, hname] using name_of_mem_qualifierCalls hc
  have hrs : ∀ l ∈ rs, ¬ l.isParams ∧ (l.name = some "returns" → l.arguments.length = 1) := by
    intro l hl
    obtain ⟨c, hc, hlink⟩ := exists_of_forall₂ hr hl
    exact resultCall_link (List.mem_singleton.mp hc ▸ hlink)
  -- All parameters are in one call, since no qualifier and no result is taken for a call that has some.
  have hfilter : (ks ++ ps ++ rs).filter Node.Link.isParams = ps := by
    rw [List.filter_append, List.filter_append, List.filter_eq_nil_iff.mpr fun l hl => (hks l hl).1,
      List.filter_eq_nil_iff.mpr fun l hl => (hrs l hl).1, List.filter_eq_self.mpr fun l hl => (hps l hl).1,
      List.nil_append, List.append_nil]
  have hparams : ∀ l ∈ ks ++ ps ++ rs, l.isParams → l ∈ ps := by
    intro l hl hparams
    rw [← hfilter]
    exact List.mem_filter.mpr ⟨hl, hparams⟩
  refine ⟨⟨?_, ?_, ?_⟩, ?_, ?_⟩
  · rw [hfilter]
    exact honce
  · intro l hl hreturns
    rcases List.mem_append.mp hl with hl | hl
    · rcases List.mem_append.mp hl with hl | hl
      · exact absurd hreturns (hks l hl).2
      · have hname : l.name = some "params" := eq_of_beq (hps l hl).1
        rw [hname] at hreturns
        exact absurd (Option.some.inj hreturns) (by decide)
    · exact (hrs l hl).2 hreturns
  · intro l hl hl'
    exact (hps l (hparams l hl hl')).2.2
  · intro l hl hl'
    exact (hps l (hparams l hl hl')).2.1
  · rw [Node.sigEntries, hfilter, hnames]

theorem sigInfo_of_printed {g : Node} (hlabels : ∀ q ∈ m.parameters, Text.isLabel q.bareName)
    (hg : u.node p = .ok g) (h : m.sigStmt.Mirrors g) :
    ((∃ info, u.sigInfo o p = .ok info) ↔ (m.parameters.map Parameter.bareName).Nodup) ∧
      ((∃ info, u.sigInfo o p = .ok info) ∨
        ∃ name, u.sigInfo o p = u.fail (.repeatedParameter name) p ∧
          [name, name].Sublist (m.parameters.map Parameter.bareName)) := by
  obtain ⟨ls, hls, hread⟩ := sigInfo_of_mirrors (o := o) hg h
  obtain ⟨hsig, hgiven, hnames⟩ := printed_links hlabels hls
  have hread' (ts : List (String × TypeExpr)) :
      (∃ info, u.sigLinks o p { isFinal := m.isFinal } ls = .ok info ∧ info.parameters.getD [] = ts) ↔ _ :=
    sigLinks_parameters_iff hsig rfl
  rw [hread]
  refine ⟨?_, hnames ▸ sigLinks_ok_or_repeated hsig.results hgiven hsig.pairs _⟩
  constructor
  · rintro ⟨info, hinfo⟩
    obtain ⟨-, hts, hdistinct⟩ := (hread' _).mp ⟨info, hinfo, rfl⟩
    rwa [hts, o.map_fst_entry, hnames] at hdistinct
  · intro hdistinct
    rw [← hnames, ← o.map_fst_entry] at hdistinct
    obtain ⟨info, hinfo, -⟩ := (hread' _).mpr ⟨hgiven, rfl, hdistinct⟩
    exact ⟨info, hinfo⟩

end Printed

end Sig

/-- The sig that is printed for a method names the parameters of the definition, in their order, whether or not there was
a sig to read. It is read again exactly if these names are distinct, and refused for a name that it has twice otherwise. -/
theorem printed_sig_accepted_iff {n d : Node} {eigen : Bool} {ds : List Decl} (hn : u.node p = .ok n)
    (hdef : n.isDefining) (htarget : n.target? = some d) (hd : d.isDefinition)
    (hnames : ∀ c ∈ d.parameterNodes, ∀ f, c.formal? = some f → Text.IsParameterName f.name)
    (hread : (u.read o p eigen).result = .ok ds) :
    ∃ name comments m fs, ds = [.member { name, comments, body := .method m }] ∧
      List.Forall₂ (fun c f => c.formal? = some f) d.parameterNodes fs ∧
      m.parameters.map Parameter.bareName = fs.map (·.name) ∧
      (∀ st level, Printed [m.sigStmt] (Rbi.sig st level m)) ∧
      ∀ (v : Source) (o' : ReadOptions) (s : NodePath) (g : Node), v.node s = .ok g → m.sigStmt.Mirrors g →
        ((∃ info, v.sigInfo o' s = .ok info) ↔ (fs.map (·.name)).Nodup) ∧
        ((∃ info, v.sigInfo o' s = .ok info) ∨
          ∃ name, v.sigInfo o' s = v.fail (.repeatedParameter name) s ∧
            [name, name].Sublist (fs.map (·.name))) := by
  obtain ⟨name, comments, m, fs, hds, hfs, hparameters⟩ := formals_of_read hn hdef htarget hd hread
  have hproper : ∀ f ∈ fs, Text.IsParameterName f.name := by
    intro f hf
    obtain ⟨c, hc, hformal⟩ := exists_of_forall₂ hfs hf
    exact hnames c hc f hformal
  have hbare := bareNames_of_typed (fun f hf => (hproper f hf).bare) hparameters
  have hlabels : ∀ q ∈ m.parameters, Text.isLabel q.bareName := by
    intro q hq
    have hmem : q.bareName ∈ fs.map (·.name) := hbare ▸ List.mem_map_of_mem hq
    obtain ⟨f, hf, hname⟩ := List.mem_map.mp hmem
    exact hname ▸ (hproper f hf).label
  refine ⟨name, comments, m, fs, hds, hfs, hbare, fun st level => Rbi.printed_sig st level m, ?_⟩
  intro v o' s g hg hmirrors
  rw [← hbare]
  exact sigInfo_of_printed hlabels hg hmirrors

theorem read_unsigned {n d : Node} (hn : u.node p = .ok n) (hdef : n.isDefining) (htarget : n.target? = some d)
    (hd : d.isDefinition) (hs : u.sigBefore? p = .ok none) {comments : List String}
    (hcomments : u.commentsBefore p = .ok comments) (o : ReadOptions) (eigen : Bool) :
    (u.read o p eigen).result = do return [← u.method p d none eigen comments] := by
  have hdefinition : u.definitionAt o p eigen = u.definition o p none eigen := by
    rw [definitionAt, hs]
    rfl
  rw [read_of_isDefining hn hdef, hdefinition, definition_of_target u o eigen hn htarget, Node.not_call_of_isDefinition hd]
  change (do let comments ← u.commentsBefore p; return [← u.method p d none eigen comments]) = _
  rw [hcomments]
  rfl

theorem printed_sig_accepted_iff_untyped :
    let definition := (Stmt.definition false "f" [⟨.normal, "a", none⟩, ⟨.splat, "rest", none⟩]).tree
    let u : Source := { root := .made "program" "" [definition], file := "a.rb" }
    ∃ m, (u.read {} (.child .root 0) false).result = .ok [.member { name := "f", body := .method m }] ∧
      Rbi.sig {} 0 m = ["sig \x7b params(a: T.untyped, rest: T.untyped).returns(T.untyped) \x7d"] ∧
      ∃ info, Source.sigInfo { root := m.sigStmt.tree, file := "a.rbi" } {} .root = .ok info := by
  intro definition u
  let m : Method :=
    { parameters := [{ name := "a", type := some .untyped }, { name := "*rest", type := some .untyped }],
      result := some .untyped }
  have hread : (u.read {} (.child .root 0) false).result = .ok [.member { name := "f", body := .method m }] := by
    rw [read_unsigned (n := definition) (d := definition) rfl rfl rfl rfl rfl (commentsBefore_root_child_zero u)]
    rfl
  have hnames : ∀ c ∈ definition.parameterNodes, ∀ f, c.formal? = some f → Text.IsParameterName f.name := by
    have hnodes : definition.parameterNodes = [Formal.tree ⟨.normal, "a", none⟩, Formal.tree ⟨.splat, "rest", none⟩] :=
      rfl
    have ha : Text.IsParameterName "a" := ⟨⟨by decide, by simp, by decide⟩, by decide⟩
    have hrest : Text.IsParameterName "rest" := ⟨⟨by decide, by simp, by decide⟩, by decide⟩
    intro c hc f hf
    rw [hnodes] at hc
    obtain rfl | rfl : c = _ ∨ c = _ := by simpa using hc
    · cases hf
      exact ha
    · cases hf
      exact hrest
  obtain ⟨_, _, _, fs, hds, -, hbare, -, haccepted⟩ :=
    printed_sig_accepted_iff (n := definition) rfl rfl rfl rfl hnames hread
  cases hds
  obtain ⟨haccepted, -⟩ := haccepted { root := m.sigStmt.tree, file := "a.rbi" } {} .root _ rfl m.sigStmt.mirrors_tree
  refine ⟨m, hread, by decide +kernel, haccepted.mpr ?_⟩
  rw [← hbare]
  decide +kernel

theorem printed_names_repeated :
    let definition := (Stmt.definition false "f" [⟨.normal, "_", none⟩, ⟨.normal, "_", none⟩]).tree
    let u : Source := { root := .made "program" "" [definition], file := "a.rb" }
    let ignored : Parameter := { name := "_", type := some .untyped }
    let m : Method := { parameters := [ignored, ignored], result := some .untyped }
    (u.read {} (.child .root 0) false).result = .ok [.member { name := "f", body := .method m }] ∧
      Rbi.sig {} 0 m = ["sig \x7b params(_: T.untyped, _: T.untyped).returns(T.untyped) \x7d"] ∧
      Source.sigInfo { root := m.sigStmt.tree, file := "a.rbi" } {} .root =
        .error (.problem (.repeatedParameter "_") "a.rbi" 1) := by
  intro definition u ignored m
  refine ⟨?_, by decide +kernel, ?_⟩
  · rw [read_unsigned (n := definition) (d := definition) rfl rfl rfl rfl rfl (commentsBefore_root_child_zero u)]
    rfl
  · obtain ⟨haccepted, hread⟩ := sigInfo_of_printed (u := { root := m.sigStmt.tree, file := "a.rbi" }) (o := {})
      (p := .root) (m := m) (by decide +kernel) rfl m.sigStmt.mirrors_tree
    rcases hread with hread | ⟨name, hread, htwice⟩
    · exact absurd (haccepted.mp hread) (by decide +kernel)
    · have hbare : m.parameters.map Parameter.bareName = ["_", "_"] := by decide +kernel
      have hname : name = "_" := by simpa [hbare] using htwice.subset List.mem_cons_self
      rw [hread, hname]
      rfl

end Source
end RubyStubs
