import RubyStubs.Proofs.Reading
import RubyStubs.Proofs.TypeRoutes

namespace RubyStubs

namespace Convert

structure Agree (read : Reader) (ds ds' : List Decl) : Prop where
  decls : (decls read ds).1 = (decls read ds').1
  warnings : (Convert.decls read ds).2.map (·.1) = (Convert.decls read ds').2.map (·.1)

variable {read : Reader}

theorem Agree.refl (ds : List Decl) : Agree read ds ds := ⟨rfl, rfl⟩

theorem decls_append (ds es : List Decl) :
    decls read (ds ++ es) =
      ((decls read ds).1 ++ (decls read es).1, (decls read ds).2 ++ (decls read es).2) := by
  induction ds with
  | nil => rfl
  | cons d ds ih => simp [decls, ih]

theorem Agree.append {ds ds' es es' : List Decl} (hds : Agree read ds ds') (hes : Agree read es es') :
    Agree read (ds ++ es) (ds' ++ es') := by
  constructor
  · rw [decls_append, decls_append, hds.decls, hes.decls]
  · simp only [decls_append, List.map_append, hds.warnings, hes.warnings]

theorem agree_of_forall₂ {ds ds' : List Decl} (h : List.Forall₂ (fun d d' => Agree read [d] [d']) ds ds') :
    Agree read ds ds' := by
  induction h with
  | nil => exact .refl []
  | cons hd _ ih => exact hd.append ih

theorem agree_member {m m' : Member} (h : member read m = member read m') :
    Agree read [.member m] [.member m'] := by
  constructor <;> simp [decls, decl, h, Function.comp_def]

theorem agree_method {m m' : Method} (h : method read m = method read m') (name : String)
    (comments : List String) :
    Agree read [.member { name, body := .method m, comments }] [.member { name, body := .method m', comments }] := by
  apply agree_member
  simp only [member, h]

structure SameScope (s s' : Scope) : Prop where
  rest : { s with kind := .plain } = { s' with kind := .plain }
  variant : s.kind.variant = s'.kind.variant
  kind : kind s.kind = kind s'.kind

theorem SameScope.refl (s : Scope) : SameScope s s := ⟨rfl, rfl, rfl⟩

theorem SameScope.scope {s s' : Scope} (h : SameScope s s') (k : ScopeKind) : scope s k = scope s' k := by
  have hrest := h.rest
  simp only [Scope.mk.injEq] at hrest
  simp [Convert.scope, hrest]

theorem agree_scope {s s' : Scope} {ds ds' : List Decl} (hs : SameScope s s') (hds : Agree read ds ds') :
    Agree read [.scope s ds] [.scope s' ds'] := by
  have hwarnings := hds.warnings
  constructor
  · simp only [decls, decl, hs.kind]
    rcases kind s'.kind with ⟨_ | k, ws⟩
    · rfl
    · simp only [hs.scope k, hds.decls]
  · simp only [decls, decl, hs.kind]
    rcases kind s'.kind with ⟨_ | k, ws⟩
    · simp [Function.comp_def]
    · simp [Function.comp_def, hwarnings]

theorem agree_within {d d' : Decl} (h : Agree read [d] [d']) (outer : List String) :
    Agree read [d.within outer] [d'.within outer] := by
  induction outer with
  | nil => exact h
  | cons name outer ih => exact agree_scope (.refl _) ih

end Convert

namespace Source

open RubyStubs.Convert

variable {u : Source} {read : Reader} {o o' : ReadOptions} {p : NodePath}

theorem result_of_sig {s s' : SigInfo} (hs : sig read s = sig read s') :
    s.result.map (type read) = s'.result.map (type read) ∧ s.isVoid = s'.isVoid ∧
      s.typeParameters = s'.typeParameters := by
  simp only [sig, SigInfo.mk.injEq] at hs
  simp [hs]

theorem method_outcome {n : Node} {s s' : SigInfo} (hs : sig read s = sig read s') (eigen : Bool)
    (comments : List String) :
    Outcome (fun d d' => Agree read [d] [d']) (u.method p n (some s) eigen comments)
      (u.method p n (some s') eigen comments) := by
  refine Outcome.bind_same _ fun classLevel _ => ?_
  cases n.child? "name" with
  | none => exact .error _
  | some name =>
    refine Outcome.bind_same _ fun defs _ => ?_
    refine (typedParameters_outcome hs).bind fun ps ps' hps => .ok ?_
    obtain ⟨hresult, hvoid, htypes⟩ := result_of_sig hs
    have hresult' : (if s.isVoid then none else s.result).map (type read) =
        (if s'.isVoid then none else s'.result).map (type read) := by
      rw [hvoid]
      split_ifs
      · rfl
      · exact hresult
    apply agree_method
    exact method_congr hps hresult' rfl htypes

theorem attributeType_of_sig {s s' : SigInfo} (hs : sig read s = sig read s') :
    type read (attributeType (some s)) = type read (attributeType (some s')) := by
  have hresult := (result_of_sig hs).1
  have hfirst := congrArg List.head? (declared_of_sig hs)
  have hgetD (x : Option TypeExpr) (t : TypeExpr) :
      type read (x.getD t) = (x.map (type read)).getD (type read t) := by
    cases x <;> rfl
  have hsecond : ((s.parameters.getD []).head?.map (·.2)).map (type read) =
      ((s'.parameters.getD []).head?.map (·.2)).map (type read) := by
    rw [List.head?_map, List.head?_map] at hfirst
    simpa [Option.map_map, Function.comp_def, entry] using congrArg (Option.map Prod.snd) hfirst
  rw [attributeType, attributeType, hgetD, hgetD, hresult, hgetD, hgetD, hsecond]

theorem attributes_outcome {n : Node} {s s' : SigInfo} (hs : sig read s = sig read s') (eigen : Bool)
    (comments : List String) :
    Outcome (Agree read) (u.attributes p n (some s) eigen comments)
      (u.attributes p n (some s') eigen comments) := by
  unfold attributes
  cases n.attributeKind? with
  | none => exact .error _
  | some kind =>
    refine (Outcome.mapM fun a _ => ?_).mono fun _ _ => agree_of_forall₂
    cases a.symbolName? with
    | none => exact fail_outcome _
    | some name =>
      refine .ok (agree_member ?_)
      simp only [member, AttributeKind.complete_classLevel, AttributeKind.complete_result]
      split_ifs
      · rfl
      · simp only [Option.map_some, attributeType_of_sig hs]

theorem definition_outcome {d : NodePath} {sigPath : Option NodePath}
    (h : ∀ s ∈ sigPath, ∀ n, u.node s = .ok n → ∀ t ∈ n.sigTypes, t.Rereads read) (eigen : Bool) :
    Outcome (Agree read) (u.definition o d sigPath eigen) (u.definition o' d sigPath eigen) := by
  refine Outcome.bind_same _ fun n _ => ?_
  cases sigPath with
  | none => exact .refl Agree.refl _
  | some s =>
    have hinfo : Outcome (SameUnder (sig read)) (u.sigInfo o s) (u.sigInfo o' s) :=
      sigInfo_outcome (h s rfl)
    refine (hinfo.map fun _ _ hi => Option.Rel.some hi).bind fun x x' hx => ?_
    refine Outcome.bind_same _ fun comments _ => ?_
    cases hx with
    | none => exact .refl Agree.refl _
    | some hi =>
      cases if n.isCall && n.isVisibilityCall then n.wrapped? else some n with
      | none => exact .error _
      | some n =>
        simp only
        split_ifs
        · exact attributes_outcome hi eigen comments
        · exact (method_outcome hi eigen comments).bind fun _ _ h => .ok h

theorem innerStatements_congr {k k' : ScopeKind} (h : k.variant = k'.variant) (body : List (NodePath × Node)) :
    innerStatements k body = innerStatements k' body := by
  cases k <;> cases k' <;> simp_all [ScopeKind.variant, innerStatements]

theorem stable_agree (read : Reader) : Stable (Agree read) SameScope where
  refl := Agree.refl
  append _ _ _ _ := Agree.append
  inner _ _ hs := innerStatements_congr hs.variant
  scope s s' ds ds' hs hds outer comments := by
    have hs' : SameScope { s with comments } { s' with comments } := by
      refine ⟨?_, hs.variant, hs.kind⟩
      have hrest := hs.rest
      simp only [Scope.mk.injEq] at hrest
      simp [hrest]
    exact agree_within (agree_scope hs' hds) outer

theorem structField_outcome (s : NodePath × Node) :
    Outcome (fun _ _ => True) (u.structField o s) (u.structField o' s) := by
  unfold structField
  simp only
  split
  · split
    · exact fail_outcome _
    · exact .ok trivial
  · exact fail_outcome _

theorem scopeKind_outcome (o : ReadOptions) (structured : Bool) (n : Node) (body : List (NodePath × Node)) :
    Outcome (fun k k' => k.variant = k'.variant ∧ kind k = kind k') (u.scopeKind o n body)
      (u.scopeKind { o with structured } n body) := by
  unfold scopeKind
  simp only
  split_ifs
  · exact .ok ⟨rfl, rfl⟩
  · exact .refl (fun _ => ⟨rfl, rfl⟩) _
  · exact (Outcome.mapM fun s _ => structField_outcome s).bind fun _ _ _ => .ok ⟨rfl, rfl⟩
  · exact .ok ⟨rfl, rfl⟩

theorem scopeHeader_outcome (o : ReadOptions) (structured : Bool) (n : Node) (p : NodePath)
    (body : List (NodePath × Node)) :
    Outcome (fun h h' => h.1 = h'.1 ∧ SameScope h.2 h'.2) (u.scopeHeader o n p body)
      (u.scopeHeader { o with structured } n p body) := by
  unfold scopeHeader
  cases n.child? "name" with
  | none => exact fail_outcome _
  | some name =>
    refine (scopeKind_outcome o structured n body).bind fun k k' hk => ?_
    cases (Text.names name.text).reverse with
    | nil => exact .error _
    | cons own outer => exact .ok ⟨rfl, rfl, hk.1, hk.2⟩

theorem call_other {n : Node} (o o' : ReadOptions) (p : NodePath) (eigen : Bool)
    (h : ¬ ((n.isAttributeCall && n.receiver?.isNone) || (n.isVisibilityCall && n.wrapped?.isSome))) :
    u.call o n p eigen = u.call o' n p eigen := by
  rw [call, call, if_neg h, if_neg h]

theorem readNode_other (o : ReadOptions) (structured : Bool) (n : Node) (p : NodePath) (eigen : Bool)
    (hseq : ¬ n.isSequence) (hscope : ¬ n.isScope) (hself : ¬ n.isOwnSingleton) (hdef : ¬ n.isDefining) :
    u.readNode o n p eigen = u.readNode { o with structured } n p eigen := by
  rcases u.readNode_of_other p eigen hseq hscope hself hdef with h | ⟨what, -, h⟩ | h | ⟨hcall, h⟩
  · rw [h, h]
  · rw [h, h]
    rfl
  · rw [h, h]
    rfl
  · rw [h, h]
    exact call_other _ _ p eigen hcall

def ReadsType (u : Source) (o : ReadOptions) (t : Node) : Prop :=
  ∃ d n eigen s c, u.Reads o d n eigen ∧ n.isDefining ∧ u.sigBefore? d = .ok (some s) ∧ u.node s = .ok c ∧
    t ∈ c.sigTypes

theorem definitionAt_outcome {d : NodePath} {n : Node} {eigen : Bool}
    (h : ∀ t, u.ReadsType o t → t.Rereads read) (hd : u.Reads o d n eigen) (hdef : n.isDefining) :
    Outcome (Agree read) (u.definitionAt o d eigen) (u.definitionAt o' d eigen) := by
  refine Outcome.bind_same _ fun sigPath hsig => definition_outcome ?_ eigen
  intro s hs c hc t ht
  cases Option.mem_def.mp hs
  exact h t ⟨d, n, eigen, s, c, hd, hdef, hsig, hc, ht⟩

theorem program_alike {o : ReadOptions} (h : ∀ t, u.ReadsType o t → t.Rereads read) (structured : Bool) :
    Journal.Alike (fun d d' => ∃ ds ds', d = .scope {} ds ∧ d' = .scope {} ds' ∧ Agree read ds ds')
      (u.program o) (u.program { o with structured }) := by
  unfold program
  split_ifs
  · exact .ofExcept (.error _)
  · rw [read_root, read_root]
    refine Journal.Alike.bind (R := Agree read) ?_ fun ds ds' _ hds => ⟨rfl, .ok ⟨ds, ds', rfl, rfl, hds⟩⟩
    apply readWith_alike (stable_agree read)
    · intro p n eigen _ _
      exact scopeHeader_outcome o structured n p (n.statements p)
    · intro d n eigen hd hdef
      exact definitionAt_outcome h hd hdef
    · exact readNode_other o structured
    · exact .root

/-- Source read with its types kept as text and source read with its types at once give the same
signature file and the same warnings, if the text of each type in a sig reads as that type. The types of
struct fields are dropped with the struct, and nothing is asked of them. -/
theorem convert_structured (u : Source) (o : ReadOptions) (read : Reader)
    (h : ∀ t, u.ReadsType o t → t.Rereads read) (structured : Bool) {d : Decl}
    (hd : (u.program o).result = .ok d) :
    ∃ d', (u.program { o with structured }).result = .ok d' ∧
      (Convert.program read d').1 = (Convert.program read d).1 ∧
        (Convert.program read d').2.map (·.1.message) = (Convert.program read d).2.map (·.1.message) := by
  have hresult := (program_alike h structured).result
  rw [hd] at hresult
  generalize (u.program { o with structured }).result = result at hresult ⊢
  cases hresult with
  | ok hagree =>
    obtain ⟨ds, ds', rfl, rfl, hdecls, hwarnings⟩ := hagree
    refine ⟨.scope {} ds', rfl, ?_, ?_⟩
    · simp only [Convert.program, hdecls]
    · have hmessages := congrArg (List.map Warning.message) hwarnings
      simpa [Convert.program, Function.comp_def] using hmessages.symm

section Sample

def sampleNode (kind text : String) (field : Option String) (parts : List Node) : Node :=
  { kind, text, line := 1, field, named := true, missing := false, broken := false, parts }

def sampleType : Node :=
  sampleNode "call" "T.nilable(A)" none
    [sampleNode "constant" "T" (some "receiver") [], sampleNode "identifier" "nilable" (some "method") [],
      sampleNode "argument_list" "(A)" (some "arguments") [sampleNode "constant" "A" none []]]

def sampleChain : Node :=
  sampleNode "call" "returns(T.nilable(A))" none
    [sampleNode "identifier" "returns" (some "method") [],
      sampleNode "argument_list" "(T.nilable(A))" (some "arguments") [sampleType]]

def sampleSig : Node :=
  sampleNode "call" "sig { returns(T.nilable(A)) }" none
    [sampleNode "identifier" "sig" (some "method") [],
      sampleNode "block" "{ returns(T.nilable(A)) }" (some "block") [sampleChain]]

def sampleMethod : Node :=
  sampleNode "method" "def f; end" none [sampleNode "identifier" "f" (some "name") []]

def sampleSource : Source where
  root := sampleNode "program" "sig { returns(T.nilable(A)) }\ndef f; end" none [sampleSig, sampleMethod]
  file := "a.rb"

def sampleReader : Reader := fun text =>
  sampleNode "program" text none
    [if text == "T.nilable(A)" then sampleType else sampleNode "constant" text none []]

def sampleDecls : List Decl :=
  [.member { name := "f", body := .method { result := some (.raw "T.nilable(A)") } }]

theorem sample_statements :
    sampleSource.root.statements .root =
      [(NodePath.root.child 0, sampleSig), (NodePath.root.child 1, sampleMethod)] := rfl

theorem sample_sigTypes : sampleSig.sigTypes = [sampleType] := by
  have hblock : sampleSig.block?.map Node.blockStatements = some [sampleChain] := rfl
  have hchain : sampleChain.chain = (none, [⟨some "returns", [sampleType]⟩]) :=
    Node.chain_of_no_receiver rfl rfl
  simp only [Node.sigTypes, hblock, hchain]
  rfl

theorem sample_sigBefore? :
    sampleSource.sigBefore? (NodePath.root.child 1) = .ok (some (NodePath.root.child 0)) := rfl

theorem sample_reads {o : ReadOptions} {d : NodePath} {n : Node} {eigen : Bool}
    (h : sampleSource.Reads o d n eigen) :
    (d = .root ∧ n = sampleSource.root) ∨ (d = NodePath.root.child 0 ∧ n = sampleSig) ∨
      (d = NodePath.root.child 1 ∧ n = sampleMethod) := by
  induction h with
  | root => exact .inl ⟨rfl, rfl⟩
  | sequence _ hn hc ih =>
    rcases ih with ⟨rfl, rfl⟩ | ⟨rfl, rfl⟩ | ⟨rfl, rfl⟩
    · rw [sample_statements, List.mem_pair, Prod.mk.injEq, Prod.mk.injEq] at hc
      exact .inr hc
    · cases hn
    · cases hn
  | scope _ hn _ _ ih => rcases ih with ⟨rfl, rfl⟩ | ⟨rfl, rfl⟩ | ⟨rfl, rfl⟩ <;> cases hn
  | singleton _ hn _ ih => rcases ih with ⟨rfl, rfl⟩ | ⟨rfl, rfl⟩ | ⟨rfl, rfl⟩ <;> cases hn

theorem sample_rereads (o : ReadOptions) (t : Node) (h : sampleSource.ReadsType o t) :
    t.Rereads sampleReader := by
  obtain ⟨d, n, eigen, s, c, hd, -, hs, hc, ht⟩ := h
  rcases sample_reads hd with ⟨rfl, -⟩ | ⟨rfl, -⟩ | ⟨rfl, -⟩
  · cases hs
  · cases hs
  · cases hs
    cases hc
    rw [sample_sigTypes, List.mem_singleton] at ht
    rw [ht]
    exact ⟨rfl, sampleType, rfl, rfl⟩

theorem sample_sigInfo :
    sampleSource.sigInfo {} (NodePath.root.child 0) = .ok { result := some (.raw "T.nilable(A)") } := by
  have hnode : sampleSource.node (NodePath.root.child 0) = .ok sampleSig := rfl
  have hchain : sampleChain.chain = (none, [⟨some "returns", [sampleType]⟩]) :=
    Node.chain_of_no_receiver rfl rfl
  obtain ⟨b, hb, hs⟩ : ∃ b, sampleSig.block? = some b ∧ b.blockStatements = [sampleChain] := ⟨_, rfl, rfl⟩
  rw [sigInfo, hnode]
  simp only [bind, Except.bind, hb, hs, hchain]
  rfl

theorem sample_definitionAt :
    sampleSource.definitionAt {} (NodePath.root.child 1) false = .ok sampleDecls := by
  have hnode : sampleSource.node (NodePath.root.child 1) = .ok sampleMethod := rfl
  have hcomments : sampleSource.commentsBefore (NodePath.root.child 0) = .ok [] := by
    rw [commentsBefore, commentsAbove.eq_def]
    rfl
  rw [definitionAt, sample_sigBefore?]
  change sampleSource.definition {} (NodePath.root.child 1) (some (NodePath.root.child 0)) false = _
  rw [definition, hnode]
  simp only [sample_sigInfo, Option.getD_some, hcomments, bind, Except.bind, Functor.map, Except.map]
  rfl

theorem sample_program : (sampleSource.program {}).result = .ok (.scope {} sampleDecls) := by
  have hsig : sampleSource.readNode {} sampleSig (NodePath.root.child 0) false = return [] := by
    have hafter : sampleSource.definitionAfter? (NodePath.root.child 0) = .ok (some (NodePath.root.child 1)) :=
      rfl
    exact readNode_of_isSig _ _ _ false rfl hafter
  have hmethod : sampleSource.readNode {} sampleMethod (NodePath.root.child 1) false = return sampleDecls := by
    rw [readNode_of_isDefining _ _ _ false rfl, sample_definitionAt]
    rfl
  have hread : sampleSource.read {} .root false = return sampleDecls := by
    rw [read_root, readWith_definitionAt, readNode_of_isSequence _ _ .root false rfl, sample_statements]
    simp only [Journal.collect, hsig, hmethod]
    rfl
  have hbroken : sampleSource.root.broken = false := rfl
  rw [program, hbroken, hread]
  rfl

theorem convert_structured_sample :
    (∀ t, sampleSource.ReadsType {} t → t.Rereads sampleReader) ∧ sampleSource.ReadsType {} sampleType ∧
      ∃ d', (sampleSource.program { structured := true }).result = .ok d' ∧
        (Convert.program sampleReader d').1 = (Convert.program sampleReader (.scope {} sampleDecls)).1 := by
  have htype : sampleSource.ReadsType {} sampleType := by
    have hmethod : (NodePath.root.child 1, sampleMethod) ∈ sampleSource.root.statements .root := by
      rw [sample_statements]
      exact List.mem_cons_of_mem _ List.mem_cons_self
    refine ⟨_, sampleMethod, false, _, sampleSig, .sequence .root rfl hmethod, rfl, sample_sigBefore?, rfl, ?_⟩
    rw [sample_sigTypes]
    exact List.mem_cons_self
  obtain ⟨d', hd', hsame, -⟩ :=
    convert_structured sampleSource {} sampleReader (sample_rereads {}) true sample_program
  exact ⟨sample_rereads {}, htype, d', hd', hsame⟩

end Sample

end Source
end RubyStubs
