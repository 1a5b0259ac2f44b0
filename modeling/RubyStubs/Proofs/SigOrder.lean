import Mathlib.Data.List.Pairwise
import RubyStubs.Proofs.ParameterMatching
import RubyStubs.Proofs.Qualifiers

namespace RubyStubs

namespace Node

/-- The calls that a node chains, innermost first. A name alone at the bottom is a call without arguments, and any other
object there is none of the calls. -/
inductive Chains : Node → List Link → Prop
  | word {n : Node} (hkind : n.kind = "identifier") : Chains n [⟨some n.text, []⟩]
  | object {n : Node} (hcall : ¬ n.isCall) (hkind : n.kind ≠ "identifier") : Chains n []
  | first {n : Node} (hcall : n.isCall) (hnone : n.receiver? = none) : Chains n [⟨n.callName?, n.arguments⟩]
  | next {n r : Node} {links : List Link} (hcall : n.isCall) (hr : n.receiver? = some r) (h : Chains r links) :
      Chains n (links ++ [⟨n.callName?, n.arguments⟩])

theorem Chains.chain_eq {n : Node} {links : List Link} (h : n.Chains links) : n.chain.2 = links := by
  induction h with
  | @word n hkind =>
    have hcall : ¬ n.isCall := by simp [isCall, callKinds, hkind]
    rw [chain_of_not_isCall hcall, if_pos (by simpa using hkind)]
  | object hcall hkind => rw [chain_of_not_isCall hcall, if_neg (by simpa using hkind)]
  | first hcall hnone => rw [chain_of_no_receiver hcall hnone]
  | next hcall hr _ ih => rw [chain_of_receiver? hcall hr, ih]

theorem paramEntries_core (args : List Node) : paramEntries (args.map core) = (paramEntries args).map core := by
  rcases args with _ | ⟨a, _ | ⟨b, bs⟩⟩
  · rfl
  · by_cases h : a.kind == "hash" <;> simp [paramEntries, h, filter_core]
  · rfl

namespace Link

def entries (l : Link) : List (String × Node) := (paramEntries l.arguments).filterMap pair?

def result? (o : ReadOptions) (l : Link) : Option TypeExpr :=
  if l.name = some "returns" then l.arguments.head?.map o.type else none

def parameters? (o : ReadOptions) (l : Link) : Option (List (String × TypeExpr)) :=
  if l.name = some "params" then some (l.entries.map o.entry) else none

@[mk_iff]
structure IsSound (l : Link) : Prop where
  result : l.name = some "returns" → l.arguments.length = 1
  given : l.name = some "params" → l.arguments ≠ []
  pairs : l.name = some "params" → ∀ a ∈ paramEntries l.arguments, a.pair?.isSome
  distinct : l.name = some "params" → (l.entries.map (·.1)).Nodup

end Link

end Node

theorem ReadOptions.type_core (o : ReadOptions) (n : Node) : o.type n.core = o.type n := by
  simp only [type, TypeExpr.ofNode_core, Node.text_core]

theorem Source.typeParameterName_core (n : Node) : typeParameterName n.core = typeParameterName n := by
  simp only [typeParameterName, Node.symbolName?_core, Node.text_core]

def Node.marksFinal (g : Node) : Bool := g.arguments.any (·.symbolName? == some "final")

def SigInfo.adding (o : ReadOptions) (info : SigInfo) (l : Node.Link) : SigInfo where
  isAbstract := info.isAbstract || l.isWord "abstract"
  isImplementation := info.isImplementation || l.isWord "implementation"
  isOverride := info.isOverride || l.isWord "override"
  isOverridable := info.isOverridable || l.isWord "overridable"
  isFinal := info.isFinal
  result := (l.result? o).or info.result
  isVoid := info.isVoid || l.name == some "void"
  parameters := (l.parameters? o).or info.parameters
  typeParameters := l.typeParameters?.getD info.typeParameters

namespace Node.Link

variable (o : ReadOptions) (l : Link)

theorem entries_core : l.core.entries = l.entries.map (Prod.map id Node.core) := by
  simp only [entries, core, paramEntries_core, List.filterMap_map, List.map_filterMap, Function.comp_def, pair?_core]

theorem result?_core : l.core.result? o = l.result? o := by
  simp [result?, core, Function.comp_def, o.type_core]

theorem parameters?_core : l.core.parameters? o = l.parameters? o := by
  have hentry : o.entry ∘ Prod.map id Node.core = o.entry :=
    funext fun e => congrArg (Prod.mk e.1) (o.type_core e.2)
  rw [parameters?, parameters?, entries_core, List.map_map, hentry]
  rfl

theorem typeParameters?_core : l.core.typeParameters? = l.typeParameters? := by
  have hname : Source.typeParameterName ∘ Node.core = Source.typeParameterName := funext Source.typeParameterName_core
  rw [typeParameters?, typeParameters?, core, List.map_map, hname]

theorem isSound_core_iff : l.core.IsSound ↔ l.IsSound := by
  have hnames : l.core.entries.map (·.1) = l.entries.map (·.1) := by
    rw [entries_core, List.map_map]
    rfl
  have hpairs : (∀ a ∈ paramEntries l.core.arguments, a.pair?.isSome) ↔
      ∀ a ∈ paramEntries l.arguments, a.pair?.isSome := by
    simp [core, paramEntries_core]
  rw [isSound_iff, isSound_iff, hnames, hpairs]
  simp [core]

theorem adding_core (info : SigInfo) : info.adding o l.core = info.adding o l := by
  have hword (word : String) : l.core.isWord word = l.isWord word := by simp [isWord, core]
  simp only [SigInfo.adding, hword, result?_core, parameters?_core, typeParameters?_core]
  rfl

end Node.Link

theorem or_right_comm_of_none {α : Type} {x y : Option α} (h : x = none ∨ y = none) (z : Option α) :
    y.or (x.or z) = x.or (y.or z) := by
  rcases h with rfl | rfl <;> simp

theorem getD_right_comm_of_none {α : Type} {x y : Option α} (h : x = none ∨ y = none) (z : α) :
    y.getD (x.getD z) = x.getD (y.getD z) := by
  rcases h with rfl | rfl <;> simp

namespace SigInfo

variable (o : ReadOptions)

theorem adding_right_comm {k l : Node.Link} (h : ∀ name, k.name = some name → l.name ≠ some name) (info : SigInfo) :
    (info.adding o k).adding o l = (info.adding o l).adding o k := by
  have honce (name : String) : k.name ≠ some name ∨ l.name ≠ some name := by
    by_cases hk : k.name = some name
    · exact .inr (h name hk)
    · exact .inl hk
  have hresult : k.result? o = none ∨ l.result? o = none := (honce "returns").imp (if_neg ·) (if_neg ·)
  have hparameters : k.parameters? o = none ∨ l.parameters? o = none := (honce "params").imp (if_neg ·) (if_neg ·)
  have htypes : k.typeParameters? = none ∨ l.typeParameters? = none :=
    (honce "type_parameters").imp (if_neg ·) (if_neg ·)
  simp only [adding, mk.injEq, true_and]
  refine ⟨Bool.or_right_comm _ _ _, Bool.or_right_comm _ _ _, Bool.or_right_comm _ _ _, Bool.or_right_comm _ _ _, ?_,
    Bool.or_right_comm _ _ _, ?_, ?_⟩
  · exact or_right_comm_of_none hresult _
  · exact or_right_comm_of_none hparameters _
  · exact getD_right_comm_of_none htypes _

theorem foldl_adding_perm {ks ls : List Node.Link} (h : ks.Perm ls) (hnames : (ks.filterMap (·.name)).Nodup)
    (info : SigInfo) : ks.foldl (adding o) info = ls.foldl (adding o) info := by
  let Apart (k l : Node.Link) : Prop := ∀ name, k.name = some name → l.name ≠ some name
  have hsymm : Std.Symm Apart := ⟨fun k l hkl name hl hk => hkl name hk hl⟩
  have hapart : ks.Pairwise Apart :=
    (List.pairwise_filterMap.mp hnames).imp fun hkl name hk hl => hkl name hk name hl rfl
  apply h.foldl_eq'
  intro k hk l hl info
  by_cases hkl : k = l
  · rw [hkl]
  · exact adding_right_comm o (hapart.forall hk hl hkl) info

theorem foldl_adding_core (links : List Node.Link) (info : SigInfo) :
    (links.map Node.Link.core).foldl (adding o) info = links.foldl (adding o) info := by
  simp only [List.foldl_map, Node.Link.adding_core]

theorem foldl_adding_final (links : List Node.Link) (info : SigInfo) (isFinal : Bool) :
    links.foldl (adding o) { info with isFinal } = { links.foldl (adding o) info with isFinal } := by
  induction links generalizing info with
  | nil => rfl
  | cons l links ih => exact ih (info.adding o l)

end SigInfo

namespace Source

variable {u : Source} {o : ReadOptions} {p : NodePath}

theorem sigPairs_ok {as : List Node} {seen ts : List (String × TypeExpr)}
    (h : u.sigPairs o p seen as = .ok ts) : ∀ a ∈ as, a.pair?.isSome := by
  induction as generalizing seen with
  | nil => exact nofun
  | cons a as ih =>
    rw [sigPairs] at h
    cases ha : a.pair? with
    | none =>
      rw [ha] at h
      exact absurd h (fail_ne_ok _ p ts)
    | some e =>
      simp only [ha] at h
      split_ifs at h
      · exact absurd h (fail_ne_ok _ p ts)
      · exact List.forall_mem_cons.mpr ⟨by rw [ha]; rfl, ih h⟩

theorem sigParameters_ok {args : List Node} {ts : List (String × TypeExpr)} (h : u.sigParameters o p args = .ok ts) :
    ∀ a ∈ Node.paramEntries args, a.pair?.isSome := by
  have hread : u.sigParameters o p args =
      if args.isEmpty then u.fail .paramsArguments p else u.sigPairs o p [] (Node.paramEntries args) := rfl
  rw [hread] at h
  split_ifs at h
  · exact absurd h (fail_ne_ok _ p ts)
  · exact sigPairs_ok h

theorem sigLink_of_free {l : Node.Link} (hresult : l.name ≠ some "returns") (hparams : l.name ≠ some "params")
    (info : SigInfo) : u.sigLink o p info l = .ok (info.adding o l) := by
  obtain ⟨name, args⟩ := l
  unfold sigLink
  split
  case h_6 hname _ => exact absurd hname hresult
  case h_7 hname _ => exact absurd hname hresult
  case h_8 hname => exact absurd hname hparams
  case h_10 hvoid _ _ htypes habstract himplementation hoverride hoverridable _ =>
    have hword {word : String} (h : name = some word → args = [] → False) :
        Node.Link.isWord word ⟨name, args⟩ = false := by
      simpa [Node.Link.isWord] using h
    have hvoid : (name == some "void") = false := by simpa using hvoid
    simp only [SigInfo.adding, hword habstract, hword himplementation, hword hoverride, hword hoverridable, hvoid,
      Node.Link.result?, Node.Link.parameters?, Node.Link.typeParameters?, if_neg hresult, if_neg hparams,
      if_neg htypes, Bool.or_false, Option.none_or, Option.getD_none]
  all_goals
    simp_all [SigInfo.adding, Node.Link.isWord, Node.Link.result?, Node.Link.parameters?, Node.Link.typeParameters?]

theorem sigLink_returns_iff {l : Node.Link} (hname : l.name = some "returns") {info info' : SigInfo} :
    u.sigLink o p info l = .ok info' ↔ l.arguments.length = 1 ∧ info' = info.adding o l := by
  obtain ⟨name, args⟩ := l
  cases hname
  rcases args with _ | ⟨a, _ | ⟨b, bs⟩⟩
  · exact iff_of_false (fail_ne_ok _ p info') nofun
  · have hadding : info.adding o ⟨some "returns", [a]⟩ = { info with result := some (o.type a) } := by
      simp [SigInfo.adding, Node.Link.isWord, Node.Link.result?, Node.Link.parameters?, Node.Link.typeParameters?]
    have hread : u.sigLink o p info ⟨some "returns", [a]⟩ = .ok { info with result := some (o.type a) } := rfl
    rw [hread, hadding, Except.ok.injEq, eq_comm]
    simp
  · exact iff_of_false (fail_ne_ok _ p info') (by simp)

theorem sigLink_params_iff {l : Node.Link} (hname : l.name = some "params") {info info' : SigInfo} :
    u.sigLink o p info l = .ok info' ↔
      (l.arguments ≠ [] ∧ (∀ a ∈ Node.paramEntries l.arguments, a.pair?.isSome) ∧ (l.entries.map (·.1)).Nodup) ∧
        info' = info.adding o l := by
  have hadding : info.adding o l = { info with parameters := some (l.entries.map o.entry) } := by
    simp [SigInfo.adding, Node.Link.isWord, Node.Link.result?, Node.Link.parameters?, Node.Link.typeParameters?, hname]
  rw [sigLink_params (by simp [Node.Link.isParams, hname]), bind_eq_ok_iff, hadding]
  constructor
  · rintro ⟨ts, hts, hinfo⟩
    cases hinfo
    have hpairs := sigParameters_ok hts
    obtain ⟨hargs, rfl, hdistinct⟩ := (sigParameters_eq_ok_iff hpairs).mp hts
    rw [o.map_fst_entry] at hdistinct
    exact ⟨⟨hargs, hpairs, hdistinct⟩, rfl⟩
  · rintro ⟨⟨hargs, hpairs, hdistinct⟩, rfl⟩
    rw [← o.map_fst_entry] at hdistinct
    exact ⟨_, (sigParameters_eq_ok_iff hpairs).mpr ⟨hargs, rfl, hdistinct⟩, rfl⟩

theorem sigLink_eq_ok_iff {l : Node.Link} {info info' : SigInfo} :
    u.sigLink o p info l = .ok info' ↔ l.IsSound ∧ info' = info.adding o l := by
  rw [Node.Link.isSound_iff]
  by_cases hresult : l.name = some "returns"
  · rw [sigLink_returns_iff hresult]
    simp [hresult]
  · by_cases hparams : l.name = some "params"
    · rw [sigLink_params_iff hparams]
      simp [hparams]
    · rw [sigLink_of_free hresult hparams, Except.ok.injEq, eq_comm]
      simp [hresult, hparams]

theorem sigLinks_eq_ok_iff {links : List Node.Link} {info info' : SigInfo} :
    u.sigLinks o p info links = .ok info' ↔
      (∀ l ∈ links, l.IsSound) ∧ info' = links.foldl (SigInfo.adding o) info := by
  induction links generalizing info with
  | nil => simp [sigLinks, eq_comm]
  | cons l links ih =>
    rw [sigLinks, bind_eq_ok_iff, List.forall_mem_cons, List.foldl_cons]
    simp only [sigLink_eq_ok_iff, ih]
    constructor
    · rintro ⟨_, ⟨hl, rfl⟩, hlinks, hinfo⟩
      exact ⟨⟨hl, hlinks⟩, hinfo⟩
    · rintro ⟨⟨hl, hlinks⟩, hinfo⟩
      exact ⟨_, ⟨hl, rfl⟩, hlinks, hinfo⟩

structure SigAt (u : Source) (p : NodePath) (g : Node) (links : List Node.Link) : Prop where
  place : u.At p g
  sig : g.isSig
  chain : ∃ b e, g.block? = some b ∧ b.blockStatements = [e] ∧ e.Chains links

namespace SigAt

variable {g : Node} {links : List Node.Link}

theorem sigInfo_eq_ok_iff (h : u.SigAt p g links) {info : SigInfo} :
    u.sigInfo o p = .ok info ↔
      (∀ l ∈ links, l.IsSound) ∧
        info = { links.foldl (SigInfo.adding o) {} with isFinal := g.marksFinal } := by
  obtain ⟨b, e, hb, hblock, hchain⟩ := h.chain
  rcases sigInfo_of_block u o h.place.node hb with ⟨e', he', hread⟩ | ⟨hmany, -⟩
  · cases hblock.symm.trans he'
    rw [hread, hchain.chain_eq, sigLinks_eq_ok_iff, ← SigInfo.foldl_adding_final]
    rfl
  · exact absurd hblock (hmany e)

theorem refused (h : u.SigAt p g links) (hlinks : ¬ ∀ l ∈ links, l.IsSound) (o : ReadOptions) :
    ∃ what line, u.sigInfo o p = .error (.problem what u.file line) := by
  have hsafe := h.place.sigInfo o h.sig
  cases hinfo : u.sigInfo o p with
  | ok info => exact absurd (h.sigInfo_eq_ok_iff.mp hinfo).1 hlinks
  | error e =>
    rw [hinfo] at hsafe
    cases hsafe with
    | @problem what n _ => exact ⟨what, n.line, rfl⟩

end SigAt

/-- Two sigs that chain the same calls, of distinct names and in any order, declare the same, or both are refused. Where
the calls stand in their sources does not matter; the mark `final`, which is no call of the chain, is that of each sig. -/
theorem sig_order_irrelevant {u v : Source} {p q : NodePath} {g g' : Node} {ks ls : List Node.Link}
    (hu : u.SigAt p g ks) (hv : v.SigAt q g' ls) (hnames : (ks.filterMap (·.name)).Nodup)
    (hperm : (ks.map Node.Link.core).Perm (ls.map Node.Link.core)) (o : ReadOptions) :
    (∃ info : SigInfo,
        u.sigInfo o p = .ok { info with isFinal := g.marksFinal } ∧
          v.sigInfo o q = .ok { info with isFinal := g'.marksFinal }) ∨
      (∃ what line, u.sigInfo o p = .error (.problem what u.file line)) ∧
        ∃ what line, v.sigInfo o q = .error (.problem what v.file line) := by
  have hsound : (∀ k ∈ ks, k.IsSound) ↔ ∀ l ∈ ls, l.IsSound := by
    have hmem : (∀ k ∈ ks.map Node.Link.core, k.IsSound) ↔ ∀ l ∈ ls.map Node.Link.core, l.IsSound :=
      forall_congr' fun l => by rw [hperm.mem_iff]
    simpa only [List.forall_mem_map, Node.Link.isSound_core_iff] using hmem
  have hsame : ks.foldl (SigInfo.adding o) {} = ls.foldl (SigInfo.adding o) {} := by
    rw [← SigInfo.foldl_adding_core, ← SigInfo.foldl_adding_core o ls]
    apply SigInfo.foldl_adding_perm o hperm
    rwa [List.filterMap_map]
  by_cases hall : ∀ k ∈ ks, k.IsSound
  · refine .inl ⟨ks.foldl (SigInfo.adding o) {}, hu.sigInfo_eq_ok_iff.mpr ⟨hall, rfl⟩, ?_⟩
    rw [hsame]
    exact hv.sigInfo_eq_ok_iff.mpr ⟨hsound.mp hall, rfl⟩
  · exact .inr ⟨hu.refused hall o, hv.refused (hsound.not.mp hall) o⟩

theorem sig_order_irrelevant_bare_name :
    let pair : Expr := .pair "a" (.constant "A")
    let sig := (Stmt.sig false (.send (.send (.word "override") "returns" [.constant "B"]) "params" [pair])).tree
    let sig' := (Stmt.sig true (.send (.send (.call "params" [pair]) "override" []) "returns" [.constant "B"])).tree
    let override : Node.Link := ⟨some "override", []⟩
    let returns : Node.Link := ⟨some "returns", [(Expr.constant "B").tree]⟩
    let params : Node.Link := ⟨some "params", [pair.tree]⟩
    let u : Source := { root := .made "program" "" [sig], file := "a.rb" }
    let v : Source := { root := .made "program" "" [sig'], file := "b.rb" }
    let info : SigInfo := { isOverride := true, result := some (.raw "B"), parameters := some [("a", .raw "A")] }
    u.SigAt (.child .root 0) sig [override, returns, params] ∧ v.SigAt (.child .root 0) sig' [params, override, returns] ∧
      u.sigInfo {} (.child .root 0) = .ok info ∧ v.sigInfo {} (.child .root 0) = .ok { info with isFinal := true } := by
  intro pair sig sig' override returns params u v info
  have hu : u.SigAt (.child .root 0) sig [override, returns, params] := by
    refine ⟨.child .root rfl, by decide +kernel, _, _, rfl, rfl, ?_⟩
    exact @Node.Chains.next _ _ [override, returns] rfl rfl (@Node.Chains.next _ _ [override] rfl rfl (.word rfl))
  have hv : v.SigAt (.child .root 0) sig' [params, override, returns] := by
    refine ⟨.child .root rfl, by decide +kernel, _, _, rfl, rfl, ?_⟩
    exact @Node.Chains.next _ _ [params, override] rfl rfl (@Node.Chains.next _ _ [params] rfl rfl (.first rfl rfl))
  have hperm : [override, returns, params].Perm [params, override, returns] :=
    @List.perm_append_comm _ [override, returns] [params]
  have hparams : params.IsSound := ⟨by decide, fun _ => nofun, fun _ => by decide, fun _ => by decide⟩
  have hsound : ∀ l ∈ [override, returns, params], l.IsSound := by
    refine List.forall_mem_cons.mpr ⟨?_, List.forall_mem_cons.mpr ⟨?_, List.forall_mem_singleton.mpr hparams⟩⟩
    · simp [Node.Link.isSound_iff, override]
    · simp [Node.Link.isSound_iff, returns]
  have hinfo : u.sigInfo {} (.child .root 0) = .ok info := hu.sigInfo_eq_ok_iff.mpr ⟨hsound, rfl⟩
  have hmark : sig'.marksFinal = true := by decide +kernel
  refine ⟨hu, hv, hinfo, ?_⟩
  rcases sig_order_irrelevant hu hv (by decide) (hperm.map Node.Link.core) {} with ⟨info', hread, hread'⟩ | ⟨⟨_, _, hno⟩, -⟩
  · rw [hinfo] at hread
    rw [hread', hmark, Except.ok.inj hread]
  · rw [hinfo] at hno
    cases hno

theorem sig_final_outside_chain :
    let sig := (Stmt.sig false (.word "void")).tree
    let sig' := (Stmt.sig true (.word "void")).tree
    let void : Node.Link := ⟨some "void", []⟩
    let u : Source := { root := .made "program" "" [sig, sig'], file := "a.rb" }
    u.SigAt (.child .root 0) sig [void] ∧ u.SigAt (.child .root 1) sig' [void] ∧
      u.sigInfo {} (.child .root 0) = .ok { isVoid := true } ∧
      u.sigInfo {} (.child .root 1) = .ok { isVoid := true, isFinal := true } ∧
      u.sigInfo {} (.child .root 0) ≠ u.sigInfo {} (.child .root 1) := by
  intro sig sig' void u
  have hsig : u.SigAt (.child .root 0) sig [void] :=
    ⟨.child .root rfl, by decide +kernel, _, _, rfl, rfl, .word rfl⟩
  have hsig' : u.SigAt (.child .root 1) sig' [void] :=
    ⟨.child .root rfl, by decide +kernel, _, _, rfl, rfl, .word rfl⟩
  have hsound : ∀ l ∈ [void], l.IsSound := by simp [Node.Link.isSound_iff, void]
  have hmark : sig'.marksFinal = true := by decide +kernel
  have hinfo : u.sigInfo {} (.child .root 0) = .ok { isVoid := true } := hsig.sigInfo_eq_ok_iff.mpr ⟨hsound, rfl⟩
  have hinfo' : u.sigInfo {} (.child .root 1) = .ok { isVoid := true, isFinal := true } :=
    hsig'.sigInfo_eq_ok_iff.mpr ⟨hsound, by rw [hmark]; rfl⟩
  refine ⟨hsig, hsig', hinfo, hinfo', ?_⟩
  rw [hinfo, hinfo']
  exact nofun

end Source
end RubyStubs
