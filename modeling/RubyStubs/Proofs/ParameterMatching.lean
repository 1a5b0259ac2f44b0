import Mathlib.Data.List.Perm.Subperm
import RubyStubs.Proofs.SigChain
import RubyStubs.Proofs.StatementReading
import RubyStubs.Proofs.TypeRoutes

/-!
The parameters of a definition and those of the sig before it are matched by name. Only the numbers of names are
compared, and whether each name of the definition is declared; as no name stands twice on either side, that makes
them the same names.
-/

namespace RubyStubs

structure Text.IsBare (name : String) : Prop where
  nonempty : name ≠ ""
  first : ∀ c ∈ name.toList.head?, c ≠ '*' ∧ c ≠ '&'
  last : ¬ Text.endsIn name ':'

namespace ParameterKind

theorem splitMarker_of_unmarked {cs : List Char} (h : ∀ c ∈ cs.head?, c ≠ '*' ∧ c ≠ '&') :
    splitMarker cs = (none, cs) := by
  unfold splitMarker
  split
  · simp at h
  · simp at h
  · simp at h
  · rfl

theorem splitMarker_star {cs : List Char} (h : ∀ c ∈ cs.head?, c ≠ '*' ∧ c ≠ '&') :
    splitMarker ('*' :: cs) = (some .splat, cs) := by
  cases cs with
  | nil => rfl
  | cons c cs =>
    have hc : c ≠ '*' := (h c rfl).1
    simp [splitMarker, hc]

end ParameterKind

namespace Formal

variable {f : Formal}

theorem splitMarker_markedName (h : Text.IsBare f.name) :
    ParameterKind.splitMarker f.markedName.toList =
      (if f.kind = .normal ∨ f.kind = .keyword then none else some f.kind, (f.name ++ f.marks.2).toList) := by
  obtain ⟨kind, name, default⟩ := f
  obtain ⟨hne, hfirst, -⟩ := h
  simp only at hne hfirst
  cases kind with
  | normal => simpa [markedName, marks] using ParameterKind.splitMarker_of_unmarked hfirst
  | splat => simpa [markedName, marks] using ParameterKind.splitMarker_star hfirst
  | doubleSplat => simp [markedName, marks, ParameterKind.splitMarker]
  | block => simp [markedName, marks, ParameterKind.splitMarker]
  | keyword =>
    have hhead : (name.toList ++ [':']).head? = name.toList.head? := by
      cases hcs : name.toList with
      | nil => exact absurd (String.toList_eq_nil_iff.mp hcs) hne
      | cons => rfl
    simpa [markedName, marks] using ParameterKind.splitMarker_of_unmarked (hhead ▸ hfirst)

theorem ofName_markedName (h : Text.IsBare f.name) : ParameterKind.ofName f.markedName = f.kind := by
  have hends : f.kind = .normal ∨ f.kind = .keyword →
      (if Text.endsIn f.markedName ':' then ParameterKind.keyword else .normal) = f.kind := by
    obtain ⟨kind, name, default⟩ := f
    rintro (rfl | rfl)
    · simpa [markedName, marks] using h.last
    · simp [markedName, marks, Text.endsIn]
  rw [ParameterKind.ofName, splitMarker_markedName h]
  by_cases hkind : f.kind = .normal ∨ f.kind = .keyword
  · simpa only [if_pos hkind] using hends hkind
  · simp only [if_neg hkind]

def typed (f : Formal) (t : TypeExpr) : Parameter :=
  { name := f.markedName, type := some t, default := f.default }

structure TypedFrom (ts : List (String × TypeExpr)) (f : Formal) (q : Parameter) : Prop where
  name : q.name = f.markedName
  kind : q.kind = f.kind
  default : q.default = f.default
  bareName : q.bareName = f.name
  type : ∃ t, (f.name, t) ∈ ts ∧ q.type = some t

theorem bareName_typed (h : Text.IsBare f.name) (t : TypeExpr) : (f.typed t).bareName = f.name := by
  by_cases hkind : f.kind = .keyword
  · have hname : f.markedName = f.name ++ ":" := by simp [markedName, marks, hkind]
    have hlast : Text.dropEnd (· == ':') f.name = f.name := by
      apply Text.dropEnd_eq_self
      intro c hc
      by_contra hcolon
      have hc : f.name.toList.getLast? = some ':' := by simpa [hc] using hcolon
      exact h.last (by simp [Text.endsIn, hc])
    rw [Parameter.bareName, typed, ofName_markedName h, hkind, hname]
    simpa [Text.dropEnd] using hlast
  · have hname : f.name ++ f.marks.2 = f.name := by
      cases hk : f.kind <;> simp_all [marks]
    have hsplit := congrArg Prod.snd (splitMarker_markedName h)
    rw [hname] at hsplit
    simp only [Parameter.bareName, typed, ofName_markedName h]
    rw [hsplit, String.ofList_toList]

theorem typedFrom_typed (h : Text.IsBare f.name) {t : TypeExpr} {ts : List (String × TypeExpr)}
    (ht : (f.name, t) ∈ ts) : TypedFrom ts f (f.typed t) :=
  ⟨rfl, ofName_markedName h, rfl, bareName_typed h t, t, ht, rfl⟩

end Formal

namespace Node

def parameterNodes (d : Node) : List Node :=
  match d.child? "parameters" with
  | none => []
  | some l => l.children.filter (!·.isComment)

def parameterKind? (kind : String) : Option ParameterKind :=
  match kind with
  | "identifier" | "optional_parameter" => some .normal
  | "splat_parameter" => some .splat
  | "hash_splat_parameter" => some .doubleSplat
  | "block_parameter" => some .block
  | "keyword_parameter" => some .keyword
  | _ => none

def formal? (c : Node) : Option Formal :=
  (parameterKind? c.kind).bind fun kind =>
    (if c.kind == "identifier" then some c else c.child? "name").map fun name =>
      ⟨kind, name.text, (c.child? "value").map (·.text)⟩

structure HasFormals (d : Node) (fs : List Formal) : Prop where
  shapes : List.Forall₂ (fun c f => c.formal? = some f) d.parameterNodes fs
  bare : ∀ f ∈ fs, Text.IsBare f.name
  distinct : (fs.map (·.name)).Nodup

def Link.isParams (l : Link) : Bool := l.name == some "params"

/-- A chain of calls in which nothing can be wrong but the names of parameters. -/
structure OrderlySig (links : List Link) : Prop where
  once : (links.filter Link.isParams).length ≤ 1
  results : ∀ l ∈ links, l.name = some "returns" → l.arguments.length = 1
  pairs : ∀ l ∈ links, l.isParams → ∀ a ∈ paramEntries l.arguments, a.pair?.isSome

def sigEntries (links : List Link) : List (String × Node) :=
  (links.filter Link.isParams).flatMap fun l => (paramEntries l.arguments).filterMap pair?

structure NamesMatch (links : List Link) (fs : List Formal) : Prop where
  given : ∀ l ∈ links, l.isParams → l.arguments ≠ []
  distinct : ((sigEntries links).map (·.1)).Nodup
  same : ∀ name, name ∈ (sigEntries links).map (·.1) ↔ name ∈ fs.map (·.name)

end Node

theorem ReadOptions.map_fst_entry (o : ReadOptions) (es : List (String × Node)) :
    (es.map o.entry).map (·.1) = es.map (·.1) := by
  simp [entry]

namespace Source

variable {u : Source} {o : ReadOptions} {p : NodePath}

theorem defParameter_of_formal? {c : Node} {f : Formal} (h : c.formal? = some f) :
    u.defParameter p c = .ok (defOf f) := by
  obtain ⟨kind, hkind, h⟩ := Option.bind_eq_some_iff.mp h
  obtain ⟨name, hname, rfl⟩ := Option.map_eq_some_iff.mp h
  have hmarks : Node.parameterMarks? c.kind = some (Formal.marks ⟨kind, name.text, none⟩) := by
    unfold Node.parameterKind? at hkind
    split at hkind <;> cases hkind <;> simp_all [Node.parameterMarks?, Formal.marks]
  simp only [defParameter, hmarks, hname]
  rfl

theorem defParameters_of_hasFormals {d : Node} {fs : List Formal} (h : d.HasFormals fs) :
    u.defParameters p d = .ok (fs.map defOf) := by
  have hdefs : u.defParameters p d = d.parameterNodes.mapM (u.defParameter p) := by
    cases hl : d.child? "parameters" <;> simp [defParameters, Node.parameterNodes, hl, pure, Except.pure]
  rw [hdefs, mapM_eq_ok_iff, List.forall₂_map_right_iff]
  exact h.shapes.imp fun c f hf => defParameter_of_formal? hf

theorem sigParameters_eq_ok_iff {args : List Node} (h : ∀ a ∈ Node.paramEntries args, a.pair?.isSome)
    {ts : List (String × TypeExpr)} :
    u.sigParameters o p args = .ok ts ↔
      args ≠ [] ∧ ts = ((Node.paramEntries args).filterMap Node.pair?).map o.entry ∧ (ts.map (·.1)).Nodup := by
  have hpairs : u.sigParameters o p args =
      if args.isEmpty then u.fail .paramsArguments p else u.sigPairs o p [] (Node.paramEntries args) := rfl
  rw [hpairs]
  by_cases hempty : args.isEmpty
  · rw [if_pos hempty]
    exact iff_of_false (fail_ne_ok _ p ts) fun hargs => hargs.1 (List.isEmpty_iff.mp hempty)
  · rw [if_neg hempty, sigPairs_eq_ok_iff h (by simp)]
    simp [List.isEmpty_iff.not.mp hempty]

theorem sigLink_of_not_isParams {l : Node.Link} (hparams : ¬ l.isParams)
    (hresult : l.name = some "returns" → l.arguments.length = 1) (info : SigInfo) :
    ∃ info', u.sigLink o p info l = .ok info' ∧ info'.parameters = info.parameters := by
  unfold sigLink
  split
  case h_7 hname hmany =>
    obtain ⟨a, ha⟩ := List.length_eq_one_iff.mp (hresult hname)
    exact absurd ha (hmany a)
  case h_8 hname => simp [Node.Link.isParams, hname] at hparams
  all_goals exact ⟨_, rfl, rfl⟩

theorem sigLink_params {l : Node.Link} (h : l.isParams) (info : SigInfo) :
    u.sigLink o p info l = do return { info with parameters := some (← u.sigParameters o p l.arguments) } := by
  obtain ⟨name, arguments⟩ := l
  cases eq_of_beq h
  rfl

theorem sigLinks_of_no_params {links : List Node.Link} (hparams : ∀ l ∈ links, ¬ l.isParams)
    (hresults : ∀ l ∈ links, l.name = some "returns" → l.arguments.length = 1) (info : SigInfo) :
    ∃ info', u.sigLinks o p info links = .ok info' ∧ info'.parameters = info.parameters := by
  induction links generalizing info with
  | nil => exact ⟨info, rfl, rfl⟩
  | cons l links ih =>
    rw [List.forall_mem_cons] at hparams hresults
    obtain ⟨next, hnext, hkept⟩ := sigLink_of_not_isParams (u := u) (o := o) (p := p) hparams.1 hresults.1 info
    obtain ⟨info', hrest, hkept'⟩ := ih hparams.2 hresults.2 next
    refine ⟨info', ?_, hkept'.trans hkept⟩
    rw [sigLinks, hnext]
    exact hrest

theorem sigLinks_parameters_iff {links : List Node.Link} (h : Node.OrderlySig links) {info : SigInfo}
    (hinfo : info.parameters = none) {ts : List (String × TypeExpr)} :
    (∃ info', u.sigLinks o p info links = .ok info' ∧ info'.parameters.getD [] = ts) ↔
      (∀ l ∈ links, l.isParams → l.arguments ≠ []) ∧ ts = (Node.sigEntries links).map o.entry ∧
        (ts.map (·.1)).Nodup := by
  obtain ⟨honce, hresults, hpairs⟩ := h
  -- Up to `params` nothing is declared, and after it nothing more is.
  induction links generalizing info with
  | nil =>
    constructor
    · rintro ⟨_, hread, rfl⟩
      cases hread
      simp [hinfo, Node.sigEntries]
    · rintro ⟨-, rfl, -⟩
      exact ⟨info, rfl, by rw [hinfo]; rfl⟩
  | cons l links ih =>
    rw [List.forall_mem_cons] at hresults hpairs
    by_cases hl : l.isParams
    · have hnone : ∀ k ∈ links, ¬ k.isParams := by
        rw [List.filter_cons_of_pos hl, List.length_cons] at honce
        rw [← List.filter_eq_nil_iff, ← List.length_eq_zero_iff]
        omega
      have hentries : Node.sigEntries (l :: links) = (Node.paramEntries l.arguments).filterMap Node.pair? := by
        simp [Node.sigEntries, hl, List.filter_eq_nil_iff.mpr hnone]
      have hread : (∃ info', u.sigLinks o p info (l :: links) = .ok info' ∧ info'.parameters.getD [] = ts) ↔
          u.sigParameters o p l.arguments = .ok ts := by
        rw [sigLinks, sigLink_params hl]
        cases hparameters : u.sigParameters o p l.arguments with
        | error e =>
          apply iff_of_false
          · rintro ⟨_, hread, -⟩
            cases hread
          · intro hread
            cases hread
        | ok parameters =>
          obtain ⟨info', hrest, hkept⟩ := sigLinks_of_no_params (u := u) (o := o) (p := p) hnone hresults.2
            { info with parameters := some parameters }
          change (∃ info', u.sigLinks o p _ links = .ok info' ∧ _) ↔ _
          simp [hrest, hkept]
      rw [hread, sigParameters_eq_ok_iff (hpairs.1 hl), hentries, List.forall_mem_cons]
      constructor
      · rintro ⟨hargs, hts⟩
        exact ⟨⟨fun _ => hargs, fun k hk hparams => absurd hparams (hnone k hk)⟩, hts⟩
      · rintro ⟨hgiven, hts⟩
        exact ⟨hgiven.1 hl, hts⟩
    · obtain ⟨next, hnext, hkept⟩ := sigLink_of_not_isParams (u := u) (o := o) (p := p) hl hresults.1 info
      have hrest : u.sigLinks o p info (l :: links) = u.sigLinks o p next links := by
        rw [sigLinks, hnext]
        rfl
      rw [List.filter_cons_of_neg hl] at honce
      rw [hrest, ih (hkept.trans hinfo) honce hresults.2 hpairs.2]
      simp [Node.sigEntries, hl]

section Typed

variable {fs : List Formal} {sig : SigInfo} {ts : List (String × TypeExpr)} (hsig : sig.parameters.getD [] = ts)

include hsig

theorem typedParameters_eq_ok_iff {ps : List Parameter} :
    u.typedParameters p (fs.map defOf) sig = .ok ps ↔
      fs.length = ts.length ∧
        List.Forall₂ (fun f q => ∃ e, ts.find? (·.1 == f.name) = some e ∧ q = f.typed e.2) fs ps := by
  simp only [typedParameters, hsig]
  by_cases hlength : fs.length = ts.length
  · rw [if_neg (by simp [hlength]), mapM_eq_ok_iff, List.forall₂_map_left_iff, and_iff_right hlength]
    refine iff_of_eq (congrArg (List.Forall₂ · fs ps) (funext fun f => funext fun q => propext ?_))
    simp only [defOf]
    cases ts.find? (·.1 == f.name) with
    | none => simp [fail_ne_ok]
    | some e => simp [Formal.typed, eq_comm]
  · rw [if_pos (by simp [hlength])]
    exact iff_of_false (fail_ne_ok _ p ps) fun h => hlength h.1

theorem names_of_typedParameters {ps : List Parameter} (hfs : (fs.map (·.name)).Nodup)
    (h : u.typedParameters p (fs.map defOf) sig = .ok ps) (name : String) :
    name ∈ ts.map (·.1) ↔ name ∈ fs.map (·.name) := by
  obtain ⟨hlength, hfound⟩ := (typedParameters_eq_ok_iff hsig).mp h
  have hsubset : fs.map (·.name) ⊆ ts.map (·.1) := by
    intro name hname
    obtain ⟨f, hf, rfl⟩ := List.mem_map.mp hname
    obtain ⟨hdeclared, -⟩ :=
      (List.forall₂_and_left _ _).mp (hfound.imp fun f q hq => ⟨hq.imp fun _ => And.left, hq⟩)
    obtain ⟨e, he⟩ := hdeclared f hf
    exact List.mem_map.mpr ⟨e, List.mem_of_find?_eq_some he, by simpa using List.find?_some he⟩
  -- As many names on either side, and none of the definition twice: no other name can be declared.
  have hperm : (fs.map (·.name)).Perm (ts.map (·.1)) :=
    (hfs.subperm hsubset).perm_of_length_le (by simp [hlength])
  exact hperm.mem_iff.symm

theorem typedParameters_of_names (hfs : (fs.map (·.name)).Nodup) (hts : (ts.map (·.1)).Nodup)
    (h : ∀ name, name ∈ ts.map (·.1) ↔ name ∈ fs.map (·.name)) :
    ∃ ps, u.typedParameters p (fs.map defOf) sig = .ok ps := by
  have hlength : fs.length = ts.length := by
    simpa using ((List.perm_ext_iff_of_nodup hts hfs).mpr h).length_eq.symm
  have hfound : ∀ f ∈ fs, ∃ e, ts.find? (·.1 == f.name) = some e := by
    intro f hf
    obtain ⟨e, he, hname⟩ := List.mem_map.mp ((h f.name).mpr (List.mem_map_of_mem hf))
    exact Option.isSome_iff_exists.mp (List.find?_isSome.mpr ⟨e, he, by simpa using hname⟩)
  let found (f : Formal) : Parameter := f.typed (((ts.find? (·.1 == f.name)).map (·.2)).getD .untyped)
  refine ⟨fs.map found, (typedParameters_eq_ok_iff hsig).mpr ⟨hlength, ?_⟩⟩
  rw [List.forall₂_map_right_iff, List.forall₂_same]
  intro f hf
  obtain ⟨e, he⟩ := hfound f hf
  exact ⟨e, he, by simp [found, he]⟩

end Typed

section Read

variable {s : NodePath} {d g n : Node} (hsigned : u.Signed p s d g) (hdef : d.isDefinition) (hplace : u.At p n)

include hsigned hdef hplace

theorem Signed.read_method (o : ReadOptions) (eigen : Bool) :
    ∃ comments, (u.read o p eigen).result = do
      let sig ← u.sigInfo o s
      return [← u.method p d (some sig) eigen comments] := by
  obtain ⟨comments, hcomments⟩ := (hsigned.at_sig hplace).1.commentsBefore
  refine ⟨comments, ?_⟩
  rw [hsigned.read, hcomments, Node.not_call_of_isDefinition hdef]
  rfl

theorem Signed.read_safe (hname : (d.child? "name").isSome) (o : ReadOptions) (eigen : Bool) :
    u.Safe (u.read o p eigen).result := by
  obtain ⟨hs, hsig⟩ := hsigned.at_sig hplace
  obtain ⟨comments, hread⟩ := hsigned.read_method hdef hplace o eigen
  rw [hread]
  refine (hs.sigInfo o hsig).bind fun sig _ => ?_
  exact (hplace.method hname (some sig) eigen comments).bind fun x _ => .ok [x]

theorem Signed.read_eq_ok_iff {name : Node} (hname : d.child? "name" = some name) {eigen classLevel : Bool}
    (hlevel : u.methodLevel p d eigen = .ok classLevel) {fs : List Formal} (hfs : d.HasFormals fs) (o : ReadOptions) :
    ∃ comments, ∀ ds, (u.read o p eigen).result = .ok ds ↔
      ∃ sig parameters, u.sigInfo o s = .ok sig ∧ u.typedParameters p (fs.map defOf) sig = .ok parameters ∧
        ds = [.member { name := name.text, comments, body := .method (sig.method parameters classLevel) }] := by
  obtain ⟨comments, hread⟩ := hsigned.read_method hdef hplace o eigen
  refine ⟨comments, fun ds => ?_⟩
  rw [hread, bind_eq_ok_iff]
  refine exists_congr fun sig => ?_
  rw [exists_and_left]
  refine and_congr_right fun _ => ?_
  constructor
  · intro hmethod
    obtain ⟨x, hx, hds⟩ := bind_eq_ok_iff.mp hmethod
    cases hds
    obtain ⟨_, _, _, parameters, hlevel', hname', hdefs, htyped, rfl⟩ := method_eq_ok_iff.mp hx
    cases hlevel.symm.trans hlevel'
    cases hname.symm.trans hname'
    cases (defParameters_of_hasFormals hfs).symm.trans hdefs
    exact ⟨parameters, htyped, rfl⟩
  · rintro ⟨parameters, htyped, rfl⟩
    refine bind_eq_ok_iff.mpr ⟨_, method_eq_ok_iff.mpr ?_, rfl⟩
    exact ⟨classLevel, name, _, parameters, hlevel, hname, defParameters_of_hasFormals hfs, htyped, rfl⟩

end Read

section Matching

variable {s : NodePath} {d g : Node} (hsigned : u.Signed p s d g) {links : List Node.Link}
  (hlinks : g.sigChain? = some links) (hsig : Node.OrderlySig links)

include hsigned hlinks hsig

theorem Signed.sigInfo_parameters_iff {ts : List (String × TypeExpr)} :
    (∃ sig, u.sigInfo o s = .ok sig ∧ sig.parameters.getD [] = ts) ↔
      (∀ l ∈ links, l.isParams → l.arguments ≠ []) ∧ ts = (Node.sigEntries links).map o.entry ∧
        (ts.map (·.1)).Nodup := by
  rw [hsigned.sigInfo, hlinks, Option.elim_some]
  exact sigLinks_parameters_iff hsig rfl

variable {fs : List Formal} (hfs : d.HasFormals fs)

include hfs

theorem Signed.namesMatch_of_typed {sig : SigInfo} {parameters : List Parameter} (hread : u.sigInfo o s = .ok sig)
    (htyped : u.typedParameters p (fs.map defOf) sig = .ok parameters) :
    Node.NamesMatch links fs ∧
      List.Forall₂ (Formal.TypedFrom ((Node.sigEntries links).map o.entry)) fs parameters := by
  obtain ⟨hgiven, hts, hdistinct⟩ := (hsigned.sigInfo_parameters_iff hlinks hsig).mp ⟨sig, hread, rfl⟩
  have hsame := names_of_typedParameters hts hfs.distinct htyped
  obtain ⟨-, hfound⟩ := (typedParameters_eq_ok_iff hts).mp htyped
  rw [hts, o.map_fst_entry] at hdistinct
  rw [o.map_fst_entry] at hsame
  refine ⟨⟨hgiven, hdistinct, hsame⟩, ((List.forall₂_and_left _ _).mpr ⟨hfs.bare, hfound⟩).imp ?_⟩
  rintro f _ ⟨hbare, ⟨name, t⟩, he, rfl⟩
  have hname : name = f.name := by simpa using List.find?_some he
  subst hname
  exact Formal.typedFrom_typed hbare (List.mem_of_find?_eq_some he)

theorem Signed.typed_of_namesMatch (h : Node.NamesMatch links fs) (o : ReadOptions) :
    ∃ sig parameters, u.sigInfo o s = .ok sig ∧ u.typedParameters p (fs.map defOf) sig = .ok parameters := by
  obtain ⟨hgiven, hdistinct, hsame⟩ := h
  rw [← o.map_fst_entry] at hdistinct hsame
  obtain ⟨sig, hread, hts⟩ := (hsigned.sigInfo_parameters_iff hlinks hsig).mpr ⟨hgiven, rfl, hdistinct⟩
  obtain ⟨parameters, htyped⟩ := typedParameters_of_names hts hfs.distinct hdistinct hsame
  exact ⟨sig, parameters, hread, htyped⟩

end Matching

/-- The parameters of a definition and of the sig before it are matched by their names. -/
theorem parameters_matched_by_name {s : NodePath} {d g n : Node} {eigen classLevel : Bool} {fs : List Formal}
    {links : List Node.Link} (hplace : u.At p n) (hsigned : u.Signed p s d g) (hdef : d.isDefinition)
    (hname : (d.child? "name").isSome) (hlevel : u.methodLevel p d eigen = .ok classLevel) (hfs : d.HasFormals fs)
    (hlinks : g.sigChain? = some links) (hsig : Node.OrderlySig links) :
    ((∃ x b, (u.read o p eigen).result = .ok [.member x] ∧ x.body = .method b) ↔ Node.NamesMatch links fs) ∧
      (∀ x b, (u.read o p eigen).result = .ok [.member x] → x.body = .method b →
        List.Forall₂ (Formal.TypedFrom ((Node.sigEntries links).map o.entry)) fs b.parameters) ∧
      (¬ Node.NamesMatch links fs → ∃ what line, (u.read o p eigen).result = .error (.problem what u.file line)) := by
  have hsafe := hsigned.read_safe hdef hplace hname o eigen
  obtain ⟨name, hname⟩ := Option.isSome_iff_exists.mp hname
  obtain ⟨comments, hread⟩ := hsigned.read_eq_ok_iff hdef hplace hname hlevel hfs o
  refine ⟨⟨?_, ?_⟩, ?_, ?_⟩
  · rintro ⟨x, b, hx, -⟩
    obtain ⟨sig, parameters, hinfo, htyped, -⟩ := (hread _).mp hx
    exact (hsigned.namesMatch_of_typed hlinks hsig hfs hinfo htyped).1
  · intro hmatch
    obtain ⟨sig, parameters, hinfo, htyped⟩ := hsigned.typed_of_namesMatch hlinks hsig hfs hmatch o
    exact ⟨_, _, (hread _).mpr ⟨sig, parameters, hinfo, htyped, rfl⟩, rfl⟩
  · intro x b hx hb
    obtain ⟨sig, parameters, hinfo, htyped, hmember⟩ := (hread _).mp hx
    cases hmember
    cases hb
    exact (hsigned.namesMatch_of_typed hlinks hsig hfs hinfo htyped).2
  · intro hunmatched
    cases hresult : (u.read o p eigen).result with
    | ok ds =>
      obtain ⟨sig, parameters, hinfo, htyped, -⟩ := (hread ds).mp hresult
      exact absurd (hsigned.namesMatch_of_typed hlinks hsig hfs hinfo htyped).1 hunmatched
    | error e =>
      rw [hresult] at hsafe
      cases hsafe with
      | problem what h => exact ⟨what, _, rfl⟩

theorem parameters_matched_by_name_reordered :
    let entries : List Expr := [.pair "rest" (.constant "B"), .pair "a" (.constant "A")]
    let fs : List Formal := [⟨.normal, "a", some "1"⟩, ⟨.splat, "rest", none⟩]
    let sig := (Stmt.sig false (.send (.call "params" entries) "void" [])).tree
    let definition := (Stmt.definition false "f" fs).tree
    let u : Source := { root := .made "program" "" [sig, definition], file := "a.rb" }
    ∃ x b, (u.read {} (.child .root 1) false).result = .ok [.member x] ∧ x.body = .method b ∧
      List.Forall₂ (Formal.TypedFrom [("rest", .raw "B"), ("a", .raw "A")]) fs b.parameters := by
  intro entries fs sig definition u
  let links : List Node.Link := [⟨some "params", Expr.trees entries⟩, ⟨some "void", []⟩]
  have hsigned : u.Signed (.child .root 1) (.child .root 0) definition sig := ⟨⟨definition, rfl, rfl, rfl⟩, rfl, rfl⟩
  have hplace : u.At (.child .root (1 : Nat)) definition := .child .root rfl
  have hlinks : sig.sigChain? = some links := by
    change some (Expr.tree (.send (.call "params" entries) "void" [])).chain.2 = _
    rw [Node.chain_of_receiver? rfl rfl, Node.chain_of_no_receiver rfl rfl]
    rfl
  have hsig : Node.OrderlySig links := by
    refine ⟨by decide, by simp [links], ?_⟩
    decide
  have hfs : definition.HasFormals fs := by
    refine ⟨.cons rfl (.cons rfl .nil), ?_, by decide⟩
    intro f hf
    obtain rfl | rfl : f = ⟨.normal, "a", some "1"⟩ ∨ f = ⟨.splat, "rest", none⟩ := by simpa [fs] using hf
    · exact ⟨by decide, by simp, by decide⟩
    · exact ⟨by decide, by simp, by decide⟩
  have hmatch : Node.NamesMatch links fs := by
    have hnames : (Node.sigEntries links).map (·.1) = ["rest", "a"] := rfl
    refine ⟨by simp [links, entries, Expr.trees, Node.Link.isParams], by rw [hnames]; decide, ?_⟩
    rw [hnames]
    simp [fs, or_comm]
  have hlevel : u.methodLevel (.child .root 1) definition false = .ok false := rfl
  obtain ⟨hread, hparameters, -⟩ :=
    parameters_matched_by_name (o := {}) hplace hsigned rfl rfl hlevel hfs hlinks hsig
  obtain ⟨x, b, hx, hb⟩ := hread.mpr hmatch
  exact ⟨x, b, hx, hb, hparameters x b hx hb⟩

end Source

end RubyStubs
