import RubyStubs.Proofs.Interface
import RubyStubs.Proofs.Outcome
import RubyStubs.Proofs.SigAgreement
import Mathlib.Data.List.TakeWhile

namespace RubyStubs

namespace Text

theorem mem_of_startsWith {s w : String} (h : startsWith s w) {c : Char} (hc : c ∈ w.toList) : c ∈ s.toList := by
  obtain ⟨rest, hrest⟩ := List.isPrefixOf_iff_prefix.mp h
  rw [← hrest]
  exact List.mem_append_left rest hc

theorem mem_dropWhile {p : Char → Bool} {cs : List Char} {c : Char} (hc : c ∈ cs) (hp : p c = false) :
    c ∈ cs.dropWhile p := by
  rw [← List.takeWhile_append_dropWhile (p := p) (l := cs)] at hc
  rcases List.mem_append.mp hc with htake | hdrop
  · exact absurd (List.mem_takeWhile_imp htake) (by simp [hp])
  · exact hdrop

theorem mem_trim {s : String} {c : Char} (hc : c ∈ s.toList) (hp : isBlank c = false) : c ∈ (trim s).toList := by
  have hstart : c ∈ (dropStart isBlank s).toList.reverse := by
    simpa [dropStart] using mem_dropWhile hc hp
  simpa [trim, dropEnds, dropEnd] using mem_dropWhile hstart hp

end Text

namespace Node

theorem remark_eq {n : Node} (hfinal : Text.trim n.text ≠ "final!") (habstract : Text.trim n.text ≠ "abstract!")
    (hinterface : Text.trim n.text ≠ "interface!") :
    n.remark = n.mixin?.elim .none fun m => .mixin m.1 m.2 := by
  unfold remark
  split
  · exact absurd ‹_› hfinal
  · exact absurd ‹_› habstract
  · exact absurd ‹_› hinterface
  · cases n.mixin? <;> rfl

theorem mixin?_eq_none {n : Node} (h : n.callName? ≠ some "include" ∧ n.callName? ≠ some "extend") :
    n.mixin? = none := by
  unfold mixin?
  split_ifs
  · split
    · exact absurd ‹_› h.1
    · exact absurd ‹_› h.2
    · rfl
  · rfl

theorem callName?_eq_none {n : Node} (hcall : ¬ n.isCall) (hkind : n.kind ≠ "identifier" ∧ n.kind ≠ "constant") :
    n.callName? = none := by
  simp [callName?, hcall, hkind]

end Node

structure Node.IsCallOf (n : Node) (name : String) (args : List Node) : Prop where
  isCall : n.isCall
  callName? : n.callName? = some name
  receiver? : n.receiver? = none
  arguments : n.arguments = args

theorem Expr.Mirrors.isCallOf {name : String} {args : List Expr} {n : Node} (h : Mirrors (.call name args) n) :
    ∃ ns, n.IsCallOf name ns ∧ List.Forall₂ Mirrors args ns := by
  obtain ⟨hmethod, hreceiver, ns, hns, hargs⟩ := h
  have hr : n.receiver? = none := by rw [Node.receiver?, if_pos hmethod.1, hreceiver]
  exact ⟨ns, ⟨hmethod.1, hmethod.callName?, hr, hns.arguments hmethod.1⟩, mirrorsAll_iff.mp hargs⟩

namespace Stmt

def remark : Stmt → Remark
  | .mark m => m.remark
  | .command (.mixin k target) => .mixin k target
  | _ => .none

variable {n : Node}

def words : List String :=
  ["include", "extend", "attr_reader", "attr_writer", "attr_accessor", "const", "prop", "sig", "def", "class",
    "module", "enums"]

theorem words_tell {w m : String} (hw : w ∈ words) (hm : m ∈ Source.scopeCalls) :
    ∃ c ∈ w.toList, Text.isBlank c = false ∧ c ∉ m.toList := by
  have hall : words.all fun w => Source.scopeCalls.all fun m => w.toList.any fun c =>
      !Text.isBlank c && !m.toList.contains c := by decide
  have hany := List.all_eq_true.mp (List.all_eq_true.mp hall w hw) m hm
  simpa using hany

theorem beginning_tells {s : Stmt} (hmark : ∀ m, s ≠ .mark m) {m : String} (hm : m ∈ Source.scopeCalls) :
    ∃ c ∈ s.beginning.toList, Text.isBlank c = false ∧ c ∉ m.toList := by
  match s with
  | .mark m => exact absurd rfl (hmark m)
  | .constant name _ =>
    have hequals : ∀ m ∈ Source.scopeCalls, '=' ∉ m.toList := by decide
    exact ⟨'=', by simp [beginning], by decide, hequals m hm⟩
  | .command (.field ⟨_, _, _, immutable, _, _⟩) =>
    cases immutable <;> exact words_tell (by simp [words, beginning, BareCall.name]) hm
  | .command (.accessor k _) =>
    cases k <;> exact words_tell (by simp [words, beginning, BareCall.name, AttributeKind.label]) hm
  | .command (.mixin k _) => cases k <;> exact words_tell (by simp [words, beginning, BareCall.name]) hm
  | .sig _ _ | .definition _ _ _ | .block (.ofClass _ _) _ | .block (.ofModule _) _ | .block .singleton _
  | .block .enums _ => exact words_tell (by simp [words, beginning]) hm

theorem Mirrors.startsWith {s : Stmt} (h : s.Mirrors n) (hmark : ∀ m, s ≠ .mark m) :
    Text.startsWith n.text s.beginning := by
  match s, h with
  | .mark m, _ => exact absurd rfl (hmark m)
  | .constant _ _, h => exact h.2.1
  | .command _, h | .sig _ _, h | .definition _ _ _, h | .block _ _, h => exact h.1

theorem Mirrors.trim_ne {s : Stmt} (h : s.Mirrors n) (hmark : ∀ m, s ≠ .mark m) {m : String}
    (hm : m ∈ Source.scopeCalls) : Text.trim n.text ≠ m := by
  rintro rfl
  obtain ⟨c, hc, hblank, hnot⟩ := beginning_tells hmark hm
  exact hnot (Text.mem_trim (Text.mem_of_startsWith (h.startsWith hmark) hc) hblank)

theorem Mirrors.not_isSequence {s : Stmt} (h : s.Mirrors n) : n.isSequence = false := by
  have hother {kind : String} (hkind : n.kind = kind) (hseq : Node.sequenceKinds.contains kind = false) :
      n.isSequence = false := by
    rw [Node.isSequence, hkind, hseq]
  have hcalls (hcall : n.isCall) : n.isSequence = false := by
    have hkind : n.kind = "call" ∨ n.kind = "method_call" ∨ n.kind = "command_call" := by
      simpa [Node.isCall, Node.callKinds] using hcall
    rcases hkind with hk | hk | hk <;> exact hother hk (by decide)
  cases s with
  | mark m =>
    rcases Bool.or_eq_true _ _ |>.mp h.1 with hcall | hkind
    · exact hcalls hcall
    · exact hother (beq_iff_eq.mp hkind) (by decide)
  | command c => exact hcalls h.2.1.1
  | sig isFinal chain => exact hcalls h.2.1.1.1
  | constant name value => exact hother h.1 (by decide)
  | definition onSelf name parameters => cases onSelf <;> exact hother h.2.1 (by decide)
  | block opening body =>
    obtain ⟨-, ns, hopening, -⟩ := h
    cases opening with
    | enums => exact hcalls hopening.1.1.1
    | ofClass name superclass => exact hother hopening.1 (by decide)
    | ofModule name => exact hother hopening.1 (by decide)
    | singleton => exact hother hopening.1 (by decide)

def callName? : Stmt → Option String
  | .mark m => some m.word
  | .command c => some c.name
  | .sig _ _ => some "sig"
  | .block .enums _ => some "enums"
  | _ => none

theorem Mirrors.callName? {s : Stmt} (h : s.Mirrors n) (hmark : ∀ m, s ≠ .mark m) : n.callName? = s.callName? := by
  have hother {kind : String} (hkind : n.kind = kind) (hcall : Node.callKinds.contains kind = false)
      (hname : kind ≠ "identifier" ∧ kind ≠ "constant") : n.callName? = none := by
    refine Node.callName?_eq_none ?_ (by rwa [hkind])
    rw [Node.isCall, hkind, hcall]
    exact Bool.false_ne_true
  cases s with
  | mark m => exact absurd rfl (hmark m)
  | command c => exact h.2.1.callName?
  | sig isFinal chain => exact h.2.1.1.callName?
  | constant name value => exact hother h.1 (by decide) (by decide)
  | definition onSelf name parameters => cases onSelf <;> exact hother h.2.1 (by decide) (by decide)
  | block opening body =>
    obtain ⟨-, ns, hopening, -⟩ := h
    cases opening with
    | enums => exact hopening.1.1.callName?
    | ofClass name superclass => exact hother hopening.1 (by decide) (by decide)
    | ofModule name => exact hother hopening.1 (by decide) (by decide)
    | singleton => exact hother hopening.1 (by decide) (by decide)

theorem Mirrors.mixin? {k : MixinKind} {target : String} (h : Mirrors (.command (.mixin k target)) n) :
    n.mixin? = some (k, target) := by
  obtain ⟨ns, hcall, hns⟩ := h.2.isCallOf
  obtain ⟨a, _, ha, hnil, rfl⟩ := List.forall₂_cons_left_iff.mp hns
  cases List.forall₂_nil_left_iff.mp hnil
  have htext : a.text = target := ha.1
  cases k <;> simp [Node.mixin?, hcall.receiver?, hcall.arguments, hcall.callName?, BareCall.name, htext]

theorem Mirrors.remark {s : Stmt} (h : s.Mirrors n) : n.remark = s.remark := by
  by_cases hmark : ∃ m, s = .mark m
  · obtain ⟨m, rfl⟩ := hmark
    rw [Node.remark, h.2]
    cases m <;> rfl
  · have hmark : ∀ m, s ≠ .mark m := fun m hm => hmark ⟨m, hm⟩
    rw [Node.remark_eq (h.trim_ne hmark (by decide)) (h.trim_ne hmark (by decide)) (h.trim_ne hmark (by decide))]
    have hname := h.callName? hmark
    match s, h with
    | .mark m, _ => exact absurd rfl (hmark m)
    | .command (.mixin k target), h =>
      rw [h.mixin?]
      rfl
    | .command (.accessor k _), _ =>
      have hother : n.callName? ≠ some "include" ∧ n.callName? ≠ some "extend" := by
        rw [hname]
        cases k <;> simp [Stmt.callName?, BareCall.name, AttributeKind.label]
      rw [Node.mixin?_eq_none hother]
      rfl
    | .command (.field ⟨_, _, _, immutable, _, _⟩), _ =>
      rw [Node.mixin?_eq_none (by rw [hname]; cases immutable <;> simp [Stmt.callName?, BareCall.name])]
      rfl
    | .constant _ _, _ | .sig _ _, _ | .definition _ _ _, _ | .block (.ofClass _ _) _, _
    | .block (.ofModule _) _, _ | .block .singleton _, _ | .block .enums _, _ =>
      rw [Node.mixin?_eq_none (by rw [hname]; simp [Stmt.callName?])]
      rfl

end Stmt

namespace Expr

def MirrorsLink (c : Call) (l : Node.Link) : Prop := l.name = some c.1 ∧ List.Forall₂ Mirrors c.2 l.arguments

theorem chain_firstCall {c : Call} {n : Node} (h : Mirrors (firstCall c) n) :
    ∃ l, n.chain = (none, [l]) ∧ MirrorsLink c l := by
  unfold firstCall at h
  split_ifs at h with hempty
  · refine ⟨_, h.chain_word, rfl, ?_⟩
    rw [List.isEmpty_iff.mp hempty]
    exact .nil
  · obtain ⟨ns, hchain, hns⟩ := h.chain_call
    exact ⟨_, hchain, rfl, mirrorsAll_iff.mp hns⟩

theorem chain_chained {c : Call} {cs : List Call} {n : Node} (h : Mirrors (chained (c :: cs)) n) :
    ∃ ls, n.chain = (none, ls) ∧ List.Forall₂ MirrorsLink (c :: cs) ls := by
  -- The chain is unwound from its last call, so the calls before it are carried along.
  have hfold (cs before : List Call) (e : Expr)
      (he : ∀ n, Mirrors e n → ∃ ls, n.chain = (none, ls) ∧ List.Forall₂ MirrorsLink before ls) (n : Node)
      (h : Mirrors (cs.foldl (fun e d => .send e d.1 d.2) e) n) :
      ∃ ls, n.chain = (none, ls) ∧ List.Forall₂ MirrorsLink (before ++ cs) ls := by
    induction cs generalizing before e with
    | nil => simpa using he n h
    | cons c cs ih =>
      rw [List.append_cons]
      refine ih (before ++ [c]) (.send e c.1 c.2) (fun m hm => ?_) h
      obtain ⟨r, ns, hr, hchain, hns⟩ := hm.chain_send
      obtain ⟨ls, hls, hbefore⟩ := he r hr
      rw [hchain, hls]
      exact ⟨_, rfl, List.rel_append hbefore (.cons ⟨rfl, mirrorsAll_iff.mp hns⟩ .nil)⟩
  refine hfold cs [c] (firstCall c) (fun m hm => ?_) n h
  obtain ⟨l, hl, hlink⟩ := chain_firstCall hm
  exact ⟨[l], hl, .cons hlink .nil⟩

end Expr

theorem forall₂_append_left {α β : Type} {R : α → β → Prop} {xs xs' : List α} {ys : List β}
    (h : List.Forall₂ R (xs ++ xs') ys) :
    ∃ zs zs', ys = zs ++ zs' ∧ List.Forall₂ R xs zs ∧ List.Forall₂ R xs' zs' := by
  induction xs generalizing ys with
  | nil => exact ⟨[], ys, rfl, .nil, h⟩
  | cons x xs ih =>
    obtain ⟨y, ys, hxy, hys, rfl⟩ := List.forall₂_cons_left_iff.mp h
    obtain ⟨zs, zs', rfl, hzs, hzs'⟩ := ih hys
    exact ⟨y :: zs, zs', rfl, .cons hxy hzs, hzs'⟩

theorem exists_of_forall₂ {α β : Type} {R : α → β → Prop} {xs : List α} {ys : List β} (h : List.Forall₂ R xs ys)
    {y : β} (hy : y ∈ ys) : ∃ x ∈ xs, R x y := by
  induction h with
  | nil => cases hy
  | cons hxy _ ih =>
    rcases List.mem_cons.mp hy with rfl | hy
    · exact ⟨_, List.mem_cons_self, hxy⟩
    · obtain ⟨x, hx, hxy⟩ := ih hy
      exact ⟨x, List.mem_cons_of_mem _ hx, hxy⟩

namespace Source

variable {u : Source} {o : ReadOptions} {p : NodePath}

theorem sigLinks_append {info info' : SigInfo} {ls : List Node.Link} (h : u.sigLinks o p info ls = .ok info')
    (ks : List Node.Link) : u.sigLinks o p info (ls ++ ks) = u.sigLinks o p info' ks := by
  induction ls generalizing info with
  | nil =>
    cases h
    rfl
  | cons l ls ih =>
    obtain ⟨next, hnext, hrest⟩ := bind_eq_ok_iff.mp h
    rw [List.cons_append, sigLinks, hnext]
    exact ih hrest

theorem sigLinks_flag {flag : Bool} {name : String} (set : Bool → SigInfo → SigInfo)
    (htrue : ∀ info, u.sigLink o p info ⟨some name, []⟩ = .ok (set true info)) {ls : List Node.Link}
    (h : List.Forall₂ Expr.MirrorsLink (if flag then [(name, [])] else []) ls) {info : SigInfo}
    (hfalse : set false info = info) : u.sigLinks o p info ls = .ok (set flag info) := by
  cases flag with
  | false =>
    cases List.forall₂_nil_left_iff.mp h
    rw [hfalse]
    rfl
  | true =>
    obtain ⟨⟨_, args⟩, _, ⟨rfl, hargs⟩, hnil, rfl⟩ := List.forall₂_cons_left_iff.mp h
    cases List.forall₂_nil_left_iff.mp hnil
    cases List.forall₂_nil_left_iff.mp hargs
    simp only [sigLinks, htrue]
    rfl

theorem map_typeParameterName {names : List String} (hnames : ∀ t ∈ names, Text.isLabel t ∧ ¬ t.isEmpty)
    {args : List Node} (h : List.Forall₂ Expr.Mirrors (names.map .symbol) args) :
    args.map typeParameterName = names := by
  rw [List.forall₂_map_left_iff] at h
  induction h with
  | nil => rfl
  | @cons t a ts as ha _ ih =>
    obtain ⟨hlabel, hne⟩ := hnames t List.mem_cons_self
    have hname : a.symbolName? = some t :=
      Node.symbolName?_of_isLabel hlabel (by simp [ha.1, Node.symbolKinds]) (.inr ha.2)
    rw [List.map_cons, typeParameterName, hname, ih fun t' ht' => hnames t' (List.mem_cons_of_mem t ht')]
    simp [hne]

theorem sigLinks_typeParameters {names : List String} (hnames : ∀ t ∈ names, Text.isLabel t ∧ ¬ t.isEmpty)
    {ls : List Node.Link}
    (h : List.Forall₂ Expr.MirrorsLink (if names.isEmpty then [] else [("type_parameters", names.map .symbol)]) ls)
    {info : SigInfo} (hinfo : info.typeParameters = []) :
    u.sigLinks o p info ls = .ok { info with typeParameters := names } := by
  split_ifs at h with hempty
  · cases List.forall₂_nil_left_iff.mp h
    rw [List.isEmpty_iff.mp hempty, ← hinfo]
    rfl
  · obtain ⟨⟨_, args⟩, _, ⟨rfl, hargs⟩, hnil, rfl⟩ := List.forall₂_cons_left_iff.mp h
    cases List.forall₂_nil_left_iff.mp hnil
    simp only [sigLinks, sigLink, map_typeParameterName hnames hargs]
    rfl

theorem type_eq_raw (ho : o.structured = false) (n : Node) : o.type n = .raw n.text := by
  rw [ReadOptions.type, ho, if_neg Bool.false_ne_true]

end Source

def ReadOptions.entry (o : ReadOptions) (e : String × Node) : String × TypeExpr := (e.1, o.type e.2)

theorem Parameter.of_isDeclared {p : Parameter} (h : p.isDeclared) :
    Text.isLabel p.bareName ∧ p.name = p.formal.markedName ∧
      ∃ t, p = { name := p.name, type := some (.raw t), default := p.default } := by
  simp only [isDeclared, Bool.and_eq_true, beq_iff_eq, Option.any_eq_true, and_assoc] at h
  obtain ⟨hlabel, hname, hkind, hrequired, t, htype, hraw⟩ := h
  obtain ⟨name, type, default, kind, required⟩ := p
  cases t with
  | raw t =>
    simp only at hkind hrequired htype
    subst hkind hrequired htype
    exact ⟨hlabel, hname, t, rfl⟩
  | _ => cases hraw

namespace Source

variable {u : Source} {o : ReadOptions} {p : NodePath}

theorem sigPairs_eq_ok_iff {as : List Node} (has : ∀ a ∈ as, a.pair?.isSome) {seen ts : List (String × TypeExpr)}
    (hseen : (seen.map (·.1)).Nodup) :
    u.sigPairs o p seen as = .ok ts ↔
      ts = seen ++ (as.filterMap Node.pair?).map o.entry ∧ (ts.map (·.1)).Nodup := by
  induction as generalizing seen with
  | nil =>
    rw [sigPairs, Except.ok.injEq, List.filterMap_nil, List.map_nil, List.append_nil]
    constructor
    · rintro rfl
      exact ⟨rfl, hseen⟩
    · exact fun h => h.1.symm
  | cons a as ih =>
    rw [List.forall_mem_cons] at has
    obtain ⟨⟨name, value⟩, ha⟩ := Option.isSome_iff_exists.mp has.1
    rw [sigPairs, ha, List.filterMap_cons_some ha, List.map_cons]
    by_cases hold : seen.any (·.1 == name)
    · have hmem : name ∈ seen.map (·.1) := by simpa using hold
      simp only [hold, ↓reduceIte]
      refine iff_of_false (fail_ne_ok _ p ts) ?_
      rintro ⟨rfl, hnodup⟩
      rw [List.map_append, List.nodup_append] at hnodup
      exact hnodup.2.2 name hmem name (by simp [ReadOptions.entry]) rfl
    · have hnew : ((seen ++ [(name, o.type value)]).map (·.1)).Nodup := by
        have hmem : name ∉ seen.map (·.1) := by simpa using hold
        rw [List.map_append, List.nodup_append]
        refine ⟨hseen, by simp, ?_⟩
        rintro a ha b hb rfl
        cases List.mem_singleton.mp hb
        exact hmem ha
      simp only [hold, Bool.false_eq_true, ↓reduceIte]
      rw [ih has.2 hnew, List.append_assoc]
      rfl

def declaredTypes (ps : List Parameter) : List (String × TypeExpr) :=
  ps.map fun q => (q.bareName, q.type.getD .untyped)

theorem sigPairs_eq_ok (ho : o.structured = false) {ps : List Parameter} (hps : ∀ q ∈ ps, q.isDeclared)
    {args : List Node} (h : List.Forall₂ Expr.Mirrors (ps.map Parameter.pair) args)
    (seen : List (String × TypeExpr)) (hnodup : (seen.map (·.1) ++ ps.map Parameter.bareName).Nodup) :
    u.sigPairs o p seen args = .ok (seen ++ declaredTypes ps) := by
  rw [List.forall₂_map_left_iff] at h
  have hpairs : (∀ a ∈ args, a.pair?.isSome) ∧ (args.filterMap Node.pair?).map o.entry = declaredTypes ps := by
    clear hnodup
    induction h with
    | nil => exact ⟨nofun, rfl⟩
    | @cons q a qs as ha _ ih =>
      rw [List.forall_mem_cons] at hps
      obtain ⟨hlabel, -, t, ht⟩ := q.of_isDeclared hps.1
      obtain ⟨v, hv, hvalue⟩ := ha.pair? hlabel
      have htype : o.type v = q.type.getD .untyped := by
        rw [type_eq_raw ho, hvalue.1, ht]
        rfl
      obtain ⟨has, hrest⟩ := ih hps.2
      refine ⟨List.forall_mem_cons.mpr ⟨by rw [hv]; rfl, has⟩, ?_⟩
      rw [List.filterMap_cons_some hv, List.map_cons, hrest, ReadOptions.entry, htype]
      rfl
  have hnames : (declaredTypes ps).map (·.1) = ps.map Parameter.bareName := by simp [declaredTypes]
  rw [sigPairs_eq_ok_iff hpairs.1 (List.nodup_append.mp hnodup).1, hpairs.2, List.map_append, hnames]
  exact ⟨rfl, hnodup⟩

theorem sigParameters_of_pairs {ps : List Parameter} {args : List Node} (hne : ps ≠ [])
    (h : List.Forall₂ Expr.Mirrors (ps.map Parameter.pair) args) :
    u.sigParameters o p args = u.sigPairs o p [] args := by
  rw [List.forall₂_map_left_iff] at h
  rcases h with _ | ⟨hfirst, _ | _⟩
  · exact absurd rfl hne
  · simp [sigParameters, hfirst.1]
  · simp [sigParameters]

theorem sigLinks_params (ho : o.structured = false) {m : Method} (hps : ∀ q ∈ m.parameters, q.isDeclared)
    (hnodup : (m.parameters.map Parameter.bareName).Nodup) {ls : List Node.Link}
    (h : List.Forall₂ Expr.MirrorsLink m.paramsCall ls) {info : SigInfo} (hinfo : info.parameters = none) :
    u.sigLinks o p info ls =
      .ok { info with parameters := if m.parameters.isEmpty then none else some (declaredTypes m.parameters) } := by
  unfold Method.paramsCall at h
  split_ifs at h with hempty
  · cases List.forall₂_nil_left_iff.mp h
    rw [if_pos hempty, ← hinfo]
    rfl
  · obtain ⟨⟨_, args⟩, _, ⟨rfl, hargs⟩, hnil, rfl⟩ := List.forall₂_cons_left_iff.mp h
    cases List.forall₂_nil_left_iff.mp hnil
    have hpairs : u.sigPairs o p [] args = .ok (declaredTypes m.parameters) := by
      simpa using sigPairs_eq_ok (u := u) (p := p) ho hps hargs [] (by simpa using hnodup)
    have hparameters : u.sigParameters o p args = .ok (declaredTypes m.parameters) :=
      (sigParameters_of_pairs (by simpa using hempty) hargs).trans hpairs
    rw [if_neg hempty]
    simp only [sigLinks, sigLink, hparameters]
    rfl

theorem sigLinks_result (ho : o.structured = false) {m : Method} (hresult : m.result.all TypeExpr.isRaw)
    {ls : List Node.Link} (h : List.Forall₂ Expr.MirrorsLink [m.resultCall] ls) {info : SigInfo}
    (hnone : info.result = none) (hvoid : info.isVoid = false) :
    u.sigLinks o p info ls = .ok { info with result := m.result, isVoid := m.result.isNone } := by
  obtain ⟨⟨name, args⟩, _, ⟨hname, hargs⟩, hnil, rfl⟩ := List.forall₂_cons_left_iff.mp h
  cases List.forall₂_nil_left_iff.mp hnil
  cases hm : m.result with
  | none =>
    simp only [Method.resultCall, hm, Option.elim_none] at hname
    subst hname
    simp only [sigLinks, sigLink, Option.isNone_none]
    rw [← hnone]
    rfl
  | some t =>
    simp only [Method.resultCall, hm, Option.elim_some] at hname hargs
    subst hname
    obtain ⟨a, _, ha, hnil, rfl⟩ := List.forall₂_cons_left_iff.mp hargs
    cases List.forall₂_nil_left_iff.mp hnil
    rw [hm] at hresult
    have htype : o.type a = t := by
      rw [type_eq_raw ho, ha.1]
      cases t with
      | raw _ => rfl
      | _ => cases hresult
    simp only [sigLinks, sigLink, htype, Option.isNone_some, ← hvoid]
    rfl

def sigOf (m : Method) : SigInfo where
  isAbstract := m.isAbstract
  isImplementation := m.isImplementation
  isOverride := m.isOverride
  isOverridable := m.isOverridable
  isFinal := m.isFinal
  result := m.result
  isVoid := m.result.isNone
  parameters := if m.parameters.isEmpty then none else some (declaredTypes m.parameters)
  typeParameters := m.typeParameters

theorem sigLinks_eq_ok (ho : o.structured = false) {m : Method} (hm : m.isDeclared) {ls : List Node.Link}
    (h : List.Forall₂ Expr.MirrorsLink (m.qualifierCalls ++ m.paramsCall ++ [m.resultCall]) ls) :
    u.sigLinks o p { isFinal := m.isFinal } ls = .ok (sigOf m) := by
  simp only [Method.isDeclared, Bool.and_eq_true, List.all_eq_true, decide_eq_true_eq] at hm
  obtain ⟨⟨⟨⟨hps, hnodup⟩, hresult⟩, hnames⟩, -⟩ := hm
  have hnames : ∀ t ∈ m.typeParameters, Text.isLabel t ∧ ¬ t.isEmpty := by simpa using hnames
  unfold Method.qualifierCalls at h
  obtain ⟨ls, ls₇, rfl, h, h₇⟩ := forall₂_append_left h
  obtain ⟨ls, ls₆, rfl, h, h₆⟩ := forall₂_append_left h
  obtain ⟨ls, ls₅, rfl, h, h₅⟩ := forall₂_append_left h
  obtain ⟨ls, ls₄, rfl, h, h₄⟩ := forall₂_append_left h
  obtain ⟨ls, ls₃, rfl, h, h₃⟩ := forall₂_append_left h
  obtain ⟨ls₁, ls₂, rfl, h₁, h₂⟩ := forall₂_append_left h
  simp only [List.append_assoc]
  rw [sigLinks_append (sigLinks_flag (fun b i => { i with isAbstract := b }) (fun _ => rfl) h₁ rfl),
    sigLinks_append (sigLinks_flag (fun b i => { i with isImplementation := b }) (fun _ => rfl) h₂ rfl),
    sigLinks_append (sigLinks_flag (fun b i => { i with isOverride := b }) (fun _ => rfl) h₃ rfl),
    sigLinks_append (sigLinks_flag (fun b i => { i with isOverridable := b }) (fun _ => rfl) h₄ rfl),
    sigLinks_append (sigLinks_typeParameters hnames h₅ rfl),
    sigLinks_append (sigLinks_params ho hps hnodup h₆ rfl), sigLinks_result ho hresult h₇ rfl rfl]
  rfl

end Source

theorem flatMap_filter {α β : Type} {f : α → List β} {p : α → Bool} (h : ∀ x, p x = false → f x = [])
    (xs : List α) :
    (xs.filter p).flatMap f = xs.flatMap f := by
  induction xs with
  | nil => rfl
  | cons x xs ih =>
    cases hp : p x with
    | true => rw [List.filter_cons_of_pos hp, List.flatMap_cons, List.flatMap_cons, ih]
    | false => rw [List.filter_cons_of_neg (by simp [hp]), List.flatMap_cons, h x hp, ih, List.nil_append]

theorem Node.HasBlock.blockStatements {n : Node} {ns : List Node} (hcall : n.isCall) (h : n.HasBlock ns) :
    ∃ b, n.block? = some b ∧ b.blockStatements = ns := by
  obtain ⟨b, hb, hbody⟩ := h
  refine ⟨b, by rw [Node.block?, if_pos hcall, hb, Option.some_or], ?_⟩
  rw [Node.blockStatements, ← flatMap_filter (p := fun c => !c.isComment) (by simp +contextual)]
  rcases hbody with ⟨hnone, rfl⟩ | ⟨body, hone, hseq, -, rfl⟩
  · rw [hnone, List.flatMap_nil]
  · have hmem : body ∈ b.children.filter (!·.isComment) := hone ▸ List.mem_cons_self
    have hcomment : body.isComment = false := by simpa using (List.mem_filter.mp hmem).2
    have hkind : body.kind ≠ "block_parameters" := by
      intro hk
      simp [Node.isSequence, Node.sequenceKinds, hk] at hseq
    rw [hone]
    simp [hkind, hcomment, hseq]

namespace Source

variable {u : Source} {o : ReadOptions} {p : NodePath} {n : Node}

theorem isSig_of_mirrors {isFinal : Bool} {chain : Expr} (h : Stmt.Mirrors (.sig isFinal chain) n) : n.isSig := by
  obtain ⟨-, hcall, s, hblock, -⟩ := h
  obtain ⟨ns, hn, -⟩ := hcall.isCallOf
  obtain ⟨b, hb, -⟩ := hblock.blockStatements hn.isCall
  simp [Node.isSig, hn.isCall, hn.callName?, hn.receiver?, hb]

theorem sigInfo_of_mirrors {m : Method} (hn : u.node p = .ok n) (h : m.sigStmt.Mirrors n) :
    ∃ ls, List.Forall₂ Expr.MirrorsLink (m.qualifierCalls ++ m.paramsCall ++ [m.resultCall]) ls ∧
      u.sigInfo o p = u.sigLinks o p { isFinal := m.isFinal } ls := by
  obtain ⟨-, hcall, s, hblock, hchain⟩ := h
  obtain ⟨ns, hcallOf, hargs⟩ := hcall.isCallOf
  obtain ⟨b, hb, hstatements⟩ := hblock.blockStatements hcallOf.isCall
  have hfinal : n.arguments.any (·.symbolName? == some "final") = m.isFinal := by
    rw [hcallOf.arguments]
    cases hf : m.isFinal with
    | false =>
      rw [hf] at hargs
      cases List.forall₂_nil_left_iff.mp hargs
      rfl
    | true =>
      rw [hf] at hargs
      obtain ⟨a, _, ha, hnil, rfl⟩ := List.forall₂_cons_left_iff.mp hargs
      cases List.forall₂_nil_left_iff.mp hnil
      have hname : a.symbolName? = some "final" :=
        Node.symbolName?_of_isLabel (by decide) (by simp [ha.1, Node.symbolKinds]) (.inr ha.2)
      simp [hname]
  obtain ⟨c, cs, hcs⟩ := List.exists_cons_of_ne_nil
    (show m.qualifierCalls ++ m.paramsCall ++ [m.resultCall] ≠ [] by simp)
  obtain ⟨ls, hls, hlinks⟩ := Expr.chain_chained (hcs ▸ hchain)
  refine ⟨ls, hcs ▸ hlinks, ?_⟩
  rcases sigInfo_of_block u o hn hb with ⟨s', hs', hread⟩ | ⟨hmany, -⟩
  · cases hstatements.symm.trans hs'
    rw [hread, hfinal, hls]
  · exact absurd hstatements (hmany s)

theorem sigInfo_eq_ok (ho : o.structured = false) {m : Method} (hm : m.isDeclared) (hn : u.node p = .ok n)
    (h : m.sigStmt.Mirrors n) : u.sigInfo o p = .ok (sigOf m) := by
  obtain ⟨ls, hls, hread⟩ := sigInfo_of_mirrors (o := o) hn h
  rw [hread]
  exact sigLinks_eq_ok ho hm hls

theorem mapM_eq_ok {α β : Type} {f : β → Except SourceError α} {xs : List α} {ys : List β}
    (h : List.Forall₂ (fun x y => f y = .ok x) xs ys) : ys.mapM f = .ok xs :=
  mapM_eq_ok_iff.mpr h.flip

def defOf (f : Formal) : DefParameter := ⟨f.markedName, f.name, f.default⟩

theorem defParameter_eq_ok {f : Formal} (h : f.Mirrors n) : u.defParameter p n = .ok (defOf f) := by
  obtain ⟨hkind, hname, hvalue⟩ := h
  obtain ⟨kind, name, default⟩ := f
  have hnamed {k : String} (hk : n.kind = k) (hne : k ≠ "identifier") : n.HasText "name" name := by
    rwa [hk, if_neg hne] at hname
  cases kind with
  | normal =>
    cases default with
    | none =>
      have hk : n.kind = "identifier" := hkind
      rw [if_pos hk] at hname
      simp [defParameter, Node.parameterMarks?, hk, hname, hvalue, defOf, Formal.markedName, Formal.marks]
    | some d =>
      have hk : n.kind = "optional_parameter" := hkind
      obtain ⟨m, hm, rfl⟩ := hnamed hk (by decide)
      simp [defParameter, Node.parameterMarks?, hk, hm, hvalue, defOf, Formal.markedName, Formal.marks]
  | splat | doubleSplat | block | keyword =>
    obtain ⟨m, hm, rfl⟩ := hnamed hkind (by simp [Formal.nodeKind])
    simp [defParameter, Node.parameterMarks?, hkind, hm, hvalue, defOf, Formal.markedName, Formal.marks,
      Formal.nodeKind]

theorem find?_declaredTypes {ps : List Parameter} (hnodup : (ps.map Parameter.bareName).Nodup) {q : Parameter}
    (hq : q ∈ ps) :
    (declaredTypes ps).find? (·.1 == q.bareName) = some (q.bareName, q.type.getD .untyped) := by
  induction ps with
  | nil => cases hq
  | cons r rs ih =>
    rw [List.map_cons, List.nodup_cons] at hnodup
    rw [declaredTypes, List.map_cons, List.find?_cons]
    rcases List.mem_cons.mp hq with rfl | hq
    · simp
    · have hne : (r.bareName == q.bareName) = false := by
        rw [beq_eq_false_iff_ne]
        intro heq
        exact hnodup.1 (heq ▸ List.mem_map_of_mem hq)
      simp only [hne]
      exact ih hnodup.2 hq

theorem typedParameters_eq_ok {m : Method} (hps : ∀ q ∈ m.parameters, q.isDeclared)
    (hnodup : (m.parameters.map Parameter.bareName).Nodup) :
    u.typedParameters p (m.parameters.map fun q => defOf q.formal) (sigOf m) = .ok m.parameters := by
  have hdeclared : (sigOf m).parameters.getD [] = declaredTypes m.parameters := by
    cases hm : m.parameters <;> simp [sigOf, hm, declaredTypes]
  unfold typedParameters
  simp only [hdeclared]
  rw [if_neg (by simp [declaredTypes])]
  refine mapM_eq_ok ?_
  rw [List.forall₂_map_right_iff, List.forall₂_same]
  intro q hq
  obtain ⟨-, hname, t, ht⟩ := q.of_isDeclared (hps q hq)
  have hfind := find?_declaredTypes hnodup hq
  simp only [defOf, Parameter.formal] at hname ⊢
  rw [hfind, ← hname, ht]
  rfl

theorem method_eq_ok {m : Method} (hm : m.isDeclared) {name : String}
    (h : Stmt.Mirrors (.definition m.classLevel name (m.parameters.map Parameter.formal)) n)
    (comments : List String) :
    u.method p n (some (sigOf m)) false comments = .ok (.member { name, comments, body := .method m }) := by
  obtain ⟨-, hkind, hself, ⟨nameNode, hname, rfl⟩, hparameters⟩ := h
  have hlevel : u.methodLevel p n false = .ok m.classLevel := by
    cases hclass : m.classLevel with
    | false =>
      rw [hclass] at hkind
      simp [methodLevel, hkind]
    | true =>
      rw [hclass] at hkind hself
      obtain ⟨object, hobject, htext⟩ := hself rfl
      simp [methodLevel, hkind, hobject, htext]
  have hdefs : u.defParameters p n = .ok (m.parameters.map fun q => defOf q.formal) := by
    unfold defParameters
    split_ifs at hparameters with hnil
    · rw [hparameters, List.map_eq_nil_iff.mp hnil]
      rfl
    · obtain ⟨l, hl, hmirrors⟩ := hparameters
      rw [List.forall₂_map_left_iff] at hmirrors
      rw [hl]
      refine mapM_eq_ok (List.forall₂_map_left_iff.mpr ?_)
      exact hmirrors.imp fun q c hc => defParameter_eq_ok hc
  simp only [Method.isDeclared, Bool.and_eq_true, List.all_eq_true, decide_eq_true_eq] at hm
  obtain ⟨⟨⟨⟨hps, hnodup⟩, -⟩, -⟩, hsignatures⟩ := hm
  have htyped := typedParameters_eq_ok (u := u) (p := p) hps hnodup
  have hresult : (if (sigOf m).isVoid then none else (sigOf m).result) = m.result := by
    cases hr : m.result <;> simp [sigOf, hr]
  simp only [method, hlevel, hname, hdefs, htyped, hresult, bind, Except.bind]
  obtain ⟨parameters, result, _, _, _, _, _, classLevel, typeParameters, signatures⟩ := m
  cases List.isEmpty_iff.mp hsignatures
  rfl

theorem attributes_eq_ok {k : AttributeKind} {b : Method} {name : String} {t : TypeExpr} (hname : Text.isLabel name)
    (hresult : b.result = some t) (hb : b = k.complete name { result := b.result, classLevel := b.classLevel })
    (h : Stmt.Mirrors (.command (.accessor k name)) n) (comments : List String) :
    u.attributes p n (some (sigOf b)) b.classLevel comments =
      .ok [.member { name, comments, body := .attribute k b }] := by
  obtain ⟨ns, hcall, hargs⟩ := h.2.isCallOf
  obtain ⟨a, _, ha, hnil, rfl⟩ := List.forall₂_cons_left_iff.mp hargs
  cases List.forall₂_nil_left_iff.mp hnil
  have hsymbol : a.symbolName? = some name :=
    Node.symbolName?_of_isLabel hname (by simp [ha.1, Node.symbolKinds]) (.inr ha.2)
  have hkind : n.attributeKind? = some k := by
    rw [Node.attributeKind?, hcall.callName?]
    cases k <;> rfl
  have htype : attributeType (some (sigOf b)) = t := by simp [attributeType, sigOf, hresult]
  rw [attributes, hkind]
  simp only [hcall.arguments, List.mapM_cons, List.mapM_nil, hsymbol, htype]
  rw [hresult] at hb
  rw [← hb]
  rfl

theorem enumerator_eq_ok {e : String × Option String} (h : (Scope.enumeratorStmt e).Mirrors n) :
    u.enumerator p n = .ok e := by
  obtain ⟨name, literal⟩ := e
  obtain ⟨hkind, -, ⟨l, hl, hconstant, rfl⟩, r, hr, hvalue⟩ := h
  cases literal with
  | none =>
    obtain ⟨hk, ht⟩ := hvalue
    have hname : r.callName? = some "new" := by simp [Node.callName?, hk, ht]
    have harguments : r.arguments = [] := by simp [Node.arguments, Node.isCall, Node.callKinds, hk]
    simp [enumerator, hl, hr, hkind, hconstant, hname, harguments]
  | some literal =>
    obtain ⟨ns, hcall, hargs⟩ := hvalue.isCallOf
    obtain ⟨a, _, ha, hnil, rfl⟩ := List.forall₂_cons_left_iff.mp hargs
    cases List.forall₂_nil_left_iff.mp hnil
    have htext : a.text = literal := ha.1
    simp [enumerator, hl, hr, hkind, hconstant, hcall.callName?, hcall.arguments, htext]

theorem enumBlock_eq_ok {es : List (String × Option String)}
    (h : Stmt.Mirrors (.block .enums (es.map Scope.enumeratorStmt)) n) :
    n.isEnumBlock ∧ u.enumBlock (p, n) = .ok es := by
  obtain ⟨-, ns, ⟨hcall, hblock⟩, hbody⟩ := h
  obtain ⟨_, hcallOf, -⟩ := hcall.isCallOf
  obtain ⟨b, hb, hstatements⟩ := hblock.blockStatements hcallOf.isCall
  have hbody := List.forall₂_map_left_iff.mp (Stmt.mirrorsAll_iff.mp hbody)
  refine ⟨by simp [Node.isEnumBlock, hcallOf.callName?, hb], ?_⟩
  rw [enumBlock, hb]
  simp only [hstatements]
  exact mapM_eq_ok (hbody.imp fun e c hc => enumerator_eq_ok hc)

theorem fieldOptions_eq {options : List (String × String)} (hoptions : ∀ e ∈ options, Text.isLabel e.1)
    {args : List Node} (h : List.Forall₂ Expr.Mirrors (options.map fun e => .pair e.1 (.fragment e.2)) args) :
    fieldOptions args = options.reverse := by
  rw [List.forall₂_map_left_iff] at h
  rw [fieldOptions]
  refine congrArg List.reverse ?_
  induction h with
  | nil => rfl
  | @cons e a es as ha _ ih =>
    obtain ⟨v, hv, hvalue⟩ := ha.pair? (hoptions e List.mem_cons_self)
    have htext : v.text = e.2 := hvalue.1
    rw [List.flatMap_cons, ih fun e' he' => hoptions e' (List.mem_cons_of_mem e he')]
    simp [ha.1, hv, htext]

theorem options_spec (f : StructField) :
    (∀ e ∈ BareCall.options f, Text.isLabel e.1) ∧
      option? (BareCall.options f).reverse "optional" = (if f.optional then some "true" else none) ∧
      option? (BareCall.options f).reverse "default" = f.default ∧
      option? (BareCall.options f).reverse "factory" = f.factory := by
  have hlabels : Text.isLabel "optional" ∧ Text.isLabel "default" ∧ Text.isLabel "factory" := by decide
  obtain ⟨name, type, optional, immutable, default, factory⟩ := f
  cases optional <;> cases default <;> cases factory <;> simp [BareCall.options, option?, hlabels]

theorem structField_eq_ok (ho : o.structured = false) {f : StructField} (hname : Text.isLabel f.name)
    (hraw : f.type.isRaw) (h : Stmt.Mirrors (.command (.field f)) n) :
    n.isFieldCall ∧ u.structField o (p, n) = .ok f := by
  obtain ⟨ns, hcall, hargs⟩ := h.2.isCallOf
  obtain ⟨a, _, ha, htail, rfl⟩ := List.forall₂_cons_left_iff.mp hargs
  obtain ⟨t, rest, ht, hrest, rfl⟩ := List.forall₂_cons_left_iff.mp htail
  have hsymbol : a.symbolName? = some f.name :=
    Node.symbolName?_of_isLabel hname (by simp [ha.1, Node.symbolKinds]) (.inr ha.2)
  have htype : o.type t = f.type := by
    rw [type_eq_raw ho, ht.1]
    cases hf : f.type with
    | raw _ => rfl
    | _ => rw [hf] at hraw; cases hraw
  obtain ⟨hlabels, hoptional, hdefault, hfactory⟩ := options_spec f
  have hoptions : fieldOptions rest = (BareCall.options f).reverse := fieldOptions_eq hlabels hrest
  constructor
  · simp only [Node.isFieldCall, hcall.isCall, hcall.callName?, hcall.receiver?, BareCall.name]
    cases f.immutable <;> simp
  · simp only [structField, hcall.arguments, hcall.callName?, hsymbol, hoptions, htype, hoptional, hdefault,
      hfactory]
    obtain ⟨name, type, optional, immutable, default, factory⟩ := f
    cases optional <;> cases immutable <;> rfl

end Source

end RubyStubs
