import RubyStubs.Decl.Build
import RubyStubs.Proofs.Settled
import RubyStubs.Proofs.StatementMembers
import RubyStubs.Stub.Convert

namespace RubyStubs

open Decl

def Scope.mixins (s : Scope) : MixinKind → List String
  | .extended => s.extended
  | .included => s.included

namespace Decl

def mixins (kind : MixinKind) : Decl → List String
  | .scope s _ => s.mixins kind
  | .member _ => []

inductive Tidy : Decl → Prop
  | member (m : Member) : Tidy (.member m)
  | scope {s : Scope} {ds : List Decl} (mixins : ∀ kind, (s.mixins kind).Nodup)
      (children : ∀ d ∈ ds, Tidy d) : Tidy (.scope s ds)

namespace Tidy

theorem of_mem_children {d c : Decl} (h : d.Tidy) (hc : c ∈ d.children) : c.Tidy := by
  cases h with
  | member m => cases hc
  | scope _ hds => exact hds c hc

theorem of_distinct {s : Scope} {ds : List Decl} (lists : MixinKind → List String)
    (hlists : ∀ kind, s.mixins kind = distinct (lists kind)) (hds : ∀ d ∈ ds, Tidy d) : Tidy (.scope s ds) := by
  apply Tidy.scope ?_ hds
  intro kind
  rw [hlists]
  exact nodup_distinct (lists kind)

theorem of_no_mixins {s : Scope} {ds : List Decl} (hs : ∀ kind, s.mixins kind = [])
    (hds : ∀ d ∈ ds, Tidy d) : Tidy (.scope s ds) :=
  of_distinct (fun _ => []) hs hds

theorem normal (s : Scope) {ds : List Decl} (hds : ∀ d ∈ ds, Tidy d) : Tidy (.scope s.normal ds) :=
  of_distinct s.mixins (by rintro (_ | _) <;> rfl) hds

theorem setComments {d : Decl} (h : d.Tidy) (cs : List String) : (d.setComments cs).Tidy := by
  cases h with
  | member m => exact .member _
  | scope hs hds => exact .scope hs hds

theorem within {d : Decl} (h : d.Tidy) (names : List String) : (Decl.within names d).Tidy := by
  induction names with
  | nil => exact h
  | cons n names ih => exact of_no_mixins (by rintro (_ | _) <;> rfl) (List.forall_mem_singleton.mpr ih)

theorem descend? {d c : Decl} (h : d.Tidy) {path : List Nat} (hc : d.descend? path = some c) : c.Tidy := by
  induction path generalizing d with
  | nil =>
    cases hc
    exact h
  | cons i path ih =>
    rw [Decl.descend?, Option.bind_eq_some_iff] at hc
    obtain ⟨e, he, hc⟩ := hc
    exact ih (h.of_mem_children (List.mem_of_getElem? he)) hc

theorem replaceAt {d new : Decl} (h : d.Tidy) (hnew : new.Tidy) (path : List Nat) :
    (d.replaceAt new path).Tidy := by
  induction path generalizing d with
  | nil => exact hnew
  | cons i path ih =>
    cases h with
    | member m => exact .member m
    | @scope s ds hs hds =>
      apply Tidy.scope hs
      intro e he
      obtain ⟨j, hj⟩ := List.mem_iff_getElem?.mp he
      rw [List.getElem?_modify, Option.map_eq_map, Option.map_eq_some_iff] at hj
      obtain ⟨c, hc, rfl⟩ := hj
      have hc : c.Tidy := hds c (List.mem_of_getElem? hc)
      by_cases hij : i = j
      · simpa [hij] using ih hc
      · simpa [hij] using hc

theorem adopt {d c : Decl} (h : d.Tidy) (hc : c.Tidy) : (d.adopt c).Tidy := by
  cases h with
  | member m => exact .member m
  | scope hs hds =>
    refine .scope hs ?_
    rw [List.forall_mem_append, List.forall_mem_singleton]
    exact ⟨hds, hc.setComments _⟩

theorem foldl_adopt {d : Decl} (h : d.Tidy) {cs : List Decl} (hcs : ∀ c ∈ cs, c.Tidy) : (cs.foldl Decl.adopt d).Tidy := by
  induction cs generalizing d with
  | nil => exact h
  | cons c cs ih =>
    obtain ⟨hc, hcs⟩ := List.forall_mem_cons.mp hcs
    exact ih (h.adopt hc) hcs

theorem append {d c : Decl} (h : d.Tidy) (hc : c.Tidy) : (d.append c).Tidy := by
  cases h with
  | member m => exact .member m
  | scope hs hds =>
    apply Tidy.scope hs
    rw [List.forall_mem_append, List.forall_mem_singleton]
    exact ⟨hds, hc⟩

theorem queueComments {d : Decl} (h : d.Tidy) (cs : List String) : (d.queueComments cs).Tidy := by
  cases h with
  | member m => exact .member m
  | scope hs hds => exact .scope hs hds

theorem addMixin {d : Decl} (h : d.Tidy) (kind : MixinKind) (target : String) : (d.addMixin kind target).Tidy := by
  cases h with
  | member m => exact .member m
  | scope hs hds =>
    cases kind with
    | extended =>
      apply Tidy.scope ?_ hds
      rintro (_ | _)
      · exact nodup_addNew (hs .extended)
      · exact hs .included
    | included =>
      apply Tidy.scope ?_ hds
      rintro (_ | _)
      · exact hs .extended
      · exact nodup_addNew (hs .included)

end Tidy

theorem tidy_of_mem_parts {b : Blueprint} {c : Decl} (h : c ∈ b.parts.items) : c.Tidy := by
  have hscope (name : String) (kind : ScopeKind) : (Decl.scope { name, kind } []).Tidy :=
    .of_no_mixins (by rintro (_ | _) <;> rfl) nofun
  match b with
  | .scope name kind =>
    cases List.mem_singleton.mp h
    exact hscope name kind
  | .enumOf name header enumerators => exact Supply.forall_mem_ofExcept_map (fun _ _ => hscope name _) c h
  | .structOf name header fields => exact Supply.forall_mem_ofExcept_map (fun _ _ => hscope name _) c h
  | .method name request => exact Supply.forall_mem_ofExcept_map (fun _ _ => .member _) c h
  | .attribute name kind type classLevel => exact Supply.forall_mem_ofExcept_map (fun a _ => .member a) c h
  | .constant name value classLevel =>
    cases List.mem_singleton.mp h
    exact .member _
  | .mixins kind targets =>
    obtain ⟨t, -, rfl⟩ := List.mem_map.mp h
    exact .member _
  | .code text =>
    cases List.mem_singleton.mp h
    exact .member _

theorem Tidy.construct {d : Decl} (h : d.Tidy) (b : Blueprint) : (d.construct b).2.Tidy :=
  h.foldl_adopt fun _ => tidy_of_mem_parts

section Merging

theorem flatMap_scopes (kind : MixinKind) (ds : List Decl) :
    (ds.filterMap scope?).flatMap (·.mixins kind) = ds.flatMap (mixins kind) := by
  induction ds with
  | nil => rfl
  | cons d ds ih =>
    cases d with
    | member m => exact ih
    | scope s cs => exact congrArg (s.mixins kind ++ ·) ih

theorem tidy_of_mem_flatMap {ds : List Decl} (h : ∀ d ∈ ds, d.Tidy) : ∀ c ∈ ds.flatMap children, c.Tidy := by
  intro c hc
  obtain ⟨d, hd, hc⟩ := List.mem_flatMap.mp hc
  exact (h d hd).of_mem_children hc

theorem mixins_merged (base : Scope) (ds : List Decl) (kind : MixinKind) :
    (merged base ds).mixins kind = distinct (ds.flatMap (mixins kind)) := by
  rw [← flatMap_scopes]
  cases kind <;> rfl

theorem mixins_mergeRoots (roots : List Decl) (kind : MixinKind) :
    (mergeRoots roots).mixins kind = distinct (roots.flatMap (mixins kind)) := by
  rw [← flatMap_scopes]
  cases kind <;> rfl

theorem tidy_merged (base : Scope) {ds : List Decl} (h : ∀ d ∈ ds, d.Tidy) : (merged base ds).Tidy :=
  .of_distinct _ (mixins_merged base ds) (tidy_of_mem_flatMap h)

theorem tidy_mergeRoots {roots : List Decl} (h : ∀ d ∈ roots, d.Tidy) : (mergeRoots roots).Tidy :=
  .of_distinct _ (mixins_mergeRoots roots) (tidy_of_mem_flatMap h)

theorem fold_eq_ok {d e : Decl} {others : List Decl} (h : d.fold others = .ok e) :
    e ∈ d :: others ∨ ∃ base, e = merged base (d :: others) := by
  unfold fold at h
  split at h
  · cases h
  · split at h
    · cases h
      exact .inl List.mem_cons_self
    · next base rest hfilter =>
      split_ifs at h
      split at h
      · cases h
        exact .inr ⟨_, rfl⟩
      · cases h
        have hmem := hfilter ▸ List.mem_cons_self (a := Decl.member _) (l := rest)
        exact .inl (List.mem_filter.mp hmem).1

theorem mixins_fold {d e : Decl} {others : List Decl} (hscopes : ∀ c ∈ d :: others, c.isScope = true)
    (h : d.fold others = .ok e) (kind : MixinKind) :
    e.mixins kind = distinct ((d :: others).flatMap (mixins kind)) := by
  obtain ⟨ps, hps⟩ := exists_ofScopes hscopes
  obtain ⟨-, base, -, rfl⟩ := (fold_ofScopes hps e).mp h
  rw [← merged_ofScopes, ← hps]
  exact mixins_merged base (d :: others) kind

end Merging

end Decl

section Resolving

variable {σ ε : Type}

theorem Policy.Faithful.tidy_of_settle {p : Policy σ ε} (hp : p.Faithful) {d e : Decl} {others : List Decl}
    {s s' : σ} (hds : ∀ c ∈ d :: others, c.Tidy) (h : p.settle d others s = (.ok (some e), s')) : e.Tidy := by
  unfold Policy.settle at h
  split_ifs at h
  · cases h
    exact hds d List.mem_cons_self
  · split at h
    · next m hm =>
      cases h
      rcases fold_eq_ok hm with hmem | ⟨base, rfl⟩
      · exact hds e hmem
      · exact tidy_merged base hds
    · next c _ =>
      exact hds e (hp c (d :: others) s e (congrArg Prod.fst h))

theorem Policy.Faithful.tidy_of_settleAll {p : Policy σ ε} (hp : p.Faithful) {gs : List (Decl × List Decl)}
    {es : List Decl} {s s' : σ} (hgs : ∀ g ∈ gs, ∀ d ∈ g.1 :: g.2, d.Tidy)
    (h : p.settleAll gs s = (.ok es, s')) : ∀ e ∈ es, e.Tidy := by
  induction gs generalizing s es with
  | nil =>
    cases h
    simp
  | cons g gs ih =>
    obtain ⟨hg, hgs⟩ := List.forall_mem_cons.mp hgs
    rw [Policy.settleAll] at h
    split at h
    · cases h
    · next survivor s₁ hsettle =>
      split at h
      · cases h
      · next rest s₂ hrest =>
        cases h
        rw [List.forall_mem_append]
        refine ⟨?_, ih hgs hrest⟩
        intro e he
        rw [Option.mem_toList] at he
        cases he
        exact hp.tidy_of_settle hg hsettle

theorem tidy_of_visitAll {f : Decl → σ → Resolution σ ε Decl} (hf : ∀ d s, d.Tidy → (f d s).value.Tidy)
    {ds : List Decl} (hds : ∀ d ∈ ds, d.Tidy) (s : σ) : ∀ r ∈ (visitAll f ds s).value, r.Tidy := by
  induction ds generalizing s with
  | nil => simp [visitAll]
  | cons d ds ih =>
    obtain ⟨hd, hds⟩ := List.forall_mem_cons.mp hds
    rw [visitAll]
    split
    · exact List.forall_mem_cons.mpr ⟨hf d s hd, hds⟩
    · exact List.forall_mem_cons.mpr ⟨hf d s hd, ih hds _⟩

theorem tidy_of_mem_groups {ds : List Decl} (h : ∀ d ∈ ds, d.Tidy) :
    ∀ g ∈ groups ds, ∀ d ∈ g.1 :: g.2, d.Tidy := by
  intro g hg d hd
  have hmem : g.1 :: g.2 ∈ (groups ds).map fun g => g.1 :: g.2 := List.mem_map_of_mem hg
  rw [groups_map_cons] at hmem
  obtain ⟨k, -, hk⟩ := List.mem_map.mp hmem
  rw [← hk] at hd
  exact h d (mem_ofKey.mp hd).1

theorem Policy.Faithful.tidy_of_resolveTo {p : Policy σ ε} (hp : p.Faithful) (n : Nat) {d : Decl} (h : d.Tidy)
    (s : σ) : (p.resolveTo n d s).value.Tidy := by
  induction n generalizing d s with
  | zero => exact h
  | succ n ih =>
    cases h with
    | member m => exact .member m
    | scope hs hds =>
      rw [resolveTo]
      split
      · exact .scope hs hds
      · next survivors s' hsurvivors =>
        have htidy := hp.tidy_of_settleAll (tidy_of_mem_groups hds) hsurvivors
        exact .scope hs (tidy_of_visitAll (fun d s hd => ih hd s) htidy s')

end Resolving

namespace Convert

variable (read : Reader)

mutual

theorem tidy_of_decl (d : Decl) : ∀ e ∈ (decl read d).1, e.Tidy := by
  match d with
  | .member m =>
    intro e he
    obtain ⟨m', -, rfl⟩ := Option.map_eq_some_iff.mp he
    exact .member m'
  | .scope s ds =>
    intro e he
    rw [decl] at he
    split at he
    · cases he
    · cases he
      exact .of_distinct s.mixins (by rintro (_ | _) <;> rfl) (tidy_of_decls ds)

theorem tidy_of_decls (ds : List Decl) : ∀ e ∈ (decls read ds).1, e.Tidy := by
  match ds with
  | [] => simp [decls]
  | d :: ds =>
    rw [decls, List.forall_mem_append]
    refine ⟨?_, tidy_of_decls ds⟩
    intro e he
    exact tidy_of_decl d e (Option.mem_toList.mp he)

end

theorem tidy_program (d : Decl) : (program read d).1.Tidy := by
  cases d with
  | member m => exact .of_no_mixins (by rintro (_ | _) <;> rfl) nofun
  | scope s ds => exact .of_distinct s.mixins (by rintro (_ | _) <;> rfl) (tidy_of_decls read ds)

end Convert

section Results

variable {ε α β : Type} {P : β → Prop}

namespace Ensures

theorem collect {xs : List α} {f : (x : α) → x ∈ xs → Journal ε (List β)}
    (h : ∀ x hx, Ensures (f x hx).result fun ys => ∀ y ∈ ys, P y) :
    Ensures (Journal.collect xs f).result fun ys => ∀ y ∈ ys, P y := by
  induction xs with
  | nil => exact ok (by simp)
  | cons x xs ih =>
    apply journal_bind
    intro ys hys
    apply journal_bind
    intro zs hzs
    have hzs := ih (fun z hz => h z (List.mem_cons_of_mem x hz)) zs hzs
    exact ok (List.forall_mem_append.mpr ⟨h x List.mem_cons_self ys hys, hzs⟩)

end Ensures

end Results

namespace Source

variable (u : Source) (o : ReadOptions) (n : Node) (p : NodePath) (eigen : Bool)

theorem tidy_of_areMembers {comments : List String} {ds : List Decl} (h : AreMembers comments ds) :
    ∀ d ∈ ds, d.Tidy := by
  intro d hd
  obtain ⟨name, body, rfl⟩ := h d hd
  exact .member _

theorem ensures_scopeHeader (body : List (NodePath × Node)) :
    Ensures (u.scopeHeader o n p body) fun header => ∀ kind, header.2.mixins kind = mixins kind body := by
  unfold scopeHeader
  split
  · exact u.ensures_fail p _
  · apply Ensures.bind
    intro kind _
    split
    · exact .error _
    · exact .ok (by rintro (_ | _) <;> rfl)

theorem ensures_readNode : Ensures (u.readNode o n p eigen).result fun ds => ∀ d ∈ ds, d.Tidy := by
  rw [← readWith_definitionAt]
  fun_induction readWith u o (u.definitionAt o) n p eigen with
  | case1 n p eigen hseq ih => exact .collect ih
  | case2 n p eigen hseq hscope ih =>
    apply Ensures.journal_bind
    intro header hheader
    apply Ensures.journal_bind
    intro children hchildren
    apply Ensures.journal_bind
    intro comments _
    have hmixins := u.ensures_scopeHeader o n p _ header hheader
    have hchildren := Ensures.collect (ih header) children hchildren
    apply Ensures.ok
    rw [List.forall_mem_singleton]
    apply Tidy.within
    exact .of_distinct _ hmixins hchildren
  | case3 n p eigen hseq hscope hself ih => exact .collect ih
  | case4 n p eigen hseq hscope hself hdef =>
    apply Ensures.bind
    intro s _
    refine (u.ensures_definition o p eigen s).mono ?_
    rintro ds ⟨comments, -, hds⟩
    exact tidy_of_areMembers hds
  | case5 n p eigen hseq hscope hself hdef =>
    refine (u.ensures_members o n p eigen hseq hscope hself).mono ?_
    rintro ds ⟨comments, hds⟩
    exact tidy_of_areMembers hds

theorem ensures_program : Ensures (u.program o).result Tidy := by
  unfold program
  split
  · exact .error _
  · apply Ensures.journal_bind
    intro children hchildren
    exact .ok (.of_no_mixins (by rintro (_ | _) <;> rfl) (u.ensures_readNode o u.root .root false children hchildren))

end Source

namespace Decl

/-- The trees that come about by operations on declarations, in any order and at any depth. What answers
conflicts does so with a candidate, with none of them, or fails. -/
inductive Reachable : Decl → Prop
  | member (m : Member) : Reachable (.member m)
  | scope (s : Scope) {ds : List Decl} (h : ∀ d ∈ ds, Reachable d) : Reachable (.scope s.normal ds)
  | part {d c : Decl} {path : List Nat} (h : Reachable d) (hc : d.descend? path = some c) : Reachable c
  | replaced {d new : Decl} (h : Reachable d) (hnew : Reachable new) (path : List Nat) :
      Reachable (d.replaceAt new path)
  | commented {d : Decl} (h : Reachable d) (cs : List String) : Reachable (d.setComments cs)
  | queued {d : Decl} (h : Reachable d) (cs : List String) : Reachable (d.queueComments cs)
  | built {d : Decl} (h : Reachable d) (b : Blueprint) : Reachable (d.construct b).2
  | appended {d c : Decl} (h : Reachable d) (hc : Reachable c) : Reachable (d.append c)
  | mixed {d : Decl} (h : Reachable d) (kind : MixinKind) (target : String) : Reachable (d.addMixin kind target)
  | read (u : Source) (o : ReadOptions) {d : Decl} (h : (u.program o).result = .ok d) : Reachable d
  | merged (base : Scope) {ds : List Decl} (h : ∀ d ∈ ds, Reachable d) : Reachable (merged base ds)
  | joined {roots : List Decl} (h : ∀ d ∈ roots, Reachable d) : Reachable (mergeRoots roots)
  | resolved {σ ε : Type} {p : Policy σ ε} (hp : p.Faithful) {d : Decl} (h : Reachable d) (s : σ) :
      Reachable (p.resolve d s).value
  | converted (read : Reader) {d : Decl} (h : Reachable d) : Reachable (Convert.program read d).1

theorem Reachable.tidy {d : Decl} (h : d.Reachable) : d.Tidy := by
  induction h with
  | member m => exact .member m
  | scope s _ ih => exact .normal s ih
  | part _ hc ih => exact ih.descend? hc
  | replaced _ _ path ih ihnew => exact ih.replaceAt ihnew path
  | commented _ cs ih => exact ih.setComments cs
  | queued _ cs ih => exact ih.queueComments cs
  | built _ b ih => exact ih.construct b
  | appended _ _ ih ihc => exact ih.append ihc
  | mixed _ kind target ih => exact ih.addMixin kind target
  | read u o h => exact u.ensures_program o _ h
  | merged base _ ih => exact tidy_merged base ih
  | joined _ ih => exact tidy_mergeRoots ih
  | resolved hp _ s ih => exact hp.tidy_of_resolveTo _ ih s
  | converted read _ _ => exact Convert.tidy_program read _

theorem Tidy.nodup_mixins {d : Decl} (h : d.Tidy) (kind : MixinKind) : (d.mixins kind).Nodup := by
  cases h with
  | member m => exact List.nodup_nil
  | scope hs _ => exact hs kind

theorem Tidy.mixins_addMixin {d : Decl} (h : d.Tidy) (hscope : d.isScope) (kind : MixinKind) (target : String) :
    (d.addMixin kind target).mixins kind = distinct (d.mixins kind ++ [target]) := by
  rw [distinct_append, distinct_of_nodup (h.nodup_mixins kind)]
  cases d with
  | member m => cases hscope
  | scope s ds => cases kind <;> rfl

/-- Whatever is done, no scope at any depth lists a mixin twice. Lists that are given, added to or merged keep
the order in which their items are first seen. -/
theorem mixins_stay_distinct :
    (∀ (d c : Decl) (path : List Nat) (kind : MixinKind), d.Reachable → d.descend? path = some c →
      (c.mixins kind).Nodup) ∧
    ∀ kind : MixinKind,
      (∀ (s : Scope) (ds : List Decl), (Decl.scope s.normal ds).mixins kind = (s.mixins kind).eraseDups) ∧
      (∀ (d : Decl) (target : String), d.Reachable → d.isScope →
        (d.addMixin kind target).mixins kind = (d.mixins kind ++ [target]).eraseDups) ∧
      (∀ (base : Scope) (ds : List Decl),
        (Decl.merged base ds).mixins kind = (ds.flatMap (mixins kind)).eraseDups) ∧
      (∀ (d e : Decl) (others : List Decl), (∀ c ∈ d :: others, c.isScope) → d.fold others = .ok e →
        e.mixins kind = ((d :: others).flatMap (mixins kind)).eraseDups) ∧
      ∀ roots : List Decl, (mergeRoots roots).mixins kind = (roots.flatMap (mixins kind)).eraseDups := by
  refine ⟨?_, fun kind => ?_⟩
  · intro d c path kind hd hc
    exact (hd.tidy.descend? hc).nodup_mixins kind
  · simp only [← distinct_eq_eraseDups]
    refine ⟨?_, ?_, ?_, ?_, ?_⟩
    · intro s ds
      cases kind <;> rfl
    · intro d target hd hscope
      exact hd.tidy.mixins_addMixin hscope kind target
    · intro base ds
      exact mixins_merged base ds kind
    · intro d e others hscopes he
      exact mixins_fold hscopes he kind
    · intro roots
      exact mixins_mergeRoots roots kind

theorem mixins_stay_distinct_reopened :
    let opened (included : List String) : Decl :=
      .scope (Scope.normal { name := "A", kind := .ofClass {}, included }) []
    let first := opened ["M", "N", "M"]
    let second := (opened ["K"]).addMixin .included "M"
    let root := mergeRoots [.scope (Scope.normal {}) [first], .scope (Scope.normal {}) [second]]
    let resolved := ((Policy.keep 0 : Policy Unit String).resolve root ()).value
    resolved.Reachable ∧ ∃ a, first.fold [second] = .ok a ∧ resolved.descend? [0] = some a ∧
      (a.mixins .included).Nodup ∧ a.mixins .included = ["M", "N", "K"] := by
  intro opened first second root resolved
  have hopened (included : List String) : (opened included).Reachable := .scope _ nofun
  have hroot : root.Reachable := by
    apply Reachable.joined
    simp only [List.forall_mem_cons]
    refine ⟨.scope {} ?_, .scope {} ?_, nofun⟩
    · exact List.forall_mem_singleton.mpr (hopened _)
    · exact List.forall_mem_singleton.mpr (.mixed (hopened _) .included "M")
  have hresolved : resolved.Reachable := .resolved (Policy.keep_faithful 0) hroot ()
  obtain ⟨hnodup, hlists⟩ := mixins_stay_distinct
  obtain ⟨-, -, -, hfold, -⟩ := hlists .included
  let a := Decl.merged { name := "A", kind := .ofClass {}, included := ["M", "N"] } [first, second]
  have hfolds : first.fold [second] = .ok a := rfl
  have hplace : resolved.descend? [0] = some a := by
    simp only [resolved, root, first, second, a, opened]
    cbv
  refine ⟨hresolved, a, hfolds, hplace, hnodup resolved a [0] .included hresolved hplace, ?_⟩
  rw [hfold first a [second] (by simp [first, second, opened, Decl.addMixin, isScope]) hfolds]
  rfl

end Decl

end RubyStubs
