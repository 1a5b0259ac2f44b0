import Mathlib.Data.List.Nodup
import RubyStubs.Proofs.Dropping
import RubyStubs.Proofs.Levels

namespace RubyStubs

open Decl

variable {σ ε : Type}

namespace Decl

def question? : List Decl → Option (Conflict × List Decl)
  | d :: o :: os =>
    match d.fold (o :: os) with
    | .ok _ => none
    | .error c => some (c, d :: o :: os)
  | _ => none

theorem question?_eq_some_iff {ds es : List Decl} {c : Conflict} :
    question? ds = some (c, es) ↔
      es = ds ∧ ∃ d others, ds = d :: others ∧ others ≠ [] ∧ d.fold others = .error c := by
  rcases ds with _ | ⟨d, _ | ⟨o, os⟩⟩
  · simp [question?]
  · simp [question?]
  · cases hfold : d.fold (o :: os) with
    | ok e => simp [question?, hfold]
    | error c' => simp [question?, hfold, eq_comm, and_comm]

section Answers

variable (answer : Conflict → List Decl → Option Decl)

def left? (ds : List Decl) : Option Decl := (question? ds).elim (survivor? ds) fun q => answer q.1 q.2

def leftOf (ds : List Decl) : List Decl := (keys ds).filterMap fun k => left? answer (ofKey k ds)

def resolved : Nat → Decl → Decl
  | 0, d => d
  | _ + 1, .member m => .member m
  | n + 1, .scope s ds => .scope s ((leftOf answer ds).map (resolved n))

end Answers

theorem keys_ofKey {ds : List Decl} {k : MergeKey} (h : k ∈ keys ds) : keys (ofKey k ds) = [k] := by
  obtain ⟨d, hd, hk⟩ := mem_keys.mp h
  rw [keys, distinct_eq_singleton_iff]
  constructor
  · rw [← hk]
    apply List.mem_map_of_mem
    exact mem_ofKey.mpr ⟨hd, rfl⟩
  · rw [List.forall_mem_map]
    exact ofKey_key

theorem ofKey_ofKey (k : MergeKey) (ds : List Decl) : ofKey k (ofKey k ds) = ofKey k ds := by
  simp [ofKey]

theorem leftOf_ofKey (answer : Conflict → List Decl → Option Decl) (k : MergeKey) (ds : List Decl) :
    leftOf answer (ofKey k ds) = (left? answer (ofKey k ds)).toList := by
  by_cases h : k ∈ keys ds
  · rw [leftOf, keys_ofKey h]
    cases hleft : left? answer (ofKey k ds) <;> simp [ofKey_ofKey, hleft]
  · rw [ofKey_eq_nil_iff.mpr h]
    rfl

theorem map_leftOf {α : Type} (answer : Conflict → List Decl → Option Decl) (f : Decl → α) (ds : List Decl) :
    (leftOf answer ds).map f = (keys ds).flatMap fun k => (leftOf answer (ofKey k ds)).map f := by
  simp only [leftOf_ofKey]
  rw [leftOf, List.filterMap_eq_flatMap_toList, List.map_flatMap]

end Decl

theorem visitAll_of_forall {f : Decl → σ → Resolution σ ε Decl} {g : Decl → Decl}
    (hf : ∀ d s, (f d s).failure = none ∧ (f d s).value = g d) (ds : List Decl) (s : σ) :
    (visitAll f ds s).failure = none ∧ (visitAll f ds s).value = ds.map g := by
  induction ds generalizing s with
  | nil => exact ⟨rfl, rfl⟩
  | cons d ds ih =>
    obtain ⟨hnone, hvalue⟩ := hf d s
    obtain ⟨hrest, hvalues⟩ := ih (f d s).state
    rw [visitAll_cons_of_none hnone, hvalue, hvalues]
    exact ⟨hrest, rfl⟩

namespace Policy

variable {p : Policy σ ε} {answer : Conflict → List Decl → Option Decl}

def Stateless (p : Policy σ ε) (answer : Conflict → List Decl → Option Decl) : Prop :=
  ∀ c ds s, (p.choose c ds s).1 = .ok (answer c ds)

theorem Stateless.recording (hp : p.Stateless answer) : p.recording.Stateless answer :=
  fun c ds s => hp c ds s.1

theorem Stateless.settle (hp : p.Stateless answer) (d : Decl) (others : List Decl) (s : σ) :
    ∃ s', p.settle d others s = (.ok (left? answer (d :: others)), s') := by
  cases others with
  | nil => exact ⟨s, rfl⟩
  | cons o os =>
    cases hfold : d.fold (o :: os) with
    | ok e => exact ⟨s, by simp [Policy.settle, left?, question?, survivor?, hfold, Except.toOption]⟩
    | error c =>
      have hanswer := hp c (d :: o :: os) s
      refine ⟨(p.choose c (d :: o :: os) s).2, Prod.ext ?_ ?_⟩ <;>
        simp [Policy.settle, left?, question?, hfold, hanswer]

theorem Stateless.settleAll (hp : p.Stateless answer) (gs : List (Decl × List Decl)) (s : σ) :
    ∃ s', p.settleAll gs s = (.ok (gs.filterMap fun g => left? answer (g.1 :: g.2)), s') := by
  induction gs generalizing s with
  | nil => exact ⟨s, rfl⟩
  | cons g gs ih =>
    obtain ⟨s₁, hg⟩ := hp.settle g.1 g.2 s
    obtain ⟨s₂, hgs⟩ := ih s₁
    refine ⟨s₂, ?_⟩
    rw [Policy.settleAll, hg, List.filterMap_cons]
    cases left? answer (g.1 :: g.2) <;> simp [hgs]

theorem Stateless.settleAll_groups (hp : p.Stateless answer) (ds : List Decl) (s : σ) :
    ∃ s', p.settleAll (groups ds) s = (.ok (leftOf answer ds), s') := by
  have h := congrArg (List.filterMap (left? answer)) (groups_map_cons ds)
  rw [List.filterMap_map, List.filterMap_map] at h
  obtain ⟨s', hs'⟩ := hp.settleAll (groups ds) s
  exact ⟨s', hs'.trans (congrArg (fun es => (Except.ok es, s')) h)⟩

theorem Stateless.resolveTo (hp : p.Stateless answer) (n : Nat) (d : Decl) (s : σ) :
    (p.resolveTo n d s).failure = none ∧ (p.resolveTo n d s).value = resolved answer n d := by
  induction n generalizing d s with
  | zero => exact ⟨rfl, rfl⟩
  | succ n ih =>
    cases d with
    | member m => exact ⟨rfl, rfl⟩
    | scope info ds =>
      obtain ⟨s', hs'⟩ := hp.settleAll_groups ds s
      obtain ⟨hnone, hvalue⟩ := visitAll_of_forall ih (leftOf answer ds) s'
      rw [resolveTo_of_settleAll_ok hs', hvalue]
      exact ⟨hnone, rfl⟩

theorem Faithful.resolveTo_eq (hp : p.Faithful) {n : Nat} {d : Decl} (hn : d.height ≤ n) (s : σ) :
    p.resolveTo n d s = p.resolve d s := by
  have henough : p.Enough d.height d s := hp.enough (Nat.le_refl _) s
  rw [resolve, (henough.mono hn).2, (henough.mono (Nat.le_add_right ..)).2]

theorem Stateless.keys_leftOf (hp : p.Stateless answer) (hfaithful : p.Faithful) (ds : List Decl) (s : σ) :
    ((leftOf answer ds).map Decl.key).Nodup ∧ heightAll (leftOf answer ds) ≤ heightAll ds := by
  obtain ⟨s', hs'⟩ := hp.settleAll_groups ds s
  obtain ⟨hkeys, hheight⟩ := hfaithful.settleAll (groups_forall₂ ds) hs'
  exact ⟨hkeys.nodup (nodup_keys ds), heightAll_le_iff.mpr hheight⟩

end Policy

structure Inquiry where
  path : List MergeKey
  key : MergeKey
  conflict : Conflict
  candidates : List Decl

namespace Inquiry

def place (q : Inquiry) : List MergeKey × MergeKey := (q.path, q.key)

def question (q : Inquiry) : Conflict × List Decl := (q.conflict, q.candidates)

def below (k : MergeKey) (q : Inquiry) : Inquiry := { q with path := k :: q.path }

end Inquiry

namespace Decl

variable (answer : Conflict → List Decl → Option Decl)

def inquiriesAt (ds : List Decl) : List Inquiry :=
  (keys ds).filterMap fun k => (question? (ofKey k ds)).map fun q => ⟨[], k, q.1, q.2⟩

def inquiries : Nat → Decl → List Inquiry
  | 0, _ => []
  | _ + 1, .member _ => []
  | n + 1, .scope _ ds =>
    inquiriesAt ds ++ (leftOf answer ds).flatMap fun e => (inquiries n e).map (.below e.key)

theorem mem_inquiriesAt {ds : List Decl} {q : Inquiry} :
    q ∈ inquiriesAt ds ↔ q.path = [] ∧ question? (ofKey q.key ds) = some q.question := by
  obtain ⟨path, key, conflict, candidates⟩ := q
  simp only [inquiriesAt, List.mem_filterMap, Option.map_eq_some_iff, Inquiry.question]
  constructor
  · rintro ⟨k, -, q, hq, heq⟩
    cases heq
    exact ⟨rfl, hq⟩
  · rintro ⟨rfl, hq⟩
    refine ⟨key, ?_, (conflict, candidates), hq, rfl⟩
    by_contra hkey
    rw [ofKey_eq_nil_iff.mpr hkey] at hq
    cases hq

theorem nodup_inquiriesAt (ds : List Decl) : ((inquiriesAt ds).map Inquiry.place).Nodup := by
  have hsublist : ((inquiriesAt ds).map Inquiry.key).Sublist (keys ds) := by
    rw [inquiriesAt]
    induction keys ds with
    | nil => exact .slnil
    | cons k ks ih =>
      rw [List.filterMap_cons]
      cases question? (ofKey k ds) with
      | none => exact ih.cons k
      | some q => exact ih.cons_cons k
  apply List.Nodup.of_map Prod.snd
  rw [List.map_map]
  exact hsublist.nodup (nodup_keys ds)

theorem path_of_mem_below {k : MergeKey} {qs : List Inquiry} {place : List MergeKey × MergeKey}
    (h : place ∈ (qs.map (.below k)).map Inquiry.place) : ∃ path, place.1 = k :: path := by
  rw [List.map_map] at h
  obtain ⟨q, -, rfl⟩ := List.mem_map.mp h
  exact ⟨q.path, rfl⟩

theorem nodup_below (k : MergeKey) {qs : List Inquiry} (h : (qs.map Inquiry.place).Nodup) :
    ((qs.map (.below k)).map Inquiry.place).Nodup := by
  have hinjective : Function.Injective fun place : List MergeKey × MergeKey => (k :: place.1, place.2) := by
    rintro ⟨path, key⟩ ⟨path', key'⟩ heq
    cases heq
    rfl
  have hmap := h.map hinjective
  rw [List.map_map] at hmap ⊢
  exact hmap

end Decl

namespace Policy

variable {p : Policy σ ε} {answer : Conflict → List Decl → Option Decl}

theorem recording_settle (d : Decl) (others : List Decl) (s : σ × List (Conflict × List Decl)) :
    (p.recording.settle d others s).2.2 = s.2 ++ (question? (d :: others)).toList := by
  cases others with
  | nil => simp [settle, question?]
  | cons o os => cases hfold : d.fold (o :: os) <;> simp [settle, question?, recording, hfold]

theorem Stateless.recording_settleAll (hp : p.Stateless answer) (gs : List (Decl × List Decl))
    (s : σ × List (Conflict × List Decl)) :
    (p.recording.settleAll gs s).2.2 = s.2 ++ gs.filterMap fun g => question? (g.1 :: g.2) := by
  induction gs generalizing s with
  | nil => simp [Policy.settleAll]
  | cons g gs ih =>
    obtain ⟨s₁, hg⟩ := hp.recording.settle g.1 g.2 s
    obtain ⟨s₂, hgs⟩ := hp.recording.settleAll gs s₁
    have hfirst : s₁.2 = s.2 ++ (question? (g.1 :: g.2)).toList := by
      rw [← recording_settle g.1 g.2 s, hg]
    have hrest : s₂.2 = s₁.2 ++ gs.filterMap fun g => question? (g.1 :: g.2) := by
      rw [← ih s₁, hgs]
    rw [Policy.settleAll, hg]
    simp only [hgs, hrest, hfirst, List.filterMap_cons]
    cases question? (g.1 :: g.2) <;> simp

theorem Stateless.recording_groups (hp : p.Stateless answer) (ds : List Decl)
    (s : σ × List (Conflict × List Decl)) :
    ∃ s', p.recording.settleAll (groups ds) s = (.ok (leftOf answer ds), s') ∧
      s'.2 = s.2 ++ (inquiriesAt ds).map Inquiry.question := by
  obtain ⟨s', hs'⟩ := hp.recording.settleAll_groups ds s
  refine ⟨s', hs', ?_⟩
  have h := congrArg (List.filterMap question?) (groups_map_cons ds)
  rw [List.filterMap_map, List.filterMap_map] at h
  have hasked := hp.recording_settleAll (groups ds) s
  rw [hs'] at hasked
  refine hasked.trans (congrArg (s.2 ++ ·) (h.trans ?_))
  rw [inquiriesAt, List.map_filterMap]
  apply List.filterMap_congr
  intro k _
  rw [Option.map_map]
  exact (Option.map_id_apply).symm

theorem visitAll_asked {f : Decl → σ × List (Conflict × List Decl) → Resolution _ ε Decl}
    {asked : Decl → List (Conflict × List Decl)}
    (hf : ∀ d s, (f d s).failure = none ∧ (f d s).state.2 = s.2 ++ asked d) (ds : List Decl)
    (s : σ × List (Conflict × List Decl)) : (visitAll f ds s).state.2 = s.2 ++ ds.flatMap asked := by
  induction ds generalizing s with
  | nil => simp [visitAll]
  | cons d ds ih =>
    obtain ⟨hnone, hasked⟩ := hf d s
    rw [visitAll_cons_of_none hnone, ih, hasked, List.flatMap_cons, List.append_assoc]

theorem Stateless.recording_resolveTo (hp : p.Stateless answer) (n : Nat) (d : Decl)
    (s : σ × List (Conflict × List Decl)) :
    (p.recording.resolveTo n d s).state.2 = s.2 ++ (inquiries answer n d).map Inquiry.question := by
  induction n generalizing d s with
  | zero => simp [Policy.resolveTo, inquiries]
  | succ n ih =>
    cases d with
    | member m => simp [Policy.resolveTo, inquiries]
    | scope info ds =>
      obtain ⟨s', hs', hasked⟩ := hp.recording_groups ds s
      have hvisit := visitAll_asked (fun d s => ⟨(hp.recording.resolveTo n d s).1, ih d s⟩) (leftOf answer ds) s'
      rw [resolveTo_of_settleAll_ok hs', hvisit, hasked, inquiries, List.map_append, List.append_assoc,
        List.map_flatMap]
      simp only [List.map_map]
      rfl

/-- A run comes to a scope on the way by the given keys, and finds the given children in it. The states are
left open: they do not matter to a policy whose answers depend on the question alone. -/
inductive Enters (p : Policy σ ε) : Decl → List MergeKey → List Decl → Prop
  | here (info : Scope) (ds : List Decl) : Enters p (.scope info ds) [] ds
  | deeper {info : Scope} {ds es cs : List Decl} {e : Decl} {path : List MergeKey} {s s' : σ}
      (hlevel : p.settleAll (groups ds) s = (.ok es, s')) (he : e ∈ es) (h : Enters p e path cs) :
      Enters p (.scope info ds) (e.key :: path) cs

theorem enters_nil_iff {info : Scope} {ds cs : List Decl} : p.Enters (.scope info ds) [] cs ↔ cs = ds := by
  constructor
  · intro h
    cases h
    rfl
  · rintro rfl
    exact .here info cs

theorem Stateless.enters_cons_iff (hp : p.Stateless answer) (s : σ) {info : Scope} {ds cs : List Decl}
    {k : MergeKey} {path : List MergeKey} :
    p.Enters (.scope info ds) (k :: path) cs ↔ ∃ e ∈ leftOf answer ds, e.key = k ∧ p.Enters e path cs := by
  constructor
  · intro h
    cases h with
    | @deeper _ _ es _ e _ s₁ s₂ hlevel he h =>
      obtain ⟨s₃, hs₃⟩ := hp.settleAll_groups ds s₁
      rw [hs₃] at hlevel
      cases hlevel
      exact ⟨e, he, rfl, h⟩
  · rintro ⟨e, he, rfl, h⟩
    obtain ⟨s', hs'⟩ := hp.settleAll_groups ds s
    exact .deeper hs' he h

section Places

variable (hp : p.Stateless answer) (hfaithful : p.Faithful) (s : σ)

include hp hfaithful s

theorem Stateless.enters_unique {d : Decl} {path : List MergeKey} {cs cs' : List Decl}
    (h : p.Enters d path cs) (h' : p.Enters d path cs') : cs = cs' := by
  induction path generalizing d with
  | nil =>
    cases h
    cases h'
    rfl
  | cons k path ih =>
    cases d with
    | member m => cases h
    | scope info ds =>
      obtain ⟨e, he, hkey, hcs⟩ := (hp.enters_cons_iff s).mp h
      obtain ⟨e', he', hkey', hcs'⟩ := (hp.enters_cons_iff s).mp h'
      obtain ⟨hnodup, -⟩ := hp.keys_leftOf hfaithful ds s
      have heq : e = e' := List.inj_on_of_nodup_map hnodup he he' (hkey.trans hkey'.symm)
      rw [← heq] at hcs'
      exact ih hcs hcs'

theorem Stateless.mem_inquiries {n : Nat} {d : Decl} (hn : d.height ≤ n) {q : Inquiry} :
    q ∈ inquiries answer n d ↔
      ∃ cs, p.Enters d q.path cs ∧ question? (ofKey q.key cs) = some q.question := by
  induction n generalizing d q with
  | zero =>
    cases d with
    | member m =>
      constructor
      · intro h
        cases h
      · rintro ⟨cs, h, -⟩
        cases h
    | scope info ds => cases hn
  | succ n ih =>
    cases d with
    | member m =>
      constructor
      · intro h
        cases h
      · rintro ⟨cs, h, -⟩
        cases h
    | scope info ds =>
      have hheight : ∀ e ∈ leftOf answer ds, e.height ≤ n := by
        intro e he
        have hall := (hp.keys_leftOf hfaithful ds s).2
        have hle := height_le_heightAll he
        rw [height] at hn
        omega
      obtain ⟨path, key, conflict, candidates⟩ := q
      rw [inquiries, List.mem_append, mem_inquiriesAt, List.mem_flatMap]
      cases path with
      | nil =>
        simp [enters_nil_iff, Inquiry.below, Inquiry.question]
      | cons k path =>
        simp only [hp.enters_cons_iff s, List.mem_map]
        constructor
        · rintro (⟨hpath, -⟩ | ⟨e, he, q, hq, heq⟩)
          · cases hpath
          · cases heq
            obtain ⟨cs, hcs, hquestion⟩ := (ih (hheight e he)).mp hq
            exact ⟨cs, ⟨e, he, rfl, hcs⟩, hquestion⟩
        · rintro ⟨cs, ⟨e, he, rfl, hcs⟩, hquestion⟩
          refine .inr ⟨e, he, ⟨path, key, conflict, candidates⟩, ?_, rfl⟩
          exact (ih (hheight e he)).mpr ⟨cs, hcs, hquestion⟩

theorem Stateless.nodup_inquiries (n : Nat) (d : Decl) :
    ((inquiries answer n d).map Inquiry.place).Nodup := by
  induction n generalizing d with
  | zero => exact List.nodup_nil
  | succ n ih =>
    cases d with
    | member m => exact List.nodup_nil
    | scope info ds =>
      obtain ⟨hkeys, -⟩ := hp.keys_leftOf hfaithful ds s
      have hdistinct : (leftOf answer ds).Pairwise fun e e' => e.key ≠ e'.key := List.pairwise_map.mp hkeys
      rw [inquiries, List.map_append, List.map_flatMap]
      apply List.Nodup.append (nodup_inquiriesAt ds)
      · apply List.nodup_flatMap.mpr
        constructor
        · intro e _
          exact nodup_below e.key (ih e)
        · apply hdistinct.imp
          intro e e' hne place he he'
          obtain ⟨path, hpath⟩ := path_of_mem_below he
          obtain ⟨path', hpath'⟩ := path_of_mem_below he'
          exact hne (List.cons.inj (hpath.symm.trans hpath')).1
      · intro place hhere hbelow
        obtain ⟨q, hq, rfl⟩ := List.mem_map.mp hhere
        obtain ⟨e, -, he⟩ := List.mem_flatMap.mp hbelow
        obtain ⟨path, hpath⟩ := path_of_mem_below he
        rw [Inquiry.place, (mem_inquiriesAt.mp hq).1] at hpath
        cases hpath

end Places

/-- A run with answers that depend on the question alone, and are taken from the candidates, does to the
declarations of each key what a run on them by themselves does, the keys in order of first appearance; at
most one of them is left. Its questions are asked at different places. At each place the candidates are all
the children of the key that the run finds in the scope, in order, two at least, which do not fold. -/
theorem resolve_key_by_key (hp : p.Stateless answer) (hfaithful : p.Faithful) (info : Scope) (ds : List Decl)
    (s : σ) (t : MergeKey → σ) :
    let alone (k : MergeKey) : Resolution σ ε Decl := p.resolve (.scope info (ofKey k ds)) (t k)
    (p.resolve (.scope info ds) s).failure = none ∧
    (p.resolve (.scope info ds) s).value =
      .scope info ((keys ds).flatMap fun k => (alone k).value.children) ∧
    (∀ k, (alone k).failure = none ∧ (alone k).value.children.length ≤ 1) ∧
    ∃ asked : List Inquiry, asked.map Inquiry.question = p.asked (.scope info ds) s ∧
      (asked.map Inquiry.place).Nodup ∧
      (∀ path cs cs', p.Enters (.scope info ds) path cs → p.Enters (.scope info ds) path cs' → cs = cs') ∧
      ∀ q, q ∈ asked ↔ ∃ cs, p.Enters (.scope info ds) q.path cs ∧ q.candidates = ofKey q.key cs ∧
        ∃ d others, ofKey q.key cs = d :: others ∧ others ≠ [] ∧ d.fold others = .error q.conflict := by
  intro alone
  let n := heightAll ds
  have hwhole : p.resolve (.scope info ds) s = p.resolveTo (n + 1) (.scope info ds) s :=
    (hfaithful.resolveTo_eq (Nat.le_refl _) s).symm
  have halone (k : MergeKey) : alone k = p.resolveTo (n + 1) (.scope info (ofKey k ds)) (t k) := by
    refine (hfaithful.resolveTo_eq ?_ (t k)).symm
    exact Nat.succ_le_succ (heightAll_ofKey_le k ds)
  have hchildren (k : MergeKey) :
      (alone k).value.children = (leftOf answer (ofKey k ds)).map (resolved answer n) := by
    rw [halone k, (hp.resolveTo (n + 1) _ (t k)).2]
    rfl
  refine ⟨?_, ?_, fun k => ⟨?_, ?_⟩, inquiries answer ((Decl.scope info ds).height + p.reach) (.scope info ds),
    ?_, hp.nodup_inquiries hfaithful s _ _, ?_, ?_⟩
  · rw [hwhole]
    exact (hp.resolveTo (n + 1) _ s).1
  · rw [hwhole, (hp.resolveTo (n + 1) _ s).2, resolved, map_leftOf]
    simp only [hchildren]
  · rw [halone k]
    exact (hp.resolveTo (n + 1) _ (t k)).1
  · rw [hchildren k, List.length_map, leftOf_ofKey]
    exact Option.length_toList_le
  · exact (hp.recording_resolveTo _ _ (s, [])).symm
  · intro path cs cs'
    exact hp.enters_unique hfaithful s
  · intro q
    rw [hp.mem_inquiries hfaithful s (Nat.le_add_right ..)]
    exact exists_congr fun cs => and_congr_right' question?_eq_some_iff

theorem resolve_key_by_key_reopened :
    let x (value : String) : Decl := .member { name := "X", body := .constant (.text value) false }
    let a (ds : List Decl) : Decl := .scope { name := "A", kind := .ofClass {} } ds
    let ds : List Decl := [x "1", a [x "1"], x "2", a [x "2"]]
    let p : Policy Unit String := keep 1
    p.Stateless (fun _ ds => ds[1]?) ∧ p.Faithful ∧
      p.resolve (.scope {} ds) () = { value := .scope {} [x "2", a [x "2"]], state := () } ∧
      (keys ds).flatMap (fun k => (p.resolve (.scope {} (ofKey k ds)) ()).value.children) = [x "2", a [x "2"]] ∧
      ∃ asked : List Inquiry, (asked.map Inquiry.place).Nodup ∧
        asked.map (fun q => q.candidates.map Decl.name) = [["X", "X"], ["X", "X"]] := by
  intro x a ds p
  have hstateless : p.Stateless fun _ ds => ds[1]? := fun _ _ _ => rfl
  have hresolve : p.resolve (.scope {} ds) () = { value := .scope {} [x "2", a [x "2"]], state := () } := by cbv
  have hasked : (p.asked (.scope {} ds) ()).map (fun q => q.2.map Decl.name) = [["X", "X"], ["X", "X"]] := by
    decide +kernel
  obtain ⟨-, hvalue, -, asked, hquestions, hplaces, -⟩ :=
    resolve_key_by_key hstateless (keep_faithful 1) {} ds () fun _ => ()
  rw [hresolve] at hvalue
  rw [← hquestions, List.map_map] at hasked
  exact ⟨hstateless, keep_faithful 1, hresolve, (Decl.scope.inj hvalue).2.symm, asked, hplaces, hasked⟩

end Policy
end RubyStubs
