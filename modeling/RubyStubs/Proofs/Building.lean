import RubyStubs.Decl.Build
import Mathlib.Data.List.Basic

namespace RubyStubs

theorem Member.attribute_comments {name kind : String} {m : Method} {type : TypeLike} {comments : List String}
    {a : Member} (h : Member.attribute name kind m type comments = .ok a) : a.comments = comments := by
  unfold Member.attribute at h
  cases htype : type.toType? with
  | error e =>
    rw [htype] at h
    cases h
  | ok result =>
    rw [htype] at h
    cases hkind : AttributeKind.ofLabel? kind with
    | none => simp [bind, Except.bind, hkind] at h
    | some k =>
      simp only [bind, Except.bind, hkind] at h
      cases h
      rfl

theorem Supply.items_ofExcept {α : Type} {x : Except BuildError α} {e : BuildError}
    (h : (ofExcept x).failure = some e) : (ofExcept x).items = [] := by
  cases x with
  | error e => rfl
  | ok a => cases h

theorem Blueprint.eq_mixins_of_failure {b : Blueprint} {e : BuildError} (h : b.parts.failure = some e)
    (hmade : b.parts.items ≠ []) : ∃ kind targets, b = .mixins kind targets := by
  match b with
  | .scope _ _ | .constant _ _ _ | .code _ => cases h
  | .enumOf _ _ _ | .structOf _ _ _ | .method _ _ | .attribute _ _ _ _ => exact absurd (Supply.items_ofExcept h) hmade
  | .mixins kind targets => exact ⟨kind, targets, rfl⟩

theorem Blueprint.comments_of_mem_parts (b : Blueprint) : ∀ d ∈ b.parts.items, d.comments = [] := by
  match b with
  | .scope _ _ | .constant _ _ _ | .code _ => exact List.forall_mem_singleton.mpr rfl
  | .enumOf _ _ _ | .structOf _ _ _ | .method _ _ => exact Supply.forall_mem_ofExcept_map fun _ _ => rfl
  | .attribute _ _ _ _ => exact Supply.forall_mem_ofExcept_map fun _ => Member.attribute_comments
  | .mixins _ _ => exact List.forall_mem_map.mpr fun _ _ => rfl

namespace Decl

@[simp]
theorem setComments_comments (d : Decl) : d.setComments d.comments = d := by
  cases d <;> rfl

@[simp]
theorem comments_setComments (d : Decl) (cs : List String) : (d.setComments cs).comments = cs := by
  cases d <;> rfl

def receive (comments : List String) (ds : List Decl) : List Decl :=
  ds.modifyHead fun d => d.setComments (comments ++ d.comments)

theorem receive_nil (ds : List Decl) : receive [] ds = ds := by
  cases ds <;> simp [receive]

theorem foldl_adopt (cs : List Decl) (s : Scope) (ds : List Decl) :
    cs.foldl adopt (.scope s ds) =
      .scope { s with pending := if cs.isEmpty then s.pending else [] } (ds ++ receive s.pending cs) := by
  induction cs generalizing s ds with
  | nil => simp [receive]
  | cons c cs ih =>
    rw [List.foldl_cons, adopt, ih, receive_nil]
    simp [receive]

theorem construct_scope (s : Scope) (ds : List Decl) (b : Blueprint) :
    (Decl.scope s ds).construct b =
      (b.parts.failure.elim (.ok (receive s.pending b.parts.items)) .error,
        .scope { s with pending := if b.parts.items.isEmpty then s.pending else [] }
          (ds ++ receive s.pending b.parts.items)) := by
  simp [construct, foldl_adopt, children]

theorem construct_cases (s : Scope) (ds : List Decl) (b : Blueprint) :
    (∃ e, (Decl.scope s ds).construct b = (.error e, .scope s ds)) ∨
      (∃ fresh, b.parts = { items := fresh } ∧
        (Decl.scope s ds).construct b =
          (.ok (receive s.pending fresh),
            .scope { s with pending := if fresh.isEmpty then s.pending else [] } (ds ++ receive s.pending fresh))) ∨
      ∃ kind targets e, b = .mixins kind targets ∧ targets.items ≠ [] ∧ targets.failure = some e ∧
        (Decl.scope s ds).construct b =
          (.error e, .scope { s with pending := [] } (ds ++ receive s.pending (targets.items.map (ofMixin kind ·)))) := by
  have hconstruct := construct_scope s ds b
  cases hfailure : b.parts.failure with
  | none =>
    rw [hfailure] at hconstruct
    exact .inr (.inl ⟨b.parts.items, by rw [← hfailure], hconstruct⟩)
  | some e =>
    rw [hfailure] at hconstruct
    by_cases hmade : b.parts.items = []
    · rw [hmade] at hconstruct
      exact .inl ⟨e, by simpa [receive] using hconstruct⟩
    · obtain ⟨kind, targets, rfl⟩ := Blueprint.eq_mixins_of_failure hfailure hmade
      have hitems : (Blueprint.mixins kind targets).parts.items = targets.items.map (ofMixin kind ·) := rfl
      rw [hitems] at hmade hconstruct
      have hmade : targets.items ≠ [] := by simpa using hmade
      refine .inr (.inr ⟨kind, targets, e, rfl, hmade, hfailure, ?_⟩)
      simpa [hmade] using hconstruct

end Decl

inductive BuildStep where
  | queue (comments : Supply String)
  | make (b : Blueprint)

def BuildStep.queued : BuildStep → List String
  | .queue comments => comments.items
  | .make _ => []

namespace Decl

def perform (d : Decl) : BuildStep → Decl
  | .queue comments => d.queueComments comments.items
  | .make b => (d.construct b).2

def performAt (step : BuildStep) : List Nat → Decl → Decl
  | [], d => d.perform step
  | i :: path, .scope s ds => .scope s (ds.modify i (performAt step path))
  | _ :: _, .member m => .member m

def performAll (d : Decl) (steps : List (List Nat × BuildStep)) : Decl :=
  steps.foldl (fun d step => performAt step.2 step.1 d) d

def queuedAt (path : List Nat) (steps : List (List Nat × BuildStep)) : List String :=
  (steps.filter (·.1 = path)).flatMap (·.2.queued)

/-- The second scope is the first with children added. Those it had have the comments they had. What the added ones
have received, one after another, and what waits still is what waited at first and what was queued since. -/
inductive Grown (queued : List String) : Decl → Decl → Prop
  | scope (s : Scope) (ds : List Decl) {es : List Decl} {pending : List String} (received : List (List String))
      (children : es.map comments = ds.map comments ++ received)
      (conserved : received.flatten ++ pending = s.pending ++ queued) :
      Grown queued (.scope s ds) (.scope { s with pending } es)

namespace Grown

theorem refl {d : Decl} (h : d.isScope) : Grown [] d d := by
  cases d with
  | scope s ds => exact .scope s ds [] (by simp) (by simp)
  | member m => cases h

theorem trans {queued more : List String} {d e f : Decl} (h : Grown queued d e) (h' : Grown more e f) :
    Grown (queued ++ more) d f := by
  cases h with
  | scope s ds received hchildren hconserved =>
    cases h' with
    | scope _ _ received' hchildren' hconserved' =>
      apply Grown.scope s ds (received ++ received')
      · rw [hchildren', hchildren, List.append_assoc]
      · rw [List.flatten_append, List.append_assoc, hconserved', ← List.append_assoc, hconserved,
          List.append_assoc]

theorem isScope {queued : List String} {d e : Decl} (h : Grown queued d e) : e.isScope := by
  cases h
  rfl

theorem of_comments (s : Scope) {ds es : List Decl} (h : es.map comments = ds.map comments) :
    Grown [] (.scope s ds) (.scope s es) :=
  .scope s ds [] (by simp [h]) (by simp)

end Grown

theorem comments_adopt (d c : Decl) : (d.adopt c).comments = d.comments := by
  cases d <;> rfl

theorem comments_foldl_adopt (cs : List Decl) (d : Decl) : (cs.foldl adopt d).comments = d.comments := by
  induction cs generalizing d with
  | nil => rfl
  | cons c cs ih => exact (ih (d.adopt c)).trans (d.comments_adopt c)

theorem map_comments_modify (ds : List Decl) (i : Nat) {f : Decl → Decl} (hf : ∀ d, (f d).comments = d.comments) :
    (ds.modify i f).map comments = ds.map comments := by
  apply List.ext_getElem?
  intro j
  rw [List.getElem?_map, List.getElem?_map, List.getElem?_modify]
  by_cases hij : i = j <;> cases ds[j]? <;> simp [hij, hf]

theorem comments_perform (d : Decl) (step : BuildStep) : (d.perform step).comments = d.comments := by
  cases step with
  | queue comments => cases d <;> rfl
  | make b => exact comments_foldl_adopt b.parts.items d

theorem comments_performAt (step : BuildStep) (path : List Nat) (d : Decl) :
    (performAt step path d).comments = d.comments := by
  cases path with
  | nil => exact d.comments_perform step
  | cons i path => cases d <;> rfl

theorem flatMap_comments_receive (queue : List String) {ds : List Decl} (h : ∀ d ∈ ds, d.comments = []) :
    ((receive queue ds).map comments).flatten = if ds.isEmpty then [] else queue := by
  cases ds with
  | nil => rfl
  | cons d ds =>
    obtain ⟨hd, hds⟩ := List.forall_mem_cons.mp h
    have hnil : (ds.map comments).flatten = [] := by
      rw [List.flatten_eq_nil_iff]
      exact List.forall_mem_map.mpr hds
    simp [receive, hd, hnil]

theorem perform_grown {d : Decl} (h : d.isScope) (step : BuildStep) : Grown step.queued d (d.perform step) := by
  cases d with
  | member m => cases h
  | scope s ds =>
    cases step with
    | queue comments => exact .scope s ds [] (by simp) rfl
    | make b =>
      rw [perform, construct_scope]
      apply Grown.scope s ds ((receive s.pending b.parts.items).map comments) (by simp)
      rw [flatMap_comments_receive s.pending b.comments_of_mem_parts]
      by_cases hnil : b.parts.items = [] <;> simp [hnil, BuildStep.queued]

theorem getElem?_children_perform {d c : Decl} {i : Nat} (h : d.children[i]? = some c) (step : BuildStep) :
    (d.perform step).children[i]? = some c := by
  cases d with
  | member m => cases h
  | scope s ds =>
    cases step with
    | queue comments => exact h
    | make b =>
      obtain ⟨hlt, -⟩ := List.getElem?_eq_some_iff.mp h
      rw [perform, construct_scope]
      exact (List.getElem?_append_left hlt).trans h

theorem performAt_grown (step : BuildStep) (place path : List Nat) {d c : Decl} (hc : d.descend? path = some c)
    (hscope : c.isScope) :
    ∃ c', (performAt step place d).descend? path = some c' ∧
      Grown (if place = path then step.queued else []) c c' := by
  -- The two paths are followed side by side until one of them ends or they part.
  induction path generalizing d place with
  | nil =>
    cases hc
    cases place with
    | nil =>
      rw [performAt, if_pos rfl]
      exact ⟨_, rfl, perform_grown hscope step⟩
    | cons i place =>
      cases c with
      | member m => cases hscope
      | scope s ds =>
        have hsame := map_comments_modify ds i fun c => comments_performAt step place c
        exact ⟨_, rfl, .of_comments s hsame⟩
  | cons j path ih =>
    rw [descend?, Option.bind_eq_some_iff] at hc
    obtain ⟨e, he, hc⟩ := hc
    cases place with
    | nil =>
      refine ⟨c, ?_, .refl hscope⟩
      rw [performAt, descend?, getElem?_children_perform he step]
      exact hc
    | cons i place =>
      cases d with
      | member m => cases he
      | scope s ds =>
        rw [children] at he
        by_cases hij : i = j
        · subst hij
          obtain ⟨c', hc', hgrown⟩ := ih place hc
          refine ⟨c', ?_, by simpa using hgrown⟩
          rw [performAt, descend?, children, List.getElem?_modify_eq, he]
          exact hc'
        · refine ⟨c, ?_, by simpa [hij] using Grown.refl hscope⟩
          rw [performAt, descend?, children, List.getElem?_modify_ne _ _ hij, he]
          exact hc

theorem performAll_grown (steps : List (List Nat × BuildStep)) (path : List Nat) {d c : Decl}
    (hc : d.descend? path = some c) (hscope : c.isScope) :
    ∃ c', (d.performAll steps).descend? path = some c' ∧ Grown (queuedAt path steps) c c' := by
  induction steps generalizing d c with
  | nil => exact ⟨c, hc, .refl hscope⟩
  | cons step steps ih =>
    obtain ⟨e, he, hgrown⟩ := performAt_grown step.2 step.1 path hc hscope
    obtain ⟨c', hc', hgrown'⟩ := ih he hgrown.isScope
    refine ⟨c', hc', ?_⟩
    have hqueued : queuedAt path (step :: steps) =
        (if step.1 = path then step.2.queued else []) ++ queuedAt path steps := by
      by_cases h : step.1 = path <;> simp [queuedAt, h]
    rw [hqueued]
    exact hgrown.trans hgrown'

/-- A blueprint that fails leaves a scope as it was, unless mixins are made of targets that break off: those that were
given by then are made. What is made is put at the end, the first of it takes the queue, before the comments that it
has, and nothing else changes; the queue is then empty unless nothing was made. Over a run of steps on any scopes of a
tree, failing ones among them, what is queued for the children of one of them is handed to its new children or waits
still, in order, each comment once. -/
theorem building_conserves_comments :
    (∀ (s : Scope) (ds : List Decl) (b : Blueprint),
      (∃ e, (Decl.scope s ds).construct b = (.error e, .scope s ds)) ∨
        (∃ fresh, b.parts = { items := fresh } ∧
          (Decl.scope s ds).construct b =
            (.ok (receive s.pending fresh),
              .scope { s with pending := if fresh.isEmpty then s.pending else [] } (ds ++ receive s.pending fresh))) ∨
        ∃ kind targets e, b = .mixins kind targets ∧ targets.items ≠ [] ∧ targets.failure = some e ∧
          (Decl.scope s ds).construct b =
            (.error e,
              .scope { s with pending := [] } (ds ++ receive s.pending (targets.items.map (ofMixin kind ·))))) ∧
    ∀ (root : Decl) (steps : List (List Nat × BuildStep)) (path : List Nat) (c : Decl),
      root.descend? path = some c → c.isScope →
        ∃ c', (root.performAll steps).descend? path = some c' ∧ Grown (queuedAt path steps) c c' := by
  refine ⟨construct_cases, fun root steps path c hc hscope => ?_⟩
  exact performAll_grown steps path hc hscope

theorem building_conserves_comments_mid_sequence :
    let twice : MethodRequest := { result := .text "A", returns := .text "B" }
    let targets : Supply String := { items := ["M", "N"], failure := some (.raised "TypeError" "no text") }
    let steps : List (List Nat × BuildStep) :=
      [([], .queue { items := ["One."] }), ([], .make (.attribute "a" "getter" (.text "A") false)),
        ([], .queue { items := ["Two."] }), ([], .make (.mixins .included {})),
        ([], .make (.scope "C" (.ofClass {}))), ([0], .queue { items := ["Three."] }),
        ([0], .make (.method "f" twice)), ([], .queue { items := ["Four."] }),
        ([0], .make (.mixins .extended targets))]
    let m : Decl := .member { name := "M", body := .mixin .extended "M", comments := ["Three."] }
    let n : Decl := .member { name := "N", body := .mixin .extended "N" }
    let c : Decl := .scope { name := "C", kind := .ofClass {}, comments := ["One.", "Two."] } [m, n]
    let root : Decl := .scope { pending := ["Four."] } [c]
    (Decl.scope {} []).performAll steps = root ∧ Grown ["One.", "Two.", "Four."] (.scope {} []) root := by
  intro twice targets steps m n c root
  have hroot : (Decl.scope {} []).performAll steps = root := rfl
  obtain ⟨c', hc', hgrown⟩ := building_conserves_comments.2 (.scope {} []) steps [] _ rfl rfl
  rw [hroot] at hc'
  cases hc'
  exact ⟨hroot, hgrown⟩

theorem broken_off_mixins_stay :
    let e : BuildError := .raised "ValueError" "no target"
    let d : Decl := .scope { pending := ["One."] } []
    let m : Decl := .member { name := "M", body := .mixin .extended "M", comments := ["One."] }
    let made := d.construct (.mixins .extended { items := ["M"], failure := some e })
    made = (.error e, .scope {} [m]) ∧ made.2.children ≠ d.children := by
  exact ⟨rfl, nofun⟩

end Decl
end RubyStubs
