import RubyStubs.Proofs.Qualified

/-!
The name under which a signature file declares an interface, with the names of the modules that it stands in. The
underscore of an interface is put in front of the whole name on its line. Where outer names are folded into that name,
the interface is declared under another name than where they are modules.
-/

namespace RubyStubs

structure Surrounding where
  scope : Scope
  before : List Decl
  after : List Decl

namespace Surrounding

def fill (r : Surrounding) (d : Decl) : Decl := .scope r.scope (r.before ++ d :: r.after)

def isFolded (r : Surrounding) : Bool := Layout.folds r.scope (r.before ++ r.after)

structure IsNamed (r : Surrounding) : Prop where
  kind : r.scope.kind = .plain
  name : r.scope.name ≠ ""

theorem folds_eq_isFolded (r : Surrounding) {d : Decl} (hd : d.isScope) :
    Layout.folds r.scope (r.before ++ d :: r.after) = r.isFolded := by
  simp [isFolded, Layout.folds, List.all_append, hd]

end Surrounding

def Decl.inside (rs : List Surrounding) (d : Decl) : Decl := rs.foldr Surrounding.fill d

theorem Decl.isScope_inside {d : Decl} (hd : d.isScope) (rs : List Surrounding) : (d.inside rs).isScope := by
  cases rs with
  | nil => exact hd
  | cons r rs => rfl

namespace Layout

theorem mem_ordered {st : Style} {blocks : List (String × List String)} {b : String × List String} (h : b ∈ blocks) :
    b ∈ ordered st blocks := by
  unfold ordered
  split
  · exact List.mem_mergeSort.mpr h
  · exact h

theorem exists_foldl_addBlock_eq_append (bs : List (String × List String)) (lines : List String) :
    ∃ after, bs.foldl (fun lines b => addBlock lines b.2) lines = lines ++ after := by
  induction bs generalizing lines with
  | nil => exact ⟨[], by simp⟩
  | cons b bs ih =>
    obtain ⟨after, hafter⟩ := ih (addBlock lines b.2)
    rw [List.foldl_cons, hafter]
    by_cases hlines : lines = []
    · exact ⟨b.2 ++ after, by rw [hlines, addBlock_nil]; simp⟩
    · exact ⟨[""] ++ b.2 ++ after, by rw [addBlock_of_ne_nil hlines]; simp⟩

theorem exists_foldl_addBlock {bs : List (String × List String)} {b : String × List String} (h : b ∈ bs)
    (lines : List String) :
    ∃ before after, bs.foldl (fun lines b => addBlock lines b.2) lines = before ++ b.2 ++ after := by
  induction bs generalizing lines with
  | nil => cases h
  | cons c bs ih =>
    rw [List.foldl_cons]
    rcases List.mem_cons.mp h with rfl | hmem
    · obtain ⟨after, hafter⟩ := exists_foldl_addBlock_eq_append bs (addBlock lines b.2)
      exact ⟨_, after, by rw [hafter, addBlock]⟩
    · exact ih hmem _

theorem exists_body (D : Dialect) (st : Style) (level : Int) {d : Decl} {ds : List Decl} (h : d ∈ ds) (s : Scope)
    (qualifier : String) :
    ∃ before after, body st level s (blocks D st ds level qualifier) =
      before ++ child D st d level qualifier ++ after := by
  have hmem : (d.name, child D st d level qualifier) ∈ ordered st (blocks D st ds level qualifier) := by
    apply mem_ordered
    rw [blocks_eq_map]
    exact List.mem_map_of_mem h
  exact exists_foldl_addBlock hmem (mixins st level s)

end Layout

namespace Rbs

/-- The lines declare an interface with the given lines in it. Its full name is in parts: the names on the lines that
open the modules around it, the outermost first, and the name on its own line. -/
inductive Declares (st : Style) (body : Int → List String) : Int → List String → List String → Prop where
  | interface (level : Int) (name : String) (before after : List String) :
    Declares st body level [name]
      (before ++ st.indented level ("interface " ++ name) :: body (level + 1) ++
        st.indented level "end" :: after)
  | module {level : Int} {names lines : List String} (h : Declares st body (level + 1) names lines)
      (outer : String) (before after : List String) :
    Declares st body level (outer :: names)
      (before ++ st.indented level ("module " ++ outer) :: lines ++ st.indented level "end" :: after)

theorem Declares.among {st : Style} {body : Int → List String} {level : Int} {names lines : List String}
    (h : Declares st body level names lines) (before after : List String) :
    Declares st body level names (before ++ lines ++ after) := by
  cases h with
  | interface _ name before' after' =>
    have hlines : Declares st body level [name] _ := .interface level name (before ++ before') (after' ++ after)
    simpa only [List.append_assoc, List.cons_append] using hlines
  | module h outer before' after' =>
    have hlines := Declares.module h outer (before ++ before') (after' ++ after)
    simpa only [List.append_assoc, List.cons_append] using hlines

theorem Declares.opening_mem {st : Style} {body : Int → List String} {level : Int} {names lines : List String}
    (h : Declares st body level names lines) :
    (∃ name, names = [name] ∧ st.indented level ("interface " ++ name) ∈ lines) ∨
      ∃ outer inner, names = outer :: inner ∧ st.indented level ("module " ++ outer) ∈ lines := by
  cases h with
  | interface _ name before after => exact .inl ⟨name, rfl, by simp⟩
  | module h outer before after => exact .inr ⟨outer, _, rfl, by simp⟩

def writtenNames : List Surrounding → (qualifier name : String) → List String
  | [], qualifier, name => [interfaceName (qualifier ++ name)]
  | r :: rs, qualifier, name =>
    if r.isFolded then writtenNames rs (qualifier ++ r.scope.name ++ "::") name
    else (qualifier ++ r.scope.name) :: writtenNames rs "" name

def qualifierAt : List Surrounding → (qualifier : String) → String
  | [], qualifier => qualifier
  | r :: rs, qualifier =>
    if r.isFolded then qualifierAt rs (qualifier ++ r.scope.name ++ "::") else qualifierAt rs ""

section Lines

open Layout

variable (st : Style) {s : Scope} (hs : s.kind = .ofModule true) (ds : List Decl)
include hs

theorem declares_interface (level : Int) (qualifier : String) :
    Declares st (fun l => body st l s (blocks rbs st ds l "")) level [interfaceName (qualifier ++ s.name)]
      (child rbs st (.scope s ds) level qualifier) := by
  have hframed : s.kind ≠ .plain := by simp [hs]
  have hsections : rbs.sections st (level + 1) (qualify qualifier s) = [] := rfl
  have hopening : rbs.opening (qualify qualifier s) = "interface " ++ interfaceName (qualifier ++ s.name) := by
    simp [rbs, opening, qualify, hs]
  rw [child_of_framed hframed, scope_of_framed rbs st level (s := qualify qualifier s) hframed, hsections, framed,
    joinSections_concat (by simp), hopening]
  have hlines : Declares st (fun l => body st l s (blocks rbs st ds l "")) level
      [interfaceName (qualifier ++ s.name)] _ :=
    .interface level _ (comments st level s.comments) []
  rw [List.append_assoc, List.cons_append] at hlines
  exact hlines

theorem declares_inside : ∀ (rs : List Surrounding) (level : Int) (qualifier : String), (∀ r ∈ rs, r.IsNamed) →
    Declares st (fun l => body st l s (blocks rbs st ds l "")) level (writtenNames rs qualifier s.name)
      (child rbs st (Decl.inside rs (.scope s ds)) level qualifier)
  | [], level, qualifier, _ => declares_interface st hs ds level qualifier
  | r :: rs, level, qualifier, h => by
    obtain ⟨hr, hrs⟩ := List.forall_mem_cons.mp h
    let d := Decl.inside rs (.scope s ds)
    have hd : d ∈ r.before ++ d :: r.after := by simp
    have hfolds : folds r.scope (r.before ++ d :: r.after) = r.isFolded :=
      r.folds_eq_isFolded (Decl.isScope_inside rfl rs)
    change Declares st _ level _ (child rbs st (.scope r.scope (r.before ++ d :: r.after)) level qualifier)
    rw [writtenNames]
    -- Folded, the scope adds no line but hands its name on; else the lines inside stand in its module one level deeper.
    by_cases hfolded : r.isFolded = true
    · have hplain : (r.scope.kind == .plain && !r.scope.name.isEmpty) = true := by simp [hr.kind, hr.name]
      obtain ⟨before, after, hbody⟩ := exists_body rbs st level hd r.scope
        (qualifier ++ r.scope.name ++ "::")
      rw [if_pos hfolded, child, if_pos hplain, if_pos (hfolds.trans hfolded), hbody]
      have hinside := declares_inside rs level (qualifier ++ r.scope.name ++ "::") hrs
      simpa only [List.append_assoc] using hinside.among (comments st level r.scope.comments ++ before) after
    · obtain ⟨before, after, hbody⟩ := exists_body rbs st (level + 1) hd r.scope ""
      rw [if_neg hfolded, child_of_module hr.kind hr.name (by simpa [hfolds] using hfolded), hbody,
        String.append_assoc]
      have hinside := (declares_inside rs (level + 1) "" hrs).among before after
      exact .module hinside (qualifier ++ r.scope.name) (comments st level r.scope.comments) []

theorem declares_program {rs : List Surrounding} (hrs : ∀ r ∈ rs, r.IsNamed) (root : Scope)
    (before after : List Decl) :
    Declares st (fun l => body st l s (blocks rbs st ds l "")) 0 (writtenNames rs "" s.name)
      (program rbs st (.scope root (before ++ Decl.inside rs (.scope s ds) :: after))) := by
  have hmem : Decl.inside rs (.scope s ds) ∈ before ++ Decl.inside rs (.scope s ds) :: after := by simp
  obtain ⟨first, last, hbody⟩ := exists_body rbs st 0 hmem root ""
  rw [program, hbody]
  have hinside := declares_inside st hs ds rs 0 "" hrs
  simpa only [List.append_assoc] using hinside.among (comments st 0 root.comments ++ first) last

end Lines

section Names

theorem startsWith_underscore_iff (s : String) : Text.startsWith s "_" = true ↔ s.toList.head? = some '_' := by
  have hunderscore : "_".toList = ['_'] := rfl
  rw [Text.startsWith, hunderscore]
  cases s.toList with
  | nil => simp
  | cons c cs =>
    simp only [List.isPrefixOf, Bool.and_true, beq_iff_eq, List.head?_cons, Option.some.injEq]
    exact eq_comm

theorem startsWith_append_of_ne_empty {q : String} (hq : q ≠ "") (n : String) :
    Text.startsWith (q ++ n) "_" = Text.startsWith q "_" := by
  have hne : q.toList ≠ [] := by simpa using hq
  rw [Bool.eq_iff_iff, startsWith_underscore_iff, startsWith_underscore_iff, String.toList_append,
    List.head?_append, Option.or_of_isSome (by simpa using hne)]

theorem interfaceName_eq_self_iff (n : String) : interfaceName n = n ↔ Text.startsWith n "_" = true := by
  unfold interfaceName
  split
  · next h => simp [h]
  · next h =>
    refine iff_of_false (fun heq => ?_) h
    have hlength := congrArg String.length heq
    simp at hlength

theorem interfaceName_append_iff (q n : String) : interfaceName (q ++ n) = q ++ interfaceName n ↔
    q = "" ∨ Text.startsWith q "_" = true ∧ Text.startsWith n "_" = true := by
  by_cases hq : q = ""
  · simp [hq]
  · by_cases hstart : Text.startsWith q "_" = true
    · have hname : interfaceName (q ++ n) = q ++ n := by
        rw [interfaceName_eq_self_iff, startsWith_append_of_ne_empty hq]
        exact hstart
      rw [hname, String.append_right_inj, eq_comm, interfaceName_eq_self_iff]
      simp [hq, hstart]
    · have hname : interfaceName (q ++ n) = "_" ++ (q ++ n) := by
        rw [interfaceName, startsWith_append_of_ne_empty hq, if_neg hstart]
      refine iff_of_false (fun heq => hstart ?_) (by simp [hq, hstart])
      have hfirst : Text.startsWith (q ++ interfaceName n) "_" = true := by
        rw [← heq, hname, startsWith_underscore_iff]
        simp
      rwa [startsWith_append_of_ne_empty hq] at hfirst

theorem writtenNames_ne_nil (rs : List Surrounding) (qualifier name : String) :
    writtenNames rs qualifier name ≠ [] := by
  induction rs generalizing qualifier with
  | nil => simp [writtenNames]
  | cons r rs ih =>
    rw [writtenNames]
    split
    · exact ih _
    · simp

theorem exists_outer (rs : List Surrounding) (qualifier : String) :
    ∃ outer : String, ∀ name,
      "::".intercalate (writtenNames rs qualifier name) = outer ++ interfaceName (qualifierAt rs qualifier ++ name) ∧
      qualifier ++ "::".intercalate (rs.map (·.scope.name) ++ [name]) =
        outer ++ (qualifierAt rs qualifier ++ name) := by
  induction rs generalizing qualifier with
  | nil => exact ⟨"", fun name => by simp [writtenNames, qualifierAt]⟩
  | cons r rs ih =>
    have hmeant (name : String) :
        "::".intercalate ((r :: rs).map (·.scope.name) ++ [name]) =
          r.scope.name ++ "::" ++ "::".intercalate (rs.map (·.scope.name) ++ [name]) := by
      rw [List.map_cons, List.cons_append, String.intercalate_cons_of_ne_nil (by simp)]
    by_cases hfolded : r.isFolded = true
    · obtain ⟨outer, h⟩ := ih (qualifier ++ r.scope.name ++ "::")
      refine ⟨outer, fun name => ?_⟩
      rw [hmeant, writtenNames, qualifierAt, if_pos hfolded, if_pos hfolded]
      refine ⟨(h name).1, ?_⟩
      rw [← (h name).2]
      simp only [String.append_assoc]
    · obtain ⟨outer, h⟩ := ih ""
      refine ⟨qualifier ++ r.scope.name ++ "::" ++ outer, fun name => ?_⟩
      rw [hmeant, writtenNames, qualifierAt, if_neg hfolded, if_neg hfolded,
        String.intercalate_cons_of_ne_nil (writtenNames_ne_nil rs "" name), (h name).1]
      have hsame := (h name).2
      rw [String.empty_append] at hsame
      rw [hsame]
      simp only [String.append_assoc, and_self]

end Names

/-- The lines for an interface in plain scopes declare it, with the name of each scope either in a module around it or
on its own line. The whole is its name inside the outer names, with the underscore on the last part, exactly where no
folded scope is right around it, or where both the folded names and its own begin with an underscore already. -/
theorem interface_name_iff (st : Style) {s : Scope} (hs : s.kind = .ofModule true) (ds : List Decl)
    {rs : List Surrounding} (hrs : ∀ r ∈ rs, r.IsNamed) (root : Scope) (before after : List Decl) :
    Declares st (fun level => Layout.body st level s (Layout.blocks rbs st ds level "")) 0 (writtenNames rs "" s.name)
        (Layout.program rbs st (.scope root (before ++ Decl.inside rs (.scope s ds) :: after))) ∧
      ("::".intercalate (writtenNames rs "" s.name) =
          "::".intercalate (rs.map (·.scope.name) ++ [interfaceName s.name]) ↔
        qualifierAt rs "" = "" ∨
          Text.startsWith (qualifierAt rs "") "_" = true ∧ Text.startsWith s.name "_" = true) := by
  refine ⟨declares_program st hs ds hrs root before after, ?_⟩
  obtain ⟨outer, hnames⟩ := exists_outer rs ""
  have hmeant := (hnames (interfaceName s.name)).2
  rw [String.empty_append] at hmeant
  rw [(hnames s.name).1, hmeant, String.append_right_inj]
  exact interfaceName_append_iff _ _

theorem interface_name_iff_in_module :
    let x : Decl := .member { name := "X", body := .constant (.type .boolean) false }
    let rs : List Surrounding := [⟨{ name := "A" }, [], []⟩, ⟨{ name := "B" }, [x], []⟩]
    let s : Scope := { name := "M", kind := .ofModule true }
    (∀ r ∈ rs, r.IsNamed) ∧
      Declares {} (fun level => Layout.body {} level s (Layout.blocks rbs {} [x] level "")) 0 ["A::B", "_M"]
        ["module A::B", "  X: bool", "", "  interface _M", "    X: bool", "  end", "end"] ∧
      "::".intercalate ["A::B", "_M"] = "::".intercalate ["A", "B", "_M"] := by
  intro x rs s
  have hrs : ∀ r ∈ rs, r.IsNamed := by
    intro r hr
    simp only [rs, List.mem_cons, List.not_mem_nil, or_false] at hr
    rcases hr with rfl | rfl
    · exact ⟨rfl, by decide⟩
    · exact ⟨rfl, by decide⟩
  obtain ⟨hdeclares, hname⟩ := interface_name_iff {} (s := s) rfl [x] hrs {} [] []
  have hlines : Layout.program rbs {} (.scope {} ([] ++ Decl.inside rs (.scope s [x]) :: [])) =
      ["module A::B", "  X: bool", "", "  interface _M", "    X: bool", "  end", "end"] := by
    decide +kernel
  have hnames : writtenNames rs "" s.name = ["A::B", "_M"] := by decide
  rw [hlines, hnames] at hdeclares
  have hmeant : rs.map (·.scope.name) ++ [interfaceName s.name] = ["A", "B", "_M"] := by decide
  rw [hnames, hmeant] at hname
  exact ⟨hrs, hdeclares, hname.mpr (.inl (by decide))⟩

theorem interface_name_folded :
    ¬ ∀ (st : Style) (s : Scope) (ds : List Decl) (rs : List Surrounding) (root : Scope) (before after : List Decl),
      s.kind = .ofModule true → (∀ r ∈ rs, r.IsNamed) →
      ∃ names, Declares st (fun level => Layout.body st level s (Layout.blocks rbs st ds level "")) 0 names
          (Layout.program rbs st (.scope root (before ++ Decl.inside rs (.scope s ds) :: after))) ∧
        "::".intercalate names = "::".intercalate (rs.map (·.scope.name) ++ [interfaceName s.name]) := by
  intro h
  obtain ⟨names, hdeclares, hname⟩ := h {} { name := "M", kind := .ofModule true } [] [⟨{ name := "A" }, [], []⟩]
    {} [] [] rfl (by simpa using ⟨rfl, by decide⟩)
  have hlines : Layout.program rbs {} (.scope {} ([] ++ Decl.inside [⟨{ name := "A" }, [], []⟩]
      (.scope { name := "M", kind := .ofModule true } []) :: [])) = ["interface _A::M", "end"] := by
    decide +kernel
  rw [hlines] at hdeclares
  have hlevel (text : String) : ({} : Style).indented 0 text = text := String.empty_append
  rcases hdeclares.opening_mem with ⟨name, rfl, hmem⟩ | ⟨outer, inner, -, hmem⟩
  · simp only [hlevel, List.mem_cons, List.not_mem_nil, or_false] at hmem
    rcases hmem with heq | heq
    · rw [show "interface _A::M" = "interface " ++ "_A::M" from rfl, String.append_right_inj] at heq
      rw [heq] at hname
      exact absurd hname (by decide)
    · have hfirst := congrArg (·.toList.head?) heq
      simp at hfirst
  · simp only [hlevel, List.mem_cons, List.not_mem_nil, or_false] at hmem
    have hfirst : ("module " ++ outer).toList.head? = some 'm' := by simp
    rcases hmem with heq | heq
    · rw [heq] at hfirst
      exact absurd hfirst (by decide)
    · rw [heq] at hfirst
      exact absurd hfirst (by decide)

end Rbs
end RubyStubs
