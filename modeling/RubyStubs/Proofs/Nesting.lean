import RubyStubs.Proofs.TwoLayouts

namespace RubyStubs

namespace Text

theorem blanks_comm (m n : Int) : blanks m ++ blanks n = blanks n ++ blanks m := by
  simp only [blanks, ← String.ofList_append, List.replicate_append_replicate, Nat.add_comm]

theorem blanks_mul_add {a b : Int} (ha : 0 ≤ a) (hb : 0 ≤ b) (t : Int) :
    blanks (a * t) ++ blanks (b * t) = blanks ((a + b) * t) := by
  have hcount : (a * t).toNat + (b * t).toNat = ((a + b) * t).toNat := by
    rw [Int.add_mul]
    rcases Int.le_total 0 t with ht | ht
    · have hat := Int.mul_nonneg ha ht
      have hbt := Int.mul_nonneg hb ht
      omega
    · have hat := Int.mul_nonpos_of_nonneg_of_nonpos ha ht
      have hbt := Int.mul_nonpos_of_nonneg_of_nonpos hb ht
      omega
  simp only [blanks, ← String.ofList_append, List.replicate_append_replicate, hcount]

end Text

namespace Layout

def moved (n : Int) (l : String) : String := if l.isEmpty then l else Text.blanks n ++ l

theorem moved_of_ne {l : String} (h : l ≠ "") (n : Int) : moved n l = Text.blanks n ++ l :=
  if_neg (by simpa using h)

theorem indented_ne_empty (st : Style) (level : Int) {text : String} (h : text ≠ "") : st.indented level text ≠ "" := by
  simp [Style.indented, h]

theorem moved_indented (st : Style) {level k : Int} (hlevel : 0 ≤ level) (hk : 0 ≤ k) {text : String} (h : text ≠ "") :
    moved (k * st.tabSize) (st.indented level text) = st.indented (level + k) text := by
  rw [moved_of_ne (indented_ne_empty st level h), Style.indented, Style.indented, ← String.append_assoc,
    Text.blanks_mul_add hk hlevel, Int.add_comm]

theorem corresponds_moved (st : Style) {k : Int} (hk : 0 ≤ k) :
    Corresponds st st k fun ls ls' => ls' = ls.map (moved (k * st.tabSize)) where
  sorted := rfl
  nil := rfl
  gap := rfl
  append h h' := by rw [h, h', List.map_append]
  isEmpty h := by rw [h, List.isEmpty_map]
  line hlevel _ htext := by rw [List.map_singleton, moved_indented st hlevel hk htext]

def IsLaidOut (rows : List (Int × String)) : Prop := ∀ r ∈ rows, 0 ≤ r.1 ∧ r.2 ≠ ""

def layRows (st : Style) (level : Int) (rows : List (Int × String)) : List String :=
  rows.map fun r => st.indented (level + r.1) r.2

section Rows

variable {rows : List (Int × String)} (hrows : IsLaidOut rows) {level : Int}

include hrows

theorem layRows_moved (st : Style) (hlevel : 0 ≤ level) {k : Int} (hk : 0 ≤ k) :
    layRows st (level + k) rows = (layRows st level rows).map (moved (k * st.tabSize)) := by
  rw [layRows, layRows, List.map_map]
  apply List.map_congr_left
  intro r hr
  obtain ⟨hr1, hr2⟩ := hrows r hr
  have hswap : level + k + r.1 = level + r.1 + k := by omega
  rw [Function.comp_apply, moved_indented st (by omega) hk hr2, hswap]

theorem empty_not_mem_layRows (st : Style) : "" ∉ layRows st level rows := by
  intro hmem
  obtain ⟨r, hr, hempty⟩ := List.mem_map.mp hmem
  exact indented_ne_empty st _ (hrows r hr).2 hempty

end Rows

end Layout

namespace Rbi

open Layout

theorem withCommas_ne_empty {ps : List String} (h : ∀ p ∈ ps, p ≠ "") : ∀ p ∈ withCommas ps, p ≠ "" := by
  induction ps with
  | nil => exact h
  | cons p ps ih =>
    rw [List.forall_mem_cons] at h
    cases ps with
    | nil => simpa [withCommas] using h.1
    | cons q qs => exact List.forall_mem_cons.mpr ⟨by simp, ih h.2⟩

theorem exists_sigRows (st : Style) (m : Method) :
    ∃ rows, IsLaidOut rows ∧ ∀ level, sig st level m = layRows st level rows := by
  by_cases hbroken : (!(m.parameters.map Parameter.inSig).isEmpty &&
      decide (st.breakParams ≤ (m.parameters.map Parameter.inSig).length)) = true
  · refine ⟨[(0, sigWord m ++ " do"), (1, String.join (m.qualifiers.map (· ++ ".")) ++ "params(")] ++
      (withCommas (m.parameters.map Parameter.inSig)).map (fun p => (2, p)) ++
      [(1, ")." ++ resultCall m), (0, "end")], ?_, fun level => ?_⟩
    · have hparams : ∀ p ∈ m.parameters.map Parameter.inSig, p ≠ "" := by
        simp [Parameter.inSig]
      intro r hr
      simp only [List.mem_append, List.mem_cons, List.not_mem_nil, or_false, List.mem_map] at hr
      rcases hr with ((rfl | rfl) | ⟨p, hp, rfl⟩) | rfl | rfl
      · exact ⟨by simp, by simp⟩
      · exact ⟨by simp, by simp⟩
      · exact ⟨by simp, withCommas_ne_empty hparams p hp⟩
      · exact ⟨by simp, by simp⟩
      · exact ⟨by simp, by simp⟩
    · rw [sig, if_pos hbroken, sigBlock, layRows, List.map_append, List.map_append, List.map_map]
      simp only [List.map_cons, List.map_nil, Int.add_zero]
      rfl
  · refine ⟨[(0, sigLine m (m.parameters.map Parameter.inSig))], ?_, fun level => ?_⟩
    · intro r hr
      rw [List.mem_singleton.mp hr]
      exact ⟨by simp, by simp [sigLine]⟩
    · rw [sig, if_neg hbroken]
      simp [layRows]

theorem eigen_moved (st : Style) {level k : Int} (hlevel : 0 ≤ level) (hk : 0 ≤ k) (classLevel : Bool)
    {ls : List String} (hls : "" ∉ ls) :
    eigen st (level + k) classLevel (ls.map (moved (k * st.tabSize))) =
      (eigen st level classLevel ls).map (moved (k * st.tabSize)) := by
  cases classLevel with
  | false => rfl
  | true =>
    -- The lines inside are indented a second time, and the two indentations can be put on in either order.
    have hinner : (ls.map (moved (k * st.tabSize))).map (Text.blanks st.tabSize ++ ·) =
        (ls.map (Text.blanks st.tabSize ++ ·)).map (moved (k * st.tabSize)) := by
      rw [List.map_map, List.map_map]
      apply List.map_congr_left
      intro l hl
      have hl : l ≠ "" := fun h => hls (h ▸ hl)
      have hl' : Text.blanks st.tabSize ++ l ≠ "" := by simp [hl]
      rw [Function.comp_apply, Function.comp_apply, moved_of_ne hl, moved_of_ne hl', ← String.append_assoc,
        Text.blanks_comm, String.append_assoc]
    rw [eigen, eigen, if_pos rfl, if_pos rfl, hinner, List.map_append, List.map_cons, List.map_singleton,
      moved_indented st hlevel hk (by decide), moved_indented st hlevel hk (by decide)]

end Rbi

def Member.IsGapless (m : Member) : Prop := ∀ text, m.body = .code text → "" ∉ Text.lines text

namespace Layout

section Members

variable (st : Style) {k : Int} (hk : 0 ≤ k) {m : Member} (hm : m.IsGapless) {level : Int} (hlevel : 0 ≤ level)

include hk hm hlevel

theorem rbi_member_moved : Rbi.member st (level + k) m = (Rbi.member st level m).map (moved (k * st.tabSize)) := by
  have h := corresponds_moved st hk
  obtain ⟨name, body, comments⟩ := m
  match body with
  | .method b =>
    obtain ⟨rows, hrows, hsig⟩ := Rbi.exists_sigRows st b
    have hnonempty : Rbi.definition name b ≠ "" := by simp [Rbi.definition]
    have hline := h.line hlevel hnonempty
    simp only [Rbi.member, hsig, layRows_moved hrows st hlevel hk]
    exact h.append rfl hline
  | .attribute kind b =>
    obtain ⟨rows, hrows, hsig⟩ := Rbi.exists_sigRows st b
    have hcall : "attr_" ++ kind.label ++ " :" ++ name ≠ "" := by simp
    have hline := h.line hlevel hcall
    have hinner : "" ∉ layRows st level rows ++ [st.indented level ("attr_" ++ kind.label ++ " :" ++ name)] := by
      rw [List.mem_append, List.mem_singleton, not_or]
      exact ⟨empty_not_mem_layRows hrows st, (indented_ne_empty st level hcall).symm⟩
    simp only [Rbi.member, hsig, layRows_moved hrows st hlevel hk, hline, ← List.map_append]
    exact Rbi.eigen_moved st hlevel hk b.classLevel hinner
  | .constant value classLevel =>
    have htext : name ++ " = " ++ Rbi.constantText value ≠ "" := by simp
    have hline := h.line hlevel htext
    have hinner : "" ∉ [st.indented level (name ++ " = " ++ Rbi.constantText value)] := by
      rw [List.mem_singleton]
      exact (indented_ne_empty st level htext).symm
    simp only [Rbi.member, hline]
    exact Rbi.eigen_moved st hlevel hk classLevel hinner
  | .mixin kind target =>
    have htext : Rbi.mixinWord kind ++ target ≠ "" := by cases kind <;> simp [Rbi.mixinWord]
    exact h.line hlevel htext
  | .code text =>
    have hlines := hm text rfl
    exact h.lines hlevel id fun l hl hempty => hlines (hempty ▸ hl)
  | .bare => rfl

theorem rbs_member_moved : Rbs.member st (level + k) m = (Rbs.member st level m).map (moved (k * st.tabSize)) := by
  have h := corresponds_moved st hk
  obtain ⟨name, body, comments⟩ := m
  match body with
  | .method b =>
    simp only [Rbs.member, Rbs.method]
    split
    · rfl
    · next s rest _ =>
      apply h.cons hlevel (by simp)
      exact h.lines hlevel (fun s : Signature => _ ++ "| " ++ s.render) fun _ _ => by simp
  | .attribute kind b => exact h.line hlevel (by simp)
  | .constant value classLevel => exact h.line hlevel (by simp)
  | .mixin kind target =>
    have htext : Rbi.mixinWord kind ++ target ≠ "" := by cases kind <;> simp [Rbi.mixinWord]
    exact h.line hlevel htext
  | .code text =>
    have hlines := hm text rfl
    exact h.lines hlevel id fun l hl hempty => hlines (hempty ▸ hl)
  | .bare => rfl

end Members

theorem rbs_opening_ne_empty {s : Scope} (hs : s.kind ≠ .plain) : Rbs.opening s ≠ "" := by
  cases hkind : s.kind with
  | plain => exact absurd hkind hs
  | ofModule i => cases i <;> simp [Rbs.opening, hkind]
  | ofClass h | ofEnum h es | ofStruct h fs => simp [Rbs.opening, hkind, Rbi.classOpening]

theorem dialectCorresponds_moved {D : Dialect} (hD : D = rbi ∨ D = rbs) (st : Style) {k : Int} (hk : 0 ≤ k) :
    DialectCorresponds D Member.IsGapless st st k fun ls ls' => ls' = ls.map (moved (k * st.tabSize)) := by
  rcases hD with rfl | rfl
  · constructor
    · exact Rbi.opening_ne_empty
    · intro s level hlevel
      exact (corresponds_moved st hk).rbi_sections s hlevel
    · intro m hm level hlevel
      exact rbi_member_moved st hk hm hlevel
  · constructor
    · exact rbs_opening_ne_empty
    · intro s level hlevel
      exact .nil
    · intro m hm level hlevel
      exact rbs_member_moved st hk hm hlevel

/-- In both kinds of stub file a declaration is written at level `k`, and inside folded scopes, as it is at the
outermost level, with the indentation of `k` levels in front of each line that is not empty. -/
theorem rendering_nests {D : Dialect} (hD : D = rbi ∨ D = rbs) (st : Style) (k : Nat) {d : Decl}
    (hbare : d.hasBare = false) (hcode : ∀ m ∈ d.members, m.IsGapless) :
    (∃ lines, D.writeNode st d 0 = .ok lines ∧ D.writeNode st d k = .ok (lines.map (moved (k * st.tabSize)))) ∧
      ∀ qualifier, child D st d k qualifier = (child D st d 0 qualifier).map (moved (k * st.tabSize)) := by
  have hk : (0 : Int) ≤ k := Int.natCast_nonneg k
  have h := corresponds_moved st hk
  have hD := dialectCorresponds_moved hD st hk
  constructor
  · have hnode := h.node hD hcode (Int.le_refl 0)
    rw [Int.zero_add] at hnode
    refine ⟨node D st d 0, ?_, ?_⟩
    · rw [Dialect.writeNode, hbare]
      rfl
    · rw [Dialect.writeNode, hbare, hnode]
      rfl
  · intro qualifier
    have hchild := h.child hD d hcode 0 (Int.le_refl 0) qualifier
    rwa [Int.zero_add] at hchild

theorem rendering_nests_folded :
    let a : Member := { name := "a", body := .attribute .reader { result := some .boolean, classLevel := true } }
    let code : Member := { body := .code "x = 1\ny = 2" }
    let d : Decl := .scope { name := "A" } [.scope { name := "B", kind := .ofClass {} } [.member a, .member code]]
    d.hasBare = false ∧ (∀ m ∈ d.members, m.IsGapless) ∧
      child rbi {} d 0 "M::" =
        ["class M::A::B", "  class << self", "    sig { returns(T::Boolean) }", "    attr_reader :a", "  end", "",
          "  x = 1", "  y = 2", "end"] ∧
      child rbi {} d 1 "M::" =
        ["  class M::A::B", "    class << self", "      sig { returns(T::Boolean) }", "      attr_reader :a", "    end", "",
          "    x = 1", "    y = 2", "  end"] := by
  intro a code d
  have hcode : ∀ m ∈ d.members, m.IsGapless := by
    have hmembers : d.members = [a, code] := rfl
    rw [hmembers, List.forall_mem_cons, List.forall_mem_singleton]
    constructor
    · intro text htext
      cases htext
    · intro text htext
      cases htext
      decide
  have houter : child rbi {} d 0 "M::" =
      ["class M::A::B", "  class << self", "    sig { returns(T::Boolean) }", "    attr_reader :a", "  end", "",
        "  x = 1", "  y = 2", "end"] := by
    decide +kernel
  have hinner := (rendering_nests (.inl rfl) {} 1 rfl hcode).2 "M::"
  rw [houter] at hinner
  exact ⟨rfl, hcode, houter, hinner.trans (by decide +kernel)⟩

end Layout
end RubyStubs
