import RubyStubs.Proofs.Outcome
import RubyStubs.Proofs.SortedByName
import RubyStubs.Proofs.TwoLayouts

namespace RubyStubs

namespace Text

def solid (s : String) : List Char := s.toList.filter (!isBlank ·)

theorem solid_append (s t : String) : solid (s ++ t) = solid s ++ solid t := by
  rw [solid, String.toList_append, List.filter_append]
  rfl

theorem solid_blanks (n : Int) : solid (blanks n) = [] := by
  rw [solid, blanks, String.toList_ofList, List.filter_eq_nil_iff]
  intro c hc
  rw [List.eq_of_mem_replicate hc]
  decide

theorem solid_indented (st : Style) (level : Int) (s : String) : solid (st.indented level s) = solid s := by
  rw [Style.indented, solid_append, solid_blanks, List.nil_append]

end Text

theorem Broken.flatMap_solid {text : String} {lines : List String} (h : Broken text lines) :
    lines.flatMap Text.solid = Text.solid text := by
  induction h with
  | whole text => exact List.flatMap_singleton _ _
  | opened text _ ih => rw [List.flatMap_cons, ih, Text.solid_append (text ++ "(")]
  | comma text _ ih =>
    have hcomma : Text.solid ", " = Text.solid "," := by decide
    rw [List.flatMap_cons, ih, Text.solid_append (text ++ ", "), Text.solid_append text, Text.solid_append text, hcomma]
  | closing text _ ih => rw [List.flatMap_cons, ih, Text.solid_append text]

namespace Rbi

inductive IsSig (word : String) (inner : List Char) : List String → Prop
  | line (n : Int) {text : String} (h : Text.solid text = inner) :
      IsSig word inner [Text.blanks n ++ (word ++ " " ++ TypeExpr.braced text)]
  | block (n m : Int) {texts : List String} (h : texts.flatMap Text.solid = inner) :
      IsSig word inner ((Text.blanks n ++ (word ++ " do")) :: texts ++ [Text.blanks m ++ "end"])

theorem isSig_sig (st : Style) (level : Int) (m : Method) :
    IsSig (sigWord m) (Text.solid (Expr.chained (m.qualifierCalls ++ m.paramsCall ++ [m.resultCall])).text)
      (sig st level m) := by
  unfold sig
  simp only
  split_ifs with hbreak
  · have hparameters : m.parameters ≠ [] := by
      intro hnil
      simp [hnil] at hbreak
    have hchain := (broken_sigChain m hparameters).flatMap_solid
    have hinner : (st.indented (level + 1) (String.join (m.qualifiers.map (· ++ ".")) ++ "params(") ::
        ((withCommas (m.parameters.map Parameter.inSig)).map (st.indented (level + 2)) ++
          [st.indented (level + 1) (")." ++ resultCall m)])).flatMap Text.solid =
        Text.solid (Expr.chained (m.qualifierCalls ++ m.paramsCall ++ [m.resultCall])).text := by
      simpa [List.flatMap_map, Text.solid_indented] using hchain
    simpa [sigBlock, Style.indented] using
      @IsSig.block (sigWord m) _ (level * st.tabSize) (level * st.tabSize) _ hinner
  · rw [sigLine, List.isEmpty_map, ← text_sigChain]
    exact .line (level * st.tabSize) rfl

theorem IsSig.indent {word : String} {inner : List Char} {ls : List String} (h : IsSig word inner ls) (k : Int) :
    IsSig word inner (ls.map (Text.blanks k ++ ·)) := by
  cases h with
  | line n htext =>
    obtain ⟨n', hn⟩ := Text.blanks_append k n
    rw [List.map_singleton, hn]
    exact .line n' htext
  | @block n m texts htexts =>
    obtain ⟨n', hn⟩ := Text.blanks_append k n
    obtain ⟨m', hm⟩ := Text.blanks_append k m
    rw [List.map_append, List.map_cons, List.map_singleton, hn, hm]
    apply IsSig.block
    rw [← htexts, List.flatMap_map]
    apply List.flatMap_congr
    intro t _
    rw [Text.solid_append, Text.solid_blanks, List.nil_append]

theorem IsSig.ne_nil {word : String} {inner : List Char} {ls : List String} (h : IsSig word inner ls) : ls ≠ [] := by
  cases h with
  | line => exact List.cons_ne_nil _ _
  | block => exact List.cons_ne_nil _ _

def SigIn (d : Decl) (st st' : Style) (ls ls' : List String) : Prop :=
  ∃ m b level n, m ∈ d.members ∧ (Decl.member m).method? = some b ∧
    ls = (sig st level b).map (Text.blanks n ++ ·) ∧ ls' = (sig st' level b).map (Text.blanks n ++ ·)

/-- The same lines, one by one, but for parts that `S` relates. -/
inductive SameBut (S : List String → List String → Prop) : List String → List String → Prop
  | nil : SameBut S [] []
  | line (l : String) {ls ls' : List String} (h : SameBut S ls ls') : SameBut S (l :: ls) (l :: ls')
  | part {a a' ls ls' : List String} (ha : S a a') (h : SameBut S ls ls') : SameBut S (a ++ ls) (a' ++ ls')

namespace SameBut

variable {S : List String → List String → Prop}

theorem append {a a' b b' : List String} (h : SameBut S a a') (h' : SameBut S b b') :
    SameBut S (a ++ b) (a' ++ b') := by
  induction h with
  | nil => exact h'
  | line l _ ih => exact .line l ih
  | part ha _ ih =>
    rw [List.append_assoc, List.append_assoc]
    exact .part ha ih

theorem map {f : String → String} (hf : ∀ a a', S a a' → S (a.map f) (a'.map f)) {ls ls' : List String}
    (h : SameBut S ls ls') : SameBut S (ls.map f) (ls'.map f) := by
  induction h with
  | nil => exact .nil
  | line l _ ih => exact .line (f l) ih
  | part ha _ ih =>
    rw [List.map_append, List.map_append]
    exact .part (hf _ _ ha) ih

theorem refl (ls : List String) : SameBut S ls ls := by
  induction ls with
  | nil => exact .nil
  | cons l ls ih => exact .line l ih

end SameBut

section Trees

theorem corresponds_breaking (d : Decl) (st : Style) (b : Int) :
    Layout.Corresponds st { st with breakParams := b } 0 (SameBut (SigIn d st { st with breakParams := b })) where
  sorted := rfl
  nil := .nil
  gap := .refl _
  append := .append
  isEmpty h := by
    cases h with
    | nil => rfl
    | line => rfl
    | part ha _ =>
      obtain ⟨m, c, level, n, -, -, rfl, rfl⟩ := ha
      have hsig (st : Style) (ls : List String) : ((sig st level c).map (Text.blanks n ++ ·) ++ ls).isEmpty = false := by
        rw [List.isEmpty_eq_false_iff]
        exact List.append_ne_nil_of_left_ne_nil ((isSig_sig st level c).indent n).ne_nil ls
      rw [hsig, hsig]
  line hlevel _ _ := by
    rw [Int.add_zero]
    exact .refl _

theorem SigIn.indent {d : Decl} {st st' : Style} {ls ls' : List String} (h : SigIn d st st' ls ls') (k : Int) :
    SigIn d st st' (ls.map (Text.blanks k ++ ·)) (ls'.map (Text.blanks k ++ ·)) := by
  obtain ⟨m, b, level, n, hm, hb, rfl, rfl⟩ := h
  obtain ⟨n', hn⟩ := Text.blanks_append k n
  refine ⟨m, b, level, n', hm, hb, ?_, ?_⟩
  · rw [List.map_map]
    exact List.map_congr_left fun l _ => hn l
  · rw [List.map_map]
    exact List.map_congr_left fun l _ => hn l

theorem sameBut_member (d : Decl) (st : Style) (b level : Int) {m : Member} (hm : m ∈ d.members) :
    SameBut (SigIn d st { st with breakParams := b }) (member st level m)
      (member { st with breakParams := b } level m) := by
  have hsig {c : Method} (hc : (Decl.member m).method? = some c) (l : String) :
      SameBut (SigIn d st { st with breakParams := b }) (sig st level c ++ [l])
        (sig { st with breakParams := b } level c ++ [l]) := by
    have hblank : Text.blanks 0 = "" := rfl
    have hself (ls : List String) : ls.map (Text.blanks 0 ++ ·) = ls := by simp [hblank]
    exact .part ⟨m, c, level, 0, hm, hc, (hself _).symm, (hself _).symm⟩ (.refl _)
  obtain ⟨name, body, comments⟩ := m
  match body with
  | .method c => exact hsig rfl _
  | .attribute kind c =>
    have hinner := hsig (c := c) rfl (st.indented level ("attr_" ++ kind.label ++ " :" ++ name))
    simp only [member, eigen]
    split
    -- In a class's own block the lines of the sig are indented after they have been written.
    · apply SameBut.append _ (.refl _)
      exact .line _ (hinner.map fun _ _ h => h.indent st.tabSize)
    · exact hinner
  | .constant _ _ | .mixin _ _ | .code _ | .bare => exact .refl _

theorem dialectCorresponds_breaking (d : Decl) (st : Style) (b : Int) :
    Layout.DialectCorresponds rbi (· ∈ d.members) st { st with breakParams := b } 0
      (SameBut (SigIn d st { st with breakParams := b })) where
  opening := opening_ne_empty
  sections s _ hlevel := (corresponds_breaking d st b).rbi_sections s hlevel
  member hm level _ := by
    rw [Int.add_zero]
    exact sameBut_member d st b level hm

theorem sameBut_program (root : Decl) (st : Style) (b : Int) :
    SameBut (SigIn root st { st with breakParams := b }) (Layout.program rbi st root)
      (Layout.program rbi { st with breakParams := b } root) := by
  cases root with
  | member m => exact .refl _
  | scope s ds =>
    have hD := dialectCorresponds_breaking (.scope s ds) st b
    have hchild := (corresponds_breaking (.scope s ds) st b).child hD (.scope { s with name := "", kind := .plain } ds)
      (fun _ hm => hm) 0 (Int.le_refl 0) ""
    rw [Layout.program_eq_child, Layout.program_eq_child]
    exact hchild

/-- Where sigs are broken changes their layout only: two layouts of a sig begin with the same word and have the same
characters inside their blocks, blanks aside, and the files are the same outside of sigs. -/
theorem breaking_keeps_characters (st : Style) (b : Int) :
    (∀ level m, ∃ word ∈ ["sig", "sig(:final)"], ∃ inner,
      IsSig word inner (sig st level m) ∧ IsSig word inner (sig { st with breakParams := b } level m)) ∧
    (∀ (d : Decl) (level : Nat),
      Outcome (SameBut (SigIn d st { st with breakParams := b })) (rbi.writeNode st d level)
        (rbi.writeNode { st with breakParams := b } d level)) ∧
    ∀ (strictness : String) (root : Decl),
      Outcome
        (fun text text' => ∃ ls ls', SameBut (SigIn root st { st with breakParams := b }) ls ls' ∧
          text = "# typed: " ++ strictness ++ "\n" ++ "\n".intercalate ls ++ "\n" ∧
          text' = "# typed: " ++ strictness ++ "\n" ++ "\n".intercalate ls' ++ "\n")
        (write st strictness root) (write { st with breakParams := b } strictness root) := by
  refine ⟨fun level m => ?_, fun d level => ?_, fun strictness root => ?_⟩
  · have hword : sigWord m ∈ ["sig", "sig(:final)"] := by
      unfold sigWord
      split <;> simp
    exact ⟨sigWord m, hword, _, isSig_sig st level m, isSig_sig _ level m⟩
  · have hD := dialectCorresponds_breaking d st b
    have hnode := (corresponds_breaking d st b).node hD (fun _ hm => hm) (Int.natCast_nonneg level)
    rw [Int.add_zero] at hnode
    unfold Dialect.writeNode
    split
    · exact .error _
    · exact .ok hnode
  · unfold write Dialect.write
    split
    · exact .error _
    · exact .ok ⟨_, _, sameBut_program root st b, rfl, rfl⟩

end Trees

end Rbi
end RubyStubs
