import RubyStubs.Proofs.Printing
import RubyStubs.Proofs.Visibility
import RubyStubs.Text.Split

namespace RubyStubs

namespace Text

def rows (ls : List String) : List (List Char) :=
  if ls.isEmpty then [] else split '\n' ("\n".intercalate ls).toList

theorem rows_eq_flatMap (ls : List String) : rows ls = ls.flatMap fun l => split '\n' l.toList := by
  induction ls with
  | nil => rfl
  | cons l ls ih =>
    cases ls with
    | nil => simp [rows]
    | cons m ls =>
      have htext : ("\n".intercalate (l :: m :: ls)).toList =
          l.toList ++ '\n' :: ("\n".intercalate (m :: ls)).toList := by
        rw [String.intercalate_cons_cons, String.append_assoc, String.toList_append, String.toList_append]
        rfl
      have hrows : rows (l :: m :: ls) = split '\n' l.toList ++ rows (m :: ls) := by
        simp only [rows, List.isEmpty_cons, Bool.false_eq_true, ↓reduceIte, htext]
        exact split_append_sep '\n' _ _
      rw [hrows, ih]
      rfl

theorem mem_of_mem_dropEnd {p : Char → Bool} {s : String} {c : Char} (h : c ∈ (dropEnd p s).toList) :
    c ∈ s.toList := by
  rw [dropEnd, String.toList_ofList, List.mem_reverse] at h
  simpa using (List.dropWhile_sublist p).mem h

theorem mem_of_mem_without {s start : String} {c : Char} (h : c ∈ (without s start).toList) : c ∈ s.toList := by
  rw [without] at h
  split at h
  · rw [String.toList_ofList] at h
    exact List.mem_of_mem_drop h
  · exact h

theorem mem_of_mem_dropBlank {s : String} {c : Char} (h : c ∈ (dropBlank s).toList) : c ∈ s.toList := by
  rw [dropBlank] at h
  split at h
  · next cs hcs =>
    rw [String.toList_ofList] at h
    rw [hcs]
    exact List.mem_cons_of_mem _ h
  · exact h

theorem exists_trimEnd_comment (c : String) :
    ∃ blank, '\n' ∉ blank ∧ (trimEnd ("# " ++ c)).toList = '#' :: blank ++ (trimEnd c).toList := by
  have hreverse : ("# " ++ c).toList.reverse = c.toList.reverse ++ [' ', '#'] := by simp
  have hmark : ([' ', '#'] : List Char).dropWhile isBlank = ['#'] := by decide
  simp only [trimEnd, dropEnd, String.toList_ofList, hreverse, List.dropWhile_append]
  by_cases hempty : c.toList.reverse.dropWhile isBlank = []
  · exact ⟨[], by simp, by simp [hempty, hmark]⟩
  · exact ⟨[' '], by simp, by simp [hempty]⟩

end Text

namespace Layout

def IsCommentRow (st : Style) (level : Int) (row : List Char) : Prop := (st.indented level "#").toList <+: row

instance (st : Style) (level : Int) (row : List Char) : Decidable (IsCommentRow st level row) :=
  inferInstanceAs (Decidable ((st.indented level "#").toList <+: row))

variable (st : Style) (level : Int)

theorem split_comment (c : String) {p : List Char} {ps : List (List Char)}
    (hc : Text.split '\n' (Text.trimEnd c).toList = p :: ps) :
    ∃ row, IsCommentRow st level row ∧
      Text.split '\n' (st.indented level (Text.trimEnd ("# " ++ c))).toList = row :: ps := by
  obtain ⟨blank, hblank, htext⟩ := Text.exists_trimEnd_comment c
  have hindent : '\n' ∉ (st.indented level "#").toList ++ blank := by
    simp [Style.indented, Text.blanks, hblank]
  refine ⟨(st.indented level "#").toList ++ blank ++ p, ?_, ?_⟩
  · rw [List.append_assoc]
    exact List.prefix_append _ _
  · rw [← Text.split_append_of_not_mem hindent hc]
    simp [Style.indented, htext]

theorem isCommentRow_comment_iff (c : String) :
    (∀ row ∈ Text.split '\n' (st.indented level (Text.trimEnd ("# " ++ c))).toList, IsCommentRow st level row) ↔
      ∀ row ∈ (Text.split '\n' (Text.trimEnd c).toList).tail, IsCommentRow st level row := by
  obtain ⟨p, ps, hc⟩ := List.exists_cons_of_ne_nil (Text.split_ne_nil '\n' (Text.trimEnd c).toList)
  obtain ⟨row, hrow, hsplit⟩ := split_comment st level c hc
  rw [hsplit, hc, List.tail_cons, List.forall_mem_cons]
  exact and_iff_right hrow

theorem isCommentRow_comments_iff (cs : List String) :
    (∀ row ∈ Text.rows (comments st level cs), IsCommentRow st level row) ↔
      ∀ c ∈ cs, ∀ row ∈ (Text.split '\n' (Text.trimEnd c).toList).tail, IsCommentRow st level row := by
  have hrows : Text.rows (comments st level cs) =
      cs.flatMap fun c => Text.split '\n' (st.indented level (Text.trimEnd ("# " ++ c))).toList := by
    rw [Text.rows_eq_flatMap, comments, List.flatMap_map]
  rw [hrows]
  constructor
  · intro h c hc
    apply (isCommentRow_comment_iff st level c).mp
    intro row hrow
    exact h row (List.mem_flatMap.mpr ⟨c, hc, hrow⟩)
  · intro h row hrow
    obtain ⟨c, hc, hrow⟩ := List.mem_flatMap.mp hrow
    exact (isCommentRow_comment_iff st level c).mpr (h c hc) row hrow

end Layout

namespace Node

theorem mem_of_pick {cs : List Node} {i : Int} {depth : Nat} {c : Node} (h : pick cs i depth = .ok c) : c ∈ cs := by
  unfold pick at h
  split_ifs at h
  · split at h
    · next hget =>
      cases h
      exact List.mem_of_getElem? hget
    · cases h
  · split at h
    · next hget =>
      cases h
      exact List.mem_of_getElem? hget
    · cases h

theorem mem_nodes_of_follow {root n : Node} {steps : List Int} (h : root.follow steps = .ok n) : n ∈ root.nodes := by
  induction steps generalizing n with
  | nil =>
    cases h
    exact root.mem_nodes_self
  | cons i up ih =>
    obtain ⟨m, hm, hpick⟩ := follow_cons_eq_ok_iff.mp h
    exact mem_nodes_of_mem_parts (ih hm) (mem_parts_of_mem_children (mem_of_pick hpick))

end Node

namespace Source

variable {u : Source}

theorem mem_nodes_of_node {p : NodePath} {n : Node} (h : u.node p = .ok n) : n ∈ u.root.nodes :=
  Node.mem_nodes_of_follow (node_eq_ok_iff.mp h)

theorem mem_commentsAbove {below cs : List String} {steps : List Int} (h : u.commentsAbove below steps = .ok cs)
    {c : String} (hc : c ∈ cs) : c ∈ below ∨ ∃ n ∈ u.root.nodes, n.isComment ∧ c = commentText n := by
  fun_induction commentsAbove u below steps generalizing cs with
  | case1 below =>
    cases h
    exact .inl hc
  | case2 below =>
    cases h
    exact .inl hc
  | case3 below i up _ _ ih =>
    obtain ⟨n, -, h⟩ := bind_eq_ok_iff.mp h
    split_ifs at h
    · exact ih h hc
    · cases h
      exact .inl hc
  | case4 => cases h
  | case5 below i up _ _ ih =>
    obtain ⟨n, hn, h⟩ := bind_eq_ok_iff.mp h
    split_ifs at h with hstop
    · cases h
      exact .inl hc
    · rcases ih n h hc with hmem | hmem
      · rcases List.mem_cons.mp hmem with rfl | hmem
        · have hcomment : n.isComment = true := by
            by_contra hno
            simp [hno] at hstop
          exact .inr ⟨n, mem_nodes_of_node hn, hcomment, rfl⟩
        · exact .inl hmem
      · exact .inr hmem

theorem mem_commentsBefore {p : NodePath} {cs : List String} (h : u.commentsBefore p = .ok cs) {c : String}
    (hc : c ∈ cs) : ∃ n ∈ u.root.nodes, n.isComment ∧ c = commentText n :=
  (mem_commentsAbove h hc).resolve_left (List.not_mem_nil)

theorem mem_of_mem_commentText {n : Node} {x : Char} (h : x ∈ (commentText n).toList) : x ∈ n.text.toList :=
  Text.mem_of_mem_without (Text.mem_of_mem_dropBlank h)

end Source

namespace Layout

/-- Comments come out as comments exactly where each line of a comment after the first, blanks at its end aside,
has the mark and the indentation already. So it is with all comments that are collected from a source in which no
comment is longer than a line. -/
theorem comment_rows_iff (st : Style) (level : Int) :
    (∀ cs, (∀ row ∈ Text.rows (comments st level cs), IsCommentRow st level row) ↔
      ∀ c ∈ cs, ∀ row ∈ (Text.split '\n' (Text.trimEnd c).toList).tail, IsCommentRow st level row) ∧
    ∀ u : Source, (∀ n ∈ u.root.nodes, n.isComment → '\n' ∉ n.text.toList) →
      ∀ p cs, u.commentsBefore p = .ok cs →
        ∀ row ∈ Text.rows (comments st level cs), IsCommentRow st level row := by
  refine ⟨isCommentRow_comments_iff st level, fun u hu p cs hcs => ?_⟩
  rw [isCommentRow_comments_iff]
  intro c hc row hrow
  obtain ⟨n, hn, hcomment, rfl⟩ := Source.mem_commentsBefore hcs hc
  have hone : '\n' ∉ (Text.trimEnd (Source.commentText n)).toList := by
    intro hmem
    exact hu n hn hcomment (Source.mem_of_mem_commentText (Text.mem_of_mem_dropEnd hmem))
  rw [Text.split_of_not_mem hone] at hrow
  cases hrow

theorem comment_rows_iff_one_line :
    let comment (text : String) : Node := ⟨"comment", text, 1, none, true, false, false, []⟩
    let u : Source :=
      ⟨⟨"program", "# One.\n#   Two.\nf", 1, none, true, false, false,
        [comment "# One.", comment "#   Two.", ⟨"identifier", "f", 3, none, true, false, false, []⟩]⟩, "a.rb"⟩
    (∀ n ∈ u.root.nodes, n.isComment → '\n' ∉ n.text.toList) ∧
      u.commentsBefore (.child .root 2) = .ok ["One.", "  Two."] ∧
      ∀ row ∈ ["  # One.".toList, "  #   Two.".toList], IsCommentRow {} 1 row := by
  intro comment u
  have hu : ∀ n ∈ u.root.nodes, n.isComment → '\n' ∉ n.text.toList := by
    decide +kernel
  have hcs : u.commentsBefore (.child .root 2) = .ok ["One.", "  Two."] := by
    have hone : u.node (NodePath.root.child (0 : Nat)) = .ok (comment "# One.") := rfl
    have htwo : u.node (NodePath.root.child (1 : Nat)) = .ok (comment "#   Two.") := rfl
    refine (Source.commentsAbove_child_succ u htwo []).trans ?_
    rw [if_neg (by decide +kernel)]
    refine (Source.commentsAbove_child_succ u hone _).trans ?_
    rw [if_neg (by decide +kernel)]
    exact (Source.commentsAbove_child_zero u (q := .root) rfl _).trans (by decide +kernel)
  have hrows : Text.rows (comments {} 1 ["One.", "  Two."]) = ["  # One.".toList, "  #   Two.".toList] := by
    decide +kernel
  rw [← hrows]
  exact ⟨hu, hcs, (comment_rows_iff {} 1).2 u hu _ _ hcs⟩

theorem block_comment_becomes_code :
    ¬ ∀ (u : Source) (p : NodePath) (cs : List String), u.commentsBefore p = .ok cs →
      ∀ (st : Style) (level : Int), ∀ row ∈ Text.rows (comments st level cs), IsCommentRow st level row := by
  intro h
  let u : Source :=
    ⟨⟨"program", "=begin\nputs 1\n=end\nf", 1, none, true, false, false,
      [⟨"comment", "=begin\nputs 1\n=end", 1, none, true, false, false, []⟩,
        ⟨"identifier", "f", 4, none, true, false, false, []⟩]⟩, "a.rb"⟩
  have hcs : u.commentsBefore (.child .root 1) = .ok ["=begin\nputs 1\n=end"] := by
    have hone : u.node (NodePath.root.child (0 : Nat)) =
        .ok ⟨"comment", "=begin\nputs 1\n=end", 1, none, true, false, false, []⟩ := rfl
    refine (Source.commentsAbove_child_succ u hone []).trans ?_
    rw [if_neg (by decide +kernel)]
    exact (Source.commentsAbove_child_zero u (q := .root) rfl _).trans (by decide +kernel)
  have hrow : "puts 1".toList ∈ Text.rows (comments {} 0 ["=begin\nputs 1\n=end"]) := by
    decide +kernel
  exact absurd (h u _ _ hcs {} 0 _ hrow) (by decide)

end Layout
end RubyStubs
