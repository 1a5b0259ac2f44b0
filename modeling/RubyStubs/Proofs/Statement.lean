import RubyStubs.Proofs.Expression
import RubyStubs.Source.Body

namespace RubyStubs

inductive Mark where
  | isFinal | isAbstract | isInterface

def Mark.word : Mark → String
  | .isFinal => "final!"
  | .isAbstract => "abstract!"
  | .isInterface => "interface!"

def Mark.remark : Mark → Remark
  | .isFinal => .isFinal
  | .isAbstract => .isAbstract
  | .isInterface => .isInterface

inductive BareCall where
  | mixin (kind : MixinKind) (target : String)
  | accessor (kind : AttributeKind) (name : String)
  | field (f : StructField)

namespace BareCall

def name : BareCall → String
  | .mixin .included _ => "include"
  | .mixin .extended _ => "extend"
  | .accessor kind _ => "attr_" ++ kind.label
  | .field f => if f.immutable then "const" else "prop"

def options (f : StructField) : List (String × String) :=
  (if f.optional then [("optional", "true")] else []) ++
    (f.default.map fun d => ("default", d)).toList ++ (f.factory.map fun d => ("factory", d)).toList

def args : BareCall → List Expr
  | .mixin _ target => [.fragment target]
  | .accessor _ name => [.symbol name]
  | .field f =>
    .symbol f.name :: .fragment f.type.rbi :: (options f).map fun o => .pair o.1 (.fragment o.2)

def text (c : BareCall) : String := c.name ++ " " ++ TypeExpr.commas (Expr.texts c.args)

end BareCall

structure Formal where
  kind : ParameterKind
  name : String
  default : Option String

namespace Formal

def marks (f : Formal) : String × String :=
  match f.kind with
  | .normal => ("", "")
  | .splat => ("*", "")
  | .doubleSplat => ("**", "")
  | .block => ("&", "")
  | .keyword => ("", ":")

def markedName (f : Formal) : String := f.marks.1 ++ f.name ++ f.marks.2

def text (f : Formal) : String :=
  f.markedName ++ f.default.elim "" fun d => (if f.kind = .keyword then " " else " = ") ++ d

def nodeKind (f : Formal) : String :=
  match f.kind with
  | .normal => if f.default.isSome then "optional_parameter" else "identifier"
  | .splat => "splat_parameter"
  | .doubleSplat => "hash_splat_parameter"
  | .block => "block_parameter"
  | .keyword => "keyword_parameter"

end Formal

inductive Opening where
  | ofClass (name : String) (superclass : Option String)
  | ofModule (name : String)
  | singleton
  | enums

def Opening.text : Opening → String
  | .ofClass name superclass => "class " ++ name ++ superclass.elim "" (" < " ++ ·)
  | .ofModule name => "module " ++ name
  | .singleton => "class << self"
  | .enums => "enums do"

inductive Stmt where
  | mark (m : Mark)
  | command (c : BareCall)
  | constant (name : String) (value : Expr)
  | sig (isFinal : Bool) (chain : Expr)
  | definition (onSelf : Bool) (name : String) (parameters : List Formal)
  | block (opening : Opening) (body : List Stmt)

namespace Stmt

def sigArgs (isFinal : Bool) : List Expr := if isFinal then [.symbol "final"] else []

def sigWord (isFinal : Bool) : String := if isFinal then "sig(:final)" else "sig"

def definitionText (onSelf : Bool) (name : String) (parameters : List Formal) : String :=
  "def " ++ (if onSelf then "self." else "") ++ name ++
    (if parameters.isEmpty then "" else "(" ++ TypeExpr.commas (parameters.map Formal.text) ++ ")") ++ "; end"

def line? : Stmt → Option String
  | .mark m => some m.word
  | .command c => some c.text
  | .constant name value => some (name ++ " = " ++ value.text)
  | .sig isFinal chain => some (sigWord isFinal ++ " " ++ TypeExpr.braced chain.text)
  | .definition onSelf name parameters => some (definitionText onSelf name parameters)
  | .block _ _ => none

def beginning : Stmt → String
  | .mark m => m.word
  | .command c => c.name
  | .constant name _ => name ++ " ="
  | .sig _ _ => "sig"
  | .definition _ _ _ => "def"
  | .block (.ofClass _ _) _ => "class"
  | .block (.ofModule _) _ => "module"
  | .block .singleton _ => "class"
  | .block .enums _ => "enums"

end Stmt

/-- A text is broken into lines inside its brackets: after one that opens, after a comma, or before one that
closes. -/
inductive Broken : String → List String → Prop
  | whole (text : String) : Broken text [text]
  | opened (text : String) {rest : String} {lines : List String} (h : Broken rest lines) :
      Broken (text ++ "(" ++ rest) ((text ++ "(") :: lines)
  | comma (text : String) {rest : String} {lines : List String} (h : Broken rest lines) :
      Broken (text ++ ", " ++ rest) ((text ++ ",") :: lines)
  | closing (text : String) {rest : String} {lines : List String} (h : Broken (")" ++ rest) lines) :
      Broken (text ++ (")" ++ rest)) (text :: lines)

def Indented (lines indented : List String) : Prop :=
  List.Forall₂ (fun l i => ∃ n, i = Text.blanks n ++ l) lines indented

/-- The lines that statements are written on. Comments and empty lines may stand anywhere, and lines may be
indented. -/
inductive Printed : List Stmt → List String → Prop
  | nil : Printed [] []
  | empty (n : Int) {ss : List Stmt} {ls : List String} (h : Printed ss ls) : Printed ss (Text.blanks n :: ls)
  | comment (n : Int) (text : String) {ss : List Stmt} {ls : List String} (h : Printed ss ls) :
      Printed ss ((Text.blanks n ++ ("#" ++ text)) :: ls)
  | line (n : Int) {s : Stmt} {l : String} (hl : s.line? = some l) {ss : List Stmt} {ls : List String}
      (h : Printed ss ls) : Printed (s :: ss) ((Text.blanks n ++ l) :: ls)
  | sig (n m : Int) {isFinal : Bool} {chain : Expr} {lines inner : List String}
      (hlines : Broken chain.text lines) (hinner : Indented lines inner) {ss : List Stmt} {ls : List String}
      (h : Printed ss ls) :
      Printed (.sig isFinal chain :: ss)
        ((Text.blanks n ++ (Stmt.sigWord isFinal ++ " do")) :: (inner ++ (Text.blanks m ++ "end") :: ls))
  | block (n m : Int) {opening : Opening} {body : List Stmt} {inner : List String} (hinner : Printed body inner)
      {ss : List Stmt} {ls : List String} (h : Printed ss ls) :
      Printed (.block opening body :: ss)
        ((Text.blanks n ++ opening.text) :: (inner ++ (Text.blanks m ++ "end") :: ls))

def WrittenAs (ss : List Stmt) (text : String) : Prop :=
  ∃ ls, Printed ss ls ∧ text = String.join (ls.map (· ++ "\n"))

namespace Node

def HasText (n : Node) (role text : String) : Prop := ∃ c, n.child? role = some c ∧ c.text = text

def HoldsRun (b : Node) (ns : List Node) : Prop :=
  b.isSequence ∧ (∀ c ∈ b.children, c.isComment → Text.startsWith c.text "#") ∧
    b.children.filter (!·.isComment) = ns

def isInner (n c : Node) : Bool := !c.field.any n.headerRoles.contains && !c.isComment

structure HoldsBody (n : Node) (ns : List Node) : Prop where
  header : ∀ role ∈ n.headerRoles, (n.parts.filter (·.field == some role)).length ≤ 1
  comments : ∀ c ∈ n.children, c.isComment → Text.startsWith c.text "#"
  inner : (n.children.filter n.isInner = [] ∧ ns = []) ∨ ∃ b, n.children.filter n.isInner = [b] ∧ b.HoldsRun ns

def HasBlock (n : Node) (ns : List Node) : Prop :=
  ∃ b, n.child? "block" = some b ∧
    ((b.children.filter (!·.isComment) = [] ∧ ns = []) ∨
      ∃ body, b.children.filter (!·.isComment) = [body] ∧ body.HoldsRun ns)

def HasSuperclass (n : Node) (superclass : Option String) : Prop :=
  match superclass with
  | none => n.child? "superclass" = none
  | some text => ∃ s e, n.child? "superclass" = some s ∧ s.children.head? = some e ∧ e.text = text

end Node

def Formal.Mirrors (f : Formal) (n : Node) : Prop :=
  n.kind = f.nodeKind ∧ (if n.kind = "identifier" then n.text = f.name else n.HasText "name" f.name) ∧
    (n.child? "value").map (·.text) = f.default

def Opening.Mirrors : Opening → Node → List Node → Prop
  | .ofClass name superclass, n, ns =>
    n.kind = "class" ∧ n.HasText "name" name ∧ n.HasSuperclass superclass ∧ n.HoldsBody ns
  | .ofModule name, n, ns => n.kind = "module" ∧ n.HasText "name" name ∧ n.HoldsBody ns
  | .singleton, n, ns => n.kind = "singleton_class" ∧ n.HasText "value" "self" ∧ n.HoldsBody ns
  | .enums, n, ns => Expr.Mirrors (.call "enums" []) n ∧ n.HasBlock ns

namespace Stmt

mutual

def Mirrors : Stmt → Node → Prop
  | .mark m, n => (n.isCall || n.kind == "identifier") ∧ n.text = m.word
  | .command c, n => Text.startsWith n.text c.name ∧ Expr.Mirrors (.call c.name c.args) n
  | .constant name value, n =>
    n.kind = "assignment" ∧ Text.startsWith n.text (name ++ " =") ∧
      (∃ l, n.child? "left" = some l ∧ l.kind = "constant" ∧ l.text = name) ∧
      ∃ r, n.child? "right" = some r ∧ Expr.Mirrors value r
  | .sig isFinal chain, n =>
    Text.startsWith n.text "sig" ∧ Expr.Mirrors (.call "sig" (sigArgs isFinal)) n ∧
      ∃ s, n.HasBlock [s] ∧ Expr.Mirrors chain s
  | .definition onSelf name parameters, n =>
    Text.startsWith n.text "def" ∧ n.kind = (if onSelf then "singleton_method" else "method") ∧
      (onSelf → n.HasText "object" "self") ∧ n.HasText "name" name ∧
      if parameters = [] then n.child? "parameters" = none
      else ∃ l, n.child? "parameters" = some l ∧
        List.Forall₂ Formal.Mirrors parameters (l.children.filter (!·.isComment))
  | .block opening body, n =>
    Text.startsWith n.text (beginning (.block opening body)) ∧
      ∃ ns, opening.Mirrors n ns ∧ MirrorsAll body ns

def MirrorsAll : List Stmt → List Node → Prop
  | [], ns => ns = []
  | s :: ss, ns => ∃ m ms, ns = m :: ms ∧ Mirrors s m ∧ MirrorsAll ss ms

end

def MirrorsProgram (ss : List Stmt) (root : Node) : Prop :=
  root.kind = "program" ∧ root.broken = false ∧ (∀ c ∈ root.parts, c.field = none) ∧
    ∃ ns, root.HoldsRun ns ∧ MirrorsAll ss ns

theorem mirrorsAll_iff {ss : List Stmt} {ns : List Node} : MirrorsAll ss ns ↔ List.Forall₂ Mirrors ss ns := by
  induction ss generalizing ns with
  | nil => simp [MirrorsAll]
  | cons s ss ih =>
    simp only [MirrorsAll, ih, List.forall₂_cons_left_iff]
    constructor
    · rintro ⟨m, ms, rfl, hm, hms⟩
      exact ⟨m, ms, hm, hms, rfl⟩
    · rintro ⟨m, ms, hm, hms, rfl⟩
      exact ⟨m, ms, rfl, hm, hms⟩

end Stmt

namespace Text

theorem startsWith_self (s : String) : startsWith s s := by simp [startsWith]

theorem startsWith_append {s w : String} (h : startsWith s w) (t : String) : startsWith (s ++ t) w := by
  rw [startsWith, List.isPrefixOf_iff_prefix] at h ⊢
  rw [String.toList_append]
  exact h.trans (List.prefix_append _ _)

end Text

namespace Node

def held (kind : String) (ns : List Node) : Node := (made kind "" ns).playing "body"

theorem holdsRun_held (kind : String) (hkind : sequenceKinds.contains kind) {ns : List Node}
    (hns : ∀ n ∈ ns, n.named ∧ ¬ n.isComment) : (held kind ns).HoldsRun ns := by
  refine ⟨hkind, fun c hc hcomment => ?_, filter_proper hns⟩
  exact absurd hcomment (hns c (List.mem_filter.mp hc).1).2

end Node

namespace Formal

def tree (f : Formal) : Node :=
  if f.nodeKind = "identifier" then .made "identifier" f.name []
  else .made f.nodeKind f.text ((Node.made "identifier" f.name []).playing "name" ::
    (f.default.map fun d => (Expr.tree (.fragment d)).playing "value").toList)

theorem mirrors_tree (f : Formal) : f.Mirrors f.tree := by
  obtain ⟨kind, name, default⟩ := f
  cases kind <;> cases default <;> refine ⟨rfl, ?_, rfl⟩ <;>
    simp [tree, nodeKind, Node.made, Node.HasText, Node.child?, Node.playing]

theorem tree_proper (f : Formal) : f.tree.named ∧ ¬ f.tree.isComment := by
  obtain ⟨kind, name, default⟩ := f
  cases kind <;> cases default <;> exact ⟨rfl, Bool.eq_false_iff.mp rfl⟩

end Formal

namespace Opening

def tree (ns : List Node) : Opening → Node
  | .ofClass name superclass =>
    .made "class" (text (.ofClass name superclass))
      ((Node.made "constant" name []).playing "name" ::
        ((superclass.map fun c =>
            (Node.made "superclass" ("< " ++ c) [Expr.tree (.fragment c)]).playing "superclass").toList ++
          [Node.held "body_statement" ns]))
  | .ofModule name =>
    .made "module" (text (.ofModule name))
      [(Node.made "constant" name []).playing "name", Node.held "body_statement" ns]
  | .singleton =>
    .made "singleton_class" (text .singleton)
      [(Node.made "self" "self" []).playing "value", Node.held "body_statement" ns]
  | .enums =>
    .made "call" (text .enums)
      [(Node.made "identifier" "enums" []).playing "method",
        (Node.made "do_block" "" [Node.held "body_statement" ns]).playing "block"]

theorem holdsBody_tree {ns : List Node} (hns : ∀ n ∈ ns, n.named ∧ ¬ n.isComment) {o : Opening}
    (ho : o ≠ .enums) : (o.tree ns).HoldsBody ns := by
  have hrun := Node.holdsRun_held "body_statement" rfl hns
  match o, ho with
  | .ofClass name none, _ | .ofClass name (some c), _ | .ofModule name, _ | .singleton, _ =>
    refine ⟨?_, ?_, .inr ⟨_, rfl, hrun⟩⟩
    · simp [tree, Node.made, Node.playing, Node.held, Node.headerRoles]
    · simp [tree, Node.made, Node.playing, Node.held, Node.children, Node.isComment]

theorem mirrors_tree {ns : List Node} (hns : ∀ n ∈ ns, n.named ∧ ¬ n.isComment) (o : Opening) :
    o.Mirrors (o.tree ns) ns := by
  match o with
  | .ofClass name none => exact ⟨rfl, ⟨_, rfl, rfl⟩, rfl, holdsBody_tree hns nofun⟩
  | .ofClass name (some c) => exact ⟨rfl, ⟨_, rfl, rfl⟩, ⟨_, _, rfl, rfl, rfl⟩, holdsBody_tree hns nofun⟩
  | .ofModule name => exact ⟨rfl, ⟨_, rfl, rfl⟩, holdsBody_tree hns nofun⟩
  | .singleton => exact ⟨rfl, ⟨_, rfl, rfl⟩, holdsBody_tree hns nofun⟩
  | .enums =>
    have hrun := Node.holdsRun_held "body_statement" rfl hns
    exact ⟨⟨⟨rfl, _, rfl, rfl⟩, rfl, [], .inl ⟨rfl, rfl⟩, rfl⟩, _, rfl, .inr ⟨_, rfl, hrun⟩⟩

end Opening

namespace Stmt

mutual

def tree : Stmt → Node
  | .mark m => .made "identifier" m.word []
  | .command c => { Expr.tree (.call c.name c.args) with text := c.text }
  | .constant name value =>
    .made "assignment" (name ++ " = " ++ value.text)
      [(Node.made "constant" name []).playing "left", value.tree.playing "right"]
  | .sig isFinal chain =>
    .made "call" (sigWord isFinal ++ " " ++ TypeExpr.braced chain.text)
      [(Node.made "identifier" "sig" []).playing "method",
        (Node.made "argument_list" "" (Expr.trees (sigArgs isFinal))).playing "arguments",
        (Node.made "block" "" [Node.held "block_body" [chain.tree]]).playing "block"]
  | .definition onSelf name parameters =>
    .made (if onSelf then "singleton_method" else "method") (definitionText onSelf name parameters)
      ((if onSelf then [(Node.made "self" "self" []).playing "object"] else []) ++
        (Node.made "identifier" name []).playing "name" ::
          if parameters.isEmpty then []
          else [(Node.made "method_parameters" "" (parameters.map Formal.tree)).playing "parameters"])
  | .block opening body => opening.tree (trees body)

def trees : List Stmt → List Node
  | [] => []
  | s :: ss => tree s :: trees ss

end

theorem tree_proper (s : Stmt) : s.tree.named ∧ ¬ s.tree.isComment := by
  match s with
  | .mark _ | .command _ | .constant _ _ | .sig _ _ | .definition true _ _ | .definition false _ _
  | .block (.ofClass _ _) _ | .block (.ofModule _) _ | .block .singleton _ | .block .enums _ =>
    exact ⟨rfl, Bool.eq_false_iff.mp rfl⟩

theorem field_tree (s : Stmt) : s.tree.field = none := by
  match s with
  | .mark _ | .command _ | .constant _ _ | .sig _ _ | .definition _ _ _
  | .block (.ofClass _ _) _ | .block (.ofModule _) _ | .block .singleton _ | .block .enums _ => rfl

theorem trees_eq_map (ss : List Stmt) : trees ss = ss.map tree := by
  induction ss with
  | nil => rfl
  | cons s ss ih => rw [trees, ih, List.map_cons]

theorem trees_proper (ss : List Stmt) : ∀ n ∈ trees ss, n.named ∧ ¬ n.isComment := by
  rw [trees_eq_map, List.forall_mem_map]
  exact fun s _ => s.tree_proper

theorem startsWith_tree (s : Stmt) (hmark : ∀ m, s ≠ .mark m) : Text.startsWith s.tree.text s.beginning := by
  match s with
  | .mark m => exact absurd rfl (hmark m)
  | .command c =>
    exact Text.startsWith_append (Text.startsWith_append (Text.startsWith_self c.name) " ") _
  | .constant name value =>
    have hself := Text.startsWith_append (Text.startsWith_self (name ++ " =")) " "
    rw [String.append_assoc] at hself
    exact Text.startsWith_append hself value.text
  | .sig isFinal chain =>
    have hword : Text.startsWith (sigWord isFinal) "sig" := by cases isFinal <;> decide
    exact Text.startsWith_append (Text.startsWith_append hword " ") _
  | .definition onSelf name parameters =>
    have hword : Text.startsWith "def " "def" := by decide
    refine Text.startsWith_append (Text.startsWith_append ?_ _) _
    exact Text.startsWith_append (Text.startsWith_append hword _) name
  | .block (.ofClass name superclass) _ =>
    have hword : Text.startsWith "class " "class" := by decide
    exact Text.startsWith_append (Text.startsWith_append hword name) _
  | .block (.ofModule name) _ =>
    have hword : Text.startsWith "module " "module" := by decide
    exact Text.startsWith_append hword name
  | .block .singleton _ => exact (by decide : Text.startsWith "class << self" "class")
  | .block .enums _ => exact (by decide : Text.startsWith "enums do" "enums")

mutual

theorem mirrors_tree : ∀ s : Stmt, Mirrors s s.tree
  | .mark m => ⟨rfl, rfl⟩
  | .command c => ⟨startsWith_tree (.command c) nofun, Expr.mirrors_tree (.call c.name c.args)⟩
  | .constant name value =>
    ⟨rfl, startsWith_tree (.constant name value) nofun, ⟨_, rfl, rfl, rfl⟩, _, rfl, value.mirrors_tree.playing _⟩
  | .sig isFinal chain => by
    have hargs : Expr.Mirrors (.call "sig" (sigArgs isFinal)) (tree (.sig isFinal chain)) :=
      ⟨⟨rfl, _, rfl, rfl⟩, rfl, Expr.trees (sigArgs isFinal),
        .inr ⟨_, rfl, Node.filter_proper (Expr.trees_proper _)⟩, Expr.mirrorsAll_trees _⟩
    have hrun : (Node.held "block_body" [chain.tree]).HoldsRun [chain.tree] :=
      Node.holdsRun_held "block_body" rfl (List.forall_mem_singleton.mpr chain.tree_proper)
    exact ⟨startsWith_tree (.sig isFinal chain) nofun, hargs, chain.tree, ⟨_, rfl, .inr ⟨_, rfl, hrun⟩⟩,
      chain.mirrors_tree⟩
  | .definition onSelf name parameters => by
    refine ⟨startsWith_tree (.definition onSelf name parameters) nofun, rfl, ?_, ?_, ?_⟩
    · rintro rfl
      exact ⟨_, rfl, rfl⟩
    · cases onSelf <;> exact ⟨_, rfl, rfl⟩
    · cases parameters with
      | nil => cases onSelf <;> rfl
      | cons f fs =>
        have hproper : ∀ n ∈ (f :: fs).map Formal.tree, n.named ∧ ¬ n.isComment :=
          List.forall_mem_map.mpr fun f _ => f.tree_proper
        have hmirrors : List.Forall₂ Formal.Mirrors (f :: fs) ((f :: fs).map Formal.tree) := by
          rw [List.forall₂_map_right_iff, List.forall₂_same]
          exact fun f _ => f.mirrors_tree
        rw [← Node.filter_proper hproper] at hmirrors
        rw [if_neg (List.cons_ne_nil f fs)]
        cases onSelf <;> exact ⟨_, rfl, hmirrors⟩
  | .block opening body =>
    ⟨startsWith_tree (.block opening body) nofun, trees body, opening.mirrors_tree (trees_proper body),
      mirrorsAll_trees body⟩

theorem mirrorsAll_trees : ∀ ss : List Stmt, MirrorsAll ss (trees ss)
  | [] => rfl
  | s :: ss => ⟨_, _, rfl, mirrors_tree s, mirrorsAll_trees ss⟩

end

def programTree (text : String) (comments : List String) (ss : List Stmt) : Node :=
  .made "program" text (comments.map (fun c => .made "comment" ("#" ++ c) []) ++ trees ss)

theorem mirrorsProgram_programTree (text : String) (comments : List String) (ss : List Stmt) :
    MirrorsProgram ss (programTree text comments ss) := by
  have hparts : ∀ n ∈ (programTree text comments ss).parts, n.field = none ∧ n.named ∧
      (n.isComment → Text.startsWith n.text "#") := by
    intro n hn
    rcases List.mem_append.mp hn with hn | hn
    · obtain ⟨c, -, rfl⟩ := List.mem_map.mp hn
      exact ⟨rfl, rfl, fun _ => Text.startsWith_append (Text.startsWith_self "#") c⟩
    · obtain ⟨hnamed, hcomment⟩ := trees_proper ss n hn
      rw [trees_eq_map] at hn
      obtain ⟨s, -, rfl⟩ := List.mem_map.mp hn
      exact ⟨s.field_tree, hnamed, fun h => absurd h hcomment⟩
  have hchildren : (programTree text comments ss).children = (programTree text comments ss).parts := by
    rw [Node.children, List.filter_eq_self]
    exact fun n hn => (hparts n hn).2.1
  refine ⟨rfl, rfl, fun n hn => (hparts n hn).1, trees ss, ⟨rfl, ?_, ?_⟩, mirrorsAll_trees ss⟩
  · rw [hchildren]
    exact fun n hn => (hparts n hn).2.2
  · have hcomments : (comments.map fun c => Node.made "comment" ("#" ++ c) []).filter (!·.isComment) = [] := by
      rw [List.filter_eq_nil_iff, List.forall_mem_map]
      exact fun c _ => Bool.false_ne_true
    have htrees : (trees ss).filter (!·.isComment) = trees ss := by
      rw [List.filter_eq_self]
      exact fun n hn => by simp [trees_proper ss n hn]
    rw [hchildren, programTree, Node.made, List.filter_append, hcomments, htrees, List.nil_append]

end Stmt

end RubyStubs
