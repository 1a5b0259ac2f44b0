import RubyStubs.Proofs.NodeShape
import RubyStubs.TypeExpr.Render
import Mathlib.Data.List.Forall2

namespace RubyStubs

namespace Text

def isLabel (s : String) : Bool := s.toList.all fun c => c != ':' && c != '"' && c != '\''

theorem ne_of_isLabel {s : String} (h : isLabel s) {c : Char} (hc : c ∈ s.toList) :
    c ≠ ':' ∧ c ≠ '"' ∧ c ≠ '\'' := by
  simpa [and_assoc] using List.all_eq_true.mp h c hc

theorem dropStart_isLabel {s : String} (h : isLabel s) {p : Char → Bool}
    (hp : ∀ c, c ≠ ':' ∧ c ≠ '"' ∧ c ≠ '\'' → p c = false) : dropStart p s = s := by
  apply dropStart_eq_self
  intro c hc
  exact hp c (ne_of_isLabel h (List.mem_of_head? hc))

theorem dropEnd_isLabel {s : String} (h : isLabel s) {p : Char → Bool}
    (hp : ∀ c, c ≠ ':' ∧ c ≠ '"' ∧ c ≠ '\'' → p c = false) : dropEnd p s = s := by
  apply dropEnd_eq_self
  intro c hc
  exact hp c (ne_of_isLabel h (List.mem_of_getLast? hc))

theorem dropStart_append_colon (s : String) : dropStart (· == ':') (":" ++ s) = dropStart (· == ':') s := by
  simp [dropStart]

end Text

theorem filter_eraseP_of_find? {α : Type} {p q : α → Bool} {xs ys : List α} {y : α}
    (hfind : xs.find? p = some y) (hfilter : xs.filter q = y :: ys) : (xs.eraseP p).filter q = ys := by
  induction xs with
  | nil => cases hfind
  | cons x xs ih =>
    rw [List.find?_cons] at hfind
    rw [List.filter_cons] at hfilter
    cases hp : p x with
    | true =>
      rw [hp] at hfind
      have hxy : x = y := Option.some.inj hfind
      subst hxy
      rw [List.eraseP_cons_of_pos hp]
      by_cases hq : q x
      · rw [if_pos hq] at hfilter
        exact (List.cons.inj hfilter).2
      · rw [if_neg hq] at hfilter
        exact absurd (List.mem_filter.mp (hfilter ▸ List.mem_cons_self)).2 hq
    | false =>
      rw [hp] at hfind
      have hpx : ¬ p x = true := by simp [hp]
      rw [List.eraseP_cons_of_neg hpx, List.filter_cons]
      by_cases hq : q x
      · rw [if_pos hq] at hfilter
        have hxy : x = y := (List.cons.inj hfilter).1
        exact absurd (hxy ▸ List.find?_some hfind) hpx
      · rw [if_neg hq] at hfilter ⊢
        exact ih hfind hfilter

/-- An expression. Of a `fragment` only the text matters. -/
inductive Expr where
  | fragment (text : String)
  | constant (text : String)
  | word (text : String)
  | symbol (name : String)
  | call (name : String) (args : List Expr)
  | send (receiver : Expr) (name : String) (args : List Expr)
  | reference (target : Expr) (args : List Expr)
  | array (items : List Expr)
  | hash (entries : List Expr)
  | pair (key : String) (value : Expr)

namespace Node

def HasArguments (n : Node) (args : List Node) : Prop :=
  (args = [] ∧ n.argumentList? = none) ∨
    ∃ l, n.argumentList? = some l ∧ l.children.filter (!·.isComment) = args

def HasMethod (n : Node) (name : String) : Prop :=
  n.isCall ∧ ∃ m, n.child? "method" = some m ∧ m.text = name

theorem HasArguments.arguments {n : Node} {args : List Node} (hcall : n.isCall) (h : n.HasArguments args) :
    n.arguments = args := by
  rw [Node.arguments, if_pos hcall]
  rcases h with ⟨rfl, hnone⟩ | ⟨l, hl, hargs⟩
  · rw [hnone]
  · rw [hl]
    exact hargs

theorem HasMethod.callName? {n : Node} {name : String} (h : n.HasMethod name) : n.callName? = some name := by
  obtain ⟨hcall, m, hm, rfl⟩ := h
  have hkind : n.kind ≠ "identifier" ∧ n.kind ≠ "constant" := by
    refine ⟨?_, ?_⟩ <;> intro hk <;> simp [isCall, callKinds, hk] at hcall
  simp [Node.callName?, hkind, hcall, hm]

theorem symbolName?_of_isLabel {n : Node} {name : String} (hname : Text.isLabel name)
    (hkind : symbolKinds.contains n.kind) (htext : n.text = name ∨ n.text = ":" ++ name) :
    n.symbolName? = some name := by
  have hstart : Text.dropStart (· == ':') n.text = name := by
    have hlabel : Text.dropStart (· == ':') name = name := Text.dropStart_isLabel hname fun c hc => by simp [hc]
    rcases htext with h | h
    · rw [h, hlabel]
    · rw [h, Text.dropStart_append_colon, hlabel]
  have hquotes : Text.dropEnds (fun c => c == '"' || c == '\'') name = name := by
    rw [Text.dropEnds, Text.dropStart_isLabel hname fun c hc => by simp [hc],
      Text.dropEnd_isLabel hname fun c hc => by simp [hc]]
  rw [symbolName?, if_pos hkind, hstart, hquotes, Text.dropEnd_isLabel hname fun c hc => by simp [hc]]

end Node

namespace Expr

mutual

def text : Expr → String
  | .fragment text => text
  | .constant text => text
  | .word text => text
  | .symbol name => ":" ++ name
  | .call name args => name ++ "(" ++ TypeExpr.commas (texts args) ++ ")"
  | .send receiver name args =>
    text receiver ++ "." ++ name ++
      if args.isEmpty then "" else "(" ++ TypeExpr.commas (texts args) ++ ")"
  | .reference target args => text target ++ "[" ++ TypeExpr.commas (texts args) ++ "]"
  | .array items => "[" ++ TypeExpr.commas (texts items) ++ "]"
  | .hash entries => TypeExpr.braced (TypeExpr.commas (texts entries))
  | .pair key value => key ++ ": " ++ text value

def texts : List Expr → List String
  | [] => []
  | e :: es => text e :: texts es

end

mutual

/-- The node is of the kind that a parser reports for the expression, with the parts of the expression in
their roles. Comments may stand between parts. -/
def Mirrors : Expr → Node → Prop
  | .fragment text, n => n.text = text ∧ ¬ n.isComment
  | .constant text, n => (n.kind = "constant" ∨ n.kind = "scope_resolution") ∧ n.text = text
  | .word text, n => n.kind = "identifier" ∧ n.text = text
  | .symbol name, n => n.kind = "simple_symbol" ∧ n.text = ":" ++ name
  | .call name args, n =>
    n.HasMethod name ∧ n.child? "receiver" = none ∧ ∃ ns, n.HasArguments ns ∧ MirrorsAll args ns
  | .send receiver name args, n =>
    n.HasMethod name ∧ (∃ r, n.child? "receiver" = some r ∧ Mirrors receiver r) ∧
      ∃ ns, n.HasArguments ns ∧ MirrorsAll args ns
  | .reference target args, n =>
    n.kind = "element_reference" ∧ ∃ o ns, n.child? "object" = some o ∧
      n.children.filter (!·.isComment) = o :: ns ∧ Mirrors target o ∧ MirrorsAll args ns
  | .array items, n => n.kind = "array" ∧ MirrorsAll items (n.children.filter (!·.isComment))
  | .hash entries, n => n.kind = "hash" ∧ MirrorsAll entries (n.children.filter (!·.isComment))
  | .pair key value, n =>
    n.kind = "pair" ∧ (∃ k, n.child? "key" = some k ∧ k.kind = "hash_key_symbol" ∧ k.text = key) ∧
      ∃ v, n.child? "value" = some v ∧ Mirrors value v

def MirrorsAll : List Expr → List Node → Prop
  | [], ns => ns = []
  | e :: es, ns => ∃ m ms, ns = m :: ms ∧ Mirrors e m ∧ MirrorsAll es ms

end

theorem texts_eq_map (es : List Expr) : texts es = es.map text := by
  induction es with
  | nil => rfl
  | cons e es ih => simp [texts, ih]

theorem mirrorsAll_iff {es : List Expr} {ns : List Node} : MirrorsAll es ns ↔ List.Forall₂ Mirrors es ns := by
  induction es generalizing ns with
  | nil => simp [MirrorsAll]
  | cons e es ih =>
    simp only [MirrorsAll, ih, List.forall₂_cons_left_iff]
    constructor
    · rintro ⟨m, ms, rfl, hm, hms⟩
      exact ⟨m, ms, hm, hms, rfl⟩
    · rintro ⟨m, ms, hm, hms, rfl⟩
      exact ⟨m, ms, rfl, hm, hms⟩

section Mirrors

variable {n : Node}

theorem Mirrors.not_isCall_constant {text : String} (h : Mirrors (.constant text) n) :
    ¬ n.isCall ∧ n.kind ≠ "identifier" := by
  rcases h.1 with hk | hk <;> simp [Node.isCall, Node.callKinds, hk]

theorem Mirrors.chain_constant {text : String} (h : Mirrors (.constant text) n) : n.chain = (some n, []) := by
  obtain ⟨hcall, hkind⟩ := h.not_isCall_constant
  simp [Node.chain_of_not_isCall hcall, hkind]

theorem Mirrors.chain_word {text : String} (h : Mirrors (.word text) n) : n.chain = (none, [⟨some text, []⟩]) := by
  obtain ⟨hkind, rfl⟩ := h
  have hcall : ¬ n.isCall := by simp [Node.isCall, Node.callKinds, hkind]
  simp [Node.chain_of_not_isCall hcall, hkind]

theorem Mirrors.chain_call {name : String} {args : List Expr} (h : Mirrors (.call name args) n) :
    ∃ ns, n.chain = (none, [⟨some name, ns⟩]) ∧ MirrorsAll args ns := by
  obtain ⟨hmethod, hreceiver, ns, hns, hargs⟩ := h
  have hr : n.receiver? = none := by rw [Node.receiver?, if_pos hmethod.1, hreceiver]
  refine ⟨ns, ?_, hargs⟩
  rw [Node.chain_of_no_receiver hmethod.1 hr, hmethod.callName?, hns.arguments hmethod.1]

theorem Mirrors.chain_send {receiver : Expr} {name : String} {args : List Expr}
    (h : Mirrors (.send receiver name args) n) :
    ∃ r ns, Mirrors receiver r ∧ n.chain = (r.chain.1, r.chain.2 ++ [⟨some name, ns⟩]) ∧ MirrorsAll args ns := by
  obtain ⟨hmethod, ⟨r, hreceiver, hr⟩, ns, hns, hargs⟩ := h
  have hreceiver' : n.receiver? = some r := by rw [Node.receiver?, if_pos hmethod.1, hreceiver]
  refine ⟨r, ns, hr, ?_, hargs⟩
  rw [Node.chain_of_receiver? hmethod.1 hreceiver', hmethod.callName?, hns.arguments hmethod.1]

theorem Mirrors.pair? {key : String} {value : Expr} (hkey : Text.isLabel key)
    (h : Mirrors (.pair key value) n) : ∃ v, n.pair? = some (key, v) ∧ Mirrors value v := by
  obtain ⟨hkind, ⟨k, hk, hkkind, hktext⟩, v, hv, hvalue⟩ := h
  have hname : k.symbolName? = some key :=
    Node.symbolName?_of_isLabel hkey (by simp [hkkind, Node.symbolKinds]) (.inl hktext)
  exact ⟨v, by simp [Node.pair?, hkind, hk, hv, hname], hvalue⟩

theorem Mirrors.reference {target : Expr} {args : List Expr} (h : Mirrors (.reference target args) n) :
    ∃ o ns, n.reference = (some o, ns) ∧ Mirrors target o ∧ MirrorsAll args ns := by
  obtain ⟨-, o, ns, hobject, hchildren, htarget, hargs⟩ := h
  refine ⟨o, ns, ?_, htarget, hargs⟩
  have hparts : n.parts.filter (fun c => c.named && !c.isComment) = o :: ns := by
    rw [← hchildren, Node.children, List.filter_filter]
    simp only [Bool.and_comm]
  have hrest := filter_eraseP_of_find? hobject hparts
  simp only [Node.reference, hobject, hrest]

end Mirrors

end Expr

namespace Node

theorem filter_proper {ns : List Node} (h : ∀ n ∈ ns, n.named ∧ ¬ n.isComment) :
    (ns.filter (·.named)).filter (!·.isComment) = ns := by
  rw [List.filter_filter, List.filter_eq_self]
  intro n hn
  simp [h n hn]

end Node

namespace Expr

def pathKind (text : String) : String :=
  if text.toList.contains ':' then "scope_resolution" else "constant"

def nameKind (text : String) : String :=
  if text.toList.head?.any fun c => c.isUpper || c == ':' then pathKind text else "identifier"

mutual

def tree : Expr → Node
  | .fragment text => .made (nameKind text) text []
  | .constant text => .made (pathKind text) text []
  | .word text => .made "identifier" text []
  | .symbol name => .made "simple_symbol" (":" ++ name) []
  | .call name args =>
    .made "call" (text (.call name args))
      [(Node.made "identifier" name []).playing "method",
        (Node.made "argument_list" "" (trees args)).playing "arguments"]
  | .send receiver name args =>
    .made "call" (text (.send receiver name args))
      [(tree receiver).playing "receiver", (Node.made "identifier" name []).playing "method",
        (Node.made "argument_list" "" (trees args)).playing "arguments"]
  | .reference target args =>
    .made "element_reference" (text (.reference target args)) ((tree target).playing "object" :: trees args)
  | .array items => .made "array" (text (.array items)) (trees items)
  | .hash entries => .made "hash" (text (.hash entries)) (trees entries)
  | .pair key value =>
    .made "pair" (text (.pair key value))
      [(Node.made "hash_key_symbol" key []).playing "key", (tree value).playing "value"]

def trees : List Expr → List Node
  | [] => []
  | e :: es => tree e :: trees es

end

theorem Mirrors.playing {e : Expr} {n : Node} (h : Mirrors e n) (role : String) : Mirrors e (n.playing role) := by
  cases e <;> exact h

theorem pathKind_eq (text : String) : pathKind text = "constant" ∨ pathKind text = "scope_resolution" := by
  unfold pathKind
  split_ifs
  · exact .inr rfl
  · exact .inl rfl

theorem nameKind_ne (text : String) : nameKind text ≠ "comment" := by
  unfold nameKind
  split_ifs
  · rcases pathKind_eq text with h | h <;> rw [h] <;> decide
  · decide

theorem tree_proper (e : Expr) : e.tree.named ∧ ¬ e.tree.isComment := by
  cases e with
  | fragment text => exact ⟨rfl, by simpa [tree, Node.made, Node.isComment] using nameKind_ne text⟩
  | constant text =>
    refine ⟨rfl, ?_⟩
    rcases pathKind_eq text with h | h <;> simp [tree, Node.made, Node.isComment, h]
  | _ => exact ⟨rfl, by simp [tree, Node.made, Node.isComment]⟩

theorem trees_eq_map (es : List Expr) : trees es = es.map tree := by
  induction es with
  | nil => rfl
  | cons e es ih => rw [trees, ih, List.map_cons]

theorem trees_proper (es : List Expr) : ∀ n ∈ trees es, n.named ∧ ¬ n.isComment := by
  rw [trees_eq_map, List.forall_mem_map]
  exact fun e _ => e.tree_proper

mutual

theorem mirrors_tree : ∀ e : Expr, Mirrors e e.tree
  | .fragment text => ⟨rfl, (tree_proper (.fragment text)).2⟩
  | .constant text => ⟨pathKind_eq text, rfl⟩
  | .word _ => ⟨rfl, rfl⟩
  | .symbol _ => ⟨rfl, rfl⟩
  | .call _ args =>
    ⟨⟨rfl, _, rfl, rfl⟩, rfl, trees args, .inr ⟨_, rfl, Node.filter_proper (trees_proper args)⟩,
      mirrorsAll_trees args⟩
  | .send receiver _ args =>
    ⟨⟨rfl, _, rfl, rfl⟩, ⟨_, rfl, (mirrors_tree receiver).playing _⟩, trees args,
      .inr ⟨_, rfl, Node.filter_proper (trees_proper args)⟩, mirrorsAll_trees args⟩
  | .reference target args =>
    ⟨rfl, _, trees args, rfl,
      Node.filter_proper (List.forall_mem_cons.mpr ⟨target.tree_proper, trees_proper args⟩),
      (mirrors_tree target).playing _, mirrorsAll_trees args⟩
  | .array items => ⟨rfl, (Node.filter_proper (trees_proper items)).symm ▸ mirrorsAll_trees items⟩
  | .hash entries => ⟨rfl, (Node.filter_proper (trees_proper entries)).symm ▸ mirrorsAll_trees entries⟩
  | .pair _ value => ⟨rfl, ⟨_, rfl, rfl, rfl⟩, _, rfl, (mirrors_tree value).playing _⟩

theorem mirrorsAll_trees : ∀ es : List Expr, MirrorsAll es (trees es)
  | [] => rfl
  | e :: es => ⟨_, _, rfl, mirrors_tree e, mirrorsAll_trees es⟩

end

end Expr
end RubyStubs
