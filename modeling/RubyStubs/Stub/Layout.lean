import RubyStubs.Decl.Basic
import RubyStubs.Stub.Style

/-!
The layout that both kinds of stub file share: comments above, mixins first, a blank line between
declarations, and plain scopes folded into qualified names.

A dialect supplies what is its own. All lines of a declaration are a function of the level it is
at and of the qualifier, the outer names that its own name has to carry.
-/
namespace RubyStubs

/-- What a kind of stub file has of its own. `opening` is the line that opens a scope, `sections`
what stands in a scope before its body, and `member` the lines of a member without comments. -/
structure Dialect where
  label : String
  opening : Scope → String
  sections : Style → Int → Scope → List (List String)
  member : Style → Int → Member → List String

namespace Layout

def comments (st : Style) (level : Int) (cs : List String) : List String :=
  cs.map fun c => st.indented level (Text.trimEnd ("# " ++ c))

def mixins (st : Style) (level : Int) (s : Scope) : List String :=
  s.included.map (fun i => st.indented level ("include " ++ i)) ++
    s.extended.map (fun e => st.indented level ("extend " ++ e))

def addBlock (lines block : List String) : List String :=
  (if lines.isEmpty then [] else lines ++ [""]) ++ block

def ordered (st : Style) (blocks : List (String × List String)) : List (String × List String) :=
  if st.sorted then blocks.mergeSort (fun a b => decide (a.1 ≤ b.1)) else blocks

def body (st : Style) (level : Int) (s : Scope) (blocks : List (String × List String)) : List String :=
  (ordered st blocks).foldl (fun lines b => addBlock lines b.2) (mixins st level s)

def joinSections (sections : List (List String)) : List String :=
  (sections.filter (!·.isEmpty)).foldl addBlock []

def framed (st : Style) (level : Int) (opening : String) (sections : List (List String)) : List String :=
  st.indented level opening :: joinSections sections ++ [st.indented level "end"]

def scope (D : Dialect) (st : Style) (level : Int) (s : Scope)
    (blocks : Int → List (String × List String)) : List String :=
  comments st level s.comments ++
    match s.kind with
    | .plain => body st level s (blocks level)
    | _ =>
      framed st level (D.opening s)
        (D.sections st (level + 1) s ++ [body st (level + 1) s (blocks (level + 1))])

theorem scope_of_plain (D : Dialect) (st : Style) (level : Int) {s : Scope} (hs : s.kind = .plain)
    (blocks : Int → List (String × List String)) :
    scope D st level s blocks = comments st level s.comments ++ body st level s (blocks level) := by
  rw [scope, hs]

theorem scope_of_framed (D : Dialect) (st : Style) (level : Int) {s : Scope} (hs : s.kind ≠ .plain)
    (blocks : Int → List (String × List String)) :
    scope D st level s blocks = comments st level s.comments ++
      framed st level (D.opening s)
        (D.sections st (level + 1) s ++ [body st (level + 1) s (blocks (level + 1))]) := by
  unfold scope
  split
  · next h => exact absurd h hs
  · rfl

def folds (s : Scope) (children : List Decl) : Bool :=
  children.all Decl.isScope && s.included.isEmpty && s.extended.isEmpty

def qualify (qualifier : String) (s : Scope) : Scope := { s with name := qualifier ++ s.name }

mutual

/-- The lines of a declaration inside a scope. A plain scope with a name is folded into the names
below it, or is written as a module. -/
def child (D : Dialect) (st : Style) : Decl → Int → String → List String
  | .member m, level, _ => comments st level m.comments ++ D.member st level m
  | .scope s ds, level, qualifier =>
    if s.kind == .plain && !s.name.isEmpty then
      if folds s ds then
        comments st level s.comments ++ body st level s (blocks D st ds level (qualifier ++ s.name ++ "::"))
      else
        comments st level s.comments ++
          st.indented level ("module " ++ qualifier ++ s.name) ::
            body st (level + 1) s (blocks D st ds (level + 1) "") ++ [st.indented level "end"]
    else scope D st level (qualify qualifier s) fun l => blocks D st ds l ""

def blocks (D : Dialect) (st : Style) : List Decl → Int → String → List (String × List String)
  | [], _, _ => []
  | d :: ds, level, qualifier => (d.name, child D st d level qualifier) :: blocks D st ds level qualifier

end

theorem blocks_eq_map (D : Dialect) (st : Style) (ds : List Decl) (level : Int) (qualifier : String) :
    blocks D st ds level qualifier = ds.map fun d => (d.name, child D st d level qualifier) := by
  induction ds with
  | nil => rfl
  | cons d ds ih => simp [blocks, ih]

theorem body_blocks (D : Dialect) {st : Style} (hst : st.sorted = false) (s : Scope) (ds : List Decl)
    (level : Int) (qualifier : String) :
    body st level s (blocks D st ds level qualifier) =
      (ds.map fun d => child D st d level qualifier).foldl addBlock (mixins st level s) := by
  simp [body, ordered, hst, blocks_eq_map, List.foldl_map]

def node (D : Dialect) (st : Style) (d : Decl) (level : Int) : List String :=
  match d with
  | .member m => comments st level m.comments ++ D.member st level m
  | .scope s ds => scope D st level s fun l => blocks D st ds l ""

def program (D : Dialect) (st : Style) (root : Decl) : List String :=
  match root with
  | .member m => comments st 0 m.comments
  | .scope s ds => comments st 0 s.comments ++ body st 0 s (blocks D st ds 0 "")

end Layout

namespace Decl

mutual

/-- Whether a declaration is or holds a bare member, which has no written form. -/
def hasBare : Decl → Bool
  | .member m => m.body == .bare
  | .scope _ ds => hasBareIn ds

def hasBareIn : List Decl → Bool
  | [] => false
  | d :: ds => hasBare d || hasBareIn ds

end

end Decl

inductive PrintError where
  | bareMember (dialect : String)
  deriving DecidableEq, Repr

def PrintError.message : PrintError → String
  | .bareMember dialect => "cannot generate " ++ dialect ++ " for Node"

namespace Dialect

def write (D : Dialect) (st : Style) (heading : String) (root : Decl) : Except PrintError String :=
  if root.hasBare then .error (.bareMember D.label)
  else .ok (heading ++ "\n".intercalate (Layout.program D st root) ++ "\n")

def writeNode (D : Dialect) (st : Style) (d : Decl) (level : Int) : Except PrintError (List String) :=
  if d.hasBare then .error (.bareMember D.label) else .ok (Layout.node D st d level)

end Dialect
end RubyStubs
