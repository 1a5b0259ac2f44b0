import RubyStubs.Source.Place
import RubyStubs.TypeExpr.OfNode

namespace RubyStubs

/-- How source is read: whether statements that declare nothing known are errors, whether types
are read into the algebra or kept as text, and which superclasses make an enum or a struct. -/
structure ReadOptions where
  strict : Bool := true
  structured : Bool := false
  enumBases : List String := ["T::Enum"]
  structBases : List String := ["T::Struct", "T::InexactStruct"]
  deriving Repr

def ReadOptions.type (o : ReadOptions) (n : Node) : TypeExpr :=
  if o.structured then .ofNode n else .raw n.text

/-- `parameters` is absent if the sig has no `params` call. -/
structure SigInfo where
  isAbstract : Bool := false
  isImplementation : Bool := false
  isOverride : Bool := false
  isOverridable : Bool := false
  isFinal : Bool := false
  result : Option TypeExpr := none
  isVoid : Bool := false
  parameters : Option (List (String × TypeExpr)) := none
  typeParameters : List String := []
  deriving DecidableEq

namespace Source

def sigPairs (u : Source) (o : ReadOptions) (p : NodePath) (seen : List (String × TypeExpr)) :
    List Node → Except SourceError (List (String × TypeExpr))
  | [] => .ok seen
  | a :: as =>
    match a.pair? with
    | none => u.fail .paramsShape p
    | some (name, value) =>
      if seen.any (·.1 == name) then u.fail (.repeatedParameter name) p
      else u.sigPairs o p (seen ++ [(name, o.type value)]) as

def sigParameters (u : Source) (o : ReadOptions) (p : NodePath) (args : List Node) :
    Except SourceError (List (String × TypeExpr)) :=
  if args.isEmpty then u.fail .paramsArguments p
  else u.sigPairs o p [] <|
    match args with
    | [a] => if a.kind == "hash" then a.children.filter (!·.isComment) else [a]
    | args => args

def typeParameterName (n : Node) : String :=
  match n.symbolName? with
  | some s => if s.isEmpty then n.text else s
  | none => n.text

def sigLink (u : Source) (o : ReadOptions) (p : NodePath) (info : SigInfo) (l : Node.Link) :
    Except SourceError SigInfo :=
  match l.name, l.arguments with
  | some "abstract", [] => .ok { info with isAbstract := true }
  | some "implementation", [] => .ok { info with isImplementation := true }
  | some "override", [] => .ok { info with isOverride := true }
  | some "overridable", [] => .ok { info with isOverridable := true }
  | some "void", _ => .ok { info with isVoid := true }
  | some "returns", [a] => .ok { info with result := some (o.type a) }
  | some "returns", _ => u.fail .returnsArguments p
  | some "params", args => do
    let parameters ← u.sigParameters o p args
    return { info with parameters := some parameters }
  | some "type_parameters", args =>
    .ok { info with typeParameters := args.map typeParameterName }
  | _, _ => .ok info

def sigLinks (u : Source) (o : ReadOptions) (p : NodePath) (info : SigInfo) :
    List Node.Link → Except SourceError SigInfo
  | [] => .ok info
  | l :: ls => do u.sigLinks o p (← u.sigLink o p info l) ls

def sigInfo (u : Source) (o : ReadOptions) (p : NodePath) : Except SourceError SigInfo := do
  let n ← u.node p
  let isFinal := n.arguments.any (·.symbolName? == some "final")
  match n.block? with
  | none => .error .noPart
  | some b =>
    match b.blockStatements with
    | [s] => u.sigLinks o p { isFinal } s.chain.2
    | _ => u.fail .sigExpressions p

end Source
end RubyStubs
