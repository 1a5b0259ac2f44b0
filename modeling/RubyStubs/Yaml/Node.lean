import RubyStubs.Yaml.Token

/-!
The tree that YAML tokens spell out. An alias stands for the node that was given its name before. A
node that is left out is an empty plain scalar. The functions take fuel, which every call uses up
and the number of tokens bounds.
-/
namespace RubyStubs.Yaml

/-- `plain` says that the text of a scalar decides what it means. -/
inductive Node where
  | scalar (text : String) (plain : Bool)
  | list (items : List Node)
  | map (entries : List (Node × Node))
  deriving Inhabited

namespace Node

def empty : Node := .scalar "" true

structure Reading where
  tokens : List Token
  anchors : List (String × Node) := []

abbrev Read := StateT Reading Option

namespace Read

def peek? : Read (Option Token) := do return (← get).tokens.head?

def pop : Read Unit := modify fun r => { r with tokens := r.tokens.drop 1 }

def accept (t : Token) : Read Bool := do
  if (← peek?) == some t then
    pop
    return true
  else return false

def isNext (ts : List Token) : Read Bool := do return (← peek?).any ts.contains

def named (name : String) (x : Node) : Read Unit :=
  modify fun r => { r with anchors := (name, x) :: r.anchors }

def lookup (name : String) : Read Node := do
  match (← get).anchors.find? (·.1 == name) with
  | some (_, x) => return x
  | none => failure

def properties : Read (Option String × Option String) := do
  match (← get).tokens with
  | .anchor a :: .tag t :: _ | .tag t :: .anchor a :: _ => pop; pop; return (some a, some t)
  | .anchor a :: _ => pop; return (some a, none)
  | .tag t :: _ => pop; return (none, some t)
  | _ => return (none, none)

end Read

def textTags : List String := ["!!str", "!<tag:yaml.org,2002:str>"]

def isPlain (plain : Bool) : Option String → Bool
  | none => plain
  | some tag => !textTags.contains tag

def bare (anchor tag : Option String) : Read Node :=
  if anchor.isSome || tag.isSome then return .scalar "" (isPlain true tag) else failure

def afterBlock : List Token := [.key, .value, .blockEnd]

open Read in
mutual

/-- A node. In a block it may be an indented collection, and as a part of a mapping a list whose
dashes are not indented. -/
def node (isBlock inMap : Bool) : Nat → Read Node
  | 0 => failure
  | n + 1 => do
    if let some (.alias name) ← peek? then
      pop
      return ← lookup name
    let (anchor, tag) ← properties
    let x ← match ← peek? with
      | some (.scalar text plain) => do
        pop
        pure (.scalar text (isPlain plain tag))
      | some .openList => do pop; .list <$> flowItems true n
      | some .openMap => do pop; .map <$> flowEntries true n
      | some .entry => if inMap then .list <$> looseItems n else bare anchor tag
      | some .blockList => if isBlock then do pop; .list <$> blockItems n else bare anchor tag
      | some .blockMap => if isBlock then do pop; .map <$> blockEntries n else bare anchor tag
      | _ => bare anchor tag
    if let some name := anchor then named name x
    return x

def nodeBefore (stop : List Token) (isBlock inMap : Bool) : Nat → Read Node
  | 0 => failure
  | n + 1 => do if ← isNext stop then return empty else node isBlock inMap n

def valueBefore (stop : List Token) (isBlock inMap : Bool) : Nat → Read Node
  | 0 => failure
  | n + 1 => do if ← accept .value then nodeBefore stop isBlock inMap n else return empty

def blockItems : Nat → Read (List Node)
  | 0 => failure
  | n + 1 => do
    if ← accept .entry then
      let x ← nodeBefore [.entry, .blockEnd] true false n
      return x :: (← blockItems n)
    else if ← accept .blockEnd then return []
    else failure

def looseItems : Nat → Read (List Node)
  | 0 => failure
  | n + 1 => do
    if ← accept .entry then
      let x ← nodeBefore (.entry :: afterBlock) true false n
      return x :: (← looseItems n)
    else return []

def blockEntries : Nat → Read (List (Node × Node))
  | 0 => failure
  | n + 1 => do
    if ← accept .key then
      let k ← nodeBefore afterBlock true true n
      let v ← valueBefore afterBlock true true n
      return (k, v) :: (← blockEntries n)
    else if ← accept .blockEnd then return []
    else failure

/-- Items between brackets, with a comma in front of all but the first. A single pair is a mapping
of its own. -/
def flowItems (first : Bool) : Nat → Read (List Node)
  | 0 => failure
  | n + 1 => do
    if ← accept .closeList then return []
    unless first || (← accept .comma) do failure
    if ← accept .closeList then return []
    let x ← do
      if ← accept .key then
        let k ← nodeBefore [.value, .comma, .closeList] false false n
        let v ← valueBefore [.comma, .closeList] false false n
        pure (.map [(k, v)])
      else node false false n
    return x :: (← flowItems false n)

def flowEntries (first : Bool) : Nat → Read (List (Node × Node))
  | 0 => failure
  | n + 1 => do
    if ← accept .closeMap then return []
    unless first || (← accept .comma) do failure
    if ← accept .closeMap then return []
    let e ← do
      if ← accept .key then
        let k ← nodeBefore [.value, .comma, .closeMap] false false n
        let v ← valueBefore [.comma, .closeMap] false false n
        pure (k, v)
      else do pure (← node false false n, empty)
    return e :: (← flowEntries false n)

end

def ofTokens? (tokens : List Token) : Option Node :=
  let stop : List Token := [.directive, .documentStart, .documentEnd]
  let body := match tokens.dropWhile (· == .directive) with
    | .documentStart :: rest => rest
    | rest => rest
  let fuel := 4 * tokens.length + 4
  match body with
  | [] => some empty
  | t :: _ => if stop.contains t then some empty else (node true false fuel { tokens := body }).map (·.1)

end Node
end RubyStubs.Yaml
