import RubyStubs.Extension.Basic
import RubyStubs.Journal

namespace RubyStubs

inductive Export where
  | extension (e : Extension)
  | other (text : String)
  | nothing

structure Library where
  modules : List (String × Bool × List (String × Export)) := []

namespace Library

def module? (l : Library) (name : String) : Option (Bool × List (String × Export)) :=
  (l.modules.find? (·.1 == name)).map (·.2)

def enclosing (outer : List String) : List (List Char) → List String
  | [] => []
  | p :: ps =>
    let path := outer ++ [String.ofList p]
    ".".intercalate path :: enclosing path ps

def firstMissing? (l : Library) (before : Option (String × Bool)) :
    List String → Option (String × Option String)
  | [] => none
  | name :: names =>
    match l.module? name with
    | some (isPackage, _) => l.firstMissing? (some (name, isPackage)) names
    | none =>
      some (name, match before with
        | some (parent, false) => some parent
        | _ => none)

def offered? (l : Library) (module name : String) : Option Export := do
  let (_, offers) ← l.module? module
  let (_, x) ← offers.find? (·.1 == name)
  return x

def find (l : Library) (module name : String) : Except SettingsError Export :=
  if module.isEmpty then .error .emptyModule
  else if Text.startsWith module "." then .error (.relativeModule module)
  else
    match l.firstMissing? none (enclosing [] (Text.split '.' module.toList)) with
    | some (missing, parent) => .error (.noModule module missing parent)
    | none =>
      match l.offered? module name with
      | none | some .nothing => .error (.noAttribute module name)
      | some x => .ok x

end Library

structure Registry where
  entries : List (String × Extension) := []

namespace Registry

def find? (r : Registry) (name : String) : Option Extension :=
  (r.entries.find? (·.1 == name)).map (·.2)

def put (entries : List (String × Extension)) (name : String) (e : Extension) :
    List (String × Extension) :=
  match entries with
  | [] => [(name, e)]
  | (n, x) :: rest => if n == name then (n, e) :: rest else (n, x) :: put rest name e

def register (r : Registry) (name : String) (x : Export) : Journal SettingsError Registry :=
  match x with
  | .other text => .ofExcept (.error (.notPlugin text))
  | .nothing => .ofExcept (.error (.notPlugin "None"))
  | .extension e => do
    match r.find? name with
    | some old =>
      if old.label != e.label then
        .notice ("Plugin " ++ name ++ " re-registered with " ++ e.label)
    | none => pure ()
    return ⟨put r.entries name e⟩

def unregister (r : Registry) (name : String) : Registry :=
  ⟨r.entries.filter (·.1 != name)⟩

def splitName : List Char → Option (List Char × List Char)
  | [] => none
  | c :: cs =>
    if c == ':' then some ([], cs) else (splitName cs).map fun (a, b) => (c :: a, b)

def resolve (r : Registry) (l : Library) (name : String) :
    Journal SettingsError (Registry × Extension) :=
  match r.find? name with
  | some e => pure (r, e)
  | none =>
    match splitName name.toList with
    | none => .ofExcept (.error (.unknownPlugin name))
    | some (module, attr) => do
      let x ← .ofExcept (l.find (String.ofList module) (String.ofList attr))
      let r ← r.register name x
      match r.find? name with
      | some e => return (r, e)
      | none => .ofExcept (.error (.unknownPlugin name))

/-- Loads extensions in order. The registry keeps what was resolved before a failure. -/
def load (r : Registry) (l : Library) : List (String × List (Data × Data)) →
    Registry × Journal SettingsError (List Loaded)
  | [] => (r, pure [])
  | (name, options) :: rest =>
    let j := r.resolve l name
    match j.result with
    | .error e => (r, ⟨j.notices, .error e⟩)
    | .ok (r, extension) =>
      let (r, k) := r.load l rest
      (r, ⟨j.notices ++ k.notices, k.result.map ({ extension, options } :: ·)⟩)

structure Script where
  path : PathName
  name : String
  extension : Extension

def isScriptName (path : PathName) : Bool := (".py".toList.reverse).isPrefixOf path.toText.toList.reverse

def checkScript (t : FileTree) (path : PathName) : Except SettingsError Unit :=
  match t.find path with
  | .error .nameTooLong => .error (.unreadable .nameTooLong)
  | .error _ => .error (.missingRequire path.toText)
  | .ok entry =>
    if !isScriptName path then .error (.notScript path.toText)
    else if entry == .directory then .error (.unreadable .isDirectory)
    else .ok ()

def require (r : Registry) (t : FileTree) (scripts : List Script) (base : PathName) :
    List String → Registry × Journal SettingsError Unit
  | [] => (r, pure ())
  | path :: rest =>
    let full := base.join (.ofText path)
    match checkScript t full with
    | .error e => (r, .ofExcept (.error e))
    | .ok () =>
      let found := scripts.find? fun s => t.resolve s.path == t.resolve full
      let j : Journal SettingsError Registry := match found with
        | some s => r.register s.name (.extension s.extension)
        | none => pure r
      match j.result with
      | .error e => (r, ⟨j.notices, .error e⟩)
      | .ok r =>
        let (r, k) := r.require t scripts base rest
        (r, ⟨j.notices ++ k.notices, k.result⟩)

end Registry
end RubyStubs
