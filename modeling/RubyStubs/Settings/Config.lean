import RubyStubs.Files.FileTree
import RubyStubs.Settings.Data
import RubyStubs.Settings.Error
import RubyStubs.Stub.Style

namespace RubyStubs

structure SourceSettings where
  root : String := "."
  included : List String := []
  excluded : List String := []
  strict : Bool := false
  deriving DecidableEq, Repr

/-- `source` is absent if no source is to be loaded, and `path` if there is no settings file. -/
structure Config where
  rbiOutput : Option String := none
  rbsOutput : Option String := none
  requires : List String := []
  plugins : List (String × List (Data × Data)) := []
  source : Option SourceSettings := some {}
  style : Style := {}
  path : Option PathName := none

namespace Config

def baseDir (c : Config) : PathName := (c.path.map PathName.parent).getD {}

def text? (entries : List (Data × Data)) (key : String) : Except SettingsError (Option String) :=
  match Data.lookup? entries key with
  | none | some .null => .ok none
  | some (.text s) => .ok (some s)
  | some _ => .error (.notText key)

def allTexts? : List Data → Option (List String)
  | [] => some []
  | .text s :: ds => (allTexts? ds).map (s :: ·)
  | _ :: _ => none

def textList (entries : List (Data × Data)) (key : String) : Except SettingsError (List String) :=
  match Data.lookup? entries key with
  | none => .ok []
  | some d =>
    if d.isBlank then .ok []
    else
      match d with
      | .list l =>
        match allTexts? l with
        | some ss => .ok ss
        | none => .error (.notTextList key)
      | _ => .error (.notTextList key)

def positive (entries : List (Data × Data)) (key : String) (default : Int) :
    Except SettingsError Int :=
  match Data.lookup? entries key with
  | none => .ok default
  | some (.int n) => if n < 1 then .error (.notPositive key) else .ok n
  | some _ => .error (.notPositive key)

def flag (entries : List (Data × Data)) (key : String) : Bool :=
  ((Data.lookup? entries key).map (!·.isBlank)).getD false

def section? (entries : List (Data × Data)) (key : String) : Option (List (Data × Data)) :=
  match Data.lookup? entries key with
  | none => some []
  | some d =>
    if d.isBlank then some []
    else
      match d with
      | .map m => some m
      | _ => none

def outputs (entries : List (Data × Data)) : Except SettingsError (Option String × Option String) :=
  match Data.lookup? entries "output_file" with
  | none | some .null => .ok (none, none)
  | some (.text s) => .ok (some s, none)
  | some (.map m) => do
    let rbi ← text? m "rbi"
    let rbs ← text? m "rbs"
    return (rbi, rbs)
  | some _ => .error .outputFile

def putPlugin (plugins : List (String × List (Data × Data))) (name : String)
    (options : List (Data × Data)) : List (String × List (Data × Data)) :=
  match plugins with
  | [] => [(name, options)]
  | (n, o) :: rest =>
    if n == name then (n, options) :: rest else (n, o) :: putPlugin rest name options

def pluginsFrom (plugins : List (String × List (Data × Data))) :
    List (Data × Data) → Except SettingsError (List (String × List (Data × Data)))
  | [] => .ok plugins
  | (name, options) :: rest =>
    match options with
    | .null => pluginsFrom (putPlugin plugins name.toText []) rest
    | .map m => pluginsFrom (putPlugin plugins name.toText m) rest
    | _ => .error (.pluginOptions name.toText)

def sourceSettings (entries : List (Data × Data)) : Except SettingsError (Option SourceSettings) :=
  let ofMap (m : List (Data × Data)) : Except SettingsError (Option SourceSettings) := do
    let included ← textList m "included_paths"
    let excluded ← textList m "excluded_paths"
    return some { root := ((Data.lookup? m "root").map Data.toText).getD ".", included, excluded,
                  strict := flag m "unknown_node_errors" }
  match Data.lookup? entries "parser" with
  | none | some .null => ofMap []
  | some (.bool false) => .ok none
  | some (.map m) => ofMap m
  | some _ => .error .parser

/-- Reads settings; they are checked in a fixed order and the first fault is reported. -/
def ofData (d : Data) : Except SettingsError Config :=
  match d with
  | .map entries => do
    let (rbiOutput, rbsOutput) ← outputs entries
    let requires ← textList entries "relative_requires"
    let plugins ← match section? entries "plugins" with
      | some m => pluginsFrom [] m
      | none => .error .plugins
    let source ← sourceSettings entries
    match section? entries "style" with
    | none => .error .style
    | some m =>
      let breakParams ← positive m "break_params" 4
      let tabSize ← positive m "tab_size" 2
      return { rbiOutput, rbsOutput, requires, plugins, source
               style := { breakParams, tabSize, sorted := flag m "sort_namespaces" } }
  | _ => .error .notMapping

abbrev YamlReader := String → Except String Data

def defaultFile : PathName := .ofText ".stubsmith.yaml"

def ofText (yaml : YamlReader) (p : PathName) (text : String) : Except SettingsError Config := do
  match yaml text with
  | .error reason => .error (.invalidYaml p.toText reason)
  | .ok d =>
    let c ← ofData (if d.isBlank then .map [] else d)
    return { c with path := some p }

/-- The settings in a file. A file that is asked for has to be there; without the usual one all
settings have their defaults. -/
def load (yaml : YamlReader) (t : FileTree) (path : Option PathName) : Except SettingsError Config :=
  let p := path.getD defaultFile
  match t.find p with
  | .error .nameTooLong => .error (.unreadable .nameTooLong)
  | .error _ => if path.isSome then .error (.missingFile p.toText) else .ok {}
  | .ok .directory => .error (.unreadable .isDirectory)
  | .ok (.file bytes) =>
    if Text.isUtf8 bytes then ofText yaml p (FileTree.textOf bytes) else .error (.unreadable .notText)

end Config
end RubyStubs
