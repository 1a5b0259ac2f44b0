import RubyStubs.Decl.Build
import RubyStubs.Settings.Config

namespace RubyStubs

inductive ExtensionError where
  | settings (e : SettingsError)
  | build (e : BuildError)
  deriving DecidableEq, Repr

/-- An extension is told its options. It may set the strictness of the interface file. -/
structure Extension where
  label : String
  strictness : List (Data × Data) → Option String := fun _ => none
  generate : List (Data × Data) → Decl → Except ExtensionError Decl

structure Loaded where
  extension : Extension
  options : List (Data × Data)

namespace Loaded

def strictness (l : Loaded) : Option String := l.extension.strictness l.options

def runAll : List Loaded → Decl → Decl × Option ExtensionError
  | [], d => (d, none)
  | l :: ls, d =>
    match l.extension.generate l.options d with
    | .error e => (d, some e)
    | .ok d => runAll ls d

def firstStrictness? (ls : List Loaded) : Option String :=
  (ls.filterMap strictness).find? (!·.isEmpty)

end Loaded

namespace Extension

def addVersion : Extension where
  label := "AddVersion"
  generate options d :=
    let version := match Data.lookup? options "version" with
      | some v => if v.isBlank then "'0.0.0'" else v.toText
      | none => "'0.0.0'"
    ((d.build (.constant "VERSION" (.text ("T.let(" ++ version ++ ", String)")) false)).map
      (·.1)).mapError .build

def strict : Extension where
  label := "Strict"
  strictness _ := some "strict"
  generate _ d := ((d.build (.scope "Generated" (.ofModule false))).map (·.1)).mapError .build

def echo (decls : List (Data × Data) → Except BuildError (List Decl)) : Extension where
  label := "Echo"
  strictness options :=
    match Data.lookup? options "strictness" with
    | some v => if v.isBlank then none else some v.toText
    | none => none
  generate options d := do
    let made ← (decls options).mapError .build
    return made.foldl Decl.append d

def fail : Extension where
  label := "Fail"
  generate options _ :=
    let message := match Data.lookup? options "message" with
      | some v => if v.isBlank then "failed" else v.toText
      | none => "failed"
    .error (.settings (.pluginFailed message))

def idle (label : String) : Extension where
  label
  generate _ d := .ok d

end Extension
end RubyStubs
