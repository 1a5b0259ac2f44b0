import RubyStubs.Files.Error
import RubyStubs.Text.Quoted

namespace RubyStubs

inductive SettingsError where
  | notMapping
  | outputFile
  | notText (key : String)
  | notTextList (key : String)
  | plugins
  | pluginOptions (name : String)
  | parser
  | style
  | notPositive (key : String)
  | missingFile (path : String)
  | invalidYaml (path reason : String)
  | unreadable (e : FileError)
  | unknownPlugin (name : String)
  | emptyModule
  | relativeModule (module : String)
  | noModule (module missing : String) (plainParent : Option String)
  | noAttribute (module name : String)
  | notPlugin (text : String)
  | missingRequire (path : String)
  | notScript (path : String)
  | pluginFailed (message : String)
  deriving DecidableEq, Repr

namespace SettingsError

def message : SettingsError → String
  | .notMapping => "configuration must be a mapping"
  | .outputFile => "output_file must be a path or a mapping with rbi/rbs keys"
  | .notText key => key ++ " must be a string"
  | .notTextList key => key ++ " must be a list of strings"
  | .plugins => "plugins must be a mapping of plugin name to options"
  | .pluginOptions name => "options for plugin " ++ name ++ " must be a mapping"
  | .parser => "parser must be false or a mapping"
  | .style => "style must be a mapping"
  | .notPositive key => key ++ " must be a positive integer"
  | .missingFile path => "config file not found: " ++ path
  | .invalidYaml path reason => "invalid YAML in " ++ path ++ ": " ++ reason
  | .unreadable e => e.message
  | .unknownPlugin name =>
    "unknown plugin " ++ Text.quoted name ++ "; register it or use a module:Class path"
  | .emptyModule => "Empty module name"
  | .relativeModule module =>
    "the 'package' argument is required to perform a relative import for " ++ Text.quoted module
  | .noModule module missing plainParent =>
    "could not import plugin module " ++ Text.quoted module ++ ": No module named " ++
      Text.quoted missing ++ plainParent.elim "" fun p => "; " ++ Text.quoted p ++ " is not a package"
  | .noAttribute module name =>
    "module " ++ Text.quoted module ++ " has no attribute " ++ Text.quoted name
  | .notPlugin text => text ++ " is not a Plugin subclass"
  | .missingRequire path => "required file not found: " ++ path
  | .notScript path => "not a script: " ++ path
  | .pluginFailed message => message

end SettingsError
end RubyStubs
