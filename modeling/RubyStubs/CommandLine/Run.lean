import RubyStubs.CommandLine.Invocation
import RubyStubs.CommandLine.Prompt
import RubyStubs.Console.Message
import RubyStubs.Extension.Registry
import RubyStubs.Project.Load
import RubyStubs.Stub.Convert
import RubyStubs.Stub.Rbi
import RubyStubs.Stub.Rbs

/-!
What each command does, step by step. A step that fails ends the command; what has been written,
printed or noticed until then stays.
-/
namespace RubyStubs

/-- What a command needs from outside: parsers, importable modules, files that register
extensions, and whether there is someone to ask. -/
structure Environment where
  read : Reader
  yaml : Config.YamlReader
  library : Library := {}
  scripts : List Registry.Script := []
  interactive : Bool := false

structure Session where
  files : FileTree := {}
  registry : Registry := {}
  answers : List String := []
  printed : String := ""
  notices : List String := []

inductive Failure where
  | usage (e : UsageError)
  | settings (e : SettingsError)
  | source (e : SourceError)
  | build (e : BuildError)
  | print (e : PrintError)
  | file (e : FileError)
  | markup (e : Console.MarkupError)
  | aborted
  deriving DecidableEq, Repr

namespace Failure

def exitCode : Failure → Nat
  | .usage _ => 2
  | _ => 1

/-- What the user is told. Nothing is said when there are no arguments, and failures within an
extension, of an import, of a file or of the console are not explained. -/
def message? : Failure → Option String
  | .usage .noArguments => none
  | .usage e => some ("Error: " ++ e.message)
  | .settings .emptyModule | .settings (.relativeModule _) => none
  | .settings (.unreadable _) | .settings (.notScript _) => none
  | .settings e => some ("Error: " ++ e.message)
  | .source (.problem what path line) =>
    (SourceError.problem what path line).message?.map ("Error: " ++ ·)
  | _ => none

def remark : Failure → String
  | .usage _ => Invocation.usage
  | .settings e => e.message
  | .file e => e.message
  | .build e => e.message
  | _ => "Aborted!"

end Failure

abbrev Command := ExceptT Failure (StateM Session)

namespace Command

variable {α ε : Type}

def ofExcept (f : ε → Failure) (x : Except ε α) : Command α := ExceptT.mk (pure (x.mapError f))

def ofJournal (f : ε → Failure) (j : Journal ε α) : Command α := do
  modify fun s => { s with notices := s.notices ++ j.notices }
  ofExcept f j.result

def print (text : String) : Command Unit := modify fun s => { s with printed := s.printed ++ text }

def say (message : String) : Command Unit := do print (← ofExcept .markup (Console.shown message))

def save (path label text : String) : Command Unit := do
  let s ← get
  let files ← ofExcept .file (s.files.write (.ofText path) text.toUTF8.toList)
  set { s with files }
  say ("[green]Wrote " ++ label ++ "[/] to " ++ path)

def loadExtensions (e : Environment) (c : Config) : Command (List Loaded) := do
  let s ← get
  let (registry, required) := s.registry.require s.files e.scripts c.baseDir c.requires
  set { s with registry }
  ofJournal .settings required
  let s ← get
  let (registry, loaded) := s.registry.load e.library c.plugins
  set { s with registry }
  ofJournal .settings loaded

def loadSource (e : Environment) (c : Config) : Command Decl :=
  match c.source with
  | none => return .scope {} []
  | some source => do
    say ("\n[bold blue]stubsmith[/] — Loading sources from " ++ source.root ++ "\n")
    let s ← get
    let root := c.baseDir.join (.ofText source.root)
    ofExcept .file (Project.checkRoot s.files root)
    ofJournal .source (Project.load e.read { strict := source.strict } s.files root
      (source.included.map .ofText) (source.excluded.map .ofText))

def runExtensions (loaded : List Loaded) (root : Decl) : Command Decl :=
  match Loaded.runAll loaded root with
  | (root, none) => return root
  | (_, some (.settings e)) => throw (.settings e)
  | (_, some (.build e)) => throw (.build e)

def resolveAlone (root : Decl) : Command Decl := do
  let r := (Policy.dropAndTell : Policy (List String) Unit).resolve root []
  modify fun s => { s with notices := s.notices ++ r.state }
  return r.value

def resolveAsking (root : Decl) : Command Decl := do
  let s ← get
  let r := Policy.asking.resolve root s.answers
  set { s with answers := r.state }
  if r.failure.isSome then throw .aborted
  return r.value

def output? (given configured : Option String) : Option String :=
  (given.filter (!·.isEmpty)).or (configured.filter (!·.isEmpty))

def rbsText (e : Environment) (style : Style) (root : Decl) : Except PrintError String :=
  Rbs.write style (Convert.program e.read root).1

def generate (e : Environment) (config rbi rbs : Option String) : Command Unit := do
  let s ← get
  let c ← ofExcept .settings (Config.load e.yaml s.files (config.map .ofText))
  let rbi := output? rbi c.rbiOutput
  let rbs := output? rbs c.rbsOutput
  if rbi.isNone && rbs.isNone then throw (.usage .noOutput)
  let loaded ← loadExtensions e c
  let root ← runExtensions loaded (← loadSource e c)
  let root ← if e.interactive then resolveAsking root else resolveAlone root
  if let some path := rbi then
    let strictness := (Loaded.firstStrictness? loaded).getD "strong"
    save path "RBI" (← ofExcept .print (Rbi.write c.style strictness root))
  if let some path := rbs then
    save path "RBS" (← ofExcept .print (rbsText e c.style root))

def parse (e : Environment) (file : String) (asRbs : Bool) : Command Unit := do
  let s ← get
  let loaded ← ofExcept .file (Project.loadFile e.read { strict := false } s.files (.ofText file))
  let root ← resolveAlone (← ofJournal .source loaded)
  print (← ofExcept .print (if asRbs then rbsText e {} root else Rbi.write {} "strong" root))

def ofInvocation (e : Environment) : Invocation → Command Unit
  | .help => print (Invocation.usage ++ "\n")
  | .version => print "stubsmith, version 0.4.0\n"
  | .generate config rbi rbs => generate e config rbi rbs
  | .parse file asRbs => parse e file asRbs

def perform (e : Environment) (s : Session) (args : List String) : Option Failure × Session :=
  let command : Command Unit := do
    let i ← ofExcept .usage (Invocation.ofArguments s.files args)
    ofInvocation e i
  match Id.run (command.run.run s) with
  | (.ok (), s) => (none, s)
  | (.error f, s) => (some f, s)

end Command
end RubyStubs
