import RubyStubs.Decl.Merge
import RubyStubs.Files.Scan
import RubyStubs.Source.Read
import RubyStubs.Source.Sigil

namespace RubyStubs
namespace Project

variable (read : Reader)

def loadText (o : ReadOptions) (file text : String) : Source.Read Decl :=
  Source.program { root := read text, file := if file.isEmpty then "(source)" else file } o

def loadFile (o : ReadOptions) (t : FileTree) (path : PathName) :
    Except FileError (Source.Read Decl) := do
  let bytes ← t.read path
  return loadText read o path.toText (FileTree.textOf bytes)

def isIgnored (text : String) : Bool := strictness? text == some "ignore"

def loadFiles (o : ReadOptions) (t : FileTree) (root : PathName) (files : List (List String)) :
    Source.Read (List Decl) :=
  Journal.collect files fun file _ =>
    let text := (t.text? (root.join { parts := file })).getD ""
    if isIgnored text then return []
    else do return [← loadText read o ({ parts := file } : PathName).toText text]

/-- A directory to load from need not be there, but a name that is too long is refused. -/
def checkRoot (t : FileTree) (root : PathName) : Except FileError Unit :=
  match t.find root with
  | .error .nameTooLong => .error .nameTooLong
  | _ => .ok ()

def load (o : ReadOptions) (t : FileTree) (root : PathName) (inclusions exclusions : List PathName) :
    Source.Read Decl := do
  let roots ← loadFiles read o t root (t.scan root inclusions exclusions)
  return Decl.mergeRoots roots

end Project
end RubyStubs
