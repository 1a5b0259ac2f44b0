import RubyStubs.Text.Split

namespace RubyStubs

/-- `root` holds the slashes at the start: none, one or two. -/
structure PathName where
  root : String := ""
  parts : List String := []
  deriving DecidableEq, Repr

namespace PathName

def rootOf : List Char → String
  | '/' :: '/' :: '/' :: _ => "/"
  | '/' :: '/' :: _ => "//"
  | '/' :: _ => "/"
  | _ => ""

def ofText (s : String) : PathName where
  root := rootOf s.toList
  parts := ((Text.split '/' s.toList).map String.ofList).filter fun p => p != "" && p != "."

def rooted (p : PathName) : Bool := p.root != ""

def toText (p : PathName) : String :=
  if !p.rooted && p.parts.isEmpty then "." else p.root ++ "/".intercalate p.parts

def join (p q : PathName) : PathName :=
  if q.rooted then q else { p with parts := p.parts ++ q.parts }

def parent (p : PathName) : PathName := { p with parts := p.parts.dropLast }

end PathName
end RubyStubs
