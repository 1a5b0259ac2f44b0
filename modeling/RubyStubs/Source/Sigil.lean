import RubyStubs.Text.Blank
import RubyStubs.Text.Lines
import RubyStubs.Text.Word

namespace RubyStubs
namespace Sigil

def after? (start : String) (cs : List Char) : Option (List Char) :=
  if start.toList.isPrefixOf cs then some (cs.drop start.toList.length) else none

def ofLine? (cs : List Char) : Option String := do
  let cs ← after? "#" cs
  let cs ← after? "typed:" (cs.dropWhile Text.isBlank)
  let word := (cs.dropWhile Text.isBlank).takeWhile Text.isWord
  if word.isEmpty then none else some (String.ofList word)

def ofLines? : List String → Option String
  | [] => none
  | l :: ls =>
    let l := Text.trim l
    if l.isEmpty then ofLines? ls
    else if Text.startsWith l "#" then (ofLine? l.toList).or (ofLines? ls)
    else none

end Sigil

def strictness? (source : String) : Option String := Sigil.ofLines? (Text.lines source)

end RubyStubs
