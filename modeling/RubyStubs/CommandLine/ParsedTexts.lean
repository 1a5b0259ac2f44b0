import RubyStubs.Settings.Config
import RubyStubs.SyntaxTree.Node

/-!
What parsers of Ruby and YAML have made of texts. The trees and the data are given under the texts
themselves, so that they can be looked up when a text has to be parsed.
-/
namespace RubyStubs

structure ParsedTexts where
  trees : List (Data × Data) := []
  settings : List (Data × Data) := []

namespace ParsedTexts

def entriesOf : Option Data → List (Data × Data)
  | some (.map m) => m
  | _ => []

def ofData (d : Data) : ParsedTexts where
  trees := entriesOf (Data.lookup? (entriesOf (some d)) "trees")
  settings := entriesOf (Data.lookup? (entriesOf (some d)) "yaml")

def natOf : Data → Nat
  | .int n => n.toNat
  | _ => 0

def textOf? : Data → Option String
  | .text s => some s
  | _ => none

mutual

def span : Data → Span
  | .list [kind, start, stop, field, flags, parts] =>
    let f := natOf flags
    { kind := (textOf? kind).getD "", start := natOf start, stop := natOf stop,
      field := textOf? field, named := f % 2 == 0, missing := f / 2 % 2 == 1,
      broken := f / 4 % 2 == 1, parts := spansOf parts }
  | _ => default

def spansOf : Data → List Span
  | .list parts => spans parts
  | _ => []

def spans : List Data → List Span
  | [] => []
  | d :: ds => span d :: spans ds

end

def reader (p : ParsedTexts) : Reader := fun text =>
  Node.ofSpan text.toUTF8 (span ((Data.lookup? p.trees text).getD .null))

def yamlReader (p : ParsedTexts) : Config.YamlReader := fun text =>
  let found := entriesOf (Data.lookup? p.settings text)
  match Data.lookup? found "error" with
  | some (.text reason) => .error reason
  | _ => .ok ((Data.lookup? found "data").getD .null)

end ParsedTexts
end RubyStubs
