import RubyStubs.Console.EmojiTable
import RubyStubs.Text.Blank
import RubyStubs.Text.Hex
import RubyStubs.Text.Split

namespace RubyStubs.Console

def lower (c : Char) : Char :=
  let n := c.toNat
  if ('A' ≤ c && c ≤ 'Z') || (0xC0 ≤ n && n ≤ 0xDE && n != 0xD7) then Char.ofNat (n + 32)
  else if n == 0x212A then 'k'
  else if n == 0x212B then 'å'
  else c

def withoutEnd? (ending : String) (cs : List Char) : Option (List Char) :=
  let e := ending.toList
  if e.reverse.isPrefixOf cs.reverse then some (cs.take (cs.length - e.length)) else none

def charsAt (codes : List Char) : List Char :=
  (Text.split '-' codes).map fun code => Char.ofNat ((Text.hexNumber? code).getD 0)

def listed? (name : List Char) : Option (List Char) :=
  emojiTable.findSome? fun line =>
    (Text.split ' ' line.toList).findSome? fun entry =>
      match Text.split '=' entry with
      | [n, codes] => if n == name then some (charsAt codes) else none
      | _ => none

def tones : List (String × Char) :=
  [("_light_skin_tone", Char.ofNat 0x1f3fb), ("_medium-light_skin_tone", Char.ofNat 0x1f3fc),
   ("_medium_skin_tone", Char.ofNat 0x1f3fd), ("_medium-dark_skin_tone", Char.ofNat 0x1f3fe),
   ("_dark_skin_tone", Char.ofNat 0x1f3ff)]

def modified (tone : Char) : List Char → List Char
  | c :: '\ufe0f' :: cs => c :: tone :: cs
  | c :: cs => c :: tone :: cs
  | [] => []

def picture? (name : List Char) : Option (List Char) :=
  let toned := tones.findSome? fun (ending, tone) =>
    (withoutEnd? ending name).bind fun base => (listed? (base ++ ['~'])).map (modified tone)
  toned.or ((listed? name).or (listed? (name ++ ['~'])))

def variant? (name : List Char) : Option (List Char) :=
  match withoutEnd? "-emoji" name, withoutEnd? "-text" name with
  | some base, _ => (picture? (base.map lower)).map (· ++ ['\ufe0f'])
  | none, some base => (picture? (base.map lower)).map (· ++ ['\ufe0e'])
  | none, none => picture? (name.map lower)

def withPictures (skip : Nat) : List Char → List Char
  | [] => []
  | c :: cs =>
    match skip with
    | n + 1 => withPictures n cs
    | 0 =>
      let name := cs.takeWhile fun c => c != ':' && !Text.isBlank c
      if c == ':' && cs[name.length]? == some ':' then
        (variant? name).getD (':' :: name ++ [':']) ++ withPictures (name.length + 1) cs
      else c :: withPictures 0 cs

end RubyStubs.Console
