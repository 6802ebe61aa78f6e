import Anbox.Framework.Tokens
import Mathlib.Data.List.Infix

namespace Anbox.Utils

/-- A text of ASCII characters. -/
def text (s : String) : List UInt8 := s.toList.map fun c => UInt8.ofNat c.toNat

def stringStartsWith (text front : List UInt8) : Bool := front.isPrefixOf text

/-- The tokens of a text: separators next to each other count as one, and one at an end of the text
leaves an empty token there. -/
def stringSplit (text : List UInt8) (sep : UInt8) : List (List UInt8) :=
  (Framework.merge sep text).splitOn sep

theorem stringStartsWith_iff {text front : List UInt8} :
    stringStartsWith text front = true ↔ front <+: text := List.isPrefixOf_iff_prefix

end Anbox.Utils
