import Issuance.Text.AsciiTable
import Issuance.Text.Blank
/-!
File names that are safe as one component of a storage key.

What remains is made of ASCII letters, digits, underscores, points and hyphens, and neither
begins nor ends with a point or an underscore; so it is never `.`, `..` or a path.
-/

namespace Issuance
namespace Text

/-- The ASCII characters that remain of a character when it is decomposed. -/
def asciiRemainder (c : Char) : List Char :=
  if c.toNat < 0x80 then [c]
  else
    let entries := asciiRemainders.filter (·.1 ≤ c.toNat)
    match entries.back? with
    | none => []
    | some (first, images) =>
      ((splitChars (· = '·') images.toList)[c.toNat - first]?).getD []

def isSafe (c : Char) : Bool :=
  c.isAlphanum || c = '_' || c = '.' || c = '-'

/-- The safe form of a file name: slashes part words, words are joined by underscores, and all
unsafe characters are dropped. It may be empty. -/
def safeFileName (name : String) : String :=
  let plain := (name.toList.flatMap asciiRemainder).map fun c => if c = '/' then ' ' else c
  let joined := List.intercalate ['_'] (blankFreeBlocks plain)
  String.ofList (stripChars (fun c => c = '.' || c = '_') (joined.filter isSafe))

end Text
end Issuance
