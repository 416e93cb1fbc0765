/-!
The size of square code symbols.

A symbol of version `v` has `17 + 4 * v` modules on a side. The version is the least one whose
capacity, at the middle level of error correction, takes the bits of the content. The content is
encoded in blocks: long stretches of digits and of the alphanumeric set have shorter encodings
than plain bytes.
-/

namespace Issuance
namespace Symbol

/-- How a block of content is encoded. -/
inductive Mode
  | digits
  | alphanumeric
  | bytes
deriving DecidableEq, Repr

structure Block where
  mode : Mode
  length : Nat
deriving DecidableEq, Repr

/-- The data bits of each version, from the first one on. -/
def capacities : List Nat :=
  [128, 224, 352, 512, 688, 864, 992, 1232, 1456, 1728, 2032, 2320, 2672, 2920, 3320, 3624, 4056,
    4504, 5016, 5352, 5712, 6256, 6880, 7312, 8000, 8496, 9024, 9544, 10136, 10984, 11640, 12328,
    13048, 13800, 14496, 15312, 15936, 16816, 17728, 18672]

def maxVersion : Nat := 40

/-- The bits that give the length of a block, which grow with the version. -/
def lengthBits (version : Nat) : Mode → Nat
  | .digits => if version < 10 then 10 else if version < 27 then 12 else 14
  | .alphanumeric => if version < 10 then 9 else if version < 27 then 11 else 13
  | .bytes => if version < 10 then 8 else 16

def dataBits : Block → Nat
  | ⟨.digits, n⟩ => 10 * (n / 3) + [0, 4, 7].getD (n % 3) 0
  | ⟨.alphanumeric, n⟩ => 11 * (n / 2) + 6 * (n % 2)
  | ⟨.bytes, n⟩ => 8 * n

/-- The bits of a block with its mode and its length. -/
def blockBits (version : Nat) (block : Block) : Nat :=
  4 + lengthBits version block.mode + dataBits block

def isDigit (byte : UInt8) : Bool := 48 ≤ byte && byte ≤ 57

def isAlphanumeric (byte : UInt8) : Bool :=
  isDigit byte || (65 ≤ byte && byte ≤ 90)
    || [32, 36, 37, 42, 43, 45, 46, 47, 58].contains byte

/-- The maximal stretches of bytes that all satisfy the test or all do not. -/
def stretches (test : UInt8 → Bool) (bytes : List UInt8) : List (List UInt8) :=
  bytes.splitBy fun a b => test a == test b

/-- Whether a stretch satisfies the test and is long enough for a block of its own. -/
def isLong (minimum : Nat) (test : UInt8 → Bool) (stretch : List UInt8) : Bool :=
  minimum ≤ stretch.length && stretch.all test

/-- Parts the content into long stretches of the test, marked, and what lies between them. -/
def partBy (minimum : Nat) (test : UInt8 → Bool) (bytes : List UInt8) :
    List (Bool × List UInt8) :=
  let marked := (stretches test bytes).map fun s => (isLong minimum test s, s)
  (marked.splitBy fun a b => !a.1 && !b.1).map fun group =>
    (group.any (·.1), group.flatMap (·.2))

/-- The least length of a block that is not plain bytes, unless the content is shorter. -/
def minimumStretch : Nat := 20

def blocks (bytes : List UInt8) : List Block :=
  let minimum := min minimumStretch bytes.length
  (partBy minimum isDigit bytes).flatMap fun (digits, part) =>
    if digits then [⟨.digits, part.length⟩]
    else
      (partBy minimum isAlphanumeric part).map fun (alphanumeric, piece) =>
        ⟨if alphanumeric then .alphanumeric else .bytes, piece.length⟩

/-- The least version from `start` on that takes the blocks, their lengths being written as in
version `start`. -/
def versionFrom (start : Nat) (content : List Block) : Nat :=
  let needed := content.foldl (fun bits block => bits + blockBits start block) 0
  max start (((capacities.takeWhile (· < needed)).length) + 1)

/-- The version of a content: lengths that take more bits in the version found are tried again. -/
def version (bytes : List UInt8) : Nat :=
  let content := blocks bytes
  let first := versionFrom 1 content
  let second := if first < 10 then first else versionFrom first content
  if first < 27 && 27 ≤ second then versionFrom second content else second

/-- The modules on a side of the symbol of a content, if some version takes it. -/
def side? (content : String) : Option Nat :=
  let v := version content.toUTF8.toList
  if v ≤ maxVersion then some (17 + 4 * v) else none

end Symbol
end Issuance
