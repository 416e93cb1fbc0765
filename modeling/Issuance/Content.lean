import Issuance.Deck.Basic
import Issuance.Picture.Raster
/-!
The contents of files: what a file is to the program that opens it.
-/

namespace Issuance

/-- The content of a file. An archive is one that holds no slide deck. -/
inductive Content
  | bytes (bs : List UInt8)
  | archive
  | picture (p : Picture)
  | deck (d : Deck)
deriving Repr

namespace Content

def isEmpty : Content → Bool
  | .bytes bs => bs.isEmpty
  | _ => false

def deck? : Content → Option Deck
  | .deck d => some d
  | _ => none

def picture? : Content → Option Picture
  | .picture p => some p
  | _ => none

end Content
end Issuance
