/-!
Certificate and verification codes.

A code is a prefix with a fixed number of characters from an alphabet of 36. The two codes of a
certificate are drawn one after the other from one stream of random draws.
-/

namespace Issuance

/-- The two codes of a certificate. -/
structure CodePair where
  certificate : String
  verification : String
deriving DecidableEq, Repr

namespace CodePair

def alphabet : List Char := "ABCDEFGHIJKLMNOPQRSTUVWXYZ0123456789".toList

def certificateStem : String := "CERT-"

def verificationStem : String := "VERIFY-"

def certificateLength : Nat := 12

def verificationLength : Nat := 16

def ofTokens (certificate verification : List Char) : CodePair :=
  ⟨certificateStem ++ String.ofList certificate, verificationStem ++ String.ofList verification⟩

/-- The pair that a stream of random characters begins with, and the rest of the stream. -/
def take? (stream : List Char) : Option (CodePair × List Char) :=
  let needed := certificateLength + verificationLength
  if stream.length < needed then none
  else
    let afterFirst := stream.drop certificateLength
    some (ofTokens (stream.take certificateLength) (afterFirst.take verificationLength),
      afterFirst.drop verificationLength)

def ofDraw (draw : Int) : Char :=
  alphabet.getD (draw.fmod alphabet.length).toNat 'A'

/-- As many pairs as asked for from a stream of random characters, if it has enough. -/
def takeMany? : Nat → List Char → Option (List CodePair)
  | 0, _ => some []
  | count + 1, stream => do
    let (pair, rest) ← take? stream
    let pairs ← takeMany? count rest
    return pair :: pairs

end CodePair
end Issuance
