import Issuance.Content
import Issuance.Json.Reader
import Issuance.Text.Case
/-!
Requests to the web service: their targets and their bodies.
-/

namespace Issuance
namespace Web

/-- The byte of an escape: a percent sign and two hexadecimal digits. -/
def escapedByte? : List Char → Option (UInt8 × List Char)
  | '%' :: a :: b :: rest => do
    let high ← Json.hexValue? a
    let low ← Json.hexValue? b
    some ((high * 16 + low).toUInt8, rest)
  | _ => none

/-- The bytes of a text in which escapes stand for bytes. -/
def unescapedBytes : Nat → List Char → List UInt8
  | 0, _ => []
  | _ + 1, [] => []
  | fuel + 1, c :: rest =>
    match escapedByte? (c :: rest) with
    | some (byte, after) => byte :: unescapedBytes fuel after
    | none => c.toString.toUTF8.toList ++ unescapedBytes fuel rest

/-- A text with its escapes replaced. Bytes that make no text are replaced by a mark each. -/
def unescape (cs : List Char) : String :=
  let bytes := unescapedBytes cs.length cs
  match String.fromUTF8? (ByteArray.mk bytes.toArray) with
  | some text => text
  | none => String.ofList (bytes.map fun b => if b < 128 then Char.ofNat b.toNat else '\uFFFD')

/-- What a request is for: the path, and the parameters of the query. -/
structure Target where
  path : String
  query : List (String × String)
deriving DecidableEq, Repr

namespace Target

/-- The segments of a path, which begins with a slash. -/
def segments (t : Target) : List String :=
  (Text.splitAt (· = '/') t.path).drop 1

/-- A path with one slash in place of every two. -/
def singleSlashes : List Char → List Char
  | '/' :: '/' :: rest => '/' :: singleSlashes rest
  | c :: rest => c :: singleSlashes rest
  | [] => []

/-- The target with one slash in place of every two in its path. -/
def tidied (t : Target) : Target :=
  { t with path := String.ofList (singleSlashes t.path.toList) }

/-- A parameter of a query. A plus sign stands for a space. -/
def parameter (cs : List Char) : String × String :=
  let cs := cs.map fun c => if c = '+' then ' ' else c
  let key := cs.takeWhile (· ≠ '=')
  (unescape key, unescape ((cs.drop key.length).drop 1))

/-- The target of a path with its query. The path is unescaped as a whole. -/
def ofPath (path : String) : Target :=
  let cs := path.toList.takeWhile (· ≠ '#')
  let way := cs.takeWhile (· ≠ '?')
  let query := (cs.drop way.length).drop 1
  let parameters := (Text.splitChars (· = '&') query).filter (!·.isEmpty)
  ⟨unescape way, parameters.map parameter⟩

end Target

structure UploadedFile where
  name : String
  content : Content
deriving Repr

structure Form where
  fields : List (String × String)
  file : Option UploadedFile
  assets : List UploadedFile
deriving Repr

/-- The body of a request. A JSON body that cannot be read is none. -/
inductive Body
  | nothing
  | json (value : Option Json)
  | form (f : Form)
deriving Repr

namespace Body

def isJsonType (contentType : String) : Bool :=
  let kind := Text.lower (Text.trim (String.ofList (contentType.toList.takeWhile (· ≠ ';'))))
  kind == "application/json" || (kind.startsWith "application/" && kind.endsWith "+json")

/-- The body of a text sent with a content type. A mark of the byte order in front is skipped. -/
def ofText (contentType text : String) : Body :=
  if isJsonType contentType then
    let cs := match text.toList with
      | '\uFEFF' :: rest => rest
      | cs => cs
    .json (Json.parse (String.ofList cs))
  else .nothing

end Body

structure Request where
  method : String
  target : Target
  body : Body
deriving Repr

namespace Request

/-- The form of a request, which is empty if none was sent. -/
def form (r : Request) : Form :=
  match r.body with
  | .form f => f
  | _ => ⟨[], none, []⟩

/-- The members of a JSON body. A body that is missing or null has none; one that is no object is
refused. -/
def members (r : Request) : Option Json :=
  match r.body with
  | .json (some (.obj ms)) => some (.obj ms)
  | .json (some .null) | .json none | .nothing | .form _ => some (.obj [])
  | .json (some _) => none

end Request

structure Download where
  fileName : String
  mediaType : String
  content : Content
deriving Repr

structure Response where
  status : Nat
  body : Option Json
  download : Option Download
deriving Repr

end Web
end Issuance
