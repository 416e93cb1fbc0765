import Issuance.Content
import Issuance.Field
/-!
Painting canvases.

Painting is a sequence of calls: reading assets, finding fonts, measuring, scaling and placing.
Each call is recorded before it can fail, so a failed painting still tells what it did. Fonts that
were looked for once are remembered by the easel and not looked for again.
-/

namespace Issuance
namespace Canvas

/-- What painting asks of its surroundings. -/
inductive Call
  | read (ref : String)
  | resize (width height : Int)
  | background
  | paste (x y : Int)
  | symbol (content : String)
  | font (candidate : String) (size : Nat) (found : Bool)
  | measure (text : String)
  | text (x y : Int) (text font color : String)
deriving DecidableEq, Repr

/-- The fonts at hand: a folder to look in first, and the candidates that are there. -/
structure FontShelf where
  folder : Option String
  available : List String
deriving Repr

/-- What a painting draws from: stored files, fonts, and the values of placeholders. -/
structure Studio where
  read : String → Except IoFault Content
  fonts : FontShelf
  lookup : String → Except Error String

/-- What painting changes: the calls made so far, the fonts found by name and size, and the
picture. -/
structure Easel where
  calls : List Call
  fonts : List ((String × Nat) × String)
  picture : Picture

/-- A painting step, which may fail and leaves the easel as far as it got. -/
abbrev Painting (α : Type) := ExceptT Failure (StateM Easel) α

namespace Painting

def record (call : Call) : Painting Unit :=
  modify fun easel => { easel with calls := easel.calls ++ [call] }

def cover (layer : Layer) : Painting Unit :=
  modify fun easel => { easel with picture := easel.picture.paint layer }

def badValue {α : Type} (text : String) : Painting α :=
  throw (.defect (.badValue text))

def ofError {α : Type} (result : Except Error α) : Painting α :=
  ExceptT.mk (pure (result.mapError Failure.error))

end Painting

open Painting

/-- The wording of why a number has no nearest integer. -/
def NotIntegral.failure : Double.NotIntegral → Failure
  | .undefined => .defect (.badValue "cannot convert float NaN to integer")
  | .unbounded => .defect (.overflow "cannot convert float infinity to integer")

def rounded (n : Number) : Painting Int :=
  ExceptT.mk (pure (n.round.mapError NotIntegral.failure))

/-- A number as a double, on which positions are computed. -/
def toDouble (n : Number) : Painting Double :=
  match n.toDouble? with
  | some x => pure x
  | none => throw (.defect (.overflow "int too large to convert to float"))

/-- Coordinates and lengths of pictures are below this bound. -/
def coordinateBound : Int := 2147483648

/-- Refuses a coordinate or a length that pictures cannot have. -/
def checkCoordinate (n : Int) : Painting Unit :=
  if coordinateBound ≤ n then
    throw (.defect (.overflow "signed integer is greater than maximum"))
  else if n < -coordinateBound then
    throw (.defect (.overflow "signed integer is less than minimum"))
  else pure ()

/-- Scales something to a size, both sides of which must be positive. -/
def resize (width height : Int) : Painting (Nat × Nat) := do
  record (.resize width height)
  if width ≤ 0 || height ≤ 0 then badValue "height and width must be > 0"
  checkCoordinate width
  checkCoordinate height
  return (width.toNat, height.toNat)

def colour (text : String) : Painting Colour :=
  match Colour.ofText text with
  | .ok c => pure c
  | .error fault => badValue fault.message

def readAsset (studio : Studio) (ref : String) : Painting Content := do
  if ref.isEmpty then throw (.error (.assetUnavailable (some ref) ""))
  record (.read ref)
  match studio.read ref with
  | .ok content => return content
  | .error _ => throw (.error (.assetUnavailable (some ref) ""))

def openPicture (studio : Studio) (ref : String) : Painting Picture := do
  match (← readAsset studio ref).picture? with
  | some picture => return picture
  | none => throw (.error (.drawing (.unreadableImage ref)))

/-- Places a picture, of which one that shows nothing covers nothing. -/
def place (x y : Int) (size : Nat × Nat) (picture : Picture) : Painting Unit := do
  if picture.isOpaque then
    cover ⟨x, y, size.1, size.2, .plain (picture.pixel 0 0)⟩

def FontShelf.candidates (shelf : FontShelf) (name : String) : List String :=
  let file := name ++ ".ttf"
  match shelf.folder with
  | none => [name]
  | some folder =>
    if folder.isEmpty then [name]
    else if file.startsWith "/" then [file, name]
    else if folder.endsWith "/" then [folder ++ file, name]
    else [folder ++ "/" ++ file, name]

/-- The first candidate that is there, every one tried being recorded. -/
def findFont (shelf : FontShelf) (size : Nat) : List String → Painting String
  | [] => return "default"
  | candidate :: rest => do
    let found := shelf.available.contains candidate
    record (.font candidate size found)
    if found then return candidate else findFont shelf size rest

/-- The font for a name and a size, found before or looked for now. -/
def font (shelf : FontShelf) (name : String) (size : Nat) : Painting String := do
  match Assoc.get? (name, size) (← get).fonts with
  | some found => return found
  | none =>
    let found ← findFont shelf size (shelf.candidates name)
    modify fun easel => { easel with fonts := Assoc.put (name, size) found easel.fonts }
    return found

/-- The width of a line: half the size of the font for each character. -/
def measure (size : Nat) (text : String) : Painting Double := do
  record (.measure text)
  if text.toList.contains '\n' then badValue "can't measure length of multiline text"
  let perCharacter := (← toDouble (.int size)).half
  return perCharacter.mul (← toDouble (.int text.length))

def lineStart (e : TextElement) (text : String) : Painting Number :=
  match e.align with
  | .left => return e.x
  | .center => do
    let width ← measure e.size text
    return .double ((← toDouble e.x).sub width.half)
  | .right => do
    let width ← measure e.size text
    return .double ((← toDouble e.x).sub width)

/-- Paints a line of text; an empty one asks for nothing. -/
def paintText (studio : Studio) (e : TextElement) : Painting Unit := do
  let text ← ofError (Placeholder.fill studio.lookup e.content)
  if text.isEmpty then return
  let found ← font studio.fonts e.font e.size
  let start ← lineStart e text
  let x ← rounded start
  let y ← rounded e.y
  record (.text x y text found e.color)
  discard (colour e.color)

/-- Scales something into a box and gives its place and size. -/
def fitBox (x y width height : Number) : Painting (Int × Int × Nat × Nat) := do
  let w ← rounded width
  let h ← rounded height
  let (w, h) ← resize w h
  let x ← rounded x
  let y ← rounded y
  record (.paste x y)
  checkCoordinate x
  checkCoordinate y
  checkCoordinate (x + w)
  checkCoordinate (y + h)
  return (x, y, w, h)

def paintImage (studio : Studio) (e : ImageElement) : Painting Unit := do
  let picture ← openPicture studio e.src
  let (x, y, size) ← fitBox e.x e.y e.width e.height
  place x y size picture

def paintSymbol (studio : Studio) (e : SymbolElement) : Painting Unit := do
  let content ← ofError (Placeholder.fill studio.lookup e.content)
  record (.symbol content)
  let some modules := Symbol.side? content
    | badValue "Invalid version (was 41, expected 1 to 40)"
  let c ← colour e.color
  let (x, y, w, h) ← fitBox e.x e.y e.width e.height
  cover ⟨x, y, w, h, .symbol modules c⟩

/-- A defect of a value, while an element is painted, is a failure to draw the element. -/
def elementFailure (e : Element) : Failure → Failure
  | .defect (.badValue text) => .error (.drawing (.element e.kind text))
  | failure => failure

def paintElement (studio : Studio) (e : Element) : Painting Unit :=
  tryCatch
    (match e with
    | .text t => paintText studio t
    | .image i => paintImage studio i
    | .symbol s => paintSymbol studio s)
    fun failure => throw (elementFailure e failure)

/-- Paints the elements in order; the first that fails ends the painting. -/
def paintElements (studio : Studio) : List Element → Painting Unit
  | [] => return
  | e :: rest => do
    paintElement studio e
    paintElements studio rest

def prepare (spec : Spec) : Painting Unit := do
  match Colour.ofText spec.backgroundColor with
  | .error _ => throw (.error (.drawing (.backgroundColor spec.backgroundColor)))
  | .ok ground =>
    checkCoordinate spec.width
    checkCoordinate spec.height
    modify fun easel => { easel with
      picture := ⟨spec.width, spec.height, ground, true, 3, []⟩ }

def paintBackground (studio : Studio) (spec : Spec) : Painting Unit := do
  match spec.background with
  | none => return
  | some ref =>
    let picture ← openPicture studio ref
    let size ← resize spec.width spec.height
    record .background
    place 0 0 size picture

/-- Paints a canvas: ground, background, and elements in order. -/
def paint (studio : Studio) (spec : Spec) : Painting Picture := do
  prepare spec
  paintBackground studio spec
  paintElements studio spec.elements
  return (← get).picture

def Easel.fresh : Easel := ⟨[], [], ⟨0, 0, .white, true, 3, []⟩⟩

end Canvas
end Issuance
