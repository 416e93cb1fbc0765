import Issuance.Proofs.Canvas.Painting
import Issuance.Proofs.Canvas.Reading
/-!
By what kinds of errors the painting of a canvas may fail, and when it breaks down without one: only
if a number of its description lies beyond those of pictures. No such canvas is ever painted.
-/

namespace Issuance
namespace Canvas

/-- A coordinate or a length that pictures cannot have. -/
def IsBeyond (n : Int) : Prop := coordinateBound ≤ n ∨ n < -coordinateBound

/-- A number that is infinite. One that is undefined is not. -/
def IsUnbounded (n : Number) : Prop := n.round = .error .unbounded

/-- A number that stands for no coordinate or length because it is too far out. -/
inductive Overflows (n : Number) : Prop
  | unbounded (infinite : IsUnbounded n)
  | beyond {i : Int} (rounded : n.round = .ok i) (beyond : IsBeyond i)

/-- A box of which a corner is too far out. -/
inductive BoxOverflows (x y width height : Number) : Prop
  | x (outside : Overflows x)
  | y (outside : Overflows y)
  | width (outside : Overflows width)
  | height (outside : Overflows height)
  | right {left across : Int} (x : x.round = .ok left) (width : width.round = .ok across)
      (outside : IsBeyond (left + across))
  | bottom {top down : Int} (y : y.round = .ok top) (height : height.round = .ok down)
      (outside : IsBeyond (top + down))

/-- The width of a line, if the size of its font and its length are within the range of doubles. -/
def lineWidth? (size : Nat) (text : String) : Option Double := do
  let perCharacter ← (Number.int size).toDouble?
  let length ← (Number.int text.length).toDouble?
  return perCharacter.half.mul length

/-- Where a line starts of which some part stands before its position. -/
def TextElement.shifted? (e : TextElement) (text : String) (part : Double → Double) :
    Option Number := do
  let width ← lineWidth? e.size text
  let x ← e.x.toDouble?
  return .double (x.sub (part width))

/-- Where a line starts, if all that it is computed from is within the range of doubles. -/
def TextElement.start? (e : TextElement) (text : String) : Option Number :=
  match e.align with
  | .left => some e.x
  | .center => e.shifted? text Double.half
  | .right => e.shifted? text id

/-- A line that starts too far out to be computed, or without bound. -/
inductive TextElement.LineOverflows (e : TextElement) (text : String) : Prop
  | start (uncomputed : e.start? text = none)
  | x {start : Number} (computed : e.start? text = some start) (infinite : IsUnbounded start)
  | y (infinite : IsUnbounded e.y)

/-- An element that lies too far out to be painted. An empty line lies nowhere. -/
def Element.Overflows (lookup : String → Except Error String) : Element → Prop
  | .text e => ∃ text, Placeholder.fill lookup e.content = .ok text ∧ text ≠ "" ∧
      e.LineOverflows text
  | .image e => BoxOverflows e.x e.y e.width e.height
  | .symbol e => BoxOverflows e.x e.y e.width e.height

/-- A description of a canvas that is too large, or of an element that lies too far out. -/
inductive Spec.Overflows (lookup : String → Except Error String) (spec : Spec) : Prop
  | width (beyond : IsBeyond spec.width)
  | height (beyond : IsBeyond spec.height)
  | element {e : Element} (member : e ∈ spec.elements) (outside : e.Overflows lookup)

/-- The kinds of errors by which painting may fail. -/
def paintingKinds : List ErrorKind := [.missingFieldValue, .assetUnavailable, .renderFailure]

/-- How painting fails: by an error of its own, because some value will not do, or because some
number is out of range. -/
inductive Mishap (spoilt beyond : Prop) : Failure → Prop
  | error {e : Error} (kind : e.kind ∈ paintingKinds) : Mishap spoilt beyond (.error e)
  | badValue (text : String) (here : spoilt) : Mishap spoilt beyond (.defect (.badValue text))
  | overflow (text : String) (here : beyond) : Mishap spoilt beyond (.defect (.overflow text))

namespace Painting

variable {α β : Type} {spoilt beyond : Prop}

/-- A painting step that fails by mishaps only and otherwise comes to a certain result. -/
def Yields (spoilt beyond : Prop) (holds : α → Prop) (work : Painting α) : Prop :=
  ∀ easel, match (work.perform easel).1 with
    | .ok a => holds a
    | .error failure => Mishap spoilt beyond failure

namespace Yields

variable {holds : α → Prop} {holds' : β → Prop} {work : Painting α}

theorem pure {a : α} (here : holds a) : Yields spoilt beyond holds (Pure.pure a : Painting α) :=
  fun _ => here

theorem throw {failure : Failure} (mishap : Mishap spoilt beyond failure) :
    Yields spoilt beyond holds (MonadExcept.throw failure : Painting α) :=
  fun _ => mishap

theorem badValue (text : String) (here : spoilt) :
    Yields spoilt beyond holds (Painting.badValue text : Painting α) :=
  throw (.badValue text here)

theorem overflow (text : String) (here : beyond) :
    Yields spoilt beyond holds (MonadExcept.throw (.defect (.overflow text)) : Painting α) :=
  throw (.overflow text here)

theorem bind {next : α → Painting β} (first : Yields spoilt beyond holds work)
    (rest : ∀ a, holds a → Yields spoilt beyond holds' (next a)) :
    Yields spoilt beyond holds' (work >>= next) := by
  intro easel
  have here := first easel
  rw [perform_bind]
  cases performed : work.perform easel with
  | mk result later =>
      rw [performed] at here
      cases result with
      | error failure => exact here
      | ok a => exact rest a here later

/-- Something may be refused before the rest is done. -/
theorem guard {refused : Prop} [Decidable refused] {refusal : Painting PUnit}
    {rest : PUnit → Painting α}
    (refusing : refused → Yields spoilt beyond (fun _ => False) refusal)
    (going : ¬refused → Yields spoilt beyond holds (rest ⟨⟩)) :
    Yields spoilt beyond holds (if refused then refusal >>= rest else rest ⟨⟩) := by
  by_cases here : refused
  · rw [if_pos here]
    exact (refusing here).bind fun _ none => none.elim
  · rw [if_neg here]
    exact going here

/-- A result that is computed without the easel. -/
theorem result {result : Except Failure α}
    (ends : match result with
      | .ok a => holds a
      | .error failure => Mishap spoilt beyond failure) :
    Yields spoilt beyond holds (ExceptT.mk (Pure.pure result) : Painting α) :=
  fun _ => ends

theorem mono {holds' : α → Prop} (yields : Yields spoilt beyond holds work)
    (weaker : ∀ a, holds a → holds' a) : Yields spoilt beyond holds' work := by
  intro easel
  have here := yields easel
  cases performed : (work.perform easel).1 with
  | error failure =>
      rw [performed] at here
      exact here
  | ok a =>
      rw [performed] at here
      exact weaker a here

/-- Of an element that will not do for its values, it is reported that it cannot be drawn. -/
theorem reportingValues (e : Element) (yields : Yields True beyond holds work) :
    Yields False beyond holds
      (MonadExcept.tryCatch work fun failure => MonadExcept.throw (elementFailure e failure)) := by
  intro easel
  have here := yields easel
  rw [perform_tryCatch]
  cases performed : work.perform easel with
  | mk result later =>
      rw [performed] at here
      cases result with
      | ok a => exact here
      | error failure =>
          cases here with
          | error kind => exact .error kind
          | overflow text here => exact .overflow text here
          | badValue text _ =>
              have undrawn : ErrorKind.renderFailure ∈ paintingKinds := by decide
              exact .error undrawn

theorem modify (change : Easel → Easel) :
    Yields spoilt beyond (fun _ => True) (modify change : Painting PUnit) :=
  fun _ => trivial

theorem record (call : Call) : Yields spoilt beyond (fun _ => True) (record call) :=
  modify _

theorem cover (layer : Layer) : Yields spoilt beyond (fun _ => True) (cover layer) :=
  modify _

theorem picture {holds : Picture → Prop} (here : ∀ shown, holds shown) :
    Yields spoilt beyond holds (do return (← get).picture) :=
  fun easel => here easel.picture

end Yields
end Painting

open Painting

section

variable {spoilt beyond : Prop} {studio : Studio}

theorem not_overflows {n : Number} {i : Int} (rounded : n.round = .ok i) (within : ¬IsBeyond i) :
    ¬Overflows n := by
  intro outside
  cases outside with
  | unbounded infinite => cases rounded.symm.trans infinite
  | beyond rounded' beyond =>
      cases rounded.symm.trans rounded'
      exact within beyond

theorem yields_rounded {n : Number} (unbounded : IsUnbounded n → beyond) :
    Yields True beyond (fun i => n.round = .ok i) (rounded n) := by
  apply Yields.result
  cases round : n.round with
  | ok i => rfl
  | error cause =>
      cases cause with
      | undefined => exact .badValue _ trivial
      | unbounded => exact .overflow _ (unbounded round)

theorem yields_toDouble {n : Number} (large : n.toDouble? = none → beyond) :
    Yields spoilt beyond (fun x => n.toDouble? = some x) (toDouble n) := by
  unfold toDouble
  split
  · next x here => exact .pure here
  · next none => exact .overflow _ (large none)

theorem yields_checkCoordinate {n : Int} (far : IsBeyond n → beyond) :
    Yields spoilt beyond (fun _ => ¬IsBeyond n) (checkCoordinate n) := by
  unfold checkCoordinate
  split
  · next above => exact .overflow _ (far (Or.inl above))
  · next above =>
      split
      · next below => exact .overflow _ (far (Or.inr below))
      · next below => exact .pure (not_or.2 ⟨above, below⟩)

theorem yields_resize {width height : Int} (empty : width ≤ 0 ∨ height ≤ 0 → spoilt)
    (wide : IsBeyond width → beyond) (high : IsBeyond height → beyond) :
    Yields spoilt beyond (fun size => size = (width.toNat, height.toNat) ∧ 0 < width ∧ 0 < height ∧
      ¬IsBeyond width ∧ ¬IsBeyond height) (resize width height) := by
  unfold resize
  refine (Yields.record _).bind fun _ _ => ?_
  refine Yields.guard (fun refused => .badValue _ (empty ?_)) fun passed => ?_
  · simpa using refused
  have positive : 0 < width ∧ 0 < height := by simpa using passed
  refine (yields_checkCoordinate wide).bind fun _ within => ?_
  refine (yields_checkCoordinate high).bind fun _ within' => ?_
  exact .pure ⟨rfl, positive.1, positive.2, within, within'⟩

theorem yields_colour (text : String) : Yields True beyond (fun _ => True) (colour text) := by
  unfold colour
  split
  · exact .pure trivial
  · exact .badValue _ trivial

theorem yields_openPicture (ref : String) :
    Yields spoilt beyond (fun _ => True) (openPicture studio ref) := by
  have unavailable : ErrorKind.assetUnavailable ∈ paintingKinds := by decide
  have unreadable : ErrorKind.renderFailure ∈ paintingKinds := by decide
  have asset : Yields spoilt beyond (fun _ => True) (readAsset studio ref) := by
    unfold readAsset
    refine Yields.guard (fun _ => .throw (.error unavailable)) fun _ => ?_
    refine (Yields.record _).bind fun _ _ => ?_
    split
    · exact .pure trivial
    · exact .throw (.error unavailable)
  unfold openPicture
  refine asset.bind fun content _ => ?_
  split
  · exact .pure trivial
  · exact .throw (.error unreadable)

theorem yields_place (x y : Int) (size : Nat × Nat) (picture : Picture) :
    Yields spoilt beyond (fun _ => True) (place x y size picture) := by
  unfold place
  split
  · exact .cover _
  · exact .pure trivial

/-- A font is always found, if need be one that is always there. -/
theorem yields_font (name : String) (size : Nat) :
    Yields spoilt beyond (fun _ => True) (font studio.fonts name size) := by
  intro easel
  unfold font
  rw [perform_bind, show (get : Painting Easel).perform easel = (.ok easel, easel) from rfl]
  dsimp only
  cases Assoc.get? (name, size) easel.fonts with
  | some found => trivial
  | none =>
      rw [perform_bind, perform_findFont]
      trivial

theorem yields_measure {size : Nat} {text : String} (wide : lineWidth? size text = none → beyond) :
    Yields True beyond (fun width => lineWidth? size text = some width) (measure size text) := by
  have ofSize : (Number.int size).toDouble? = none → beyond :=
    fun none => wide (by rw [lineWidth?, none]; rfl)
  have ofLength : (Number.int text.length).toDouble? = none → beyond := by
    intro none
    apply wide
    rw [lineWidth?, none]
    cases (Number.int size).toDouble? <;> rfl
  unfold measure
  refine (Yields.record _).bind fun _ _ => ?_
  refine Yields.guard (fun _ => .badValue _ trivial) fun _ => ?_
  refine (yields_toDouble ofSize).bind fun perCharacter first => ?_
  refine (yields_toDouble ofLength).bind fun length second => ?_
  refine .pure ?_
  rw [lineWidth?, first, second]
  rfl

theorem yields_shifted {e : TextElement} {text : String} {part : Double → Double}
    (far : e.shifted? text part = none → beyond) :
    Yields True beyond (fun start => e.shifted? text part = some start)
      (do
        let width ← measure e.size text
        return .double ((← toDouble e.x).sub (part width))) := by
  unfold TextElement.shifted? at far ⊢
  refine (yields_measure fun none => far (by rw [none]; rfl)).bind fun width known => ?_
  rw [known] at far ⊢
  refine (yields_toDouble fun none => far (by rw [none]; rfl)).bind fun x here => ?_
  rw [here]
  exact .pure rfl

theorem yields_lineStart {e : TextElement} {text : String} (far : e.start? text = none → beyond) :
    Yields True beyond (fun start => e.start? text = some start) (lineStart e text) := by
  unfold lineStart
  unfold TextElement.start? at far ⊢
  cases align : e.align with
  | left => exact .pure rfl
  | center =>
      rw [align] at far
      exact yields_shifted far
  | right =>
      rw [align] at far
      exact yields_shifted far

/-- A thing is scaled into a box that lies within the coordinates of pictures. -/
theorem yields_fitBox {x y width height : Number} (far : BoxOverflows x y width height → beyond) :
    Yields True beyond (fun _ => ¬BoxOverflows x y width height) (fitBox x y width height) := by
  unfold fitBox
  refine (yields_rounded fun infinite => far (.width (.unbounded infinite))).bind fun w across => ?_
  refine (yields_rounded fun infinite => far (.height (.unbounded infinite))).bind fun h down => ?_
  refine (yields_resize (fun _ => trivial) (fun outside => far (.width (.beyond across outside)))
    fun outside => far (.height (.beyond down outside))).bind fun size fits => ?_
  obtain ⟨rfl, wide, high, narrow, low⟩ := fits
  refine (yields_rounded fun infinite => far (.x (.unbounded infinite))).bind fun left hx => ?_
  refine (yields_rounded fun infinite => far (.y (.unbounded infinite))).bind fun top hy => ?_
  refine (Yields.record _).bind fun _ _ => ?_
  rw [Int.toNat_of_nonneg (Int.le_of_lt wide), Int.toNat_of_nonneg (Int.le_of_lt high)]
  refine (yields_checkCoordinate fun out => far (.x (.beyond hx out))).bind fun _ inX => ?_
  refine (yields_checkCoordinate fun out => far (.y (.beyond hy out))).bind fun _ inY => ?_
  refine (yields_checkCoordinate fun out => far (.right hx across out)).bind fun _ inWidth => ?_
  refine (yields_checkCoordinate fun out => far (.bottom hy down out)).bind fun _ inHeight => ?_
  refine .pure fun outside => ?_
  cases outside with
  | x outside => exact not_overflows hx inX outside
  | y outside => exact not_overflows hy inY outside
  | width outside => exact not_overflows across narrow outside
  | height outside => exact not_overflows down low outside
  | right here length outside =>
      cases hx.symm.trans here
      cases across.symm.trans length
      exact inWidth outside
  | bottom here length outside =>
      cases hy.symm.trans here
      cases down.symm.trans length
      exact inHeight outside

section

variable (missing : ∀ name e, studio.lookup name = .error e → e.kind = .missingFieldValue)

include missing

theorem yields_fill (text : String) :
    Yields spoilt beyond (fun filled => Placeholder.fill studio.lookup text = .ok filled)
      (ofError (Placeholder.fill studio.lookup text)) := by
  apply Yields.result
  cases filling : Placeholder.fill studio.lookup text with
  | ok filled => rfl
  | error e =>
      obtain ⟨name, -, unknown⟩ := Placeholder.exists_of_fill_error filling
      have unfilled : e.kind ∈ paintingKinds := by
        rw [missing name e unknown]
        decide
      exact .error unfilled

theorem yields_paintText {e : TextElement}
    (far : (Element.text e).Overflows studio.lookup → beyond) :
    Yields True beyond (fun _ => ¬(Element.text e).Overflows studio.lookup)
      (paintText studio e) := by
  unfold paintText
  refine (yields_fill missing e.content).bind fun text filled => ?_
  split
  · next empty =>
      -- An empty line asks for nothing, however far out it stands.
      refine .pure ?_
      rintro ⟨other, filled', nonempty, -⟩
      cases filled.symm.trans filled'
      exact nonempty (String.isEmpty_iff.1 empty)
  · next nonempty =>
      rw [String.isEmpty_iff] at nonempty
      have out : e.LineOverflows text → beyond :=
        fun outside => far ⟨text, filled, nonempty, outside⟩
      refine (yields_font e.font e.size).bind fun found _ => ?_
      refine (yields_lineStart fun none => out (.start none)).bind fun start computed => ?_
      refine (yields_rounded fun infinite => out (.x computed infinite)).bind fun x hx => ?_
      refine (yields_rounded fun infinite => out (.y infinite)).bind fun y hy => ?_
      refine (Yields.record _).bind fun _ _ => ?_
      refine (yields_colour e.color).bind fun _ _ => .pure ?_
      rintro ⟨other, filled', -, outside⟩
      cases filled.symm.trans filled'
      cases outside with
      | start uncomputed => cases computed.symm.trans uncomputed
      | x computed' infinite =>
          cases computed.symm.trans computed'
          cases hx.symm.trans infinite
      | y infinite => cases hy.symm.trans infinite

theorem yields_paintSymbol {e : SymbolElement}
    (far : (Element.symbol e).Overflows studio.lookup → beyond) :
    Yields True beyond (fun _ => ¬(Element.symbol e).Overflows studio.lookup)
      (paintSymbol studio e) := by
  unfold paintSymbol
  refine (yields_fill missing e.content).bind fun content _ => ?_
  refine (Yields.record _).bind fun _ _ => ?_
  split
  · refine (yields_colour e.color).bind fun c _ => ?_
    refine (yields_fitBox far).bind fun box within => ?_
    exact (Yields.cover _).mono fun _ _ => within
  · exact .badValue _ trivial

/-- An element that is painted does not lie too far out. -/
theorem yields_paintElement {e : Element} (far : e.Overflows studio.lookup → beyond) :
    Yields False beyond (fun _ => ¬e.Overflows studio.lookup) (paintElement studio e) := by
  unfold paintElement
  refine Yields.reportingValues e ?_
  cases e with
  | text e => exact yields_paintText missing far
  | image e =>
      unfold paintImage
      refine (yields_openPicture e.src).bind fun picture _ => ?_
      refine (yields_fitBox far).bind fun box within => ?_
      exact (yields_place _ _ _ _).mono fun _ _ => within
  | symbol e => exact yields_paintSymbol missing far

theorem yields_paintElements {elements : List Element}
    (far : ∀ e ∈ elements, e.Overflows studio.lookup → beyond) :
    Yields False beyond (fun _ => ∀ e ∈ elements, ¬e.Overflows studio.lookup)
      (paintElements studio elements) := by
  induction elements with
  | nil => exact .pure fun _ none => absurd none List.not_mem_nil
  | cons e rest ih =>
      unfold paintElements
      refine (yields_paintElement missing (far e List.mem_cons_self)).bind fun _ here => ?_
      have others := ih fun other member => far other (List.mem_cons_of_mem _ member)
      exact others.mono fun _ later => List.forall_mem_cons.2 ⟨here, later⟩

end

theorem yields_prepare {spec : Spec} (wide : IsBeyond spec.width → beyond)
    (high : IsBeyond spec.height → beyond) :
    Yields spoilt beyond (fun _ => ¬IsBeyond spec.width ∧ ¬IsBeyond spec.height)
      (prepare spec) := by
  have uncoloured : ErrorKind.renderFailure ∈ paintingKinds := by decide
  unfold prepare
  split
  · exact .throw (.error uncoloured)
  · refine (yields_checkCoordinate wide).bind fun _ narrow => ?_
    refine (yields_checkCoordinate high).bind fun _ low => ?_
    exact (Yields.modify _).mono fun _ _ => ⟨narrow, low⟩

theorem yields_paintBackground {spec : Spec} (acceptable : spec.IsAcceptable)
    (wide : IsBeyond spec.width → beyond) (high : IsBeyond spec.height → beyond) :
    Yields False beyond (fun _ => True) (paintBackground studio spec) := by
  unfold paintBackground
  split
  · exact .pure trivial
  · refine (yields_openPicture _).bind fun picture _ => ?_
    -- Outside of elements no bad value is reported, so the sides must not be refused as such.
    have filled : ¬((spec.width : Int) ≤ 0 ∨ (spec.height : Int) ≤ 0) := by
      have width := acceptable.width
      have height := acceptable.height
      omega
    refine (yields_resize (fun empty => filled empty) wide high).bind fun size _ => ?_
    exact (Yields.record _).bind fun _ _ => yields_place _ _ _ _

/-- A canvas as it may be accepted is painted, and then nothing of it overflows; or painting fails
by an error of its own; or something of it overflows. -/
theorem yields_paint {spec : Spec} (acceptable : spec.IsAcceptable)
    (missing : ∀ name e, studio.lookup name = .error e → e.kind = .missingFieldValue) :
    Yields False (spec.Overflows studio.lookup) (fun _ => ¬spec.Overflows studio.lookup)
      (paint studio spec) := by
  unfold paint
  refine (yields_prepare .width .height).bind fun _ size => ?_
  refine (yields_paintBackground acceptable .width .height).bind fun _ _ => ?_
  refine (yields_paintElements missing fun e member outside => .element member outside).bind
    fun _ within => ?_
  refine .picture fun _ outside => ?_
  cases outside with
  | width beyond => exact size.1 beyond
  | height beyond => exact size.2 beyond
  | element member outside => exact within _ member outside

end

end Canvas
end Issuance
