import Issuance.Proofs.Canvas.Script
import Issuance.Proofs.Placeholders
/-!
What a painting depends on and how it can fail. A canvas comes out the same wherever the files that
it refers to are read alike and the names in it have the same values, whatever fonts the easel
remembers from earlier paintings.
-/

namespace Issuance

theorem ErrorKind.code_injective {a b : ErrorKind} (same : a.code = b.code) : a = b := by
  have found : ∀ kind : ErrorKind, ErrorKind.ofCode? kind.code = some kind := by
    intro kind
    cases kind <;> decide
  have both := found a
  rw [same, found b] at both
  exact (Option.some.inj both).symm

/-- The failures that a template which is ready does not run into: a field without a value, and a
content of the wrong format. -/
def Failure.IsUnready (failure : Failure) : Prop :=
  failure.reason = ErrorKind.missingFieldValue.code ∨
    failure.reason = ErrorKind.unsupportedFormat.code

theorem Failure.isUnready_error_iff {e : Error} :
    (Failure.error e).IsUnready ↔
      e.kind = .missingFieldValue ∨ e.kind = .unsupportedFormat := by
  constructor
  · rintro (missing | format)
    · exact Or.inl (ErrorKind.code_injective missing)
    · exact Or.inr (ErrorKind.code_injective format)
  · rintro (missing | format)
    · exact Or.inl (congrArg ErrorKind.code missing)
    · exact Or.inr (congrArg ErrorKind.code format)

theorem Failure.not_isUnready_error {e : Error} (value : e.kind ≠ .missingFieldValue)
    (format : e.kind ≠ .unsupportedFormat) : ¬(Failure.error e).IsUnready := by
  rw [isUnready_error_iff, not_or]
  exact ⟨value, format⟩

theorem Failure.not_isUnready_defect (d : Defect) : ¬(Failure.defect d).IsUnready := by
  have apart : "UnexpectedError" ≠ ErrorKind.missingFieldValue.code ∧
      "UnexpectedError" ≠ ErrorKind.unsupportedFormat.code := by decide
  rintro (missing | format)
  · exact apart.1 missing
  · exact apart.2 format

namespace Canvas

namespace Spec

def pictures (spec : Spec) : List String :=
  spec.elements.filterMap fun
    | .image e => some e.src
    | _ => none

def refs (spec : Spec) : List String := spec.background.toList ++ spec.pictures

theorem mem_refs {spec : Spec} {ref : String} :
    ref ∈ spec.refs ↔ spec.background = some ref ∨ ∃ e, .image e ∈ spec.elements ∧ e.src = ref := by
  unfold refs pictures
  rw [List.mem_append, Option.mem_toList, List.mem_filterMap]
  constructor
  · rintro (here | ⟨element, member, here⟩)
    · exact Or.inl here
    · cases element with
      | text e => cases here
      | symbol e => cases here
      | image e => exact Or.inr ⟨e, member, Option.some.inj here⟩
  · rintro (here | ⟨e, member, rfl⟩)
    · exact Or.inl here
    · exact Or.inr ⟨.image e, member, rfl⟩

theorem referencedFields_eq (spec : Spec) :
    spec.referencedFields = Placeholder.extract (spec.elements.map Element.content) := by
  rw [← Placeholder.foldl_listFurther, List.foldl_map]
  rfl

theorem mem_referencedFields {spec : Spec} {name : String} :
    name ∈ spec.referencedFields ↔
      ∃ e ∈ spec.elements, name ∈ Placeholder.names e.content := by
  simp only [referencedFields_eq, Placeholder.mem_extract, List.mem_map, exists_exists_and_eq_and]

end Spec

/-- How a painting fails that names certain fields. -/
inductive PaintFault (lookup : String → Except Error String) (names : List String) : Failure → Prop
  | defect (d : Defect) : PaintFault lookup names (.defect d)
  | unavailable (ref : Option String) (note : String) :
      PaintFault lookup names (.error (.assetUnavailable ref note))
  | undrawn (fault : DrawingFault) : PaintFault lookup names (.error (.drawing fault))
  | unfilled (name : String) (named : name ∈ names) (e : Error) (missing : lookup name = .error e) :
      PaintFault lookup names (.error e)

/-- Naming the element that fails makes no other kind of failure of it. -/
theorem PaintFault.elementFailure {lookup : String → Except Error String} {names : List String}
    (e : Element) {failure : Failure} (fault : PaintFault lookup names failure) :
    PaintFault lookup names (elementFailure e failure) := by
  unfold Canvas.elementFailure
  split
  · exact .undrawn _
  · exact fault

/-- Two studios with the same fonts, in which some names have the same values and some files are
read alike. Why a file cannot be read may differ. -/
structure Studio.Matches (names refs : List String) (s t : Studio) : Prop where
  fonts : t.fonts = s.fonts
  values : ∀ name ∈ names, t.lookup name = s.lookup name
  reads : ∀ ref ∈ refs, (t.read ref).toOption = (s.read ref).toOption

/-- A painting step that is scripted and fails only as paintings with these names do. -/
abbrev IsPainted {α : Type} (studio : Studio) (names : List String) (work : Painting α) : Prop :=
  Painting.IsScripted studio.fonts (PaintFault studio.lookup names) work

namespace IsPainted

variable {α : Type} {studio : Studio} {names : List String}

theorem defect (d : Defect) :
    IsPainted studio names (MonadExcept.throw (Failure.defect d) : Painting α) :=
  .throw (.defect d)

theorem badValue (text : String) :
    IsPainted studio names (Painting.badValue text : Painting α) :=
  defect _

end IsPainted

open Painting

variable {studio other : Studio} {names : List String}

theorem isPainted_rounded (n : Number) : IsPainted studio names (rounded n) := by
  apply IsScripted.result
  intro failure failed
  cases round : n.round with
  | error cause =>
      rw [round] at failed
      cases failed
      cases cause <;> exact .defect _
  | ok integer =>
      rw [round] at failed
      cases failed

theorem isPainted_toDouble (n : Number) : IsPainted studio names (toDouble n) := by
  unfold toDouble
  split
  · exact .pure _
  · exact .defect _

theorem checkCoordinate_cases (n : Int) :
    checkCoordinate n = pure () ∨ ∃ d, checkCoordinate n = throw (Failure.defect d) := by
  unfold checkCoordinate
  split
  · exact Or.inr ⟨_, rfl⟩
  · split
    · exact Or.inr ⟨_, rfl⟩
    · exact Or.inl rfl

theorem isPainted_checkCoordinate (n : Int) : IsPainted studio names (checkCoordinate n) := by
  rcases checkCoordinate_cases n with within | ⟨d, refused⟩
  · rw [within]
    exact .pure _
  · rw [refused]
    exact .defect d

theorem isPainted_resize (width height : Int) :
    IsPainted studio names (resize width height) := by
  unfold resize
  refine (IsScripted.record rfl).bind fun _ => ?_
  refine IsScripted.guard (IsPainted.badValue _) fun _ => ?_
  refine (isPainted_checkCoordinate width).bind fun _ => ?_
  exact (isPainted_checkCoordinate height).bind fun _ => .pure _

theorem isPainted_colour (text : String) : IsPainted studio names (colour text) := by
  unfold colour
  split
  · exact .pure _
  · exact .badValue _

theorem isPainted_openPicture (ref : String) :
    IsPainted studio names (openPicture studio ref) := by
  have asset : IsPainted studio names (readAsset studio ref) := by
    unfold readAsset
    refine IsScripted.guard (.throw (.unavailable _ _)) fun _ => ?_
    refine (IsScripted.record rfl).bind fun _ => ?_
    split
    · exact .pure _
    · exact .throw (.unavailable _ _)
  unfold openPicture
  refine asset.bind fun content => ?_
  split
  · exact .pure _
  · exact .throw (.undrawn _)

theorem isPainted_place (x y : Int) (size : Nat × Nat) (picture : Picture) :
    IsPainted studio names (place x y size picture) := by
  unfold place
  split
  · exact .cover _
  · exact .pure _

theorem isPainted_measure (size : Nat) (text : String) :
    IsPainted studio names (measure size text) := by
  unfold measure
  refine (IsScripted.record rfl).bind fun _ => ?_
  refine IsScripted.guard (IsPainted.badValue _) fun _ => ?_
  refine (isPainted_toDouble _).bind fun _ => ?_
  exact (isPainted_toDouble _).bind fun _ => .pure _

theorem isPainted_lineStart (e : TextElement) (text : String) :
    IsPainted studio names (lineStart e text) := by
  unfold lineStart
  split
  · exact .pure _
  · exact (isPainted_measure _ _).bind fun _ => (isPainted_toDouble _).bind fun _ => .pure _
  · exact (isPainted_measure _ _).bind fun _ => (isPainted_toDouble _).bind fun _ => .pure _

theorem isPainted_fitBox (x y width height : Number) :
    IsPainted studio names (fitBox x y width height) := by
  unfold fitBox
  refine (isPainted_rounded _).bind fun w => (isPainted_rounded _).bind fun h => ?_
  refine (isPainted_resize _ _).bind fun size => ?_
  refine (isPainted_rounded _).bind fun left => (isPainted_rounded _).bind fun top => ?_
  refine (IsScripted.record rfl).bind fun _ => ?_
  refine (isPainted_checkCoordinate _).bind fun _ => ?_
  refine (isPainted_checkCoordinate _).bind fun _ => ?_
  refine (isPainted_checkCoordinate _).bind fun _ => ?_
  exact (isPainted_checkCoordinate _).bind fun _ => .pure _

theorem isPainted_fill {text : String} (named : Placeholder.names text ⊆ names) :
    IsPainted studio names (ofError (Placeholder.fill studio.lookup text)) := by
  apply IsScripted.result
  intro failure failed
  cases filling : Placeholder.fill studio.lookup text with
  | ok filled =>
      rw [filling] at failed
      cases failed
  | error e =>
      rw [filling] at failed
      cases failed
      obtain ⟨name, member, missing⟩ := Placeholder.exists_of_fill_error filling
      exact .unfilled name (named member) e missing

theorem isPainted_paintText {e : TextElement} (named : Placeholder.names e.content ⊆ names) :
    IsPainted studio names (paintText studio e) := by
  unfold paintText
  refine (isPainted_fill named).bind fun text => ?_
  split
  · exact .pure _
  · refine IsScripted.bind ⟨_, _, follows_font e.font e.size⟩ fun found => ?_
    refine (isPainted_lineStart _ _).bind fun start => ?_
    refine (isPainted_rounded _).bind fun x => (isPainted_rounded _).bind fun y => ?_
    refine (IsScripted.record rfl).bind fun _ => ?_
    exact (isPainted_colour _).bind fun _ => .pure _

theorem isPainted_paintImage (e : ImageElement) : IsPainted studio names (paintImage studio e) := by
  unfold paintImage
  refine (isPainted_openPicture e.src).bind fun picture => ?_
  exact (isPainted_fitBox _ _ _ _).bind fun box => isPainted_place _ _ _ _

theorem isPainted_paintSymbol {e : SymbolElement} (named : Placeholder.names e.content ⊆ names) :
    IsPainted studio names (paintSymbol studio e) := by
  unfold paintSymbol
  refine (isPainted_fill named).bind fun content => ?_
  refine (IsScripted.record rfl).bind fun _ => ?_
  split
  · refine (isPainted_colour _).bind fun c => ?_
    exact (isPainted_fitBox _ _ _ _).bind fun box => .cover _
  · exact IsPainted.badValue _

theorem isPainted_paintElement {e : Element} (named : Placeholder.names e.content ⊆ names) :
    IsPainted studio names (paintElement studio e) := by
  unfold paintElement
  refine IsScripted.tryCatch ?_ fun failure fault => .throw (fault.elementFailure e)
  cases e with
  | text t => exact isPainted_paintText named
  | image i => exact isPainted_paintImage i
  | symbol s => exact isPainted_paintSymbol named

theorem isPainted_paintElements {elements : List Element}
    (named : ∀ e ∈ elements, Placeholder.names e.content ⊆ names) :
    IsPainted studio names (paintElements studio elements) := by
  induction elements with
  | nil => exact .pure _
  | cons e rest ih =>
      obtain ⟨here, later⟩ := List.forall_mem_cons.1 named
      exact (isPainted_paintElement here).bind fun _ => ih later

theorem isPainted_paintBackground (spec : Spec) :
    IsPainted studio names (paintBackground studio spec) := by
  unfold paintBackground
  split
  · exact .pure _
  · refine (isPainted_openPicture _).bind fun picture => ?_
    refine (isPainted_resize _ _).bind fun size => ?_
    exact (IsScripted.record rfl).bind fun _ => isPainted_place _ _ _ _

/-! Two studios in which the same is found paint alike. -/

/-- Opening a picture asks only whether its file can be read, and what is in it. -/
theorem openPicture_congr {ref : String}
    (same : (other.read ref).toOption = (studio.read ref).toOption) :
    openPicture other ref = openPicture studio ref := by
  unfold openPicture readAsset
  cases here : studio.read ref with
  | error fault =>
      cases there : other.read ref with
      | error fault' => rfl
      | ok content =>
          rw [here, there] at same
          cases same
  | ok content =>
      cases there : other.read ref with
      | error fault =>
          rw [here, there] at same
          cases same
      | ok content' =>
          rw [here, there] at same
          cases same
          rfl

section

variable {refs : List String} (matching : Studio.Matches names refs studio other)

include matching

theorem paintElement_congr {e : Element} (named : Placeholder.names e.content ⊆ names)
    (referred : ∀ image, e = .image image → image.src ∈ refs) :
    paintElement other e = paintElement studio e := by
  have filled : ∀ text, Placeholder.names text ⊆ names →
      Placeholder.fill other.lookup text = Placeholder.fill studio.lookup text :=
    fun text named => Placeholder.fill_congr fun name member => matching.values name (named member)
  unfold paintElement
  cases e with
  | text t => simp only [paintText, filled t.content named, matching.fonts]
  | image i => simp only [paintImage, openPicture_congr (matching.reads i.src (referred i rfl))]
  | symbol s => simp only [paintSymbol, filled s.content named]

theorem paintElements_congr {elements : List Element}
    (named : ∀ e ∈ elements, Placeholder.names e.content ⊆ names)
    (referred : ∀ image, .image image ∈ elements → image.src ∈ refs) :
    paintElements other elements = paintElements studio elements := by
  induction elements with
  | nil => rfl
  | cons e rest ih =>
      obtain ⟨here, later⟩ := List.forall_mem_cons.1 named
      have first : paintElement other e = paintElement studio e := by
        refine paintElement_congr matching here fun image same => referred image ?_
        exact List.mem_cons.2 (Or.inl same.symm)
      have others := ih later fun image member => referred image (List.mem_cons_of_mem e member)
      rw [paintElements, paintElements, first, others]

theorem paintBackground_congr {spec : Spec}
    (referred : ∀ ref, spec.background = some ref → ref ∈ refs) :
    paintBackground other spec = paintBackground studio spec := by
  unfold paintBackground
  cases here : spec.background with
  | none => rfl
  | some ref => simp only [openPicture_congr (matching.reads ref (referred ref here))]

end

theorem paint_congr {spec : Spec}
    (matching : Studio.Matches spec.referencedFields spec.refs studio other) :
    paint other spec = paint studio spec := by
  have background : paintBackground other spec = paintBackground studio spec :=
    paintBackground_congr matching fun ref here => Spec.mem_refs.2 (Or.inl here)
  have elements : paintElements other spec.elements = paintElements studio spec.elements := by
    refine paintElements_congr matching ?_ fun e member => Spec.mem_refs.2 (Or.inr ⟨e, member, rfl⟩)
    exact fun e member name named => Spec.mem_referencedFields.2 ⟨e, member, named⟩
  rw [paint, paint, background, elements]

/-! A canvas is set out and then painted, element by element. -/

/-- A canvas is refused, or painting begins with a plain ground, whatever was shown before. -/
theorem prepare_cases (spec : Spec) {shelf : FontShelf} {lookup : String → Except Error String} :
    (∃ failure, Follows shelf (PaintFault lookup names) (prepare spec) [] (.error failure)) ∨
      ∃ plain, Follows shelf (PaintFault lookup names) (prepare spec) [.ground plain] (.ok ⟨⟩) := by
  unfold prepare
  cases Colour.ofText spec.backgroundColor with
  | error fault => exact Or.inl ⟨_, .throw (.undrawn _)⟩
  | ok ground =>
      simp only
      rcases checkCoordinate_cases spec.width with wide | ⟨d, refused⟩
      · rw [wide]
        rcases checkCoordinate_cases spec.height with high | ⟨d, refused⟩
        · rw [high]
          exact Or.inr ⟨_, (Follows.pure _).bind ((Follows.pure _).bind (Follows.ground _))⟩
        · rw [refused]
          exact Or.inl ⟨_, (Follows.pure _).bind ((Follows.throw (.defect d)).stop _)⟩
      · rw [refused]
        exact Or.inl ⟨_, (Follows.throw (.defect d)).stop _⟩

/-- The ground of a canvas, and its background. -/
def setOut (studio : Studio) (spec : Spec) : Painting Unit := do
  prepare spec
  paintBackground studio spec

theorem exists_follows_setOut (studio : Studio) (names : List String) (spec : Spec) :
    ∃ actions result,
      Follows studio.fonts (PaintFault studio.lookup names) (setOut studio spec) actions result ∧
        (result = .ok ⟨⟩ → ∃ plain rest, actions = .ground plain :: rest) := by
  rcases prepare_cases spec with ⟨failure, refused⟩ | ⟨plain, begun⟩
  · exact ⟨_, _, refused.stop _, nofun⟩
  · obtain ⟨actions, result, painted⟩ := isPainted_paintBackground spec
    exact ⟨_, _, begun.bind painted, fun _ => ⟨plain, actions, rfl⟩⟩

section

variable {shelf : FontShelf} {Fault : Failure → Prop} {spec : Spec}

theorem follows_paint_of_error {actions : List Action} {failure : Failure}
    (refused : Follows shelf Fault (setOut studio spec) actions (.error failure)) :
    Follows shelf Fault (paint studio spec) actions (.error failure) := by
  have whole : paint studio spec = setOut studio spec >>= fun _ => do
      paintElements studio spec.elements
      return (← get).picture := by
    simp only [paint, setOut, bind_assoc]
  rw [whole]
  exact refused.stop _

/-- The picture is what is shown in the end. It does not depend on the easel, because painting begins
with a ground. -/
theorem follows_paint {plain : Picture} {ground actions : List Action} {result : Except Failure Unit}
    (begun : Follows shelf Fault (setOut studio spec) (.ground plain :: ground) (.ok ⟨⟩))
    (painted : Follows shelf Fault (paintElements studio spec.elements) actions result) :
    Follows shelf Fault (paint studio spec) (.ground plain :: ground ++ actions)
      (result.map fun _ => (ground ++ actions).foldl Action.shown plain) := by
  have whole : paint studio spec =
      (setOut studio spec >>= fun _ => paintElements studio spec.elements) >>= fun _ => do
        return (← get).picture := by
    simp only [paint, setOut, bind_assoc]
  have both : Follows shelf Fault
      (setOut studio spec >>= fun _ => paintElements studio spec.elements)
      (.ground plain :: ground ++ actions) result := begun.bind painted
  refine ⟨fun easel remembers => ?_, both.plain, fun failure failed => ?_⟩
  · rw [whole, perform_bind, both.perform easel remembers]
    cases result with
    | error failure => rfl
    | ok done =>
        exact congrArg (fun shown => (Except.ok shown, _)) (Easel.picture_play easel _)
  · cases result with
    | error other =>
        cases failed
        exact both.fault failure rfl
    | ok done => cases failed

end

theorem isPainted_paint (studio : Studio) (spec : Spec) :
    IsPainted studio spec.referencedFields (paint studio spec) := by
  obtain ⟨actions, result, begun, grounded⟩ :=
    exists_follows_setOut studio spec.referencedFields spec
  cases result with
  | error failure => exact ⟨_, _, follows_paint_of_error begun⟩
  | ok done =>
      obtain ⟨plain, rest, rfl⟩ := grounded rfl
      obtain ⟨others, result, painted⟩ := @isPainted_paintElements studio _ spec.elements
        fun e member name named => Spec.mem_referencedFields.2 ⟨e, member, named⟩
      exact ⟨_, _, follows_paint begun painted⟩

/-- A canvas depends on the values of the names in it and on the files that it refers to, and not
on the easel. -/
theorem agree_paint {spec : Spec}
    (matching : Studio.Matches spec.referencedFields spec.refs studio other) {a b : Easel}
    (left : a.Remembers studio.fonts) (right : b.Remembers studio.fonts) :
    ((paint other spec).perform b).1 = ((paint studio spec).perform a).1 ∧
      ((paint other spec).perform b).2.Remembers studio.fonts := by
  obtain ⟨actions, result, follows⟩ := isPainted_paint studio spec
  rw [paint_congr matching, follows.perform a left, follows.perform b right]
  exact ⟨rfl, right.play actions⟩

theorem paintFault_of_paint {spec : Spec} {easel : Easel} (remembers : easel.Remembers studio.fonts)
    {failure : Failure} (failed : ((paint studio spec).perform easel).1 = .error failure) :
    PaintFault studio.lookup spec.referencedFields failure := by
  obtain ⟨actions, result, follows⟩ := isPainted_paint studio spec
  rw [follows.perform easel remembers] at failed
  exact follows.fault failure failed

/-- A canvas of which all named fields have values is never found unready. -/
theorem PaintFault.not_isUnready {lookup : String → Except Error String} {failure : Failure}
    (known : ∀ name ∈ names, ∃ value, lookup name = .ok value)
    (fault : PaintFault lookup names failure) : ¬failure.IsUnready := by
  cases fault with
  | defect d => exact Failure.not_isUnready_defect d
  | unavailable ref note => exact Failure.not_isUnready_error nofun nofun
  | undrawn fault => exact Failure.not_isUnready_error nofun nofun
  | unfilled name named e missing =>
      obtain ⟨value, found⟩ := known name named
      rw [found] at missing
      cases missing

end Canvas
end Issuance
