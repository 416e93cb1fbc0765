import Issuance.Proofs.Canvas.Faults
import Issuance.Proofs.Deck.Filling
import Issuance.Proofs.Template.Drawing
/-!
How the drawing of a certificate may fail: by one of a few kinds of errors, or because the template
and the values ask for what cannot be drawn at all. A canvas is asked for something too far out, and
a deck for a text that it cannot hold.
-/

namespace Issuance
namespace Deck

/-- How work ends in which certain names are looked up: it is done, all their values being texts
that a deck can hold; or one has no value; or one has a value that a deck cannot hold. -/
def Ends {α : Type} (lookup : Lookup) (names : List String) : Except Failure α → Prop
  | .ok _ => ∀ name ∈ names, ∀ value, lookup name = .ok value → IsWritable value
  | .error (.error e) => ∃ name ∈ names, lookup name = .error e
  | .error (.defect d) => (∃ text, d = .badValue text) ∧
      ∃ name ∈ names, ∃ value, lookup name = .ok value ∧ ¬IsWritable value

section

variable {lookup : Lookup}

namespace Ends

variable {α β : Type} {names others : List String} {x : Except Failure α}

theorem ok (a : α) : Ends lookup [] (.ok a) :=
  fun _ none => absurd none List.not_mem_nil

theorem of_subset {failure : Failure} (ends : Ends lookup names (.error failure : Except Failure α))
    (more : names ⊆ others) : Ends lookup others (.error failure : Except Failure β) := by
  cases failure with
  | error e =>
      obtain ⟨name, named, missing⟩ := ends
      exact ⟨name, more named, missing⟩
  | defect d =>
      obtain ⟨refused, name, named, spoilt⟩ := ends
      exact ⟨refused, name, more named, spoilt⟩

theorem bind {f : α → Except Failure β} (first : Ends lookup names x)
    (rest : ∀ a, Ends lookup others (f a)) : Ends lookup (names ++ others) (x >>= f) := by
  cases x with
  | error failure => exact of_subset first (List.subset_append_left names others)
  | ok a =>
      change Ends lookup (names ++ others) (f a)
      cases done : f a with
      | error failure =>
          have later := rest a
          rw [done] at later
          exact of_subset later (List.subset_append_right names others)
      | ok b =>
          have later := rest a
          rw [done] at later
          exact List.forall_mem_append.2 ⟨first, later⟩

/-- Work on what was found, in which nothing is looked up. -/
theorem andThen {f : α → β} (ends : Ends lookup names x) :
    Ends lookup names (x >>= fun a => .ok (f a)) := by
  have all : Ends lookup (names ++ []) (x >>= fun a => .ok (f a)) := ends.bind fun a => ok (f a)
  rwa [List.append_nil] at all

theorem mapM {f : β → Except Failure α} {namesOf : β → List String} {xs : List β}
    (each : ∀ b ∈ xs, Ends lookup (namesOf b) (f b)) :
    Ends lookup (xs.flatMap namesOf) (xs.mapM f) := by
  induction xs with
  | nil => exact ok []
  | cons b rest ih =>
      rw [List.mapM_cons, List.flatMap_cons]
      refine (each b List.mem_cons_self).bind fun a => ?_
      exact (ih fun other member => each other (List.mem_cons_of_mem _ member)).andThen

theorem of_outcome_eq {y : Except Failure β} (ends : Ends lookup names y)
    (same : outcome x = outcome y) : Ends lookup names x := by
  cases x with
  | ok a =>
      cases y with
      | ok b => exact ends
      | error failure => cases same
  | error failure =>
      cases y with
      | ok b => cases same
      | error other =>
          cases same
          exact of_subset ends (List.Subset.refl names)

end Ends

theorem ends_filledText {s : String} (clean : IsWritable s) :
    Ends lookup (Placeholder.names s) (filledText lookup s) := by
  unfold filledText
  cases filling : Placeholder.fill lookup s with
  | error e => exact Placeholder.exists_of_fill_error filling
  | ok filled =>
      have held := isWritable_fill_iff clean filling
      change Ends lookup _ ((writtenText filled).mapError Failure.defect)
      unfold writtenText
      cases excluded : filled.toList.any isExcluded with
      | false => exact held.1 (any_isExcluded_eq_false_iff.1 excluded)
      | true =>
          refine ⟨⟨_, rfl⟩, ?_⟩
          have spoilt : ¬IsWritable filled := by
            rw [← any_isExcluded_eq_false_iff, excluded]
            exact Bool.noConfusion
          rw [held] at spoilt
          simpa only [not_forall, exists_prop] using spoilt

theorem ends_fillRuns {p : Paragraph} (clean : ∀ s ∈ runTexts p, IsWritable s) :
    Ends lookup ((runTexts p).flatMap Placeholder.names) (fillRuns lookup p) := by
  induction p with
  | nil => exact .ok []
  | cons piece rest ih =>
      cases piece with
      | run s bold =>
          have here : s ∈ runTexts (.run s bold :: rest) := List.mem_cons_self
          have others := ih fun t member => clean t (List.mem_cons_of_mem _ member)
          change Ends lookup (Placeholder.names s ++ (runTexts rest).flatMap Placeholder.names) _
          rw [fillRuns]
          cases occurs : Placeholder.occursIn s with
          | true => exact (ends_filledText (clean s here)).bind fun t => others.andThen
          | false =>
              rw [occursIn_eq_false_iff.1 occurs]
              exact (Ends.ok s).bind fun t => others.andThen
      | lineBreak => exact (ih clean).andThen
      | field t => exact (ih clean).andThen

theorem ends_fillParagraph {p : Paragraph} (clean : ∀ s ∈ runTexts p, IsWritable s) :
    Ends lookup (namesOf p) (fillParagraph lookup p) := by
  unfold fillParagraph namesOf
  cases occurs : Placeholder.occursIn (text p) with
  | false =>
      rw [occursIn_eq_false_iff.1 occurs]
      exact .ok p
  | true =>
      cases runwise : isRunwise p with
      | true =>
          rw [← names_of_isRunwise runwise]
          exact ends_fillRuns clean
      | false => exact (ends_filledText (forall_mem_text clean)).andThen

/-- Filling in a deck fails for its placeholders only. -/
theorem ends_fill {deck : Deck} (document : deck.IsDocument) :
    Ends lookup (deck.paragraphs.flatMap namesOf) (deck.fill lookup) :=
  (Ends.mapM fun p member => ends_fillParagraph (document p member)).of_outcome_eq
    (outcome_fill deck)

theorem mem_placeholders {deck : Deck} {name : String} :
    name ∈ deck.placeholders ↔ name ∈ deck.paragraphs.flatMap namesOf := by
  rw [placeholders, Placeholder.extract, List.flatMap_map, mem_distinct]

end

end Deck

namespace TemplateSource

/-- The kinds of errors by which a drawing may fail. -/
def drawingKinds : TemplateSource → List ErrorKind
  | .deck .. => [.missingFieldValue, .assetUnavailable, .unsupportedFormat]
  | .canvas .. => Canvas.paintingKinds

/-- A source as it may be taken in: a canvas that has been accepted, or a deck from a file. A file
that is no deck may have been put in its place. -/
inductive IsTakenIn (read : String → Except IoFault Content) : TemplateSource → Prop
  | deck {ref : Option String} {mapping : Mapping}
      (documents : ∀ r ∈ ref, ∀ content found, read r = .ok content →
        content.deck? = some found → found.IsDocument) :
      IsTakenIn read (.deck ref mapping)
  | canvas {spec : Canvas.Spec} {mapping : Mapping} {input : CanvasInput}
      (accepted : input.read = .ok spec) : IsTakenIn read (.canvas spec mapping)

/-- A source and values that ask for what cannot be drawn, with the defect to which this leads. -/
inductive Overreaches (read : String → Except IoFault Content) (values : FieldValues) :
    TemplateSource → Defect → Prop
  | deck {r : String} {mapping : Mapping} {content : Content} {found : Deck} {name value : String}
      (there : read r = .ok content) (isDeck : content.deck? = some found)
      (named : name ∈ found.placeholders) (known : mapping.find values false name = .ok value)
      (unwritable : ¬Deck.IsWritable value) (text : String) :
      Overreaches read values (.deck (some r) mapping) (.badValue text)
  | canvas {spec : Canvas.Spec} {mapping : Mapping}
      (outside : spec.Overflows (mapping.find values true)) (text : String) :
      Overreaches read values (.canvas spec mapping) (.overflow text)

/-- How a drawing ends: it is done, and nothing was asked for that cannot be drawn; or it failed by
one of its kinds of errors; or something was asked for that cannot be drawn. -/
inductive Ends (read : String → Except IoFault Content) (values : FieldValues)
    (source : TemplateSource) : Except Failure Artifact → Prop
  | drawn (artifact : Artifact) (within : ∀ d, ¬source.Overreaches read values d) :
      Ends read values source (.ok artifact)
  | failed {e : Error} (kind : e.kind ∈ source.drawingKinds) :
      Ends read values source (.error (.error e))
  | broken {d : Defect} (outside : source.Overreaches read values d) :
      Ends read values source (.error (.defect d))

section

variable {read : String → Except IoFault Content} {values : FieldValues} {mapping : Mapping}

theorem ends_deck {ref : Option String} (documents : ∀ r ∈ ref, ∀ content found,
      read r = .ok content → content.deck? = some found → found.IsDocument) :
    (deck ref mapping).Ends read values (drawDeck read ref mapping values) := by
  rcases drawDeck_cases read ref mapping values with unavailable | ⟨r, content, rfl, there, opened⟩
  · rw [unavailable]
    exact .failed (List.mem_cons_of_mem _ List.mem_cons_self)
  · rw [opened]
    cases isDeck : content.deck? with
    | none => exact .failed (List.mem_cons_of_mem _ (List.mem_cons_of_mem _ List.mem_cons_self))
    | some found =>
        have document := documents r rfl content found there isDeck
        have ends := @Deck.ends_fill (mapping.find values false) found document
        simp only
        cases filling : found.fill (mapping.find values false) with
        | ok filled =>
            rw [filling] at ends
            refine .drawn _ fun d outside => ?_
            cases outside with
            | deck there' isDeck' named known unwritable text =>
                cases there.symm.trans there'
                cases isDeck.symm.trans isDeck'
                exact unwritable (ends _ (Deck.mem_placeholders.1 named) _ known)
        | error failure =>
            rw [filling] at ends
            cases failure with
            | error e =>
                obtain ⟨name, -, missing⟩ := ends
                have kind : e.kind ∈ (deck (some r) mapping).drawingKinds := by
                  rw [Mapping.kind_of_find_error missing]
                  exact List.mem_cons_self
                exact .failed kind
            | defect d =>
                obtain ⟨⟨text, rfl⟩, name, named, value, known, unwritable⟩ := ends
                exact .broken
                  (.deck there isDeck (Deck.mem_placeholders.2 named) known unwritable text)

theorem ends_canvas {spec : Canvas.Spec} (acceptable : spec.IsAcceptable)
    (fonts : Canvas.FontShelf) :
    (canvas spec mapping).Ends read values
      (drawCanvas read fonts spec mapping values .fresh).1 := by
  have painted := @Canvas.yields_paint ⟨read, fonts, mapping.find values true⟩ spec acceptable
    (fun _ _ missing => Mapping.kind_of_find_error missing) .fresh
  change Ends read values _ (Except.map _
    ((Canvas.paint ⟨read, fonts, mapping.find values true⟩ spec).perform .fresh).1)
  generalize ((Canvas.paint ⟨read, fonts, mapping.find values true⟩ spec).perform .fresh).1 =
    result at painted
  cases result with
  | ok picture =>
      refine .drawn _ fun d outside => ?_
      cases outside with
      | canvas outside text => exact painted outside
  | error failure =>
      cases painted with
      | error kind => exact .failed kind
      | badValue text here => exact here.elim
      | overflow text outside => exact .broken (.canvas outside text)

end

end TemplateSource

/-- A canvas with a line that starts at infinity, its number being too large for a double. -/
def farText : String :=
  "\x7b\"elements\": [\x7b\"type\": \"text\", \"x\": 1e400, \"y\": 0, \"content\": \"Hi\"\x7d]\x7d"

def farCanvas : Canvas.Spec :=
  ⟨1200, 800, "#ffffff", none,
    [.text ⟨.double (.infinite false), .int 0, "Hi", "DejaVuSans", 24, "#000000", .left⟩]⟩

def farSource : TemplateSource := .canvas farCanvas []

def nameSlide : Deck :=
  ⟨[⟨[.textBox [[.run "Awarded to \x7b\x7bname\x7d\x7d" false]]], none⟩]⟩

def nameSource : TemplateSource :=
  .deck (some "slide.pptx") [("name", some "participant_name")]

def slideFiles (_ref : String) : Except IoFault Content := .ok (.deck nameSlide)

/-- A name with a character that stands for none. -/
def oddName : FieldValues := [("participant_name", "Ann\ufffe")]

theorem read_farText : (CanvasInput.value (.str farText)).read = .ok farCanvas := by
  decide +kernel

theorem isTakenIn_farSource : farSource.IsTakenIn slideFiles :=
  .canvas read_farText

theorem isTakenIn_nameSource : nameSource.IsTakenIn slideFiles := by
  refine .deck ?_
  rintro r - content found ⟨⟩ ⟨⟩
  have document : nameSlide.IsDocument := by decide +kernel
  exact document

theorem Deck.eq_error_of_outcome {α : Type} {x : Except Failure α} {failure : Failure}
    (ended : outcome x = .error failure) : x = .error failure := by
  cases x with
  | ok a => cases ended
  | error other =>
      cases ended
      rfl

theorem draw_farSource :
    farSource.draw slideFiles ⟨none, []⟩ oddName =
      .error (.defect (.overflow "cannot convert float infinity to integer")) :=
  Deck.eq_error_of_outcome (by decide +kernel)

theorem exists_draw_nameSource :
    ∃ text, nameSource.draw slideFiles ⟨none, []⟩ oddName = .error (.defect (.badValue text)) := by
  have ended : Deck.outcome (nameSource.draw slideFiles ⟨none, []⟩ oddName) = .error (.defect
      (.badValue ("All strings must be XML compatible: " ++
        "Unicode or ASCII, no NULL bytes or control characters"))) := by
    decide +kernel
  exact ⟨_, Deck.eq_error_of_outcome ended⟩

end Issuance
