import Issuance.Template.Source
import Issuance.Proofs.Canvas.Painting
import Issuance.Proofs.Decks
/-!
Drawing a certificate. A deck cannot be had, is no deck, or is filled in. Whatever is drawn, the
drawing depends on its files only as far as they can be read, and not on what was painted before on
the same easel.
-/

namespace Issuance

/-- The failure of a participant who holds a certificate; nothing else has its reason. -/
def Failure.IsAlreadyIssued (failure : Failure) : Prop :=
  failure.reason = ErrorKind.alreadyIssued.code

theorem Failure.not_isAlreadyIssued_error {e : Error} (different : e.kind ≠ .alreadyIssued) :
    ¬(Failure.error e).IsAlreadyIssued :=
  fun same => different (ErrorKind.code_injective same)

theorem Failure.not_isAlreadyIssued_defect (d : Defect) : ¬(Failure.defect d).IsAlreadyIssued := by
  have apart : "UnexpectedError" ≠ ErrorKind.alreadyIssued.code := by decide
  exact apart

/-- A look-up fails for want of a value only. -/
theorem Mapping.kind_of_find_error {mapping : Mapping} {values : FieldValues} {direct : Bool}
    {placeholder : String} {e : Error} (missing : mapping.find values direct placeholder = .error e) :
    e.kind = .missingFieldValue := by
  have ofKey : ∀ key, values.find key = .error e → e.kind = .missingFieldValue := by
    intro key missing
    unfold FieldValues.find at missing
    split at missing
    · cases missing
    · cases missing
      rfl
  unfold Mapping.find at missing
  split at missing
  · exact ofKey _ missing
  · split at missing
    · exact ofKey _ missing
    · cases missing
      rfl

theorem Mapping.not_isAlreadyIssued_of_find {mapping : Mapping} {values : FieldValues}
    {direct : Bool} {name : String} {e : Error}
    (missing : mapping.find values direct name = .error e) :
    ¬(Failure.error e).IsAlreadyIssued := by
  apply Failure.not_isAlreadyIssued_error
  rw [Mapping.kind_of_find_error missing]
  nofun

theorem Canvas.PaintFault.not_isAlreadyIssued {mapping : Mapping} {values : FieldValues}
    {direct : Bool} {names : List String} {failure : Failure}
    (fault : Canvas.PaintFault (mapping.find values direct) names failure) :
    ¬failure.IsAlreadyIssued := by
  cases fault with
  | defect d => exact Failure.not_isAlreadyIssued_defect d
  | unavailable ref note => exact Failure.not_isAlreadyIssued_error nofun
  | undrawn fault => exact Failure.not_isAlreadyIssued_error nofun
  | unfilled name named e missing => exact Mapping.not_isAlreadyIssued_of_find missing

namespace TemplateSource

theorem drawDeck_cases (read : String → Except IoFault Content) (ref : Option String)
    (mapping : Mapping) (values : FieldValues) :
    drawDeck read ref mapping values = .error (.error (.assetUnavailable ref "")) ∨
      ∃ r content, ref = some r ∧ read r = .ok content ∧
        drawDeck read ref mapping values =
          match content.deck? with
          | some found =>
              (found.fill (mapping.find values false)).map fun filled => ⟨.deck filled, "pptx"⟩
          | none => .error (.error (.format .notDeck)) := by
  cases ref with
  | none => exact Or.inl rfl
  | some r =>
      cases named : r.isEmpty with
      | true =>
          refine Or.inl ?_
          simp only [drawDeck, named, if_true]
          rfl
      | false =>
          cases there : read r with
          | error fault =>
              refine Or.inl ?_
              simp only [drawDeck, named, there, Bool.false_eq_true, if_false]
              rfl
          | ok content =>
              refine Or.inr ⟨r, content, rfl, there, ?_⟩
              have passed : ∀ change : IoFault → Failure,
                  (Except.ok content : Except IoFault Content).mapError change = .ok content :=
                fun _ => rfl
              simp only [drawDeck, named, there, passed, Bool.false_eq_true, if_false, bind,
                Except.bind]
              cases content.deck? with
              | none => rfl
              | some found => cases found.fill (mapping.find values false) <;> rfl

theorem format_of_draw {source : TemplateSource} {read : String → Except IoFault Content}
    {fonts : Canvas.FontShelf} {values : FieldValues} {artifact : Artifact}
    (drawn : source.draw read fonts values = .ok artifact) : artifact.format = source.format := by
  cases source with
  | deck ref mapping =>
      change drawDeck read ref mapping values = .ok artifact at drawn
      rcases drawDeck_cases read ref mapping values with missing | ⟨r, content, -, -, opened⟩
      · rw [missing] at drawn
        cases drawn
      · rw [opened] at drawn
        cases isDeck : content.deck? with
        | none =>
            rw [isDeck] at drawn
            cases drawn
        | some found =>
            rw [isDeck] at drawn
            simp only at drawn
            cases filling : found.fill (mapping.find values false) with
            | error failure =>
                rw [filling] at drawn
                cases drawn
            | ok filled =>
                rw [filling] at drawn
                cases drawn
                rfl
  | canvas spec mapping =>
      have painted : (Except.map (fun picture => (⟨.picture picture, "png"⟩ : Artifact))
          ((Canvas.paint ⟨read, fonts, mapping.find values true⟩ spec).run.run .fresh).1) =
            .ok artifact := drawn
      generalize ((Canvas.paint ⟨read, fonts, mapping.find values true⟩ spec).run.run
        Canvas.Easel.fresh).1 = result at painted
      cases result with
      | error failure => cases painted
      | ok picture =>
          cases painted
          rfl

def refs : TemplateSource → List String
  | .deck ref _ => ref.toList
  | .canvas spec _ => spec.refs

theorem drawDeck_congr {read read' : String → Except IoFault Content} {ref : Option String}
    (same : ∀ r ∈ ref.toList, (read' r).toOption = (read r).toOption) (mapping : Mapping)
    (values : FieldValues) : drawDeck read' ref mapping values = drawDeck read ref mapping values := by
  cases ref with
  | none => rfl
  | some r =>
      have alike := same r (Option.mem_toList.2 rfl)
      have asked : ((read' r).mapError fun _ => Failure.error (.assetUnavailable (some r) "")) =
          (read r).mapError fun _ => Failure.error (.assetUnavailable (some r) "") := by
        cases here : read r with
        | error fault =>
            cases there : read' r with
            | error fault' => rfl
            | ok content =>
                rw [here, there] at alike
                cases alike
        | ok content =>
            cases there : read' r with
            | error fault =>
                rw [here, there] at alike
                cases alike
            | ok content' =>
                rw [here, there] at alike
                cases alike
                rfl
      simp only [drawDeck, asked]

/-- A canvas comes out the same on any easel that remembers the right fonts, if its files are read
alike. -/
theorem drawCanvas_congr {read read' : String → Except IoFault Content} {spec : Canvas.Spec}
    (same : ∀ ref ∈ spec.refs, (read' ref).toOption = (read ref).toOption)
    {fonts : Canvas.FontShelf} (mapping : Mapping) (values : FieldValues)
    {easel easel' : Canvas.Easel} (left : easel.Remembers fonts) (right : easel'.Remembers fonts) :
    (drawCanvas read' fonts spec mapping values easel').1 =
        (drawCanvas read fonts spec mapping values easel).1 ∧
      (drawCanvas read' fonts spec mapping values easel').2.Remembers fonts := by
  have studios : Canvas.Studio.Matches spec.referencedFields spec.refs
      ⟨read, fonts, mapping.find values true⟩ ⟨read', fonts, mapping.find values true⟩ :=
    ⟨rfl, fun _ _ => rfl, same⟩
  obtain ⟨equal, after⟩ := Canvas.agree_paint studios left right
  exact ⟨congrArg (Except.map fun picture => (⟨.picture picture, "png"⟩ : Artifact)) equal, after⟩

/-- A drawing depends on its files only as far as they can be read. -/
theorem draw_congr {source : TemplateSource} {read read' : String → Except IoFault Content}
    (same : ∀ ref ∈ source.refs, (read' ref).toOption = (read ref).toOption)
    (fonts : Canvas.FontShelf) (values : FieldValues) :
    source.draw read' fonts values = source.draw read fonts values := by
  cases source with
  | deck ref mapping => exact drawDeck_congr same mapping values
  | canvas spec mapping =>
      have fresh := Canvas.Easel.remembers_fresh fonts
      exact (drawCanvas_congr same mapping values fresh fresh).1

/-- Canvases drawn one after the other on the same easel, each from the files as they then are. -/
def drawInTurn (fonts : Canvas.FontShelf) (spec : Canvas.Spec) (mapping : Mapping) :
    List ((String → Except IoFault Content) × FieldValues) → Canvas.Easel →
      List (Except Failure Artifact)
  | [], _ => []
  | (read, values) :: rest, easel =>
    let (drawn, easel) := drawCanvas read fonts spec mapping values easel
    drawn :: drawInTurn fonts spec mapping rest easel

/-- What an easel remembers of earlier drawings makes no difference to a drawing. -/
theorem drawInTurn_eq_map {fonts : Canvas.FontShelf} {easel : Canvas.Easel}
    (remembers : easel.Remembers fonts) (spec : Canvas.Spec) (mapping : Mapping)
    (jobs : List ((String → Except IoFault Content) × FieldValues)) :
    drawInTurn fonts spec mapping jobs easel =
      jobs.map fun job => (canvas spec mapping).draw job.1 fonts job.2 := by
  induction jobs generalizing easel with
  | nil => rfl
  | cons job rest ih =>
      obtain ⟨read, values⟩ := job
      obtain ⟨same, after⟩ := @drawCanvas_congr read read spec (fun _ _ => rfl) fonts mapping values
        _ _ (Canvas.Easel.remembers_fresh fonts) remembers
      rw [drawInTurn, List.map_cons, ← ih after]
      exact congrArg (· :: _) same

theorem not_isAlreadyIssued_of_drawDeck {read : String → Except IoFault Content}
    {ref : Option String} {mapping : Mapping} {values : FieldValues} {failure : Failure}
    (failed : drawDeck read ref mapping values = .error failure) : ¬failure.IsAlreadyIssued := by
  rcases drawDeck_cases read ref mapping values with missing | ⟨r, content, -, -, opened⟩
  · rw [missing] at failed
    cases failed
    exact Failure.not_isAlreadyIssued_error nofun
  · rw [opened] at failed
    cases isDeck : content.deck? with
    | none =>
        rw [isDeck] at failed
        cases failed
        exact Failure.not_isAlreadyIssued_error nofun
    | some found =>
        have settle : Deck.Settle (fun failure => ¬failure.IsAlreadyIssued)
            (mapping.find values false) (mapping.find values false) found.placeholders :=
          ⟨fun _ _ => rfl, fun _ _ _ missing => Mapping.not_isAlreadyIssued_of_find missing,
            Failure.not_isAlreadyIssued_defect⟩
        have filling := (Deck.agree_fill settle).fault
        rw [isDeck] at failed
        simp only at failed
        cases result : found.fill (mapping.find values false) with
        | ok filled =>
            rw [result] at failed
            cases failed
        | error other =>
            rw [result] at failed
            cases failed
            exact filling failure result

/-- No drawing fails because of an earlier certificate. -/
theorem not_isAlreadyIssued_of_draw {source : TemplateSource}
    {read : String → Except IoFault Content} {fonts : Canvas.FontShelf} {values : FieldValues}
    {failure : Failure} (failed : source.draw read fonts values = .error failure) :
    ¬failure.IsAlreadyIssued := by
  cases source with
  | deck ref mapping => exact not_isAlreadyIssued_of_drawDeck failed
  | canvas spec mapping =>
      have painting := @Canvas.paintFault_of_paint ⟨read, fonts, mapping.find values true⟩ spec
        .fresh (Canvas.Easel.remembers_fresh fonts)
      have painted : (Except.map (fun picture => (⟨.picture picture, "png"⟩ : Artifact))
          ((Canvas.paint ⟨read, fonts, mapping.find values true⟩ spec).perform .fresh).1) =
            .error failure := failed
      cases result : ((Canvas.paint ⟨read, fonts, mapping.find values true⟩ spec).perform .fresh).1 with
      | ok picture =>
          rw [result] at painted
          cases painted
      | error other =>
          rw [result] at painted
          cases painted
          exact (painting result).not_isAlreadyIssued

theorem slash_not_mem_format (source : TemplateSource) : '/' ∉ source.format.toList := by
  cases source with
  | deck ref mapping =>
      change '/' ∉ "pptx".toList
      decide
  | canvas spec mapping =>
      change '/' ∉ "png".toList
      decide

end TemplateSource
end Issuance
