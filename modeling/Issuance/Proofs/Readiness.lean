import Issuance.Proofs.Batch.Selection
import Issuance.Proofs.Canvas.Painting
import Issuance.Proofs.Decks
import Issuance.Proofs.Upkeep
import Issuance.Proofs.Values
/-!
The check before a batch is enough: if it passes, no participant is left without a certificate
because a field has no value or a file is not what it was when it was uploaded.
-/

namespace Issuance

/-- Everything that a drawing with some values looks up is there. A deck asks for the placeholders
that were noted when it was uploaded and for nothing else, and each is mapped to a standard field
that has a value; a canvas asks for standard fields by their own keys. -/
inductive TemplateSource.IsSupplied (template : Template) (office : Office) (values : FieldValues) :
    TemplateSource → Prop
  | deck (ref : String) (mapping : Mapping)
      (asked : ∀ content, office.vault.read ref = .ok content →
        ∃ found, content.deck? = some found ∧ template.placeholders = found.placeholders ∧
          ∀ lookup, (∀ p ∈ template.placeholders, lookup p = mapping.find values false p) →
            found.fill lookup = found.fill (mapping.find values false))
      (mapped : ∀ p ∈ template.placeholders, ∃ key value, mapping.target? p = some key ∧
        Catalog.standard.contains key = true ∧ Assoc.get? key values = some value) :
      IsSupplied template office values (.deck (some ref) mapping)
  | canvas (spec : Canvas.Spec)
      (named : ∀ e ∈ spec.elements, ∀ name ∈ Placeholder.names e.content,
        Catalog.standard.contains name = true ∧ ∃ value, Assoc.get? name values = some value) :
      IsSupplied template office values (.canvas spec [])

theorem Mapping.find_of_target? {mapping : Mapping} {values : FieldValues} {p key value : String}
    (mapped : mapping.target? p = some key) (found : Assoc.get? key values = some value)
    (direct : Bool) : mapping.find values direct p = .ok value := by
  simp only [find, mapped, FieldValues.find, found]

theorem Mapping.settle {mapping : Mapping} {values : FieldValues} {placeholders : List String}
    (mapped : ∀ p ∈ placeholders, ∃ key value, mapping.target? p = some key ∧
      Catalog.standard.contains key = true ∧ Assoc.get? key values = some value)
    {lookup : Deck.Lookup} (same : ∀ p ∈ placeholders, lookup p = mapping.find values false p) :
    Deck.Settle (fun failure => ∃ d, failure = .defect d) lookup (mapping.find values false)
      placeholders := by
  refine ⟨same, ?_, fun d => ⟨d, rfl⟩⟩
  intro p member e missing
  obtain ⟨key, value, toKey, -, valued⟩ := mapped p member
  rw [same p member, Mapping.find_of_target? toKey valued false] at missing
  cases missing

theorem Mapping.find_direct {values : FieldValues} {name value : String}
    (filled : name.isEmpty = false) (found : Assoc.get? name values = some value) :
    Mapping.find [] values true name = .ok value := by
  have unmapped : Mapping.target? [] name = none := rfl
  simp only [find, unmapped, filled, Bool.not_false, Bool.and_self, if_true, FieldValues.find, found]

theorem Placeholder.isEmpty_of_mem_names {name text : String} (named : name ∈ names text) :
    name.isEmpty = false := by
  have nonempty := (mem_names_iff.1 named).1.nonempty
  cases empty : name.isEmpty with
  | false => rfl
  | true =>
      rw [String.isEmpty_iff.1 empty] at nonempty
      exact absurd rfl nonempty

theorem Template.isSome_target? {t : Template} (ready : t.requireReady = .ok ()) {p : String}
    (noted : p ∈ t.placeholders) : (t.mapping.target? p).isSome = true := by
  unfold requireReady isReady missing Mapping.missing at ready
  split at ready
  · next none =>
      have mapped := List.filter_eq_nil_iff.1 (List.isEmpty_iff.1 none) p noted
      rw [Option.isNone_iff_eq_none] at mapped
      exact Option.isSome_iff_ne_none.2 mapped
  · cases ready

/-- A template that is intact and passes the check is supplied by values of all standard fields. -/
theorem isSupplied_of_isIntact {template : Template} {office : Office} (sound : office.vault.Sound)
    (intact : template.IsIntact office) (ready : template.requireReady = .ok ())
    {source : TemplateSource} (drawnFrom : template.source = .ok source) {values : FieldValues}
    (complete : ∀ key, Catalog.standard.contains key = true →
      ∃ value, Assoc.get? key values = some value) :
    source.IsSupplied template office values := by
  unfold Template.source TemplateSource.of at drawnFrom
  cases intact with
  | deck ref store fileName number kind contentRef counted located ingested within =>
      have known : TemplateKind.ofWord? TemplateKind.deck.word = some .deck := by decide
      rw [kind, known, contentRef] at drawnFrom
      cases drawnFrom
      have mapped : ∀ p ∈ template.placeholders, ∃ key value,
          template.mapping.target? p = some key ∧ Catalog.standard.contains key = true ∧
            Assoc.get? key values = some value := by
        intro p noted
        have target := Template.isSome_target? ready noted
        obtain ⟨key, toKey⟩ := Option.isSome_iff_exists.1 target
        have standard := within.contains toKey
        obtain ⟨value, found⟩ := complete key standard
        exact ⟨key, value, toKey, standard, found⟩
      refine .deck ref template.mapping ?_ mapped
      -- the file may be gone by now, but no other one can have come in its place
      intro content there
      obtain ⟨store', path, place, inside⟩ := (Storage.Vault.read_eq_ok_iff sound).1 there
      rw [located] at place
      obtain ⟨rfl, rfl⟩ := Prod.mk.inj (Option.some.inj place)
      obtain ⟨found, isDeck, noted⟩ := ingested content (Storage.Vault.fileAt_of_readAt inside)
      refine ⟨found, isDeck, noted, ?_⟩
      intro lookup same
      have settle := Mapping.settle mapped same
      rw [noted] at settle
      exact (Deck.agree_fill settle).same
  | canvas spec kind placeholders unmapped canvas standard =>
      have known : TemplateKind.ofWord? TemplateKind.canvas.word = some .canvas := by decide
      have filled : spec.toJson.isEmpty = false := rfl
      rw [kind, known, canvas, unmapped] at drawnFrom
      simp only [filled, Bool.false_eq_true, if_false] at drawnFrom
      cases parsed : Canvas.Spec.ofJson spec.toJson with
      | error fault =>
          rw [parsed] at drawnFrom
          cases drawnFrom
      | ok read =>
          rw [parsed] at drawnFrom
          cases drawnFrom
          refine .canvas read ?_
          -- what is read back of the stored canvas names what was checked when it was taken in
          intro e inside name named
          have referenced : name ∈ read.referencedFields :=
            Canvas.Spec.mem_referencedFields.2 ⟨e, inside, named⟩
          rw [Canvas.Spec.referencedFields_of_ofJson parsed] at referenced
          have isStandard := standard name referenced
          exact ⟨isStandard, complete name isStandard⟩

/-- With everything supplied, a drawing may fail, but not for want of that. -/
theorem not_isUnready_of_isSupplied {template : Template} {office : Office} {values : FieldValues}
    {source : TemplateSource} (supplied : source.IsSupplied template office values)
    (fonts : Canvas.FontShelf) {failure : Failure}
    (failed : source.draw office.vault.read fonts values = .error failure) :
    ¬failure.IsUnready := by
  cases supplied with
  | deck ref mapping asked mapped =>
      rcases TemplateSource.drawDeck_cases office.vault.read (some ref) mapping values with
        missing | ⟨r, content, same, there, opened⟩
      · rw [TemplateSource.draw, missing] at failed
        cases failed
        exact Failure.not_isUnready_error nofun nofun
      · cases same
        obtain ⟨found, isDeck, noted, -⟩ := asked content there
        rw [TemplateSource.draw, opened, isDeck] at failed
        have settle := Mapping.settle mapped (fun _ _ => rfl)
        rw [noted] at settle
        simp only at failed
        cases filling : found.fill (mapping.find values false) with
        | ok filled =>
            rw [filling] at failed
            cases failed
        | error other =>
            rw [filling] at failed
            cases failed
            obtain ⟨d, rfl⟩ := (Deck.agree_fill settle).fault failure filling
            exact Failure.not_isUnready_defect d
  | canvas spec named =>
      have known : ∀ name ∈ spec.referencedFields,
          ∃ value, Mapping.find [] values true name = .ok value := by
        intro name referenced
        obtain ⟨e, present, inText⟩ := Canvas.Spec.mem_referencedFields.1 referenced
        obtain ⟨-, value, found⟩ := named e present name inText
        exact ⟨value, Mapping.find_direct (Placeholder.isEmpty_of_mem_names inText) found⟩
      have painting := @Canvas.paintFault_of_paint
        ⟨office.vault.read, fonts, Mapping.find [] values true⟩ spec .fresh
        (Canvas.Easel.remembers_fresh fonts) failure
      apply Canvas.PaintFault.not_isUnready known (painting _)
      have painted : (Except.map (fun picture => (⟨.picture picture, "png"⟩ : Artifact))
          ((Canvas.paint ⟨office.vault.read, fonts, Mapping.find [] values true⟩ spec).perform
            .fresh).1) = .error failure := failed
      generalize ((Canvas.paint ⟨office.vault.read, fonts, Mapping.find [] values true⟩ spec).perform
        .fresh).1 = result at painted ⊢
      cases result with
      | ok picture => cases painted
      | error other =>
          cases painted
          rfl

namespace Batch

/-- No failure that is going to come from outside, in the place of a drawing, poses as one of
unreadiness. -/
def HasGenuineFailures (office : Office) : Prop :=
  ∀ entry ∈ office.disturbances, ∀ failure, entry.2 = .failure failure → ¬failure.IsUnready

/-- A turn may end in a setback for many reasons, but not for want of what is supplied. -/
theorem Turn.not_isUnready {commission : Commission} {turn : Turn} (sound : turn.office.Sound)
    (genuine : HasGenuineFailures turn.office) {template : Template}
    (supplied : ∀ codes, commission.source.IsSupplied template turn.office
      (valuesFor commission turn.candidate turn.office codes))
    {setback : Setback} (failed : turn.outcome commission = .setback setback) :
    ¬setback.failure.IsUnready := by
  have completed : Completed commission turn.candidate turn.office (turn.outcome commission)
    (turn.after commission) := Attempt.completed_complete sound
  rw [failed] at completed
  generalize turn.after commission = later at completed
  cases completed with
  | setback failure progress supply vault disturbances cause =>
      cases cause with
      | held => exact Failure.not_isUnready_error nofun nofun
      | exhausted => exact Failure.not_isUnready_error nofun nofun
      | undrawn => exact Failure.not_isUnready_defect _
      | unproduced codes failure fault =>
          cases fault with
          | late => exact Failure.not_isUnready_error nofun nofun
          | disturbed name failure pending => exact genuine _ pending failure rfl
          | undrawn failure drawing =>
              exact not_isUnready_of_isSupplied (supplied codes) _ drawing
          | unstored detail => exact Failure.not_isUnready_error nofun nofun

/-- In every office to which a history with the standard fields has led, a batch that passes its
check supplies every turn with all that its drawing looks up, whatever codes are drawn, and no
result is a failure for want of a value or for a wrong format. -/
theorem isSupplied_of_run {start : Office} (fresh : start.IsFresh) {history : List Step}
    (ordinary : ∀ step ∈ history, Step.IsOrdinary step)
    (standard : ∀ step ∈ history, Step.IsStandard step)
    (distinct : (start.through history).HasDistinctFolders)
    (genuine : HasGenuineFailures (start.through history)) {options : Options}
    (standardFields : options.catalog = .standard) {eventId templateId : Int}
    {request : Option (List Json)} {results : List Result} {later : Office}
    (done : (run options eventId templateId request).perform (start.through history) =
      (.ok results, later)) :
    (∀ result ∈ results, ∀ setback, result.outcome = .setback setback →
      ¬setback.failure.IsUnready) ∧
    ∃ template event source participants rejected,
      Opened options eventId templateId request (start.through history) template event source
        participants rejected ∧
      ∀ turn ∈ turns (options.commission template event source)
          ((start.through history).ledger.nextSerial event.id) participants (start.through history),
        ∀ codes, source.IsSupplied template turn.office
          (valuesFor (options.commission template event source) turn.candidate turn.office
            codes) := by
  have sound := (Office.advances_through ordinary fresh.sound).sound
  have intact := Office.isIntact_through fresh ordinary standard distinct
  generalize start.through history = office at *
  obtain ⟨template, event, source, participants, rejected, rows, opened, rfl, -, -⟩ :=
    effect_run sound done
  have known : template ∈ office.ledger.templates := List.mem_of_find?_eq_some opened.templateFound
  have sounds := sound_turns (options.commission template event source)
    (office.ledger.nextSerial event.id) participants sound
  have continues := (Office.continues_turns (options.commission template event source)
    (office.ledger.nextSerial event.id) participants sound).1
  have supplied : ∀ turn ∈ turns (options.commission template event source)
      (office.ledger.nextSerial event.id) participants office, ∀ codes,
        source.IsSupplied template turn.office
          (valuesFor (options.commission template event source) turn.candidate turn.office
            codes) := by
    intro turn member codes
    -- earlier turns have stored certificates, which lie elsewhere
    have still := (intact template known).of_spares (continues turn member).spares
    apply isSupplied_of_isIntact (sounds turn member).vault still opened.ready opened.drawnFrom
    intro key isStandard
    exact exists_valueFor standardFields turn.candidate turn.office codes
      (List.contains_iff_mem.1 isStandard)
  refine ⟨?_, template, event, source, participants, rejected, opened, supplied⟩
  intro result member setback failed
  rcases List.mem_append.1 member with ofTurn | ofRejected
  · obtain ⟨turn, present, rfl⟩ := List.mem_map.1 ofTurn
    apply Turn.not_isUnready (sounds turn present) _ (supplied turn present) failed
    intro entry pending
    exact genuine entry ((continues turn present).disturbances entry pending)
  · obtain ⟨id, -, rfl⟩ := (select_cases opened.selected).2 result ofRejected
    obtain ⟨e, refused, ineligible⟩ := outcome_rejection office.ledger event.id id
    rw [refused] at failed
    cases failed
    apply Failure.not_isUnready_error
    · rw [ineligible]
      nofun
    · rw [ineligible]
      nofun

end Batch

namespace Launch

/-- A deck with a placeholder that straddles two runs. -/
def badge : TemplateDraft :=
  ⟨some "Badge", some "flatDocument", none, some "badge.pptx",
    some (.deck ⟨[⟨[.textBox [[.run "I am \x7b\x7bparticipant" false, .run "_name\x7d\x7d" true]]],
      none⟩]⟩), .nothing, []⟩

def badgeHistory : List Step :=
  history ++ [.operation (.createTemplate .standard badge),
    .operation (.setMapping .standard 2 (.obj [("participant_name", .str "participant_name")]))]

def badgeResult : Batch.Result where
  participantId := 1
  participantName := some "Ada"
  outcome := .success ⟨1, ⟨"CERT-000000000001", "VERIFY-0000000000000001"⟩,
    "primary:certificates/1/1/CERT-000000000001.pptx", 1, false⟩

end Launch

theorem launch_isSupplied :
    ∃ later, (Batch.run Launch.options 1 2 none).perform
        (Launch.start.through Launch.badgeHistory) = (.ok [Launch.badgeResult], later) ∧
      ∃ template event source participants rejected,
        Batch.Opened Launch.options 1 2 none (Launch.start.through Launch.badgeHistory) template event
          source participants rejected ∧
        ∀ turn ∈ Batch.turns (Launch.options.commission template event source)
            ((Launch.start.through Launch.badgeHistory).ledger.nextSerial event.id) participants
            (Launch.start.through Launch.badgeHistory),
          ∀ codes, source.IsSupplied template turn.office
            (Batch.valuesFor (Launch.options.commission template event source) turn.candidate
              turn.office codes) := by
  have facts : ((Batch.run Launch.options 1 2 none).perform
        (Launch.start.through Launch.badgeHistory)).1 = .ok [Launch.badgeResult] ∧
      (Launch.start.through Launch.badgeHistory).uploads = 1 ∧
      (Launch.start.through Launch.badgeHistory).disturbances.isEmpty = true := by
    decide +kernel
  obtain ⟨reported, uploads, calm⟩ := facts
  obtain ⟨later, done⟩ := Work.exists_perform_eq reported
  have steps : ∀ step ∈ Launch.badgeHistory, Step.IsOrdinary step ∧ Step.IsStandard step := by
    intro step member
    simp only [Launch.badgeHistory, Launch.history, List.cons_append, List.nil_append,
      List.mem_cons, List.not_mem_nil, or_false] at member
    rcases member with rfl | rfl | rfl | rfl | rfl
    · exact ⟨Launch.isOrdinary_circumstances, trivial⟩
    · exact ⟨trivial, trivial⟩
    · exact ⟨trivial, rfl⟩
    · exact ⟨trivial, rfl⟩
    · exact ⟨trivial, rfl⟩
  have distinct : (Launch.start.through Launch.badgeHistory).HasDistinctFolders := by
    unfold Office.HasDistinctFolders
    rw [uploads]
    intro m first n second _
    obtain ⟨above, below⟩ := first
    obtain ⟨above', below'⟩ := second
    omega
  have genuine : Batch.HasGenuineFailures (Launch.start.through Launch.badgeHistory) := by
    intro entry pending
    rw [List.isEmpty_iff.1 calm] at pending
    cases pending
  have standardFields : Launch.options.catalog = .standard := rfl
  have supplied := Batch.isSupplied_of_run Launch.isFresh_start (fun step member =>
    (steps step member).1) (fun step member => (steps step member).2) distinct genuine standardFields
    done
  exact ⟨_, done, supplied.2⟩

end Issuance
