import Issuance.Template.Source
import Issuance.Proofs.Decks
/-!
Filling in a deck, against what was taken down when it was uploaded. It looks up the placeholders of
the deck, in their order, and nothing else; and it changes the texts of runs and nothing else, in
paragraphs with placeholders and in no others.
-/

namespace Issuance
namespace Deck

/-- A text that a deck can hold. -/
def IsWritable (s : String) : Prop := ∀ c ∈ s.toList, isExcluded c = false

instance (s : String) : Decidable (IsWritable s) :=
  List.decidableBAll (isExcluded · = false) s.toList

/-- A look-up that only gives what a deck can hold. -/
def Lookup.IsWritable (lookup : Lookup) : Prop :=
  ∀ name value, lookup name = .ok value → Deck.IsWritable value

/-- A deck as a file can hold it. -/
def IsDocument (deck : Deck) : Prop :=
  ∀ p ∈ deck.paragraphs, ∀ s ∈ runTexts p, IsWritable s

instance (deck : Deck) : Decidable deck.IsDocument :=
  inferInstanceAs (Decidable (∀ p ∈ deck.paragraphs, ∀ s ∈ runTexts p, IsWritable s))

/-- Looking up names one after the other, until one is not found. -/
def lookUpAll (lookup : Lookup) : List String → Except Failure Unit
  | [] => .ok ()
  | name :: rest => do
    let _ ← (lookup name).mapError Failure.error
    lookUpAll lookup rest

/-- Whether it was done, or how it failed. -/
def outcome {α : Type} (x : Except Failure α) : Except Failure Unit := x.map fun _ => ()

/-- The distinct names that a task looks up, each where it is first looked up: whatever is found
under them, the task comes to the same end as looking them up one after the other. -/
structure LooksUp {α : Type} (task : Lookup → Except Failure α) (names : List String) : Prop where
  nodup : names.Nodup
  outcome : ∀ lookup : Lookup, lookup.IsWritable → outcome (task lookup) = lookUpAll lookup names

section

variable {lookup : Lookup}

theorem lookUpAll_append (first second : List String) :
    lookUpAll lookup (first ++ second) =
      lookUpAll lookup first >>= fun _ => lookUpAll lookup second := by
  induction first with
  | nil => rfl
  | cons name rest ih =>
      rw [List.cons_append, lookUpAll, lookUpAll, ih]
      cases lookup name <;> rfl

theorem lookUpAll_eq_ok {names : List String}
    (found : ∀ name ∈ names, ∃ value, lookup name = .ok value) :
    lookUpAll lookup names = .ok () := by
  induction names with
  | nil => rfl
  | cons name rest ih =>
      obtain ⟨value, here⟩ := found name List.mem_cons_self
      rw [lookUpAll, here]
      exact ih fun other member => found other (List.mem_cons_of_mem _ member)

/-- The names before one that is not found may be looked up without end. -/
theorem lookUpAll_append_cons {before after : List String} {name : String} {e : Error}
    (found : ∀ other ∈ before, ∃ value, lookup other = .ok value) (missing : lookup name = .error e) :
    lookUpAll lookup (before ++ name :: after) = .error (.error e) := by
  rw [lookUpAll_append, lookUpAll_eq_ok found, lookUpAll, missing]
  rfl

/-- To look a name up again makes no difference. -/
theorem lookUpAll_distinctBeyond {seen names : List String}
    (found : ∀ name ∈ seen, ∃ value, lookup name = .ok value) :
    lookUpAll lookup (distinctBeyond id seen names) = lookUpAll lookup names := by
  induction names generalizing seen with
  | nil => rfl
  | cons name rest ih =>
      rw [distinctBeyond]
      by_cases known : id name ∈ seen
      · obtain ⟨value, here⟩ := found name known
        rw [if_pos known, ih found, lookUpAll, here]
        rfl
      · rw [if_neg known, lookUpAll, lookUpAll]
        cases here : lookup name with
        | error e => rfl
        | ok value =>
            have more : ∀ other ∈ id name :: seen, ∃ value, lookup other = .ok value := by
              intro other member
              rcases List.mem_cons.1 member with rfl | older
              · exact ⟨value, here⟩
              · exact found other older
            exact ih more

theorem lookUpAll_distinct (names : List String) :
    lookUpAll lookup (distinct names) = lookUpAll lookup names :=
  lookUpAll_distinctBeyond fun _ none => absurd none List.not_mem_nil

/-- Work that comes to the same end as looking up some names. -/
def Asks {α : Type} (lookup : Lookup) (names : List String) (x : Except Failure α) : Prop :=
  outcome x = lookUpAll lookup names

namespace Asks

variable {α β : Type} {names others : List String} {x : Except Failure α}

theorem ok (a : α) : Asks lookup [] (.ok a) := rfl

theorem bind {f : α → Except Failure β} (first : Asks lookup names x)
    (rest : ∀ a, x = .ok a → Asks lookup others (f a)) :
    Asks lookup (names ++ others) (x >>= f) := by
  unfold Asks at first ⊢
  rw [lookUpAll_append, ← first]
  cases x with
  | error failure => rfl
  | ok a => exact rest a rfl

/-- Work on what was found, which asks for nothing itself. -/
theorem andThen {f : α → Except Failure β} (first : Asks lookup names x)
    (rest : ∀ a, x = .ok a → Asks lookup [] (f a)) : Asks lookup names (x >>= f) := by
  have all := first.bind rest
  rwa [List.append_nil] at all

theorem mapM {f : β → Except Failure α} {namesOf : β → List String} {xs : List β}
    (each : ∀ b ∈ xs, Asks lookup (namesOf b) (f b)) :
    Asks lookup (xs.flatMap namesOf) (xs.mapM f) := by
  induction xs with
  | nil => exact ok []
  | cons b rest ih =>
      rw [List.mapM_cons, List.flatMap_cons]
      refine (each b List.mem_cons_self).bind fun a _ => ?_
      exact (ih fun other member => each other (List.mem_cons_of_mem _ member)).andThen
        fun as _ => ok (a :: as)

theorem exists_ok (asks : Asks lookup names x)
    (found : ∀ name ∈ names, ∃ value, lookup name = .ok value) : ∃ a, x = .ok a := by
  unfold Asks at asks
  rw [lookUpAll_eq_ok found] at asks
  cases x with
  | error failure => cases asks
  | ok a => exact ⟨a, rfl⟩

end Asks

theorem asks_fillSegments (pieces : List Placeholder.Segment) :
    Asks lookup (pieces.filterMap Placeholder.Segment.name?)
      ((Placeholder.fillSegments lookup pieces).mapError Failure.error) := by
  induction pieces with
  | nil => exact .ok []
  | cons piece rest ih =>
      unfold Asks at ih ⊢
      cases piece with
      | char c =>
          rw [List.filterMap_cons, Placeholder.fillSegments]
          change _ = lookUpAll lookup (rest.filterMap Placeholder.Segment.name?)
          rw [← ih]
          cases Placeholder.fillSegments lookup rest <;> rfl
      | token name =>
          rw [List.filterMap_cons, Placeholder.fillSegments]
          change _ = lookUpAll lookup (name :: rest.filterMap Placeholder.Segment.name?)
          rw [lookUpAll, ← ih]
          cases lookup name with
          | error e => rfl
          | ok value => cases Placeholder.fillSegments lookup rest <;> rfl

theorem asks_fill (s : String) :
    Asks lookup (Placeholder.names s) ((Placeholder.fill lookup s).mapError Failure.error) := by
  have asks := @asks_fillSegments lookup (Placeholder.segments s.toList)
  unfold Asks at asks ⊢
  unfold Placeholder.names Placeholder.fill Placeholder.fillWith
  rw [← asks]
  cases Placeholder.fillSegments lookup (Placeholder.segments s.toList) <;> rfl

/-- With the values of all its names, and with no others, a text is one that a deck can hold. -/
theorem isWritable_fill_iff {s filled : String} (clean : IsWritable s)
    (done : Placeholder.fill lookup s = .ok filled) :
    IsWritable filled ↔
      ∀ name ∈ Placeholder.names s, ∀ value, lookup name = .ok value → IsWritable value :=
  Placeholder.forall_mem_fill_iff clean done

theorem any_isExcluded_eq_false_iff {s : String} :
    s.toList.any isExcluded = false ↔ IsWritable s := by
  unfold IsWritable
  rw [List.any_eq_false]
  simp only [Bool.not_eq_true]

theorem asks_filledText (writable : lookup.IsWritable) {s : String} (clean : IsWritable s) :
    Asks lookup (Placeholder.names s) (filledText lookup s) := by
  unfold filledText
  refine (asks_fill s).andThen fun filled done => ?_
  cases found : Placeholder.fill lookup s with
  | error e =>
      rw [found] at done
      cases done
  | ok t =>
      rw [found] at done
      cases done
      have allowed := any_isExcluded_eq_false_iff.2 ((isWritable_fill_iff clean found).2
        fun name _ value known => writable name value known)
      unfold writtenText
      rw [allowed]
      exact Asks.ok _

theorem occursIn_eq_false_iff {s : String} :
    Placeholder.occursIn s = false ↔ Placeholder.names s = [] := by
  unfold Placeholder.occursIn
  rw [Bool.not_eq_false', List.isEmpty_iff]

theorem asks_fillRuns (writable : lookup.IsWritable) {p : Paragraph}
    (clean : ∀ s ∈ runTexts p, IsWritable s) :
    Asks lookup ((runTexts p).flatMap Placeholder.names) (fillRuns lookup p) := by
  induction p with
  | nil => exact .ok []
  | cons piece rest ih =>
      cases piece with
      | run s bold =>
          have here : s ∈ runTexts (.run s bold :: rest) := List.mem_cons_self
          have others := ih fun t member => clean t (List.mem_cons_of_mem _ member)
          have split : (runTexts (.run s bold :: rest)).flatMap Placeholder.names =
              Placeholder.names s ++ (runTexts rest).flatMap Placeholder.names := rfl
          rw [fillRuns, split]
          cases occurs : Placeholder.occursIn s with
          | true =>
              exact (asks_filledText writable (clean s here)).bind fun t _ =>
                others.andThen fun filled _ => .ok _
          | false =>
              rw [occursIn_eq_false_iff.1 occurs]
              exact (Asks.ok s).bind fun t _ => others.andThen fun filled _ => .ok _
      | lineBreak => exact (ih clean).andThen fun filled _ => .ok _
      | field t => exact (ih clean).andThen fun filled _ => .ok _

/-- If no token straddles two runs, the names in the runs are those in their joined text. -/
theorem names_of_isRunwise {p : Paragraph} (runwise : isRunwise p = true) :
    (runTexts p).flatMap Placeholder.names = Placeholder.names (text p) :=
  (Placeholder.sublist_names_join (runTexts p)).eq_of_length (eq_of_beq runwise)

/-- What holds of all characters of the runs holds of those of their joined text. -/
theorem forall_mem_text {P : Char → Prop} {p : Paragraph}
    (clean : ∀ s ∈ runTexts p, ∀ c ∈ s.toList, P c) : ∀ c ∈ (text p).toList, P c := by
  intro c member
  rw [text, String.toList_join] at member
  obtain ⟨s, present, inside⟩ := List.mem_flatMap.1 member
  exact clean s present c inside

/-- A paragraph asks for the names in its joined text, one after the other. -/
theorem asks_fillParagraph (writable : lookup.IsWritable) {p : Paragraph}
    (clean : ∀ s ∈ runTexts p, IsWritable s) :
    Asks lookup (Placeholder.names (text p)) (fillParagraph lookup p) := by
  unfold fillParagraph
  cases occurs : Placeholder.occursIn (text p) with
  | false =>
      rw [occursIn_eq_false_iff.1 occurs]
      exact .ok p
  | true =>
      cases runwise : isRunwise p with
      | true =>
          rw [← names_of_isRunwise runwise]
          exact asks_fillRuns writable clean
      | false =>
          exact (asks_filledText writable (forall_mem_text clean)).andThen fun filled _ => .ok _

/-- The names in a paragraph. -/
abbrev namesOf (p : Paragraph) : List String := Placeholder.names (text p)

theorem outcome_map {α β : Type} (f : α → β) (x : Except Failure α) :
    outcome (x.map f) = outcome x := by
  cases x <;> rfl

theorem outcome_bind {α β γ δ : Type} {x : Except Failure α} {y : Except Failure β}
    {f : α → Except Failure γ} {g : β → Except Failure δ} (same : outcome x = outcome y)
    (rest : ∀ a b, outcome (f a) = outcome (g b)) : outcome (x >>= f) = outcome (y >>= g) := by
  cases x with
  | error failure =>
      cases y with
      | error other =>
          cases same
          rfl
      | ok b => cases same
  | ok a =>
      cases y with
      | error other => cases same
      | ok b => exact rest a b

/-- Of lists within a list, one may as well go through all their elements one after the other. -/
theorem outcome_mapM_flatMap {α β γ δ : Type} {f : γ → Except Failure δ}
    {g : α → Except Failure β} {parts : α → List γ} {xs : List α}
    (each : ∀ x ∈ xs, outcome (g x) = outcome ((parts x).mapM f)) :
    outcome (xs.mapM g) = outcome ((xs.flatMap parts).mapM f) := by
  induction xs with
  | nil => rfl
  | cons x rest ih =>
      rw [List.mapM_cons, List.flatMap_cons, List.mapM_append]
      refine outcome_bind (each x List.mem_cons_self) fun _ _ => ?_
      exact outcome_bind (ih fun other member => each other (List.mem_cons_of_mem _ member))
        fun _ _ => rfl

mutual

theorem outcome_fillShape (shape : Shape) :
    outcome (fillShape lookup shape) =
      outcome (shape.paragraphs.mapM (fillParagraph lookup)) := by
  cases shape with
  | textBox ps => rw [fillShape, outcome_map, Shape.paragraphs]
  | rectangle ps => rw [fillShape, outcome_map, Shape.paragraphs]
  | table rows =>
      rw [fillShape, outcome_map, Shape.paragraphs]
      exact outcome_mapM_flatMap fun row _ => outcome_mapM_flatMap fun cell _ => rfl
  | group shapes =>
      rw [fillShape, outcome_map, Shape.paragraphs]
      exact outcome_fillShapes shapes
  | picture => rfl
  | connector => rfl

theorem outcome_fillShapes (shapes : List Shape) :
    outcome (fillShapes lookup shapes) =
      outcome ((paragraphsOf shapes).mapM (fillParagraph lookup)) := by
  cases shapes with
  | nil => rfl
  | cons shape rest =>
      rw [fillShapes, paragraphsOf, List.mapM_append]
      refine outcome_bind (outcome_fillShape shape) fun _ _ => ?_
      exact outcome_bind (outcome_fillShapes rest) fun _ _ => rfl

end

/-- Filling in a deck ends as filling in its paragraphs does, one after the other. -/
theorem outcome_fill (deck : Deck) :
    outcome (deck.fill lookup) = outcome (deck.paragraphs.mapM (fillParagraph lookup)) := by
  unfold fill
  rw [outcome_map]
  refine outcome_mapM_flatMap fun slide _ => ?_
  unfold fillSlide
  rw [outcome_map]
  exact outcome_fillShapes slide.shapes

theorem asks_deck (writable : lookup.IsWritable) {deck : Deck} (document : deck.IsDocument) :
    Asks lookup deck.placeholders (deck.fill lookup) := by
  have asked : Asks lookup (deck.paragraphs.flatMap namesOf)
      (deck.paragraphs.mapM (fillParagraph lookup)) :=
    Asks.mapM fun p member => asks_fillParagraph writable (document p member)
  unfold Asks at asked ⊢
  rw [outcome_fill, asked, placeholders, Placeholder.extract, lookUpAll_distinct, List.flatMap_map]

end

/-- The look-up that answers some names with nothing and reports any other one. -/
private def answering (known : List String) : Lookup :=
  fun name => if name ∈ known then .ok "" else .error (.missingFieldValue name)

private theorem isWritable_answering (known : List String) : (answering known).IsWritable := by
  intro name value found c member
  unfold answering at found
  split at found
  · cases found
    cases member
  · cases found

private theorem lookUpAll_answering {known rest : List String} (apart : (known ++ rest).Nodup) :
    lookUpAll (answering known) (known ++ rest) =
      match rest.head? with
      | none => .ok ()
      | some name => .error (.error (.missingFieldValue name)) := by
  have answered : ∀ name ∈ known, ∃ value, answering known name = .ok value :=
    fun name member => ⟨"", if_pos member⟩
  cases rest with
  | nil =>
      rw [List.append_nil]
      exact lookUpAll_eq_ok answered
  | cons name rest =>
      refine lookUpAll_append_cons answered (if_neg fun member => ?_)
      exact (List.nodup_append.1 apart).2.2 name member name List.mem_cons_self rfl

/-- Of two lists that begin alike and are looked up to the same end, the second goes on as the first
does: otherwise a look-up that answers only the common beginning tells them apart. -/
private theorem eq_of_lookUpAll_eq {before first second : List String}
    (apart : (before ++ first).Nodup) (apart' : (before ++ second).Nodup)
    (same : ∀ lookup : Lookup, lookup.IsWritable →
      lookUpAll lookup (before ++ first) = lookUpAll lookup (before ++ second)) :
    first = second := by
  induction first generalizing before second with
  | nil =>
      have outcome := same _ (isWritable_answering before)
      rw [lookUpAll_answering apart, lookUpAll_answering apart'] at outcome
      cases second with
      | nil => rfl
      | cons name rest => cases outcome
  | cons name rest ih =>
      have outcome := same _ (isWritable_answering before)
      rw [lookUpAll_answering apart, lookUpAll_answering apart'] at outcome
      cases second with
      | nil => cases outcome
      | cons other others =>
          cases outcome
          rw [List.append_cons] at apart apart'
          refine congrArg (name :: ·) (ih apart apart' fun lookup writable => ?_)
          rw [← List.append_cons, ← List.append_cons]
          exact same lookup writable

/-- What a task looks up, in which order, is seen from outside. -/
theorem LooksUp.unique {α : Type} {task : Lookup → Except Failure α} {names others : List String}
    (looksUp : LooksUp task names) (looksUp' : LooksUp task others) : names = others := by
  refine @eq_of_lookUpAll_eq [] _ _ looksUp.nodup looksUp'.nodup fun lookup writable => ?_
  exact (looksUp.outcome lookup writable).symm.trans (looksUp'.outcome lookup writable)

theorem looksUp_fill {deck : Deck} (document : deck.IsDocument) :
    LooksUp (fun lookup => deck.fill lookup) deck.placeholders where
  nodup := nodup_distinct _
  outcome := fun _ writable => asks_deck writable document

mutual

/-- A shape with its paragraphs replaced, each in its place. -/
def Shape.mapParagraphs (replace : Paragraph → Paragraph) : Shape → Shape
  | .textBox ps => .textBox (ps.map replace)
  | .rectangle ps => .rectangle (ps.map replace)
  | .table rows => .table (rows.map fun row => row.map fun cell => cell.map replace)
  | .group shapes => .group (mapShapes replace shapes)
  | .picture => .picture
  | .connector => .connector

def mapShapes (replace : Paragraph → Paragraph) : List Shape → List Shape
  | [] => []
  | shape :: rest => shape.mapParagraphs replace :: mapShapes replace rest

end

def mapParagraphs (replace : Paragraph → Paragraph) (deck : Deck) : Deck :=
  ⟨deck.slides.map fun slide => { slide with shapes := mapShapes replace slide.shapes }⟩

/-- A deck without the texts of its runs: slides with their notes, shapes and how they are nested,
tables cell by cell, paragraphs, runs with their formatting, breaks and fields. -/
def outline (deck : Deck) : Deck := deck.mapParagraphs emptyRuns

mutual

theorem mapParagraphs_congr {f g h : Paragraph → Paragraph} (shape : Shape)
    (same : ∀ p ∈ shape.paragraphs, g (f p) = h p) :
    (shape.mapParagraphs f).mapParagraphs g = shape.mapParagraphs h := by
  cases shape with
  | textBox ps =>
      simp only [Shape.mapParagraphs, List.map_map]
      exact congrArg Shape.textBox (List.map_congr_left same)
  | rectangle ps =>
      simp only [Shape.mapParagraphs, List.map_map]
      exact congrArg Shape.rectangle (List.map_congr_left same)
  | table rows =>
      simp only [Shape.mapParagraphs, List.map_map]
      refine congrArg Shape.table (List.map_congr_left fun row inTable => ?_)
      simp only [Function.comp_apply, List.map_map]
      refine List.map_congr_left fun cell inRow => ?_
      simp only [Function.comp_apply, List.map_map]
      refine List.map_congr_left fun p inCell => same p ?_
      exact List.mem_flatMap.2 ⟨row, inTable, List.mem_flatMap.2 ⟨cell, inRow, inCell⟩⟩
  | group shapes =>
      simp only [Shape.mapParagraphs]
      rw [mapShapes_congr shapes same]
  | picture => rfl
  | connector => rfl

theorem mapShapes_congr {f g h : Paragraph → Paragraph} (shapes : List Shape)
    (same : ∀ p ∈ paragraphsOf shapes, g (f p) = h p) :
    mapShapes g (mapShapes f shapes) = mapShapes h shapes := by
  cases shapes with
  | nil => rfl
  | cons shape rest =>
      simp only [mapShapes]
      rw [mapParagraphs_congr shape fun p member => same p (List.mem_append_left _ member),
        mapShapes_congr rest fun p member => same p (List.mem_append_right _ member)]

end

theorem outline_mapParagraphs {deck : Deck} {replace : Paragraph → Paragraph}
    (same : ∀ p ∈ deck.paragraphs, emptyRuns (replace p) = emptyRuns p) :
    (deck.mapParagraphs replace).outline = deck.outline := by
  unfold outline mapParagraphs
  rw [List.map_map]
  refine congrArg Deck.mk (List.map_congr_left fun slide inDeck => ?_)
  simp only [Function.comp_apply]
  rw [mapShapes_congr slide.shapes fun p inSlide =>
    same p (List.mem_flatMap.2 ⟨slide, inDeck, inSlide⟩)]

theorem mapM_eq_ok {α β ε : Type} {f : α → Except ε β} {g : α → β} {xs : List α}
    (each : ∀ x ∈ xs, f x = .ok (g x)) : xs.mapM f = .ok (xs.map g) := by
  induction xs with
  | nil => rfl
  | cons x rest ih =>
      rw [List.mapM_cons, each x List.mem_cons_self,
        ih fun other member => each other (List.mem_cons_of_mem _ member)]
      rfl

section

variable {lookup : Lookup} {replace : Paragraph → Paragraph}

mutual

theorem fillShape_eq_ok (shape : Shape)
    (filled : ∀ p ∈ shape.paragraphs, fillParagraph lookup p = .ok (replace p)) :
    fillShape lookup shape = .ok (shape.mapParagraphs replace) := by
  cases shape with
  | textBox ps =>
      have done : ps.mapM (fillParagraph lookup) = .ok (ps.map replace) := mapM_eq_ok filled
      rw [fillShape, done]
      rfl
  | rectangle ps =>
      have done : ps.mapM (fillParagraph lookup) = .ok (ps.map replace) := mapM_eq_ok filled
      rw [fillShape, done]
      rfl
  | table rows =>
      have done : (rows.mapM fun row => row.mapM fun cell => cell.mapM (fillParagraph lookup)) =
          .ok (rows.map fun row => row.map fun cell => cell.map replace) := by
        refine mapM_eq_ok fun row inTable => mapM_eq_ok fun cell inRow =>
          mapM_eq_ok fun p inCell => filled p ?_
        exact List.mem_flatMap.2 ⟨row, inTable, List.mem_flatMap.2 ⟨cell, inRow, inCell⟩⟩
      rw [fillShape, done]
      rfl
  | group shapes =>
      rw [fillShape, fillShapes_eq_ok shapes filled]
      rfl
  | picture => rfl
  | connector => rfl

theorem fillShapes_eq_ok (shapes : List Shape)
    (filled : ∀ p ∈ paragraphsOf shapes, fillParagraph lookup p = .ok (replace p)) :
    fillShapes lookup shapes = .ok (mapShapes replace shapes) := by
  cases shapes with
  | nil => rfl
  | cons shape rest =>
      rw [fillShapes, fillShape_eq_ok shape fun p member =>
          filled p (List.mem_append_left _ member),
        fillShapes_eq_ok rest fun p member => filled p (List.mem_append_right _ member)]
      rfl

end

theorem fill_eq_ok {deck : Deck}
    (filled : ∀ p ∈ deck.paragraphs, fillParagraph lookup p = .ok (replace p)) :
    deck.fill lookup = .ok (deck.mapParagraphs replace) := by
  have slides : deck.slides.mapM (fillSlide lookup) =
      .ok (deck.slides.map fun slide => { slide with shapes := mapShapes replace slide.shapes }) := by
    refine mapM_eq_ok fun slide inDeck => ?_
    unfold fillSlide
    rw [fillShapes_eq_ok slide.shapes fun p inSlide =>
      filled p (List.mem_flatMap.2 ⟨slide, inDeck, inSlide⟩)]
    rfl
  unfold fill
  rw [slides]
  rfl

theorem emptyRuns_fillRuns {p q : Paragraph} (done : fillRuns lookup p = .ok q) :
    emptyRuns q = emptyRuns p := by
  induction p generalizing q with
  | nil =>
      cases done
      rfl
  | cons piece rest ih =>
      cases piece with
      | run s bold =>
          have filled : ∃ t others, fillRuns lookup rest = .ok others ∧
              q = .run t bold :: others := by
            rw [fillRuns] at done
            split at done
            · obtain ⟨t, -, done⟩ := bind_eq_ok_iff.1 done
              obtain ⟨others, remaining, done⟩ := bind_eq_ok_iff.1 done
              exact ⟨t, others, remaining, (Except.ok.inj done).symm⟩
            · obtain ⟨t, -, done⟩ := bind_eq_ok_iff.1 done
              obtain ⟨others, remaining, done⟩ := bind_eq_ok_iff.1 done
              exact ⟨t, others, remaining, (Except.ok.inj done).symm⟩
          obtain ⟨t, others, remaining, rfl⟩ := filled
          exact congrArg (Inline.run "" bold :: ·) (ih remaining)
      | lineBreak =>
          obtain ⟨others, remaining, done⟩ := bind_eq_ok_iff.1 done
          cases done
          exact congrArg (Inline.lineBreak :: ·) (ih remaining)
      | field t =>
          obtain ⟨others, remaining, done⟩ := bind_eq_ok_iff.1 done
          cases done
          exact congrArg (Inline.field t :: ·) (ih remaining)

theorem emptyRuns_emptyRuns (p : Paragraph) : emptyRuns (emptyRuns p) = emptyRuns p := by
  unfold emptyRuns
  rw [List.map_map]
  refine List.map_congr_left fun piece _ => ?_
  cases piece <;> rfl

theorem emptyRuns_gatherRuns (s : String) (p : Paragraph) :
    emptyRuns (gatherRuns s p) = emptyRuns p := by
  induction p with
  | nil => rfl
  | cons piece rest ih =>
      cases piece with
      | run t bold => exact congrArg (Inline.run "" bold :: ·) (emptyRuns_emptyRuns rest)
      | lineBreak => exact congrArg (Inline.lineBreak :: ·) ih
      | field t => exact congrArg (Inline.field t :: ·) ih

/-- Filling in a paragraph changes the texts of its runs only. -/
theorem emptyRuns_fillParagraph {p q : Paragraph} (done : fillParagraph lookup p = .ok q) :
    emptyRuns q = emptyRuns p := by
  unfold fillParagraph at done
  split at done
  · cases done
    rfl
  · split at done
    · exact emptyRuns_fillRuns done
    · obtain ⟨filled, -, done⟩ := bind_eq_ok_iff.1 done
      cases done
      exact emptyRuns_gatherRuns filled p

end

/-- A paragraph as it is filled in, or as it was if that fails. -/
def filledParagraph (lookup : Lookup) (p : Paragraph) : Paragraph :=
  match fillParagraph lookup p with
  | .ok q => q
  | .error _ => p

end Deck

theorem FieldValues.mem_of_find {values : FieldValues} {key value : String}
    (found : values.find key = .ok value) : (key, value) ∈ values := by
  unfold find at found
  split at found
  · next other here =>
      cases found
      exact Assoc.mem_of_get? here
  · cases found

theorem Mapping.exists_mem_of_find {mapping : Mapping} {values : FieldValues} {direct : Bool}
    {placeholder value : String} (found : mapping.find values direct placeholder = .ok value) :
    ∃ key, (key, value) ∈ values := by
  unfold find at found
  split at found
  · exact ⟨_, FieldValues.mem_of_find found⟩
  · split at found
    · exact ⟨_, FieldValues.mem_of_find found⟩
    · cases found

/-- Taking in a deck and drawing from it read the same document. The names that filling in looks up
are the placeholders that were taken down, in the same order; and with values that a deck can hold
for all of them, what is drawn is the deck with each paragraph in its place, of which only the texts
of runs may differ, and these only in paragraphs with placeholders. -/
theorem drawing_reads_what_is_taken_in {deck : Deck} (document : deck.IsDocument) :
    ingestDeck (some (.deck deck)) = .ok deck.placeholders ∧
      (∀ names, Deck.LooksUp (fun lookup => deck.fill lookup) names ↔ names = deck.placeholders) ∧
      ∀ (read : String → Except IoFault Content) (ref : String) (mapping : Mapping)
        (values : FieldValues), ref.isEmpty = false → read ref = .ok (.deck deck) →
        (∀ entry ∈ values, Deck.IsWritable entry.2) →
        (∀ p ∈ deck.placeholders, ∃ value, mapping.find values false p = .ok value) →
        ∃ replace : Deck.Paragraph → Deck.Paragraph,
          deck.fill (mapping.find values false) = .ok (deck.mapParagraphs replace) ∧
          TemplateSource.drawDeck read (some ref) mapping values =
            .ok ⟨.deck (deck.mapParagraphs replace), "pptx"⟩ ∧
          (deck.mapParagraphs replace).outline = deck.outline ∧
          ∀ p ∈ deck.paragraphs, Deck.emptyRuns (replace p) = Deck.emptyRuns p ∧
            (Placeholder.occursIn (Deck.text p) = false → replace p = p) := by
  refine ⟨rfl, ?_, ?_⟩
  · intro names
    constructor
    · exact fun looksUp => looksUp.unique (Deck.looksUp_fill document)
    · rintro rfl
      exact Deck.looksUp_fill document
  · intro read ref mapping values filled there clean answered
    have writable : Deck.Lookup.IsWritable (mapping.find values false) := by
      intro name value found
      obtain ⟨key, member⟩ := Mapping.exists_mem_of_find found
      exact clean _ member
    have each : ∀ p ∈ deck.paragraphs, Deck.fillParagraph (mapping.find values false) p =
        .ok (Deck.filledParagraph (mapping.find values false) p) := by
      intro p member
      obtain ⟨q, done⟩ := (Deck.asks_fillParagraph writable (document p member)).exists_ok
        fun name named => answered name
          (Placeholder.mem_extract.2 ⟨Deck.text p, List.mem_map_of_mem member, named⟩)
      unfold Deck.filledParagraph
      rw [done]
    have done := Deck.fill_eq_ok each
    refine ⟨Deck.filledParagraph (mapping.find values false), done, ?_,
      Deck.outline_mapParagraphs fun p member => Deck.emptyRuns_fillParagraph (each p member), ?_⟩
    · unfold TemplateSource.drawDeck
      simp only [filled, there]
      change (deck.fill (mapping.find values false)).bind _ = _
      rw [done]
      rfl
    · intro p member
      refine ⟨Deck.emptyRuns_fillParagraph (each p member), ?_⟩
      intro plain
      have same := each p member
      unfold Deck.fillParagraph at same
      rw [plain] at same
      exact (Except.ok.inj same).symm

/-- A slide with a token that straddles two runs within a group, and two in a table, one of them
known already. -/
def attendanceSlide : Deck :=
  ⟨[⟨[.group [.picture, .textBox [[.run "I am \x7b\x7bparticipant" false, .lineBreak,
        .run "_name\x7d\x7d" true]]],
      .table [[[[.run "No \x7b\x7bserial_number\x7d\x7d" false]],
        [[.run "of \x7b\x7bparticipant_name\x7d\x7d" false], [.run "as ever" true]]]]],
    some "Hold for the applause"⟩]⟩

theorem attendanceSlide_reads_what_is_taken_in :
    ingestDeck (some (.deck attendanceSlide)) = .ok ["participant_name", "serial_number"] ∧
      ∃ replace : Deck.Paragraph → Deck.Paragraph,
        TemplateSource.drawDeck (fun _ => .ok (.deck attendanceSlide)) (some "slide.pptx")
            [("participant_name", some "name"), ("serial_number", some "serial")]
            [("serial", "7"), ("name", "Ada")] =
          .ok ⟨.deck (attendanceSlide.mapParagraphs replace), "pptx"⟩ ∧
        (attendanceSlide.mapParagraphs replace).outline = attendanceSlide.outline ∧
        replace [.run "as ever" true] = [.run "as ever" true] := by
  have document : attendanceSlide.IsDocument := by decide +kernel
  have listed : attendanceSlide.placeholders = ["participant_name", "serial_number"] := by
    decide +kernel
  obtain ⟨taken, -, drawn⟩ := drawing_reads_what_is_taken_in document
  have found : ∀ p ∈ attendanceSlide.placeholders, ∃ value,
      Mapping.find [("participant_name", some "name"), ("serial_number", some "serial")]
        [("serial", "7"), ("name", "Ada")] false p = .ok value := by
    rw [listed]
    intro p member
    simp only [List.mem_cons, List.not_mem_nil, or_false] at member
    rcases member with rfl | rfl
    · exact ⟨"Ada", by rfl⟩
    · exact ⟨"7", by rfl⟩
  obtain ⟨replace, -, done, outline, each⟩ := drawn (fun _ => .ok (.deck attendanceSlide))
    "slide.pptx" [("participant_name", some "name"), ("serial_number", some "serial")]
    [("serial", "7"), ("name", "Ada")] (by decide +kernel) rfl (by decide +kernel) found
  refine ⟨listed ▸ taken, replace, done, outline, ?_⟩
  exact (each _ (by decide +kernel)).2 (by decide +kernel)

end Issuance
