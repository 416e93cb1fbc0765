import Issuance.Deck.Fill
import Issuance.Template.Ingest
import Issuance.Proofs.Placeholders
/-!
What filling in a deck asks for: the names that are extracted from it and no others, whether or not
its tokens straddle runs. Filling in fails as the look-up of one of these does, or by a defect.
-/

namespace Issuance
namespace Deck

/-- Two results that are the same, and fail only as they may. -/
structure Agree {α : Type} (Fault : Failure → Prop) (x y : Except Failure α) : Prop where
  same : x = y
  fault : ∀ failure, x = .error failure → Fault failure

variable {Fault : Failure → Prop}

namespace Agree

variable {α β : Type}

theorem ok (a : α) : Agree Fault (.ok a) (.ok a) :=
  ⟨rfl, fun _ impossible => nomatch impossible⟩

theorem bind {x y : Except Failure α} {f g : α → Except Failure β} (first : Agree Fault x y)
    (rest : ∀ a, Agree Fault (f a) (g a)) : Agree Fault (x >>= f) (y >>= g) := by
  obtain ⟨rfl, fault⟩ := first
  cases x with
  | error failure =>
      refine ⟨rfl, ?_⟩
      intro other failed
      cases failed
      exact fault failure rfl
  | ok a => exact rest a

theorem map {x y : Except Failure α} (f : α → β) (agree : Agree Fault x y) :
    Agree Fault (x.map f) (y.map f) := by
  obtain ⟨rfl, fault⟩ := agree
  refine ⟨rfl, ?_⟩
  cases x with
  | error failure =>
      intro other failed
      cases failed
      exact fault failure rfl
  | ok a => exact (ok (f a)).fault

theorem mapM {f g : α → Except Failure β} {xs : List α}
    (each : ∀ x ∈ xs, Agree Fault (f x) (g x)) : Agree Fault (xs.mapM f) (xs.mapM g) := by
  induction xs with
  | nil => exact ok []
  | cons x rest ih =>
      rw [List.mapM_cons, List.mapM_cons]
      refine (each x List.mem_cons_self).bind fun b => ?_
      refine (ih fun other member => each other (List.mem_cons_of_mem _ member)).bind fun bs => ?_
      exact ok (b :: bs)

end Agree

/-- Two look-ups that give the same for some names. What may fail is a look-up of one of these, and
whatever is a defect. -/
structure Settle (Fault : Failure → Prop) (lookup lookup' : Lookup) (names : List String) :
    Prop where
  same : ∀ name ∈ names, lookup name = lookup' name
  missing : ∀ name ∈ names, ∀ e, lookup name = .error e → Fault (.error e)
  defect : ∀ d, Fault (.defect d)

theorem Settle.subset {lookup lookup' : Lookup} {names more : List String}
    (settle : Settle Fault lookup lookup' more) (fewer : names ⊆ more) :
    Settle Fault lookup lookup' names where
  same := fun name member => settle.same name (fewer member)
  missing := fun name member => settle.missing name (fewer member)
  defect := settle.defect

variable {lookup lookup' : Lookup}

theorem agree_filledText {s : String}
    (settle : Settle Fault lookup lookup' (Placeholder.names s)) :
    Agree Fault (filledText lookup s) (filledText lookup' s) := by
  unfold filledText
  rw [← Placeholder.fill_congr settle.same]
  refine ⟨rfl, ?_⟩
  intro failure failed
  cases filling : Placeholder.fill lookup s with
  | error e =>
      rw [filling] at failed
      cases failed
      obtain ⟨name, named, missing⟩ := Placeholder.exists_of_fill_error filling
      exact settle.missing name named e missing
  | ok filled =>
      rw [filling] at failed
      change (writtenText filled).mapError Failure.defect = .error failure at failed
      cases written : writtenText filled with
      | error d =>
          rw [written] at failed
          cases failed
          exact settle.defect d
      | ok t =>
          rw [written] at failed
          cases failed

theorem agree_fillRuns {p : Paragraph}
    (settle : ∀ s ∈ runTexts p, Settle Fault lookup lookup' (Placeholder.names s)) :
    Agree Fault (fillRuns lookup p) (fillRuns lookup' p) := by
  induction p with
  | nil => exact .ok []
  | cons piece rest ih =>
      cases piece with
      | run s bold =>
          have here : s ∈ runTexts (.run s bold :: rest) := List.mem_cons_self
          have others := ih fun t member => settle t (List.mem_cons_of_mem _ member)
          rw [fillRuns, fillRuns]
          split
          · exact (agree_filledText (settle s here)).bind fun t => others.bind fun filled => .ok _
          · exact (Agree.ok s).bind fun t => others.bind fun filled => .ok _
      | lineBreak =>
          rw [fillRuns, fillRuns]
          · exact (ih settle).bind fun filled => .ok _
          · intro s bold impossible
            cases impossible
          · intro s bold impossible
            cases impossible
      | field t =>
          rw [fillRuns, fillRuns]
          · exact (ih settle).bind fun filled => .ok _
          · intro s bold impossible
            cases impossible
          · intro s bold impossible
            cases impossible

/-- A run is a piece of the text that its paragraph makes. -/
theorem names_run_subset {p : Paragraph} {s : String} (member : s ∈ runTexts p) :
    Placeholder.names s ⊆ Placeholder.names (text p) := by
  obtain ⟨front, back, whole⟩ := List.append_of_mem member
  have joined : (text p).toList =
      front.flatMap String.toList ++ s.toList ++ back.flatMap String.toList := by
    rw [text, String.toList_join, whole, List.flatMap_append, List.flatMap_cons, List.append_assoc]
  exact Placeholder.names_subset_of_infix joined

theorem agree_fillParagraph {p : Paragraph}
    (settle : Settle Fault lookup lookup' (Placeholder.names (text p))) :
    Agree Fault (fillParagraph lookup p) (fillParagraph lookup' p) := by
  unfold fillParagraph
  split
  · exact .ok p
  · split
    · exact agree_fillRuns fun s member => settle.subset (names_run_subset member)
    · exact (agree_filledText settle).bind fun filled => .ok _

mutual

theorem agree_fillShape (shape : Shape)
    (settle : ∀ p ∈ shape.paragraphs, Settle Fault lookup lookup' (Placeholder.names (text p))) :
    Agree Fault (fillShape lookup shape) (fillShape lookup' shape) := by
  cases shape with
  | textBox ps =>
      rw [fillShape, fillShape]
      exact (Agree.mapM fun p member => agree_fillParagraph (settle p member)).map _
  | rectangle ps =>
      rw [fillShape, fillShape]
      exact (Agree.mapM fun p member => agree_fillParagraph (settle p member)).map _
  | table rows =>
      rw [fillShape, fillShape]
      refine (Agree.mapM fun row inTable => Agree.mapM fun cell inRow =>
        Agree.mapM fun p inCell => agree_fillParagraph (settle p ?_)).map _
      exact List.mem_flatMap.2 ⟨row, inTable, List.mem_flatMap.2 ⟨cell, inRow, inCell⟩⟩
  | group shapes =>
      rw [fillShape, fillShape]
      exact (agree_fillShapes shapes settle).map _
  | picture => exact .ok _
  | connector => exact .ok _

theorem agree_fillShapes (shapes : List Shape)
    (settle : ∀ p ∈ paragraphsOf shapes, Settle Fault lookup lookup' (Placeholder.names (text p))) :
    Agree Fault (fillShapes lookup shapes) (fillShapes lookup' shapes) := by
  cases shapes with
  | nil => exact .ok []
  | cons shape rest =>
      rw [fillShapes, fillShapes]
      refine (agree_fillShape shape fun p member => ?_).bind fun filled =>
        (agree_fillShapes rest fun p member => ?_).bind fun others => .ok _
      · exact settle p (List.mem_append_left _ member)
      · exact settle p (List.mem_append_right _ member)

end

/-- Filling in a deck asks for its placeholders only. -/
theorem agree_fill {deck : Deck} (settle : Settle Fault lookup lookup' deck.placeholders) :
    Agree Fault (deck.fill lookup) (deck.fill lookup') := by
  unfold fill
  refine (Agree.mapM fun slide inDeck => ?_).map _
  unfold fillSlide
  refine (agree_fillShapes slide.shapes fun p inSlide => settle.subset ?_).map _
  intro name named
  have paragraph : p ∈ deck.paragraphs := List.mem_flatMap.2 ⟨slide, inDeck, inSlide⟩
  exact Placeholder.mem_extract.2 ⟨text p, List.mem_map_of_mem paragraph, named⟩

end Deck
end Issuance
