import Issuance.Proofs.Canvas.Painting
import Issuance.Proofs.Placeholder.Places
/-!
The names that are taken from some texts: all those of which a token is written in one of the
texts, each once, in the order in which their first tokens stand there.
-/

namespace Issuance

namespace Placeholder

/-- A place in some texts: which of them, and behind how many of its characters. -/
abbrev Position := Nat × Nat

/-- Earlier texts come first, and in a text what stands further to the left. -/
def Position.Precedes (here there : Position) : Prop :=
  here.1 < there.1 ∨ here.1 = there.1 ∧ here.2 < there.2

/-- The token of a name is written at a place in some texts. An absent text has no places. -/
def OccursAt (texts : List (Option String)) (position : Position) (name : String) : Prop :=
  ∃ text : String, texts[position.1]? = some (some text) ∧
    StandsAt text.toList position.2 name

/-- The first place at which the token of a name is written. -/
def IsFirstOf (texts : List (Option String)) (position : Position) (name : String) : Prop :=
  OccursAt texts position name ∧
    ∀ other, OccursAt texts other name → other = position ∨ position.Precedes other

/-- The tokens in some texts with their places, the first text being one of the given number. -/
def occurrencesFrom (index : Nat) : List (Option String) → List (Position × String)
  | [] => []
  | text :: rest =>
    ((placesFrom 0 (segments (text.getD "").toList)).map fun entry => ((index, entry.1), entry.2)) ++
      occurrencesFrom (index + 1) rest

private theorem mem_placesFrom_getD {text : Option String} {place : Nat} {name : String} :
    (place, name) ∈ placesFrom 0 (segments (text.getD "").toList) ↔
      ∃ present : String, text = some present ∧ StandsAt present.toList place name := by
  rw [mem_placesFrom_segments]
  simp only [Nat.zero_add, exists_eq_left']
  cases text with
  | none =>
      refine iff_of_false not_standsAt_nil ?_
      rintro ⟨present, impossible, -⟩
      cases impossible
  | some text =>
      refine ⟨fun stands => ⟨text, rfl, stands⟩, ?_⟩
      rintro ⟨present, same, stands⟩
      cases same
      exact stands

theorem mem_occurrencesFrom {index : Nat} {texts : List (Option String)} {position : Position}
    {name : String} :
    (position, name) ∈ occurrencesFrom index texts ↔
      ∃ offset, position.1 = index + offset ∧ OccursAt texts (offset, position.2) name := by
  induction texts generalizing index with
  | nil =>
      refine iff_of_false List.not_mem_nil ?_
      rintro ⟨offset, -, text, impossible, -⟩
      cases impossible
  | cons text rest ih =>
      rw [occurrencesFrom, List.mem_append, ih, List.mem_map]
      constructor
      · rintro (⟨entry, member, same⟩ | ⟨offset, later, occurs⟩)
        · cases same
          obtain ⟨present, rfl, stands⟩ := mem_placesFrom_getD.1 member
          exact ⟨0, rfl, present, rfl, stands⟩
        · exact ⟨offset + 1, by omega, occurs⟩
      · rintro ⟨offset, place, present, found, stands⟩
        cases offset with
        | zero =>
            refine Or.inl ⟨(position.2, name),
              mem_placesFrom_getD.2 ⟨present, Option.some.inj found, stands⟩, ?_⟩
            have first : index = position.1 := place.symm
            rw [first]
        | succ offset => exact Or.inr ⟨offset, by omega, present, found, stands⟩

theorem pairwise_occurrencesFrom (index : Nat) (texts : List (Option String)) :
    (occurrencesFrom index texts).Pairwise fun here there => here.1.Precedes there.1 := by
  induction texts generalizing index with
  | nil => exact List.Pairwise.nil
  | cons text rest ih =>
      refine List.pairwise_append.2 ⟨?_, ih (index + 1), ?_⟩
      · refine List.pairwise_map.2 ((pairwise_placesFrom 0 _).imp fun before => ?_)
        exact Or.inr ⟨rfl, before⟩
      · intro here member there later
        obtain ⟨entry, -, rfl⟩ := List.mem_map.1 member
        obtain ⟨offset, further, -⟩ := mem_occurrencesFrom.1 (show (there.1, there.2) ∈ _ from later)
        exact Or.inl (by simp only; omega)

theorem map_snd_occurrencesFrom (index : Nat) (texts : List (Option String)) :
    (occurrencesFrom index texts).map Prod.snd = (texts.map (·.getD "")).flatMap names := by
  induction texts generalizing index with
  | nil => rfl
  | cons text rest ih =>
      rw [occurrencesFrom, List.map_append, ih, List.map_map, List.map_cons, List.flatMap_cons, names,
        ← map_snd_placesFrom 0]
      rfl

/-- The names that are extracted are those of the first tokens of each name. -/
theorem extractPresent_eq (texts : List (Option String)) :
    extractPresent texts = (distinctBy Prod.snd (occurrencesFrom 0 texts)).map Prod.snd := by
  rw [map_distinctBy, map_snd_occurrencesFrom]
  rfl

theorem isFirstOf_of_mem {texts : List (Option String)} {entry : Position × String}
    (kept : entry ∈ distinctBy Prod.snd (occurrencesFrom 0 texts)) :
    IsFirstOf texts entry.1 entry.2 := by
  have occurs : ∀ {position name}, (position, name) ∈ occurrencesFrom 0 texts ↔
      OccursAt texts position name := by
    intro position name
    simp only [mem_occurrencesFrom, Nat.zero_add, exists_eq_left']
  have member := (sublist_distinctBy Prod.snd _).subset kept
  refine ⟨occurs.1 member, fun other again => ?_⟩
  rcases eq_or_of_mem_distinctBy (pairwise_occurrencesFrom 0 texts) kept (occurs.2 again) rfl with
    same | before
  · exact Or.inl (congrArg Prod.fst same)
  · exact Or.inr before

theorem mem_extractPresent {texts : List (Option String)} {name : String} :
    name ∈ extractPresent texts ↔ IsName name.toList ∧
      ∃ text : String, some text ∈ texts ∧ (Segment.token name).source <:+: text.toList := by
  have written : ∀ text : String, name ∈ names text ↔
      IsName name.toList ∧ (Segment.token name).source <:+: text.toList := by
    intro text
    rw [mem_names_iff]
    refine and_congr_right fun _ => exists_congr fun before => exists_congr fun after => ?_
    rw [List.append_assoc, source_token_append]
    exact eq_comm
  unfold extractPresent
  rw [mem_extract]
  constructor
  · rintro ⟨text, member, named⟩
    obtain ⟨isName, inside⟩ := (written text).1 named
    obtain ⟨present, among, rfl⟩ := List.mem_map.1 member
    cases present with
    | none =>
        obtain ⟨before, after, same⟩ := inside
        rw [List.append_assoc] at same
        exact absurd (List.append_eq_nil_iff.1 same).2 (List.cons_ne_nil _ _)
    | some present => exact ⟨isName, present, among, inside⟩
  · rintro ⟨isName, text, member, inside⟩
    exact ⟨text, List.mem_map_of_mem (f := (·.getD "")) member, (written text).2 ⟨isName, inside⟩⟩

end Placeholder

/-- The text of an element that may name fields, which a picture does not have. -/
def Canvas.Element.wording? : Canvas.Element → Option String
  | .text e => some e.content
  | .image _ => none
  | .symbol e => some e.content

open Placeholder in
/-- From some texts, absent ones among them, exactly those names are taken whose tokens are written
somewhere, each once and in the order of the places where they are written first; and the fields of
a canvas are taken so from its texts and symbols. -/
theorem names_are_extracted_by_first_occurrence :
    (∀ texts : List (Option String),
      (extractPresent texts).Nodup ∧
      (∀ name, name ∈ extractPresent texts ↔ IsName name.toList ∧
        ∃ text : String, some text ∈ texts ∧ (Segment.token name).source <:+: text.toList) ∧
      (extractPresent texts).Pairwise fun name other => ∃ here there,
        IsFirstOf texts here name ∧ IsFirstOf texts there other ∧ here.Precedes there) ∧
    ∀ spec : Canvas.Spec, spec.referencedFields =
      extractPresent ((spec.elements.filterMap Canvas.Element.wording?).map some) := by
  refine ⟨fun texts => ⟨nodup_distinct _, fun name => mem_extractPresent, ?_⟩, fun spec => ?_⟩
  · rw [extractPresent_eq, List.pairwise_map]
    refine List.Pairwise.imp_of_mem ?_
      ((pairwise_occurrencesFrom 0 texts).sublist (sublist_distinctBy Prod.snd _))
    intro here there first second before
    exact ⟨here.1, there.1, isFirstOf_of_mem first, isFirstOf_of_mem second, before⟩
  · have wordings : (spec.elements.map Canvas.Element.content).flatMap names =
        (spec.elements.filterMap Canvas.Element.wording?).flatMap names := by
      induction spec.elements with
      | nil => rfl
      | cons e rest ih =>
          rw [List.map_cons, List.flatMap_cons, ih]
          cases e with
          | text e => rfl
          | symbol e => rfl
          | image e =>
              have none : names "" = [] := congrArg (List.filterMap Segment.name?) segments_nil
              exact congrArg (· ++ _) none
    rw [spec.referencedFields_eq, extractPresent, List.map_map]
    change distinct _ = distinct ((List.map id _).flatMap names)
    rw [List.map_id, wordings]

example :
    Placeholder.extractPresent
      [some "\x7b\x7bclub\x7d\x7d: \x7b\x7b\x7bname\x7d\x7d\x7d", none,
        some "\x7b\x7bname\x7d\x7d, \x7b\x7b date\x7d\x7d"] = ["club", "name"] := by
  decide +kernel

end Issuance
