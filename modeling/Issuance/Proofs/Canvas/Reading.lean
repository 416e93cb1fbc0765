import Issuance.Proofs.Canvas.Acceptance
/-!
Descriptions that have been accepted, and reading back what was written: the structured data of a
description can be read if and only if it could have been accepted, and gives the description
itself.
-/

namespace Issuance
namespace Canvas

theorem positive?_int (n : Nat) : positive? (.int n) = if 0 < n then some n else none := by
  change (if 0 < (n : Int) then some (n : Int).toNat else none) = _
  simp only [Int.natCast_pos, Int.toNat_natCast]

theorem ofWord?_lower_word (align : Align) :
    Align.ofWord? (Text.lower align.word) = some align := by
  cases align <;> decide +kernel

/-- An element as it may be accepted: with a size, and not without what it shows. -/
def Element.IsAcceptable : Element → Prop
  | .text e => 0 < e.size
  | .image e => e.width.isNonpositive = false ∧ e.height.isNonpositive = false ∧ e.src ≠ ""
  | .symbol e => e.width.isNonpositive = false ∧ e.height.isNonpositive = false ∧ e.content ≠ ""

theorem Describes.isAcceptable {raw : Json} {e : Element} (describes : Describes .taken raw e) :
    e.IsAcceptable := by
  cases describes with
  | text _ _ _ _ _ _ _ positive => exact positive
  | image _ _ _ _ _ _ _ _ sized _ filled => exact ⟨sized.1, sized.2, filled⟩
  | symbol _ _ _ _ _ _ _ _ sized _ filled => exact ⟨sized.1, sized.2, filled⟩

/-- What is written of an element is read back as it was, if it can be read at all. -/
theorem readElement_toJson_eq_ok_iff {e read : Element} :
    readElement e.toJson = .ok read ↔ e.IsAcceptable ∧ e = read := by
  unfold readElement
  cases e with
  | text t =>
      simp only [Element.toJson, readNumber, readText, readAlign, Json.getOrNull, Json.get?,
        Json.members, Assoc.get?, Json.display, String.reduceEq, ↓reduceIte, Option.getD_some,
        positive?_int, ofWord?_lower_word, bind, Except.bind, pure, Except.pure]
      rcases Nat.eq_zero_or_pos t.size with zero | positive
      · rw [if_neg (by omega)]
        constructor
        · intro read
          cases read
        · intro acceptable
          have positive : 0 < t.size := acceptable.1
          omega
      · rw [if_pos positive]
        simp only [Except.ok.injEq]
        exact (and_iff_right positive).symm
  | image i =>
      simp only [Element.toJson, readNumber, Json.getOrNull, Json.get?, Json.members, Assoc.get?,
        String.reduceEq, Json.str.injEq, imp_self, ↓reduceIte, Option.getD_some, bind_eq_ok_iff,
        readPositive_eq_ok_iff, readRequiredText_eq_ok_iff]
      constructor
      · rintro ⟨x, ⟨⟩, y, ⟨⟩, width, ⟨⟨⟩, wide⟩, height, ⟨⟨⟩, high⟩, src, ⟨⟨⟩, filled⟩, same⟩
        exact ⟨⟨wide, high, filled⟩, Except.ok.inj same⟩
      · rintro ⟨⟨wide, high, filled⟩, rfl⟩
        exact ⟨_, rfl, _, rfl, _, ⟨rfl, wide⟩, _, ⟨rfl, high⟩, _, ⟨rfl, filled⟩, rfl⟩
  | symbol s =>
      simp only [Element.toJson, readNumber, readText, Json.getOrNull, Json.get?, Json.members,
        Assoc.get?, String.reduceEq, Json.str.injEq, imp_self, ↓reduceIte, Option.getD_some,
        bind_eq_ok_iff, readPositive_eq_ok_iff, readRequiredText_eq_ok_iff]
      constructor
      · rintro ⟨x, ⟨⟩, y, ⟨⟩, width, ⟨⟨⟩, wide⟩, height, ⟨⟨⟩, high⟩, content, ⟨⟨⟩, filled⟩, color, ⟨⟩,
          same⟩
        exact ⟨⟨wide, high, filled⟩, Except.ok.inj same⟩
      · rintro ⟨⟨wide, high, filled⟩, rfl⟩
        exact ⟨_, rfl, _, rfl, _, ⟨rfl, wide⟩, _, ⟨rfl, high⟩, _, ⟨rfl, filled⟩, _, rfl, rfl⟩

theorem readElements_toJson_eq_ok_iff {elements read : List Element} {index : Nat} :
    readElements index (elements.map Element.toJson) = .ok read ↔
      (∀ e ∈ elements, e.IsAcceptable) ∧ elements = read := by
  induction elements generalizing index read with
  | nil =>
      simp only [List.map_nil, readElements, Except.ok.injEq, List.not_mem_nil, false_implies,
        implies_true, true_and]
  | cons e rest ih =>
      simp only [List.map_cons, readElements, bind_eq_ok_iff, mapError_eq_ok_iff, ih,
        readElement_toJson_eq_ok_iff, List.forall_mem_cons]
      constructor
      · rintro ⟨element, ⟨acceptable, rfl⟩, others, ⟨remaining, rfl⟩, same⟩
        exact ⟨⟨acceptable, remaining⟩, Except.ok.inj same⟩
      · rintro ⟨⟨acceptable, remaining⟩, rfl⟩
        exact ⟨e, ⟨acceptable, rfl⟩, rest, ⟨remaining, rfl⟩, rfl⟩

namespace Spec

/-- A description as it may be accepted: with a size, with the name of its background if it has one,
and with acceptable elements. -/
structure IsAcceptable (spec : Spec) : Prop where
  width : 0 < spec.width
  height : 0 < spec.height
  background : spec.background ≠ some ""
  elements : ∀ e ∈ spec.elements, e.IsAcceptable

theorem isAcceptable_of_depicts {raw : Json} {spec : Spec} (depicts : Depicts .taken raw spec) :
    spec.IsAcceptable := by
  obtain ⟨-, -, -, positive, background, -, items, -, described⟩ := depicts
  refine ⟨positive.1, positive.2, ?_, fun e member => ?_⟩
  · rcases background with ⟨-, none⟩ | ⟨name, -, some⟩
    · rw [none]
      exact nofun
    · rw [some]
      split
      · exact nofun
      · next filled =>
          rw [String.isEmpty_iff] at filled
          exact fun same => filled (Option.some.inj same)
  · obtain ⟨raw, -, describes⟩ := exists_of_mem_right described member
    exact describes.isAcceptable

theorem readBackground_toJson (spec : Spec) :
    readBackground spec.toJson = .ok (spec.background.filter fun name => !name.isEmpty) := by
  have written : spec.toJson.getOrNull "background" = Json.optStr spec.background := rfl
  unfold readBackground
  rw [written]
  cases spec.background with
  | none => rfl
  | some name =>
      simp only [Json.optStr, Option.filter_some]
      cases name.isEmpty <;> rfl

/-- What is written of a description is read back as it was but for an empty background, if it can
be read at all. -/
theorem ofJson_toJson_eq_ok_iff {spec read : Spec} :
    ofJson spec.toJson = .ok read ↔
      (0 < spec.width ∧ 0 < spec.height ∧ ∀ e ∈ spec.elements, e.IsAcceptable) ∧
        { spec with background := spec.background.filter fun name => !name.isEmpty } = read := by
  change ofObject spec.toJson = .ok read ↔ _
  unfold ofObject
  simp only [readBackground_toJson]
  simp only [toJson, readBackgroundColor, Json.display, Json.get?, Json.members, Assoc.get?,
    String.reduceEq, ↓reduceIte, Option.getD_some, bind_eq_ok_iff, readSide_eq_ok_iff,
    readElements_toJson_eq_ok_iff, positive?_int, Option.ite_none_right_eq_some]
  constructor
  · rintro ⟨width, ⟨wide, ⟨⟩⟩, height, ⟨high, ⟨⟩⟩, background, ⟨⟩, elements, ⟨acceptable, rfl⟩, same⟩
    exact ⟨⟨wide, high, acceptable⟩, Except.ok.inj same⟩
  · rintro ⟨⟨wide, high, acceptable⟩, rfl⟩
    exact ⟨_, ⟨wide, rfl⟩, _, ⟨high, rfl⟩, _, rfl, _, ⟨acceptable, rfl⟩, rfl⟩

/-- A description that may be accepted is read back from its own structured data. -/
theorem ofJson_toJson {spec : Spec} (acceptable : spec.IsAcceptable) :
    ofJson spec.toJson = .ok spec := by
  refine ofJson_toJson_eq_ok_iff.2
    ⟨⟨acceptable.width, acceptable.height, acceptable.elements⟩, ?_⟩
  have named : spec.background.filter (fun name => !name.isEmpty) = spec.background := by
    cases background : spec.background with
    | none => rfl
    | some name =>
        have filled : name.isEmpty = false := by
          rw [String.isEmpty_eq_false_iff]
          rintro rfl
          exact acceptable.background background
        rw [Option.filter_some, filled]
        rfl
  rw [named]

theorem referencedFields_of_ofJson {spec read : Spec} (done : ofJson spec.toJson = .ok read) :
    read.referencedFields = spec.referencedFields := by
  obtain ⟨-, rfl⟩ := ofJson_toJson_eq_ok_iff.1 done
  rfl

end Spec
end Canvas

theorem CanvasInput.isAcceptable_of_read {input : CanvasInput} {spec : Canvas.Spec}
    (read : input.read = .ok spec) : spec.IsAcceptable := by
  obtain ⟨raw, -, depicts⟩ := read_eq_ok_iff.1 read
  exact Canvas.Spec.isAcceptable_of_depicts depicts

end Issuance
