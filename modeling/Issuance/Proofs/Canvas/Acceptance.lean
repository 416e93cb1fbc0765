import Issuance.Proofs.Results
import Issuance.Template.Ingest
/-!
Which descriptions are accepted, and what is made of them.

What an object has to have is told apart from what is asked of its coordinates and lengths:
`Depicts` takes the latter as `Measures`. A description is accepted under `Measures.taken`, where
any number will do for a coordinate, and any number that is not known to be zero or less for a
length. So infinite and undefined numbers are let through, with which nothing can be drawn. Where
they do not occur, this is `Measures.finite`.
-/

namespace Issuance
namespace Canvas

/-- What is asked of a number that is a coordinate, and of one that is a length. -/
structure Measures where
  coordinate : Number → Prop
  length : Number → Prop

namespace Measures

/-- Finite coordinates, and finite lengths above zero. -/
def finite : Measures where
  coordinate n := n.isFinite = true
  length n := n.isFinite = true ∧ n.isNonpositive = false

/-- Any coordinates, and lengths that are not known to be zero or less. -/
def taken : Measures where
  coordinate _ := True
  length n := n.isNonpositive = false

end Measures

/-- A value is the object of an element, given what is asked of its numbers. What may be left out
has its default then. -/
inductive Describes (m : Measures) (raw : Json) : Element → Prop
  | text (e : TextElement) (isObject : ∃ members, raw = .obj members)
      (kind : raw.getOrNull "type" = .str "text")
      (x : raw.getOrNull "x" = .number e.x) (y : raw.getOrNull "y" = .number e.y)
      (placed : m.coordinate e.x ∧ m.coordinate e.y)
      (size : (raw.get? "size").getD (.int defaults.fontSize) = .int e.size) (positive : 0 < e.size)
      (align : Text.lower ((raw.get? "align").getD (.str "left")).display = e.align.word)
      (content : (raw.get? "content").getD (.str "") = .str e.content)
      (font : (raw.get? "font").getD (.str defaults.font) = .str e.font)
      (color : (raw.get? "color").getD (.str defaults.textColor) = .str e.color) :
      Describes m raw (.text e)
  | image (e : ImageElement) (isObject : ∃ members, raw = .obj members)
      (kind : raw.getOrNull "type" = .str "image")
      (x : raw.getOrNull "x" = .number e.x) (y : raw.getOrNull "y" = .number e.y)
      (placed : m.coordinate e.x ∧ m.coordinate e.y)
      (width : raw.getOrNull "width" = .number e.width)
      (height : raw.getOrNull "height" = .number e.height)
      (sized : m.length e.width ∧ m.length e.height)
      (src : raw.get? "src" = some (.str e.src)) (filled : e.src ≠ "") :
      Describes m raw (.image e)
  | symbol (e : SymbolElement) (isObject : ∃ members, raw = .obj members)
      (kind : raw.getOrNull "type" = .str "qrCode")
      (x : raw.getOrNull "x" = .number e.x) (y : raw.getOrNull "y" = .number e.y)
      (placed : m.coordinate e.x ∧ m.coordinate e.y)
      (width : raw.getOrNull "width" = .number e.width)
      (height : raw.getOrNull "height" = .number e.height)
      (sized : m.length e.width ∧ m.length e.height)
      (content : raw.get? "content" = some (.str e.content)) (filled : e.content ≠ "")
      (color : (raw.get? "color").getD (.str defaults.textColor) = .str e.color) :
      Describes m raw (.symbol e)

/-- A value is the object of a description: its elements are those of its list, in order. -/
structure Depicts (m : Measures) (raw : Json) (spec : Spec) : Prop where
  isObject : ∃ members, raw = .obj members
  width : (raw.get? "width").getD (.int defaults.width) = .int spec.width
  height : (raw.get? "height").getD (.int defaults.height) = .int spec.height
  positive : 0 < spec.width ∧ 0 < spec.height
  background : raw.getOrNull "background" = .null ∧ spec.background = none ∨
    ∃ name, raw.getOrNull "background" = .str name ∧
      spec.background = if name.isEmpty then none else some name
  backgroundColor : spec.backgroundColor = readBackgroundColor raw
  elements : ∃ items, (raw.get? "elements").getD (.arr []) = .arr items ∧
    List.Forall₂ (Describes m) items spec.elements

section

variable {raw : Json} {key : String}

theorem readNumber_eq_ok_iff {n : Number} :
    readNumber raw key = .ok n ↔ raw.getOrNull key = .number n := by
  unfold readNumber
  split
  · next other found => rw [found, Except.ok.injEq, Json.number.injEq]
  · next none => exact ⟨nofun, fun found => absurd found (none n)⟩

theorem readPositive_eq_ok_iff {n : Number} :
    readPositive raw key = .ok n ↔ readNumber raw key = .ok n ∧ n.isNonpositive = false := by
  unfold readPositive
  simp only [bind_eq_ok_iff, guard_eq_ok_iff, Except.ok.injEq, Bool.not_eq_true]
  constructor
  · rintro ⟨other, read, positive, rfl⟩
    exact ⟨read, positive⟩
  · rintro ⟨read, positive⟩
    exact ⟨n, read, positive, rfl⟩

theorem readText_eq_ok_iff {default s : String} :
    readText raw key default = .ok s ↔ (raw.get? key).getD (.str default) = .str s := by
  unfold readText
  split
  · next absent => rw [absent, Option.getD_none, Except.ok.injEq, Json.str.injEq]
  · next other found => rw [found, Option.getD_some, Except.ok.injEq, Json.str.injEq]
  · next value none found =>
      rw [found, Option.getD_some]
      exact ⟨nofun, fun same => absurd same (none s)⟩

theorem readRequiredText_eq_ok_iff {s : String} :
    readRequiredText raw key = .ok s ↔ raw.get? key = some (.str s) ∧ s ≠ "" := by
  unfold readRequiredText
  split
  · next other found =>
      rw [guard_eq_ok_iff, Except.ok.injEq, found, String.isEmpty_iff, Option.some.injEq,
        Json.str.injEq]
      constructor
      · rintro ⟨filled, rfl⟩
        exact ⟨rfl, filled⟩
      · rintro ⟨rfl, filled⟩
        exact ⟨filled, rfl⟩
  · next none =>
      refine ⟨nofun, ?_⟩
      rintro ⟨found, -⟩
      exact absurd found (none s)

theorem positive?_eq_some_iff {n : Nat} : positive? raw = some n ↔ raw = .int n ∧ 0 < n := by
  unfold positive?
  split
  · next whole =>
      rw [Option.ite_none_right_eq_some, Option.some.injEq]
      constructor
      · rintro ⟨positive, rfl⟩
        exact ⟨by rw [Int.toNat_of_nonneg (by omega)]; rfl, by omega⟩
      · rintro ⟨same, positive⟩
        cases same
        exact ⟨by omega, Int.toNat_natCast n⟩
  · next none =>
      refine ⟨nofun, ?_⟩
      rintro ⟨same, -⟩
      exact absurd same (none n)

theorem ofWord?_eq_some_iff {word : String} {align : Align} :
    Align.ofWord? word = some align ↔ word = align.word := by
  constructor
  · intro found
    exact (eq_of_beq (List.find?_some found :)).symm
  · rintro rfl
    cases align <;> decide

theorem readAlign_eq_ok_iff {align : Align} :
    readAlign raw = .ok align ↔
      Text.lower ((raw.get? "align").getD (.str "left")).display = align.word := by
  rw [← ofWord?_eq_some_iff]
  unfold readAlign
  simp only
  split
  · next other found => rw [found, Except.ok.injEq, Option.some.injEq]
  · next none =>
      rw [none]
      exact ⟨nofun, nofun⟩

/-- An element is read exactly from the values that describe it. -/
theorem readElement_eq_ok_iff {e : Element} :
    readElement raw = .ok e ↔ Describes .taken raw e := by
  constructor
  · intro read
    unfold readElement at read
    split at read
    · next members =>
        simp only [bind_eq_ok_iff, readNumber_eq_ok_iff] at read
        obtain ⟨x, atX, y, atY, read⟩ := read
        split at read
        · next kind =>
            split at read
            · next size sized =>
                simp only [bind_eq_ok_iff, readAlign_eq_ok_iff, readText_eq_ok_iff] at read
                obtain ⟨align, aligned, content, worded, font, inFont, color, inColor, read⟩ := read
                cases read
                obtain ⟨sized, positive⟩ := positive?_eq_some_iff.1 sized
                exact .text _ ⟨members, rfl⟩ kind atX atY ⟨trivial, trivial⟩ sized positive aligned
                  worded inFont inColor
            · cases read
        · simp only [bind_eq_ok_iff, readPositive_eq_ok_iff, readNumber_eq_ok_iff] at read
          obtain ⟨width, ⟨atWidth, wide⟩, height, ⟨atHeight, high⟩, read⟩ := read
          split at read
          · next kind =>
              simp only [bind_eq_ok_iff, readRequiredText_eq_ok_iff] at read
              obtain ⟨src, ⟨atSrc, filled⟩, read⟩ := read
              cases read
              exact .image _ ⟨members, rfl⟩ kind atX atY ⟨trivial, trivial⟩ atWidth atHeight
                ⟨wide, high⟩ atSrc filled
          · next kind =>
              simp only [bind_eq_ok_iff, readRequiredText_eq_ok_iff, readText_eq_ok_iff] at read
              obtain ⟨content, ⟨worded, filled⟩, color, inColor, read⟩ := read
              cases read
              exact .symbol _ ⟨members, rfl⟩ kind atX atY ⟨trivial, trivial⟩ atWidth atHeight
                ⟨wide, high⟩ worded filled inColor
          · cases read
    · cases read
  · intro describes
    cases describes with
    | text e isObject kind x y placed size positive align content font color =>
        obtain ⟨members, rfl⟩ := isObject
        unfold readElement
        simp only [kind, bind_eq_ok_iff]
        refine ⟨_, readNumber_eq_ok_iff.2 x, _, readNumber_eq_ok_iff.2 y, ?_⟩
        rw [positive?_eq_some_iff.2 ⟨size, positive⟩]
        simp only [bind_eq_ok_iff]
        exact ⟨_, readAlign_eq_ok_iff.2 align, _, readText_eq_ok_iff.2 content, _,
          readText_eq_ok_iff.2 font, _, readText_eq_ok_iff.2 color, rfl⟩
    | image e isObject kind x y placed width height sized src filled =>
        obtain ⟨members, rfl⟩ := isObject
        unfold readElement
        simp only [kind, Json.str.injEq, String.reduceEq, imp_self, bind_eq_ok_iff]
        refine ⟨_, readNumber_eq_ok_iff.2 x, _, readNumber_eq_ok_iff.2 y, _,
          readPositive_eq_ok_iff.2 ⟨readNumber_eq_ok_iff.2 width, sized.1⟩, _,
          readPositive_eq_ok_iff.2 ⟨readNumber_eq_ok_iff.2 height, sized.2⟩, _,
          readRequiredText_eq_ok_iff.2 ⟨src, filled⟩, rfl⟩
    | symbol e isObject kind x y placed width height sized content filled color =>
        obtain ⟨members, rfl⟩ := isObject
        unfold readElement
        simp only [kind, Json.str.injEq, String.reduceEq, imp_self, bind_eq_ok_iff]
        refine ⟨_, readNumber_eq_ok_iff.2 x, _, readNumber_eq_ok_iff.2 y, _,
          readPositive_eq_ok_iff.2 ⟨readNumber_eq_ok_iff.2 width, sized.1⟩, _,
          readPositive_eq_ok_iff.2 ⟨readNumber_eq_ok_iff.2 height, sized.2⟩, _,
          readRequiredText_eq_ok_iff.2 ⟨content, filled⟩, _, readText_eq_ok_iff.2 color, rfl⟩

end

theorem readElements_eq_ok_iff {items : List Json} {elements : List Element} {index : Nat} :
    readElements index items = .ok elements ↔
      List.Forall₂ (Describes .taken) items elements := by
  induction items generalizing index elements with
  | nil =>
      rw [readElements, Except.ok.injEq, List.forall₂_nil_left_iff]
      exact eq_comm
  | cons raw rest ih =>
      simp only [readElements, bind_eq_ok_iff, mapError_eq_ok_iff, readElement_eq_ok_iff, ih,
        List.forall₂_cons_left_iff]
      constructor
      · rintro ⟨element, first, others, later, same⟩
        exact ⟨element, others, first, later, (Except.ok.inj same).symm⟩
      · rintro ⟨element, others, first, later, rfl⟩
        exact ⟨element, first, others, later, rfl⟩

theorem readSide_eq_ok_iff {raw : Json} {label : String} {default side : Nat} :
    readSide raw label default = .ok side ↔
      positive? ((raw.get? label).getD (.int default)) = some side := by
  unfold readSide
  split
  · next other found => rw [found, Except.ok.injEq, Option.some.injEq]
  · next none =>
      rw [none]
      exact ⟨nofun, nofun⟩

theorem readBackground_eq_ok_iff {raw : Json} {background : Option String} :
    readBackground raw = .ok background ↔
      raw.getOrNull "background" = .null ∧ background = none ∨
        ∃ name, raw.getOrNull "background" = .str name ∧
          background = if name.isEmpty then none else some name := by
  unfold readBackground
  split
  · next none =>
      rw [none, Except.ok.injEq]
      simp only [true_and, reduceCtorEq, false_and, exists_false, or_false]
      exact eq_comm
  · next name found =>
      rw [found, Except.ok.injEq]
      simp only [reduceCtorEq, false_and, false_or, Json.str.injEq, exists_eq_left']
      exact eq_comm
  · next noNull noText =>
      refine ⟨nofun, ?_⟩
      rintro (⟨none, -⟩ | ⟨name, found, -⟩)
      · exact absurd none noNull
      · exact absurd found (noText name)

/-- A description is read exactly from the values that depict it. -/
theorem ofObject_eq_ok_iff {raw : Json} {spec : Spec} :
    Spec.ofObject raw = .ok spec ↔ Depicts .taken raw spec := by
  constructor
  · intro read
    unfold Spec.ofObject at read
    split at read
    · next members =>
        simp only [bind_eq_ok_iff, readSide_eq_ok_iff, positive?_eq_some_iff,
          readBackground_eq_ok_iff] at read
        obtain ⟨width, ⟨wide, wider⟩, height, ⟨high, higher⟩, background, behind, read⟩ := read
        split at read
        · next items listed =>
            simp only [bind_eq_ok_iff, readElements_eq_ok_iff] at read
            obtain ⟨elements, described, read⟩ := read
            cases read
            exact ⟨⟨members, rfl⟩, wide, high, ⟨wider, higher⟩, behind, rfl, items, listed,
              described⟩
        · cases read
    · cases read
  · rintro ⟨⟨members, rfl⟩, width, height, positive, background, backgroundColor, items, listed,
      described⟩
    unfold Spec.ofObject
    simp only [bind_eq_ok_iff]
    refine ⟨_, readSide_eq_ok_iff.2 (positive?_eq_some_iff.2 ⟨width, positive.1⟩), _,
      readSide_eq_ok_iff.2 (positive?_eq_some_iff.2 ⟨height, positive.2⟩), _,
      readBackground_eq_ok_iff.2 background, ?_⟩
    rw [listed]
    simp only [bind_eq_ok_iff]
    refine ⟨_, readElements_eq_ok_iff.2 described, ?_⟩
    rw [← backgroundColor]
    rfl

/-- The coordinates and lengths of an element. -/
def Element.numbers : Element → List Number
  | .text e => [e.x, e.y]
  | .image e => [e.x, e.y, e.width, e.height]
  | .symbol e => [e.x, e.y, e.width, e.height]

/-- Values that describe elements with finite numbers are those that describe any elements, and have
finite numbers. -/
theorem describes_finite_iff {raw : Json} {e : Element} :
    Describes .finite raw e ↔ Describes .taken raw e ∧ ∀ n ∈ e.numbers, n.isFinite = true := by
  constructor
  · intro describes
    cases describes with
    | text e isObject kind x y placed size positive align content font color =>
        refine ⟨.text e isObject kind x y ⟨trivial, trivial⟩ size positive align content font
          color, ?_⟩
        simp only [Element.numbers, List.forall_mem_cons]
        exact ⟨placed.1, placed.2, nofun⟩
    | image e isObject kind x y placed width height sized src filled =>
        refine ⟨.image e isObject kind x y ⟨trivial, trivial⟩ width height ⟨sized.1.2, sized.2.2⟩
          src filled, ?_⟩
        simp only [Element.numbers, List.forall_mem_cons]
        exact ⟨placed.1, placed.2, sized.1.1, sized.2.1, nofun⟩
    | symbol e isObject kind x y placed width height sized content filled color =>
        refine ⟨.symbol e isObject kind x y ⟨trivial, trivial⟩ width height ⟨sized.1.2, sized.2.2⟩
          content filled color, ?_⟩
        simp only [Element.numbers, List.forall_mem_cons]
        exact ⟨placed.1, placed.2, sized.1.1, sized.2.1, nofun⟩
  · rintro ⟨describes, finite⟩
    cases describes with
    | text e isObject kind x y placed size positive align content font color =>
        simp only [Element.numbers, List.forall_mem_cons] at finite
        obtain ⟨atX, atY, -⟩ := finite
        exact .text e isObject kind x y ⟨atX, atY⟩ size positive align content font color
    | image e isObject kind x y placed width height sized src filled =>
        simp only [Element.numbers, List.forall_mem_cons] at finite
        obtain ⟨atX, atY, wide, high, -⟩ := finite
        exact .image e isObject kind x y ⟨atX, atY⟩ width height ⟨⟨wide, sized.1⟩, high, sized.2⟩
          src filled
    | symbol e isObject kind x y placed width height sized content filled color =>
        simp only [Element.numbers, List.forall_mem_cons] at finite
        obtain ⟨atX, atY, wide, high, -⟩ := finite
        exact .symbol e isObject kind x y ⟨atX, atY⟩ width height ⟨⟨wide, sized.1⟩, high, sized.2⟩
          content filled color

theorem depicts_finite_iff {raw : Json} {spec : Spec} :
    Depicts .finite raw spec ↔
      Depicts .taken raw spec ∧ ∀ e ∈ spec.elements, ∀ n ∈ e.numbers, n.isFinite = true := by
  have elementwise : ∀ items elements, List.Forall₂ (Describes .finite) items elements ↔
      List.Forall₂ (Describes .taken) items elements ∧
        ∀ e ∈ elements, ∀ n ∈ e.numbers, n.isFinite = true := by
    intro items elements
    induction items generalizing elements with
    | nil =>
        simp only [List.forall₂_nil_left_iff]
        exact ⟨fun none => ⟨none, fun e member => absurd (none ▸ member) List.not_mem_nil⟩,
          fun found => found.1⟩
    | cons item rest ih =>
        simp only [List.forall₂_cons_left_iff, describes_finite_iff, ih]
        constructor
        · rintro ⟨e, others, ⟨here, finite⟩, ⟨later, alsoFinite⟩, rfl⟩
          exact ⟨⟨e, others, here, later, rfl⟩, List.forall_mem_cons.2 ⟨finite, alsoFinite⟩⟩
        · rintro ⟨⟨e, others, here, later, rfl⟩, finite⟩
          obtain ⟨first, remaining⟩ := List.forall_mem_cons.1 finite
          exact ⟨e, others, ⟨here, first⟩, ⟨later, remaining⟩, rfl⟩
  constructor
  · rintro ⟨isObject, width, height, positive, background, backgroundColor, items, listed,
      described⟩
    obtain ⟨described, finite⟩ := (elementwise _ _).1 described
    exact ⟨⟨isObject, width, height, positive, background, backgroundColor, items, listed,
      described⟩, finite⟩
  · rintro ⟨⟨isObject, width, height, positive, background, backgroundColor, items, listed,
      described⟩, finite⟩
    exact ⟨isObject, width, height, positive, background, backgroundColor, items, listed,
      (elementwise _ _).2 ⟨described, finite⟩⟩

theorem ne_overlong_of_readElements {items : List Json} {index : Nat} {fault : Fault}
    (refused : readElements index items = .error fault) (digits : Nat) :
    fault ≠ .overlong digits := by
  induction items generalizing index with
  | nil => cases refused
  | cons raw rest ih =>
      rcases bind_eq_error_iff.1 refused with here | ⟨element, -, refused⟩
      · cases first : readElement raw with
        | ok element =>
            rw [first] at here
            cases here
        | error reason =>
            rw [first] at here
            cases here
            exact nofun
      · rcases bind_eq_error_iff.1 refused with later | ⟨elements, -, built⟩
        · exact ih later
        · cases built

theorem ne_overlong_of_readSide {raw : Json} {label : String} {default : Nat} {fault : Fault}
    (refused : readSide raw label default = .error fault) (digits : Nat) :
    fault ≠ .overlong digits := by
  unfold readSide at refused
  split at refused <;> cases refused
  exact nofun

theorem ne_overlong_of_readBackground {raw : Json} {fault : Fault}
    (refused : readBackground raw = .error fault) (digits : Nat) : fault ≠ .overlong digits := by
  unfold readBackground at refused
  split at refused <;> cases refused
  exact nofun

/-- Only the reading of a text comes upon an integer of too many digits. -/
theorem ne_overlong_of_ofObject {raw : Json} {fault : Fault}
    (refused : Spec.ofObject raw = .error fault) (digits : Nat) : fault ≠ .overlong digits := by
  unfold Spec.ofObject at refused
  split at refused
  · rcases bind_eq_error_iff.1 refused with narrow | ⟨width, -, refused⟩
    · exact ne_overlong_of_readSide narrow digits
    rcases bind_eq_error_iff.1 refused with low | ⟨height, -, refused⟩
    · exact ne_overlong_of_readSide low digits
    rcases bind_eq_error_iff.1 refused with behind | ⟨background, -, refused⟩
    · exact ne_overlong_of_readBackground behind digits
    split at refused
    · rcases bind_eq_error_iff.1 refused with within | ⟨elements, -, built⟩
      · exact ne_overlong_of_readElements within digits
      · cases built
    · cases refused
      exact nofun
  · cases refused
    exact nofun

end Canvas

namespace Json

theorem readNumber_ones {n : Nat} (many : maxIntegerDigits < n + 1) :
    readNumber false ('1' :: List.replicate n '1') = .error (.overlong (n + 1)) := by
  have whole : ('1' :: List.replicate n '1').takeWhile Char.isDigit =
      '1' :: List.replicate n '1' := by
    rw [← List.replicate_succ, List.takeWhile_replicate]
    rfl
  have remaining : ('1' :: List.replicate n '1').dropWhile Char.isDigit = [] := by
    rw [← List.replicate_succ, List.dropWhile_replicate]
    rfl
  unfold readNumber
  simp only [whole, remaining]
  change (if maxIntegerDigits < ('1' :: List.replicate n '1').length then
    Except.error (ReadingFault.overlong ('1' :: List.replicate n '1').length) else _) = _
  rw [List.length_cons, List.length_replicate, if_pos many]

/-- An integer of ones is read up to its end before its digits are found to be too many. -/
theorem read_ones {n : Nat} (many : maxIntegerDigits < n + 1) :
    read (String.ofList (List.replicate (n + 1) '1')) = .error (.overlong (n + 1)) := by
  have scalar : readScalar ('1' :: List.replicate n '1') = .error (.overlong (n + 1)) := by
    unfold readScalar
    change (readNumber false ('1' :: List.replicate n '1')).map _ = _
    rw [readNumber_ones many]
    rfl
  have value : ∀ fuel, readValue (fuel + 1) ('1' :: List.replicate n '1') =
      .error (.overlong (n + 1)) := by
    intro fuel
    unfold readValue
    exact scalar
  have unspaced : skipSpace ('1' :: List.replicate n '1') = '1' :: List.replicate n '1' := rfl
  unfold read
  simp only [String.toList_ofList, List.replicate_succ, unspaced, value]

end Json

namespace CanvasInput

open Canvas

/-- The JSON text that is handed in, as a text or as its bytes. -/
def text? : CanvasInput → Option String
  | .value (.str text) => some text
  | .bytes bs => String.fromUTF8? (ByteArray.mk bs.toArray)
  | _ => none

/-- The value that is handed in: itself, or what its text stands for. Nothing stands for an empty
object. -/
inductive Presents : CanvasInput → Json → Prop
  | nothing : Presents .nothing (.obj [])
  | value (raw : Json) (plain : ∀ text, raw ≠ .str text) : Presents (.value raw) raw
  | text {input : CanvasInput} {text : String} {raw : Json} (given : input.text? = some text)
      (read : Json.read text = .ok raw) : Presents input raw

/-- The text that is handed in has an integer of too many digits. -/
def IsOverlong (input : CanvasInput) (digits : Nat) : Prop :=
  ∃ text, input.text? = some text ∧ Json.read text = .error (.overlong digits)

variable {input : CanvasInput} {raw : Json} {spec : Spec}

theorem read_of_text? {text : String} (given : input.text? = some text) :
    input.read = Spec.ofText text := by
  cases input with
  | nothing => cases given
  | value json =>
      cases json with
      | str other =>
          cases given
          rfl
      | _ => cases given
  | bytes bs =>
      change Spec.ofBytes bs = _
      unfold Spec.ofBytes
      rw [show String.fromUTF8? (ByteArray.mk bs.toArray) = some text from given]

theorem Presents.read_eq (presents : input.Presents raw) : input.read = Spec.ofObject raw := by
  cases presents with
  | nothing => rfl
  | value _ plain =>
      cases raw with
      | str text => exact absurd rfl (plain text)
      | _ => rfl
  | text given read =>
      rw [read_of_text? given, Spec.ofText, read]

theorem IsOverlong.read_eq {digits : Nat} (overlong : input.IsOverlong digits) :
    input.read = .error (.overlong digits) := by
  obtain ⟨text, given, read⟩ := overlong
  rw [read_of_text? given, Spec.ofText, read]

/-- An input presents a value, or has an integer of too many digits, or is no JSON text at all. -/
theorem presents_cases (input : CanvasInput) :
    (∃ raw, input.Presents raw) ∨ (∃ digits, input.IsOverlong digits) ∨
      input.read = .error .notUtf8 ∨ input.read = .error .notJson := by
  have ofText : ∀ text, input.text? = some text →
      (∃ raw, input.Presents raw) ∨ (∃ digits, input.IsOverlong digits) ∨
        input.read = .error .notUtf8 ∨ input.read = .error .notJson := by
    intro text given
    cases read : Json.read text with
    | ok raw => exact Or.inl ⟨raw, .text given read⟩
    | error fault =>
        cases fault with
        | malformed =>
            refine Or.inr (Or.inr (Or.inr ?_))
            rw [read_of_text? given, Spec.ofText, read]
        | overlong digits => exact Or.inr (Or.inl ⟨digits, text, given, read⟩)
  cases input with
  | nothing => exact Or.inl ⟨_, .nothing⟩
  | value json =>
      cases json with
      | str text => exact ofText text rfl
      | _ => exact Or.inl ⟨_, .value _ nofun⟩
  | bytes bs =>
      cases decoded : String.fromUTF8? (ByteArray.mk bs.toArray) with
      | some text => exact ofText text decoded
      | none =>
          refine Or.inr (Or.inr (Or.inl ?_))
          change Spec.ofBytes bs = _
          rw [Spec.ofBytes, decoded]

theorem read_eq_ok_iff :
    input.read = .ok spec ↔ ∃ raw, input.Presents raw ∧ Depicts .taken raw spec := by
  constructor
  · intro read
    rcases presents_cases input with ⟨raw, presents⟩ | ⟨digits, overlong⟩ | garbled | malformed
    · rw [presents.read_eq] at read
      exact ⟨raw, presents, ofObject_eq_ok_iff.1 read⟩
    · rw [overlong.read_eq] at read
      cases read
    · rw [garbled] at read
      cases read
    · rw [malformed] at read
      cases read
  · rintro ⟨raw, presents, depicts⟩
    rw [presents.read_eq]
    exact ofObject_eq_ok_iff.2 depicts

theorem read_eq_ok_finite_iff :
    (input.read = .ok spec ∧ ∀ e ∈ spec.elements, ∀ n ∈ e.numbers, n.isFinite = true) ↔
      ∃ raw, input.Presents raw ∧ Depicts .finite raw spec := by
  simp only [read_eq_ok_iff, depicts_finite_iff, ← and_assoc, exists_and_right]

/-- What keeps a description from being accepted is an error of its format, unless its text has an
integer of too many digits. -/
theorem failure_of_read {fault : Fault} (readable : ∀ digits, ¬input.IsOverlong digits)
    (refused : input.read = .error fault) : fault.failure = .error (.format (.canvas fault)) := by
  have named : ∀ digits, fault ≠ .overlong digits := by
    intro digits
    rcases presents_cases input with ⟨raw, presents⟩ | ⟨long, overlong⟩ | garbled | malformed
    · exact ne_overlong_of_ofObject (presents.read_eq ▸ refused) digits
    · exact absurd overlong (readable long)
    · rw [garbled] at refused
      cases refused
      exact nofun
    · rw [malformed] at refused
      cases refused
      exact nofun
  cases fault with
  | overlong digits => exact absurd rfl (named digits)
  | _ => rfl

/-- A picture with an undefined coordinate. -/
def nowhere : CanvasInput :=
  .value (.str ("\x7b\"elements\": [\x7b\"type\": \"image\", \"x\": NaN, \"y\": 1, "
    ++ "\"width\": 1, \"height\": 1, \"src\": \"a\"\x7d]\x7d"))

/-- A JSON text that is an integer, with one digit more than may be read. -/
def tooLong : CanvasInput :=
  .value (.str (String.ofList (List.replicate (Json.maxIntegerDigits + 1) '1')))

end CanvasInput
end Issuance
