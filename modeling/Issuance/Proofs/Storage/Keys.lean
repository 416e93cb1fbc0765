import Issuance.Proofs.Text.Pieces
import Issuance.Storage.Path
/-!
Keys in normal form. A path of plain names is spelled by exactly one key, the key leads back to the
path from any root, and a reference is parted again where it was joined.
-/

namespace Issuance
namespace Storage

/-- One character that is no dot is enough to tell a name from the two names of folders. -/
theorem isPlain_of_mem {name : String} {c : Char} (inside : c ∈ name.toList) (notDot : c ≠ '.')
    (noSlash : '/' ∉ name.toList) : IsPlain name where
  nonempty := by
    rintro rfl
    cases inside
  notHere := by
    rintro rfl
    exact notDot (List.mem_singleton.1 inside)
  notUp := by
    rintro rfl
    have dots : c ∈ ['.', '.'] := inside
    rcases List.mem_cons.1 dots with first | later
    · exact notDot first
    · exact notDot (List.mem_singleton.1 later)
  noSlash := noSlash

/-- A path that a key can spell: names on the way to something below the root. -/
structure IsPlainPath (path : Path) : Prop where
  nonempty : path ≠ []
  plain : ∀ name ∈ path, IsPlain name

theorem keyOf_cons_cons (name next : String) (rest : Path) :
    keyOf (name :: next :: rest) = name ++ "/" ++ keyOf (next :: rest) :=
  String.intercalate_cons_cons

theorem components_append (front back : String) :
    components (front ++ "/" ++ back) = components front ++ components back :=
  Text.splitAt_append '/' (decide_eq_true rfl) front back

theorem components_ne_nil (key : String) : components key ≠ [] := by
  intro none
  exact Text.splitChars_ne_nil _ (List.map_eq_nil_iff.1 none)

theorem components_of_isPlain {name : String} (plain : IsPlain name) :
    components name = [name] := by
  refine Text.splitAt_of_free fun c inside => ?_
  exact decide_eq_false (fun same => plain.noSlash (same ▸ inside))

theorem components_keyOf {path : Path} (plain : IsPlainPath path) :
    components (keyOf path) = path := by
  obtain ⟨nonempty, plain⟩ := plain
  induction path with
  | nil => exact absurd rfl nonempty
  | cons name rest ih =>
      have here := components_of_isPlain (plain name List.mem_cons_self)
      cases rest with
      | nil =>
          rw [keyOf, String.intercalate_singleton]
          exact here
      | cons next others =>
          rw [keyOf_cons_cons, components_append, here, ih (List.cons_ne_nil next others)
            fun n member => plain n (List.mem_cons_of_mem name member)]
          rfl

theorem keyOf_ofList_cons (c : Char) (piece : List Char) (others : Path) :
    keyOf (String.ofList (c :: piece) :: others) =
      String.ofList [c] ++ keyOf (String.ofList piece :: others) := by
  have first : String.ofList (c :: piece) = String.ofList [c] ++ String.ofList piece :=
    @String.ofList_append [c] piece
  cases others with
  | nil => simp only [keyOf, String.intercalate_singleton, first]
  | cons next others => simp only [keyOf_cons_cons, first, String.append_assoc]

/-- A key is spelled again by its components. -/
theorem keyOf_components (key : String) : keyOf (components key) = key := by
  have joined : ∀ cs : List Char,
      keyOf ((Text.splitChars (· = '/') cs).map String.ofList) = String.ofList cs := by
    intro cs
    induction cs with
    | nil => rfl
    | cons c rest ih =>
        have whole : String.ofList (c :: rest) = String.ofList [c] ++ String.ofList rest :=
          @String.ofList_append [c] rest
        rw [Text.splitChars, whole, ← ih]
        cases cut : Text.splitChars (· = '/') rest with
        | nil => exact absurd cut (Text.splitChars_ne_nil rest)
        | cons piece pieces =>
            by_cases slash : c = '/'
            · rw [if_pos (decide_eq_true slash), List.map_cons, List.map_cons, keyOf_cons_cons,
                slash]
              exact congrArg (· ++ _) String.empty_append
            · rw [if_neg (by simpa using slash)]
              exact keyOf_ofList_cons c piece (pieces.map String.ofList)
  rw [components, Text.splitAt, joined, String.ofList_toList]

theorem foldl_walk_of_plain {path : Path} (plain : ∀ name ∈ path, IsPlain name) (place : Path) :
    path.foldl walk place = place ++ path := by
  induction path generalizing place with
  | nil => exact (List.append_nil place).symm
  | cons name rest ih =>
      have first := plain name List.mem_cons_self
      have moved : walk place name = place ++ [name] := by
        simp only [walk, first.nonempty, first.notHere, first.notUp, decide_false, Bool.or_self,
          Bool.false_eq_true, if_false]
      rw [List.foldl_cons, moved, ih (fun n member => plain n (List.mem_cons_of_mem name member)),
        List.append_assoc]
      rfl

theorem head?_keyOf_ne_slash {path : Path} (plain : IsPlainPath path) :
    (keyOf path).toList.head? ≠ some '/' := by
  obtain ⟨nonempty, plain⟩ := plain
  cases path with
  | nil => exact absurd rfl nonempty
  | cons name rest =>
      have first := plain name List.mem_cons_self
      obtain ⟨c, others, spelled⟩ := List.exists_cons_of_ne_nil
        (fun none => first.nonempty (String.toList_eq_nil_iff.1 none))
      have begins : ∃ later, (keyOf (name :: rest)).toList = c :: later := by
        cases rest with
        | nil => exact ⟨others, by rw [keyOf, String.intercalate_singleton, spelled]⟩
        | cons next more =>
            refine ⟨others ++ ("/" ++ keyOf (next :: more)).toList, ?_⟩
            rw [keyOf_cons_cons, String.append_assoc, String.toList_append, spelled]
            rfl
      obtain ⟨later, begins⟩ := begins
      rw [begins]
      intro slashed
      have same : c = '/' := Option.some.inj slashed
      exact first.noSlash (by rw [spelled, same]; exact List.mem_cons_self)

theorem below?_eq_some_iff {root place path : Path} :
    below? root place = some path ↔ path ≠ [] ∧ place = root ++ path := by
  unfold below?
  constructor
  · intro found
    obtain ⟨within, same⟩ := Option.ite_none_right_eq_some.1 found
    simp only [Bool.and_eq_true, decide_eq_true_eq, List.isPrefixOf_iff_prefix] at within
    obtain ⟨⟨rest, rfl⟩, longer⟩ := within
    rw [List.drop_left] at same
    cases same
    rw [List.length_append] at longer
    exact ⟨List.length_pos_iff.1 (by omega), rfl⟩
  · rintro ⟨inside, rfl⟩
    have longer := List.length_pos_iff.2 inside
    have within : root.isPrefixOf (root ++ path) = true :=
      List.isPrefixOf_iff_prefix.2 (List.prefix_append root path)
    rw [within, Bool.true_and, if_pos (by rw [List.length_append, decide_eq_true_eq]; omega),
      List.drop_left]

/-- A key leads to a path if its destination lies at that path strictly below the root. -/
theorem resolve_eq_ok_iff {root path : Path} {key : String} :
    resolve root key = .ok path ↔ path ≠ [] ∧ destination root key = root ++ path := by
  rw [← below?_eq_some_iff]
  unfold resolve
  cases below? root (destination root key) <;> simp

theorem resolve_eq_error {root : Path} {key : String}
    (nowhere : ∀ path, path ≠ [] → destination root key ≠ root ++ path) :
    resolve root key = .error (.escapingKey key) := by
  cases found : resolve root key with
  | ok path =>
      obtain ⟨inside, there⟩ := resolve_eq_ok_iff.1 found
      exact absurd there (nowhere path inside)
  | error fault =>
      unfold resolve at found
      split at found <;> cases found
      rfl

/-- A path is found again from any root by the key that spells it. -/
theorem resolve_keyOf {path : Path} (plain : IsPlainPath path) (root : Path) :
    resolve root (keyOf path) = .ok path := by
  refine resolve_eq_ok_iff.2 ⟨plain.nonempty, ?_⟩
  unfold destination
  rw [components_keyOf plain, if_neg (head?_keyOf_ne_slash plain), foldl_walk_of_plain plain.plain]

theorem keyOf_injective {path other : Path} (plain : IsPlainPath path)
    (otherPlain : IsPlainPath other) (same : keyOf path = keyOf other) : path = other := by
  rw [← components_keyOf plain, same, components_keyOf otherPlain]

/-- Whatever a key leads to is spelled by plain names, if the way to the root is. -/
theorem isPlainPath_of_resolve {root path : Path} {key : String}
    (plain : ∀ name ∈ root, IsPlain name) (found : resolve root key = .ok path) :
    IsPlainPath path := by
  obtain ⟨inside, there⟩ := resolve_eq_ok_iff.1 found
  refine ⟨inside, fun name member => ?_⟩
  have onTheWay : name ∈ destination root key := there ▸ List.mem_append_right root member
  exact isPlain_of_mem_destination plain onTheWay

/-- A name that a reference can begin with. -/
structure IsStoreName (name : String) : Prop where
  nonempty : name ≠ ""
  noColon : ':' ∉ name.toList

namespace Reference

theorem ofText_text {ref : Reference} (named : IsStoreName ref.store) (keyed : ref.key ≠ "") :
    ofText ref.text = .ok ref := by
  have spelled : ref.text.toList = ref.store.toList ++ ':' :: ref.key.toList := by
    rw [text, String.toList_append, String.toList_append, List.append_assoc]
    rfl
  have front : ref.text.toList.takeWhile (· ≠ ':') = ref.store.toList := by
    have notColon : ∀ c ∈ ref.store.toList, decide (c ≠ ':') = true := by
      intro c inside
      exact decide_eq_true (fun same => named.noColon (same ▸ inside))
    rw [spelled, List.takeWhile_append_of_pos notColon]
    simp
  have back : (ref.text.toList.drop ref.store.toList.length).drop 1 = ref.key.toList := by
    rw [spelled, List.drop_left]
    rfl
  have storeFilled : ref.store.toList.isEmpty = false := by
    rw [List.isEmpty_eq_false_iff]
    exact fun none => named.nonempty (String.toList_eq_nil_iff.1 none)
  have keyFilled : ref.key.toList.isEmpty = false := by
    rw [List.isEmpty_eq_false_iff]
    exact fun none => keyed (String.toList_eq_nil_iff.1 none)
  simp only [ofText, front, back, storeFilled, keyFilled, Bool.or_self, Bool.false_eq_true,
    if_false, String.ofList_toList]

theorem text_injective {ref other : Reference} (named : IsStoreName ref.store)
    (keyed : ref.key ≠ "") (otherNamed : IsStoreName other.store) (otherKeyed : other.key ≠ "")
    (same : ref.text = other.text) : ref = other := by
  have found := ofText_text named keyed
  rw [same, ofText_text otherNamed otherKeyed] at found
  exact (Except.ok.inj found).symm

end Reference

theorem keyOf_ne_empty {path : Path} (plain : IsPlainPath path) : keyOf path ≠ "" := by
  intro empty
  have spelled := components_keyOf plain
  rw [empty] at spelled
  have here : "" ∈ path := by
    rw [← spelled]
    decide
  exact (plain.plain "" here).nonempty rfl

end Storage
end Issuance
