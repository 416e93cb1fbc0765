import Mathlib.Data.List.Perm.Subperm
import Issuance.Storage.Disk
import Issuance.Proofs.Storage.Volumes
/-!
Real paths. A place that is found by following a path has plain names alone on the way to it, and
none of the places on the way is a link. Where no link is met, following is walking. Between two
texts of such places, to begin with the one and a slash is to lie below it.
-/

namespace Issuance
namespace Storage

theorem keyOf_append {path other : Path} (nonempty : path ≠ []) (otherNonempty : other ≠ []) :
    keyOf (path ++ other) = keyOf path ++ "/" ++ keyOf other := by
  induction path with
  | nil => exact absurd rfl nonempty
  | cons name rest ih =>
      obtain ⟨first, others, rfl⟩ := List.exists_cons_of_ne_nil otherNonempty
      cases rest with
      | nil =>
          rw [List.cons_append, List.nil_append, keyOf_cons_cons]
          rfl
      | cons next more =>
          rw [List.cons_append, List.cons_append, keyOf_cons_cons, keyOf_cons_cons,
            ← List.cons_append, ih (List.cons_ne_nil next more)]
          simp only [String.append_assoc]

theorem isPlain_of_isName {name : String} (named : isName name = true)
    (noSlash : '/' ∉ name.toList) : IsPlain name := by
  simp only [isName, Bool.not_eq_true', Bool.or_eq_false_iff, decide_eq_false_iff_not] at named
  exact ⟨named.1.1, named.1.2, named.2, noSlash⟩

/-- A component is walked over, walked back, or goes on to something that it names. -/
theorem walk_cases (place : Path) (component : String) :
    (isName component = false ∧
        (walk place component = place ∨ walk place component = place.dropLast)) ∨
      (isName component = true ∧ walk place component = place ++ [component]) := by
  unfold walk isName
  by_cases stays : (decide (component = "") || decide (component = ".")) = true
  · rw [if_pos stays, stays]
    exact Or.inl ⟨rfl, Or.inl rfl⟩
  · rw [if_neg stays, eq_false_of_ne_true stays]
    by_cases up : component = ".."
    · rw [if_pos up, decide_eq_true up]
      exact Or.inl ⟨rfl, Or.inr rfl⟩
    · rw [if_neg up, decide_eq_false up]
      exact Or.inr ⟨rfl, rfl⟩

/-- All names on the way to a place are plain, and none of the places on the way is a link. -/
structure IsReal (links : List (Path × String)) (place : Path) : Prop where
  plain : ∀ name ∈ place, IsPlain name
  linkFree : ∀ front, front ≠ [] → front <+: place → Assoc.get? front links = none

section Following

variable {links : List (Path × String)} {place there : Path}

theorem isReal_nil : IsReal links [] where
  plain := fun _ none => nomatch none
  linkFree := fun _ inside above => absurd (List.prefix_nil.1 above) inside

theorem IsReal.of_prefix (real : IsReal links there) (above : place <+: there) :
    IsReal links place where
  plain := fun name member => real.plain name (above.subset member)
  linkFree := fun front inside before => real.linkFree front inside (before.trans above)

theorem IsReal.concat (real : IsReal links place) {name : String} (plain : IsPlain name)
    (free : Assoc.get? (place ++ [name]) links = none) : IsReal links (place ++ [name]) where
  plain := by
    intro other member
    rcases List.mem_append.1 member with earlier | last
    · exact real.plain other earlier
    · exact List.mem_singleton.1 last ▸ plain
  linkFree := by
    intro front inside above
    rcases List.prefix_concat_iff.1 above with rfl | earlier
    · exact free
    · exact real.linkFree front inside earlier

/-- What is followed from a real place leads to a real place, if what is entered does. -/
theorem isReal_follow {enter : Path → Path → String → Except String Path}
    (entering : ∀ place here target there, IsReal links place →
      enter place here target = .ok there → IsReal links there)
    {parts : List String} (noSlash : ∀ part ∈ parts, '/' ∉ part.toList)
    (real : IsReal links place) (followed : follow links enter place parts = .ok there) :
    IsReal links there := by
  induction parts generalizing place with
  | nil => exact Except.ok.inj followed ▸ real
  | cons part rest ih =>
      have later := fun p member => noSlash p (List.mem_cons_of_mem part member)
      rw [follow] at followed
      rcases walk_cases place part with ⟨unnamed, stays | up⟩ | ⟨named, onward⟩
      · simp only [unnamed, Bool.false_eq_true, if_false, stays] at followed
        exact ih later real followed
      · simp only [unnamed, Bool.false_eq_true, if_false, up] at followed
        exact ih later (real.of_prefix (List.dropLast_prefix place)) followed
      · simp only [named, if_true, onward] at followed
        have plain := isPlain_of_isName named (noSlash part List.mem_cons_self)
        cases found : Assoc.get? (place ++ [part]) links with
        | none =>
            simp only [found] at followed
            exact ih later (real.concat plain found) followed
        | some target =>
            simp only [found] at followed
            cases entered : enter place (place ++ [part]) target with
            | ok next =>
                simp only [entered] at followed
                exact ih later (entering _ _ _ _ real entered) followed
            | error left =>
                simp only [entered] at followed
                cases followed

theorem isReal_enter (depth : Nat) (pending : List Path) (real : IsReal links place) {here : Path}
    {target : String} (entered : enter links depth pending place here target = .ok there) :
    IsReal links there := by
  induction depth generalizing pending place here target there with
  | zero => cases entered
  | succ depth ih =>
      rw [enter] at entered
      split at entered
      · cases entered
      · refine isReal_follow ?_ (fun _ member => slash_not_mem_of_mem_components member) ?_ entered
        · exact fun _ _ _ _ real entered => ih _ real entered
        · split
          · exact isReal_nil
          · exact real

/-- Two ways to enter links that agree on all of them follow to the same end. -/
theorem follow_congr {one other : Path → Path → String → Except String Path}
    (agree : ∀ place here target, Assoc.get? here links = some target →
      one place here target = other place here target) (place : Path) (parts : List String) :
    follow links one place parts = follow links other place parts := by
  induction parts generalizing place with
  | nil => rfl
  | cons part rest ih =>
      rw [follow, follow]
      split
      · exact ih _
      · next target found =>
          split at found
          · rw [agree place _ target found]
            cases other place (walk place part) target with
            | ok next => exact ih next
            | error left => rfl
          · cases found

/-- No link is met that is not there: as many steps into links as there are links are enough. -/
theorem enter_succ {depth : Nat} {pending : List Path} (once : pending.Nodup)
    (known : pending ⊆ links.map Prod.fst) (enough : links.length ≤ depth + pending.length)
    (place : Path) {here : Path} {target : String} (found : Assoc.get? here links = some target) :
    enter links (depth + 1) pending place here target =
      enter links depth pending place here target := by
  have there : here ∈ links.map Prod.fst := by
    rw [← Assoc.isSome_get?_iff, found]
    rfl
  induction depth generalizing pending place here target with
  | zero =>
      have all : pending.Perm (links.map Prod.fst) := by
        refine (List.subperm_of_subset once known).perm_of_length_le ?_
        rw [List.length_map]
        omega
      rw [enter, enter, if_pos (all.mem_iff.2 there)]
  | succ depth ih =>
      rw [enter, enter]
      by_cases met : here ∈ pending
      · rw [if_pos met, if_pos met]
      · rw [if_neg met, if_neg met]
        refine follow_congr (fun place next target found => ?_) _ _
        refine ih (List.nodup_cons.2 ⟨met, once⟩) (List.cons_subset.2 ⟨there, known⟩) ?_ place
          found ?_
        · rw [List.length_cons]
          omega
        · rw [← Assoc.isSome_get?_iff, found]
          rfl

/-- Where no link is met, following is walking. -/
theorem follow_of_clear {enter : Path → Path → String → Except String Path} {parts : List String}
    (clear : ∀ front, front <+: parts → front.foldl walk place ≠ [] →
      Assoc.get? (front.foldl walk place) links = none) :
    follow links enter place parts = .ok (parts.foldl walk place) := by
  induction parts generalizing place with
  | nil => rfl
  | cons part rest ih =>
      have here : (if isName part then Assoc.get? (walk place part) links else none) = none := by
        rcases walk_cases place part with ⟨unnamed, -⟩ | ⟨named, onward⟩
        · rw [unnamed]
          rfl
        · rw [if_pos named]
          refine clear [part] (List.cons_prefix_cons.2 ⟨rfl, List.nil_prefix⟩) ?_
          rw [List.foldl_cons, onward]
          exact List.append_ne_nil_of_right_ne_nil _ (List.cons_ne_nil _ _)
      rw [follow]
      simp only [here]
      exact ih fun front above => clear (part :: front) (List.cons_prefix_cons.2 ⟨rfl, above⟩)

theorem follow_append {enter : Path → Path → String → Except String Path} {parts : List String}
    (followed : follow links enter place parts = .ok there) (others : List String) :
    follow links enter place (parts ++ others) = follow links enter there others := by
  induction parts generalizing place with
  | nil =>
      cases followed
      rfl
  | cons part rest ih =>
      rw [follow] at followed
      rw [List.cons_append, follow]
      cases met : (if isName part then Assoc.get? (walk place part) links else none) with
      | none =>
          simp only [met] at followed ⊢
          exact ih followed
      | some target =>
          simp only [met] at followed ⊢
          cases entered : enter place (walk place part) target with
          | ok next =>
              simp only [entered] at followed ⊢
              exact ih followed
          | error left =>
              simp only [entered] at followed
              cases followed

end Following

section Texts

variable {root place path : Path}

/-- A place whose text it is: the names on the way to it are the components of the text. -/
theorem components_absolute (plain : IsPlainPath place) :
    components (absolute place) = "" :: place := by
  have parted := components_append "" (keyOf place)
  rw [String.empty_append, components_keyOf plain] at parted
  exact parted

theorem destination_absolute (plain : ∀ name ∈ place, IsPlain name) :
    destination [] (absolute place) = place := by
  cases place with
  | nil => rfl
  | cons name rest =>
      rw [destination, ite_self, components_absolute ⟨List.cons_ne_nil name rest, plain⟩]
      exact foldl_walk_of_plain plain []

theorem absolute_append (nonempty : root ≠ []) (inside : path ≠ []) :
    absolute (root ++ path) = absolute root ++ "/" ++ keyOf path := by
  rw [absolute, keyOf_append nonempty inside, absolute]
  simp only [String.append_assoc]

theorem toList_absolute (place : Path) : (absolute place).toList = '/' :: (keyOf place).toList := by
  rw [absolute, String.toList_append]
  rfl

/-- The text of a place does not end with a slash. -/
theorem getLast?_absolute (rooted : IsPlainPath root) :
    (absolute root).toList.getLast?.getD '/' ≠ '/' := by
  obtain ⟨before, last, whole⟩ := (List.eq_nil_or_concat root).resolve_left rooted.nonempty
  rw [List.concat_eq_append] at whole
  subst whole
  have plain := rooted.plain last (List.mem_append_right _ List.mem_cons_self)
  have ending : ∃ front, (absolute (before ++ [last])).toList = front ++ last.toList := by
    cases before with
    | nil =>
        refine ⟨['/'], ?_⟩
        rw [toList_absolute, List.nil_append, keyOf, String.intercalate_singleton]
        rfl
    | cons name rest =>
        refine ⟨(absolute (name :: rest) ++ "/").toList, ?_⟩
        rw [absolute_append (List.cons_ne_nil name rest) (List.cons_ne_nil last []), keyOf,
          String.intercalate_singleton, String.toList_append]
  obtain ⟨front, spelled⟩ := ending
  have filled : last.toList ≠ [] := fun none => plain.nonempty (String.toList_eq_nil_iff.1 none)
  rw [spelled, List.getLast?_append_of_ne_nil _ filled, List.getLast?_eq_getLast_of_ne_nil filled,
    Option.getD_some]
  exact fun slash => plain.noSlash (slash ▸ List.getLast_mem filled)

/-- Of two texts of places, the one begins with the other one and a slash just if it is of a place
strictly below the other one. -/
theorem isPrefix_absolute_iff (rooted : IsPlainPath root) (plain : ∀ name ∈ place, IsPlain name) :
    (absolute root ++ "/").toList <+: (absolute place).toList ↔ root <+: place ∧ root ≠ place := by
  constructor
  · rintro ⟨rest, spelled⟩
    have whole : absolute root ++ "/" ++ String.ofList rest = absolute place := by
      apply String.toList_inj.1
      rw [String.toList_append, String.toList_ofList]
      exact spelled
    have parts := congrArg components whole
    rw [components_append, components_absolute rooted] at parts
    have further := components_ne_nil (String.ofList rest)
    have inside : place ≠ [] := by
      rintro rfl
      have short : components (absolute []) = ["", ""] := by decide
      rw [short, List.cons_append, List.cons.injEq] at parts
      have two := congrArg List.length parts.2
      have one := List.length_pos_iff.2 rooted.nonempty
      have more := List.length_pos_iff.2 further
      rw [List.length_append, List.length_singleton] at two
      omega
    rw [components_absolute ⟨inside, plain⟩, List.cons_append, List.cons.injEq] at parts
    refine ⟨⟨_, parts.2⟩, ?_⟩
    rintro rfl
    exact further (List.append_cancel_left (parts.2.trans (List.append_nil root).symm))
  · rintro ⟨⟨path, rfl⟩, proper⟩
    have inside : path ≠ [] := by
      rintro rfl
      exact proper (List.append_nil root).symm
    rw [absolute_append rooted.nonempty inside]
    exact ⟨(keyOf path).toList, String.toList_append.symm⟩

/-- A text with two slashes at its beginning is of no place below a root. -/
theorem not_isPrefix_of_doubled (rooted : IsPlainPath root) (place : Path) :
    ¬(absolute root ++ "/").toList <+: ("/" ++ absolute place).toList := by
  have filled : (keyOf root).toList ≠ [] :=
    fun none => keyOf_ne_empty rooted (String.toList_eq_nil_iff.1 none)
  obtain ⟨c, rest, spelled⟩ := List.exists_cons_of_ne_nil filled
  have notSlash := head?_keyOf_ne_slash rooted
  rw [spelled, List.head?_cons] at notSlash
  have doubled : ("/" ++ absolute place).toList = '/' :: '/' :: (keyOf place).toList := by
    rw [String.toList_append, toList_absolute]
    rfl
  rw [doubled, String.toList_append, toList_absolute, spelled]
  intro same
  exact notSlash (congrArg some (List.cons_prefix_cons.1 (List.cons_prefix_cons.1 same).2).1)

end Texts

namespace Disk

variable {α : Type} {disk : Disk α} {root : Path}

/-- More steps into links than there are links lead nowhere else. -/
theorem realPath_of_depth {depth : Nat} (enough : disk.links.length ≤ depth) (text : String) :
    disk.realPath text = follow disk.links (enter disk.links depth [])
      (if text.toList.head? = some '/' then [] else disk.working) (components text) := by
  induction enough with
  | refl => rfl
  | step enough ih =>
      refine ih.trans (follow_congr (fun place here target found => ?_) _ _)
      exact (enter_succ List.nodup_nil (List.nil_subset _) enough place found).symm

theorem isReal_realPath (working : IsReal disk.links disk.working) {text : String}
    (found : disk.realPath text = .ok root) : IsReal disk.links root := by
  refine isReal_follow ?_ (fun _ member => slash_not_mem_of_mem_components member) ?_ found
  · exact fun _ _ _ _ real entered => isReal_enter _ _ real entered
  · split
    · exact isReal_nil
    · exact working

/-- The text of a real path is of a place of plain names, perhaps with a second slash in front. -/
theorem realText_cases (working : IsReal disk.links disk.working) (text : String) :
    ∃ place, (∀ name ∈ place, IsPlain name) ∧
      (disk.realText text = absolute place ∨ disk.realText text = "/" ++ absolute place) := by
  unfold realText
  cases found : disk.realPath text with
  | ok place => exact ⟨place, (isReal_realPath working found).plain, Or.inl rfl⟩
  | error left =>
      refine ⟨destination [] left, fun name member => ?_, ?_⟩
      · exact isPlain_of_mem_destination (fun _ none => absurd none List.not_mem_nil) member
      · simp only [normal]
        split
        · exact Or.inr rfl
        · exact Or.inl (String.empty_append)

/-- Following a key from the root is following it from the beginning, when it is joined to the text
of the root. -/
theorem realPath_join (real : IsReal disk.links root) (proper : root ≠ []) (key : String) :
    disk.realPath (join (absolute root) key) =
      follow disk.links (enter disk.links disk.links.length [])
        (if key.toList.head? = some '/' then [] else root) (components key) := by
  have rooted : IsPlainPath root := ⟨proper, real.plain⟩
  unfold join
  by_cases leaves : key.toList.head? = some '/'
  · simp only [if_pos leaves, realPath]
  · have begins : (absolute root ++ "/" ++ key).toList.head? = some '/' := by
      rw [String.toList_append, String.toList_append, toList_absolute]
      rfl
    rw [if_neg leaves, if_neg (getLast?_absolute rooted), realPath, if_pos begins,
      components_append, components_absolute rooted, if_neg leaves]
    refine follow_append ?_ (components key)
    have walked : ∀ front, front <+: "" :: root → front.foldl walk [] <+: root := by
      intro front above
      cases front with
      | nil => exact List.nil_prefix
      | cons first rest =>
          obtain ⟨rfl, within⟩ := List.cons_prefix_cons.1 above
          have plain : ∀ name ∈ rest, IsPlain name :=
            fun name member => real.plain name (within.subset member)
          exact (foldl_walk_of_plain plain []).symm ▸ within
    rw [follow_of_clear fun front above inside => real.linkFree _ inside (walked front above)]
    exact congrArg Except.ok (foldl_walk_of_plain real.plain [])

end Disk
end Storage
end Issuance
