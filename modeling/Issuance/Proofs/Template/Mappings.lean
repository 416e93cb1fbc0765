import Issuance.Template.Mapping
import Issuance.Assoc
import Issuance.Proofs.Results
/-!
Mappings of placeholders to the fields of a catalog. Whatever is proposed, a template maps its
placeholders to nothing or to fields of the catalog.
-/

namespace Issuance

namespace Mapping

variable {catalog : Catalog}

/-- Every placeholder is mapped to nothing or to a field of the catalog. -/
def IsWithin (mapping : Mapping) (catalog : Catalog) : Prop :=
  ∀ entry ∈ mapping, ∀ key, entry.2 = some key → key.isEmpty = true ∨ catalog.contains key = true

theorem IsWithin.contains {mapping : Mapping} (within : mapping.IsWithin catalog)
    {placeholder key : String} (mapped : mapping.target? placeholder = some key) :
    catalog.contains key = true := by
  unfold target? at mapped
  split at mapped
  · next other found =>
      split at mapped
      · cases mapped
      · next filled =>
          cases mapped
          exact (within _ (Assoc.mem_of_get? found) key rfl).resolve_left filled
  · cases mapped

theorem IsWithin.put {mapping : Mapping} (within : mapping.IsWithin catalog) (placeholder : String)
    {key : String} (known : key.isEmpty = true ∨ catalog.contains key = true) :
    IsWithin (Assoc.put placeholder (some key) mapping) catalog := by
  intro entry member other mapped
  rcases Assoc.mem_put member with rfl | present
  · cases mapped
    exact known
  · exact within entry present other mapped

theorem isWithin_unmapped (placeholders : List String) :
    IsWithin (placeholders.map fun p => (p, some "")) catalog := by
  intro entry member key mapped
  obtain ⟨p, -, rfl⟩ := List.mem_map.1 member
  cases mapped
  exact Or.inl rfl

end Mapping

/-- A proposed mapping that is accepted: an object that maps placeholders to fields of the catalog or
to nothing. -/
def IsAcceptableMapping (catalog : Catalog) (placeholders : List String) (proposed : Json) : Prop :=
  ∃ members, proposed = .obj members ∧ ∀ entry ∈ members, entry.1 ∈ placeholders ∧
    (entry.2 = .null ∨
      ∃ key, entry.2 = .str key ∧ (key = "" ∨ catalog.contains key = true))

theorem mappingValue?_eq_some_iff {value : Json} {target : Option String} :
    mappingValue? value = some target ↔
      (value = .null ∨ ∃ key, value = .str key) ∧ value.asStr? = target := by
  cases value with
  | null => simp only [mappingValue?, Json.asStr?, Option.some.injEq, true_or, true_and]
  | str s => simp only [mappingValue?, Json.asStr?, Option.some.injEq, reduceCtorEq, false_or,
      Json.str.injEq, exists_eq', true_and]
  | bool b => simp only [mappingValue?, reduceCtorEq, exists_false, or_self, false_and]
  | number n => simp only [mappingValue?, reduceCtorEq, exists_false, or_self, false_and]
  | arr items => simp only [mappingValue?, reduceCtorEq, exists_false, or_self, false_and]
  | obj members => simp only [mappingValue?, reduceCtorEq, exists_false, or_self, false_and]

theorem mapM_mappingValue?_eq_some_iff {members : List (String × Json)} {mapping : Mapping} :
    (members.mapM fun (p, value) => (mappingValue? value).map (p, ·)) = some mapping ↔
      (∀ entry ∈ members, entry.2 = .null ∨ ∃ key, entry.2 = .str key) ∧
        members.map (fun entry => (entry.1, entry.2.asStr?)) = mapping := by
  induction members generalizing mapping with
  | nil =>
      simp only [List.mapM_nil, Option.pure_def, Option.some.injEq, List.not_mem_nil, false_implies,
        implies_true, List.map_nil, true_and]
  | cons first rest ih =>
      simp only [List.mapM_cons, Option.bind_eq_bind, Option.bind_eq_some_iff, Option.map_eq_some_iff,
        mappingValue?_eq_some_iff, ih, List.forall_mem_cons, List.map_cons, Option.pure_def,
        Option.some.injEq]
      constructor
      · rintro ⟨_, ⟨target, ⟨first, rfl⟩, rfl⟩, _, ⟨others, rfl⟩, rfl⟩
        exact ⟨⟨first, others⟩, rfl⟩
      · rintro ⟨⟨first, others⟩, rfl⟩
        exact ⟨_, ⟨_, ⟨first, rfl⟩, rfl⟩, _, ⟨others, rfl⟩, rfl⟩

theorem Json.asStr?_eq_some_iff {value : Json} {s : String} :
    value.asStr? = some s ↔ value = .str s := by
  cases value with
  | str t => simp only [asStr?, Option.some.injEq, Json.str.injEq]
  | null => exact ⟨nofun, nofun⟩
  | bool b => exact ⟨nofun, nofun⟩
  | number n => exact ⟨nofun, nofun⟩
  | arr items => exact ⟨nofun, nofun⟩
  | obj members => exact ⟨nofun, nofun⟩

/-- No field of a proposed mapping is unknown. -/
theorem unknownFields_eq_nil_iff {catalog : Catalog} {members : List (String × Json)} :
    ((members.map fun entry => (entry.1, entry.2.asStr?)).filterMap Prod.snd).filter
        (fun key => !key.isEmpty && !catalog.contains key) = [] ↔
      ∀ entry ∈ members, ∀ key, entry.2 = .str key → key = "" ∨ catalog.contains key = true := by
  rw [List.filter_eq_nil_iff]
  simp only [List.filterMap_map, List.mem_filterMap, Function.comp_apply, Json.asStr?_eq_some_iff,
    Bool.and_eq_true, Bool.not_eq_true', not_and, Bool.not_eq_false, String.isEmpty_eq_false_iff]
  constructor
  · intro known entry member key text
    by_cases empty : key = ""
    · exact Or.inl empty
    · exact Or.inr (known key ⟨entry, member, text⟩ empty)
  · rintro known key ⟨entry, member, text⟩ filled
    exact (known entry member key text).resolve_left filled

/-- A proposed mapping passes all checks if and only if it is acceptable. -/
theorem checkMapping_eq_ok_iff {catalog : Catalog} {placeholders : List String} {proposed : Json}
    {mapping : Mapping} :
    checkMapping catalog placeholders proposed = .ok mapping ↔
      IsAcceptableMapping catalog placeholders proposed ∧
        proposed.members.map (fun entry => (entry.1, entry.2.asStr?)) = mapping := by
  unfold checkMapping
  cases proposed with
  | obj members =>
      simp only [bind, Except.bind, pure, Except.pure, throw, throwThe, MonadExceptOf.throw,
        guard_eq_ok_iff, Bool.not_eq_true', Bool.not_eq_false, List.isEmpty_iff,
        List.filter_eq_nil_iff, List.forall_mem_map, List.contains_iff_mem]
      constructor
      · rintro ⟨placed, done⟩
        split at done
        · next read =>
            obtain ⟨texts, rfl⟩ := mapM_mappingValue?_eq_some_iff.1 read
            obtain ⟨known, done⟩ := guard_eq_ok_iff.1 done
            rw [Bool.not_eq_false, List.isEmpty_iff, unknownFields_eq_nil_iff] at known
            refine ⟨⟨members, rfl, fun entry member => ⟨placed entry member, ?_⟩⟩,
              Except.ok.inj done⟩
            rcases texts entry member with none | ⟨key, text⟩
            · exact Or.inl none
            · exact Or.inr ⟨key, text, known entry member key text⟩
        · cases done
      · rintro ⟨⟨_, ⟨⟩, acceptable⟩, rfl⟩
        have texts : ∀ entry ∈ members, entry.2 = .null ∨ ∃ key, entry.2 = .str key := by
          intro entry member
          exact (acceptable entry member).2.imp_right fun ⟨key, text, _⟩ => ⟨key, text⟩
        have known : ∀ entry ∈ members, ∀ key, entry.2 = .str key →
            key = "" ∨ catalog.contains key = true := by
          intro entry member key text
          rcases (acceptable entry member).2 with none | ⟨other, same, allowed⟩
          · rw [text] at none
            cases none
          · rw [text] at same
            cases same
            exact allowed
        refine ⟨fun entry member => (acceptable entry member).1, ?_⟩
        have read := mapM_mappingValue?_eq_some_iff.2 ⟨texts, rfl⟩
        simp only [read, unknownFields_eq_nil_iff.2 known, List.isEmpty_nil, Bool.true_eq_false,
          if_false, Json.members]
  | null => exact ⟨nofun, nofun⟩
  | str s => exact ⟨nofun, nofun⟩
  | bool b => exact ⟨nofun, nofun⟩
  | number n => exact ⟨nofun, nofun⟩
  | arr items => exact ⟨nofun, nofun⟩

/-- A mapping that has been checked maps placeholders, to nothing or to fields of the catalog. -/
theorem checkMapping_cases {catalog : Catalog} {placeholders : List String} {proposed : Json}
    {mapping : Mapping} (checked : checkMapping catalog placeholders proposed = .ok mapping) :
    mapping.map Prod.fst ⊆ placeholders ∧ mapping.IsWithin catalog := by
  obtain ⟨⟨members, rfl, acceptable⟩, rfl⟩ := checkMapping_eq_ok_iff.1 checked
  constructor
  · intro p member
    rw [List.map_map] at member
    obtain ⟨entry, present, rfl⟩ := List.mem_map.1 member
    exact (acceptable entry present).1
  · intro entry member key mapped
    obtain ⟨given, present, rfl⟩ := List.mem_map.1 member
    rw [Json.asStr?_eq_some_iff] at mapped
    rcases (acceptable given present).2 with none | ⟨other, text, allowed⟩
    · rw [mapped] at none
      cases none
    · rw [mapped] at text
      cases text
      exact allowed.imp_left String.isEmpty_iff.2

/-- What a proposed mapping says of a placeholder, if it mentions it: null says that it is empty.
Of equal members the last one counts. -/
def mention? (proposed : Json) (p : String) : Option String :=
  (Assoc.get? p proposed.members.reverse).map fun value => value.asStr?.getD ""

/-- Entries take the place of those of the mapping one after the other. -/
theorem foldl_put_eq {placeholders : List String} (distinct : placeholders.Nodup) {entries : Mapping}
    (placed : entries.map Prod.fst ⊆ placeholders) (value : String → String) :
    entries.foldl (fun merged (p, key) => Assoc.put p (some (key.getD "")) merged)
        (placeholders.map fun p => (p, some (value p))) =
      placeholders.map fun p =>
        (p, some (((Assoc.get? p entries.reverse).map fun key => key.getD "").getD (value p))) := by
  induction entries generalizing value with
  | nil => rfl
  | cons entry rest ih =>
      obtain ⟨q, key⟩ := entry
      rw [List.map_cons, List.cons_subset] at placed
      have first : Assoc.put q (some (key.getD "")) (placeholders.map fun p => (p, some (value p))) =
          placeholders.map fun p => (p, some (if p = q then key.getD "" else value p)) := by
        rw [Assoc.put_keyed distinct (fun p => some (value p)) _ placed.1]
        refine List.map_congr_left fun p _ => ?_
        split <;> rfl
      rw [List.foldl_cons]
      change rest.foldl _ (Assoc.put q (some (key.getD "")) _) = _
      rw [first, ih placed.2]
      refine List.map_congr_left fun p _ => ?_
      rw [List.reverse_cons, Assoc.get?_append]
      cases Assoc.get? p rest.reverse with
      | some later => rfl
      | none =>
          rw [Option.none_or, Assoc.get?, Assoc.get?]
          by_cases same : q = p
          · rw [if_pos same, if_pos same.symm]
            rfl
          · rw [if_neg same, if_neg fun equal => same equal.symm]

theorem mergeMapping_eq {catalog : Catalog} {placeholders : List String}
    (distinct : placeholders.Nodup) {proposed : Json} {mapping : Mapping}
    (checked : checkMapping catalog placeholders proposed = .ok mapping)
    (value : String → String) :
    mergeMapping placeholders (placeholders.map fun p => (p, some (value p))) mapping =
      placeholders.map fun p => (p, some ((mention? proposed p).getD (value p))) := by
  have placed := (checkMapping_cases checked).1
  obtain ⟨-, rfl⟩ := checkMapping_eq_ok_iff.1 checked
  unfold mergeMapping
  have kept : (placeholders.map fun p =>
      (p, (Assoc.get? p (placeholders.map fun q => (q, some (value q)))).getD (some ""))) =
        placeholders.map fun p => (p, some (value p)) := by
    refine List.map_congr_left fun p member => ?_
    rw [Assoc.get?_keyed _ member, Option.getD_some]
  rw [kept, foldl_put_eq distinct placed]
  refine List.map_congr_left fun p _ => ?_
  rw [← List.map_reverse, Assoc.get?_map, Option.map_map]
  rfl

theorem isWithin_mergeMapping {catalog : Catalog} (placeholders : List String) {old new : Mapping}
    (oldWithin : old.IsWithin catalog) (newWithin : new.IsWithin catalog) :
    (mergeMapping placeholders old new).IsWithin catalog := by
  unfold mergeMapping
  have kept : Mapping.IsWithin
      (placeholders.map fun p => (p, (Assoc.get? p old).getD (some ""))) catalog := by
    intro entry member key mapped
    obtain ⟨p, -, rfl⟩ := List.mem_map.1 member
    cases found : Assoc.get? p old with
    | none =>
        simp only [found] at mapped
        cases mapped
        exact Or.inl rfl
    | some target =>
        simp only [found] at mapped
        exact oldWithin _ (Assoc.mem_of_get? found) key mapped
  generalize (placeholders.map fun p => (p, (Assoc.get? p old).getD (some ""))) = merged at kept
  induction new generalizing merged with
  | nil => exact kept
  | cons entry rest ih =>
      obtain ⟨p, target⟩ := entry
      refine ih (fun other member => newWithin other (List.mem_cons_of_mem _ member)) _
        (kept.put p ?_)
      cases target with
      | none => exact Or.inl rfl
      | some key => exact newWithin (p, some key) List.mem_cons_self key rfl

end Issuance
