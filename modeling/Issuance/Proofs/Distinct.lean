import Issuance.Distinct
import Mathlib.Data.List.Sort
/-!
The first occurrences in a list: which elements are kept, in which order, and at which places they
stand. Two lists with the same elements may differ in their places, so the places are what tells
where an element comes first.
-/

namespace Issuance

section

variable {α : Type} [DecidableEq α]

theorem mem_distinctBeyond {a : α} {seen xs : List α} :
    a ∈ distinctBeyond id seen xs ↔ a ∈ xs ∧ a ∉ seen := by
  induction xs generalizing seen with
  | nil => simp only [distinctBeyond, List.not_mem_nil, false_and]
  | cons first rest ih =>
      rw [distinctBeyond]
      by_cases known : id first ∈ seen
      · rw [if_pos known, ih, List.mem_cons]
        constructor
        · rintro ⟨member, new⟩
          exact ⟨Or.inr member, new⟩
        · rintro ⟨rfl | member, new⟩
          · exact absurd known new
          · exact ⟨member, new⟩
      · rw [if_neg known, List.mem_cons, ih, List.mem_cons, List.mem_cons]
        constructor
        · rintro (rfl | ⟨member, new⟩)
          · exact ⟨Or.inl rfl, known⟩
          · exact ⟨Or.inr member, fun old => new (Or.inr old)⟩
        · rintro ⟨rfl | member, new⟩
          · exact Or.inl rfl
          · by_cases same : a = first
            · exact Or.inl same
            · exact Or.inr ⟨member, fun old => old.elim same new⟩

theorem mem_distinct {a : α} {xs : List α} :
    a ∈ distinct xs ↔ a ∈ xs := by
  unfold distinct distinctBy
  rw [mem_distinctBeyond]
  exact and_iff_left List.not_mem_nil

private theorem nodup_distinctBeyond {seen xs : List α} :
    (distinctBeyond id seen xs).Nodup := by
  induction xs generalizing seen with
  | nil => exact List.nodup_nil
  | cons first rest ih =>
      rw [distinctBeyond]
      by_cases known : id first ∈ seen
      · rw [if_pos known]
        exact ih
      · rw [if_neg known, List.nodup_cons]
        refine ⟨?_, ih⟩
        intro again
        exact (mem_distinctBeyond.1 again).2 List.mem_cons_self

theorem nodup_distinct (xs : List α) : (distinct xs).Nodup :=
  nodup_distinctBeyond

private theorem distinctBeyond_filter (p : α → Bool)
    {seen fewer : List α} (agree : ∀ a, p a = true → (a ∈ fewer ↔ a ∈ seen)) (xs : List α) :
    distinctBeyond id fewer (xs.filter p) = (distinctBeyond id seen xs).filter p := by
  induction xs generalizing seen fewer with
  | nil => rfl
  | cons first rest ih =>
      rw [distinctBeyond]
      cases wanted : p first with
      | false =>
          have unwanted : ¬p first = true := by
            rw [wanted]
            exact Bool.false_ne_true
          have onward : ∀ a, p a = true → (a ∈ fewer ↔ a ∈ id first :: seen) := by
            intro a isWanted
            rw [agree a isWanted, List.mem_cons]
            refine ⟨Or.inr, fun either => either.resolve_left ?_⟩
            rintro rfl
            exact unwanted isWanted
          rw [List.filter_cons_of_neg unwanted]
          by_cases known : id first ∈ seen
          · rw [if_pos known, ih agree]
          · rw [if_neg known, List.filter_cons_of_neg unwanted, ih onward]
      | true =>
          have same : id first ∈ fewer ↔ id first ∈ seen := agree first wanted
          rw [List.filter_cons_of_pos wanted, distinctBeyond]
          by_cases known : id first ∈ seen
          · rw [if_pos known, if_pos (same.2 known), ih agree]
          · rw [if_neg known, if_neg (known ∘ same.1), List.filter_cons_of_pos wanted, ih]
            intro a isWanted
            rw [List.mem_cons, List.mem_cons, agree a isWanted]

/-- To leave some elements out makes no difference to the first occurrences of the others. -/
theorem distinct_filter (p : α → Bool) (xs : List α) :
    distinct (xs.filter p) = (distinct xs).filter p :=
  distinctBeyond_filter p (fun _ _ => Iff.rfl) xs

/-- Only which elements were seen matters, not how they are kept. -/
private theorem distinctBeyond_congr {seen seen' : List α}
    (agree : ∀ a, a ∈ seen' ↔ a ∈ seen) (xs : List α) :
    distinctBeyond id seen' xs = distinctBeyond id seen xs := by
  have kept := distinctBeyond_filter (fun _ => true) (fun a _ => agree a) xs
  rwa [List.filter_true, List.filter_true] at kept

/-- To go through a list and put behind what is new comes to the same as to leave out what was
seen. -/
theorem foldl_append_new (listed xs : List α) :
    xs.foldl (fun listed a => if listed.contains a then listed else listed ++ [a]) listed =
      listed ++ distinctBeyond id listed xs := by
  induction xs generalizing listed with
  | nil => exact (List.append_nil listed).symm
  | cons first rest ih =>
      rw [List.foldl_cons, distinctBeyond, List.contains_eq_mem]
      by_cases known : first ∈ listed
      · have seen : id first ∈ listed := known
        rw [if_pos (decide_eq_true known), if_pos seen, ih]
      · have unseen : id first ∉ listed := known
        have agree : ∀ a, a ∈ listed ++ [first] ↔ a ∈ id first :: listed := by
          intro a
          rw [List.mem_append, List.mem_singleton, List.mem_cons]
          exact or_comm
        rw [if_neg (by rw [decide_eq_false known]; exact Bool.false_ne_true), if_neg unseen, ih,
          distinctBeyond_congr agree, List.append_assoc]
        rfl

end

variable {α β γ : Type} [DecidableEq β] (key : α → β)

private theorem map_distinctBeyond (f : γ → α) (seen : List β) (xs : List γ) :
    (distinctBeyond (fun c => key (f c)) seen xs).map f = distinctBeyond key seen (xs.map f) := by
  induction xs generalizing seen with
  | nil => rfl
  | cons first rest ih =>
      rw [List.map_cons, distinctBeyond, distinctBeyond]
      by_cases known : key (f first) ∈ seen
      · rw [if_pos known, if_pos known, ih]
      · rw [if_neg known, if_neg known, List.map_cons, ih]

/-- To tell elements apart by what a function makes of them is to tell its images apart. -/
theorem map_distinctBy_comp (f : γ → α) (xs : List γ) :
    (distinctBy (fun c => key (f c)) xs).map f = distinctBy key (xs.map f) :=
  map_distinctBeyond key f [] xs

/-- The keys of the elements that are kept are the distinct keys. -/
theorem map_distinctBy (xs : List α) : (distinctBy key xs).map key = distinct (xs.map key) :=
  map_distinctBy_comp id key xs

private theorem sublist_distinctBeyond (seen : List β) (xs : List α) :
    (distinctBeyond key seen xs).Sublist xs := by
  induction xs generalizing seen with
  | nil => exact List.Sublist.refl _
  | cons first rest ih =>
      rw [distinctBeyond]
      by_cases known : key first ∈ seen
      · rw [if_pos known]
        exact (ih seen).cons first
      · rw [if_neg known]
        exact (ih _).cons_cons first

theorem sublist_distinctBy (xs : List α) : (distinctBy key xs).Sublist xs :=
  sublist_distinctBeyond key [] xs

variable {key}

private theorem key_not_mem_of_mem_distinctBeyond {seen : List β} {xs : List α} {a : α}
    (member : a ∈ distinctBeyond key seen xs) : key a ∉ seen := by
  have mapped := List.mem_map_of_mem (f := key) member
  have keys : (distinctBeyond key seen xs).map key = distinctBeyond id seen (xs.map key) :=
    map_distinctBeyond id key seen xs
  rw [keys] at mapped
  exact (mem_distinctBeyond.1 mapped).2

private theorem eq_or_of_mem_distinctBeyond {R : α → α → Prop} {seen : List β} {xs : List α}
    (ordered : xs.Pairwise R) {a b : α} (kept : a ∈ distinctBeyond key seen xs) (member : b ∈ xs)
    (same : key b = key a) : b = a ∨ R a b := by
  induction xs generalizing seen with
  | nil => cases member
  | cons first rest ih =>
      obtain ⟨before, later⟩ := List.pairwise_cons.1 ordered
      rw [distinctBeyond] at kept
      by_cases known : key first ∈ seen
      · rw [if_pos known] at kept
        rcases List.mem_cons.1 member with rfl | behind
        · exact absurd (same ▸ known) (key_not_mem_of_mem_distinctBeyond kept)
        · exact ih later kept behind
      · rw [if_neg known] at kept
        rcases List.mem_cons.1 kept with rfl | among
        · exact (List.mem_cons.1 member).imp id (before b)
        · rcases List.mem_cons.1 member with rfl | behind
          · exact absurd (same ▸ List.mem_cons_self) (key_not_mem_of_mem_distinctBeyond among)
          · exact ih later among behind

/-- An element that is kept comes before all others of its key. -/
theorem eq_or_of_mem_distinctBy {R : α → α → Prop} {xs : List α} (ordered : xs.Pairwise R)
    {a b : α} (kept : a ∈ distinctBy key xs) (member : b ∈ xs) (same : key b = key a) :
    b = a ∨ R a b :=
  eq_or_of_mem_distinctBeyond ordered kept member same

private theorem distinctBeyond_of_nodup {seen : List β} {xs : List α}
    (new : ∀ a ∈ xs, key a ∉ seen) (apart : (xs.map key).Nodup) :
    distinctBeyond key seen xs = xs := by
  induction xs generalizing seen with
  | nil => rfl
  | cons first rest ih =>
      rw [List.map_cons, List.nodup_cons] at apart
      have later : ∀ a ∈ rest, key a ∉ key first :: seen := by
        intro a member
        rw [List.mem_cons, not_or]
        refine ⟨fun same => apart.1 ?_, new a (List.mem_cons_of_mem first member)⟩
        rw [← same]
        exact List.mem_map_of_mem member
      rw [distinctBeyond, if_neg (new first List.mem_cons_self), ih later apart.2]

/-- Nothing is left out of a list whose keys are distinct already. -/
theorem distinctBy_of_nodup {xs : List α} (apart : (xs.map key).Nodup) : distinctBy key xs = xs :=
  distinctBeyond_of_nodup (fun _ _ => List.not_mem_nil) apart

/-- In an ordered list, those elements are kept before which none has the same key. -/
theorem mem_distinctBy_iff {R : α → α → Prop} {xs : List α} (ordered : xs.Pairwise R)
    (oneWay : ∀ a b, R a b → ¬R b a) {a : α} :
    a ∈ distinctBy key xs ↔ a ∈ xs ∧ ∀ b ∈ xs, R b a → key b ≠ key a := by
  constructor
  · intro kept
    refine ⟨(sublist_distinctBy key xs).subset kept, fun b member before same => ?_⟩
    rcases eq_or_of_mem_distinctBy ordered kept member same with rfl | behind
    · exact oneWay b b before before
    · exact oneWay a b behind before
  · rintro ⟨member, first⟩
    have listed : key a ∈ (distinctBy key xs).map key := by
      rw [map_distinctBy, mem_distinct]
      exact List.mem_map_of_mem member
    obtain ⟨b, kept, same⟩ := List.mem_map.1 listed
    -- the one that is kept comes before all others of its key, and before `a` there is none
    rcases eq_or_of_mem_distinctBy ordered kept member same.symm with rfl | behind
    · exact kept
    · exact absurd same (first b ((sublist_distinctBy key xs).subset kept) behind)

/-- An element stands at a place, and before it there is none of the same key. -/
def IsFirstAt (key : α → β) (xs : List α) (place : Nat) (a : α) : Prop :=
  xs[place]? = some a ∧ ∀ earlier < place, ∀ b, xs[earlier]? = some b → key b ≠ key a

/-- The elements that are chosen, each with its place. -/
def chosenEntries (chosen : α → Bool) (xs : List α) : List (α × Nat) :=
  xs.zipIdx.filter fun entry => chosen entry.1

theorem mem_chosenEntries {chosen : α → Bool} {xs : List α} {a : α} {place : Nat} :
    (a, place) ∈ chosenEntries chosen xs ↔ xs[place]? = some a ∧ chosen a = true := by
  rw [chosenEntries, List.mem_filter, List.mem_zipIdx_iff_getElem?]

theorem pairwise_chosenEntries (chosen : α → Bool) (xs : List α) :
    (chosenEntries chosen xs).Pairwise fun here there => here.2 < there.2 := by
  refine List.Pairwise.filter _ (List.pairwise_map.1 ?_)
  rw [List.zipIdx_map_snd]
  exact List.pairwise_lt_range' 1

theorem map_fst_chosenEntries (chosen : α → Bool) (xs : List α) :
    (chosenEntries chosen xs).map Prod.fst = xs.filter chosen := by
  have items := List.filter_map (f := Prod.fst) (p := chosen) (l := xs.zipIdx)
  rw [List.zipIdx_map_fst] at items
  exact items.symm

/-- If all or none of the elements with one key are chosen, those are kept with which a key comes
first. -/
theorem mem_distinctBy_chosenEntries {chosen : α → Bool}
    (agree : ∀ a b, key a = key b → chosen a = chosen b) {xs : List α} {a : α} {place : Nat} :
    (a, place) ∈ distinctBy (fun entry => key entry.1) (chosenEntries chosen xs) ↔
      IsFirstAt key xs place a ∧ chosen a = true := by
  rw [mem_distinctBy_iff (pairwise_chosenEntries chosen xs)
    (fun here there before => Nat.lt_asymm before), mem_chosenEntries]
  constructor
  · rintro ⟨⟨found, isChosen⟩, first⟩
    refine ⟨⟨found, fun earlier before b there same => ?_⟩, isChosen⟩
    have alsoChosen : chosen b = true := (agree b a same).trans isChosen
    exact first (b, earlier) (mem_chosenEntries.2 ⟨there, alsoChosen⟩) before same
  · rintro ⟨⟨found, first⟩, isChosen⟩
    refine ⟨⟨found, isChosen⟩, fun entry member before => ?_⟩
    exact first entry.2 before entry.1 (mem_chosenEntries.1 member).1

/-- A list holds, in their order, those elements of another one that are chosen and with which a key
comes first. -/
def HoldsFirsts (key : α → β) (isChosen : α → Prop) (xs kept : List α) : Prop :=
  ∃ places : List Nat, places.Pairwise (· < ·) ∧
    (∀ place, place ∈ places ↔ ∃ a, IsFirstAt key xs place a ∧ isChosen a) ∧
    places.map (xs[·]?) = kept.map some

omit [DecidableEq β] in
/-- Such a list is told by its places, and these by the other list. -/
theorem HoldsFirsts.unique {isChosen : α → Prop} {xs kept others : List α}
    (holds : HoldsFirsts key isChosen xs kept) (holds' : HoldsFirsts key isChosen xs others) :
    kept = others := by
  obtain ⟨places, ordered, listed, found⟩ := holds
  obtain ⟨places', ordered', listed', found'⟩ := holds'
  have same : places = places' :=
    ordered.eq_of_mem_iff ordered' fun place => (listed place).trans (listed' place).symm
  rw [← same, found] at found'
  exact List.map_injective_iff.2 (Option.some_injective α) found'

/-- What is distinct among the chosen elements, if all or none with one key are chosen. -/
theorem holdsFirsts_distinctBy {chosen : α → Bool}
    (agree : ∀ a b, key a = key b → chosen a = chosen b) (xs : List α) :
    HoldsFirsts key (chosen · = true) xs (distinctBy key (xs.filter chosen)) := by
  refine ⟨(distinctBy (fun entry => key entry.1) (chosenEntries chosen xs)).map Prod.snd,
    ?_, ?_, ?_⟩
  · exact List.pairwise_map.2
      ((pairwise_chosenEntries chosen xs).sublist (sublist_distinctBy _ _))
  · intro place
    rw [List.mem_map]
    constructor
    · rintro ⟨entry, member, rfl⟩
      exact ⟨entry.1, (mem_distinctBy_chosenEntries agree).1 member⟩
    · rintro ⟨a, isKept⟩
      exact ⟨(a, place), (mem_distinctBy_chosenEntries agree).2 isKept, rfl⟩
  · rw [← map_fst_chosenEntries, ← map_distinctBy_comp, List.map_map, List.map_map]
    refine List.map_congr_left fun entry member => ?_
    exact ((mem_distinctBy_chosenEntries agree).1 member).1.1

end Issuance
