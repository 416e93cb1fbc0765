import Mathlib.Data.List.Forall2
/-!
How results that may be failures are taken apart, and lists of them that are computed one by one.
-/

namespace Issuance

variable {ε ε' α β : Type}

theorem bind_eq_ok_iff {first : Except ε α} {next : α → Except ε β} {b : β} :
    first >>= next = .ok b ↔ ∃ a, first = .ok a ∧ next a = .ok b := by
  constructor
  · intro done
    cases first with
    | error e => cases done
    | ok a => exact ⟨a, rfl, done⟩
  · rintro ⟨a, rfl, done⟩
    exact done

theorem bind_eq_error_iff {first : Except ε α} {next : α → Except ε β} {e : ε} :
    first >>= next = .error e ↔
      first = .error e ∨ ∃ a, first = .ok a ∧ next a = .error e := by
  constructor
  · intro failed
    cases first with
    | error other =>
        cases failed
        exact Or.inl rfl
    | ok a => exact Or.inr ⟨a, rfl, failed⟩
  · rintro (rfl | ⟨a, rfl, failed⟩)
    · rfl
    · exact failed

theorem mapError_eq_ok_iff {result : Except ε α} {f : ε → ε'} {a : α} :
    result.mapError f = .ok a ↔ result = .ok a := by
  cases result with
  | error e =>
      constructor
      · intro done
        cases done
      · intro done
        cases done
  | ok b =>
      change Except.ok b = .ok a ↔ _
      rw [Except.ok.injEq, Except.ok.injEq]

/-- What goes on after a check has not been refused by it. -/
theorem guard_eq_ok_iff {refused : Prop} [Decidable refused] {e : ε} {rest : Except ε α} {a : α} :
    (if refused then .error e else rest) = .ok a ↔ ¬refused ∧ rest = .ok a := by
  by_cases fails : refused
  · rw [if_pos fails]
    exact ⟨nofun, fun passed => absurd fails passed.1⟩
  · rw [if_neg fails, and_iff_right fails]

theorem exists_ok_of_isOk {result : Except ε α} (isOk : result.isOk = true) :
    ∃ a, result = .ok a := by
  cases result with
  | error e => cases isOk
  | ok a => exact ⟨a, rfl⟩

theorem isOk_map (f : α → β) (result : Except ε α) : (result.map f).isOk = result.isOk := by
  cases result <;> rfl

theorem exists_of_mem_right {R : α → β → Prop} {xs : List α} {ys : List β}
    (related : List.Forall₂ R xs ys) {y : β} (member : y ∈ ys) : ∃ x ∈ xs, R x y := by
  induction related with
  | nil => cases member
  | cons first _ ih =>
      rcases List.mem_cons.1 member with rfl | later
      · exact ⟨_, List.mem_cons_self, first⟩
      · obtain ⟨x, present, holds⟩ := ih later
        exact ⟨x, List.mem_cons_of_mem _ present, holds⟩

theorem exists_of_mem_left {R : α → β → Prop} {xs : List α} {ys : List β}
    (related : List.Forall₂ R xs ys) {x : α} (member : x ∈ xs) : ∃ y ∈ ys, R x y :=
  exists_of_mem_right (R := fun y x => R x y) related.flip member

/-- A list of results is there if each of them is. -/
theorem mapM_eq_ok_iff {f : α → Except ε β} {xs : List α} {ys : List β} :
    xs.mapM f = .ok ys ↔ List.Forall₂ (fun x y => f x = .ok y) xs ys := by
  induction xs generalizing ys with
  | nil =>
      rw [List.mapM_nil, List.forall₂_nil_left_iff]
      exact ⟨fun done => (Except.ok.inj done).symm, fun none => none ▸ rfl⟩
  | cons x rest ih =>
      rw [List.mapM_cons, bind_eq_ok_iff, List.forall₂_cons_left_iff]
      constructor
      · rintro ⟨y, first, done⟩
        obtain ⟨others, later, done⟩ := bind_eq_ok_iff.1 done
        exact ⟨y, others, first, ih.1 later, (Except.ok.inj done).symm⟩
      · rintro ⟨y, others, first, later, rfl⟩
        exact ⟨y, first, bind_eq_ok_iff.2 ⟨others, ih.2 later, rfl⟩⟩

/-- The first result that is missing decides what is missing. -/
theorem mapM_eq_error {f : α → Except ε β} {before after : List α} {x : α} {e : ε}
    (earlier : ∀ y ∈ before, ∃ b, f y = .ok b) (here : f x = .error e) :
    (before ++ x :: after).mapM f = .error e := by
  induction before with
  | nil =>
      rw [List.nil_append, List.mapM_cons, here]
      rfl
  | cons y rest ih =>
      obtain ⟨b, first⟩ := earlier y List.mem_cons_self
      rw [List.cons_append, List.mapM_cons, first,
        ih fun z member => earlier z (List.mem_cons_of_mem _ member)]
      rfl

/-- Of what holds of some element of a list, there is the first one. -/
theorem exists_first {P : α → Prop} {xs : List α} (some : ∃ x ∈ xs, P x) :
    ∃ before x after, xs = before ++ x :: after ∧ P x ∧ ∀ earlier ∈ before, ¬P earlier := by
  classical
  obtain ⟨x, member, holds⟩ := some
  have found : (xs.find? fun x => decide (P x)).isSome = true :=
    List.find?_isSome.2 ⟨x, member, decide_eq_true holds⟩
  obtain ⟨first, here⟩ := Option.isSome_iff_exists.1 found
  obtain ⟨there, before, after, split, none⟩ := List.find?_eq_some_iff_append.1 here
  refine ⟨before, first, after, split, of_decide_eq_true there, fun earlier inFront => ?_⟩
  have absent := none earlier inFront
  rw [Bool.not_eq_true'] at absent
  exact of_decide_eq_false absent

end Issuance
