/-!
Finite maps as lists of pairs in the order in which their keys first came.
-/

namespace Issuance
namespace Assoc

variable {κ α : Type} [DecidableEq κ]

/-- Puts a value under a key: a known key keeps its place, a new one goes to the end. -/
def put (key : κ) (value : α) : List (κ × α) → List (κ × α)
  | [] => [(key, value)]
  | (k, v) :: rest => if k = key then (k, value) :: rest else (k, v) :: put key value rest

def erase (key : κ) : List (κ × α) → List (κ × α)
  | [] => []
  | (k, v) :: rest => if k = key then erase key rest else (k, v) :: erase key rest

def get? (key : κ) : List (κ × α) → Option α
  | [] => none
  | (k, v) :: rest => if k = key then some v else get? key rest

/-- What was put is found, and nothing else has changed. -/
theorem get?_put (key other : κ) (value : α) (pairs : List (κ × α)) :
    get? other (put key value pairs) = if key = other then some value else get? other pairs := by
  induction pairs with
  | nil => simp [put, get?]
  | cons pair rest ih =>
    obtain ⟨k, v⟩ := pair
    by_cases same : k = key
    · subst same
      by_cases h : k = other <;> simp [put, get?, h]
    · by_cases h : k = other
      · subst h
        simp [put, get?, same, Ne.symm same]
      · simp [put, get?, same, h, ih]

/-- What was taken away is not found, and nothing else has changed. -/
theorem get?_erase (key other : κ) (pairs : List (κ × α)) :
    get? other (erase key pairs) = if key = other then none else get? other pairs := by
  induction pairs with
  | nil => simp [erase, get?]
  | cons pair rest ih =>
    obtain ⟨k, v⟩ := pair
    by_cases same : k = key
    · subst same
      rw [show erase k ((k, v) :: rest) = erase k rest by simp [erase], ih]
      by_cases h : k = other <;> simp [get?, h]
    · by_cases h : k = other
      · subst h
        simp [erase, get?, same, Ne.symm same]
      · simp [erase, get?, same, h, ih]

theorem mem_of_mem_erase {key : κ} {pairs : List (κ × α)}
    {pair : κ × α} (member : pair ∈ erase key pairs) : pair ∈ pairs := by
  induction pairs with
  | nil => exact member
  | cons first rest ih =>
      obtain ⟨k, v⟩ := first
      simp only [erase] at member
      split at member
      · exact List.mem_cons_of_mem _ (ih member)
      · rcases List.mem_cons.1 member with here | later
        · exact List.mem_cons.2 (Or.inl here)
        · exact List.mem_cons_of_mem _ (ih later)

theorem mem_of_get? {key : κ} {pairs : List (κ × α)} {value : α}
    (found : get? key pairs = some value) : (key, value) ∈ pairs := by
  induction pairs with
  | nil => cases found
  | cons first rest ih =>
      obtain ⟨k, v⟩ := first
      simp only [get?] at found
      split at found
      · next same =>
          cases found
          exact same ▸ List.mem_cons_self
      · exact List.mem_cons_of_mem _ (ih found)

theorem erase_of_get?_eq_none {key : κ} {pairs : List (κ × α)}
    (absent : get? key pairs = none) : erase key pairs = pairs := by
  induction pairs with
  | nil => rfl
  | cons first rest ih =>
      obtain ⟨k, v⟩ := first
      simp only [get?] at absent
      split at absent
      · cases absent
      · next different => rw [erase, if_neg different, ih absent]

theorem mem_put {key : κ} {value : α} {pairs : List (κ × α)}
    {pair : κ × α} (member : pair ∈ put key value pairs) : pair = (key, value) ∨ pair ∈ pairs := by
  induction pairs with
  | nil => exact Or.inl (List.mem_singleton.1 member)
  | cons first rest ih =>
      obtain ⟨k, v⟩ := first
      simp only [put] at member
      split at member
      · next same =>
          subst same
          rcases List.mem_cons.1 member with here | later
          · exact Or.inl here
          · exact Or.inr (List.mem_cons_of_mem _ later)
      · rcases List.mem_cons.1 member with here | later
        · exact Or.inr (List.mem_cons.2 (Or.inl here))
        · exact (ih later).imp_right (List.mem_cons_of_mem _)

theorem get?_map {β : Type} (f : α → β) (key : κ) (pairs : List (κ × α)) :
    get? key (pairs.map fun pair => (pair.1, f pair.2)) = (get? key pairs).map f := by
  induction pairs with
  | nil => rfl
  | cons pair rest ih =>
      rw [List.map_cons, get?, get?, ih]
      split <;> rfl

theorem get?_append (key : κ) (first second : List (κ × α)) :
    get? key (first ++ second) = (get? key first).or (get? key second) := by
  induction first with
  | nil => rw [List.nil_append, get?, Option.none_or]
  | cons pair rest ih =>
      rw [List.cons_append, get?, get?, ih]
      split <;> rfl

theorem get?_keyed {keys : List κ} (f : κ → α) {key : κ} (listed : key ∈ keys) :
    get? key (keys.map fun k => (k, f k)) = some (f key) := by
  induction keys with
  | nil => cases listed
  | cons k rest ih =>
      rw [List.map_cons, get?]
      split
      · next same => rw [same]
      · next different =>
          exact ih ((List.mem_cons.1 listed).resolve_left fun same => different same.symm)

theorem put_keyed {keys : List κ} (distinct : keys.Nodup) (f : κ → α) {key : κ} (value : α)
    (listed : key ∈ keys) :
    put key value (keys.map fun k => (k, f k)) =
      keys.map fun k => (k, if k = key then value else f k) := by
  induction keys with
  | nil => cases listed
  | cons k rest ih =>
      obtain ⟨apart, distinct⟩ := List.nodup_cons.1 distinct
      rw [List.map_cons, List.map_cons, put]
      by_cases same : k = key
      · rw [if_pos same, if_pos same]
        refine congrArg ((k, value) :: ·) (List.map_congr_left fun other member => ?_)
        rw [if_neg]
        rintro rfl
        exact apart (same ▸ member)
      · rw [if_neg same, if_neg same,
          ih distinct ((List.mem_cons.1 listed).resolve_left fun equal => same equal.symm)]

end Assoc
end Issuance
