import Mathlib
import Issuance.Batch.Attempt
import Issuance.Proofs.Storage.Keys
/-!
Codes of the drawn form, and the places of certificates: event, registration and certificate code
can be read back from the path under which a certificate is stored.
-/

namespace Issuance
namespace CodePair

/-- A stem with a number of characters from the alphabet. -/
def IsCode (stem : String) (count : Nat) (code : String) : Prop :=
  ∃ token : List Char, token.length = count ∧ (∀ c ∈ token, c ∈ alphabet) ∧
    code = stem ++ String.ofList token

/-- Both codes have the form in which codes are drawn. -/
structure IsGenerated (codes : CodePair) : Prop where
  certificate : IsCode certificateStem certificateLength codes.certificate
  verification : IsCode verificationStem verificationLength codes.verification

theorem mem_alphabet_of_isDigit {c : Char} (digit : c.isDigit = true) : c ∈ alphabet := by
  have bound : c.toNat < 58 := by
    simp only [Char.isDigit, Bool.and_eq_true, decide_eq_true_eq, UInt32.le_iff_toNat_le] at digit
    exact Nat.lt_succ_of_le digit.2
  have all : ∀ n < 58, (Char.ofNat n).isDigit = true → Char.ofNat n ∈ alphabet := by
    decide +kernel
  have here := all c.toNat bound
  rw [Char.ofNat_toNat] at here
  exact here digit

theorem dot_slash_not_mem_alphabet : '.' ∉ alphabet ∧ '/' ∉ alphabet := by
  decide +kernel

theorem isGenerated_of_take? {stream rest : List Char} {codes : CodePair}
    (known : ∀ c ∈ stream, c ∈ alphabet) (taken : take? stream = some (codes, rest)) :
    codes.IsGenerated ∧ ∀ c ∈ rest, c ∈ alphabet := by
  unfold take? at taken
  simp only at taken
  split at taken
  · cases taken
  · next enough =>
      obtain ⟨rfl, rfl⟩ := Prod.mk.inj (Option.some.inj taken)
      refine ⟨⟨⟨_, ?_, ?_, rfl⟩, ⟨_, ?_, ?_, rfl⟩⟩, ?_⟩
      · rw [List.length_take]
        omega
      · exact fun c inside => known c (List.mem_of_mem_take inside)
      · rw [List.length_take, List.length_drop]
        omega
      · exact fun c inside => known c (List.mem_of_mem_drop (List.mem_of_mem_take inside))
      · exact fun c inside => known c (List.mem_of_mem_drop (List.mem_of_mem_drop inside))

theorem IsCode.dot_slash_not_mem {stem code : String} {count : Nat} (generated : IsCode stem count code)
    (stemFree : '.' ∉ stem.toList ∧ '/' ∉ stem.toList) :
    '.' ∉ code.toList ∧ '/' ∉ code.toList := by
  obtain ⟨token, -, known, rfl⟩ := generated
  simp only [String.toList_append, String.toList_ofList, List.mem_append, not_or]
  refine ⟨⟨stemFree.1, ?_⟩, stemFree.2, ?_⟩
  · exact fun inside => dot_slash_not_mem_alphabet.1 (known _ inside)
  · exact fun inside => dot_slash_not_mem_alphabet.2 (known _ inside)

theorem IsGenerated.dot_slash_not_mem {codes : CodePair} (generated : codes.IsGenerated) :
    '.' ∉ codes.certificate.toList ∧ '/' ∉ codes.certificate.toList :=
  generated.certificate.dot_slash_not_mem (by decide)

end CodePair

namespace CodeSupply

/-- A supply that only gives codes of the drawn form. -/
def IsGenerated : CodeSupply → Prop
  | .stream ready _ => ∀ c ∈ ready, c ∈ CodePair.alphabet
  | .listed pairs => ∀ codes ∈ pairs, codes.IsGenerated

private theorem mem_alphabet_of_mem_padded {width n : Nat} {c : Char}
    (inside : c ∈ (Text.padded width (n : Int)).toList) : c ∈ CodePair.alphabet := by
  have notNegative : ¬(n : Int) < 0 := by omega
  unfold Text.padded at inside
  simp only [notNegative, if_false, String.toList_append, String.toList_ofList, List.mem_append,
    Int.natAbs_natCast, Nat.toString_eq_repr, Nat.toList_repr] at inside
  rcases inside with (none | zero) | digit
  · cases none
  · rw [(List.mem_replicate.1 zero).2]
    decide
  · exact CodePair.mem_alphabet_of_isDigit
      (Nat.isDigit_of_mem_toDigits (by decide) (by decide) digit)

theorem mem_alphabet_of_mem_refill {n : Nat} {c : Char} (inside : c ∈ refill n) :
    c ∈ CodePair.alphabet := by
  unfold refill at inside
  rw [String.toList_append] at inside
  rcases List.mem_append.1 inside with first | second
  · exact mem_alphabet_of_mem_padded first
  · exact mem_alphabet_of_mem_padded second

theorem isGenerated_of_next {supply later : CodeSupply} {codes : CodePair}
    (generated : supply.IsGenerated) (drawn : supply.next = some (codes, later)) :
    codes.IsGenerated ∧ later.IsGenerated := by
  cases supply with
  | stream ready refills =>
      cases taken : CodePair.take? ready with
      | some pair =>
          obtain ⟨pair, rest⟩ := pair
          simp only [next, taken, Option.some.injEq, Prod.mk.injEq] at drawn
          obtain ⟨rfl, rfl⟩ := drawn
          exact CodePair.isGenerated_of_take? generated taken
      | none =>
          simp only [next, taken, Option.map_eq_some_iff] at drawn
          obtain ⟨⟨pair, rest⟩, refilled, same⟩ := drawn
          obtain ⟨rfl, rfl⟩ := Prod.mk.inj same
          refine CodePair.isGenerated_of_take? ?_ refilled
          intro c inside
          rcases List.mem_append.1 inside with ready | more
          · exact generated c ready
          · exact mem_alphabet_of_mem_refill more
  | listed pairs =>
      cases pairs with
      | nil => cases drawn
      | cons first rest =>
          obtain ⟨rfl, rfl⟩ := Prod.mk.inj (Option.some.inj drawn)
          refine ⟨generated first List.mem_cons_self, ?_⟩
          exact fun codes member => generated codes (List.mem_cons_of_mem _ member)

end CodeSupply

namespace Batch

/-- The place of a certificate below the root of its store. -/
def artifactPath (eventId registrationId : Int) (code format : String) : Storage.Path :=
  ["certificates", toString eventId, toString registrationId, code ++ "." ++ format]

theorem keyOf_artifactPath (eventId registrationId : Int) (code format : String) :
    artifactKey (toString eventId) (toString registrationId) code format =
      Storage.keyOf (artifactPath eventId registrationId code format) := by
  have root : "certificates/" = "certificates" ++ "/" := by decide
  have single : ∀ name : String, Storage.keyOf [name] = name :=
    fun _ => String.intercalate_singleton
  unfold artifactKey artifactPath
  generalize toString eventId = event
  generalize toString registrationId = registration
  rw [Storage.keyOf_cons_cons, Storage.keyOf_cons_cons, Storage.keyOf_cons_cons, single, root]
  simp only [String.append_assoc]

/-- A number is written with digits, and with a sign if it is negative. -/
theorem not_mem_toString {c : Char} (noDigit : c.isDigit = false) (noSign : c ≠ '-') (n : Int) :
    c ∉ (toString n).toList := by
  have digits : ∀ m : Nat, c ∉ m.repr.toList := by
    intro m inside
    rw [Nat.toList_repr] at inside
    have digit := Nat.isDigit_of_mem_toDigits (by decide) (by decide) inside
    rw [noDigit] at digit
    cases digit
  cases n with
  | ofNat m => exact digits m
  | negSucc m =>
      intro inside
      change c ∈ ("-" ++ (m + 1).repr).toList at inside
      rw [String.toList_append] at inside
      rcases List.mem_append.1 inside with sign | later
      · exact noSign (List.mem_singleton.1 sign)
      · exact digits (m + 1) later

private theorem isPlain_toString (n : Int) : Storage.IsPlain (toString n) := by
  have slashFree : '/' ∉ (toString n).toList := not_mem_toString (by decide) (by decide) n
  have filled : ∀ m : Nat, ∃ c ∈ m.repr.toList, c ≠ '.' := by
    intro m
    have nonempty : m.repr.toList ≠ [] := fun none =>
      Nat.repr_ne_empty (String.toList_eq_nil_iff.1 none)
    obtain ⟨c, rest, spelled⟩ := List.exists_cons_of_ne_nil nonempty
    have inside : c ∈ m.repr.toList := spelled ▸ List.mem_cons_self
    refine ⟨c, inside, ?_⟩
    rintro rfl
    rw [Nat.toList_repr] at inside
    cases Nat.isDigit_of_mem_toDigits (by decide) (by decide) inside
  cases n with
  | ofNat m =>
      obtain ⟨c, inside, notDot⟩ := filled m
      exact Storage.isPlain_of_mem inside notDot slashFree
  | negSucc m =>
      refine Storage.isPlain_of_mem (c := '-') ?_ (by decide) slashFree
      change '-' ∈ ("-" ++ (m + 1).repr).toList
      rw [String.toList_append]
      exact List.mem_append_left _ List.mem_cons_self

theorem isPlainPath_artifactPath (eventId registrationId : Int) {codes : CodePair} {format : String}
    (generated : codes.IsGenerated) (noSlash : '/' ∉ format.toList) :
    Storage.IsPlainPath (artifactPath eventId registrationId codes.certificate format) where
  nonempty := List.cons_ne_nil _ _
  plain := by
    intro name member
    simp only [artifactPath, List.mem_cons, List.not_mem_nil, or_false] at member
    rcases member with rfl | rfl | rfl | rfl
    · exact Storage.isPlain_of_mem (c := 'c') (by decide) (by decide) (by decide)
    · exact isPlain_toString eventId
    · exact isPlain_toString registrationId
    · obtain ⟨token, -, known, spelled⟩ := generated.certificate
      refine Storage.isPlain_of_mem (c := 'C') ?_ (by decide) ?_
      · rw [spelled]
        simp only [String.toList_append, List.mem_append]
        exact Or.inl (Or.inl (Or.inl (by decide)))
      · simp only [String.toList_append, List.mem_append, not_or]
        exact ⟨⟨generated.dot_slash_not_mem.2, by decide⟩, noSlash⟩

private theorem append_dot_inj {front front' back back' : List Char} (free : '.' ∉ front)
    (free' : '.' ∉ front') (same : front ++ '.' :: back = front' ++ '.' :: back') :
    front = front' := by
  induction front generalizing front' with
  | nil =>
      cases front' with
      | nil => rfl
      | cons c rest =>
          have first : '.' = c := (List.cons.inj same).1
          exact absurd (first ▸ List.mem_cons_self) free'
  | cons c rest ih =>
      cases front' with
      | nil =>
          have first : c = '.' := (List.cons.inj same).1
          exact absurd (first ▸ List.mem_cons_self) free
      | cons d rest' =>
          obtain ⟨first, later⟩ := List.cons.inj same
          have restFree : '.' ∉ rest := fun inside => free (List.mem_cons_of_mem c inside)
          have restFree' : '.' ∉ rest' := fun inside => free' (List.mem_cons_of_mem d inside)
          rw [first, ih restFree restFree' later]

/-- Certificates of different registrations, or with different codes, have different places. -/
theorem artifactPath_inj {eventId eventId' registrationId registrationId' : Int}
    {codes codes' : CodePair} {format format' : String} (generated : codes.IsGenerated)
    (generated' : codes'.IsGenerated)
    (same : artifactPath eventId registrationId codes.certificate format =
      artifactPath eventId' registrationId' codes'.certificate format') :
    eventId = eventId' ∧ registrationId = registrationId' ∧
      codes.certificate = codes'.certificate := by
  simp only [artifactPath, List.cons.injEq, and_true, true_and] at same
  obtain ⟨sameEvent, sameRegistration, sameName⟩ := same
  refine ⟨Int.repr_injective sameEvent, Int.repr_injective sameRegistration, ?_⟩
  have spelled := congrArg String.toList sameName
  simp only [String.toList_append, List.append_assoc] at spelled
  have fronts := append_dot_inj generated.dot_slash_not_mem.1 generated'.dot_slash_not_mem.1 spelled
  exact String.toList_inj.1 fronts

end Batch
end Issuance
