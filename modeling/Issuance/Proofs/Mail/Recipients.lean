import Mathlib.Data.List.Forall2
import Mathlib.Data.List.TakeWhile
import Mathlib.Tactic.MkIffOfInductiveProp
import Issuance.Mail.Delivery
import Issuance.Proofs.Distinct
import Issuance.Proofs.Text.Recasing
/-!
The addresses that are left of some recipients: those of the trimmed pieces or items that have the
form of an address, of all that are equal in small letters the first one. What is left has no
blanks, fits into one line of a header, and is left again if it is cleaned up once more, as a list
or, if it came of a text, joined to a text.
-/

namespace Issuance
namespace Mail

open Text

/-! ### The form of an address -/

/-- What stands around the marks of an address: some characters, none of them a blank or an
at-sign. -/
@[mk_iff]
structure IsAddressPart (part : List Char) : Prop where
  filled : part ≠ []
  noMark : '@' ∉ part
  noBlank : ∀ c ∈ part, isBlank c = false

/-- A user at a domain, and inside the domain there is a point, which need not be the only one. -/
def HasAddressForm (cs : List Char) : Prop :=
  ∃ user front back, IsAddressPart user ∧ IsAddressPart front ∧ IsAddressPart back ∧
    cs = user ++ '@' :: (front ++ '.' :: back)

theorem HasAddressForm.noBlank {cs : List Char} (isForm : HasAddressForm cs) :
    ∀ c ∈ cs, isBlank c = false := by
  obtain ⟨user, front, back, isUser, isFront, isBack, rfl⟩ := isForm
  simp only [List.forall_mem_append, List.forall_mem_cons]
  exact ⟨isUser.noBlank, by decide, isFront.noBlank, by decide, isBack.noBlank⟩

/-- To stand somewhere between the first and the last element is to have something on both sides. -/
theorem mem_dropLast_drop_one_iff {α : Type} {a : α} {xs : List α} :
    a ∈ (xs.drop 1).dropLast ↔ ∃ front back, front ≠ [] ∧ back ≠ [] ∧ xs = front ++ a :: back := by
  constructor
  · intro inside
    obtain ⟨before, after, parted⟩ := List.mem_iff_append.1 inside
    have filled : xs.drop 1 ≠ [] := by
      intro none
      rw [none] at inside
      cases inside
    cases xs with
    | nil => exact absurd rfl filled
    | cons first rest =>
        rw [List.drop_succ_cons, List.drop_zero] at filled parted
        refine ⟨first :: before, after ++ [rest.getLast filled], List.cons_ne_nil _ _,
          List.append_ne_nil_of_right_ne_nil after (List.cons_ne_nil _ _), ?_⟩
        have whole : rest = before ++ a :: (after ++ [rest.getLast filled]) := by
          rw [← List.cons_append, ← List.append_assoc, ← parted, List.dropLast_concat_getLast]
        exact congrArg (first :: ·) whole
  · rintro ⟨front, back, hasFront, hasBack, rfl⟩
    obtain ⟨first, before, rfl⟩ := List.exists_cons_of_ne_nil hasFront
    rw [List.cons_append, List.drop_succ_cons, List.drop_zero,
      List.dropLast_append_of_ne_nil (List.cons_ne_nil _ _), List.dropLast_cons_of_ne_nil hasBack]
    exact List.mem_append_right before List.mem_cons_self

theorem takeWhile_of_no_mark {user : List Char} (noMark : '@' ∉ user) (domain : List Char) :
    (user ++ '@' :: domain).takeWhile (· ≠ '@') = user := by
  have before : ∀ c ∈ user, decide (c ≠ '@') = true := by
    rintro c member
    refine decide_eq_true ?_
    rintro rfl
    exact noMark member
  rw [List.takeWhile_append_of_pos before, List.takeWhile_cons_of_neg (by decide), List.append_nil]

/-- A text that goes on behind its first characters that are no at-signs is parted there by one. -/
theorem exists_eq_append_of_takeWhile {cs user : List Char} (first : cs.takeWhile (· ≠ '@') = user)
    (shorter : user.length < cs.length) : '@' ∉ user ∧ ∃ domain, cs = user ++ '@' :: domain := by
  have whole : cs.takeWhile (· ≠ '@') ++ cs.dropWhile (· ≠ '@') = cs :=
    List.takeWhile_append_dropWhile
  rw [first] at whole
  constructor
  · intro inside
    rw [← first] at inside
    exact of_decide_eq_true (List.all_eq_true.1 List.all_takeWhile '@' inside) rfl
  · cases behind : cs.dropWhile (· ≠ '@') with
    | nil =>
        rw [behind, List.append_nil] at whole
        rw [whole] at shorter
        exact absurd shorter (Nat.lt_irrefl _)
    | cons mark domain =>
        have isMark := head?_dropWhile (congrArg List.head? behind)
        rw [decide_eq_false_iff_not, not_not] at isMark
        rw [behind, isMark] at whole
        exact ⟨domain, whole.symm⟩

theorem isAddress_iff {s : String} : isAddress s = true ↔ HasAddressForm s.toList := by
  unfold isAddress
  generalize s.toList = cs
  simp only [Bool.and_eq_true, Bool.not_eq_true', List.isEmpty_eq_false_iff, decide_eq_true_eq,
    List.contains_eq_mem, decide_eq_false_iff_not, List.any_eq_false, Bool.not_eq_true]
  generalize first : cs.takeWhile (· ≠ '@') = user
  constructor
  · rintro ⟨⟨⟨⟨noBlank, hasUser⟩, shorter⟩, noMark⟩, point⟩
    obtain ⟨userFree, domain, rfl⟩ := exists_eq_append_of_takeWhile first shorter
    rw [List.drop_left, List.drop_succ_cons, List.drop_zero] at noMark point
    obtain ⟨front, back, hasFront, hasBack, rfl⟩ := mem_dropLast_drop_one_iff.1 point
    simp only [List.forall_mem_append, List.forall_mem_cons] at noBlank
    rw [List.mem_append, List.mem_cons, not_or, not_or] at noMark
    exact ⟨user, front, back, ⟨hasUser, userFree, noBlank.1⟩,
      ⟨hasFront, noMark.1, noBlank.2.2.1⟩, ⟨hasBack, noMark.2.2, noBlank.2.2.2.2⟩, rfl⟩
  · rintro ⟨user, front, back, isUser, isFront, isBack, rfl⟩
    have noBlank : HasAddressForm (user ++ '@' :: (front ++ '.' :: back)) :=
      ⟨user, front, back, isUser, isFront, isBack, rfl⟩
    rw [takeWhile_of_no_mark isUser.noMark] at first
    subst first
    rw [List.drop_left, List.drop_succ_cons, List.drop_zero, mem_dropLast_drop_one_iff]
    refine ⟨⟨⟨⟨noBlank.noBlank, isUser.filled⟩, ?_⟩, ?_⟩, front, back, isFront.filled,
      isBack.filled, rfl⟩
    · rw [List.length_append, List.length_cons]
      omega
    · rw [List.mem_append, List.mem_cons, not_or, not_or]
      exact ⟨isFront.noMark, by decide, isBack.noMark⟩

/-- A line that consists of an address, with or without the line feed that ends it. -/
def IsAddressLine (cs : List Char) : Prop :=
  ∃ line, HasAddressForm line ∧ (cs = line ∨ cs = line ++ ['\n'])

/-- No line feed ends a trimmed text, so it makes no difference whether one would be let through. -/
theorem isAddressLine_trim_iff {s : String} :
    IsAddressLine (trim s).toList ↔ isAddress (trim s) = true := by
  rw [isAddress_iff]
  constructor
  · rintro ⟨line, isForm, same | longer⟩
    · rwa [same]
    · have last : (trim s).toList.getLast? = some '\n' := by
        rw [longer, List.getLast?_append]
        rfl
      have kept := (isTrimOf_iff.2 (Eq.refl (trim s))).1 '\n' (Or.inr last)
      exact absurd kept (by decide)
  · exact fun isForm => ⟨_, isForm, Or.inl rfl⟩

/-! ### Addresses in other letters -/

theorem isAddressPart_iff_of_isRecased {part image : List Char} (recased : IsRecased part image) :
    IsAddressPart part ↔ IsAddressPart image := by
  have blanks : ∀ c, isBlank c = true → isCaseless c = true := by
    intro c blank
    rw [isCaseless, blank, Bool.or_true]
  rw [isAddressPart_iff, isAddressPart_iff, recased.forall_iff blanks, ne_eq, ne_eq,
    recased.eq_nil_iff, recased.mem_iff (by decide)]

/-- A text and its form in small letters are addresses together: the marks stay, and with them what
stands between them. -/
theorem hasAddressForm_iff_of_isRecased {cs ds : List Char} (recased : IsRecased cs ds) :
    HasAddressForm cs ↔ HasAddressForm ds := by
  constructor
  · rintro ⟨user, front, back, isUser, isFront, isBack, rfl⟩
    obtain ⟨user', domain, rfl, left, right⟩ := recased.exists_of_append_cons (by decide)
    obtain ⟨front', back', rfl, middle, last⟩ := right.exists_of_append_cons (by decide)
    exact ⟨user', front', back', (isAddressPart_iff_of_isRecased left).1 isUser,
      (isAddressPart_iff_of_isRecased middle).1 isFront,
      (isAddressPart_iff_of_isRecased last).1 isBack, rfl⟩
  · rintro ⟨user, front, back, isUser, isFront, isBack, rfl⟩
    obtain ⟨user', domain, rfl, left, right⟩ := recased.exists_of_eq_append_cons (by decide)
    obtain ⟨front', back', rfl, middle, last⟩ := right.exists_of_eq_append_cons (by decide)
    exact ⟨user', front', back', (isAddressPart_iff_of_isRecased left).2 isUser,
      (isAddressPart_iff_of_isRecased middle).2 isFront,
      (isAddressPart_iff_of_isRecased last).2 isBack, rfl⟩

/-- Of texts that are equal in small letters all are addresses, or none. -/
theorem isAddress_eq_of_lower_eq {s t : String} (same : lower s = lower t) :
    isAddress s = isAddress t := by
  rw [Bool.eq_iff_iff, isAddress_iff, isAddress_iff,
    hasAddressForm_iff_of_isRecased (isRecased_lower s), same,
    ← hasAddressForm_iff_of_isRecased (isRecased_lower t)]

/-! ### What is offered, and what is kept of it -/

/-- What the recipients offer as addresses: nothing, what stands in a text between commas and
semicolons, or what is listed. -/
inductive Offers : Recipients → List String → Prop
  | nobody : Offers .nobody []
  | text {s : String} {pieces : List String}
      (parted : IsCutInto (fun c => c = ',' ∨ c = ';') s.toList (pieces.map String.toList)) :
      Offers (.text s) pieces
  | list (items : List String) : Offers (.list items) items

/-- There is one way only to take recipients apart. -/
theorem offers_iff {recipients : Recipients} {tokens : List String} :
    Offers recipients tokens ↔ recipients.tokens = tokens := by
  have separators : (fun c => (decide (c = ';') || decide (c = ',')) = true) =
      fun c => c = ',' ∨ c = ';' := by
    funext c
    rw [Bool.or_eq_true, decide_eq_true_eq, decide_eq_true_eq, or_comm]
  constructor
  · intro offered
    cases offered with
    | nobody => rfl
    | list => rfl
    | text parted =>
        rw [← separators, isCutInto_iff] at parted
        change (splitChars _ _).map String.ofList = tokens
        rw [parted, List.map_map]
        exact (List.map_congr_left fun _ _ => String.ofList_toList).trans (List.map_id _)
  · rintro rfl
    cases recipients with
    | nobody => exact .nobody
    | list items => exact .list items
    | text s =>
        refine .text ?_
        change IsCutInto _ _ ((List.map String.ofList _).map String.toList)
        rw [← separators, isCutInto_iff, List.map_map]
        exact ((List.map_congr_left fun _ _ => String.toList_ofList).trans (List.map_id _)).symm

theorem holdsFirsts_addresses (recipients : Recipients) :
    HoldsFirsts lower (fun s => HasAddressForm s.toList) (recipients.tokens.map trim)
      (addresses recipients) := by
  have holds : HoldsFirsts lower (fun s => isAddress s = true) (recipients.tokens.map trim)
      (addresses recipients) := holdsFirsts_distinctBy (fun _ _ => isAddress_eq_of_lower_eq) _
  simp only [isAddress_iff] at holds
  exact holds

/-- The addresses that are left are those of the trimmed tokens that have the form of an address and
to which none before is equal in small letters. -/
theorem addresses_eq_iff {recipients : Recipients} {kept : List String} :
    addresses recipients = kept ↔ ∃ tokens trimmed, Offers recipients tokens ∧
      List.Forall₂ IsTrimOf trimmed tokens ∧
      HoldsFirsts lower (fun s => HasAddressForm s.toList) trimmed kept := by
  constructor
  · rintro rfl
    refine ⟨recipients.tokens, recipients.tokens.map trim, offers_iff.2 rfl, ?_,
      holdsFirsts_addresses recipients⟩
    rw [List.forall₂_map_left_iff, List.forall₂_same]
    exact fun token _ => isTrimOf_iff.2 rfl
  · rintro ⟨tokens, trimmed, offered, trims, holds⟩
    obtain rfl := offers_iff.1 offered
    have same : trimmed = recipients.tokens.map trim := by
      rw [← List.forall₂_eq_eq_eq, List.forall₂_map_right_iff]
      exact trims.imp fun _ _ trims => (isTrimOf_iff.1 trims).symm
    rw [same] at holds
    exact (holdsFirsts_addresses recipients).unique holds

variable {recipients : Recipients} {address : String}

theorem hasAddressForm_of_mem (member : address ∈ addresses recipients) :
    HasAddressForm address.toList :=
  isAddress_iff.1 (List.mem_filter.1 ((sublist_distinctBy _ _).subset member)).2

theorem trim_of_mem (member : address ∈ addresses recipients) : trim address = address := by
  have alone : trim ("" ++ address ++ "") = address :=
    trim_append_append (fun _ none => absurd none List.not_mem_nil)
      (hasAddressForm_of_mem member).noBlank (fun _ none => absurd none List.not_mem_nil)
  rwa [String.empty_append, String.append_empty] at alone

/-- A blank in front of an address is taken off again. -/
theorem trim_blank_append (member : address ∈ addresses recipients) :
    trim (" " ++ address) = address := by
  have blank : ∀ c ∈ " ".toList, isBlank c = true := List.forall_mem_singleton.2 rfl
  have alone : trim (" " ++ address ++ "") = address :=
    trim_append_append blank (hasAddressForm_of_mem member).noBlank
      (fun _ none => absurd none List.not_mem_nil)
  rwa [String.append_empty] at alone

/-- The addresses of a text are free of the marks at which it is cut. -/
theorem free_of_mem {s : String} (member : address ∈ addresses (.text s)) :
    ∀ c ∈ address.toList, (decide (c = ';') || decide (c = ',')) = false := by
  intro c inside
  have kept := (List.mem_filter.1 ((sublist_distinctBy _ _).subset member)).1
  obtain ⟨token, offered, rfl⟩ := List.mem_map.1 kept
  obtain ⟨piece, isPiece, rfl⟩ := List.mem_map.1 offered
  obtain ⟨-, left, right, spelled, -⟩ := isTrimOf_iff.2 (Eq.refl (trim (String.ofList piece)))
  refine not_isCut_of_mem_splitChars isPiece ?_
  rw [← String.toList_ofList (l := piece), spelled, String.toList_append, String.toList_append]
  exact List.mem_append_left _ (List.mem_append_right _ inside)

/-! ### Cleaning up once more -/

/-- Recipients that offer just the addresses that are left of others leave these again. -/
theorem addresses_of_tokens {again : Recipients}
    (offered : again.tokens.map trim = addresses recipients) :
    addresses again = addresses recipients := by
  have apart : ((addresses recipients).map lower).Nodup := by
    rw [addresses, map_distinctBy]
    exact nodup_distinct _
  have all : ∀ s ∈ addresses recipients, isAddress s = true := fun s member =>
    isAddress_iff.2 (hasAddressForm_of_mem member)
  rw [addresses, offered, List.filter_eq_self.2 all, distinctBy_of_nodup apart]

theorem addresses_list_addresses (recipients : Recipients) :
    addresses (.list (addresses recipients)) = addresses recipients := by
  refine addresses_of_tokens ?_
  change (addresses recipients).map trim = addresses recipients
  rw [List.map_congr_left fun s member => trim_of_mem member]
  exact List.map_id _

theorem addresses_text_intercalate (s : String) :
    addresses (.text (", ".intercalate (addresses (.text s)))) = addresses (.text s) := by
  cases left : addresses (.text s) with
  | nil =>
      rw [String.intercalate_nil]
      decide
  | cons first rest =>
      have members : ∀ address ∈ first :: rest, address ∈ addresses (.text s) := by
        rw [left]
        exact fun _ member => member
      have free := fun address member => free_of_mem (members address member)
      rw [List.forall_mem_cons] at members free
      have offered := splitAt_intercalate (by decide) (by decide) free.1 free.2
      have restored : rest.map (trim ∘ (" " ++ ·)) = rest := by
        refine (List.map_congr_left fun address member => ?_).trans (List.map_id rest)
        exact trim_blank_append (members.2 address member)
      rw [← left]
      refine addresses_of_tokens ?_
      rw [left]
      change (splitAt _ _).map trim = _
      rw [offered, List.map_cons, trim_of_mem members.1, List.map_map, restored]

/-! ### The header of addresses -/

theorem isBlank_of_endsLine {c : Char} (ends : endsLine c = true) : isBlank c = true := by
  simp only [endsLine, isBlank, Bool.or_eq_true, Bool.and_eq_true, decide_eq_true_eq,
    beq_iff_eq] at ends ⊢
  omega

theorem endsLine_of_mem (member : address ∈ addresses recipients) :
    ∀ c ∈ address.toList, endsLine c = false := by
  intro c inside
  have full := (hasAddressForm_of_mem member).noBlank c inside
  rw [← Bool.not_eq_true] at full ⊢
  exact full ∘ isBlank_of_endsLine

/-- A header of addresses takes one line, so it is never refused for its lines. -/
theorem checkLines_addresses (recipients : Recipients) :
    checkLines (", ".intercalate (addresses recipients)) = .ok () := by
  have marks : ∀ c ∈ ", ".toList, endsLine c = false :=
    List.forall_mem_cons.2 ⟨rfl, List.forall_mem_singleton.2 rfl⟩
  have oneLine : ∀ c ∈ (", ".intercalate (addresses recipients)).toList, endsLine c = false :=
    forall_mem_intercalate marks fun _ member => endsLine_of_mem member
  have rest : (", ".intercalate (addresses recipients)).toList.dropWhile (!endsLine ·) = [] := by
    rw [List.dropWhile_eq_nil_iff]
    intro c inside
    rw [oneLine c inside]
    rfl
  rw [checkLines, hasSeveralLines, rest]
  rfl

/-- Cleaning up recipients is canonical. Of what they offer, trimmed, exactly those texts are left
that have the form of an address and are the first of all that are equal in small letters, in their
order; no blank and no end of a line is left in them; and what is left stays as it is if it is
cleaned up again as a list, and, if it came of a text, also if it is joined to a text. -/
theorem addresses_are_canonical :
    (∀ recipients : Recipients,
      (∀ kept, addresses recipients = kept ↔ ∃ tokens trimmed, Offers recipients tokens ∧
        List.Forall₂ IsTrimOf trimmed tokens ∧
        HoldsFirsts lower (fun s => HasAddressForm s.toList) trimmed kept) ∧
      (∀ address ∈ addresses recipients, ∀ c ∈ address.toList,
        isBlank c = false ∧ endsLine c = false) ∧
      addresses (.list (addresses recipients)) = addresses recipients) ∧
    ∀ s : String,
      addresses (.text (", ".intercalate (addresses (.text s)))) = addresses (.text s) := by
  refine ⟨fun recipients => ⟨fun kept => addresses_eq_iff, ?_, ?_⟩, addresses_text_intercalate⟩
  · intro address member c inside
    exact ⟨(hasAddressForm_of_mem member).noBlank c inside, endsLine_of_mem member c inside⟩
  · exact addresses_list_addresses recipients

example : addresses (.text " A@X.com;bad, a@x.COM ,b@y.com;") = ["A@X.com", "b@y.com"] := by
  decide +kernel

/-- The items of a list may hold commas, so joined to a text they may be other addresses. -/
example : addresses (.list ["a,b@x.com"]) = ["a,b@x.com"] ∧
    addresses (.text "a,b@x.com") = ["b@x.com"] := by
  decide +kernel

end Mail
end Issuance
