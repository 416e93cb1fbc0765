import Issuance.Proofs.Text.Letters
/-!
What stays of a text when it is put in small letters. Blanks, digits and the marks before the
capitals stay where they are, and none of them comes of another character, so that a text and its
form in small letters are parted by them in the same way.
-/

namespace Issuance
namespace Text

/-- The characters before the capitals, and all blanks. Casing does not change them. -/
def isCaseless (c : Char) : Bool := c.toNat < 0x41 || isBlank c

/-- What a character with case may become: some characters, none of them without case. -/
structure IsCasedBlock (block : List Char) : Prop where
  filled : block ≠ []
  cased : ∀ c ∈ block, isCaseless c = false

theorem isCasedBlock_singleton {c : Char} (cased : isCaseless c = false) : IsCasedBlock [c] where
  filled := List.cons_ne_nil _ _
  cased := by
    intro d member
    obtain rfl := List.mem_singleton.1 member
    exact cased

theorem IsCasedBlock.not_mem {block : List Char} (isBlock : IsCasedBlock block) {mark : Char}
    (fixed : isCaseless mark = true) : mark ∉ block := by
  intro inside
  rw [isBlock.cased mark inside] at fixed
  cases fixed

theorem lowerImage_of_isCaseless {c : Char} (caseless : isCaseless c = true) :
    caseImage lowerRuns lowerExpansions c = [c] := by
  by_cases below : c.toNat < 0x41
  · exact lowerImage_of_lt below
  · have blank : isBlank c = true := by
      rw [isCaseless, Bool.or_eq_true, decide_eq_true_eq] at caseless
      exact caseless.resolve_left below
    exact caseImage_of_mem_farBlanks (by decide +kernel) (by decide +kernel)
      (mem_farBlanks blank (by omega))

/-- The code points of a stretch are those of characters, and none of these is without case. -/
private def isCasedStretch (first last : Int) : Bool :=
  (last < 0xD800 || (0xDFFF < first && last < 0x110000)) && 0x41 ≤ first &&
    farBlanks.all fun code => last < code || code < first

private theorem isCaseless_of_isCasedStretch {first last : Int}
    (stretch : isCasedStretch first last = true) {code : Nat} (above : first ≤ code)
    (below : code ≤ last) : isCaseless (Char.ofNat code) = false := by
  simp only [isCasedStretch, Bool.and_eq_true, Bool.or_eq_true, decide_eq_true_eq,
    List.all_eq_true] at stretch
  obtain ⟨⟨valid, high⟩, apart⟩ := stretch
  have isChar : code.isValidChar := by
    unfold Nat.isValidChar
    omega
  have same : (Char.ofNat code).toNat = code := by
    rw [Char.ofNat, dif_pos isChar]
    rfl
  rw [← Bool.not_eq_true, isCaseless, Bool.or_eq_true, decide_eq_true_eq, same]
  rintro (low | blank)
  · omega
  · have listed := mem_farBlanks blank (by omega)
    rw [same] at listed
    have outside := apart code listed
    omega

private theorem runs_are_cased : (lowerRuns.toList.all fun run =>
    isCasedStretch (run.first + run.delta) (run.last + run.delta)) = true := by
  decide +kernel

private theorem expansions_are_cased : (lowerExpansions.toList.all fun entry =>
    !entry.2.isEmpty && entry.2.all fun code => !isCaseless (Char.ofNat code)) = true := by
  decide +kernel

/-- No character with case becomes one without. -/
theorem isCasedBlock_lowerImage {c : Char} (cased : isCaseless c = false) :
    IsCasedBlock (caseImage lowerRuns lowerExpansions c) := by
  unfold caseImage
  split
  · next run found =>
      have contained := Array.find?_some found
      have stretch := List.all_eq_true.1 runs_are_cased run
        (Array.mem_toList_iff.2 (Array.mem_of_find?_eq_some found))
      simp only [CaseRun.contains, Bool.and_eq_true, decide_eq_true_eq] at contained
      have high : (0x41 : Int) ≤ run.first + run.delta := by
        simp only [isCasedStretch, Bool.and_eq_true, decide_eq_true_eq] at stretch
        exact stretch.1.2
      exact isCasedBlock_singleton
        (isCaseless_of_isCasedStretch stretch (by omega) (by omega))
  · split
    · next first codes found =>
        have entry := List.all_eq_true.1 expansions_are_cased (first, codes)
          (Array.mem_toList_iff.2 (Array.mem_of_find?_eq_some found))
        simp only [Bool.and_eq_true, Bool.not_eq_true', List.all_eq_true,
          List.isEmpty_eq_false_iff] at entry
        refine ⟨fun none => entry.1 (List.map_eq_nil_iff.1 none), fun d member => ?_⟩
        obtain ⟨code, listed, rfl⟩ := List.mem_map.1 member
        exact entry.2 code listed
    · exact isCasedBlock_singleton cased

/-- In a text each character without case stays, and in the place of any other stand some with
case. -/
inductive IsRecased : List Char → List Char → Prop
  | nil : IsRecased [] []
  | caseless {c : Char} {cs ds : List Char} (fixed : isCaseless c = true)
      (others : IsRecased cs ds) : IsRecased (c :: cs) (c :: ds)
  | cased {c : Char} {cs block ds : List Char} (old : isCaseless c = false)
      (new : IsCasedBlock block) (others : IsRecased cs ds) : IsRecased (c :: cs) (block ++ ds)

theorem isRecased_lowerChars (before cs : List Char) : IsRecased cs (lowerChars before cs) := by
  induction cs generalizing before with
  | nil => exact .nil
  | cons c rest ih =>
      have later := ih (c :: before)
      rw [lowerChars, lowerChar]
      split
      · next sigma =>
          -- both small forms of the letter have case, whatever decides between them
          subst sigma
          refine .cased (by decide) ?_ later
          split <;> exact isCasedBlock_singleton (by decide)
      · cases kind : isCaseless c with
        | true =>
            rw [lowerImage_of_isCaseless kind]
            exact .caseless kind later
        | false => exact .cased kind (isCasedBlock_lowerImage kind) later

theorem isRecased_lower (s : String) : IsRecased s.toList (lower s).toList := by
  rw [lower, String.toList_ofList]
  exact isRecased_lowerChars [] s.toList

/-- A block without a mark lies before the mark. -/
private theorem exists_append_of_not_mem {block before after ds : List Char} {mark : Char}
    (outside : mark ∉ block) (whole : block ++ ds = before ++ mark :: after) :
    ∃ more, before = block ++ more ∧ ds = more ++ mark :: after := by
  induction block generalizing before with
  | nil => exact ⟨before, rfl, whole⟩
  | cons c block ih =>
      rw [List.mem_cons, not_or] at outside
      cases before with
      | nil => exact absurd (List.cons.inj whole).1.symm outside.1
      | cons first before =>
          obtain ⟨rfl, rest⟩ := List.cons.inj whole
          obtain ⟨more, rfl, behind⟩ := ih outside.2 rest
          exact ⟨more, rfl, behind⟩

namespace IsRecased

variable {cs ds before after : List Char} {mark : Char}

theorem eq_nil_iff (recased : IsRecased cs ds) : cs = [] ↔ ds = [] := by
  cases recased with
  | nil => exact Iff.rfl
  | caseless => exact iff_of_false (List.cons_ne_nil _ _) (List.cons_ne_nil _ _)
  | cased _ new =>
      exact iff_of_false (List.cons_ne_nil _ _)
        fun none => new.filled (List.append_eq_nil_iff.1 none).1

theorem mem_iff (recased : IsRecased cs ds) (fixed : isCaseless mark = true) :
    mark ∈ cs ↔ mark ∈ ds := by
  induction recased with
  | nil => exact Iff.rfl
  | caseless _ _ ih => rw [List.mem_cons, List.mem_cons, ih]
  | cased old new _ ih =>
      have other := (isCasedBlock_singleton old).not_mem fixed
      rw [List.mem_cons, List.mem_append, ih, or_iff_right (other ∘ List.mem_singleton.2),
        or_iff_right (new.not_mem fixed)]

/-- Of characters without case there are some in both texts or in none. -/
theorem forall_iff {p : Char → Bool} (caseless : ∀ c, p c = true → isCaseless c = true)
    (recased : IsRecased cs ds) : (∀ c ∈ cs, p c = false) ↔ ∀ c ∈ ds, p c = false := by
  refine forall_congr' fun c => ?_
  cases kind : p c with
  | false => exact iff_of_true (fun _ => rfl) (fun _ => rfl)
  | true => rw [recased.mem_iff (caseless c kind)]

/-- Where a text is parted by a character without case, its other form is parted too. -/
theorem exists_of_append_cons (recased : IsRecased (before ++ mark :: after) ds)
    (fixed : isCaseless mark = true) :
    ∃ before' after', ds = before' ++ mark :: after' ∧ IsRecased before before' ∧
      IsRecased after after' := by
  generalize whole : before ++ mark :: after = cs at recased
  induction recased generalizing before with
  | nil => cases (List.append_eq_nil_iff.1 whole).2
  | @caseless c cs ds same others ih =>
      cases before with
      | nil =>
          obtain ⟨rfl, rfl⟩ := List.cons.inj whole
          exact ⟨[], ds, rfl, .nil, others⟩
      | cons first before =>
          obtain ⟨rfl, rest⟩ := List.cons.inj whole
          obtain ⟨before', after', rfl, left, right⟩ := ih rest
          exact ⟨first :: before', after', rfl, .caseless same left, right⟩
  | @cased c cs block ds old new others ih =>
      cases before with
      | nil =>
          obtain ⟨rfl, -⟩ := List.cons.inj whole
          rw [fixed] at old
          cases old
      | cons first before =>
          obtain ⟨rfl, rest⟩ := List.cons.inj whole
          obtain ⟨before', after', rfl, left, right⟩ := ih rest
          exact ⟨block ++ before', after', (List.append_assoc _ _ _).symm, .cased old new left,
            right⟩

/-- Where the other form is parted by a character without case, the text is parted too. -/
theorem exists_of_eq_append_cons (recased : IsRecased cs (before ++ mark :: after))
    (fixed : isCaseless mark = true) :
    ∃ before' after', cs = before' ++ mark :: after' ∧ IsRecased before' before ∧
      IsRecased after' after := by
  generalize whole : before ++ mark :: after = ds at recased
  induction recased generalizing before with
  | nil => cases (List.append_eq_nil_iff.1 whole).2
  | @caseless c cs ds same others ih =>
      cases before with
      | nil =>
          obtain ⟨rfl, rfl⟩ := List.cons.inj whole
          exact ⟨[], cs, rfl, .nil, others⟩
      | cons first before =>
          obtain ⟨rfl, rest⟩ := List.cons.inj whole
          obtain ⟨before', after', rfl, left, right⟩ := ih rest
          exact ⟨first :: before', after', rfl, .caseless same left, right⟩
  | @cased c cs block ds old new others ih =>
      -- the mark stands in no block, so the block lies before it
      obtain ⟨more, rfl, rest⟩ := exists_append_of_not_mem (new.not_mem fixed) whole.symm
      obtain ⟨before', after', rfl, left, right⟩ := ih rest.symm
      exact ⟨c :: before', after', rfl, .cased old new left, right⟩

end IsRecased

end Text
end Issuance
