import Issuance.Proofs.Placeholders
/-!
The places at which tokens stand in a text. The tokens among the segments of a text are all those
that are written anywhere in it; and a list of pieces of which that is true is the list of its
segments.
-/

namespace Issuance
namespace Placeholder

/-- The token of a name is written in a text, behind so many characters. -/
def StandsAt (cs : List Char) (place : Nat) (name : String) : Prop :=
  IsName name.toList ∧ (Segment.token name).source <+: cs.drop place

variable {cs : List Char} {place : Nat} {name : String}

theorem source_token_append (name : String) (rest : List Char) :
    (Segment.token name).source ++ rest = '{' :: '{' :: (name.toList ++ '}' :: '}' :: rest) := by
  simp only [Segment.source, List.cons_append, List.append_assoc, List.nil_append]

theorem token?_source_append {name : String} (isName : IsName name.toList) (rest : List Char) :
    token? ((Segment.token name).source ++ rest) = some (name.toList, rest) := by
  rw [source_token_append]
  exact token?_append isName rest

theorem standsAt_zero_iff : StandsAt cs 0 name ↔ ∃ rest, token? cs = some (name.toList, rest) := by
  unfold StandsAt
  rw [List.drop_zero]
  constructor
  · rintro ⟨isName, rest, rfl⟩
    exact ⟨rest, token?_source_append isName rest⟩
  · rintro ⟨rest, found⟩
    exact ⟨isName_of_token? found, rest, by rw [source_token_append, eq_of_token? found]⟩

theorem standsAt_succ_iff {c : Char} : StandsAt (c :: cs) (place + 1) name ↔ StandsAt cs place name :=
  Iff.rfl

theorem not_standsAt_nil : ¬StandsAt [] place name := by
  rintro ⟨-, rest, same⟩
  rw [List.drop_nil] at same
  cases same

/-- Behind a token at the front, tokens stand where they stand in what follows it; in the midst of
it there is none. -/
theorem standsAt_iff_of_token? {first : String} {rest : List Char}
    (found : token? cs = some (first.toList, rest)) :
    StandsAt cs place name ↔ (place = 0 ∧ name = first) ∨
      ∃ later, place = (Segment.token first).source.length + later ∧ StandsAt rest later name := by
  have whole : cs = (Segment.token first).source ++ rest := by
    rw [source_token_append, eq_of_token? found]
  constructor
  · intro stands
    cases place with
    | zero =>
        obtain ⟨other, again⟩ := standsAt_zero_iff.1 stands
        rw [found] at again
        obtain ⟨same, -⟩ := Prod.mk.inj (Option.some.inj again)
        exact Or.inl ⟨rfl, String.toList_injective same.symm⟩
    | succ place =>
        refine Or.inr ?_
        obtain ⟨isName, after, written⟩ := stands
        have split : cs = cs.take (place + 1) ++ '{' :: '{' :: (name.toList ++ '}' :: '}' :: after) := by
          rw [← source_token_append, written, List.take_append_drop]
        have filled : cs.take (place + 1) ≠ [] := by
          rw [whole]
          exact List.cons_ne_nil _ _
        obtain ⟨between, back⟩ := exists_of_append_token (isName_of_token? found) filled
          (split.symm.trans (eq_of_token? found))
        -- what is left of the text behind the first token tells how far the second is behind it
        have lengths := congrArg List.length split
        have remaining := congrArg List.length back
        have before := congrArg List.length whole
        have within := List.length_take_le (place + 1) cs
        have reached : (cs.take (place + 1)).length = place + 1 := by
          refine List.length_take_of_le ?_
          by_contra short
          rw [List.drop_eq_nil_of_le (by omega)] at written
          cases written
        simp only [List.length_append, List.length_cons] at lengths remaining before
        refine ⟨between.length, by omega, isName, after, ?_⟩
        rw [source_token_append, ← back, List.drop_left]
  · rintro (⟨rfl, rfl⟩ | ⟨later, rfl, isName, written⟩)
    · exact standsAt_zero_iff.2 ⟨rest, found⟩
    · refine ⟨isName, ?_⟩
      rwa [whole, List.drop_length_add_append]

/-- The places of the tokens among pieces of a text that stand behind so many characters. -/
def placesFrom (place : Nat) : List Segment → List (Nat × String)
  | [] => []
  | .char _ :: rest => placesFrom (place + 1) rest
  | .token name :: rest =>
    (place, name) :: placesFrom (place + (Segment.token name).source.length) rest

theorem le_of_mem_placesFrom {offset : Nat} {pieces : List Segment} {entry : Nat × String}
    (member : entry ∈ placesFrom offset pieces) : offset ≤ entry.1 := by
  induction pieces generalizing offset with
  | nil => cases member
  | cons piece rest ih =>
      cases piece with
      | char c => exact Nat.le_of_succ_le (ih member)
      | token name =>
          rcases List.mem_cons.1 member with rfl | later
          · exact Nat.le_refl offset
          · exact Nat.le_trans (Nat.le_add_right _ _) (ih later)

theorem pairwise_placesFrom (offset : Nat) (pieces : List Segment) :
    (placesFrom offset pieces).Pairwise fun here there => here.1 < there.1 := by
  induction pieces generalizing offset with
  | nil => exact List.Pairwise.nil
  | cons piece rest ih =>
      cases piece with
      | char c => exact ih _
      | token name =>
          refine List.pairwise_cons.2 ⟨fun there member => ?_, ih _⟩
          have behind := le_of_mem_placesFrom member
          have positive : 0 < (Segment.token name).source.length := Nat.succ_pos _
          simp only
          omega

theorem map_snd_placesFrom (offset : Nat) (pieces : List Segment) :
    (placesFrom offset pieces).map Prod.snd = pieces.filterMap Segment.name? := by
  induction pieces generalizing offset with
  | nil => rfl
  | cons piece rest ih =>
      cases piece with
      | char c => exact ih _
      | token name => exact congrArg (name :: ·) (ih _)

/-- The tokens among the segments of a text stand where tokens are written in it, and nowhere
else. -/
theorem mem_placesFrom_segments {offset : Nat} :
    (place, name) ∈ placesFrom offset (segments cs) ↔
      ∃ here, place = offset + here ∧ StandsAt cs here name := by
  induction cs using segments.induct generalizing offset with
  | case1 cs first rest found ih =>
      have found' : token? cs = some ((String.ofList first).toList, rest) := by
        rw [String.toList_ofList]
        exact found
      rw [segments_of_token? found, placesFrom, List.mem_cons, ih, Prod.mk.injEq]
      constructor
      · rintro (⟨rfl, rfl⟩ | ⟨later, rfl, stands⟩)
        · exact ⟨0, rfl, standsAt_zero_iff.2 ⟨rest, found'⟩⟩
        · exact ⟨_, Nat.add_assoc _ _ _, (standsAt_iff_of_token? found').2 (Or.inr ⟨later, rfl, stands⟩)⟩
      · rintro ⟨here, rfl, stands⟩
        rcases (standsAt_iff_of_token? found').1 stands with ⟨rfl, rfl⟩ | ⟨later, rfl, behind⟩
        · exact Or.inl ⟨rfl, rfl⟩
        · exact Or.inr ⟨later, (Nat.add_assoc _ _ _).symm, behind⟩
  | case2 missing =>
      rw [segments_nil]
      constructor
      · exact fun none => absurd none List.not_mem_nil
      · rintro ⟨here, -, stands⟩
        exact absurd stands not_standsAt_nil
  | case3 c rest missing ih =>
      rw [segments_cons_of_none missing, placesFrom, ih]
      constructor
      · rintro ⟨here, rfl, stands⟩
        exact ⟨here + 1, by omega, standsAt_succ_iff.2 stands⟩
      · rintro ⟨here, rfl, stands⟩
        cases here with
        | zero =>
            obtain ⟨after, found⟩ := standsAt_zero_iff.1 stands
            rw [missing] at found
            cases found
        | succ here => exact ⟨here, by omega, standsAt_succ_iff.1 stands⟩

/-- Pieces among which the tokens are all those that are written in the text are its segments. -/
theorem segments_eq_of_places {offset : Nat} {pieces : List Segment}
    (exact : ∀ place name, (place, name) ∈ placesFrom offset pieces ↔
      ∃ here, place = offset + here ∧ StandsAt (pieces.flatMap Segment.source) here name) :
    segments (pieces.flatMap Segment.source) = pieces := by
  induction pieces generalizing offset with
  | nil => exact segments_nil
  | cons piece rest ih =>
      rw [List.flatMap_cons] at exact ⊢
      cases piece with
      | char c =>
          have missing : token? (c :: rest.flatMap Segment.source) = none := by
            rw [Option.eq_none_iff_forall_ne_some]
            rintro ⟨first, after⟩ found
            -- a token at the front would stand before all tokens among the pieces
            have stands : StandsAt (c :: rest.flatMap Segment.source) 0 (String.ofList first) := by
              refine standsAt_zero_iff.2 ⟨after, ?_⟩
              rw [String.toList_ofList]
              exact found
            have member : (offset, String.ofList first) ∈ placesFrom (offset + 1) rest :=
              (exact offset _).2 ⟨0, rfl, stands⟩
            exact absurd (le_of_mem_placesFrom member) (Nat.not_succ_le_self offset)
          change segments (c :: rest.flatMap Segment.source) = _
          rw [segments_cons_of_none missing]
          refine congrArg _ (@ih (offset + 1) fun place name => ?_)
          refine (exact place name).trans ⟨?_, ?_⟩
          · rintro ⟨here, rfl, stands⟩
            cases here with
            | zero =>
                obtain ⟨after, found⟩ := standsAt_zero_iff.1 stands
                cases missing.symm.trans found
            | succ here => exact ⟨here, by omega, standsAt_succ_iff.1 stands⟩
          · rintro ⟨here, rfl, stands⟩
            exact ⟨here + 1, by omega, standsAt_succ_iff.2 stands⟩
      | token first =>
          have found : token? ((Segment.token first).source ++ rest.flatMap Segment.source) =
              some (first.toList, rest.flatMap Segment.source) := by
            obtain ⟨here, same, isName, -⟩ := (exact offset first).1 List.mem_cons_self
            exact token?_source_append isName _
          rw [segments_of_token? found, String.ofList_toList]
          refine congrArg _ (@ih (offset + (Segment.token first).source.length) ?_)
          intro place name
          constructor
          · intro member
            obtain ⟨here, rfl, stands⟩ := (exact place name).1 (List.mem_cons_of_mem _ member)
            rcases (standsAt_iff_of_token? found).1 stands with ⟨rfl, rfl⟩ | ⟨later, rfl, behind⟩
            · have early := le_of_mem_placesFrom member
              have positive : 0 < (Segment.token name).source.length := Nat.succ_pos _
              simp only at early
              omega
            · exact ⟨later, (Nat.add_assoc _ _ _).symm, behind⟩
          · rintro ⟨later, rfl, behind⟩
            have stands := (standsAt_iff_of_token? found).2 (Or.inr ⟨later, rfl, behind⟩)
            have member := (exact _ name).2 ⟨_, rfl, stands⟩
            rw [placesFrom, List.mem_cons, Prod.mk.injEq] at member
            rcases member with ⟨same, -⟩ | among
            · have positive : 0 < (Segment.token first).source.length := Nat.succ_pos _
              omega
            · rwa [Nat.add_assoc]

end Placeholder
end Issuance
