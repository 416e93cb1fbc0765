import Issuance.Proofs.Placeholders
/-!
Placeholders in texts that are put together. Where two texts meet, a token may come about that is in
neither of them. If none does, the whole falls apart as its two parts do, and is filled in as they
are; if one does, the whole has more tokens than its parts.
-/

namespace Issuance
namespace Placeholder

/-- A token lies across the place where two texts meet: it begins in the first and ends in the
second. -/
def Crosses (front back : List Char) : Prop :=
  ∃ before head tail after name, front = before ++ head ∧ back = tail ++ after ∧
    head ≠ [] ∧ tail ≠ [] ∧ IsName name ∧ head ++ tail = '{' :: '{' :: (name ++ ['}', '}'])

variable {front back : List Char}

theorem not_crosses_nil (back : List Char) : ¬Crosses [] back := by
  rintro ⟨before, head, tail, after, name, empty, -, filled, -⟩
  exact filled (List.append_eq_nil_iff.1 empty.symm).2

theorem Crosses.append_left (crosses : Crosses front back) (cs : List Char) :
    Crosses (cs ++ front) back := by
  obtain ⟨before, head, tail, after, name, rfl, rest⟩ := crosses
  exact ⟨cs ++ before, head, tail, after, name, (List.append_assoc _ _ _).symm, rest⟩

/-- A token that is at the front only once something follows lies across. -/
theorem crosses_of_token? {name rest : List Char} (filled : front ≠ [])
    (missing : token? front = none) (found : token? (front ++ back) = some (name, rest)) :
    Crosses front back := by
  have isName := isName_of_token? found
  have written : front ++ back = ('{' :: '{' :: (name ++ ['}', '}'])) ++ rest := by
    rw [eq_of_token? found]
    simp only [List.cons_append, List.append_assoc, List.nil_append]
  rcases List.append_eq_append_iff.1 written with ⟨tail, whole, rfl⟩ | ⟨more, rfl, -⟩
  · refine ⟨[], front, tail, rest, name, rfl, rfl, filled, ?_, isName, whole.symm⟩
    rintro rfl
    rw [List.append_nil] at whole
    rw [← whole, token?_append isName []] at missing
    cases missing
  · -- the token would lie in the front altogether
    have there := token?_append isName more
    simp only [List.cons_append, List.append_assoc, List.nil_append] at missing
    rw [there] at missing
    cases missing

/-- A token that lies across begins behind the first character, if the first text shows whether
there is one at the front. -/
theorem crosses_of_cons {c : Char} (crosses : Crosses (c :: front) back)
    (told : (token? (c :: front)).isSome = true ∨ token? (c :: (front ++ back)) = none) :
    Crosses front back := by
  obtain ⟨before, head, tail, after, name, split, rfl, filled, ended, isName, whole⟩ := crosses
  cases before with
  | cons d before =>
      obtain ⟨rfl, rfl⟩ := List.cons.inj split
      exact ⟨before, head, tail, after, name, rfl, rfl, filled, ended, isName, whole⟩
  | nil =>
      rw [List.nil_append] at split
      have short : token? (c :: (front ++ tail)) = some (name, []) := by
        rw [← List.cons_append, split, whole]
        exact token?_append isName []
      rcases told with found | missing
      · obtain ⟨⟨other, rest⟩, found⟩ := Option.isSome_iff_exists.1 found
        have longer := token?_append_of_some found tail
        rw [List.cons_append, short] at longer
        have nothing := (Prod.mk.inj (Option.some.inj longer)).2
        exact absurd (List.append_eq_nil_iff.1 nothing.symm).2 ended
      · have longer := token?_append_of_some short after
        rw [List.cons_append, List.append_assoc, missing] at longer
        cases longer

theorem segments_append (apart : ¬Crosses front back) :
    segments (front ++ back) = segments front ++ segments back := by
  induction front using segments.induct with
  | case1 cs name rest found ih =>
      have remaining : ¬Crosses rest back := by
        intro crosses
        refine apart ?_
        have longer := crosses.append_left ('{' :: '{' :: (name ++ ['}', '}']))
        rw [eq_of_token? found]
        simpa only [List.cons_append, List.append_assoc, List.nil_append] using longer
      rw [segments_of_token? found, segments_of_token? (token?_append_of_some found back),
        ih remaining, List.cons_append]
  | case2 missing =>
      rw [segments_nil, List.nil_append, List.nil_append]
  | case3 c rest missing ih =>
      have still : token? (c :: (rest ++ back)) = none := by
        rw [Option.eq_none_iff_forall_ne_some]
        rintro ⟨name, after⟩ found
        exact apart (crosses_of_token? (List.cons_ne_nil c rest) missing found)
      have remaining : ¬Crosses rest back := fun crosses => apart (crosses.append_left [c])
      rw [List.cons_append, segments_cons_of_none still, segments_cons_of_none missing,
        ih remaining, List.cons_append]

theorem namesIn_append (apart : ¬Crosses front back) :
    namesIn (front ++ back) = namesIn front ++ namesIn back := by
  unfold namesIn
  rw [segments_append apart, List.filterMap_append]

theorem namesIn_cons_of_token? {c : Char} {cs name rest : List Char}
    (found : token? (c :: cs) = some (name, rest)) :
    namesIn (c :: cs) = String.ofList name :: namesIn cs := by
  rw [namesIn_of_token? found, namesIn_tail_of_token? found]

/-- A token that lies across counts for neither part. -/
theorem length_namesIn_lt (crosses : Crosses front back) :
    (namesIn front).length + (namesIn back).length < (namesIn (front ++ back)).length := by
  induction front with
  | nil => exact absurd crosses (not_crosses_nil back)
  | cons c front ih =>
      cases here : token? (c :: front) with
      | some pair =>
          obtain ⟨name, rest⟩ := pair
          have later := ih (crosses_of_cons crosses (Or.inl (by rw [here]; rfl)))
          have longer : token? (c :: (front ++ back)) = some (name, rest ++ back) :=
            token?_append_of_some here back
          rw [List.cons_append, namesIn_cons_of_token? here, namesIn_cons_of_token? longer,
            List.length_cons, List.length_cons]
          omega
      | none =>
          rw [List.cons_append, namesIn_cons_of_none here]
          cases longer : token? (c :: (front ++ back)) with
          | some pair =>
              have kept := (sublist_namesIn_append front back).length_le
              rw [List.length_append] at kept
              rw [namesIn_cons_of_token? longer, List.length_cons]
              omega
          | none =>
              rw [namesIn_cons_of_none longer]
              exact ih (crosses_of_cons crosses (Or.inr longer))

/-- No token lies across a place where two of some texts meet. -/
def MeetApart (texts : List String) : Prop :=
  ∀ front back, texts = front ++ back →
    ¬Crosses (String.join front).toList (String.join back).toList

namespace MeetApart

variable {first : String} {rest : List String}

theorem tail (apart : MeetApart (first :: rest)) : MeetApart rest := by
  rintro front back rfl crosses
  refine apart (first :: front) back rfl ?_
  rw [String.join_cons, String.toList_append]
  exact crosses.append_left first.toList

theorem head (apart : MeetApart (first :: rest)) :
    ¬Crosses first.toList (String.join rest).toList := by
  have here := apart [first] rest rfl
  rwa [String.join_cons, String.join_nil, String.append_empty] at here

end MeetApart

/-- Texts that meet apart are those whose tokens are as many as those of the whole. -/
theorem meetApart_iff {texts : List String} :
    MeetApart texts ↔ (texts.flatMap names).length = (names (String.join texts)).length := by
  constructor
  · intro apart
    induction texts with
    | nil =>
        exact congrArg (fun pieces => (pieces.filterMap Segment.name?).length) segments_nil.symm
    | cons first rest ih =>
        have parts :
            names (String.join (first :: rest)) = names first ++ names (String.join rest) := by
          change namesIn (String.join (first :: rest)).toList = _
          rw [String.join_cons, String.toList_append]
          exact namesIn_append apart.head
        rw [parts, List.flatMap_cons, List.length_append, List.length_append, ih apart.tail]
  · rintro same front back rfl crosses
    have more : (names (String.join front)).length + (names (String.join back)).length <
        (names (String.join (front ++ back))).length := by
      change _ < (namesIn (String.join (front ++ back)).toList).length
      rw [String.join_append, String.toList_append]
      exact length_namesIn_lt crosses
    have early := (sublist_names_join front).length_le
    have late := (sublist_names_join back).length_le
    rw [List.flatMap_append, List.length_append] at same
    omega

variable {ε : Type} {lookup : String → Except ε String}

theorem fillSegments_append {pieces others : List Segment} {filled rest : List Char}
    (done : fillSegments lookup pieces = .ok filled)
    (also : fillSegments lookup others = .ok rest) :
    fillSegments lookup (pieces ++ others) = .ok (filled ++ rest) := by
  induction pieces generalizing filled with
  | nil =>
      cases done
      exact also
  | cons piece pieces ih =>
      cases piece with
      | char c =>
          rw [fillSegments] at done
          obtain ⟨onward, remaining, done⟩ := bind_eq_ok_iff.1 done
          cases done
          rw [List.cons_append, fillSegments, ih remaining]
          rfl
      | token name =>
          rw [fillSegments] at done
          obtain ⟨value, found, done⟩ := bind_eq_ok_iff.1 done
          obtain ⟨onward, remaining, done⟩ := bind_eq_ok_iff.1 done
          cases done
          rw [List.cons_append, fillSegments, found, ih remaining, List.append_assoc]
          rfl

theorem fill_eq_ok_iff {text filled : String} :
    fill lookup text = .ok filled ↔
      fillSegments lookup (segments text.toList) = .ok filled.toList := by
  unfold fill fillWith
  cases fillSegments lookup (segments text.toList) with
  | error e => exact ⟨nofun, nofun⟩
  | ok chars =>
      constructor
      · intro done
        cases done
        rw [String.toList_ofList]
      · intro done
        cases done
        exact congrArg Except.ok String.ofList_toList

theorem fillSegments_of_plain {pieces : List Segment}
    (plain : pieces.filterMap Segment.name? = []) :
    fillSegments lookup pieces = .ok (pieces.flatMap Segment.source) := by
  induction pieces with
  | nil => rfl
  | cons piece pieces ih =>
      cases piece with
      | char c =>
          rw [fillSegments, ih plain]
          rfl
      | token name => cases plain

/-- A text without placeholders is filled in to itself. -/
theorem fill_of_names_eq_nil {text : String} (plain : names text = []) :
    fill lookup text = .ok text := by
  rw [fill_eq_ok_iff, fillSegments_of_plain plain, flatMap_source_segments]

/-- Texts that meet apart may be filled in one by one. -/
theorem fill_join {texts filled : List String} (apart : MeetApart texts)
    (each : List.Forall₂ (fun text value => fill lookup text = .ok value) texts filled) :
    fill lookup (String.join texts) = .ok (String.join filled) := by
  induction each with
  | nil => exact fill_of_names_eq_nil (congrArg (List.filterMap Segment.name?) segments_nil)
  | cons here _ ih =>
      rw [fill_eq_ok_iff, String.join_cons, String.join_cons, String.toList_append,
        String.toList_append, segments_append apart.head]
      exact fillSegments_append (fill_eq_ok_iff.1 here) (fill_eq_ok_iff.1 (ih apart.tail))

end Placeholder
end Issuance
