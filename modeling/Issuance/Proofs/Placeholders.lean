import Issuance.Placeholder
import Issuance.Proofs.Distinct
import Issuance.Proofs.Results
/-!
Where the placeholders of a text stand. A token is found wherever it is written, whatever stands
around it, so the tokens of a piece of a text are tokens of the text.
-/

namespace Issuance

namespace Placeholder

/-- Names that are listed text by text are the distinct names of the texts. -/
theorem foldl_listFurther (texts : List String) :
    texts.foldl listFurther [] = extract texts := by
  unfold listFurther
  rw [← List.foldl_flatMap, foldl_append_new, List.nil_append]
  rfl

theorem mem_extract {name : String} {texts : List String} :
    name ∈ extract texts ↔ ∃ text ∈ texts, name ∈ names text := by
  rw [extract, mem_distinct, List.mem_flatMap]

/-- A name as it may stand in a token. -/
structure IsName (name : List Char) : Prop where
  nonempty : name ≠ []
  spelled : ∀ c ∈ name, isNameChar c = true

theorem isName_of_token? {cs name rest : List Char} (found : token? cs = some (name, rest)) :
    IsName name := by
  unfold token? at found
  split at found
  · next body =>
      split at found
      · next first tail after taken dropped =>
          obtain ⟨rfl, rfl⟩ := Prod.mk.inj (Option.some.inj found)
          refine ⟨List.cons_ne_nil _ _, ?_⟩
          intro c member
          rw [← taken] at member
          exact List.all_eq_true.1 List.all_takeWhile c member
      · cases found
  · cases found

theorem IsName.brace_not_mem {name : List Char} (isName : IsName name) :
    '{' ∉ name ++ ['}', '}'] := by
  have brace : isNameChar '{' = false := by decide
  intro member
  rcases List.mem_append.1 member with inside | behind
  · have spelled := isName.spelled _ inside
    rw [brace] at spelled
    cases spelled
  · simp only [List.mem_cons, List.not_mem_nil, or_false] at behind
    rcases behind with impossible | impossible <;> exact absurd impossible (by decide)

/-- A token that is written at the front is found there. -/
theorem token?_append {name : List Char} (isName : IsName name) (rest : List Char) :
    token? ('{' :: '{' :: (name ++ '}' :: '}' :: rest)) = some (name, rest) := by
  have brace : isNameChar '}' = false := by decide
  have taken : (name ++ '}' :: '}' :: rest).takeWhile isNameChar = name := by
    rw [List.takeWhile_append_of_pos isName.spelled, List.takeWhile_cons, brace]
    exact List.append_nil name
  have dropped : (name ++ '}' :: '}' :: rest).dropWhile isNameChar = '}' :: '}' :: rest := by
    rw [List.dropWhile_append_of_pos isName.spelled, List.dropWhile_cons, brace]
    rfl
  obtain ⟨first, tail, rfl⟩ := List.exists_cons_of_ne_nil isName.nonempty
  simp only [token?, taken, dropped]

/-- A token at the front of a text is at the front of every longer one. -/
theorem token?_append_of_some {cs name rest : List Char} (found : token? cs = some (name, rest))
    (ds : List Char) : token? (cs ++ ds) = some (name, rest ++ ds) := by
  rw [eq_of_token? found]
  simp only [List.cons_append, List.append_assoc]
  exact token?_append (isName_of_token? found) (rest ++ ds)

/-- An opening brace is not among characters that are none. -/
private theorem exists_of_append_brace {skipped before after rest : List Char}
    (clear : '{' ∉ skipped) (same : before ++ '{' :: after = skipped ++ rest) :
    ∃ between, before = skipped ++ between ∧ between ++ '{' :: after = rest := by
  induction skipped generalizing before with
  | nil => exact ⟨before, rfl, same⟩
  | cons c skipped ih =>
      have notBrace : c ≠ '{' := fun brace => clear (brace ▸ List.mem_cons_self)
      cases before with
      | nil =>
          have first := (List.cons.inj same).1
          exact absurd first.symm notBrace
      | cons d before =>
          obtain ⟨rfl, others⟩ := List.cons.inj same
          obtain ⟨between, front, back⟩ :=
            ih (fun member => clear (List.mem_cons_of_mem _ member)) others
          exact ⟨between, by rw [front, List.cons_append], back⟩

/-- A token that is written behind the front does not begin within a token at the front. -/
theorem exists_of_append_token {before after name rest : List Char} (isName : IsName name)
    (filled : before ≠ [])
    (same : before ++ '{' :: '{' :: after = '{' :: '{' :: (name ++ '}' :: '}' :: rest)) :
    ∃ between, between ++ '{' :: '{' :: after = rest := by
  have brace : isNameChar '{' = false := by decide
  have clear : '{' ∉ name ++ ['}', '}'] := isName.brace_not_mem
  cases before with
  | nil => exact absurd rfl filled
  | cons c before =>
      have later := (List.cons.inj same).2
      cases before with
      | nil =>
          -- the second brace would be the first character of the name
          obtain ⟨first, tail, rfl⟩ := List.exists_cons_of_ne_nil isName.nonempty
          have second := (List.cons.inj (List.cons.inj later).2).1
          have spelled := isName.spelled first List.mem_cons_self
          rw [← second, brace] at spelled
          cases spelled
      | cons d before =>
          have others := (List.cons.inj later).2
          have skipped : before ++ '{' :: '{' :: after = (name ++ ['}', '}']) ++ rest := by
            rw [List.append_assoc]
            exact others
          obtain ⟨between, -, back⟩ := exists_of_append_brace clear skipped
          exact ⟨between, back⟩

theorem segments_nil : segments [] = [] := by
  rw [segments]
  rfl

theorem segments_of_token? {cs name rest : List Char} (found : token? cs = some (name, rest)) :
    segments cs = .token (String.ofList name) :: segments rest := by
  rw [segments]
  split
  · next found' =>
      rw [found] at found'
      obtain ⟨rfl, rfl⟩ := Prod.mk.inj (Option.some.inj found')
      rfl
  · next missing =>
      rw [found] at missing
      cases missing

theorem segments_cons_of_none {c : Char} {cs : List Char} (missing : token? (c :: cs) = none) :
    segments (c :: cs) = .char c :: segments cs := by
  rw [segments]
  split
  · next found =>
      rw [missing] at found
      cases found
  · rfl

/-- A token is among the segments of a text in which it is written. -/
theorem token_mem_segments {name : List Char} (isName : IsName name) (after cs : List Char)
    (before : List Char) (written : cs = before ++ '{' :: '{' :: (name ++ '}' :: '}' :: after)) :
    Segment.token (String.ofList name) ∈ segments cs := by
  induction cs using segments.induct generalizing before with
  | case1 cs name' rest found ih =>
      rw [segments_of_token? found]
      cases before with
      | nil =>
          rw [written, List.nil_append, token?_append isName after] at found
          obtain ⟨rfl, rfl⟩ := Prod.mk.inj (Option.some.inj found)
          exact List.mem_cons_self
      | cons c before =>
          obtain ⟨between, back⟩ := exists_of_append_token (isName_of_token? found)
            (List.cons_ne_nil c before) (written.symm.trans (eq_of_token? found))
          exact List.mem_cons_of_mem _ (ih between back.symm)
  | case2 missing => cases before <;> cases written
  | case3 c rest missing ih =>
      rw [segments_cons_of_none missing]
      cases before with
      | nil =>
          rw [written, List.nil_append, token?_append isName after] at missing
          cases missing
      | cons d before => exact List.mem_cons_of_mem _ (ih before (List.cons.inj written).2)

theorem isName_of_mem_segments {name : String} {cs : List Char}
    (member : Segment.token name ∈ segments cs) : IsName name.toList := by
  induction cs using segments.induct with
  | case1 cs name' rest found ih =>
      rw [segments_of_token? found] at member
      rcases List.mem_cons.1 member with here | later
      · cases here
        rw [String.toList_ofList]
        exact isName_of_token? found
      · exact ih later
  | case2 missing =>
      rw [segments_nil] at member
      cases member
  | case3 c rest missing ih =>
      rw [segments_cons_of_none missing] at member
      rcases List.mem_cons.1 member with here | later
      · cases here
      · exact ih later

theorem mem_names_iff_mem_segments {name text : String} :
    name ∈ names text ↔ Segment.token name ∈ segments text.toList := by
  rw [names, List.mem_filterMap]
  constructor
  · rintro ⟨segment, member, named⟩
    cases segment with
    | char c => cases named
    | token other =>
        cases named
        exact member
  · intro member
    exact ⟨_, member, rfl⟩

/-- The names in a text are those that are written in double braces somewhere in it. -/
theorem mem_names_iff {name text : String} :
    name ∈ names text ↔ IsName name.toList ∧ ∃ before after,
      text.toList = before ++ '{' :: '{' :: (name.toList ++ '}' :: '}' :: after) := by
  rw [mem_names_iff_mem_segments]
  constructor
  · intro member
    refine ⟨isName_of_mem_segments member, ?_⟩
    obtain ⟨front, back, whole⟩ := List.append_of_mem member
    refine ⟨front.flatMap Segment.source, back.flatMap Segment.source, ?_⟩
    rw [← flatMap_source_segments text.toList, whole, List.flatMap_append, List.flatMap_cons]
    simp only [Segment.source, List.cons_append, List.append_assoc, List.nil_append]
  · rintro ⟨isName, before, after, written⟩
    have found := token_mem_segments isName after text.toList before written
    rwa [String.ofList_toList] at found

/-- The names in a piece of a text are names in the text. -/
theorem names_subset_of_infix {piece text : String} {front back : List Char}
    (inside : text.toList = front ++ piece.toList ++ back) : names piece ⊆ names text := by
  intro name member
  obtain ⟨isName, before, after, written⟩ := mem_names_iff.1 member
  refine mem_names_iff.2 ⟨isName, front ++ before, after ++ back, ?_⟩
  rw [inside, written]
  simp only [List.append_assoc, List.cons_append]

/-- The names in a list of characters. -/
def namesIn (cs : List Char) : List String := (segments cs).filterMap Segment.name?

theorem namesIn_of_token? {cs name rest : List Char} (found : token? cs = some (name, rest)) :
    namesIn cs = String.ofList name :: namesIn rest := by
  rw [namesIn, segments_of_token? found, List.filterMap_cons]
  rfl

theorem namesIn_cons_of_none {c : Char} {cs : List Char} (missing : token? (c :: cs) = none) :
    namesIn (c :: cs) = namesIn cs := by
  rw [namesIn, segments_cons_of_none missing, List.filterMap_cons]
  rfl

/-- No token begins with anything but two opening braces. -/
private theorem token?_cons_of_ne {c : Char} (notBrace : c ≠ '{') (cs : List Char) :
    token? (c :: cs) = none := by
  unfold token?
  split
  · next same => exact absurd (List.cons.inj same).1 notBrace
  · rfl

private theorem token?_brace_of_ne {c : Char} (notBrace : c ≠ '{') (cs : List Char) :
    token? ('{' :: c :: cs) = none := by
  unfold token?
  split
  · next same => exact absurd (List.cons.inj (List.cons.inj same).2).1 notBrace
  · rfl

private theorem namesIn_append_of_not_mem {skipped : List Char} (clear : '{' ∉ skipped)
    (rest : List Char) : namesIn (skipped ++ rest) = namesIn rest := by
  induction skipped with
  | nil => rfl
  | cons c skipped ih =>
      have notBrace : c ≠ '{' := fun brace => clear (brace ▸ List.mem_cons_self)
      rw [List.cons_append, namesIn_cons_of_none (token?_cons_of_ne notBrace _)]
      exact ih fun member => clear (List.mem_cons_of_mem _ member)

/-- Within a token no other one begins. -/
theorem namesIn_tail_of_token? {c : Char} {cs name rest : List Char}
    (found : token? (c :: cs) = some (name, rest)) : namesIn cs = namesIn rest := by
  have isName := isName_of_token? found
  have tail := (List.cons.inj (eq_of_token? found)).2
  have clear : '{' ∉ name ++ ['}', '}'] := isName.brace_not_mem
  obtain ⟨first, others, rfl⟩ := List.exists_cons_of_ne_nil isName.nonempty
  have notBrace : first ≠ '{' := fun brace => clear (brace ▸ List.mem_cons_self)
  have body : (first :: others) ++ '}' :: '}' :: rest =
      ((first :: others) ++ ['}', '}']) ++ rest := by
    rw [List.append_assoc]
    rfl
  rw [tail, List.cons_append, namesIn_cons_of_none (token?_brace_of_ne notBrace _),
    ← List.cons_append, body]
  exact namesIn_append_of_not_mem clear rest

/-- Joining two texts may make a token where they meet, and leaves all others. -/
theorem sublist_namesIn_append (cs ds : List Char) :
    (namesIn cs ++ namesIn ds).Sublist (namesIn (cs ++ ds)) := by
  induction cs using segments.induct with
  | case1 cs name rest found ih =>
      rw [namesIn_of_token? found, namesIn_of_token? (token?_append_of_some found ds),
        List.cons_append]
      exact ih.cons_cons _
  | case2 missing =>
      have none : namesIn [] = [] := by
        rw [namesIn, segments_nil, List.filterMap_nil]
      rw [none]
      exact List.Sublist.refl _
  | case3 c rest missing ih =>
      rw [namesIn_cons_of_none missing, List.cons_append]
      cases found : token? (c :: (rest ++ ds)) with
      | none =>
          rw [namesIn_cons_of_none found]
          exact ih
      | some pair =>
          obtain ⟨name, after⟩ := pair
          rw [namesIn_of_token? found, ← namesIn_tail_of_token? found]
          exact ih.cons _

/-- The tokens of the pieces are tokens of the whole, in the same order. -/
theorem sublist_names_join (texts : List String) :
    (texts.flatMap names).Sublist (names (String.join texts)) := by
  change List.Sublist _ (namesIn (String.join texts).toList)
  rw [String.toList_join]
  induction texts with
  | nil => exact List.nil_sublist _
  | cons first rest ih =>
      rw [List.flatMap_cons, List.flatMap_cons]
      exact ((List.Sublist.refl (names first)).append ih).trans (sublist_namesIn_append _ _)

variable {ε : Type} {lookup lookup' : String → Except ε String}

theorem fillSegments_congr {pieces : List Segment}
    (same : ∀ name, Segment.token name ∈ pieces → lookup name = lookup' name) :
    fillSegments lookup pieces = fillSegments lookup' pieces := by
  induction pieces with
  | nil => rfl
  | cons piece rest ih =>
      have others := ih fun name member => same name (List.mem_cons_of_mem _ member)
      cases piece with
      | char c => rw [fillSegments, fillSegments, others]
      | token name => rw [fillSegments, fillSegments, others, same name List.mem_cons_self]

/-- Filling in asks for the names in the text only. -/
theorem fill_congr {text : String} (same : ∀ name ∈ names text, lookup name = lookup' name) :
    fill lookup text = fill lookup' text := by
  unfold fill fillWith
  rw [fillSegments_congr]
  intro name member
  exact same name (mem_names_iff_mem_segments.2 member)

theorem exists_of_fillSegments_error {pieces : List Segment} {e : ε}
    (failed : fillSegments lookup pieces = .error e) :
    ∃ name, Segment.token name ∈ pieces ∧ lookup name = .error e := by
  induction pieces with
  | nil => cases failed
  | cons piece rest ih =>
      have later : fillSegments lookup rest = .error e →
          ∃ name, Segment.token name ∈ piece :: rest ∧ lookup name = .error e := by
        intro failed
        obtain ⟨name, member, missing⟩ := ih failed
        exact ⟨name, List.mem_cons_of_mem _ member, missing⟩
      cases piece with
      | char c =>
          rw [fillSegments] at failed
          rcases bind_eq_error_iff.1 failed with remaining | ⟨filled, -, impossible⟩
          · exact later remaining
          · cases impossible
      | token name =>
          rw [fillSegments] at failed
          rcases bind_eq_error_iff.1 failed with here | ⟨value, -, failed⟩
          · exact ⟨name, List.mem_cons_self, here⟩
          · rcases bind_eq_error_iff.1 failed with remaining | ⟨filled, -, impossible⟩
            · exact later remaining
            · cases impossible

/-- Filling in fails only as the look-up of a name in the text does. -/
theorem exists_of_fill_error {text : String} {e : ε} (failed : fill lookup text = .error e) :
    ∃ name ∈ names text, lookup name = .error e := by
  unfold fill fillWith at failed
  cases result : fillSegments lookup (segments text.toList) with
  | ok filled =>
      rw [result] at failed
      cases failed
  | error other =>
      rw [result] at failed
      cases failed
      obtain ⟨name, member, missing⟩ := exists_of_fillSegments_error result
      exact ⟨name, mem_names_iff_mem_segments.2 member, missing⟩

theorem exists_fill {text : String} (found : ∀ name ∈ names text, ∃ value, lookup name = .ok value) :
    ∃ filled, fill lookup text = .ok filled := by
  cases result : fill lookup text with
  | ok filled => exact ⟨filled, rfl⟩
  | error e =>
      obtain ⟨name, member, missing⟩ := exists_of_fill_error result
      obtain ⟨value, here⟩ := found name member
      cases missing.symm.trans here

/-- What holds of all characters of the pieces holds of what they are filled in to, if and only if
it holds of the values. -/
theorem forall_mem_fillSegments_iff {P : Char → Prop} {pieces : List Segment} {filled : List Char}
    (clean : ∀ c ∈ pieces.flatMap Segment.source, P c)
    (done : fillSegments lookup pieces = .ok filled) :
    (∀ c ∈ filled, P c) ↔ ∀ name ∈ pieces.filterMap Segment.name?,
      ∀ value, lookup name = .ok value → ∀ c ∈ value.toList, P c := by
  induction pieces generalizing filled with
  | nil =>
      cases done
      exact ⟨fun _ _ none => absurd none List.not_mem_nil,
        fun _ _ none => absurd none List.not_mem_nil⟩
  | cons piece rest ih =>
      rw [List.flatMap_cons, List.forall_mem_append] at clean
      obtain ⟨here, behind⟩ := clean
      cases piece with
      | char c =>
          rw [fillSegments] at done
          obtain ⟨others, remaining, done⟩ := bind_eq_ok_iff.1 done
          cases done
          rw [List.forall_mem_cons, and_iff_right (here c List.mem_cons_self)]
          exact ih behind remaining
      | token name =>
          rw [fillSegments] at done
          obtain ⟨value, found, done⟩ := bind_eq_ok_iff.1 done
          obtain ⟨others, remaining, done⟩ := bind_eq_ok_iff.1 done
          cases done
          change _ ↔ ∀ other ∈ name :: rest.filterMap Segment.name?, _
          rw [List.forall_mem_append, List.forall_mem_cons, ih behind remaining, found]
          refine and_congr_left fun _ => ⟨?_, fun each => each value rfl⟩
          rintro holds _ ⟨⟩
          exact holds

theorem forall_mem_fill_iff {P : Char → Prop} {text filled : String}
    (clean : ∀ c ∈ text.toList, P c) (done : fill lookup text = .ok filled) :
    (∀ c ∈ filled.toList, P c) ↔ ∀ name ∈ names text,
      ∀ value, lookup name = .ok value → ∀ c ∈ value.toList, P c := by
  unfold fill fillWith at done
  cases pieces : fillSegments lookup (segments text.toList) with
  | error e =>
      rw [pieces] at done
      cases done
  | ok chars =>
      rw [pieces] at done
      cases done
      rw [String.toList_ofList]
      refine forall_mem_fillSegments_iff ?_ pieces
      rw [flatMap_source_segments]
      exact clean

end Placeholder
end Issuance
