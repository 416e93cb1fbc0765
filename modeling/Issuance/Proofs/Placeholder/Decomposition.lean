import Issuance.Proofs.Placeholder.Places
/-!
Texts taken apart at their placeholders. A text is a literal, a token, a literal and so on, in
exactly one way in which the tokens are all those that are written in it. To fill a text in is to
look up the names of these tokens one after the other and to put what is found in their places.
-/

namespace Issuance
namespace Placeholder

/-- A text taken apart at tokens: what stands before the first of them, and each name with what
stands between its token and the next. -/
structure Decomposition where
  opening : String
  parts : List (String × String)
deriving DecidableEq

namespace Decomposition

/-- The names of the tokens, in order. -/
def names (d : Decomposition) : List String := d.parts.map Prod.fst

/-- The text with other texts, one for each token, in the places of the tokens. -/
def refill (d : Decomposition) (values : List String) : String :=
  d.opening ++ String.join (List.zipWith (fun value part => value ++ part.2) values d.parts)

/-- The text that is taken apart. -/
def text (d : Decomposition) : String :=
  d.refill (d.names.map fun name => String.ofList (Segment.token name).source)

def placesBehind (place : Nat) : List (String × String) → List (Nat × String)
  | [] => []
  | (name, literal) :: rest =>
    (place, name) ::
      placesBehind (place + (Segment.token name).source.length + literal.length) rest

/-- The names of the tokens with the places where they stand, behind so many characters. -/
def places (d : Decomposition) : List (Nat × String) := placesBehind d.opening.length d.parts

/-- A text is taken apart at all places where a token is written in it, and at no others. -/
structure IsOf (d : Decomposition) (text : String) : Prop where
  whole : d.text = text
  complete : ∀ place name, (place, name) ∈ d.places ↔ StandsAt text.toList place name

/-- The pieces that a decomposition falls into. -/
def pieces (d : Decomposition) : List Segment :=
  d.opening.toList.map .char ++ d.parts.flatMap fun part => .token part.1 :: part.2.toList.map .char

/-- The decomposition that gathers the characters between the tokens of some pieces. -/
def ofPieces : List Segment → Decomposition
  | [] => ⟨"", []⟩
  | .char c :: rest => ⟨String.singleton c ++ (ofPieces rest).opening, (ofPieces rest).parts⟩
  | .token name :: rest => ⟨"", (name, (ofPieces rest).opening) :: (ofPieces rest).parts⟩

theorem pieces_ofPieces (pieces : List Segment) : (ofPieces pieces).pieces = pieces := by
  induction pieces with
  | nil => rfl
  | cons piece rest ih =>
      cases piece with
      | char c =>
          conv_rhs => rw [← ih]
          unfold Decomposition.pieces
          rw [ofPieces, String.toList_append, String.toList_singleton]
          rfl
      | token name =>
          conv_rhs => rw [← ih]
          rfl

private theorem ofPieces_literal (cs : List Char) (rest : List Segment) :
    ofPieces (cs.map .char ++ rest) =
      ⟨String.ofList cs ++ (ofPieces rest).opening, (ofPieces rest).parts⟩ := by
  induction cs with
  | nil =>
      rw [String.ofList_nil, String.empty_append]
      rfl
  | cons c cs ih =>
      rw [List.map_cons, List.cons_append, ofPieces, ih, String.ofList_cons, String.append_assoc]

theorem ofPieces_pieces (d : Decomposition) : ofPieces d.pieces = d := by
  obtain ⟨opening, parts⟩ := d
  have behind : ofPieces (parts.flatMap fun part => .token part.1 :: part.2.toList.map .char) =
      ⟨"", parts⟩ := by
    induction parts with
    | nil => rfl
    | cons part rest ih =>
        rw [List.flatMap_cons, List.cons_append, ofPieces, ofPieces_literal, ih,
          String.ofList_toList, String.append_empty]
  unfold pieces
  rw [ofPieces_literal, behind, String.ofList_toList, String.append_empty]

private theorem source_literal (cs : List Char) :
    (cs.map Segment.char).flatMap Segment.source = cs := by
  rw [List.flatMap_map]
  exact List.flatMap_singleton' cs

theorem source_pieces (d : Decomposition) : d.pieces.flatMap Segment.source = d.text.toList := by
  obtain ⟨opening, parts⟩ := d
  unfold pieces text refill names
  rw [List.flatMap_append, source_literal, String.toList_append, List.append_cancel_left_eq]
  induction parts with
  | nil => rfl
  | cons part rest ih =>
      rw [List.flatMap_cons, List.flatMap_append, ih, List.flatMap_cons, source_literal]
      simp only [List.map_cons, List.zipWith_cons_cons, String.join_cons, String.toList_append,
        String.toList_ofList]

private theorem placesFrom_literal (place : Nat) (cs : List Char) (rest : List Segment) :
    placesFrom place (cs.map .char ++ rest) = placesFrom (place + cs.length) rest := by
  induction cs generalizing place with
  | nil => rfl
  | cons c cs ih =>
      rw [List.map_cons, List.cons_append, placesFrom, ih, List.length_cons, Nat.add_right_comm,
        Nat.add_assoc]

theorem placesFrom_pieces (d : Decomposition) : placesFrom 0 d.pieces = d.places := by
  obtain ⟨opening, parts⟩ := d
  have behind : ∀ place, placesFrom place
      (parts.flatMap fun part => .token part.1 :: part.2.toList.map .char) =
        placesBehind place parts := by
    induction parts with
    | nil => exact fun _ => rfl
    | cons part rest ih =>
        intro place
        rw [List.flatMap_cons, List.cons_append, placesFrom, placesFrom_literal, ih, placesBehind,
          String.length_toList]
  unfold pieces places
  rw [placesFrom_literal, behind, Nat.zero_add, String.length_toList]

/-- The pieces of a text that is taken apart at all of its tokens are its segments. -/
theorem isOf_iff {d : Decomposition} {text : String} :
    d.IsOf text ↔ d.pieces = segments text.toList := by
  constructor
  · rintro ⟨rfl, complete⟩
    rw [← source_pieces]
    refine (@segments_eq_of_places 0 _ fun place name => ?_).symm
    rw [placesFrom_pieces, complete, source_pieces]
    constructor
    · exact fun stands => ⟨place, (Nat.zero_add place).symm, stands⟩
    · rintro ⟨here, rfl, stands⟩
      rwa [Nat.zero_add]
  · intro same
    refine ⟨?_, fun place name => ?_⟩
    · refine String.toList_injective ?_
      rw [← source_pieces, same, flatMap_source_segments]
    · rw [← placesFrom_pieces, same, mem_placesFrom_segments]
      constructor
      · rintro ⟨here, rfl, stands⟩
        rwa [Nat.zero_add]
      · exact fun stands => ⟨place, (Nat.zero_add place).symm, stands⟩

theorem names_eq {d : Decomposition} {text : String} (isOf : d.IsOf text) :
    d.names = Placeholder.names text := by
  have listed := map_snd_placesFrom 0 d.pieces
  rw [placesFrom_pieces] at listed
  have each : ∀ place, (placesBehind place d.parts).map Prod.snd = d.parts.map Prod.fst := by
    induction d.parts with
    | nil => exact fun _ => rfl
    | cons part rest ih => exact fun place => congrArg (part.1 :: ·) (ih _)
  rw [Placeholder.names, ← isOf_iff.1 isOf, ← listed]
  exact (each _).symm

section

variable {m : Type → Type} [Monad m] [LawfulMonad m] (lookup : String → m String)

private theorem fillSegments_literal (cs : List Char) (rest : List Segment) :
    fillSegments lookup (cs.map .char ++ rest) = (cs ++ ·) <$> fillSegments lookup rest := by
  induction cs with
  | nil => exact (id_map' _).symm
  | cons c cs ih =>
      rw [List.map_cons, List.cons_append, fillSegments, ih, map_eq_pure_bind, bind_assoc,
        map_eq_pure_bind]
      simp only [pure_bind, List.cons_append]

/-- To fill in is to look the names up in order, each as often as its token stands there, and then
to put what is found in the places of the tokens. -/
theorem fillWith_eq {d : Decomposition} {text : String} (isOf : d.IsOf text) :
    fillWith lookup text = d.refill <$> d.names.mapM lookup := by
  obtain ⟨opening, parts⟩ := d
  have behind : fillSegments lookup
      (parts.flatMap fun part => .token part.1 :: part.2.toList.map .char) =
        (fun values => (String.join
          (List.zipWith (fun value part => value ++ part.2) values parts)).toList) <$>
            (parts.map Prod.fst).mapM lookup := by
    clear isOf
    induction parts with
    | nil => simp only [List.flatMap_nil, fillSegments, List.map_nil, List.mapM_nil, map_pure,
        List.zipWith_nil_right, String.join_nil, String.toList_empty]
    | cons part rest ih =>
        rw [List.flatMap_cons, List.cons_append, fillSegments, List.map_cons, List.mapM_cons,
          fillSegments_literal, ih]
        simp only [map_eq_pure_bind, bind_assoc, pure_bind, List.zipWith_cons_cons,
          String.join_cons, String.toList_append, List.append_assoc]
  rw [fillWith, ← isOf_iff.1 isOf, pieces, fillSegments_literal, behind, ← comp_map, ← comp_map]
  refine congrArg (· <$> _) (funext fun values => ?_)
  simp only [Function.comp_apply, refill]
  rw [String.ofList_append, String.ofList_toList, String.ofList_toList]

end
end Decomposition

/-- A look-up whose answers may depend on the names that were looked up before. -/
abbrev Informant (ε : Type) := List String → String → Except ε String

/-- Questions to an informant, which are noted. -/
abbrev Inquiry (ε α : Type) := ExceptT ε (StateM (List String)) α

namespace Informant

variable {ε : Type}

def ask (informant : Informant ε) (name : String) : Inquiry ε String := do
  let earlier ← get
  set (earlier ++ [name])
  ExceptT.mk (pure (informant earlier name))

/-- The values that an informant gives for names that are looked up one after the other, after
some earlier ones. -/
inductive Gives (informant : Informant ε) : List String → List String → List String → Prop
  | nothing (earlier : List String) : Gives informant earlier [] []
  | value {earlier names values : List String} {name value : String}
      (found : informant earlier name = .ok value)
      (later : Gives informant (earlier ++ [name]) names values) :
      Gives informant earlier (name :: names) (value :: values)

/-- What filling in a text comes to, and the names that are looked up for it. -/
def fill (informant : Informant ε) (text : String) : Except ε String × List String :=
  (fillWith informant.ask text).run.run []

private theorem run_bind {α β : Type} (inquiry : Inquiry ε α) (next : α → Inquiry ε β)
    (earlier : List String) :
    (inquiry >>= next).run.run earlier =
      match inquiry.run.run earlier with
      | (.ok a, later) => (next a).run.run later
      | (.error e, later) => (.error e, later) := by
  rw [ExceptT.run_bind, StateT.run_bind]
  cases inquiry.run.run earlier with
  | mk result later => cases result <;> rfl

private theorem run_ask (informant : Informant ε) (name : String) (earlier : List String) :
    (informant.ask name).run.run earlier = (informant earlier name, earlier ++ [name]) :=
  rfl

/-- Names are looked up one after the other up to the first that fails. -/
theorem run_mapM_ask (informant : Informant ε) (earlier names : List String) :
    (∃ values, informant.Gives earlier names values ∧
        (names.mapM informant.ask).run.run earlier = (.ok values, earlier ++ names)) ∨
      ∃ before name after values e, names = before ++ name :: after ∧
        informant.Gives earlier before values ∧ informant (earlier ++ before) name = .error e ∧
        (names.mapM informant.ask).run.run earlier = (.error e, earlier ++ (before ++ [name])) := by
  induction names generalizing earlier with
  | nil =>
      refine Or.inl ⟨[], .nothing earlier, ?_⟩
      rw [List.append_nil]
      rfl
  | cons name names ih =>
      rw [List.mapM_cons, run_bind, run_ask]
      cases answer : informant earlier name with
      | error e =>
          refine Or.inr ⟨[], name, names, [], e, rfl, .nothing earlier, ?_, rfl⟩
          rw [List.append_nil]
          exact answer
      | ok value =>
          simp only [run_bind]
          rcases ih (earlier ++ [name]) with
            ⟨values, given, done⟩ | ⟨before, failing, after, values, e, rfl, given, failed, done⟩
          · refine Or.inl ⟨value :: values, .value answer given, ?_⟩
            rw [done, List.append_assoc]
            rfl
          · refine Or.inr ⟨name :: before, failing, after, value :: values, e, rfl,
              .value answer given, ?_, ?_⟩
            · rw [← failed, List.append_assoc]
              rfl
            · rw [done, List.append_assoc]
              rfl

theorem fill_cases (informant : Informant ε) {d : Decomposition} {text : String}
    (isOf : d.IsOf text) :
    (∃ values, informant.Gives [] d.names values ∧
        informant.fill text = (.ok (d.refill values), d.names)) ∨
      ∃ before name after values e, d.names = before ++ name :: after ∧
        informant.Gives [] before values ∧ informant before name = .error e ∧
        informant.fill text = (.error e, before ++ [name]) := by
  unfold fill
  rw [Decomposition.fillWith_eq informant.ask isOf, map_eq_pure_bind, run_bind]
  rcases informant.run_mapM_ask [] d.names with
    ⟨values, given, done⟩ | ⟨before, name, after, values, e, split, given, failed, done⟩
  · refine Or.inl ⟨values, given, ?_⟩
    rw [done]
    rfl
  · refine Or.inr ⟨before, name, after, values, e, split, given, failed, ?_⟩
    rw [done]
    rfl

end Informant

/-- A text is taken apart in exactly one way at all the tokens that are written in it. To fill it in
is to look up their names in this order, and to put the values in their places; the first look-up
that fails ends the work, and nothing is looked up just if there is no token in the text. -/
theorem text_is_filled_in_along_its_decomposition (text : String) :
    ∃ d : Decomposition, d.IsOf text ∧ (∀ other : Decomposition, other.IsOf text → other = d) ∧
      (∀ part ∈ d.parts, IsName part.1.toList) ∧
      (∀ (m : Type → Type) [Monad m] [LawfulMonad m] (lookup : String → m String),
        fillWith lookup text = d.refill <$> d.names.mapM lookup) ∧
      (∀ (ε : Type) (informant : Informant ε),
        ((∃ values, informant.Gives [] d.names values ∧
            informant.fill text = (.ok (d.refill values), d.names)) ∨
          ∃ before name after values e, d.names = before ++ name :: after ∧
            informant.Gives [] before values ∧ informant before name = .error e ∧
            informant.fill text = (.error e, before ++ [name])) ∧
        (occursIn text = true ↔ (informant.fill text).2 ≠ [])) ∧
      (∀ (ε : Type) (lookup : String → Except ε String),
        fill lookup text = (d.names.mapM lookup).map d.refill) ∧
      (occursIn text = true ↔ d.names ≠ []) := by
  have isOf : (Decomposition.ofPieces (segments text.toList)).IsOf text :=
    Decomposition.isOf_iff.2 (Decomposition.pieces_ofPieces _)
  generalize Decomposition.ofPieces (segments text.toList) = d at isOf
  have occurs : occursIn text = true ↔ d.names ≠ [] := by
    rw [occursIn, d.names_eq isOf, Bool.not_eq_true', List.isEmpty_eq_false_iff]
  refine ⟨d, isOf, ?_, ?_, fun m _ _ lookup => d.fillWith_eq lookup isOf, ?_,
    fun ε lookup => d.fillWith_eq lookup isOf, occurs⟩
  · intro other otherIsOf
    rw [← other.ofPieces_pieces, Decomposition.isOf_iff.1 otherIsOf, ← Decomposition.isOf_iff.1 isOf,
      d.ofPieces_pieces]
  · intro part member
    refine @isName_of_mem_segments _ text.toList ?_
    rw [← Decomposition.isOf_iff.1 isOf]
    refine List.mem_append_right _ (List.mem_flatMap.2 ⟨part, member, List.mem_cons_self⟩)
  · intro ε informant
    have cases := informant.fill_cases isOf
    refine ⟨cases, occurs.trans ?_⟩
    rcases cases with ⟨values, -, done⟩ | ⟨before, name, after, values, e, split, -, -, done⟩
    · rw [done]
    · rw [done, split]
      exact iff_of_true (List.append_ne_nil_of_right_ne_nil _ (List.cons_ne_nil _ _))
        (List.append_ne_nil_of_right_ne_nil _ (List.cons_ne_nil _ _))

/-- Where braces pile up, those next to the name belong to the token. -/
example :
    Decomposition.ofPieces (segments
      "\x7b\x7b\x7ba\x7d\x7d\x7d \x7b\x7b\x7b\x7bb\x7d\x7dc\x7d\x7d".toList) =
        ⟨"\x7b", [("a", "\x7d \x7b\x7b"), ("b", "c\x7d\x7d")]⟩ := by
  decide +kernel

end Placeholder
end Issuance
