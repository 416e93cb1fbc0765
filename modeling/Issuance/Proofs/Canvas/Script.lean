import Mathlib.Data.List.Basic
import Issuance.Canvas.Drawing
/-!
What paintings do to easels. A painting does the same on every easel, whatever was painted
there before: the search for a font, which is left out where the font is remembered, comes to the
same font.
-/

namespace Issuance
namespace Canvas

/-- The font for a name: the first candidate that is there. -/
def FontShelf.choice (shelf : FontShelf) (name : String) : String :=
  ((shelf.candidates name).find? shelf.available.contains).getD "default"

/-- The calls of a search for a font. -/
def FontShelf.probes (shelf : FontShelf) (size : Nat) : List String → List Call
  | [] => []
  | candidate :: rest =>
    .font candidate size (shelf.available.contains candidate) ::
      if shelf.available.contains candidate then [] else shelf.probes size rest

/-- The fonts that an easel remembers are those that would be found now. -/
def Easel.Remembers (shelf : FontShelf) (easel : Easel) : Prop :=
  ∀ name size found, Assoc.get? (name, size) easel.fonts = some found → found = shelf.choice name

theorem Easel.remembers_fresh (shelf : FontShelf) : Easel.fresh.Remembers shelf :=
  fun _ _ _ impossible => nomatch impossible

def Easel.knows (easel : Easel) (font : String × Nat) : Bool :=
  (Assoc.get? font easel.fonts).isSome

def Call.isProbe : Call → Bool
  | .font .. => true
  | _ => false

/-- What is done in a painting: a ground is laid, a call is made, a font is used, something is
covered. -/
inductive Action
  | ground (picture : Picture)
  | call (call : Call)
  | font (name : String) (size : Nat)
  | cover (layer : Layer)

namespace Action

/-- What an action does to the easel. A font is looked for only if the easel does not know it. -/
def take (shelf : FontShelf) (easel : Easel) : Action → Easel
  | .ground plain => { easel with picture := plain }
  | .call made => { easel with calls := easel.calls ++ [made] }
  | .font name size =>
    if easel.knows (name, size) then easel
    else { easel with
      calls := easel.calls ++ shelf.probes size (shelf.candidates name)
      fonts := Assoc.put (name, size) (shelf.choice name) easel.fonts }
  | .cover layer => { easel with picture := easel.picture.paint layer }

def font? : Action → Option (String × Nat)
  | .font name size => some (name, size)
  | _ => none

/-- The fonts that are used. -/
def fonts (actions : List Action) : List (String × Nat) := actions.filterMap font?

/-- The calls that are made where some fonts are known: each other font is looked for once. -/
def calls (shelf : FontShelf) : List (String × Nat) → List Action → List Call
  | _, [] => []
  | known, .call made :: rest => made :: calls shelf known rest
  | known, .font name size :: rest =>
    if (name, size) ∈ known then calls shelf known rest
    else shelf.probes size (shelf.candidates name) ++ calls shelf ((name, size) :: known) rest
  | known, .ground _ :: rest => calls shelf known rest
  | known, .cover _ :: rest => calls shelf known rest

def call? : Action → Option Call
  | .call made => some made
  | _ => none

/-- What is shown after an action. -/
def shown (picture : Picture) : Action → Picture
  | .ground plain => plain
  | .cover layer => picture.paint layer
  | _ => picture

theorem isProbe_of_mem_probes {shelf : FontShelf} {size : Nat} {candidates : List String}
    {call : Call} (member : call ∈ shelf.probes size candidates) : call.isProbe = true := by
  induction candidates with
  | nil => cases member
  | cons candidate rest ih =>
      rw [FontShelf.probes] at member
      rcases List.mem_cons.1 member with rfl | later
      · rfl
      · split at later
        · cases later
        · exact ih later

/-- Apart from the search for fonts the calls are the same, whatever fonts are known. -/
theorem filter_calls (shelf : FontShelf) (known : List (String × Nat)) {actions : List Action}
    (plain : ∀ call, .call call ∈ actions → call.isProbe = false) :
    (calls shelf known actions).filter (fun call => !call.isProbe) = actions.filterMap call? := by
  induction actions generalizing known with
  | nil => rfl
  | cons action rest ih =>
      have later := fun known => ih known fun call member => plain call (List.mem_cons_of_mem _ member)
      cases action with
      | ground picture => exact later known
      | cover layer => exact later known
      | call made =>
          have here := plain made List.mem_cons_self
          rw [calls, List.filter_cons_of_pos (by rw [here]; rfl), later]
          rfl
      | font name size =>
          rw [calls]
          split
          · exact later known
          · have searched : (shelf.probes size (shelf.candidates name)).filter
                (fun call => !call.isProbe) = [] := by
              refine List.filter_eq_nil_iff.2 fun call member => ?_
              rw [isProbe_of_mem_probes member]
              exact Bool.false_ne_true
            rw [List.filter_append, searched, later]
            rfl

end Action

/-- The easel after some actions. -/
def Easel.play (shelf : FontShelf) (easel : Easel) (actions : List Action) : Easel :=
  actions.foldl (Action.take shelf) easel

namespace Easel

variable {shelf : FontShelf}

theorem play_append (easel : Easel) (first second : List Action) :
    easel.play shelf (first ++ second) = (easel.play shelf first).play shelf second :=
  List.foldl_append

theorem Remembers.put {easel : Easel} (remembers : easel.Remembers shelf) (calls : List Call)
    (name : String) (size : Nat) :
    Remembers shelf { easel with
      calls, fonts := Assoc.put (name, size) (shelf.choice name) easel.fonts } := by
  intro name' size' found member
  rw [Assoc.get?_put] at member
  split at member
  · next same =>
      cases same
      exact (Option.some.inj member).symm
  · exact remembers name' size' found member

theorem Remembers.take {easel : Easel} (remembers : easel.Remembers shelf) (action : Action) :
    (action.take shelf easel).Remembers shelf := by
  cases action with
  | ground picture => exact remembers
  | call call => exact remembers
  | cover layer => exact remembers
  | font name size =>
      rw [Action.take]
      split
      · exact remembers
      · exact remembers.put _ name size

theorem Remembers.play {easel : Easel} (remembers : easel.Remembers shelf) (actions : List Action) :
    (easel.play shelf actions).Remembers shelf := by
  induction actions generalizing easel with
  | nil => exact remembers
  | cons action rest ih => exact ih (remembers.take action)

theorem picture_play (easel : Easel) (actions : List Action) :
    (easel.play shelf actions).picture = actions.foldl Action.shown easel.picture := by
  induction actions generalizing easel with
  | nil => rfl
  | cons action rest ih =>
      have here : (action.take shelf easel).picture = action.shown easel.picture := by
        cases action with
        | ground picture => rfl
        | call call => rfl
        | cover layer => rfl
        | font name size =>
            rw [Action.take]
            split <;> rfl
      rw [List.foldl_cons, ← here]
      exact ih _

theorem knows_take (easel : Easel) (action : Action) (font : String × Nat) :
    (action.take shelf easel).knows font = true ↔
      easel.knows font = true ∨ action.font? = some font := by
  cases action with
  | ground picture => exact (or_iff_left nofun).symm
  | call call => exact (or_iff_left nofun).symm
  | cover layer => exact (or_iff_left nofun).symm
  | font name size =>
      rw [Action.take, Action.font?, Option.some.injEq]
      split
      · next known =>
          refine (or_iff_left_of_imp ?_).symm
          rintro rfl
          exact known
      · rw [knows, knows, Assoc.get?_put]
        split
        · next same => exact iff_of_true rfl (Or.inr same)
        · next different => exact (or_iff_left different).symm

/-- After some actions the fonts that were used are known. -/
theorem knows_play (easel : Easel) (actions : List Action) (font : String × Nat) :
    (easel.play shelf actions).knows font = true ↔
      easel.knows font = true ∨ font ∈ Action.fonts actions := by
  induction actions generalizing easel with
  | nil => exact (or_iff_left List.not_mem_nil).symm
  | cons action rest ih =>
      refine (ih (action.take shelf easel)).trans ?_
      rw [knows_take, Action.fonts, Action.fonts, List.mem_filterMap, List.mem_filterMap,
        List.exists_mem_cons_iff, or_assoc]

theorem calls_play {easel : Easel} {known : List (String × Nat)}
    (same : ∀ font, easel.knows font = true ↔ font ∈ known) (actions : List Action) :
    (easel.play shelf actions).calls = easel.calls ++ Action.calls shelf known actions := by
  induction actions generalizing easel known with
  | nil => exact (List.append_nil _).symm
  | cons action rest ih =>
      change ((action.take shelf easel).play shelf rest).calls = _
      cases action with
      | ground picture => exact ih same
      | cover layer => exact ih same
      | call call =>
          refine (@ih ((Action.call call).take shelf easel) known same).trans ?_
          rw [Action.take, Action.calls, List.append_assoc, List.singleton_append]
      | font name size =>
          rw [Action.calls]
          by_cases here : (name, size) ∈ known
          · rw [if_pos here, Action.take, if_pos ((same _).2 here)]
            exact ih same
          · have unknown : ¬easel.knows (name, size) = true := fun found => here ((same _).1 found)
            have later : ∀ font, ((Action.font name size).take shelf easel).knows font = true ↔
                font ∈ (name, size) :: known := by
              intro font
              rw [knows_take, same, List.mem_cons, or_comm, Action.font?, Option.some.injEq, eq_comm]
            rw [if_neg here, ih later, Action.take, if_neg unknown, List.append_assoc]

example : Action.calls ⟨none, ["Serif"]⟩ [("Mono", 9)]
    [.font "Mono" 9, .font "Serif" 9, .font "Serif" 9, .font "Serif" 12] =
      [.font "Serif" 9 true, .font "Serif" 12 true] := by
  decide

end Easel

namespace Painting

variable {α β : Type}

def perform (work : Painting α) (easel : Easel) : Except Failure α × Easel := work.run.run easel

theorem perform_bind (work : Painting α) (next : α → Painting β) (easel : Easel) :
    (work >>= next).perform easel =
      match work.perform easel with
      | (.ok a, later) => (next a).perform later
      | (.error failure, later) => (.error failure, later) := by
  unfold perform
  change (ExceptT.bindCont next (work easel).1) (work easel).2 = _
  cases performed : work.run.run easel with
  | mk result later =>
      have same : work easel = (result, later) := performed
      rw [same]
      cases result <;> rfl

theorem perform_tryCatch (work : Painting α) (handler : Failure → Painting α) (easel : Easel) :
    (tryCatch work handler : Painting α).perform easel =
      match work.perform easel with
      | (.ok a, later) => (.ok a, later)
      | (.error failure, later) => (handler failure).perform later := by
  unfold perform
  rw [ExceptT.run_tryCatch, StateT.run_bind]
  cases performed : work.run.run easel with
  | mk result later => cases result <;> rfl

/-- On every easel that remembers the right fonts, `work` takes the same actions and comes to the same
result. It probes fonts only where an action uses one. -/
structure Follows (shelf : FontShelf) (Fault : Failure → Prop) (work : Painting α)
    (actions : List Action) (result : Except Failure α) : Prop where
  perform : ∀ easel, easel.Remembers shelf →
    work.perform easel = (result, easel.play shelf actions)
  plain : ∀ call, .call call ∈ actions → call.isProbe = false
  fault : ∀ failure, result = .error failure → Fault failure

def IsScripted (shelf : FontShelf) (Fault : Failure → Prop) (work : Painting α) : Prop :=
  ∃ actions result, Follows shelf Fault work actions result

variable {shelf : FontShelf} {Fault : Failure → Prop}

namespace Follows

theorem mono {Fault' : Failure → Prop} {work : Painting α} {actions : List Action}
    {result : Except Failure α} (follows : Follows shelf Fault work actions result)
    (weaker : ∀ failure, Fault failure → Fault' failure) :
    Follows shelf Fault' work actions result where
  perform := follows.perform
  plain := follows.plain
  fault failure failed := weaker failure (follows.fault failure failed)

theorem bind {work : Painting α} {next : α → Painting β} {a : α} {first second : List Action}
    {result : Except Failure β} (early : Follows shelf Fault work first (.ok a))
    (late : Follows shelf Fault (next a) second result) :
    Follows shelf Fault (work >>= next) (first ++ second) result where
  perform easel remembers := by
    rw [perform_bind, early.perform easel remembers, Easel.play_append]
    exact late.perform _ (remembers.play first)
  plain call member := (List.mem_append.1 member).elim (early.plain call) (late.plain call)
  fault := late.fault

theorem stop {work : Painting α} {actions : List Action} {failure : Failure}
    (failed : Follows shelf Fault work actions (.error failure)) (next : α → Painting β) :
    Follows shelf Fault (work >>= next) actions (.error failure) where
  perform easel remembers := by
    rw [perform_bind, failed.perform easel remembers]
  plain := failed.plain
  fault other same := by
    cases same
    exact failed.fault failure rfl

/-- A result that is computed without the easel. -/
theorem result {result : Except Failure α} (fault : ∀ failure, result = .error failure → Fault failure) :
    Follows shelf Fault (ExceptT.mk (Pure.pure result) : Painting α) [] result :=
  ⟨fun _ _ => rfl, nofun, fault⟩

theorem pure (a : α) : Follows shelf Fault (Pure.pure a : Painting α) [] (.ok a) :=
  result nofun

theorem throw {failure : Failure} (fault : Fault failure) :
    Follows shelf Fault (MonadExcept.throw failure : Painting α) [] (.error failure) :=
  result fun other same => by
    cases same
    exact fault

theorem record {call : Call} (plain : call.isProbe = false) :
    Follows shelf Fault (record call) [.call call] (.ok ⟨⟩) where
  perform _ _ := rfl
  plain other member := by
    cases List.mem_singleton.1 member
    exact plain
  fault := nofun

theorem cover (layer : Layer) :
    Follows shelf Fault (cover layer) [.cover layer] (.ok ⟨⟩) where
  perform _ _ := rfl
  plain _ member := nomatch List.mem_singleton.1 member
  fault := nofun

theorem ground (picture : Picture) :
    Follows shelf Fault (modify fun easel => { easel with picture }) [.ground picture]
      (.ok ⟨⟩) where
  perform _ _ := rfl
  plain _ member := nomatch List.mem_singleton.1 member
  fault := nofun

end Follows

namespace IsScripted

theorem pure (a : α) : IsScripted shelf Fault (Pure.pure a : Painting α) :=
  ⟨_, _, .pure a⟩

theorem throw {failure : Failure} (fault : Fault failure) :
    IsScripted shelf Fault (MonadExcept.throw failure : Painting α) :=
  ⟨_, _, .throw fault⟩

theorem result {result : Except Failure α}
    (fault : ∀ failure, result = .error failure → Fault failure) :
    IsScripted shelf Fault (ExceptT.mk (Pure.pure result) : Painting α) :=
  ⟨_, _, .result fault⟩

theorem record {call : Call} (plain : call.isProbe = false) : IsScripted shelf Fault (record call) :=
  ⟨_, _, .record plain⟩

theorem cover (layer : Layer) : IsScripted shelf Fault (cover layer) :=
  ⟨_, _, .cover layer⟩

theorem bind {work : Painting α} {next : α → Painting β} (first : IsScripted shelf Fault work)
    (rest : ∀ a, IsScripted shelf Fault (next a)) : IsScripted shelf Fault (work >>= next) := by
  obtain ⟨actions, result, follows⟩ := first
  cases result with
  | error failure => exact ⟨actions, _, follows.stop next⟩
  | ok a =>
      obtain ⟨others, result, later⟩ := rest a
      exact ⟨_, _, follows.bind later⟩

/-- Something may be refused before the rest is done. -/
theorem guard {refused : Prop} [Decidable refused] {refusal : Painting PUnit}
    {rest : PUnit → Painting α} (refusing : IsScripted shelf Fault refusal)
    (going : ∀ done, IsScripted shelf Fault (rest done)) :
    IsScripted shelf Fault (if refused then refusal >>= rest else rest ⟨⟩) := by
  split
  · exact refusing.bind going
  · exact going ⟨⟩

theorem tryCatch {work : Painting α} {handler : Failure → Painting α}
    (first : IsScripted shelf Fault work)
    (handled : ∀ failure, Fault failure → IsScripted shelf Fault (handler failure)) :
    IsScripted shelf Fault (tryCatch work handler) := by
  obtain ⟨actions, result, follows⟩ := first
  cases result with
  | ok a =>
      refine ⟨actions, .ok a, fun easel remembers => ?_, follows.plain, nofun⟩
      rw [perform_tryCatch, follows.perform easel remembers]
  | error failure =>
      obtain ⟨others, result, later⟩ := handled failure (follows.fault failure rfl)
      refine ⟨actions ++ others, result, fun easel remembers => ?_, ?_, later.fault⟩
      · rw [perform_tryCatch, follows.perform easel remembers, Easel.play_append]
        exact later.perform _ (remembers.play actions)
      · intro call member
        exact (List.mem_append.1 member).elim (follows.plain call) (later.plain call)

end IsScripted

/-- A search for a font tries the candidates one after the other. -/
theorem perform_findFont (shelf : FontShelf) (size : Nat) (candidates : List String)
    (easel : Easel) :
    (findFont shelf size candidates).perform easel =
      (.ok ((candidates.find? shelf.available.contains).getD "default"),
        { easel with calls := easel.calls ++ shelf.probes size candidates }) := by
  induction candidates generalizing easel with
  | nil =>
      rw [FontShelf.probes, List.append_nil]
      rfl
  | cons candidate rest ih =>
      rw [List.find?_cons, FontShelf.probes, findFont]
      cases found : shelf.available.contains candidate with
      | true => rfl
      | false =>
          refine (ih { easel with calls := easel.calls ++ [.font candidate size false] }).trans ?_
          rw [List.append_assoc]
          rfl

/-- A font is the same whether it was remembered or is looked for now. -/
theorem follows_font (name : String) (size : Nat) :
    Follows shelf Fault (font shelf name size) [.font name size] (.ok (shelf.choice name)) where
  perform easel remembers := by
    change _ = (_, (Action.font name size).take shelf easel)
    unfold font
    rw [perform_bind, show (get : Painting Easel).perform easel = (.ok easel, easel) from rfl,
      Action.take, Easel.knows]
    dsimp only
    cases known : Assoc.get? (name, size) easel.fonts with
    | some found =>
        rw [remembers name size found known]
        rfl
    | none =>
        rw [perform_bind, perform_findFont]
        rfl
  plain call member := nomatch List.mem_singleton.1 member
  fault := nofun

end Painting
end Canvas
end Issuance
