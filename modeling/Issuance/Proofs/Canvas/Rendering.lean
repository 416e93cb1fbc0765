import Mathlib.Data.List.Induction
import Issuance.Proofs.Canvas.Painting
import Issuance.Template.Source
/-!
Renderers, which render one certificate after the other. A rendering depends on the earlier ones
only in that fonts found by them are not looked for again, and it is composed of the parts of its
elements.
-/

namespace Issuance
namespace Canvas

open Painting

/-- The elements up to the first that fails. -/
def reached (fails : Element → Bool) : List Element → List Element
  | [] => []
  | e :: rest => if fails e then [e] else e :: reached fails rest

theorem find?_reached (fails : Element → Bool) (elements : List Element) :
    (reached fails elements).find? fails = elements.find? fails := by
  induction elements with
  | nil => rfl
  | cons e rest ih =>
      rw [reached]
      by_cases here : fails e = true
      · rw [if_pos here, List.find?_cons_of_pos here, List.find?_cons_of_pos here]
      · rw [if_neg here, List.find?_cons_of_neg here, List.find?_cons_of_neg here, ih]

theorem reached_reached (fails : Element → Bool) (elements : List Element) :
    reached fails (reached fails elements) = reached fails elements := by
  induction elements with
  | nil => rfl
  | cons e rest ih =>
      rw [reached]
      by_cases here : fails e = true
      · rw [if_pos here, reached, if_pos here]
      · rw [if_neg here, reached, if_neg here, ih]

theorem reached_of_find? {fails : Element → Bool} {elements : List Element}
    (passed : elements.find? fails = none) : reached fails elements = elements := by
  induction elements with
  | nil => rfl
  | cons e rest ih =>
      obtain ⟨here, later⟩ := List.forall_mem_cons.1 (List.find?_eq_none.1 passed)
      rw [reached, if_neg here, ih (List.find?_eq_none.2 later)]

/-- What the painting of some elements comes to: what the first of them that fails comes to. -/
def outcomeOf (outcome : Element → Except Failure Unit) (elements : List Element) :
    Except Failure Unit :=
  match elements.find? fun e => !(outcome e).isOk with
  | some e => outcome e
  | none => .ok ⟨⟩

theorem outcomeOf_single (outcome : Element → Except Failure Unit) (e : Element) :
    outcomeOf outcome [e] = outcome e := by
  rw [outcomeOf, List.find?_cons]
  cases ended : outcome e with
  | error failure => exact ended
  | ok done => rfl

theorem exists_failure_of_find? {outcome : Element → Except Failure Unit} {elements : List Element}
    {e : Element} (first : (elements.find? fun e => !(outcome e).isOk) = some e) :
    ∃ failure, outcomeOf outcome elements = .error failure ∧ outcome e = .error failure := by
  have fails := List.find?_some first
  cases ended : outcome e with
  | error failure =>
      rw [outcomeOf, first]
      exact ⟨failure, ended, rfl⟩
  | ok done =>
      rw [ended] at fails
      cases fails

/-- Elements are painted each by its own actions, up to the first that fails. -/
theorem follows_paintElements {studio : Studio} {shelf : FontShelf} {Fault : Failure → Prop}
    {own : Element → List Action} {outcome : Element → Except Failure Unit}
    (each : ∀ e, Follows shelf Fault (paintElement studio e) (own e) (outcome e))
    (elements : List Element) :
    Follows shelf Fault (paintElements studio elements)
      ((reached (fun e => !(outcome e).isOk) elements).flatMap own)
      (outcomeOf outcome elements) := by
  induction elements with
  | nil => exact .pure _
  | cons e rest ih =>
      have here := each e
      rw [paintElements, reached, outcomeOf, List.find?_cons]
      cases ended : outcome e with
      | error failure =>
          rw [ended] at here
          have alone : [e].flatMap own = own e := List.append_nil (own e)
          change Follows shelf Fault _ ([e].flatMap own) (outcome e)
          rw [alone, ended]
          exact here.stop _
      | ok done =>
          rw [ended] at here
          exact here.bind ih

/-- A renderer: what it draws from, and the description of its canvases but for the elements. -/
structure Renderer where
  read : String → Except IoFault Content
  fonts : FontShelf
  spec : Spec
  mapping : Mapping

namespace Renderer

def canvas (r : Renderer) (elements : List Element) : Spec := { r.spec with elements }

def render (r : Renderer) (elements : List Element) (values : FieldValues) (easel : Easel) :
    Except Failure Artifact × Easel :=
  TemplateSource.drawCanvas r.read r.fonts (r.canvas elements) r.mapping values easel

/-- The easel of a renderer that has rendered some values, whatever came of them. -/
def used (r : Renderer) (elements : List Element) (earlier : List FieldValues) : Easel :=
  earlier.foldl (fun easel values => (r.render elements values easel).2) .fresh

/-- What a new renderer makes of some values. -/
def outcome (r : Renderer) (elements : List Element) (values : FieldValues) :
    Except Failure Artifact :=
  (r.render elements values .fresh).1

/-- The calls of a new renderer for some values, without those that look for fonts. -/
def plainCalls (r : Renderer) (elements : List Element) (values : FieldValues) : List Call :=
  (r.render elements values .fresh).2.calls.filter fun call => !call.isProbe

/-- Whether an element fails as the only one. -/
def failsOn (r : Renderer) (values : FieldValues) (e : Element) : Bool :=
  !(r.outcome [e] values).isOk

/-- The actions of the background, and then those of each element that is reached. -/
def script (r : Renderer) (ground : List Action) (own : FieldValues → Element → List Action)
    (elements : List Element) (values : FieldValues) : List Action :=
  ground ++ (reached (r.failsOn values) elements).flatMap (own values)

/-- A renderer that follows scripts which are composed of the parts of its background and of its
elements. An element that fails decides what the rendering comes to. -/
structure Obeys (r : Renderer) (ground : List Action) (own : FieldValues → Element → List Action) :
    Prop where
  plainGround : ∀ call, .call call ∈ ground → call.isProbe = false
  plainOwn : ∀ values e call, .call call ∈ own values e → call.isProbe = false
  render : ∀ elements values easel, easel.Remembers r.fonts →
    r.render elements values easel =
      (r.outcome elements values, easel.play r.fonts (r.script ground own elements values))
  failed : ∀ elements values e, elements.find? (r.failsOn values) = some e →
    r.outcome elements values = r.outcome [e] values
  passed : ∀ elements values, elements ≠ [] → elements.find? (r.failsOn values) = none →
    (r.outcome elements values).isOk = true

def studio (r : Renderer) (values : FieldValues) : Studio :=
  ⟨r.read, r.fonts, r.mapping.find values true⟩

theorem render_eq_perform (r : Renderer) (elements : List Element) (values : FieldValues)
    (easel : Easel) :
    r.render elements values easel =
      (((paint (r.studio values) (r.canvas elements)).perform easel).1.map
          fun picture => ⟨.picture picture, "png"⟩,
        ((paint (r.studio values) (r.canvas elements)).perform easel).2) :=
  rfl

section

variable {r : Renderer} {Fault : Failure → Prop}

theorem render_of_follows {elements : List Element} {values : FieldValues} {actions : List Action}
    {result : Except Failure Picture}
    (follows : Follows r.fonts Fault (paint (r.studio values) (r.canvas elements)) actions result)
    {easel : Easel} (remembers : easel.Remembers r.fonts) :
    r.render elements values easel =
      (result.map fun picture => ⟨.picture picture, "png"⟩, easel.play r.fonts actions) := by
  rw [render_eq_perform, follows.perform easel remembers]

theorem outcome_of_follows {elements : List Element} {values : FieldValues}
    {actions : List Action} {result : Except Failure Picture}
    (follows : Follows r.fonts Fault (paint (r.studio values) (r.canvas elements)) actions result) :
    r.outcome elements values = result.map fun picture => ⟨.picture picture, "png"⟩ :=
  congrArg Prod.fst (render_of_follows follows (Easel.remembers_fresh r.fonts))

/-- A canvas that cannot be set out fails before any element is reached. -/
theorem obeys_of_error {ground : List Action} {failure : Failure}
    (refused : ∀ elements values,
      Follows r.fonts Fault (setOut (r.studio values) (r.canvas elements)) ground
        (.error failure)) :
    r.Obeys ground fun _ _ => [] := by
  have painted : ∀ elements values, Follows r.fonts Fault
      (paint (r.studio values) (r.canvas elements)) ground (.error failure) :=
    fun elements values => follows_paint_of_error (refused elements values)
  have outcomes : ∀ elements values, r.outcome elements values = .error failure :=
    fun elements values => outcome_of_follows (painted elements values)
  refine ⟨(refused [] []).plain, fun _ _ _ => nofun, ?_, ?_, ?_⟩
  · intro elements values easel remembers
    have nothing : (reached (r.failsOn values) elements).flatMap (fun _ => ([] : List Action)) = [] :=
      List.flatMap_eq_nil_iff.2 fun _ _ => rfl
    rw [outcomes, script, nothing, List.append_nil]
    exact render_of_follows (painted elements values) remembers
  · intro elements values e _
    rw [outcomes, outcomes]
  · intro elements values nonempty none
    obtain ⟨e, rest, rfl⟩ := List.exists_cons_of_ne_nil nonempty
    have fails : r.failsOn values e = true := by
      rw [failsOn, outcomes]
      rfl
    exact absurd fails (List.find?_eq_none.1 none e List.mem_cons_self)

theorem obeys_of_ok {plain : Picture} {rest : List Action}
    {own : FieldValues → Element → List Action}
    {ended : FieldValues → Element → Except Failure Unit}
    (begun : ∀ elements values,
      Follows r.fonts Fault (setOut (r.studio values) (r.canvas elements)) (.ground plain :: rest)
        (.ok ⟨⟩))
    (each : ∀ values e,
      Follows r.fonts Fault (paintElement (r.studio values) e) (own values e) (ended values e)) :
    r.Obeys (.ground plain :: rest) own := by
  have painted := fun elements values =>
    follows_paint (begun elements values) (follows_paintElements (each values) elements)
  have fails : ∀ values, r.failsOn values = fun e => !(ended values e).isOk := by
    intro values
    funext e
    rw [failsOn, outcome_of_follows (painted [e] values), isOk_map, isOk_map, outcomeOf_single]
  refine ⟨(begun [] []).plain, fun values e => (each values e).plain, ?_, ?_, ?_⟩
  · intro elements values easel remembers
    rw [outcome_of_follows (painted elements values), script, fails]
    exact render_of_follows (painted elements values) remembers
  · intro elements values e first
    rw [fails] at first
    obtain ⟨failure, stopped, failed⟩ := exists_failure_of_find? first
    rw [outcome_of_follows (painted elements values), outcome_of_follows (painted [e] values),
      outcomeOf_single, stopped, failed]
    rfl
  · intro elements values _ none
    rw [fails] at none
    rw [outcome_of_follows (painted elements values), isOk_map, isOk_map, outcomeOf, none]
    rfl

end

theorem exists_obeys (r : Renderer) : ∃ ground own, r.Obeys ground own := by
  have each : ∀ values e, ∃ actions result, Follows r.fonts (fun _ => True)
      (paintElement (r.studio values) e) actions result := by
    intro values e
    obtain ⟨actions, result, follows⟩ :=
      @isPainted_paintElement (r.studio values) _ e (List.Subset.refl _)
    exact ⟨actions, result, follows.mono fun _ _ => trivial⟩
  choose own ended each using each
  obtain ⟨ground, result, begun, grounded⟩ := exists_follows_setOut (r.studio []) [] r.spec
  -- what is set out depends neither on the values nor on the elements
  have begun : ∀ elements values, Follows r.fonts (fun _ => True)
      (setOut (r.studio values) (r.canvas elements)) ground result :=
    fun _ _ => begun.mono fun _ _ => trivial
  cases result with
  | error failure => exact ⟨ground, _, obeys_of_error begun⟩
  | ok done =>
      obtain ⟨plain, rest, rfl⟩ := grounded rfl
      exact ⟨_, own, obeys_of_ok begun each⟩

theorem used_append (r : Renderer) (elements : List Element) (earlier : List FieldValues)
    (values : FieldValues) :
    r.used elements (earlier ++ [values]) = (r.render elements values (r.used elements earlier)).2 :=
  List.foldl_append

namespace Obeys

variable {r : Renderer} {ground : List Action} {own : FieldValues → Element → List Action}
  (obeys : r.Obeys ground own)

include obeys

theorem remembers_used (elements : List Element) (earlier : List FieldValues) :
    (r.used elements earlier).Remembers r.fonts := by
  induction earlier using List.reverseRecOn with
  | nil => exact Easel.remembers_fresh r.fonts
  | append_singleton earlier values ih =>
      rw [used_append, obeys.render elements values _ ih]
      exact ih.play _

/-- A renderer knows the fonts that its earlier scripts have used. -/
theorem knows_used (elements : List Element) (earlier : List FieldValues) (font : String × Nat) :
    (r.used elements earlier).knows font = true ↔
      font ∈ earlier.flatMap fun values => Action.fonts (r.script ground own elements values) := by
  induction earlier using List.reverseRecOn with
  | nil => exact iff_of_false nofun List.not_mem_nil
  | append_singleton earlier values ih =>
      rw [used_append, obeys.render elements values _ (obeys.remembers_used elements earlier),
        Easel.knows_play, ih, List.flatMap_append, List.mem_append, List.flatMap_singleton]

theorem calls_used (elements : List Element) (earlier : List FieldValues) (values : FieldValues) :
    (r.render elements values (r.used elements earlier)).2.calls =
      (r.used elements earlier).calls ++ Action.calls r.fonts
        (earlier.flatMap fun values => Action.fonts (r.script ground own elements values))
        (r.script ground own elements values) := by
  rw [obeys.render elements values _ (obeys.remembers_used elements earlier)]
  exact Easel.calls_play (obeys.knows_used elements earlier) _

theorem plain_script {elements : List Element} {values : FieldValues} {call : Call}
    (member : .call call ∈ r.script ground own elements values) : call.isProbe = false := by
  rcases List.mem_append.1 member with early | late
  · exact obeys.plainGround call early
  · obtain ⟨e, -, here⟩ := List.mem_flatMap.1 late
    exact obeys.plainOwn values e call here

theorem plainCalls_eq (elements : List Element) (values : FieldValues) :
    r.plainCalls elements values = ground.filterMap Action.call? ++
      (reached (r.failsOn values) elements).flatMap
        fun e => (own values e).filterMap Action.call? := by
  have fresh : (r.render elements values .fresh).2.calls =
      Action.calls r.fonts [] (r.script ground own elements values) :=
    obeys.calls_used elements [] values
  rw [plainCalls, fresh, Action.filter_calls r.fonts [] fun _ => obeys.plain_script, script,
    List.filterMap_append, List.filterMap_flatMap]

/-- What is left of the calls for a single element without those of the background are its own. -/
theorem drop_plainCalls (values : FieldValues) (e : Element) :
    (r.plainCalls [e] values).drop (r.plainCalls [] values).length =
      (own values e).filterMap Action.call? := by
  have alone : reached (r.failsOn values) [e] = [e] := by
    rw [reached]
    split <;> rfl
  rw [obeys.plainCalls_eq, obeys.plainCalls_eq, alone, reached, List.flatMap_nil, List.append_nil,
    List.drop_left, List.flatMap_singleton]

/-- Elements after the first that fails make no difference. -/
theorem render_reached (elements : List Element) (values : FieldValues) {easel : Easel}
    (remembers : easel.Remembers r.fonts) :
    r.render elements values easel =
      r.render (reached (r.failsOn values) elements) values easel := by
  have same : r.outcome elements values =
      r.outcome (reached (r.failsOn values) elements) values := by
    cases first : elements.find? (r.failsOn values) with
    | none => rw [reached_of_find? first]
    | some e =>
        rw [obeys.failed elements values e first,
          obeys.failed _ values e ((find?_reached _ elements).trans first)]
  rw [obeys.render _ values easel remembers, obeys.render _ values easel remembers, same, script,
    script, reached_reached]

end Obeys

end Renderer
end Canvas
end Issuance
