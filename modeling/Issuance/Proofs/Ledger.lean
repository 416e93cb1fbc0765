import Mathlib.Data.List.Nodup
import Mathlib.Tactic.Tauto
import Issuance.Template.Removal
/-!
The certificates of a ledger: which columns stay as they were issued, what keeps rows apart, and
what entering, marking and the removal of a template do to them.
-/

namespace Issuance

/-- The columns of a certificate that are settled when it is issued; the others are blanked. -/
def Certificate.issue (c : Certificate) : Certificate :=
  { c with templateId := none, emailSent := false, emailSentAt := none }

theorem Certificate.eq_of_issue_eq {c later : Certificate} (same : later.issue = c.issue) :
    later = { c with
      templateId := later.templateId
      emailSent := later.emailSent
      emailSentAt := later.emailSentAt } := by
  cases c
  cases later
  simp only [Certificate.issue, Certificate.mk.injEq] at same
  simp only [Certificate.mk.injEq]
  tauto

theorem Certificate.fileRef_eq_of_issue_eq {c later : Certificate}
    (same : later.issue = c.issue) : later.fileRef = c.fileRef := by
  rw [Certificate.eq_of_issue_eq same]

/-- In a column without repetitions, the row that is found is the one with the value. -/
theorem find?_eq_some_of_nodup {α β : Type} [DecidableEq β] {rows : List α} {column : α → β}
    (apart : (rows.map column).Nodup) {row : α} (member : row ∈ rows) {value : β}
    (here : column row = value) : rows.find? (column · == value) = some row := by
  have hit : (column row == value) = true := beq_iff_eq.2 here
  obtain ⟨found, same⟩ := Option.isSome_iff_exists.1
    (List.find?_isSome (p := (column · == value)).2 ⟨row, member, hit⟩)
  have there : column found = value :=
    eq_of_beq (List.find?_some (p := (column · == value)) same)
  rw [same, List.inj_on_of_nodup_map apart (List.mem_of_find?_eq_some same) member
    (there.trans here.symm)]

namespace Ledger

/-- The settled columns of all certificates, in the order in which they were entered. -/
def issues (l : Ledger) : List Certificate := l.certificates.map Certificate.issue

/-- No two certificates share an id, a holder or a code. -/
structure Sound (l : Ledger) : Prop where
  ids : (l.certificates.map (·.id)).Nodup
  holders : (l.certificates.map fun c => (c.eventId, c.registrationId)).Nodup
  certificateCodes : (l.certificates.map (·.codes.certificate)).Nodup
  verificationCodes : (l.certificates.map (·.codes.verification)).Nodup

/-- Being sound is a matter of the settled columns. -/
theorem Sound.of_issues_eq {a b : Ledger} (sound : a.Sound) (same : b.issues = a.issues) :
    b.Sound := by
  have column {β : Type} (f : Certificate → β) (settled : ∀ c, f c.issue = f c) :
      b.certificates.map f = a.certificates.map f := by
    have mapped := congrArg (List.map f) same
    simpa only [issues, List.map_map, Function.comp_def, settled] using mapped
  constructor
  · rw [column (·.id) (fun _ => rfl)]
    exact sound.ids
  · rw [column (fun c => (c.eventId, c.registrationId)) (fun _ => rfl)]
    exact sound.holders
  · rw [column (·.codes.certificate) (fun _ => rfl)]
    exact sound.certificateCodes
  · rw [column (·.codes.verification) (fun _ => rfl)]
    exact sound.verificationCodes

theorem sound_empty : empty.Sound :=
  ⟨List.nodup_nil, List.nodup_nil, List.nodup_nil, List.nodup_nil⟩

theorem holds_iff {l : Ledger} {eventId registrationId : Int} :
    l.holds eventId registrationId = true ↔
      ∃ c ∈ l.certificates, c.eventId = eventId ∧ c.registrationId = registrationId := by
  simp only [holds, List.any_eq_true, Bool.and_eq_true, beq_iff_eq]

theorem holds_mono {l later : Ledger} (rows : ∀ c ∈ l.certificates, c ∈ later.certificates)
    {eventId registrationId : Int} (holds : l.holds eventId registrationId = true) :
    later.holds eventId registrationId = true := by
  obtain ⟨c, member, ofEvent, ofRegistration⟩ := Ledger.holds_iff.1 holds
  exact Ledger.holds_iff.2 ⟨c, rows c member, ofEvent, ofRegistration⟩

theorem codesTaken_iff {l : Ledger} {codes : CodePair} :
    l.codesTaken codes = true ↔
      ∃ c ∈ l.certificates, c.codes.certificate = codes.certificate ∨
        c.codes.verification = codes.verification := by
  simp only [codesTaken, List.any_eq_true, Bool.or_eq_true, beq_iff_eq]

theorem accepts_iff {l : Ledger} {c : Certificate} :
    l.accepts c = true ↔
      l.holds c.eventId c.registrationId = false ∧ l.codesTaken c.codes = false := by
  simp only [accepts, Bool.and_eq_true, Bool.not_eq_true']

private theorem le_foldl_max (ids : List Int) (start : Int) :
    start ≤ ids.foldl max start ∧ ∀ id ∈ ids, id ≤ ids.foldl max start := by
  induction ids generalizing start with
  | nil => exact ⟨Int.le_refl start, fun _ none => absurd none List.not_mem_nil⟩
  | cons first rest ih =>
      obtain ⟨fromStart, fromRest⟩ := ih (max start first)
      constructor
      · exact Int.le_trans (Int.le_max_left start first) fromStart
      · intro id member
        rcases List.mem_cons.1 member with rfl | later
        · exact Int.le_trans (Int.le_max_right start id) fromStart
        · exact fromRest id later

theorem lt_nextId {ids : List Int} {id : Int} (member : id ∈ ids) : id < nextId ids := by
  have bound := (le_foldl_max ids 0).2 id member
  unfold nextId
  omega

theorem mem_of_template? {l : Ledger} {id : Int} {t : Template}
    (found : l.template? id = some t) : t ∈ l.templates :=
  List.mem_of_find?_eq_some found

theorem id_of_template? {l : Ledger} {id : Int} {t : Template} (found : l.template? id = some t) :
    t.id = id :=
  eq_of_beq (List.find?_some (p := fun t : Template => t.id == id) found)

theorem id_of_event? {l : Ledger} {id : Int} {e : Event} (found : l.event? id = some e) :
    e.id = id :=
  eq_of_beq (List.find?_some (p := fun e : Event => e.id == id) found)

theorem template?_congr {l later : Ledger} (same : later.templates = l.templates) (id : Int) :
    later.template? id = l.template? id := by
  unfold template?
  rw [same]

theorem template?_putTemplate (l : Ledger) (t : Template) (id : Int) :
    (l.putTemplate t).template? id =
      (l.template? id).map fun old => if old.id = t.id then t else old := by
  have sameIds : ((fun other : Template => other.id == id) ∘
      fun old => if old.id = t.id then t else old) = fun old => old.id == id := by
    funext old
    simp only [Function.comp_apply]
    split
    · next same => rw [same]
    · rfl
  unfold template? putTemplate
  rw [List.find?_map, sameIds]

theorem template?_removeTemplate (l : Ledger) (id other : Int) :
    (l.removeTemplate other).template? id = if id = other then none else l.template? id := by
  unfold template? removeTemplate
  rw [List.find?_filter]
  split
  · next same =>
      rw [List.find?_eq_none]
      intro t _
      simp only [same, ne_eq, beq_iff_eq, decide_not, Bool.not_eq_true', decide_eq_false_iff_not,
        decide_eq_true_eq, not_and_self, not_false_eq_true]
  · next different =>
      refine congrArg (l.templates.find? ·) (funext fun t => ?_)
      by_cases same : t.id = id
      · simp only [same, ne_eq, different, not_false_eq_true, decide_true, beq_self_eq_true,
          and_self]
      · simp only [beq_eq_false_iff_ne.2 same, Bool.false_eq_true, and_false, decide_false]

/-- A certificate as it stands in the ledger once it is entered. -/
def entered (l : Ledger) (c : Certificate) : Certificate := { c with id := l.nextCertificateId }

def withEntered (l : Ledger) (c : Certificate) : Ledger :=
  { l with certificates := l.certificates ++ [l.entered c] }

theorem enter?_of_accepts {l : Ledger} {c : Certificate} (accepted : l.accepts c = true) :
    l.enter? c = some (l.entered c, l.withEntered c) := by
  simp only [enter?, accepted, if_true, entered, withEntered]

theorem enter?_of_not_accepts {l : Ledger} {c : Certificate} (refused : l.accepts c = false) :
    l.enter? c = none := by
  simp only [enter?, refused, Bool.false_eq_true, if_false]

theorem nodup_map_append {α β : Type} {f : α → β} {xs : List α} {x : α} (apart : (xs.map f).Nodup)
    (fresh : ∀ y ∈ xs, f y ≠ f x) : ((xs ++ [x]).map f).Nodup := by
  rw [List.map_append, List.nodup_append]
  refine ⟨apart, List.nodup_singleton _, ?_⟩
  intro b member c last
  obtain ⟨y, present, rfl⟩ := List.mem_map.1 member
  rw [List.mem_singleton.1 last]
  exact fresh y present

theorem Sound.withEntered {l : Ledger} (sound : l.Sound) {c : Certificate}
    (accepted : l.accepts c = true) : (l.withEntered c).Sound := by
  obtain ⟨notHeld, notTaken⟩ := accepts_iff.1 accepted
  constructor
  · refine nodup_map_append sound.ids ?_
    intro d member same
    have below := lt_nextId (List.mem_map_of_mem (f := (·.id)) member)
    have equal : d.id = nextId (l.certificates.map (·.id)) := same
    omega
  · refine nodup_map_append sound.holders ?_
    intro d member same
    have held : l.holds c.eventId c.registrationId = true :=
      holds_iff.2 ⟨d, member, (Prod.mk.inj same).1, (Prod.mk.inj same).2⟩
    rw [notHeld] at held
    cases held
  · refine nodup_map_append sound.certificateCodes ?_
    intro d member same
    have taken : l.codesTaken c.codes = true := codesTaken_iff.2 ⟨d, member, Or.inl same⟩
    rw [notTaken] at taken
    cases taken
  · refine nodup_map_append sound.verificationCodes ?_
    intro d member same
    have taken : l.codesTaken c.codes = true := codesTaken_iff.2 ⟨d, member, Or.inr same⟩
    rw [notTaken] at taken
    cases taken

/-- Removing a template blanks a column that is not settled. -/
theorem issues_removeTemplate (l : Ledger) (id : Int) : (l.removeTemplate id).issues = l.issues := by
  unfold issues removeTemplate
  rw [List.map_map]
  refine List.map_congr_left fun c _ => ?_
  simp only [Function.comp_apply]
  split <;> rfl

/-- A row replaced by one with the same settled columns leaves all settled columns as they are. -/
theorem issues_putCertificate {l : Ledger} (sound : l.Sound) {c : Certificate}
    (present : c.issue ∈ l.issues) : (l.putCertificate c).issues = l.issues := by
  obtain ⟨row, member, same⟩ := List.mem_map.1 present
  unfold issues putCertificate
  rw [List.map_map]
  refine List.map_congr_left fun old there => ?_
  simp only [Function.comp_apply]
  split
  · next sameId =>
      have settledId : row.issue.id = c.issue.id := congrArg Certificate.id same
      have rowId : row.id = c.id := settledId
      have equal : old = row :=
        List.inj_on_of_nodup_map sound.ids there member (sameId.trans rowId.symm)
      rw [equal, same]
  · rfl

end Ledger
end Issuance
