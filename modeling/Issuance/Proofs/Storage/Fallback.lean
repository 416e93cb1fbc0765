import Issuance.Proofs.Storage.Vaults
import Issuance.Proofs.Storage.Writing
/-!
Two stores, one behind the other, and any requests to them, with any steps of any put refused.

A put ends in one of the three ways of `Routed`. By `frame_after` a request changes at most the
place that it touches, so a file is read back by its reference until a request touches its place,
whatever else the two stores are asked meanwhile, the same key in the other store included.
-/

namespace Issuance
namespace Storage

/-- A request to a vault; a put with what the file system does in each of the stores. -/
inductive Request (α : Type)
  | put (first second : Conditions α) (key : String) (content : α)
  | read (ref : String)
  | contains (ref : String)
  | delete (ref : String)
  | list (keyPrefix : String)

variable {α : Type}

theorem ne_empty_of_resolve {root path : Path} {key : String}
    (leads : resolve root key = .ok path) : key ≠ "" := by
  rintro rfl
  obtain ⟨inside, there⟩ := resolve_eq_ok_iff.1 leads
  exact inside (List.append_cancel_left (there.symm.trans (List.append_nil root).symm))

/-- A put, whatever is refused, either fails and leaves a store that has grown by folders at most,
or the file is in it where its key leads. -/
theorem Volume.putThrough_outcome (conditions : Conditions α) (v : Volume α) (key : String)
    (content : α) :
    (∃ fault w, v.putThrough conditions key content = (.error fault, w) ∧ v.GrowsTo w) ∨
      ∃ path w, v.putThrough conditions key content =
          (.ok ⟨⟨v.name, key⟩, false⟩, w.withFile path content) ∧
        resolve v.root key = .ok path ∧ v.GrowsTo w ∧
          (w.withFile path content).lookup path = .ok content := by
  rcases putThrough_cases conditions v key content with failed | ⟨stored, w, done, put⟩
  · exact Or.inl failed
  · rcases put_outcome v key content with ⟨fault, w', failed, -⟩ | ⟨path, w', put', rest⟩
    · rw [put] at failed
      cases failed
    · exact Or.inr ⟨path, w', done.trans (put.symm.trans put'), rest⟩

namespace Vault

/-- The ways in which a put to two stores can end, with the vault that it leaves: the first one has
taken the file and the second one is as it was; the second one has taken what the first refused; or
both have refused. A store that refuses has grown by folders at most. -/
inductive Routed (first other : Conditions α) (vault : Vault α) (second : Volume α) (key : String)
    (content : α) : Except IoFault StoredObject × Vault α → Prop
  | primary {path : Path} {v : Volume α}
      (tried : vault.primary.putThrough first key content =
        (.ok ⟨⟨vault.primary.name, key⟩, false⟩, v.withFile path content))
      (leads : resolve vault.primary.root key = .ok path) (grown : vault.primary.GrowsTo v)
      (there : (v.withFile path content).lookup path = .ok content) :
      Routed first other vault second key content
        (.ok ⟨⟨vault.primary.name, key⟩, false⟩, { vault with primary := v.withFile path content })
  | secondary {fault : IoFault} {path : Path} {v w : Volume α}
      (tried : vault.primary.putThrough first key content = (.error fault, v))
      (kept : vault.primary.GrowsTo v)
      (retried : second.putThrough other key content =
        (.ok ⟨⟨second.name, key⟩, false⟩, w.withFile path content))
      (leads : resolve second.root key = .ok path) (grown : second.GrowsTo w)
      (there : (w.withFile path content).lookup path = .ok content) :
      Routed first other vault second key content
        (.ok ⟨⟨second.name, key⟩, true⟩,
          { vault with primary := v, secondary := some (w.withFile path content) })
  | neither {fault last : IoFault} {v w : Volume α}
      (tried : vault.primary.putThrough first key content = (.error fault, v))
      (kept : vault.primary.GrowsTo v)
      (retried : second.putThrough other key content = (.error last, w))
      (keptToo : second.GrowsTo w) :
      Routed first other vault second key content
        (.error last, { vault with primary := v, secondary := some w })

variable {vault : Vault α} {second : Volume α} {first other : Conditions α} {key : String}
  {content : α}

theorem routed_putThrough (paired : vault.secondary = some second) (first other : Conditions α)
    (key : String) (content : α) :
    Routed first other vault second key content (vault.putThrough first other key content) := by
  unfold putThrough
  rcases vault.primary.putThrough_outcome first key content with
    ⟨fault, v, tried, kept⟩ | ⟨path, v, tried, leads, grown, there⟩
  · rcases second.putThrough_outcome other key content with
      ⟨last, w, retried, keptToo⟩ | ⟨path, w, retried, leads, grown, there⟩
    · simp only [tried, paired, retried]
      exact .neither tried kept retried keptToo
    · simp only [tried, paired, retried]
      exact .secondary tried kept retried leads grown there
  · simp only [tried]
    exact .primary tried leads grown there

theorem location?_of_resolve (sound : vault.Sound) {store : String} {v : Volume α}
    (known : vault.volume? store = some v) {path : Path} (leads : resolve v.root key = .ok path) :
    vault.location? (Reference.text ⟨store, key⟩) = some (store, path) := by
  have named : IsStoreName store := (volume?_cases known).1 ▸ (sound.volume known).named
  have parsed := @Reference.ofText_text ⟨store, key⟩ named (ne_empty_of_resolve leads)
  simp only [location?, parsed, Except.toOption, Option.bind_some, known, leads, Option.map_some]

/-- The answer to a put is a reference, and it leads to a path of a store. -/
def Reaches (vault : Vault α) (answer : Except IoFault StoredObject) (store : String)
    (path : Path) : Prop :=
  ∃ stored, answer = .ok stored ∧ vault.location? stored.ref.text = some (store, path)

/-- A put changes nothing but the file that its reference leads to. -/
theorem Routed.frame (sound : vault.Sound) (paired : vault.secondary = some second)
    {answer : Except IoFault StoredObject} {after : Vault α}
    (routed : Routed first other vault second key content (answer, after)) :
    Frame (vault.Reaches answer) vault after := by
  have secondSound := sound.secondary second paired
  cases routed with
  | primary tried leads grown there =>
      have plain := isPlainPath_of_resolve sound.primary.rooted leads
      refine (frame_primary sound (Volume.frame_withFile sound.primary grown plain content)).mono ?_
      rintro store other ⟨rfl, rfl⟩
      exact ⟨_, rfl, location?_of_resolve sound (volume?_primary sound) leads⟩
  | secondary tried kept retried leads grown there =>
      have untouched := frame_primary sound (Volume.frame_of_growsTo sound.primary kept)
      have plain := isPlainPath_of_resolve secondSound.rooted leads
      have more := frame_secondary untouched.sound paired
        (Volume.frame_withFile secondSound grown plain content)
      refine (untouched.mono fun _ _ hit => hit.2.elim).trans (more.mono ?_)
      rintro store other ⟨rfl, rfl⟩
      exact ⟨_, rfl, location?_of_resolve sound (volume?_secondary paired) leads⟩
  | neither tried kept retried keptToo =>
      have untouched := frame_primary sound (Volume.frame_of_growsTo sound.primary kept)
      have more := frame_secondary untouched.sound paired
        (Volume.frame_of_growsTo secondSound keptToo)
      exact (untouched.mono fun _ _ hit => hit.2.elim).trans (more.mono fun _ _ hit => hit.2.elim)

/-- The reference that a put gives leads to a path of the store it names, and the content can be
read there. -/
theorem Routed.readAt (sound : vault.Sound) (paired : vault.secondary = some second)
    {stored : StoredObject} {after : Vault α}
    (routed : Routed first other vault second key content (.ok stored, after)) :
    ∃ path, vault.location? stored.ref.text = some (stored.ref.store, path) ∧
      after.readAt stored.ref.store path = some content := by
  have afterSound := (routed.frame sound paired).sound
  cases routed with
  | @primary path v tried leads grown there =>
      have named : (v.withFile path content).name = vault.primary.name := grown.name
      have found := volume?_primary afterSound
      simp only [named] at found
      refine ⟨path, location?_of_resolve sound (volume?_primary sound) leads, ?_⟩
      simp only [Vault.readAt, found, Option.bind_some, there, Except.toOption]
  | @secondary fault path v w tried kept retried leads grown there =>
      have named : (w.withFile path content).name = second.name := grown.name
      refine ⟨path, location?_of_resolve sound (volume?_secondary paired) leads, ?_⟩
      simp only [Vault.readAt, volume?, named, if_true, Option.bind_some, there, Except.toOption]

/-- The vault after a request. -/
def after (vault : Vault α) : Request α → Vault α
  | .put first second key content => (vault.putThrough first second key content).2
  | .delete ref => (vault.delete ref).2
  | .read _ | .contains _ | .list _ => vault

def afterAll (vault : Vault α) (requests : List (Request α)) : Vault α := requests.foldl after vault

/-- A request puts a file at a path of a store, or takes it away from there. -/
inductive Touches (vault : Vault α) (store : String) (path : Path) : Request α → Prop
  | put {first second : Conditions α} {key : String} {content : α}
      (leads : vault.Reaches (vault.putThrough first second key content).1 store path) :
      Touches vault store path (.put first second key content)
  | delete {ref : String} (removed : (vault.delete ref).1 = .ok true)
      (leads : vault.location? ref = some (store, path)) : Touches vault store path (.delete ref)

/-- None of the requests touches a path of a store, each of them being made to the vault that the
earlier ones have left. -/
def Spares (store : String) (path : Path) : Vault α → List (Request α) → Prop
  | _, [] => True
  | vault, request :: rest =>
      ¬vault.Touches store path request ∧ Spares store path (vault.after request) rest

theorem Spares.cons_put {store : String} {path : Path} {stored : StoredObject}
    {rest : List (Request α)}
    (put : (vault.putThrough first other key content).1 = .ok stored)
    (elsewhere : vault.location? stored.ref.text ≠ some (store, path))
    (spared : Spares store path (vault.putThrough first other key content).2 rest) :
    Spares store path vault (.put first other key content :: rest) := by
  refine ⟨?_, spared⟩
  rintro ⟨⟨_, answer, leads⟩⟩
  cases put.symm.trans answer
  exact elsewhere leads

theorem Frame.paired {touched : String → Path → Prop} {after : Vault α}
    (frame : Frame touched vault after) (paired : vault.secondary = some second) :
    ∃ next, after.secondary = some next := by
  have names := frame.secondary
  rw [paired] at names
  obtain ⟨next, there, -⟩ := Option.map_eq_some_iff.1 names
  exact ⟨next, there⟩

/-- A request changes at most what it touches. -/
theorem frame_after (sound : vault.Sound) (paired : vault.secondary = some second)
    (request : Request α) :
    Frame (fun store path => vault.Touches store path request) vault (vault.after request) := by
  cases request with
  | put first other key content =>
      have routed := routed_putThrough paired first other key content
      exact (routed.frame sound paired).mono fun _ _ leads => .put leads
  | delete ref =>
      rcases delete_cases sound ref with kept | ⟨v, path, place, known, removed⟩
      · have same : vault.after (.delete ref) = vault := kept
        rw [same]
        exact Frame.refl sound
      · refine (frame_delete sound ref).mono fun store other leads => .delete ?_ leads
        rw [removed]
  | read ref => exact Frame.refl sound
  | contains ref => exact Frame.refl sound
  | list keyPrefix => exact Frame.refl sound

/-- A run of requests changes at most the places that it does not spare. -/
theorem frame_afterAll (sound : vault.Sound) (paired : vault.secondary = some second)
    (requests : List (Request α)) :
    Frame (fun store path => ¬Spares store path vault requests) vault
      (vault.afterAll requests) := by
  induction requests generalizing vault second with
  | nil => exact Frame.refl sound
  | cons request rest ih =>
      have step := frame_after sound paired request
      obtain ⟨next, paired'⟩ := step.paired paired
      have onward := ih step.sound paired'
      refine (step.mono ?_).trans (onward.mono ?_)
      · exact fun store path touched spared => spared.1 touched
      · exact fun store path notSpared spared => notSpared spared.2

/-- The put of a vault is one where every step is granted and a name is offered that is free. -/
theorem exists_fair_put (vault : Vault α) (key : String) :
    ∃ names, ∀ content,
      vault.putThrough (.fair names) (.fair names) key content = vault.put key content := by
  obtain ⟨taken, free⟩ := vault.primary.exists_taken_of_key key
  have behind : ∃ alsoTaken : List String, ∀ name ∉ alsoTaken, ∀ v, vault.secondary = some v →
      ∀ path, resolve v.root key = .ok path → v.Offers [name] path := by
    cases vault.secondary with
    | none => exact ⟨[], fun _ _ _ none => nomatch none⟩
    | some second =>
        obtain ⟨alsoTaken, alsoFree⟩ := second.exists_taken_of_key key
        exact ⟨alsoTaken, fun name fresh v same => Option.some.inj same ▸ alsoFree name fresh⟩
  obtain ⟨alsoTaken, alsoFree⟩ := behind
  obtain ⟨name, fresh⟩ := Infinite.exists_notMem_finset (taken ++ alsoTaken).toFinset
  rw [List.mem_toFinset, List.mem_append, not_or] at fresh
  refine ⟨[name], fun content => ?_⟩
  unfold putThrough put
  rw [Volume.putThrough_fair (free name fresh.1)]
  cases vault.primary.put key content with
  | mk tried primary =>
      cases tried with
      | ok stored => rfl
      | error fault =>
          cases paired : vault.secondary with
          | none => rfl
          | some second => simp only [Volume.putThrough_fair (alsoFree name fresh.2 second paired)]

/-- After any requests to two stores, whatever was refused to any of them, a put is routed to the
first store that takes it, and otherwise leaves all files of both as they were. Its reference then
leads to that store and gives just the content that was put, after any more requests of which none
puts or removes a file at that path of that store. -/
theorem refs_lead_back_to_their_store {now next : Vault α} (sound : vault.Sound)
    (paired : vault.secondary = some second) {earlier : List (Request α)}
    (reached : vault.afterAll earlier = now) {answer : Except IoFault StoredObject}
    (put : now.putThrough first other key content = (answer, next)) :
    (∃ current, now.secondary = some current ∧
      Routed first other now current key content (answer, next)) ∧
    (∀ stored, answer = .ok stored → ∃ path,
      now.location? stored.ref.text = some (stored.ref.store, path) ∧
        ∀ later, Spares stored.ref.store path next later →
          (next.afterAll later).read stored.ref.text = .ok content ∧
            ∃ v, (next.afterAll later).volumeFor stored.ref.text = .ok v ∧
              v.name = stored.ref.store) ∧
    ∃ names, ∀ content, now.putThrough (.fair names) (.fair names) key content =
      now.put key content := by
  have before := frame_afterAll sound paired earlier
  rw [reached] at before
  obtain ⟨current, there⟩ := before.paired paired
  have routed := routed_putThrough there first other key content
  rw [put] at routed
  refine ⟨⟨current, there, routed⟩, ?_, exists_fair_put now key⟩
  rintro stored rfl
  obtain ⟨path, place, found⟩ := routed.readAt before.sound there
  refine ⟨path, place, fun later spared => ?_⟩
  have step := routed.frame before.sound there
  obtain ⟨following, paired'⟩ := step.paired there
  have onward := frame_afterAll step.sound paired' later
  have placed : (next.afterAll later).location? stored.ref.text = some (stored.ref.store, path) :=
    (onward.located _).trans ((step.located _).trans place)
  have stays := onward.reads stored.ref.store path content (not_not_intro spared) found
  refine ⟨(read_eq_ok_iff onward.sound).2 ⟨_, _, placed, stays⟩, ?_⟩
  rcases volumeFor_cases onward.sound stored.ref.text with
    ⟨v, left, -, leads⟩ | ⟨fault, -, nowhere⟩
  · rw [placed] at leads
    obtain ⟨located, -, same⟩ := Option.map_eq_some_iff.1 leads.symm
    exact ⟨v, left, (Prod.mk.inj same).1⟩
  · rw [placed] at nowhere
    cases nowhere

def twoStores : Vault String :=
  ⟨Volume.empty "primary" ["srv"], some (Volume.empty "spare" ["var", "spare"]), false⟩

/-- The scratch file is written, but cannot be moved to its place. -/
def stalled : Conditions String := { Conditions.fair ["tmp"] with move? := some .noSpace }

/-- Once the first store takes files again, it takes another one under the same key. -/
theorem refs_lead_back_after_recovery :
    ∃ next, twoStores.putThrough stalled (.fair ["tmp"]) "certs/ada.pdf" "first" =
        (.ok ⟨⟨"spare", "certs/ada.pdf"⟩, true⟩, next) ∧
      (next.afterAll [.put (.fair ["tmp"]) stalled "certs//ada.pdf" "second"]).read
        "spare:certs/ada.pdf" = .ok "first" ∧
      (next.afterAll [.put (.fair ["tmp"]) stalled "certs//ada.pdf" "second"]).read
        "primary:certs/ada.pdf" = .ok "second" := by
  have plain : ∀ part ∈ ["srv", "var", "spare"], IsPlain part := by
    intro part member
    simp only [List.mem_cons, List.not_mem_nil, or_false] at member
    rcases member with rfl | rfl | rfl <;> exact ⟨by decide, by decide, by decide, by decide⟩
  have sound : twoStores.Sound := by
    refine ⟨Volume.sound_empty ⟨by decide, by decide⟩ ?_, ?_, ?_⟩
    · exact fun part member => plain part (List.mem_cons.2 (Or.inl (List.mem_singleton.1 member)))
    · rintro v ⟨rfl⟩
      exact Volume.sound_empty ⟨by decide, by decide⟩
        fun part member => plain part (List.mem_cons_of_mem _ member)
    · rintro v ⟨rfl⟩
      decide
  obtain ⟨-, back, -⟩ := @refs_lead_back_to_their_store String twoStores _ stalled (.fair ["tmp"])
    "certs/ada.pdf" "first" twoStores _ sound rfl [] rfl _ rfl
  obtain ⟨path, place, kept⟩ := back ⟨⟨"spare", "certs/ada.pdf"⟩, true⟩ (by decide +kernel)
  refine ⟨_, Prod.ext (by decide +kernel) rfl, (kept _ ?_).1, by decide +kernel⟩
  refine Spares.cons_put (by decide +kernel :
    _ = Except.ok (⟨⟨"primary", "certs//ada.pdf"⟩, false⟩ : StoredObject)) ?_ trivial
  have leads : (twoStores.putThrough stalled (.fair ["tmp"]) "certs/ada.pdf" "first").2.location?
      "primary:certs//ada.pdf" = some ("primary", ["certs", "ada.pdf"]) := by decide +kernel
  intro elsewhere
  have stores : "primary" = "spare" :=
    (Prod.mk.inj (Option.some.inj (leads.symm.trans elsewhere))).1
  exact absurd stores (by decide)

end Vault
end Storage
end Issuance
