import Issuance.Storage.Vault
import Issuance.Proofs.Storage.Volumes
/-!
The files of a vault, by store and path, and what its operations leave alone.

A change is described by the places it may touch: `Frame touched a b` says that `b` has the stores
of `a`, every other file of `a`, and can still read each of them.
-/

namespace Issuance
namespace Storage
namespace Volume

variable {α : Type}

/-- Files at other places stay, and stay readable. -/
structure Frame (touched : Path → Prop) (v w : Volume α) : Prop where
  sound : w.Sound
  name : w.name = v.name
  root : w.root = v.root
  files : ∀ path, ¬touched path → w.file? path = v.file? path
  reads : ∀ path content, ¬touched path → v.lookup path = .ok content →
    w.lookup path = .ok content

theorem frame_of_growsTo {v w : Volume α} (sound : v.Sound) (grown : v.GrowsTo w) :
    Frame (fun _ => False) v w where
  sound := sound.of_growsTo grown
  name := grown.name
  root := grown.root
  files := fun path _ => grown.file?_eq path
  reads := fun _ _ _ found => grown.lookup found

theorem frame_withFile {v w : Volume α} (sound : v.Sound) (grown : v.GrowsTo w) {path : Path}
    (plain : IsPlainPath path) (content : α) :
    Frame (fun other => other = path) v (w.withFile path content) where
  sound := (sound.of_growsTo grown).withFile plain
  name := grown.name
  root := grown.root
  files := by
    intro other different
    rw [file?_withFile, if_neg (fun same => different same.symm), grown.file?_eq]
  reads := by
    intro other found different there
    exact lookup_withFile_of_ne (fun same => different same.symm) (grown.lookup there)

theorem frame_withoutFile {v : Volume α} (sound : v.Sound) (path : Path) :
    Frame (fun other => other = path) v (v.withoutFile path) where
  sound := sound.withoutFile path
  name := rfl
  root := rfl
  files := by
    intro other different
    rw [file?_withoutFile, if_neg (fun same => different same.symm)]
  reads := by
    intro other found different there
    exact lookup_withoutFile_of_ne (fun same => different same.symm) there

/-- What a put into a single store comes to. -/
theorem put_cases {v : Volume α} (sound : v.Sound) {path : Path} (plain : IsPlainPath path)
    (content : α) :
    (∃ fault w, v.put (keyOf path) content = (.error fault, w) ∧ Frame (fun _ => False) v w) ∨
      ∃ w, v.put (keyOf path) content = (.ok ⟨⟨v.name, keyOf path⟩, false⟩, w) ∧
        Frame (fun other => other = path) v w ∧ w.lookup path = .ok content := by
  unfold put
  cases v.full with
  | true => exact Or.inl ⟨_, v, rfl, frame_of_growsTo sound (GrowsTo.refl v)⟩
  | false =>
      rw [resolve_keyOf plain]
      simp only [Bool.false_eq_true, if_false]
      rcases write_cases v path content with ⟨fault, w, failed, grown⟩ | ⟨w, written, grown, there⟩
      · rw [failed]
        exact Or.inl ⟨fault, w, rfl, frame_of_growsTo sound grown⟩
      · rw [written]
        refine Or.inr ⟨_, ?_, frame_withFile sound grown plain content, there⟩
        simp only [Except.map, withFile, grown.name]

end Volume

namespace Vault

variable {α : Type}

def volume? (vault : Vault α) (store : String) : Option (Volume α) :=
  match vault.secondary with
  | some second =>
      if store = second.name then some second
      else if store = vault.primary.name then some vault.primary else none
  | none => if store = vault.primary.name then some vault.primary else none

def fileAt (vault : Vault α) (store : String) (path : Path) : Option α :=
  (vault.volume? store).bind fun v => v.file? path

/-- What reading at a path of a store gives. -/
def readAt (vault : Vault α) (store : String) (path : Path) : Option α :=
  (vault.volume? store).bind fun v => (v.lookup path).toOption

def location? (vault : Vault α) (ref : String) : Option (String × Path) :=
  (Reference.ofText ref).toOption.bind fun r =>
    (vault.volume? r.store).bind fun v =>
      (resolve v.root r.key).toOption.map fun path => (r.store, path)

/-- Both stores are sound, and their names tell them apart. -/
structure Sound (vault : Vault α) : Prop where
  primary : vault.primary.Sound
  secondary : ∀ v, vault.secondary = some v → v.Sound
  distinct : ∀ v, vault.secondary = some v → v.name ≠ vault.primary.name

theorem sound_single {v : Volume α} (sound : v.Sound) : (single v).Sound :=
  ⟨sound, fun _ none => (nomatch none), fun _ none => nomatch none⟩

theorem volume?_cases {vault : Vault α} {store : String} {v : Volume α}
    (known : vault.volume? store = some v) :
    store = v.name ∧ (v = vault.primary ∨ vault.secondary = some v) := by
  unfold volume? at known
  cases second : vault.secondary with
  | none =>
      rw [second] at known
      obtain ⟨named, same⟩ := Option.ite_none_right_eq_some.1 known
      cases same
      exact ⟨named, Or.inl rfl⟩
  | some other =>
      rw [second] at known
      simp only at known
      split at known
      · next named =>
          cases known
          exact ⟨named, Or.inr rfl⟩
      · obtain ⟨named, same⟩ := Option.ite_none_right_eq_some.1 known
        cases same
        exact ⟨named, Or.inl rfl⟩

theorem volume?_primary {vault : Vault α} (sound : vault.Sound) :
    vault.volume? vault.primary.name = some vault.primary := by
  unfold volume?
  cases second : vault.secondary with
  | none => exact if_pos rfl
  | some other =>
      have different := sound.distinct other second
      simp only [different.symm, if_false, if_true]

theorem volume?_secondary {vault : Vault α} {v : Volume α} (second : vault.secondary = some v) :
    vault.volume? v.name = some v := by
  simp only [volume?, second, if_true]

theorem Sound.volume {vault : Vault α} (sound : vault.Sound) {store : String} {v : Volume α}
    (known : vault.volume? store = some v) : v.Sound := by
  rcases (volume?_cases known).2 with rfl | second
  · exact sound.primary
  · exact sound.secondary v second

theorem location?_text {vault : Vault α} (sound : vault.Sound) {store : String} {v : Volume α}
    (known : vault.volume? store = some v) {path : Path} (plain : IsPlainPath path) :
    vault.location? (Reference.text ⟨store, keyOf path⟩) = some (store, path) := by
  have named : IsStoreName store := (volume?_cases known).1 ▸ (sound.volume known).named
  have parsed := @Reference.ofText_text ⟨store, keyOf path⟩ named (keyOf_ne_empty plain)
  simp only [location?, parsed, Except.toOption, Option.bind_some, known, resolve_keyOf plain,
    Option.map_some]

theorem fileAt_of_readAt {vault : Vault α} {store : String} {path : Path} {content : α}
    (found : vault.readAt store path = some content) : vault.fileAt store path = some content := by
  obtain ⟨v, known, looked⟩ := Option.bind_eq_some_iff.1 found
  have there : v.lookup path = .ok content := by
    cases looked' : v.lookup path with
    | error fault =>
        rw [looked'] at looked
        cases looked
    | ok other =>
        rw [looked'] at looked
        cases looked
        rfl
  exact Option.bind_eq_some_iff.2 ⟨v, known, Volume.file?_of_lookup there⟩

private theorem locate_eq {ref : String} {r : Reference} {v : Volume α}
    (parsed : Reference.ofText ref = .ok r) :
    v.locate ref =
      if r.store = v.name then resolve v.root r.key else .error (.foreignReference ref v.name) := by
  simp only [Volume.locate, parsed, bind, Except.bind]

/-- A reference is left to the store that it names. One that names no store is left to the first
one, which then refuses it. -/
theorem volumeFor_cases {vault : Vault α} (sound : vault.Sound) (ref : String) :
    (∃ v, vault.volumeFor ref = .ok v ∧ vault.volume? v.name = some v ∧
        vault.location? ref = (v.locate ref).toOption.map fun path => (v.name, path)) ∨
      ∃ fault, vault.volumeFor ref = .error fault ∧ vault.location? ref = none := by
  cases parsed : Reference.ofText ref with
  | error fault =>
      have nowhere : vault.location? ref = none := by
        simp only [location?, parsed, Except.toOption, Option.bind_none]
      cases second : vault.secondary with
      | none =>
          refine Or.inl
            ⟨vault.primary, by simp only [volumeFor, second], volume?_primary sound, ?_⟩
          rw [nowhere]
          simp only [Volume.locate, parsed, bind, Except.bind, Except.toOption, Option.map_none]
      | some other =>
          refine Or.inr ⟨fault, ?_, nowhere⟩
          simp only [volumeFor, second, parsed, bind, Except.bind]
  | ok r =>
      -- the volume chosen, and what its own check of the name makes of the reference
      have chosen : ∀ v, vault.volume? r.store = some v → r.store = v.name →
          vault.location? ref = (v.locate ref).toOption.map fun path => (v.name, path) := by
        intro v known named
        rw [locate_eq parsed, if_pos named, ← named]
        simp only [location?, parsed, Except.toOption, Option.bind_some, known]
      have refused : vault.volume? r.store = none → r.store ≠ vault.primary.name →
          vault.location? ref =
            (vault.primary.locate ref).toOption.map fun path => (vault.primary.name, path) := by
        intro unknown different
        simp only [location?, parsed, Except.toOption, Option.bind_some, unknown, Option.bind_none,
          locate_eq parsed, different, if_false, Option.map_none]
      cases second : vault.secondary with
      | none =>
          refine Or.inl
            ⟨vault.primary, by simp only [volumeFor, second], volume?_primary sound, ?_⟩
          by_cases named : r.store = vault.primary.name
          · exact chosen vault.primary (by simp only [volume?, second, named, if_true]) named
          · exact refused (by simp only [volume?, second, named, if_false]) named
      | some other =>
          by_cases ofSecond : r.store = other.name
          · refine Or.inl ⟨other, ?_, volume?_secondary second, ?_⟩
            · simp only [volumeFor, second, parsed, bind, Except.bind, pure, Except.pure, ofSecond,
                if_true]
            · exact chosen other (by simp only [volume?, second, ofSecond, if_true]) ofSecond
          · refine Or.inl ⟨vault.primary, ?_, volume?_primary sound, ?_⟩
            · simp only [volumeFor, second, parsed, bind, Except.bind, pure, Except.pure, ofSecond,
                if_false]
            · by_cases named : r.store = vault.primary.name
              · refine chosen vault.primary ?_ named
                simp only [volume?, second, if_neg ofSecond, if_pos named]
              · exact refused (by simp only [volume?, second, ofSecond, named, if_false]) named

/-- Reading by a reference is reading at the place that it leads to. -/
theorem toOption_read {vault : Vault α} (sound : vault.Sound) (ref : String) :
    (vault.read ref).toOption =
      (vault.location? ref).bind fun place => vault.readAt place.1 place.2 := by
  rcases volumeFor_cases sound ref with ⟨v, left, known, place⟩ | ⟨fault, left, nowhere⟩
  · rw [place]
    simp only [read, left, bind, Except.bind, Volume.read]
    cases v.locate ref with
    | error fault => rfl
    | ok path => simp only [Except.toOption, Option.map_some, Option.bind_some, readAt, known]
  · rw [nowhere]
    simp only [read, left, bind, Except.bind, Except.toOption, Option.bind_none]

theorem read_eq_ok_iff {vault : Vault α} (sound : vault.Sound) {ref : String} {content : α} :
    vault.read ref = .ok content ↔
      ∃ store path, vault.location? ref = some (store, path) ∧
        vault.readAt store path = some content := by
  have whole := toOption_read sound ref
  constructor
  · intro found
    rw [found] at whole
    obtain ⟨⟨store, path⟩, place, there⟩ := Option.bind_eq_some_iff.1 whole.symm
    exact ⟨store, path, place, there⟩
  · rintro ⟨store, path, place, there⟩
    rw [place, Option.bind_some, there] at whole
    cases result : vault.read ref with
    | error fault =>
        rw [result] at whole
        cases whole
    | ok other =>
        rw [result] at whole
        exact congrArg Except.ok (Option.some.inj whole)

/-- The stores are the same, and so are all files that may not be touched, which stay readable. -/
structure Frame (touched : String → Path → Prop) (a b : Vault α) : Prop where
  sound : b.Sound
  primary : b.primary.name = a.primary.name
  secondary : b.secondary.map Volume.name = a.secondary.map Volume.name
  located : ∀ ref, b.location? ref = a.location? ref
  files : ∀ store path, ¬touched store path → b.fileAt store path = a.fileAt store path
  reads : ∀ store path content, ¬touched store path → a.readAt store path = some content →
    b.readAt store path = some content

namespace Frame

variable {touched wider : String → Path → Prop} {a b c : Vault α}

theorem refl (sound : a.Sound) : Frame touched a a where
  sound := sound
  primary := rfl
  secondary := rfl
  located := fun _ => rfl
  files := fun _ _ _ => rfl
  reads := fun _ _ _ _ found => found

theorem trans (first : Frame touched a b) (second : Frame touched b c) : Frame touched a c where
  sound := second.sound
  primary := second.primary.trans first.primary
  secondary := second.secondary.trans first.secondary
  located := fun ref => (second.located ref).trans (first.located ref)
  files := fun store path untouched =>
    (second.files store path untouched).trans (first.files store path untouched)
  reads := fun store path content untouched found =>
    second.reads store path content untouched (first.reads store path content untouched found)

theorem mono (frame : Frame touched a b)
    (more : ∀ store path, touched store path → wider store path) : Frame wider a b where
  sound := frame.sound
  primary := frame.primary
  secondary := frame.secondary
  located := frame.located
  files := fun store path untouched =>
    frame.files store path (fun hit => untouched (more store path hit))
  reads := fun store path content untouched =>
    frame.reads store path content (fun hit => untouched (more store path hit))

theorem read (frame : Frame touched a b) (sound : a.Sound) {ref : String} {content : α}
    (found : a.read ref = .ok content)
    (untouched : ∀ store path, a.location? ref = some (store, path) → ¬touched store path) :
    b.read ref = .ok content := by
  obtain ⟨store, path, place, there⟩ := (read_eq_ok_iff sound).1 found
  refine (read_eq_ok_iff frame.sound).2 ⟨store, path, (frame.located ref).trans place, ?_⟩
  exact frame.reads store path content (untouched store path place) there

end Frame

/-- A changed store takes the place of the second one or of the first one. -/
theorem withVolume_cases {vault : Vault α} {v w : Volume α}
    (known : vault.volume? w.name = some v) :
    (∃ second, vault.secondary = some second ∧ w.name = second.name ∧
        vault.withVolume w = { vault with secondary := some w }) ∨
      ((∀ second, vault.secondary = some second → w.name ≠ second.name) ∧
        w.name = vault.primary.name ∧ vault.withVolume w = { vault with primary := w }) := by
  unfold volume? at known
  unfold withVolume
  cases second : vault.secondary with
  | none =>
      rw [second] at known
      refine Or.inr ⟨?_, (Option.ite_none_right_eq_some.1 known).1, rfl⟩
      intro other there
      cases there
  | some other =>
      rw [second] at known
      by_cases ofSecond : w.name = other.name
      · exact Or.inl ⟨other, rfl, ofSecond, if_pos ofSecond⟩
      · simp only [if_neg ofSecond] at known
        refine Or.inr ⟨?_, (Option.ite_none_right_eq_some.1 known).1, if_neg ofSecond⟩
        intro u there
        exact Option.some.inj there ▸ ofSecond

theorem volume?_withVolume {vault : Vault α} {v w : Volume α}
    (known : vault.volume? w.name = some v) (store : String) :
    (vault.withVolume w).volume? store = if store = w.name then some w else vault.volume? store := by
  rcases withVolume_cases known with ⟨other, second, named, changed⟩ | ⟨notSecond, named, changed⟩
  · rw [changed]
    simp only [volume?, second, named]
    split <;> rfl
  · rw [changed]
    by_cases here : store = w.name
    · subst here
      cases second : vault.secondary with
      | none => simp only [volume?, second, if_true]
      | some other => simp only [volume?, second, if_neg (notSecond other second), if_true]
    · have notPrimary : store ≠ vault.primary.name := fun same => here (same.trans named.symm)
      simp only [volume?, if_neg here, if_neg notPrimary]

theorem sound_withVolume {vault : Vault α} (sound : vault.Sound) {v w : Volume α}
    (known : vault.volume? w.name = some v) (wSound : w.Sound) : (vault.withVolume w).Sound := by
  rcases withVolume_cases known with ⟨other, second, named, changed⟩ | ⟨-, named, changed⟩
  · rw [changed]
    refine ⟨sound.primary, ?_, ?_⟩
    · intro u there
      exact Option.some.inj there ▸ wSound
    · intro u there
      rw [← Option.some.inj there, named]
      exact sound.distinct other second
  · rw [changed]
    refine ⟨wSound, sound.secondary, ?_⟩
    intro u there same
    exact sound.distinct u there (same.trans named)

theorem primary_withVolume {vault : Vault α} {v w : Volume α}
    (known : vault.volume? w.name = some v) :
    (vault.withVolume w).primary.name = vault.primary.name := by
  rcases withVolume_cases known with ⟨_, _, _, changed⟩ | ⟨_, named, changed⟩
  · rw [changed]
  · rw [changed]
    exact named

theorem secondary_withVolume {vault : Vault α} {v w : Volume α}
    (known : vault.volume? w.name = some v) :
    (vault.withVolume w).secondary.map Volume.name = vault.secondary.map Volume.name := by
  rcases withVolume_cases known with ⟨other, second, named, changed⟩ | ⟨_, _, changed⟩
  · rw [changed, second]
    exact congrArg some named
  · rw [changed]

/-- Changing one store changes the vault at no other place. -/
theorem frame_withVolume {vault : Vault α} (sound : vault.Sound) {v w : Volume α}
    (known : vault.volume? v.name = some v) {touched : Path → Prop}
    (frame : Volume.Frame touched v w) :
    Frame (fun store path => store = v.name ∧ touched path) vault (vault.withVolume w) := by
  have held : vault.volume? w.name = some v := frame.name ▸ known
  have after := volume?_withVolume held
  refine ⟨sound_withVolume sound held frame.sound, primary_withVolume held,
    secondary_withVolume held, ?_, ?_, ?_⟩
  · intro ref
    unfold location?
    congr 1
    funext r
    rw [after r.store]
    by_cases here : r.store = w.name
    · rw [if_pos here, here, held, Option.bind_some, Option.bind_some, frame.root]
    · rw [if_neg here]
  · intro store path untouched
    unfold fileAt
    rw [after store]
    by_cases here : store = w.name
    · rw [if_pos here, here, held, Option.bind_some, Option.bind_some]
      exact frame.files path (fun hit => untouched ⟨here.trans frame.name, hit⟩)
    · rw [if_neg here]
  · intro store path content untouched there
    unfold readAt at there ⊢
    rw [after store]
    by_cases here : store = w.name
    · rw [here, held, Option.bind_some] at there
      rw [if_pos here, Option.bind_some]
      cases looked : v.lookup path with
      | error fault =>
          rw [looked] at there
          cases there
      | ok found =>
          rw [looked] at there
          rw [frame.reads path found (fun hit => untouched ⟨here.trans frame.name, hit⟩) looked]
          exact there
    · rw [if_neg here]
      exact there

theorem withVolume_primary {vault : Vault α} (sound : vault.Sound) {w : Volume α}
    (named : w.name = vault.primary.name) : vault.withVolume w = { vault with primary := w } := by
  unfold withVolume
  cases second : vault.secondary with
  | none => rfl
  | some other =>
      have different : w.name ≠ other.name :=
        fun same => sound.distinct other second (same.symm.trans named)
      exact if_neg different

theorem withVolume_secondary {vault : Vault α} {v w : Volume α} (second : vault.secondary = some v)
    (named : w.name = v.name) : vault.withVolume w = { vault with secondary := some w } := by
  simp only [withVolume, second, named, if_true]

/-- A change of the first store changes the vault at no place of the other one. -/
theorem frame_primary {vault : Vault α} (sound : vault.Sound) {touched : Path → Prop}
    {v : Volume α} (frame : Volume.Frame touched vault.primary v) :
    Frame (fun store path => store = vault.primary.name ∧ touched path) vault
      { vault with primary := v } := by
  rw [← withVolume_primary sound frame.name]
  exact frame_withVolume sound (volume?_primary sound) frame

theorem frame_secondary {vault : Vault α} (sound : vault.Sound) {second : Volume α}
    (paired : vault.secondary = some second) {touched : Path → Prop} {v : Volume α}
    (frame : Volume.Frame touched second v) :
    Frame (fun store path => store = second.name ∧ touched path) vault
      { vault with secondary := some v } := by
  rw [← withVolume_secondary paired frame.name]
  exact frame_withVolume sound (volume?_secondary paired) frame

theorem withVolume_self {vault : Vault α} (sound : vault.Sound) {v : Volume α}
    (known : vault.volume? v.name = some v) : vault.withVolume v = vault := by
  rcases (volume?_cases known).2 with rfl | second
  · exact withVolume_primary sound rfl
  · rw [withVolume_secondary second rfl, ← second]

/-- What a put that succeeds has done: the file is in the store that the reference names, it can be
read there, and nothing else has changed. -/
structure Received (vault after : Vault α) (path : Path) (content : α) (stored : StoredObject) :
    Prop where
  key : stored.ref.key = keyOf path
  store : ∃ v, vault.volume? stored.ref.store = some v
  fallback : stored.usesFallback = true ↔
    vault.secondary.map Volume.name = some stored.ref.store
  there : after.readAt stored.ref.store path = some content
  frame : Frame (fun store other => store = stored.ref.store ∧ other = path) vault after
  locked : after.locked = vault.locked

theorem Received.text {vault after : Vault α} {path : Path} {content : α} {stored : StoredObject}
    (received : Received vault after path content stored) :
    stored.ref.text = Reference.text ⟨stored.ref.store, keyOf path⟩ := by
  rw [← received.key]

theorem Received.location? {vault after : Vault α} {path : Path} {content : α}
    {stored : StoredObject} (received : Received vault after path content stored)
    (sound : vault.Sound) (plain : IsPlainPath path) :
    vault.location? stored.ref.text = some (stored.ref.store, path) := by
  obtain ⟨v, known⟩ := received.store
  rw [received.text]
  exact location?_text sound known plain

theorem Received.read {vault after : Vault α} {path : Path} {content : α} {stored : StoredObject}
    (received : Received vault after path content stored) (sound : vault.Sound)
    (plain : IsPlainPath path) : after.read stored.ref.text = .ok content := by
  refine (read_eq_ok_iff received.frame.sound).2 ⟨stored.ref.store, path, ?_, received.there⟩
  exact (received.frame.located _).trans (received.location? sound plain)

/-- A put that fails has changed no file. -/
structure Refused (vault after : Vault α) : Prop where
  frame : Frame (fun _ _ => False) vault after
  locked : after.locked = vault.locked

theorem put_cases {vault : Vault α} (sound : vault.Sound) {path : Path} (plain : IsPlainPath path)
    (content : α) :
    (∃ fault after, vault.put (keyOf path) content = (.error fault, after) ∧
        Refused vault after) ∨
      ∃ stored after, vault.put (keyOf path) content = (.ok stored, after) ∧
        Received vault after path content stored := by
  unfold put
  rcases Volume.put_cases sound.primary plain content with
    ⟨fault, first, failed, frame⟩ | ⟨first, done, frame, there⟩
  · have untouched := (frame_primary sound frame).mono (fun _ _ hit => hit.2)
    rw [failed]
    cases second : vault.secondary with
    | none => exact Or.inl ⟨fault, _, rfl, second ▸ untouched, rfl⟩
    | some other =>
        rcases Volume.put_cases (sound.secondary other second) plain content with
          ⟨fault', w, failed', frame'⟩ | ⟨w, done', frame', there'⟩
        · have more := frame_secondary untouched.sound second frame'
          simp only [failed']
          refine Or.inl ⟨fault', _, rfl, untouched.trans ?_, rfl⟩
          exact more.mono (fun _ _ hit => hit.2)
        · have more := frame_secondary untouched.sound second frame'
          simp only [done']
          refine Or.inr ⟨_, _, rfl, rfl, ⟨other, volume?_secondary second⟩, ?_, ?_, ?_, rfl⟩
          · rw [second]
            exact ⟨fun _ => rfl, fun _ => rfl⟩
          · simp only [readAt, volume?, frame'.name, if_true, Option.bind_some, there',
              Except.toOption]
          · exact (untouched.mono (fun _ _ impossible => impossible.elim)).trans more
  · have whole := frame_primary sound frame
    rw [done]
    refine Or.inr ⟨_, { vault with primary := first }, rfl, rfl, ⟨_, volume?_primary sound⟩, ?_, ?_,
      whole, rfl⟩
    · constructor
      · intro impossible
        cases impossible
      · intro isSecond
        obtain ⟨v, second, named⟩ := Option.map_eq_some_iff.1 isSecond
        exact absurd named (sound.distinct v second)
    · have found := volume?_primary whole.sound
      have named : first.name = vault.primary.name := frame.name
      simp only [named] at found
      simp only [readAt, found, Option.bind_some, there, Except.toOption]

/-- A removal changes nothing, or takes away the one file that the reference leads to. -/
theorem delete_cases {vault : Vault α} (sound : vault.Sound) (ref : String) :
    (vault.delete ref).2 = vault ∨
      ∃ v path, vault.location? ref = some (v.name, path) ∧ vault.volume? v.name = some v ∧
        vault.delete ref = (.ok true, vault.withVolume (v.withoutFile path)) := by
  unfold delete
  cases vault.locked with
  | true => exact Or.inl rfl
  | false =>
      simp only [Bool.false_eq_true, if_false]
      rcases volumeFor_cases sound ref with ⟨v, left, known, place⟩ | ⟨fault, left, -⟩
      · rw [left]
        rcases v.delete_cases ref with kept | ⟨path, located, removed⟩
        · refine Or.inl ?_
          simp only [kept]
          exact withVolume_self sound known
        · refine Or.inr ⟨v, path, ?_, known, ?_⟩
          · rw [place, located]
            rfl
          · simp only [removed]
      · rw [left]
        exact Or.inl rfl

theorem frame_delete {vault : Vault α} (sound : vault.Sound) (ref : String) :
    Frame (fun store path => vault.location? ref = some (store, path)) vault
      (vault.delete ref).2 := by
  rcases delete_cases sound ref with kept | ⟨v, path, place, known, removed⟩
  · rw [kept]
    exact Frame.refl sound
  · rw [removed]
    have whole := frame_withVolume sound known
      (Volume.frame_withoutFile (sound.volume known) path)
    refine whole.mono ?_
    rintro store other ⟨rfl, rfl⟩
    exact place

/-- A removal brings no file into being. -/
theorem fileAt_delete {vault : Vault α} (sound : vault.Sound) (ref store : String) (path : Path) :
    (vault.delete ref).2.fileAt store path = vault.fileAt store path ∨
      (vault.delete ref).2.fileAt store path = none := by
  rcases delete_cases sound ref with kept | ⟨v, gone, place, known, removed⟩
  · rw [kept]
    exact Or.inl rfl
  · have after := volume?_withVolume (w := v.withoutFile gone) known store
    rw [removed]
    simp only [fileAt, after]
    by_cases here : store = v.name
    · subst here
      have named : v.name = (v.withoutFile gone).name := rfl
      rw [known, if_pos named, Option.bind_some, Option.bind_some, Volume.file?_withoutFile]
      split
      · exact Or.inr rfl
      · exact Or.inl rfl
    · have different : store ≠ (v.withoutFile gone).name := here
      rw [if_neg different]
      exact Or.inl rfl

theorem locked_delete (vault : Vault α) (ref : String) :
    (vault.delete ref).2.locked = vault.locked := by
  unfold delete
  split
  · rfl
  · split
    · rfl
    · simp only [withVolume]
      split
      · split <;> rfl
      · rfl

/-- What a removal from a vault that is not locked comes to, by what is found at the place. -/
theorem delete_of_location? {vault : Vault α} (sound : vault.Sound) {ref : String} {v : Volume α}
    {path : Path} (unlocked : vault.locked = false) (known : vault.volume? v.name = some v)
    (place : vault.location? ref = some (v.name, path)) :
    vault.delete ref =
      match v.lookup path with
      | .ok _ => (.ok true, vault.withVolume (v.withoutFile path))
      | .error fault => (if fault.isMissing then .ok false else .error fault, vault) := by
  rcases volumeFor_cases sound ref with ⟨w, left, held, place'⟩ | ⟨fault, -, nowhere⟩
  · rw [place] at place'
    obtain ⟨located, found, same⟩ := Option.map_eq_some_iff.1 place'.symm
    obtain ⟨named, rfl⟩ := Prod.mk.inj same
    rw [named, known] at held
    cases held
    have here : v.locate ref = .ok located := by
      cases result : v.locate ref with
      | error fault =>
          rw [result] at found
          cases found
      | ok other =>
          rw [result] at found
          exact congrArg Except.ok (Option.some.inj found)
    simp only [delete, unlocked, Bool.false_eq_true, if_false, left, Volume.delete, here]
    cases v.lookup located with
    | ok content => rfl
    | error fault => exact congrArg (Prod.mk _) (withVolume_self sound known)
  · rw [place] at nowhere
    cases nowhere

theorem fileAt_withoutFile {vault : Vault α} {v : Volume α} (known : vault.volume? v.name = some v)
    (path : Path) : (vault.withVolume (v.withoutFile path)).fileAt v.name path = none := by
  have after := volume?_withVolume (w := v.withoutFile path) known v.name
  have named : v.name = (v.withoutFile path).name := rfl
  rw [fileAt, after, if_pos named, Option.bind_some, Volume.file?_withoutFile, if_pos rfl]

/-- From a vault that is not locked a file that can be read is removed. -/
theorem fileAt_delete_of_readAt {vault : Vault α} (sound : vault.Sound) {ref store : String}
    {path : Path} {content : α} (unlocked : vault.locked = false)
    (place : vault.location? ref = some (store, path))
    (there : vault.readAt store path = some content) :
    (vault.delete ref).2.fileAt store path = none := by
  obtain ⟨v, known, looked⟩ := Option.bind_eq_some_iff.1 there
  obtain ⟨rfl, -⟩ := volume?_cases known
  rw [delete_of_location? sound unlocked known place]
  cases result : v.lookup path with
  | error fault =>
      rw [result] at looked
      cases looked
  | ok inside =>
      exact fileAt_withoutFile known path

/-- The vault with its stores as full, and itself as locked, as given. -/
def limit (vault : Vault α) (primaryFull secondaryFull locked : Bool) : Vault α where
  primary := { vault.primary with full := primaryFull }
  secondary := vault.secondary.map fun v => { v with full := secondaryFull }
  locked := locked

theorem volume?_limit (vault : Vault α) (primaryFull secondaryFull locked : Bool) (store : String) :
    ∃ full, (vault.limit primaryFull secondaryFull locked).volume? store =
      (vault.volume? store).map fun v => { v with full } := by
  unfold limit volume?
  cases vault.secondary with
  | none =>
      refine ⟨primaryFull, ?_⟩
      simp only [Option.map_none]
      split <;> rfl
  | some second =>
      simp only [Option.map_some]
      by_cases ofSecond : store = second.name
      · exact ⟨secondaryFull, by simp only [ofSecond, if_true, Option.map_some]⟩
      · refine ⟨primaryFull, ?_⟩
        simp only [ofSecond, if_false]
        split <;> rfl

theorem frame_limit {vault : Vault α} (sound : vault.Sound)
    (primaryFull secondaryFull locked : Bool) :
    Frame (fun _ _ => False) vault (vault.limit primaryFull secondaryFull locked) := by
  refine ⟨⟨sound.primary.withFull primaryFull, ?_, ?_⟩, rfl, ?_, ?_, ?_, ?_⟩
  · intro v there
    obtain ⟨second, known, rfl⟩ := Option.map_eq_some_iff.1 there
    exact (sound.secondary second known).withFull secondaryFull
  · intro v there
    obtain ⟨second, known, rfl⟩ := Option.map_eq_some_iff.1 there
    exact sound.distinct second known
  · simp only [limit, Option.map_map]
    rfl
  · intro ref
    unfold location?
    congr 1
    funext r
    obtain ⟨full, known⟩ := volume?_limit vault primaryFull secondaryFull locked r.store
    rw [known]
    cases vault.volume? r.store <;> rfl
  · intro store path _
    obtain ⟨full, known⟩ := volume?_limit vault primaryFull secondaryFull locked store
    unfold fileAt
    rw [known]
    cases vault.volume? store <;> rfl
  · intro store path content _ there
    obtain ⟨full, known⟩ := volume?_limit vault primaryFull secondaryFull locked store
    unfold readAt at there ⊢
    rw [known]
    cases found : vault.volume? store with
    | none =>
        rw [found] at there
        cases there
    | some v =>
        rw [found] at there
        change (v.lookup path).toOption = some content at there
        change (Volume.lookup { v with full } path).toOption = some content
        cases looked : v.lookup path with
        | error fault =>
            rw [looked] at there
            cases there
        | ok inside =>
            rw [looked] at there
            rw [Volume.lookup_withFull full looked]
            exact there
end Vault
end Storage
end Issuance
