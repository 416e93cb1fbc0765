import Issuance.Proofs.Storage.Vaults
/-!
Listing the files below a folder, and which files can be reached and taken away.

A listing tells the files of both stores, each by the reference that its place spells. Taking a
file away leaves the listings of other folders as they are, and a place that could be reached can
still be reached.
-/

namespace Issuance

theorem Assoc.keys_erase {κ α : Type} [DecidableEq κ] (key : κ) (pairs : List (κ × α)) :
    (erase key pairs).map Prod.fst = (pairs.map Prod.fst).filter (· ≠ key) := by
  induction pairs with
  | nil => rfl
  | cons pair rest ih =>
      obtain ⟨k, v⟩ := pair
      rw [List.map_cons, erase]
      by_cases same : k = key
      · rw [if_pos same, ih, List.filter_cons_of_neg]
        rw [decide_eq_true_eq]
        exact fun different => different same
      · rw [if_neg same, List.map_cons, ih, List.filter_cons_of_pos]
        exact decide_eq_true same

namespace Storage

theorem resolve_folder {name : String} (plain : IsPlain name) (root : Path) :
    resolve root (name ++ "/") = .ok [name] := by
  have single : IsPlainPath [name] :=
    ⟨List.cons_ne_nil _ _, fun other member => List.mem_singleton.1 member ▸ plain⟩
  have spelled : keyOf [name] = name := String.intercalate_singleton
  have parts : components (name ++ "/") = components name ++ [""] := by
    have parted := components_append name ""
    rw [String.append_empty] at parted
    exact parted
  have begins : (name ++ "/").toList.head? = name.toList.head? := by
    obtain ⟨c, rest, filled⟩ := List.exists_cons_of_ne_nil
      (fun none => plain.nonempty (String.toList_eq_nil_iff.1 none))
    rw [String.toList_append, filled]
    rfl
  have same : destination root (name ++ "/") = destination root (keyOf [name]) := by
    rw [spelled]
    unfold destination
    rw [parts, begins, List.foldl_append]
    rfl
  have found := resolve_keyOf single root
  rw [resolve_eq_ok_iff] at found ⊢
  exact ⟨found.1, same.trans found.2⟩

namespace Volume

variable {α : Type} {v : Volume α}

/-- Nothing stands in the way to a place, nor does a folder stand there. -/
structure IsClear (v : Volume α) (path : Path) : Prop where
  unblocked : v.blocked = false
  way : v.obstacle? [] path.dropLast = none
  short : (path.getLast?.map isTooLong).getD false = false
  noFolder : v.isFolder path = false

theorem isClear_of_lookup {path : Path} {content : α} (found : v.lookup path = .ok content) :
    v.IsClear path := by
  obtain ⟨unblocked, way, short, noFolder, -⟩ := lookup_eq_ok_iff.1 found
  exact ⟨unblocked, way, short, noFolder⟩

theorem lookup_of_isClear {path : Path} (clear : v.IsClear path) {content : α}
    (there : v.file? path = some content) : v.lookup path = .ok content :=
  lookup_eq_ok_iff.2 ⟨clear.unblocked, clear.way, clear.short, clear.noFolder, there⟩

theorem lookup_of_isClear_of_none {path : Path} (clear : v.IsClear path)
    (absent : v.file? path = none) : v.lookup path = .error .missing := by
  simp only [lookup, clear.unblocked, clear.way, clear.short, clear.noFolder, absent,
    Bool.false_eq_true, if_false]

theorem IsClear.withoutFile {path : Path} (clear : v.IsClear path) (gone : Path) :
    (v.withoutFile gone).IsClear path where
  unblocked := clear.unblocked
  way := by
    refine obstacle?_mono (v := v) ?_ clear.way
    exact fun _ folder => folder
  short := clear.short
  noFolder := clear.noFolder

/-- Where nothing stands in a way, every place on it is a folder. -/
theorem isFolder_of_obstacle? {before rest middle : Path} (clear : v.obstacle? before rest = none)
    (within : middle <+: rest) (moves : middle ≠ []) : v.isFolder (before ++ middle) = true := by
  induction rest generalizing before middle with
  | nil => exact absurd (List.prefix_nil.1 within) moves
  | cons name rest ih =>
      obtain ⟨first, deeper, rfl⟩ := List.exists_cons_of_ne_nil moves
      obtain ⟨rfl, later⟩ := List.cons_prefix_cons.1 within
      simp only [obstacle?] at clear
      split at clear
      · cases clear
      · split at clear
        · next here =>
            cases deeper with
            | nil => exact here
            | cons next others =>
                have there := ih clear later (List.cons_ne_nil next others)
                rw [List.append_assoc] at there
                exact there
        · split at clear <;> cases clear

/-- The folders on the way to a place that can be reached are there. -/
theorem IsClear.isFolder {folder path : Path} (clear : v.IsClear path) (above : folder <+: path)
    (proper : folder ≠ path) : v.isFolder folder = true := by
  by_cases atRoot : folder = []
  · rw [atRoot]
    rfl
  · obtain ⟨rest, rfl⟩ := above
    have further : rest ≠ [] := by
      rintro rfl
      exact proper (List.append_nil folder).symm
    have way := clear.way
    rw [List.dropLast_append_of_ne_nil further] at way
    exact isFolder_of_obstacle? way (List.prefix_append folder rest.dropLast) atRoot

theorem mem_filesBelow {folder path : Path} :
    path ∈ v.filesBelow folder ↔
      v.blocked = false ∧ v.isFolder folder = true ∧ (v.file? path).isSome = true ∧
        folder <+: path ∧ folder ≠ path := by
  have below : (folder.isPrefixOf path && decide (folder.length < path.length)) = true ↔
      folder <+: path ∧ folder ≠ path := by
    rw [Bool.and_eq_true, List.isPrefixOf_iff_prefix, decide_eq_true_eq]
    constructor
    · rintro ⟨above, longer⟩
      refine ⟨above, ?_⟩
      rintro rfl
      exact Nat.lt_irrefl _ longer
    · rintro ⟨above, proper⟩
      exact ⟨above,
        Nat.lt_of_le_of_ne above.length_le fun same => proper (above.eq_of_length same)⟩
  unfold filesBelow
  cases blocked : v.blocked with
  | true => simp
  | false =>
      cases isThere : v.isFolder folder with
      | false => simp
      | true =>
          have kept : (false || !true) = false := rfl
          rw [kept, if_neg Bool.false_ne_true, List.mem_mergeSort, List.mem_filter, below, file?,
            Assoc.isSome_get?_iff]
          simp only [true_and]

/-- What lies strictly below a folder at the root. -/
theorem singleton_prefix_iff {name : String} {path : Path} :
    [name] <+: path ∧ [name] ≠ path ↔ ∃ next rest, path = name :: next :: rest := by
  constructor
  · rintro ⟨⟨rest, rfl⟩, proper⟩
    cases rest with
    | nil => exact absurd rfl proper
    | cons next others => exact ⟨next, others, rfl⟩
  · rintro ⟨next, rest, rfl⟩
    refine ⟨⟨next :: rest, rfl⟩, fun same => ?_⟩
    cases same

theorem filesBelow_withoutFile {name : String} {path : Path} (apart : path.head? ≠ some name) :
    (v.withoutFile path).filesBelow [name] = v.filesBelow [name] := by
  have inside : (((v.withoutFile path).files.map (·.1)).filter fun other =>
      [name].isPrefixOf other && decide ([name].length < other.length)) =
        (v.files.map (·.1)).filter fun other =>
          [name].isPrefixOf other && decide ([name].length < other.length) := by
    rw [withoutFile, Assoc.keys_erase, List.filter_filter]
    apply List.filter_congr
    intro other _
    by_cases same : other = path
    · -- the file that was taken away was not below the folder anyway
      have outside : [name].isPrefixOf path = false := by
        rw [← Bool.not_eq_true, List.isPrefixOf_iff_prefix]
        rintro ⟨rest, rfl⟩
        exact apart rfl
      simp only [same, outside, Bool.false_and]
    · simp only [ne_eq, same, not_false_eq_true, decide_true, Bool.and_true]
  unfold filesBelow
  rw [inside]
  rfl

end Volume

namespace Vault

variable {α : Type} {vault : Vault α}

def volumes (vault : Vault α) : List (Volume α) := vault.primary :: vault.secondary.toList

/-- The references to the files below a folder, as they are listed. -/
def refsBelow (vault : Vault α) (name : String) : List Reference :=
  vault.volumes.flatMap fun v => (v.filesBelow [name]).map fun path => ⟨v.name, keyOf path⟩

/-- Every file can be read where it is. -/
def IsReadable (vault : Vault α) : Prop :=
  ∀ store path content, vault.fileAt store path = some content →
    vault.readAt store path = some content

/-- Nothing stands in the way to a place of a store. -/
def IsClear (vault : Vault α) (store : String) (path : Path) : Prop :=
  ∃ v, vault.volume? store = some v ∧ v.IsClear path

theorem mem_volumes (sound : vault.Sound) {v : Volume α} :
    v ∈ vault.volumes ↔ vault.volume? v.name = some v := by
  unfold volumes
  rw [List.mem_cons, Option.mem_toList]
  constructor
  · rintro (rfl | second)
    · exact volume?_primary sound
    · exact volume?_secondary second
  · exact fun known => (volume?_cases known).2

theorem list_folder (vault : Vault α) {name : String} (plain : IsPlain name) :
    vault.list (name ++ "/") = .ok (vault.refsBelow name) := by
  have filled : (name ++ "/").isEmpty = false := by
    rw [String.isEmpty_eq_false_iff]
    intro empty
    have chars := congrArg String.toList empty
    rw [String.toList_append] at chars
    exact List.append_ne_nil_of_right_ne_nil _ (List.cons_ne_nil _ _) chars
  have ofVolume : ∀ v : Volume α, v.list (name ++ "/") =
      .ok ((v.filesBelow [name]).map fun path => ⟨v.name, keyOf path⟩) := by
    intro v
    simp only [Volume.list, filled, Bool.false_eq_true, if_false, resolve_folder plain, bind,
      Except.bind, pure, Except.pure]
  unfold list refsBelow volumes
  cases vault.secondary with
  | none =>
      simp only [ofVolume, bind, Except.bind, pure, Except.pure, Option.toList_none,
        List.flatMap_cons, List.flatMap_nil, List.append_nil]
  | some second =>
      simp only [ofVolume, bind, Except.bind, pure, Except.pure, Option.toList_some,
        List.flatMap_cons, List.flatMap_nil, List.append_nil]

/-- What is listed are the files below the folder, by the references that their places spell. -/
theorem mem_refsBelow (sound : vault.Sound) {name : String} {ref : Reference}
    (listed : ref ∈ vault.refsBelow name) :
    ∃ store next rest content, ref = ⟨store, keyOf (name :: next :: rest)⟩ ∧
      vault.location? ref.text = some (store, name :: next :: rest) ∧
      vault.fileAt store (name :: next :: rest) = some content := by
  obtain ⟨v, held, spelled⟩ := List.mem_flatMap.1 listed
  obtain ⟨path, inside, rfl⟩ := List.mem_map.1 spelled
  obtain ⟨-, -, filed, below⟩ := Volume.mem_filesBelow.1 inside
  obtain ⟨next, rest, rfl⟩ := Volume.singleton_prefix_iff.1 below
  obtain ⟨content, there⟩ := Option.isSome_iff_exists.1 filed
  have known := (mem_volumes sound).1 held
  have plain := (sound.volume known).filed _ content there
  refine ⟨v.name, next, rest, content, rfl, location?_text sound known plain, ?_⟩
  rw [fileAt, known]
  exact there

theorem refsBelow_of_readAt (sound : vault.Sound) {store name next : String} {rest : Path}
    {content : α} (there : vault.readAt store (name :: next :: rest) = some content) :
    ⟨store, keyOf (name :: next :: rest)⟩ ∈ vault.refsBelow name := by
  obtain ⟨v, known, looked⟩ := Option.bind_eq_some_iff.1 there
  obtain ⟨rfl, -⟩ := volume?_cases known
  cases found : v.lookup (name :: next :: rest) with
  | error fault =>
      rw [found] at looked
      cases looked
  | ok other =>
      have clear := Volume.isClear_of_lookup found
      refine List.mem_flatMap.2 ⟨v, (mem_volumes sound).2 known, List.mem_map_of_mem ?_⟩
      have below := (@Volume.singleton_prefix_iff name _).2 ⟨next, rest, rfl⟩
      refine Volume.mem_filesBelow.2
        ⟨clear.unblocked, clear.isFolder below.1 below.2, ?_, below⟩
      rw [Volume.file?_of_lookup found]
      rfl

theorem isClear_of_readAt {store : String} {path : Path} {content : α}
    (there : vault.readAt store path = some content) : vault.IsClear store path := by
  obtain ⟨v, known, looked⟩ := Option.bind_eq_some_iff.1 there
  cases found : v.lookup path with
  | error fault =>
      rw [found] at looked
      cases looked
  | ok other => exact ⟨v, known, Volume.isClear_of_lookup found⟩

theorem readAt_of_isClear {store : String} {path : Path} (clear : vault.IsClear store path)
    {content : α} (there : vault.fileAt store path = some content) :
    vault.readAt store path = some content := by
  obtain ⟨v, known, clear⟩ := clear
  rw [fileAt, known] at there
  rw [readAt, known, Option.bind_some, Volume.lookup_of_isClear clear there]
  rfl

/-- Whether every file can be read where it is can be checked file by file. -/
theorem isReadable_of_all (sound : vault.Sound)
    (all : (vault.volumes.all fun v => v.files.all fun file => (v.lookup file.1).isOk) = true) :
    vault.IsReadable := by
  intro store path content there
  obtain ⟨v, known, filed⟩ := Option.bind_eq_some_iff.1 there
  obtain ⟨rfl, -⟩ := volume?_cases known
  have listed : path ∈ v.files.map Prod.fst := by
    apply (Assoc.isSome_get?_iff path v.files).1
    exact Option.isSome_iff_exists.2 ⟨content, filed⟩
  obtain ⟨file, present, rfl⟩ := List.mem_map.1 listed
  have checked := List.all_eq_true.1 (List.all_eq_true.1 all v ((mem_volumes sound).2 known)) file
    present
  rw [readAt, known, Option.bind_some]
  cases found : v.lookup file.1 with
  | error fault =>
      rw [found] at checked
      cases checked
  | ok other => exact (Volume.file?_of_lookup found).symm.trans filed

theorem isClear_delete (sound : vault.Sound) (ref : String) {store : String} {path : Path}
    (clear : vault.IsClear store path) : (vault.delete ref).2.IsClear store path := by
  rcases delete_cases sound ref with kept | ⟨v, gone, -, known, removed⟩
  · rw [kept]
    exact clear
  · obtain ⟨w, held, clear⟩ := clear
    rw [removed]
    have after := volume?_withVolume (w := v.withoutFile gone) known store
    by_cases here : store = v.name
    · subst here
      rw [known] at held
      cases held
      exact ⟨v.withoutFile gone, after.trans (if_pos rfl), clear.withoutFile gone⟩
    · exact ⟨w, (after.trans (if_neg here)).trans held, clear⟩

theorem refsBelow_delete (sound : vault.Sound) {ref name : String}
    (apart : ∀ store path, vault.location? ref = some (store, path) → path.head? ≠ some name) :
    (vault.delete ref).2.refsBelow name = vault.refsBelow name := by
  rcases delete_cases sound ref with kept | ⟨v, gone, place, known, removed⟩
  · rw [kept]
  · have same := Volume.filesBelow_withoutFile (v := v) (apart v.name gone place)
    have named : (v.withoutFile gone).name = v.name := rfl
    rw [removed]
    rcases (volume?_cases known).2 with rfl | second
    · simp only [withVolume_primary sound named, refsBelow, volumes, List.flatMap_cons, same, named]
    · simp only [withVolume_secondary second named, refsBelow, volumes, second,
        Option.toList_some, List.flatMap_cons, List.flatMap_nil, same, named]

/-- A place that can be reached in a vault that is not locked can be emptied. -/
theorem delete_of_isClear (sound : vault.Sound) (unlocked : vault.locked = false) {ref store : String}
    {path : Path} (place : vault.location? ref = some (store, path))
    (clear : vault.IsClear store path) :
    (∃ removed, (vault.delete ref).1 = .ok removed) ∧
      (vault.delete ref).2.fileAt store path = none := by
  obtain ⟨v, known, clear⟩ := clear
  obtain ⟨rfl, -⟩ := volume?_cases known
  rw [delete_of_location? sound unlocked known place]
  cases there : v.file? path with
  | none =>
      rw [Volume.lookup_of_isClear_of_none clear there]
      refine ⟨⟨false, rfl⟩, ?_⟩
      rw [fileAt, known]
      exact there
  | some content =>
      rw [Volume.lookup_of_isClear clear there]
      exact ⟨⟨true, rfl⟩, fileAt_withoutFile known path⟩

end Vault
end Storage
end Issuance
