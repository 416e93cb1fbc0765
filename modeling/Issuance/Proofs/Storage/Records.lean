import Mathlib.Data.List.Nodup
import Issuance.Proofs.Storage.Listings
/-!
Any calls on one store, one after the other, and what the store says to the next one.

The record of the calls tells which files there are: a file is live at a path if it was put there
and was neither put anew nor taken away since. By `Mirrors`, which every call keeps, a store holds
just the live files and each of them can be reached, whatever folders were left behind.
-/

namespace Issuance

theorem Assoc.nodup_keys_put {κ α : Type} [DecidableEq κ] (key : κ) (value : α)
    {pairs : List (κ × α)} (apart : (pairs.map Prod.fst).Nodup) :
    ((put key value pairs).map Prod.fst).Nodup := by
  induction pairs with
  | nil => exact List.nodup_cons.2 ⟨List.not_mem_nil, List.nodup_nil⟩
  | cons pair rest ih =>
      obtain ⟨k, v⟩ := pair
      rw [List.map_cons, List.nodup_cons] at apart
      by_cases same : k = key
      · rw [put, if_pos same, List.map_cons, List.nodup_cons]
        exact apart
      · rw [put, if_neg same, List.map_cons, List.nodup_cons]
        refine ⟨?_, ih apart.2⟩
        rw [← isSome_get?_iff, get?_put, if_neg fun equal => same equal.symm, isSome_get?_iff]
        exact apart.1

namespace Storage

/-- A call on a store. -/
inductive Call (α : Type)
  | put (key : String) (content : α)
  | read (ref : String)
  | contains (ref : String)
  | delete (ref : String)
  | list (keyPrefix : String)

/-- A call on a store with its answer. -/
inductive Exchange (α : Type)
  | put (key : String) (content : α) (answer : Except IoFault StoredObject)
  | read (ref : String) (answer : Except IoFault α)
  | contains (ref : String) (answer : Bool)
  | delete (ref : String) (answer : Except IoFault Bool)
  | list (keyPrefix : String) (answer : Except IoFault (List Reference))

variable {α : Type} {name : String} {root : Path}

namespace Volume

def serve (v : Volume α) : Call α → Exchange α × Volume α
  | .put key content => (.put key content (v.put key content).1, (v.put key content).2)
  | .read ref => (.read ref (v.read ref), v)
  | .contains ref => (.contains ref (v.contains ref), v)
  | .delete ref => (.delete ref (v.delete ref).1, (v.delete ref).2)
  | .list keyPrefix => (.list keyPrefix (v.list keyPrefix), v)

/-- The record of the calls, and the store after them. -/
def serveAll (v : Volume α) : List (Call α) → List (Exchange α) × Volume α
  | [] => ([], v)
  | call :: calls =>
    let (exchange, next) := v.serve call
    let (record, last) := next.serveAll calls
    (exchange :: record, last)

end Volume

/-- A reference leads to a path in the store of a name and a root. -/
def Leads (name : String) (root : Path) (ref : String) (path : Path) : Prop :=
  ∃ key, Reference.ofText ref = .ok ⟨name, key⟩ ∧ resolve root key = .ok path

/-- A key prefix leads to a folder; the empty one to the root. -/
def LeadsToFolder (root : Path) (keyPrefix : String) (folder : Path) : Prop :=
  if keyPrefix.isEmpty then folder = [] else resolve root keyPrefix = .ok folder

/-- A key is in normal form: its components are the names on the way to its path. -/
def IsNormal (key : String) : Prop := IsPlainPath (components key)

theorem Leads.unique {ref : String} {path other : Path} (one : Leads name root ref path)
    (two : Leads name root ref other) : path = other := by
  obtain ⟨key, parsed, found⟩ := one
  obtain ⟨otherKey, otherParsed, otherFound⟩ := two
  cases Except.ok.inj (parsed.symm.trans otherParsed)
  exact Except.ok.inj (found.symm.trans otherFound)

theorem leads_text (named : IsStoreName name) {path : Path} (plain : IsPlainPath path) :
    Leads name root (Reference.text ⟨name, keyOf path⟩) path :=
  ⟨keyOf path, Reference.ofText_text named (keyOf_ne_empty plain), resolve_keyOf plain root⟩

namespace Exchange

/-- A content was put at a path. -/
inductive Puts (root path : Path) (content : α) : Exchange α → Prop
  | stored {key : String} {object : StoredObject} (leads : resolve root key = .ok path) :
      Puts root path content (.put key content (.ok object))

/-- The file at a path was taken away. -/
inductive Removes (name : String) (root path : Path) : Exchange α → Prop
  | removed {ref : String} (leads : Leads name root ref path) :
      Removes name root path (.delete ref (.ok true))

end Exchange

/-- A content was put at a path and has neither been replaced nor taken away since. -/
def IsLive (name : String) (root : Path) (record : List (Exchange α)) (path : Path) (content : α) :
    Prop :=
  ∃ before exchange after, record = before ++ exchange :: after ∧
    exchange.Puts root path content ∧
      ∀ later ∈ after, (∀ newer, ¬later.Puts root path newer) ∧ ¬later.Removes name root path

/-- The last exchange of a record settles a path, or leaves it as it was. -/
theorem isLive_concat_iff {record : List (Exchange α)} {exchange : Exchange α} {path : Path}
    {content : α} :
    IsLive name root (record ++ [exchange]) path content ↔
      exchange.Puts root path content ∨
        IsLive name root record path content ∧ (∀ newer, ¬exchange.Puts root path newer) ∧
          ¬exchange.Removes name root path := by
  constructor
  · rintro ⟨before, put, after, split, puts, kept⟩
    rcases List.eq_nil_or_concat after with rfl | ⟨earlier, last, rfl⟩
    · obtain ⟨-, same⟩ := List.append_inj' split rfl
      rw [(List.cons.inj same).1]
      exact Or.inl puts
    · rw [List.concat_eq_append] at split kept
      rw [← List.cons_append, ← List.append_assoc] at split
      obtain ⟨rfl, same⟩ := List.append_inj' split rfl
      have member : exchange ∈ earlier ++ [last] := by
        rw [(List.cons.inj same).1]
        exact List.mem_append_right _ List.mem_cons_self
      refine Or.inr ⟨⟨before, put, earlier, rfl, puts, ?_⟩, kept exchange member⟩
      exact fun later inside => kept later (List.mem_append_left _ inside)
  · rintro (puts | ⟨⟨before, put, after, rfl, puts, kept⟩, last⟩)
    · exact ⟨record, exchange, [], rfl, puts, fun _ none => nomatch none⟩
    · refine ⟨before, put, after ++ [exchange], ?_, puts, ?_⟩
      · rw [← List.cons_append, List.append_assoc]
      · intro later inside
        rcases List.mem_append.1 inside with earlier | here
        · exact kept later earlier
        · exact List.mem_singleton.1 here ▸ last

namespace Volume

theorem locate_eq_ok_iff {v : Volume α} {ref : String} {path : Path} :
    v.locate ref = .ok path ↔ Leads v.name v.root ref path := by
  unfold locate Leads
  cases parsed : Reference.ofText ref with
  | error fault => simp [bind, Except.bind]
  | ok r =>
      obtain ⟨store, key⟩ := r
      simp only [bind, Except.bind, Except.ok.injEq, Reference.mk.injEq]
      by_cases own : store = v.name
      · rw [if_pos own]
        constructor
        · exact fun found => ⟨key, ⟨own, rfl⟩, found⟩
        · rintro ⟨_, ⟨-, rfl⟩, found⟩
          exact found
      · rw [if_neg own]
        constructor
        · exact fun none => nomatch none
        · rintro ⟨_, ⟨same, -⟩, -⟩
          exact absurd same own

theorem read_eq_ok_iff {v : Volume α} {ref : String} {content : α} :
    v.read ref = .ok content ↔
      ∃ path, Leads v.name v.root ref path ∧ v.lookup path = .ok content := by
  simp only [← locate_eq_ok_iff]
  unfold read
  cases v.locate ref with
  | error fault => simp [bind, Except.bind]
  | ok path => simp [bind, Except.bind]

theorem contains_iff {v : Volume α} {ref : String} :
    v.contains ref = true ↔ ∃ content, v.read ref = .ok content := by
  rw [contains_eq_isOk_read]
  cases v.read ref <;> simp [Except.isOk, Except.toBool]

/-- A put leaves a store that has grown by folders at most, with the file in it if it succeeds. -/
theorem put_outcome (v : Volume α) (key : String) (content : α) :
    (∃ fault w, v.put key content = (.error fault, w) ∧ v.GrowsTo w) ∨
      ∃ path w, v.put key content = (.ok ⟨⟨v.name, key⟩, false⟩, w.withFile path content) ∧
        resolve v.root key = .ok path ∧ v.GrowsTo w ∧
          (w.withFile path content).lookup path = .ok content := by
  unfold put
  cases v.full with
  | true => exact Or.inl ⟨_, v, rfl, GrowsTo.refl v⟩
  | false =>
      cases found : resolve v.root key with
      | error fault => exact Or.inl ⟨fault, v, rfl, GrowsTo.refl v⟩
      | ok path =>
          simp only [Bool.false_eq_true, if_false]
          rcases write_cases v path content with
            ⟨fault, w, failed, grown⟩ | ⟨w, written, grown, there⟩
          · rw [failed]
            exact Or.inl ⟨fault, w, rfl, grown⟩
          · rw [written]
            refine Or.inr ⟨path, w, ?_, rfl, grown, there⟩
            simp only [Except.map, withFile, grown.name]

/-- A removal takes away a file that can be read, or changes nothing. -/
theorem delete_outcome (v : Volume α) (ref : String) :
    ((v.delete ref).1 ≠ .ok true ∧ (v.delete ref).2 = v ∧ ∀ content, v.read ref ≠ .ok content) ∨
      ∃ path content, Leads v.name v.root ref path ∧ v.lookup path = .ok content ∧
        v.delete ref = (.ok true, v.withoutFile path) := by
  unfold delete read
  cases located : v.locate ref with
  | error fault =>
      exact Or.inl ⟨Bool.false_ne_true ∘ Except.ok.inj, rfl, fun _ found => nomatch found⟩
  | ok path =>
      simp only [bind, Except.bind]
      cases found : v.lookup path with
      | ok content => exact Or.inr ⟨path, content, locate_eq_ok_iff.1 located, found, rfl⟩
      | error fault =>
          refine Or.inl ⟨?_, rfl, fun _ found => nomatch found⟩
          simp only
          split <;> simp

/-- A store holds the files that are live by a record, and each can be reached. -/
structure Mirrors (name : String) (root : Path) (record : List (Exchange α)) (v : Volume α) :
    Prop where
  named : v.name = name
  rooted : v.root = root
  plain : ∀ path content, v.file? path = some content → IsPlainPath path
  once : (v.files.map Prod.fst).Nodup
  reached : ∀ path content, v.file? path = some content → v.lookup path = .ok content
  live : ∀ path content, v.file? path = some content ↔ IsLive name root record path content

namespace Mirrors

variable {record : List (Exchange α)} {v w : Volume α}

theorem lookup_iff (mirrors : Mirrors name root record v) {path : Path} {content : α} :
    v.lookup path = .ok content ↔ IsLive name root record path content := by
  rw [← mirrors.live]
  exact ⟨file?_of_lookup, mirrors.reached path content⟩

theorem read_iff (mirrors : Mirrors name root record v) {ref : String} {content : α} :
    v.read ref = .ok content ↔
      ∃ path, Leads name root ref path ∧ IsLive name root record path content := by
  rw [read_eq_ok_iff, mirrors.named, mirrors.rooted]
  exact exists_congr fun path => and_congr_right fun _ => mirrors.lookup_iff

theorem empty (name : String) (root : Path) :
    Mirrors name root [] (empty name root : Volume α) where
  named := rfl
  rooted := rfl
  plain := fun _ _ none => nomatch none
  once := List.nodup_nil
  reached := fun _ _ none => nomatch none
  live := by
    intro path content
    constructor
    · exact fun none => nomatch none
    · rintro ⟨before, exchange, after, split, -⟩
      exact absurd split.symm (List.append_ne_nil_of_right_ne_nil _ (List.cons_ne_nil _ _))

/-- Folders that are made leave every file where it is. -/
theorem of_growsTo (mirrors : Mirrors name root record v) (grown : v.GrowsTo w) :
    Mirrors name root record w where
  named := grown.name.trans mirrors.named
  rooted := grown.root.trans mirrors.rooted
  plain := fun path content found =>
    mirrors.plain path content ((grown.file?_eq path).symm.trans found)
  once := grown.files ▸ mirrors.once
  reached := fun path content found =>
    grown.lookup (mirrors.reached path content ((grown.file?_eq path).symm.trans found))
  live := fun path content => by rw [grown.file?_eq, mirrors.live]

/-- An exchange that neither puts nor takes away adds nothing to the record. -/
theorem concat_idle (mirrors : Mirrors name root record v) {exchange : Exchange α}
    (noPut : ∀ path content, ¬exchange.Puts root path content)
    (noRemoval : ∀ path, ¬exchange.Removes name root path) :
    Mirrors name root (record ++ [exchange]) v where
  named := mirrors.named
  rooted := mirrors.rooted
  plain := mirrors.plain
  once := mirrors.once
  reached := mirrors.reached
  live := by
    intro path content
    rw [isLive_concat_iff, mirrors.live]
    constructor
    · exact fun live => Or.inr ⟨live, fun newer => noPut path newer, noRemoval path⟩
    · rintro (puts | ⟨live, -⟩)
      · exact absurd puts (noPut path content)
      · exact live

theorem concat_put (mirrors : Mirrors name root record v) {path : Path} {key : String} {content : α}
    {object : StoredObject} (leads : resolve root key = .ok path) (plain : IsPlainPath path)
    (there : (v.withFile path content).lookup path = .ok content) :
    Mirrors name root (record ++ [.put key content (.ok object)]) (v.withFile path content) where
  named := mirrors.named
  rooted := mirrors.rooted
  plain := by
    intro other found present
    rw [file?_withFile] at present
    split at present
    · next same => exact same ▸ plain
    · exact mirrors.plain other found present
  once := Assoc.nodup_keys_put path content mirrors.once
  reached := by
    intro other found present
    rw [file?_withFile] at present
    split at present
    · next same =>
        cases present
        exact same ▸ there
    · next different =>
        exact lookup_withFile_of_ne different (mirrors.reached other found present)
  live := by
    intro other found
    rw [isLive_concat_iff, file?_withFile]
    by_cases same : path = other
    · subst same
      rw [if_pos rfl]
      constructor
      · intro present
        cases present
        exact Or.inl (.stored leads)
      · rintro (puts | ⟨-, replaced, -⟩)
        · cases puts
          rfl
        · exact absurd (.stored leads) (replaced content)
    · rw [if_neg same, mirrors.live]
      have elsewhere : ∀ newer,
          ¬(Exchange.put key content (.ok object)).Puts root other newer := by
        rintro newer ⟨found⟩
        exact same (Except.ok.inj (leads.symm.trans found))
      constructor
      · exact fun live => Or.inr ⟨live, elsewhere, fun removes => nomatch removes⟩
      · rintro (puts | ⟨live, -⟩)
        · exact absurd puts (elsewhere found)
        · exact live

theorem concat_delete (mirrors : Mirrors name root record v) {path : Path} {ref : String}
    (leads : Leads name root ref path) :
    Mirrors name root (record ++ [.delete ref (.ok true)]) (v.withoutFile path) where
  named := mirrors.named
  rooted := mirrors.rooted
  plain := by
    intro other found present
    rw [file?_withoutFile] at present
    split at present
    · cases present
    · exact mirrors.plain other found present
  once := by
    rw [withoutFile, Assoc.keys_erase]
    exact mirrors.once.filter _
  reached := by
    intro other found present
    rw [file?_withoutFile] at present
    split at present
    · cases present
    · next different =>
        exact lookup_withoutFile_of_ne different (mirrors.reached other found present)
  live := by
    intro other found
    have noPut : ∀ newer, ¬(Exchange.delete ref (.ok true) : Exchange α).Puts root other newer := by
      intro newer puts
      cases puts
    rw [isLive_concat_iff, file?_withoutFile]
    by_cases same : path = other
    · subst same
      rw [if_pos rfl]
      constructor
      · intro none
        cases none
      · rintro (puts | ⟨-, -, kept⟩)
        · exact absurd puts (noPut found)
        · exact absurd (.removed leads) kept
    · rw [if_neg same, mirrors.live]
      constructor
      · intro live
        refine Or.inr ⟨live, noPut, ?_⟩
        rintro ⟨elsewhere⟩
        exact same (leads.unique elsewhere)
      · rintro (puts | ⟨live, -⟩)
        · exact absurd puts (noPut found)
        · exact live

/-- Every call is answered so that the record still tells what is there. -/
theorem serve (mirrors : Mirrors name root record v) (plainRoot : ∀ part ∈ root, IsPlain part)
    (call : Call α) :
    Mirrors name root (record ++ [(v.serve call).1]) (v.serve call).2 := by
  cases call with
  | put key content =>
      unfold Volume.serve
      rcases put_outcome v key content with
        ⟨fault, w, failed, grown⟩ | ⟨path, w, done, leads, grown, there⟩
      · simp only [failed]
        exact (mirrors.of_growsTo grown).concat_idle (fun _ _ puts => nomatch puts)
          (fun _ removes => nomatch removes)
      · simp only [done]
        rw [mirrors.rooted] at leads
        exact (mirrors.of_growsTo grown).concat_put leads
          (isPlainPath_of_resolve plainRoot leads) there
  | read ref =>
      exact mirrors.concat_idle (fun _ _ puts => nomatch puts) (fun _ removes => nomatch removes)
  | contains ref =>
      exact mirrors.concat_idle (fun _ _ puts => nomatch puts) (fun _ removes => nomatch removes)
  | delete ref =>
      unfold Volume.serve
      rcases delete_outcome v ref with ⟨refused, kept, -⟩ | ⟨path, content, leads, -, done⟩
      · simp only [kept]
        refine mirrors.concat_idle (fun _ _ puts => nomatch puts) ?_
        intro path removes
        generalize (v.delete ref).1 = answer at refused removes
        cases removes
        exact refused rfl
      · simp only [done]
        rw [mirrors.named, mirrors.rooted] at leads
        exact mirrors.concat_delete leads
  | list keyPrefix =>
      exact mirrors.concat_idle (fun _ _ puts => nomatch puts) (fun _ removes => nomatch removes)

theorem serveAll (mirrors : Mirrors name root record v) (plainRoot : ∀ part ∈ root, IsPlain part)
    (calls : List (Call α)) :
    Mirrors name root (record ++ (v.serveAll calls).1) (v.serveAll calls).2 := by
  induction calls generalizing record v with
  | nil =>
      rw [Volume.serveAll, List.append_nil]
      exact mirrors
  | cons call calls ih =>
      have onward := ih (mirrors.serve plainRoot call)
      rw [List.append_assoc] at onward
      exact onward

theorem mem_filesBelow_iff (mirrors : Mirrors name root record v) {folder path : Path} :
    path ∈ v.filesBelow folder ↔
      folder <+: path ∧ folder ≠ path ∧ ∃ content, IsLive name root record path content := by
  rw [mem_filesBelow]
  constructor
  · rintro ⟨-, -, filed, above, proper⟩
    obtain ⟨content, there⟩ := Option.isSome_iff_exists.1 filed
    exact ⟨above, proper, content, (mirrors.live path content).1 there⟩
  · rintro ⟨above, proper, content, live⟩
    have there := (mirrors.live path content).2 live
    have clear := isClear_of_lookup (mirrors.reached path content there)
    exact ⟨clear.unblocked, clear.isFolder above proper,
      Option.isSome_iff_exists.2 ⟨content, there⟩, above, proper⟩

/-- No two files below a folder are listed by one text. -/
theorem nodup_refs (mirrors : Mirrors name root record v) (folder : Path) :
    (((v.filesBelow folder).map fun path => (⟨name, keyOf path⟩ : Reference)).map
      Reference.text).Nodup := by
  have once : (v.filesBelow folder).Nodup := by
    unfold filesBelow
    split
    · exact List.nodup_nil
    · exact (List.mergeSort_perm _ _).nodup_iff.2 (mirrors.once.filter _)
  rw [List.map_map]
  refine once.map_on ?_
  intro path inside other otherInside same
  have plain : ∀ p ∈ v.filesBelow folder, IsPlainPath p := by
    intro p member
    obtain ⟨-, -, content, live⟩ := mirrors.mem_filesBelow_iff.1 member
    exact mirrors.plain p content ((mirrors.live p content).2 live)
  refine keyOf_injective (plain path inside) (plain other otherInside) ?_
  exact (String.append_right_inj _).1 same

end Mirrors

theorem list_of_leadsToFolder {v : Volume α} {keyPrefix : String} {folder : Path}
    (leads : LeadsToFolder v.root keyPrefix folder) :
    v.list keyPrefix = .ok ((v.filesBelow folder).map fun path => ⟨v.name, keyOf path⟩) := by
  unfold LeadsToFolder at leads
  unfold list
  split at leads
  · next none =>
      rw [if_pos none, leads]
      rfl
  · next some =>
      rw [if_neg some, leads]
      rfl

theorem delete_eq_ok_true_iff {v : Volume α} {ref : String} :
    (v.delete ref).1 = .ok true ↔ ∃ content, v.read ref = .ok content := by
  rcases delete_outcome v ref with ⟨refused, -, unread⟩ | ⟨path, content, leads, there, done⟩
  · constructor
    · exact fun done => absurd done refused
    · exact fun ⟨content, found⟩ => absurd found (unread content)
  · rw [done]
    exact ⟨fun _ => ⟨content, read_eq_ok_iff.2 ⟨path, leads, there⟩⟩, fun _ => rfl⟩

/-- Taking a file away takes it from every reference that leads to it, and from no other. -/
theorem Mirrors.read_delete_iff (mirrors : Mirrors name root record v) {ref other : String}
    {path : Path} {content : α} (leads : Leads name root other path) :
    (v.delete ref).2.read other = .ok content ↔
      v.read other = .ok content ∧ ¬Leads name root ref path := by
  rcases delete_outcome v ref with ⟨-, kept, unread⟩ | ⟨gone, -, leadsToGone, there, done⟩
  · rw [kept]
    constructor
    · intro found
      refine ⟨found, fun same => unread content ?_⟩
      obtain ⟨place, leadsToPlace, live⟩ := mirrors.read_iff.1 found
      rw [leadsToPlace.unique leads] at live
      exact mirrors.read_iff.2 ⟨path, same, live⟩
    · exact And.left
  · rw [mirrors.named, mirrors.rooted] at leadsToGone
    have after := mirrors.concat_delete leadsToGone
    rw [done, after.read_iff, mirrors.read_iff]
    constructor
    · rintro ⟨place, leadsToPlace, live⟩
      cases leadsToPlace.unique leads
      rcases isLive_concat_iff.1 live with puts | ⟨live, -, stays⟩
      · cases puts
      · exact ⟨⟨path, leads, live⟩, fun same => stays (.removed same)⟩
    · rintro ⟨⟨place, leadsToPlace, live⟩, different⟩
      cases leadsToPlace.unique leads
      have stays : ¬(Exchange.delete ref (.ok true) : Exchange α).Removes name root path := by
        rintro ⟨same⟩
        exact different same
      refine ⟨path, leads, isLive_concat_iff.2 (Or.inr ⟨live, ?_, stays⟩)⟩
      intro newer puts
      cases puts

theorem name_serve (v : Volume α) (call : Call α) : (v.serve call).2.name = v.name := by
  cases call with
  | put key content =>
      unfold serve
      rcases put_outcome v key content with
        ⟨fault, w, failed, grown⟩ | ⟨path, w, done, -, grown, -⟩
      · simp only [failed, grown.name]
      · simp only [done]
        exact grown.name
  | read ref => rfl
  | contains ref => rfl
  | delete ref =>
      unfold serve
      rcases delete_outcome v ref with ⟨-, kept, -⟩ | ⟨path, content, -, -, done⟩
      · simp only [kept]
      · simp only [done]
        rfl
  | list keyPrefix => rfl

/-- Every put that succeeds gives the reference that its key spells. -/
theorem object_of_mem_serveAll {v : Volume α} {calls : List (Call α)} {key : String} {content : α}
    {object : StoredObject} (member : .put key content (.ok object) ∈ (v.serveAll calls).1) :
    object = ⟨⟨v.name, key⟩, false⟩ := by
  induction calls generalizing v with
  | nil => cases member
  | cons call calls ih =>
      rcases List.mem_cons.1 member with here | later
      · cases call with
        | put newKey newContent =>
            obtain ⟨rfl, rfl, answer⟩ := Exchange.put.inj here
            rcases put_outcome v key content with ⟨fault, w, failed, -⟩ | ⟨path, w, done, -⟩
            · rw [failed] at answer
              cases answer
            · rw [done] at answer
              exact Except.ok.inj answer
        | _ => cases here
      · rw [← name_serve v call]
        exact ih later

/-- After any calls on a store that was empty, what it says to the next one follows from the record
of the calls. A read gives the content that is live at the path of the reference, and fails if none
is. A removal succeeds just where a read would, and then no other path loses its file. A listing has
every live path below its folder, once, by a reference that leads back to the file, and this is the
one that a put gave if its key was in normal form. -/
theorem serveAll_answers {name : String} {root : Path} (plainRoot : ∀ part ∈ root, IsPlain part)
    {calls : List (Call α)} {record : List (Exchange α)} {v : Volume α}
    (served : (Volume.empty name root).serveAll calls = (record, v)) :
    (∀ ref content, v.read ref = .ok content ↔
        ∃ path, Leads name root ref path ∧ IsLive name root record path content) ∧
      (∀ ref, v.contains ref = true ↔ ∃ content, v.read ref = .ok content) ∧
      (∀ ref, (v.delete ref).1 = .ok true ↔ ∃ content, v.read ref = .ok content) ∧
      (∀ ref other path content, Leads name root other path →
        ((v.delete ref).2.read other = .ok content ↔
          v.read other = .ok content ∧ ¬Leads name root ref path)) ∧
      (∀ keyPrefix folder, LeadsToFolder root keyPrefix folder → ∃ refs,
        v.list keyPrefix = .ok refs ∧ (refs.map Reference.text).Nodup ∧
          ∀ ref, ref ∈ refs ↔ ∃ path, ref = ⟨name, keyOf path⟩ ∧ folder <+: path ∧
            folder ≠ path ∧ ∃ content, IsLive name root record path content) ∧
      (IsStoreName name → ∀ path content, IsLive name root record path content →
        v.read (Reference.text ⟨name, keyOf path⟩) = .ok content) ∧
      ∀ key content object, IsNormal key → .put key content (.ok object) ∈ record →
        resolve root key = .ok (components key) ∧ object.ref = ⟨name, keyOf (components key)⟩ := by
  have mirrors : Mirrors name root record v := by
    have kept := (Mirrors.empty name root).serveAll plainRoot calls
    rw [served] at kept
    exact kept
  refine ⟨fun ref content => mirrors.read_iff, fun ref => contains_iff, ?_, ?_, ?_, ?_, ?_⟩
  · exact fun ref => delete_eq_ok_true_iff
  · exact fun ref other path content leads => mirrors.read_delete_iff leads
  · intro keyPrefix folder leads
    have listed := list_of_leadsToFolder (mirrors.rooted.symm ▸ leads)
    rw [mirrors.named] at listed
    refine ⟨_, listed, mirrors.nodup_refs folder, fun ref => ?_⟩
    rw [List.mem_map]
    refine exists_congr fun path => ?_
    rw [mirrors.mem_filesBelow_iff]
    exact ⟨fun ⟨inside, same⟩ => ⟨same.symm, inside⟩, fun ⟨same, inside⟩ => ⟨inside, same.symm⟩⟩
  · intro storeName path content live
    have plain := mirrors.plain path content ((mirrors.live path content).2 live)
    exact mirrors.read_iff.2 ⟨path, leads_text storeName plain, live⟩
  · intro key content object normal member
    have found := resolve_keyOf normal root
    rw [keyOf_components] at found ⊢
    have first : ((empty name root).serveAll calls).1 = record := congrArg Prod.fst served
    rw [← first] at member
    refine ⟨found, ?_⟩
    rw [object_of_mem_serveAll member]
    rfl

/-- A certificate is put anew by another spelling of its key, a file stands in the way of a folder, a
logo comes and goes, and the folder that it leaves stands in the way of a file. -/
def spelledCalls : List (Call String) :=
  [.put "certs/ada.pdf" "first", .put "certs//x/../ada.pdf" "second",
    .put "certs/ada.pdf/copy" "lost", .put "logos/club.png" "logo",
    .delete "primary:./logos/club.png", .put "logos" "lost", .put "../certs/ada.pdf" "lost"]

theorem spelledCalls_answers :
    ∃ record v, (Volume.empty "primary" ["srv"]).serveAll spelledCalls = (record, v) ∧
      IsLive "primary" ["srv"] record ["certs", "ada.pdf"] "second" ∧
      (v.delete "primary:/srv/certs/ada.pdf").1 = .ok true ∧
      (∀ content, v.read "primary:logos/club.png" ≠ .ok content) ∧
      ∃ refs, v.list "certs/." = .ok refs ∧ (refs.map Reference.text).Nodup ∧
        ⟨"primary", "certs/ada.pdf"⟩ ∈ refs := by
  have plainRoot : ∀ part ∈ ["srv"], IsPlain part := by
    intro part member
    rw [List.mem_singleton.1 member]
    exact ⟨by decide, by decide, by decide, by decide⟩
  obtain ⟨reads, holds, removes, -, lists, -, -⟩ :=
    @serveAll_answers String "primary" ["srv"] plainRoot spelledCalls _ _ rfl
  refine ⟨_, _, rfl, ?_⟩
  have leads : Leads "primary" ["srv"] "primary:certs/ada.pdf" ["certs", "ada.pdf"] :=
    ⟨"certs/ada.pdf", by decide +kernel, by decide +kernel⟩
  have live : IsLive "primary" ["srv"] ((Volume.empty "primary" ["srv"]).serveAll spelledCalls).1
      ["certs", "ada.pdf"] "second" := by
    obtain ⟨path, found, live⟩ := (reads "primary:certs/ada.pdf" "second").1 (by decide +kernel)
    exact found.unique leads ▸ live
  have opens : LeadsToFolder ["srv"] "certs/." ["certs"] := by
    unfold LeadsToFolder
    decide +kernel
  obtain ⟨refs, listed, once, members⟩ := lists "certs/." ["certs"] opens
  refine ⟨live, (removes _).2 ⟨"second", by decide +kernel⟩, ?_, refs, listed, once, ?_⟩
  · intro content found
    exact absurd ((holds "primary:logos/club.png").2 ⟨content, found⟩) (by decide +kernel)
  · refine (members _).2 ⟨["certs", "ada.pdf"], ?_, by decide, by decide, "second", live⟩
    decide +kernel

end Volume
end Storage
end Issuance
