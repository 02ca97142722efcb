import RubricScore.FileTree.Access
import RubricScore.Proofs.FileTree.Resolution
import RubricScore.Proofs.Text.Parts
import RubricScore.Proofs.Text.Utf8

/-!
# Reading and writing files

Reading takes the text of the file that a path stands for. To write a file, a path is followed to the
place that is written to, through links if need be. A file stands there
already, or the place is free in a directory. The file that is put there is all that changes, and
the path then stands for it, since everything on its way is as before.

## Main definitions

* `Place.location`: the place to which a path leads, taken or free;
* `FileTree.Extends`: a tree has all that another one has, apart from the contents of files;
* `FileTree.Rewrites`: two trees differ in the one file that a path stands for;
* `FileTree.Writable`: a file can be written under a path.

## Main results

* `FileTree.isEnd_of_walk`: where a path that is to be written to ends;
* `FileTree.walk_of_extends`: in a tree with a file there, the path leads to it;
* `FileTree.rewrites_of_write`: writing changes one file;
* `FileTree.isOk_write_iff`: writing succeeds just where a file can be written;
* `FileTree.readText_eq_ok_iff`: reading gives the text of one file.
-/

namespace RubricScore

/-- The place to which a path leads. -/
def Place.location : Place → Location
  | .taken location => location
  | .vacant parent name => .child name parent

/-! ## Steps -/

namespace Path

/-- No step of a path holds a slash. -/
theorem slash_not_mem {path : Path} {step : List Char} (h : step ∈ path.steps) : '/' ∉ step := by
  rw [steps, List.mem_append] at h
  rcases h with hpart | hlast
  · exact not_mem_of_mem_splitOn (List.mem_filter.1 hpart).1
  · split at hlast
    · rw [List.mem_singleton.1 hlast]
      exact List.not_mem_nil
    · exact absurd hlast List.not_mem_nil

/-- Every path has a step: if no part of it is a name, then the last one is empty. -/
theorem steps_ne_nil (path : Path) : path.steps ≠ [] := by
  intro hnil
  obtain ⟨hparts, hlast⟩ := List.append_eq_nil_iff.1 hnil
  have hne : path.parts ≠ [] := List.splitOn_ne_nil _ _
  have hempty : path.parts.getLast hne = [] := by
    simpa using List.filter_eq_nil_iff.1 hparts _ (List.getLast_mem hne)
  rw [List.getLast?_eq_getLast_of_ne_nil hne, hempty, if_pos rfl] at hlast
  exact List.cons_ne_nil _ _ hlast

end Path

namespace FileTree

variable {before after tree : FileTree}

/-- The name of a step may stand in a directory. -/
theorem IsNameStep.isFileName {step : List Char} (h : IsNameStep step) (hslash : '/' ∉ step) :
    IsFileName (String.ofList step) := by
  obtain ⟨hempty, hdot, hdots, -⟩ := h
  refine ⟨fun heq => hempty ?_, fun heq => hdot ?_, fun heq => hdots ?_, ?_⟩
  · exact String.ofList_eq_empty_iff.1 heq
  · simpa using congrArg String.toList heq
  · simpa using congrArg String.toList heq
  · rwa [String.toList_ofList]

/-- The parent of a directory is a directory; that of the root is the root. -/
theorem entry?_parent_of_directory {here : Location} (h : tree.entry? here = some .directory) :
    tree.entry? here.parent = some .directory := by
  cases here with
  | root => exact h
  | child name parent => exact entry?_parent h

/-! ## Where a path ends -/

/-- A path that is to be written to ends at something that is no link, or at a free name in a
directory. -/
def IsEnd (tree : FileTree) : Place → Prop
  | .taken location =>
    ∃ entry, tree.entry? location = some entry ∧ ∀ target, entry ≠ .link target
  | .vacant parent name =>
    tree.entry? parent = some .directory ∧ IsFileName name
      ∧ tree.entry? (.child name parent) = none

theorem isEnd_of_directory {here : Location} (h : tree.entry? here = some .directory) :
    tree.IsEnd (.taken here) :=
  ⟨.directory, h, nofun⟩

/-- A file may be put where a path ends, unless a directory is there. -/
theorem IsEnd.accepts {place : Place} {parent : Location} {name : String} (h : tree.IsEnd place)
    (hplace : place.location = .child name parent)
    (hdirectory : tree.entry? (.child name parent) ≠ some .directory) (bytes : List UInt8) :
    tree.Accepts parent name (.file bytes) := by
  obtain ⟨hparent, hname⟩ : DirectoryAt tree.entries parent ∧ IsFileName name := by
    cases place with
    | taken location =>
      obtain rfl : location = .child name parent := hplace
      obtain ⟨entry, hentry, -⟩ := h
      have hin := mem_names_of_eq_some hentry
      exact ⟨(tree.sheltered _ hin).2, tree.named _ hin name rfl⟩
    | vacant =>
      obtain ⟨rfl, rfl⟩ := Location.child.inj hplace
      exact ⟨directoryAt_iff.2 h.1, h.2.1⟩
  exact ⟨hparent, hname, fun h => absurd h hdirectory⟩

/-- Where a path ends there is a file, a directory or nothing. -/
theorem IsEnd.eq_file {place : Place} {entry : Entry} (h : tree.IsEnd place)
    (hdirectory : tree.entry? place.location ≠ some .directory)
    (hentry : tree.entry? place.location = some entry) : ∃ bytes, entry = .file bytes := by
  cases entry with
  | file bytes => exact ⟨bytes, rfl⟩
  | directory => exact absurd hentry hdirectory
  | link target =>
    cases place with
    | taken location =>
      obtain ⟨other, hother, hlink⟩ := h
      exact absurd (Option.some.inj (hother.symm.trans hentry)) (hlink target)
    | vacant parent name => exact absurd (h.2.2.symm.trans hentry) nofun

/-- Where a path ends. Without steps it stays where it starts. -/
theorem isEnd_of_walk {limit : Nat} {here : Location} {steps : List (List Char)} {place : Place}
    (hslash : ∀ step ∈ steps, '/' ∉ step) (hhere : steps = [] → tree.IsEnd (.taken here))
    (h : tree.walk .create limit here steps = .ok place) : tree.IsEnd place := by
  -- Where a step leads on, there is a directory or no link, so the steps may end there.
  fun_induction walk tree .create limit here steps with
  | case1 limit here =>
    obtain rfl := Except.ok.inj h
    exact hhere rfl
  | case3 limit here step rest hdirectory _ ih =>
    have hrest := (List.forall_mem_cons.1 hslash).2
    exact ih hrest (fun _ => isEnd_of_directory (entry?_of_hasDirectory hdirectory)) h
  | case4 limit here rest hdirectory _ ih =>
    have hrest := (List.forall_mem_cons.1 hslash).2
    have hparent := entry?_parent_of_directory (entry?_of_hasDirectory hdirectory)
    exact ih hrest (fun _ => isEnd_of_directory hparent) h
  | case7 limit here step hdirectory hstay hleave hlength name next hentry hcreate =>
    obtain rfl := Except.ok.inj h
    have hstep := isNameStep_of_not hstay hleave hlength
    exact ⟨entry?_of_hasDirectory hdirectory,
      hstep.isFileName (hslash step List.mem_cons_self), hentry⟩
  | case10 here step rest hdirectory hstay hleave _ hlength name next target hentry limit ih =>
    -- The target of a link has steps of its own.
    refine ih ?_ (fun hnil => absurd (List.append_eq_nil_iff.1 hnil).1 target.steps_ne_nil) h
    rw [List.forall_mem_append]
    exact ⟨fun step => Path.slash_not_mem, (List.forall_mem_cons.1 hslash).2⟩
  | case11 limit here step rest hdirectory hstay hleave _ hlength name next entry hlink hentry ih =>
    have hrest := (List.forall_mem_cons.1 hslash).2
    exact ih hrest (fun _ => ⟨entry, hentry, hlink⟩) h
  | case2 | case5 | case6 | case8 | case9 => cases h

/-! ## Trees with more in them -/

/-- Whatever stands in the first tree stands in the other one, too, apart from the contents of
files. -/
def Extends (before after : FileTree) : Prop :=
  ∀ location entry, before.entry? location = some entry →
    after.entry? location = some entry
      ∨ ∃ old new, entry = .file old ∧ after.entry? location = some (.file new)

namespace Extends

variable {location here : Location}

theorem refl (tree : FileTree) : Extends tree tree :=
  fun _ _ hentry => .inl hentry

theorem trans {middle : FileTree} (h : Extends before middle) (h' : Extends middle after) :
    Extends before after := by
  intro location entry hentry
  rcases h location entry hentry with hsame | ⟨old, new, rfl, hnew⟩
  · exact h' location entry hsame
  · -- A file stays one, whatever it holds.
    rcases h' location _ hnew with hsame | ⟨_, newer, _, hnewer⟩
    · exact .inr ⟨old, new, rfl, hsame⟩
    · exact .inr ⟨old, newer, rfl, hnewer⟩

/-- There is more in a tree that differs in one file only. -/
theorem of_frame {place : Location} {bytes : List UInt8}
    (hreplaced : ∀ entry, before.entry? place = some entry → ∃ old, entry = .file old)
    (hcontent : after.entry? place = some (.file bytes))
    (hframe : ∀ other, other ≠ place → after.entry? other = before.entry? other) :
    Extends before after := by
  intro location entry hbefore
  by_cases heq : location = place
  · subst heq
    obtain ⟨old, hold⟩ := hreplaced entry hbefore
    exact .inr ⟨old, bytes, hold, hcontent⟩
  · left
    rw [hframe location heq, hbefore]

theorem directory (h : Extends before after) (hentry : before.entry? location = some .directory) :
    after.entry? location = some .directory := by
  rcases h location _ hentry with hsame | ⟨old, new, heq, -⟩
  · exact hsame
  · cases heq

theorem link (h : Extends before after) {target : Path}
    (hentry : before.entry? location = some (.link target)) :
    after.entry? location = some (.link target) := by
  rcases h location _ hentry with hsame | ⟨old, new, heq, -⟩
  · exact hsame
  · cases heq

/-- What is no link does not become one. -/
theorem of_ne_link (h : Extends before after) {entry : Entry}
    (hentry : before.entry? location = some entry) (hlink : ∀ target, entry ≠ .link target) :
    ∃ kept, after.entry? location = some kept ∧ ∀ target, kept ≠ .link target := by
  rcases h location entry hentry with hsame | ⟨old, new, -, hnew⟩
  · exact ⟨entry, hsame, hlink⟩
  · exact ⟨.file new, hnew, nofun⟩

/-- A path that leads somewhere still leads there when there is more in the tree. -/
theorem leads (h : Extends before after) {links : Nat} {there : Location}
    {steps : List (List Char)} (hleads : before.Leads links here steps there) :
    after.Leads links here steps there := by
  induction hleads with
  | done here => exact .done here
  -- A rule asks for directories and links that are there, and these stay.
  | stay hhere hstep _ ih => exact .stay (h.directory hhere) hstep ih
  | leave hhere _ ih => exact .leave (h.directory hhere) ih
  | enter hhere hstep hentry hlink _ ih =>
    obtain ⟨kept, hkept, hlink⟩ := h.of_ne_link hentry hlink
    exact .enter (h.directory hhere) hstep hkept hlink ih
  | follow hhere hstep hentry _ ih => exact .follow (h.directory hhere) hstep (h.link hentry) ih

theorem resolves (h : Extends before after) {base there : Location} {path : Path}
    (hresolves : before.Resolves base path there) : after.Resolves base path there := by
  obtain ⟨hnul, hempty, hsize, links, hlinks, hleads⟩ := hresolves
  exact ⟨hnul, hempty, hsize, links, hlinks, h.leads hleads⟩

/-- What there is under a path does not go away. -/
theorem hasPath (h : Extends before after) {base : Location} {path : Path}
    (hpath : before.hasPath base path) : after.hasPath base path := by
  obtain ⟨entry, there, hresolves, hentry⟩ := hasPath_iff.1 hpath
  refine hasPath_iff.2 ?_
  rcases h there entry hentry with hsame | ⟨-, new, -, hnew⟩
  · exact ⟨entry, there, h.resolves hresolves, hsame⟩
  · exact ⟨.file new, there, h.resolves hresolves, hnew⟩

end Extends

/-- In a tree that has a file where the path to be written to ends, the path leads to this file. -/
theorem walk_of_extends (h : Extends before after) {limit : Nat} {here : Location}
    {steps : List (List Char)} {place : Place}
    (hfile : ∃ bytes, after.entry? place.location = some (.file bytes))
    (hwalk : before.walk .create limit here steps = .ok place) :
    after.walk .create limit here steps = .ok (.taken place.location) := by
  -- Directories and links are the same in both trees, so the two walks take the same turns.
  fun_induction walk before .create limit here steps with
  | case1 limit here =>
    obtain rfl := Except.ok.inj hwalk
    rw [walk]
    rfl
  | case3 limit here step rest hdirectory hstay ih =>
    rw [walk_stay (h.directory (entry?_of_hasDirectory hdirectory)) hstay]
    exact ih hwalk
  | case4 limit here rest hdirectory _ ih =>
    rw [walk_leave (h.directory (entry?_of_hasDirectory hdirectory))]
    exact ih hwalk
  | case7 limit here step hdirectory hstay hleave hlength name next hentry hcreate =>
    -- The name that was free is now that of the file.
    obtain rfl := Except.ok.inj hwalk
    obtain ⟨bytes, hbytes⟩ := hfile
    rw [walk_name hcreate (h.directory (entry?_of_hasDirectory hdirectory))
      (isNameStep_of_not hstay hleave hlength) hbytes]
    dsimp only
    rw [walk]
    rfl
  | case10 here step rest hdirectory hstay hleave hcreate hlength name next target hentry limit ih =>
    rw [walk_name hcreate (h.directory (entry?_of_hasDirectory hdirectory))
      (isNameStep_of_not hstay hleave hlength) (h.link hentry)]
    exact ih hwalk
  | case11 limit here step rest hdirectory hstay hleave hcreate hlength name next entry hlink hentry
      ih =>
    obtain ⟨kept, hkept, hlink⟩ := h.of_ne_link hentry hlink
    rw [walk_name hcreate (h.directory (entry?_of_hasDirectory hdirectory))
      (isNameStep_of_not hstay hleave hlength) hkept]
    cases kept with
    | link target => exact absurd rfl (hlink target)
    | file bytes => exact ih hwalk
    | directory => exact ih hwalk
  | case2 | case5 | case6 | case8 | case9 => cases hwalk

/-! ## Putting a file -/

/-- An entry that is put into a tree is all that changes. -/
theorem entry?_put {parent : Location} {name : String} {entry : Entry}
    (h : tree.Accepts parent name entry) (location : Location) :
    FileTree.entry? (tree.put parent name entry) location
      = if location = .child name parent then some entry else tree.entry? location := by
  rw [put, dif_pos h]
  cases location with
  | root => rfl
  | child => exact OrderedMap.get?_insert

/-! ## Writing -/

/-- Two trees differ in one file only, and this is the file that a path stands for. -/
structure Rewrites (before after : FileTree) (base : Location) (path : Path) (bytes : List UInt8)
    (place : Location) : Prop where
  /-- The path stands for the place. -/
  resolves : after.Resolves base path place
  /-- If it stood for anything before, then for this place. -/
  resolved : ∀ there, before.Resolves base path there → there = place
  /-- Only a file can have been there. -/
  replaced : ∀ entry, before.entry? place = some entry → ∃ old, entry = .file old
  /-- The file that is there now. -/
  content : after.entry? place = some (.file bytes)
  /-- Nothing else has changed. -/
  frame : ∀ other, other ≠ place → after.entry? other = before.entry? other

variable {base : Location} {path : Path} {bytes : List UInt8}

namespace Rewrites

variable {place : Location}

theorem keeps (h : Rewrites before after base path bytes place) : Extends before after :=
  .of_frame h.replaced h.content h.frame

/-- After the writing, there is something under the path. -/
theorem hasPath (h : Rewrites before after base path bytes place) : after.hasPath base path :=
  hasPath_iff.2 ⟨_, place, h.resolves, h.content⟩

end Rewrites

/-- What is written is put where the path ends, and no directory is there. -/
theorem exists_put_of_write (h : before.write base path bytes = .ok after) :
    ∃ place parent name, before.locate .create base path = .ok place ∧ before.IsEnd place
      ∧ place.location = .child name parent
      ∧ before.entry? (.child name parent) ≠ some .directory
      ∧ after = before.put parent name (.file bytes) := by
  unfold write at h
  obtain ⟨place, hplace, h⟩ := bind_eq_ok_iff.1 h
  obtain ⟨-, -, -, hwalk⟩ := locate_eq_ok_iff_walk.1 hplace
  have hend : before.IsEnd place := by
    refine isEnd_of_walk ?_ ?_ hwalk
    · exact fun step => Path.slash_not_mem
    · exact fun hnil => absurd hnil path.steps_ne_nil
  split at h
  · next parent name =>
    have hfree : before.entry? (.child name parent) ≠ some .directory := by
      rw [hend.2.2]
      exact nofun
    exact ⟨_, parent, name, hplace, hend, rfl, hfree, (Except.ok.inj h).symm⟩
  · cases h
  · next name parent =>
    obtain ⟨hdirectory, hput⟩ := ite_error_eq_ok_iff.1 h
    refine ⟨_, parent, name, hplace, hend, rfl, ?_, (Except.ok.inj hput).symm⟩
    exact fun hentry => hdirectory (hasDirectory_iff.2 hentry)

/-- Writing changes the one file that the path stands for. -/
theorem rewrites_of_write (h : before.write base path bytes = .ok after) :
    ∃ place, Rewrites before after base path bytes place := by
  obtain ⟨place, parent, name, hplace, hend, hlocation, hdirectory, rfl⟩ := exists_put_of_write h
  have hentry := entry?_put (hend.accepts hlocation hdirectory bytes)
  rw [← hlocation] at hdirectory hentry
  -- From here on, all that is known of the new tree is what stands where.
  generalize before.put parent name (.file bytes) = after at hentry
  have hcontent : after.entry? place.location = some (.file bytes) := by
    rw [hentry, if_pos rfl]
  have hframe : ∀ other, other ≠ place.location → after.entry? other = before.entry? other := by
    intro other hne
    rw [hentry, if_neg hne]
  have hreplaced : ∀ entry, before.entry? place.location = some entry →
      ∃ old, entry = .file old :=
    fun _ => hend.eq_file hdirectory
  have hextends := Extends.of_frame hreplaced hcontent hframe
  obtain ⟨hnul, hempty, hsize, hwalk⟩ := locate_eq_ok_iff_walk.1 hplace
  have hafter := walk_of_extends hextends ⟨bytes, hcontent⟩ hwalk
  have hresolves : after.Resolves base path place.location :=
    ⟨hnul, hempty, hsize, leads_of_walk hafter⟩
  -- What the path led to before, it still leads to.
  exact ⟨place.location, hresolves,
    fun there hthere => Resolves.unique (hextends.resolves hthere) hresolves,
    hreplaced, hcontent, hframe⟩

/-! ## Where a file can be written -/

/-- A file can be written under a path: a tree that differs from this one in one file only has this
file under the path. -/
def Writable (tree : FileTree) (base : Location) (path : Path) : Prop :=
  ∃ after bytes place, Rewrites tree after base path bytes place

/-- A path that ends with a slash leads to a directory. -/
theorem Leads.directory_of_getLast? {links : Nat} {here there : Location} {steps : List (List Char)}
    (h : tree.Leads links here steps there) (hlast : steps.getLast? = some []) :
    tree.entry? there = some .directory := by
  -- The last step stays in a directory, and those before it leave it the last one.
  have hrest : ∀ {step : List Char} {rest : List (List Char)},
      (step :: rest).getLast? = some [] → rest ≠ [] → rest.getLast? = some [] := by
    intro step rest hlast hne
    rwa [List.getLast?_cons_of_ne_nil hne] at hlast
  induction h with
  | done => exact absurd hlast nofun
  | @stay _ here there step rest hhere _ hleads ih =>
    by_cases hnil : rest = []
    · subst hnil
      cases hleads
      exact hhere
    · exact ih (hrest hlast hnil)
  | @leave _ _ _ rest _ _ ih =>
    by_cases hnil : rest = []
    · subst hnil
      exact absurd (Option.some.inj hlast) (by decide)
    · exact ih (hrest hlast hnil)
  | @enter _ _ _ step rest _ _ hstep _ _ _ ih =>
    by_cases hnil : rest = []
    · subst hnil
      exact absurd (Option.some.inj hlast) hstep.1
    · exact ih (hrest hlast hnil)
  | @follow _ _ _ step rest target _ hstep _ _ ih =>
    by_cases hnil : rest = []
    · subst hnil
      exact absurd (Option.some.inj hlast) hstep.1
    · rw [List.getLast?_append_of_ne_nil _ hnil] at ih
      exact ih (hrest hlast hnil)

/-- Nothing lies behind a file. -/
theorem Leads.eq_nil_of_file {links : Nat} {here there : Location} {steps : List (List Char)}
    {bytes : List UInt8} (h : tree.Leads links here steps there)
    (hfile : tree.entry? here = some (.file bytes)) : steps = [] := by
  cases h with
  | done => rfl
  | stay hhere => cases hfile.symm.trans hhere
  | leave hhere => cases hfile.symm.trans hhere
  | enter hhere => cases hfile.symm.trans hhere
  | follow hhere => cases hfile.symm.trans hhere

/-- Where a path leads to the one file that a tree has more or other than another tree, it can be
followed for writing in the other tree. -/
theorem exists_walk_of_leads {place here there : Location} {steps : List (List Char)}
    {links limit : Nat} {bytes : List UInt8}
    (hreplaced : ∀ entry, before.entry? place = some entry → ∃ old, entry = .file old)
    (hcontent : after.entry? place = some (.file bytes))
    (hframe : ∀ other, other ≠ place → after.entry? other = before.entry? other)
    (hleads : after.Leads links here steps there) (hthere : there = place) (hlimit : links ≤ limit) :
    ∃ found, before.walk .create limit here steps = .ok found ∧ found.location = place := by
  -- What is not that file stands in both trees.
  have hkept : ∀ {location entry}, after.entry? location = some entry →
      (∀ content, entry ≠ .file content) → before.entry? location = some entry := by
    intro location entry hentry hother
    have hne : location ≠ place := by
      rintro rfl
      exact hother bytes (Option.some.inj (hentry.symm.trans hcontent))
    rw [← hframe location hne, hentry]
  -- A slash is not followed by a file.
  have hslash : ∀ {links here}, ¬after.Leads links here [[]] place := by
    intro links here h
    have hentry := hcontent.symm.trans (h.directory_of_getLast? rfl)
    simp at hentry
  induction hleads generalizing limit with
  | done here =>
    subst hthere
    exact ⟨.taken here, by rw [walk], rfl⟩
  | stay hhere hstep _ ih =>
    rw [walk_stay (hkept hhere (by simp)) hstep]
    exact ih hthere hlimit
  | leave hhere _ ih =>
    rw [walk_leave (hkept hhere (by simp))]
    exact ih hthere hlimit
  | @enter links here there step rest entry hhere hstep hentry hlink hrest ih =>
    subst hthere
    by_cases hplace : Location.child (String.ofList step) here = there
    · -- This is the file, and the path ends here.
      obtain rfl : rest = [] := hrest.eq_nil_of_file (hplace ▸ hcontent)
      cases hbefore : before.entry? (.child (String.ofList step) here) with
      | none =>
        refine ⟨.vacant here (String.ofList step), ?_, hplace⟩
        exact walk_vacant (hkept hhere (by simp)) hstep hbefore
      | some held =>
        obtain ⟨old, rfl⟩ := hreplaced held (hplace ▸ hbefore)
        refine ⟨.taken (.child (String.ofList step) here), ?_, hplace⟩
        rw [walk_name (by simp) (hkept hhere (by simp)) hstep hbefore]
        dsimp only
        rw [walk]
    · have hbefore := (hframe _ hplace).symm.trans hentry
      rw [walk_name (fun hcreate => hslash (hcreate.2 ▸ hrest)) (hkept hhere (by simp)) hstep
        hbefore]
      cases entry with
      | link target => exact absurd rfl (hlink target)
      | file content => exact ih rfl hlimit
      | directory => exact ih rfl hlimit
  | @follow links here there step rest target hhere hstep hentry hrest ih =>
    subst hthere
    have hnot : rest ≠ [[]] := by
      rintro rfl
      have hlast := hrest.directory_of_getLast? (by simp)
      exact absurd (hcontent.symm.trans hlast) (by simp)
    rw [walk_name (fun hcreate => hnot hcreate.2) (hkept hhere (by simp)) hstep
      (hkept hentry (by simp))]
    cases limit with
    | zero => exact absurd hlimit (Nat.not_succ_le_zero _)
    | succ limit => exact ih rfl (Nat.le_of_succ_le_succ hlimit)

/-- Writing succeeds just where a file can be written. -/
theorem isOk_write_iff : (before.write base path bytes).isOk ↔ before.Writable base path := by
  rw [isOk_iff]
  constructor
  · rintro ⟨after, hwrite⟩
    obtain ⟨place, hrewrites⟩ := rewrites_of_write hwrite
    exact ⟨after, bytes, place, hrewrites⟩
  · rintro ⟨after, content, place, hresolves, -, hreplaced, hcontent, hframe⟩
    obtain ⟨hnul, hempty, hsize, links, hlinks, hleads⟩ := hresolves
    obtain ⟨found, hwalk, hlocation⟩ :=
      exists_walk_of_leads hreplaced hcontent hframe hleads rfl hlinks
    have hlocate := locate_eq_ok_iff_walk.2 ⟨hnul, hempty, hsize, hwalk⟩
    rw [write, hlocate]
    -- Whatever stands at the end of the path, it is no directory.
    cases found with
    | vacant parent name => exact ⟨_, rfl⟩
    | taken location =>
      obtain rfl : location = place := hlocation
      cases location with
      | root => exact absurd (Option.some.inj hcontent) nofun
      | child name parent =>
        have hdirectory : ¬before.hasDirectory (.child name parent) = true := by
          intro h
          obtain ⟨old, hold⟩ := hreplaced _ (hasDirectory_iff.1 h)
          cases hold
        exact ⟨_, if_neg hdirectory⟩

/-! ## Reading -/

theorem read_eq_ok_iff :
    tree.read base path = .ok bytes ↔ tree.Denotes base path (.file bytes) := by
  rw [← find_eq_ok_iff, read, bind_eq_ok_iff]
  constructor
  · rintro ⟨entry, hfind, hbytes⟩
    cases entry with
    | file content =>
      obtain rfl := Except.ok.inj hbytes
      exact hfind
    | link => cases hbytes
    | directory => cases hbytes
  · exact fun hfind => ⟨_, hfind, rfl⟩

/-- The text that a path stands for is that of the file at its place. -/
theorem readText_eq_ok_iff {text : String} :
    tree.readText base path = .ok text ↔
      ∃ there bytes, tree.Resolves base path there ∧ tree.entry? there = some (.file bytes)
        ∧ (Text.Utf8.decode? bytes).map String.ofList = some text := by
  rw [readText, bind_eq_ok_iff, exists_comm]
  refine exists_congr fun bytes => ?_
  rw [read_eq_ok_iff, Denotes, ← exists_and_right]
  refine exists_congr fun there => ?_
  rw [and_assoc, and_congr_right_iff]
  refine fun _ => and_congr_right fun _ => ?_
  cases Text.Utf8.decode? bytes <;> simp

/-- A path from which a text is read stands for a file. -/
theorem denotes_of_readText {text : String} (h : tree.readText base path = .ok text) :
    ∃ bytes, tree.Denotes base path (.file bytes) := by
  obtain ⟨there, bytes, hresolves, hfile, -⟩ := readText_eq_ok_iff.1 h
  exact ⟨bytes, there, hresolves, hfile⟩

/-- A file that holds the bytes of a text is read as the text. -/
theorem readText_of_encode {place : Location} {text : List Char} (h : tree.Resolves base path place)
    (hcontent : tree.entry? place = some (.file (Text.Utf8.encode text))) :
    tree.readText base path = .ok (String.ofList text) := by
  refine readText_eq_ok_iff.2 ⟨place, _, h, hcontent, ?_⟩
  rw [Text.Utf8.decode?_encode, Option.map_some]

/-! ## Paths of one name -/

/-- The path is that of one name in a directory. -/
def Names (base : Location) (path : Path) (here : Location) (name : String) : Prop :=
  '\x00' ∉ path.text.toList ∧ path.text ≠ "" ∧ path.text.utf8ByteSize < pathLimit
    ∧ IsNameStep name.toList ∧ path.steps = [name.toList] ∧ path.startFrom base = here

instance (base : Location) (path : Path) (here : Location) (name : String) :
    Decidable (Names base path here name) :=
  inferInstanceAs (Decidable (_ ∧ _))

section Names

variable {here : Location} {name : String} {entry : Entry}

/-- The name of something in a directory stands for it, unless it is a link. -/
theorem resolves_name (h : Names base path here name) (hhere : tree.entry? here = some .directory)
    (hentry : tree.entry? (.child name here) = some entry)
    (hlink : ∀ target, entry ≠ .link target) : tree.Resolves base path (.child name here) := by
  obtain ⟨hnul, hempty, hsize, hstep, hsteps, hstart⟩ := h
  refine ⟨hnul, hempty, hsize, 0, Nat.zero_le _, ?_⟩
  rw [hstart, hsteps]
  rw [← String.ofList_toList (s := name)] at hentry
  have hleads := Leads.enter hhere hstep hentry hlink (.done _)
  rwa [String.ofList_toList] at hleads

/-- The text of a file is read under its name. -/
theorem readText_name {text : String} (h : Names base ⟨name⟩ base name)
    (hbase : tree.entry? base = some .directory)
    (hentry : tree.entry? (.child name base) = some (.file (Text.Utf8.encode text.toList))) :
    tree.readText base ⟨name⟩ = .ok text := by
  rw [readText_of_encode (resolves_name h hbase hentry nofun) hentry, String.ofList_toList]

/-- The name of a directory stands for it. -/
theorem denotes_directory (h : Names base ⟨name⟩ base name)
    (hbase : tree.entry? base = some .directory)
    (hentry : tree.entry? (.child name base) = some .directory) :
    tree.Denotes base ⟨name⟩ .directory :=
  ⟨_, resolves_name h hbase hentry nofun, hentry⟩

/-- A file can be written under a free name in a directory. -/
theorem writable_name (h : Names base path here name) (hhere : tree.entry? here = some .directory)
    (hfree : tree.entry? (.child name here) = none) : tree.Writable base path := by
  obtain ⟨hnul, hempty, hsize, hstep, hsteps, hstart⟩ := h
  have hlocate : tree.locate .create base path = .ok (.vacant here name) := by
    refine locate_eq_ok_iff_walk.2 ⟨hnul, hempty, hsize, ?_⟩
    have hwalk : tree.walk .create linkLimit here [name.toList]
        = .ok (.vacant here (String.ofList name.toList)) := by
      refine walk_vacant hhere hstep ?_
      rwa [String.ofList_toList]
    rw [hstart, hsteps, hwalk, String.ofList_toList]
  have hwrite : tree.write base path [] = .ok (tree.put here name (.file [])) := by
    rw [write, hlocate]
    rfl
  exact isOk_write_iff.1 (isOk_iff.2 ⟨_, hwrite⟩)

/-- No file can be written where a directory stands. -/
theorem not_writable_of_directory (h : tree.Denotes base path .directory) :
    ¬tree.Writable base path := by
  rintro ⟨after, bytes, place, hrewrites⟩
  obtain ⟨there, hresolves, hentry⟩ := h
  obtain rfl := hrewrites.resolved there hresolves
  obtain ⟨old, hold⟩ := hrewrites.replaced _ hentry
  cases hold

end Names

end FileTree

end RubricScore
