import RubricScore.FileTree.Resolution
import RubricScore.Proofs.Except
import RubricScore.Proofs.FileTree.Places

/-!
# What a path resolves to

`walk` follows a path and gives up when too many links were followed. The relation `Leads` says
where a path leads without a limit: it has no derivation for a link that leads nowhere or in a
circle, and counts the links of every other path. A walk reaches a place just when the path leads
there through no more links than allowed.

## Main definitions

* `FileTree.Leads`: the steps of a path lead from a place to another one;
* `FileTree.Resolves`: a path stands for a place that is there;
* `FileTree.Denotes`: a path stands for what is at its place;
* `FileTree.Holds`: a place is a file, or a link that leads to one.

## Main results

* `FileTree.walk_eq_ok_iff`, `FileTree.resolve_eq_ok_iff`: walks and resolutions;
* `FileTree.find_eq_ok_iff`: what a path stands for;
* `FileTree.content?_eq_some_iff`: the content of an entry.
-/

namespace RubricScore.FileTree

/-- The step names something in a directory. -/
def IsNameStep (step : List Char) : Prop :=
  step ≠ [] ∧ step ≠ ['.'] ∧ step ≠ ['.', '.'] ∧ Text.utf8Length step ≤ nameLimit

instance (step : List Char) : Decidable (IsNameStep step) :=
  inferInstanceAs (Decidable (_ ∧ _ ∧ _ ∧ _))

/-- Following the steps of a path from a place leads to another place, through so many links. -/
inductive Leads (tree : FileTree) : Nat → Location → List (List Char) → Location → Prop
  /-- Without steps the path stays where it is. -/
  | done (here : Location) : Leads tree 0 here [] here
  /-- An empty step and a dot stay in a directory. -/
  | stay {links : Nat} {here there : Location} {step : List Char} {rest : List (List Char)}
      (hhere : tree.entry? here = some .directory) (hstep : step = [] ∨ step = ['.'])
      (hrest : Leads tree links here rest there) : Leads tree links here (step :: rest) there
  /-- Two dots leave a directory. -/
  | leave {links : Nat} {here there : Location} {rest : List (List Char)}
      (hhere : tree.entry? here = some .directory)
      (hrest : Leads tree links here.parent rest there) :
      Leads tree links here (['.', '.'] :: rest) there
  /-- The name of a file or a directory leads to it. -/
  | enter {links : Nat} {here there : Location} {step : List Char} {rest : List (List Char)}
      {entry : Entry} (hhere : tree.entry? here = some .directory) (hstep : IsNameStep step)
      (hentry : tree.entry? (.child (String.ofList step) here) = some entry)
      (hlink : ∀ target, entry ≠ .link target)
      (hrest : Leads tree links (.child (String.ofList step) here) rest there) :
      Leads tree links here (step :: rest) there
  /-- The name of a link is replaced by the target of the link. -/
  | follow {links : Nat} {here there : Location} {step : List Char} {rest : List (List Char)}
      {target : Path} (hhere : tree.entry? here = some .directory) (hstep : IsNameStep step)
      (hentry : tree.entry? (.child (String.ofList step) here) = some (.link target))
      (hrest : Leads tree links (target.startFrom here) (target.steps ++ rest) there) :
      Leads tree (links + 1) here (step :: rest) there

variable {tree : FileTree}

theorem entry?_of_hasDirectory {location : Location} (h : ¬(!tree.hasDirectory location) = true) :
    tree.entry? location = some .directory := by
  rw [Bool.not_eq_true, Bool.not_eq_false'] at h
  exact hasDirectory_iff.1 h

theorem isNameStep_of_not {step : List Char} (hstay : ¬(step = [] ∨ step = ['.']))
    (hleave : step ≠ ['.', '.']) (hlength : ¬nameLimit < Text.utf8Length step) :
    IsNameStep step :=
  ⟨fun h => hstay (.inl h), fun h => hstay (.inr h), hleave, Nat.not_lt.1 hlength⟩

/-- A walk gets to where its steps lead, whether what is there is to be used or written to. -/
theorem leads_of_walk {purpose : Purpose} {limit : Nat}
    {here there : Location} {steps : List (List Char)}
    (h : tree.walk purpose limit here steps = .ok (.taken there)) :
    ∃ links ≤ limit, tree.Leads links here steps there := by
  -- A walk that gets somewhere takes one rule of the relation at each step; only a link costs one.
  fun_induction walk tree purpose limit here steps with
  | case1 limit here =>
    obtain ⟨⟩ := h
    exact ⟨0, Nat.zero_le _, .done _⟩
  | case3 limit here step rest hhere hstay ih =>
    obtain ⟨links, hlinks, hrest⟩ := ih h
    exact ⟨links, hlinks, .stay (entry?_of_hasDirectory hhere) hstay hrest⟩
  | case4 limit here rest hhere _ ih =>
    obtain ⟨links, hlinks, hrest⟩ := ih h
    exact ⟨links, hlinks, .leave (entry?_of_hasDirectory hhere) hrest⟩
  | case10 here step rest hhere hstay hleave _ hlength name next target hentry limit ih =>
    obtain ⟨links, hlinks, hrest⟩ := ih h
    have hstep := isNameStep_of_not hstay hleave hlength
    exact ⟨links + 1, Nat.succ_le_succ hlinks,
      .follow (entry?_of_hasDirectory hhere) hstep hentry hrest⟩
  | case11 limit here step rest hhere hstay hleave _ hlength name next entry hlink hentry ih =>
    obtain ⟨links, hlinks, hrest⟩ := ih h
    have hstep := isNameStep_of_not hstay hleave hlength
    exact ⟨links, hlinks, .enter (entry?_of_hasDirectory hhere) hstep hentry hlink hrest⟩
  -- Every other walk fails, or ends where nothing is.
  | case2 | case5 | case6 | case7 | case8 | case9 => cases h

section Steps

variable {purpose : Purpose} {limit : Nat} {here : Location} {step : List Char}
  {rest : List (List Char)}

theorem walk_stay (hhere : tree.entry? here = some .directory)
    (hstep : step = [] ∨ step = ['.']) :
    tree.walk purpose limit here (step :: rest) = tree.walk purpose limit here rest := by
  rw [walk, if_neg (by simp [hasDirectory_iff.2 hhere]), if_pos hstep]

theorem walk_leave (hhere : tree.entry? here = some .directory) :
    tree.walk purpose limit here (['.', '.'] :: rest)
      = tree.walk purpose limit here.parent rest := by
  rw [walk, if_neg (by simp [hasDirectory_iff.2 hhere]), if_neg (by simp), if_pos rfl]

/-- From a directory, the name of something leads to it, and the name of a link to its target. A file
is not written to where a slash follows its name. -/
theorem walk_name {entry : Entry}
    (hslash : ¬(purpose = .create ∧ rest = [[]])) (hhere : tree.entry? here = some .directory)
    (hstep : IsNameStep step)
    (hentry : tree.entry? (.child (String.ofList step) here) = some entry) :
    tree.walk purpose limit here (step :: rest) =
      match entry, limit with
      | .link _, 0 => .error .tooManyLinks
      | .link target, limit + 1 =>
        tree.walk purpose limit (target.startFrom here) (target.steps ++ rest)
      | _, limit => tree.walk purpose limit (.child (String.ofList step) here) rest := by
  obtain ⟨hempty, hdot, hdots, hlength⟩ := hstep
  rw [walk, if_neg (by simp [hasDirectory_iff.2 hhere]), if_neg (by simp [hempty, hdot]),
    if_neg hdots, if_neg hslash, if_neg (Nat.not_lt.2 hlength)]
  simp only [hentry]
  cases entry with
  | link target =>
    cases limit <;> rfl
  | file bytes => rfl
  | directory => rfl

/-- The last name may be free. -/
theorem walk_vacant (hhere : tree.entry? here = some .directory) (hstep : IsNameStep step)
    (hentry : tree.entry? (.child (String.ofList step) here) = none) :
    tree.walk purpose limit here [step] = .ok (.vacant here (String.ofList step)) := by
  obtain ⟨hempty, hdot, hdots, hlength⟩ := hstep
  rw [walk, if_neg (by simp [hasDirectory_iff.2 hhere]), if_neg (by simp [hempty, hdot]),
    if_neg hdots, if_neg (by simp), if_neg (Nat.not_lt.2 hlength)]
  simp only [hentry]
  rfl

end Steps

theorem walk_of_leads {links : Nat} {here there : Location} {steps : List (List Char)}
    (h : tree.Leads links here steps there) {limit : Nat} (hlimit : links ≤ limit) :
    tree.walk .reach limit here steps = .ok (.taken there) := by
  -- The limit varies, since a link leaves one less for the rest of the way.
  induction h generalizing limit with
  | done here => rw [walk]
  | stay hhere hstep _ ih => rw [walk_stay hhere hstep, ih hlimit]
  | leave hhere _ ih => rw [walk_leave hhere, ih hlimit]
  | @enter _ _ _ _ _ entry hhere hstep hentry hlink _ ih =>
    rw [walk_name (by simp) hhere hstep hentry]
    -- A link is not entered but followed.
    cases entry with
    | link target => exact absurd rfl (hlink target)
    | file bytes => exact ih hlimit
    | directory => exact ih hlimit
  | follow hhere hstep hentry _ ih =>
    rw [walk_name (by simp) hhere hstep hentry]
    cases limit with
    | zero => exact absurd hlimit (Nat.not_succ_le_zero _)
    | succ limit => exact ih (Nat.le_of_succ_le_succ hlimit)

/-- A walk gets to where its steps lead, unless it would follow more links than it may. -/
theorem walk_eq_ok_iff {limit : Nat} {here there : Location} {steps : List (List Char)} :
    tree.walk .reach limit here steps = .ok (.taken there) ↔
      ∃ links ≤ limit, tree.Leads links here steps there :=
  ⟨leads_of_walk, fun ⟨_, hlimit, h⟩ => walk_of_leads h hlimit⟩

/-! ## Paths and links -/

/-- The path stands for a place: it is a path at all, and its steps lead to the place through no
more links than one path may have. -/
structure Resolves (tree : FileTree) (base : Location) (path : Path) (there : Location) : Prop where
  nul_not_mem : '\x00' ∉ path.text.toList
  ne_empty : path.text ≠ ""
  size_lt : path.text.utf8ByteSize < pathLimit
  leads : ∃ links ≤ linkLimit, tree.Leads links (path.startFrom base) path.steps there

/-- The path stands for something that is there. -/
def Denotes (tree : FileTree) (base : Location) (path : Path) (entry : Entry) : Prop :=
  ∃ there, tree.Resolves base path there ∧ tree.entry? there = some entry

/-- A place holds the content of a file: it is that file, or a link that leads to it. The link is
the first of the links that may be followed. -/
inductive Holds (tree : FileTree) (location : Location) (bytes : List UInt8) : Prop
  | file (h : tree.entry? location = some (.file bytes))
  | link {target : Path} {links : Nat} {there : Location}
      (hlink : tree.entry? location = some (.link target)) (hlinks : links < linkLimit)
      (hleads : tree.Leads links (target.startFrom location.parent) target.steps there)
      (hfile : tree.entry? there = some (.file bytes))

/-- What is asked of a path, whatever it is followed for. -/
theorem locate_eq_ok_iff_walk {purpose : Purpose} {base : Location} {path : Path} {place : Place} :
    tree.locate purpose base path = .ok place ↔
      '\x00' ∉ path.text.toList ∧ path.text ≠ "" ∧ path.text.utf8ByteSize < pathLimit
        ∧ tree.walk purpose linkLimit (path.startFrom base) path.steps = .ok place := by
  rw [locate, ite_error_eq_ok_iff, ite_error_eq_ok_iff, ite_error_eq_ok_iff, String.isEmpty_iff,
    Nat.not_le]

theorem locate_eq_ok_iff {base there : Location} {path : Path} :
    tree.locate .reach base path = .ok (.taken there) ↔ tree.Resolves base path there := by
  rw [locate_eq_ok_iff_walk, walk_eq_ok_iff]
  exact ⟨fun ⟨hnul, hempty, hsize, hleads⟩ => ⟨hnul, hempty, hsize, hleads⟩,
    fun ⟨hnul, hempty, hsize, hleads⟩ => ⟨hnul, hempty, hsize, hleads⟩⟩

theorem resolve_eq_ok_iff {base there : Location} {path : Path} :
    tree.resolve base path = .ok there ↔ tree.Resolves base path there := by
  rw [← locate_eq_ok_iff, resolve, bind_eq_ok_iff]
  constructor
  · rintro ⟨place, hlocate, hplace⟩
    cases place with
    | taken location => exact Except.ok.inj hplace ▸ hlocate
    | vacant parent name => cases hplace
  · intro hlocate
    exact ⟨_, hlocate, rfl⟩

/-- A path stands for one place at most. -/
theorem Resolves.unique {base a b : Location} {path : Path} (ha : tree.Resolves base path a)
    (hb : tree.Resolves base path b) : a = b :=
  Except.ok.inj ((resolve_eq_ok_iff.2 ha).symm.trans (resolve_eq_ok_iff.2 hb))

/-- A path stands for what is at its place. -/
theorem find_eq_ok_iff {base : Location} {path : Path} {entry : Entry} :
    tree.find base path = .ok entry ↔ tree.Denotes base path entry := by
  rw [find, bind_eq_ok_iff]
  refine exists_congr fun there => ?_
  rw [resolve_eq_ok_iff, and_congr_right_iff]
  intro _
  cases tree.entry? there <;> simp

theorem hasPath_iff {base : Location} {path : Path} :
    tree.hasPath base path ↔ ∃ entry, tree.Denotes base path entry := by
  rw [hasPath, isOk_iff]
  exact exists_congr fun _ => find_eq_ok_iff

theorem isDirectory_iff {base : Location} {path : Path} :
    tree.isDirectory base path ↔ tree.Denotes base path .directory := by
  rw [← find_eq_ok_iff, isDirectory]
  split <;> simp_all

theorem isFile_iff {base : Location} {path : Path} :
    tree.isFile base path ↔ ∃ bytes, tree.Denotes base path (.file bytes) := by
  simp only [← find_eq_ok_iff]
  rw [isFile]
  split <;> simp_all

theorem content?_link_eq_some_iff {location : Location} {target : Path} {bytes : List UInt8} :
    tree.content? location (.link target) = some bytes ↔
      ∃ there, (∃ links ≤ linkLimit - 1,
          tree.Leads links (target.startFrom location.parent) target.steps there)
        ∧ tree.entry? there = some (.file bytes) := by
  simp only [← walk_eq_ok_iff]
  unfold content?
  constructor
  · intro h
    dsimp only at h
    split at h
    · next there hwalk =>
      split at h
      · next content hfile =>
        obtain rfl := Option.some.inj h
        exact ⟨there, hwalk, hfile⟩
      · cases h
    · cases h
  · rintro ⟨there, hwalk, hfile⟩
    simp only [hwalk, hfile]

/-- The content of an entry is that of the file which stands in its place or which it leads to. -/
theorem content?_eq_some_iff {location : Location} {entry : Entry} {bytes : List UInt8}
    (hentry : tree.entry? location = some entry) :
    tree.content? location entry = some bytes ↔ tree.Holds location bytes := by
  constructor
  · intro h
    cases entry with
    | file content =>
      obtain ⟨⟩ := h
      exact .file hentry
    | directory => cases h
    | link target =>
      obtain ⟨there, ⟨links, hlinks, hleads⟩, hfile⟩ := content?_link_eq_some_iff.1 h
      exact .link hentry (Nat.lt_of_le_pred (Nat.succ_pos _) hlinks) hleads hfile
  · rintro (h | ⟨h, hlinks, hleads, hfile⟩) <;> cases hentry.symm.trans h
    · rfl
    · exact content?_link_eq_some_iff.2 ⟨_, ⟨_, Nat.le_pred_of_lt hlinks, hleads⟩, hfile⟩

end RubricScore.FileTree
