import RubricScore.Proofs.Evidence.Scan
import RubricScore.Proofs.Path.Order

/-!
# Scans in parts

A scan may be split up: runs of files are tallied on their own, each from an empty tally, and the
tallies are merged in any grouping. Merging adds totals cue by cue and would cut off the longer list
of totals, so everything rests on one invariant: every tally that is ever built, an empty one
included, has a total for each cue.

## Main definitions

* `Schedule`: how a scan is split up;
* `Schedule.tally`: what comes out of it;
* `Tally.HasTotals`: the tally has a total for each cue.

## Main results

* `Schedule.tally_eq`: a schedule gives what its items give one after the other;
* `Tally.perCue_ofCounted_perm`: the totals do not depend on the order of the items;
* `Schedule.scan_independent`: neither do the totals and sorted paths of a schedule, nor a scan.
-/

namespace RubricScore

/-- How a scan is split up. A run of no items is a worker without work. -/
inductive Schedule (α : Type) where
  /-- Items that are tallied one after the other, from an empty tally. -/
  | run (items : List α)
  /-- Two parts whose tallies are merged. -/
  | join (left right : Schedule α)

namespace Schedule

variable {α β : Type}

/-- The items of all runs, from left to right. -/
def items : Schedule α → List α
  | run items => items
  | join left right => left.items ++ right.items

/-- The schedule with every run replaced by what becomes of it. -/
def mapRuns (f : List α → List β) : Schedule α → Schedule β
  | run items => run (f items)
  | join left right => join (left.mapRuns f) (right.mapRuns f)

/-- The tally of counted files under a schedule. -/
def tally (cues : Nat) : Schedule (Path × List Nat) → Tally
  | run items => Tally.ofCounted cues items
  | join left right => (left.tally cues).merge (right.tally cues)

theorem items_mapRuns {f : List α → List β}
    (happend : ∀ a b, f (a ++ b) = f a ++ f b) (schedule : Schedule α) :
    (schedule.mapRuns f).items = f schedule.items := by
  induction schedule with
  | run items => rfl
  | join left right ihleft ihright => rw [mapRuns, items, items, ihleft, ihright, happend]

end Schedule

/-! ## Tallies with a total for each cue -/

namespace Tally

/-- The tally has a total for each of so many cues. -/
def HasTotals (cues : Nat) (tally : Tally) : Prop :=
  tally.perCue.length = cues

theorem hasTotals_empty (cues : Nat) : (empty cues).HasTotals cues := by
  simp [HasTotals, empty]

theorem HasTotals.merge {cues : Nat} {a b : Tally} (ha : a.HasTotals cues) (hb : b.HasTotals cues) :
    (a.merge b).HasTotals cues := by
  simp only [HasTotals, Tally.merge, List.length_zipWith] at *
  omega

/-- Adding a file is merging with the tally of this one file. -/
theorem add_eq_merge (tally : Tally) (path : Path) (counts : List Nat) :
    tally.add path counts = tally.merge ⟨counts, [path]⟩ :=
  rfl

theorem merge_assoc (a b c : Tally) : (a.merge b).merge c = a.merge (b.merge c) := by
  have htotals : ∀ l m n : List Nat, List.zipWith (· + ·) (List.zipWith (· + ·) l m) n
      = List.zipWith (· + ·) l (List.zipWith (· + ·) m n) := by
    intro l m n
    apply List.ext_getElem
    · simp [Nat.min_assoc]
    · intro i _ _
      simp [Nat.add_assoc]
  simp [merge, htotals]

theorem zipWith_add_zeros {totals : List Nat} :
    List.zipWith (· + ·) totals (List.replicate totals.length 0) = totals := by
  apply List.ext_getElem
  · simp
  · intro i _ _
    simp

theorem merge_empty {cues : Nat} {tally : Tally} (h : tally.HasTotals cues) :
    tally.merge (empty cues) = tally := by
  subst h
  simp [merge, empty, zipWith_add_zeros]

theorem empty_merge {cues : Nat} {tally : Tally} (h : tally.HasTotals cues) :
    (empty cues).merge tally = tally := by
  subst h
  simp [merge, empty, List.zipWith_comm_of_comm Nat.add_comm, zipWith_add_zeros]

section Runs

variable {cues : Nat}

/-- A run that goes on from a tally gives this tally merged with that of the run alone. -/
theorem foldl_add_eq_merge {items : List (Path × List Nat)}
    (hitems : ∀ item ∈ items, item.2.length = cues) {start : Tally}
    (hstart : start.HasTotals cues) :
    items.foldl (fun tally item => tally.add item.1 item.2) start
      = start.merge (ofCounted cues items) := by
  induction items generalizing start with
  | nil => exact (merge_empty hstart).symm
  | cons item rest ih =>
    have hitem : (⟨item.2, [item.1]⟩ : Tally).HasTotals cues := hitems item List.mem_cons_self
    have hrest : ∀ other ∈ rest, other.2.length = cues :=
      fun other hin => hitems other (List.mem_cons_of_mem _ hin)
    -- The run alone starts from an empty tally, which the first item replaces by its own.
    have hfirst : ofCounted cues (item :: rest)
        = (⟨item.2, [item.1]⟩ : Tally).merge (ofCounted cues rest) := by
      rw [ofCounted, List.foldl_cons, add_eq_merge, empty_merge hitem, ih hrest hitem]
    rw [List.foldl_cons, add_eq_merge, ih hrest (hstart.merge hitem), hfirst, merge_assoc]

theorem hasTotals_ofCounted {items : List (Path × List Nat)}
    (hitems : ∀ item ∈ items, item.2.length = cues) : (ofCounted cues items).HasTotals cues := by
  suffices h : ∀ start : Tally, start.HasTotals cues →
      (items.foldl (fun tally item => tally.add item.1 item.2) start).HasTotals cues from
    h _ (hasTotals_empty cues)
  induction items with
  | nil => exact fun _ hstart => hstart
  | cons item rest ih =>
    intro start hstart
    refine ih (fun other hin => hitems other (List.mem_cons_of_mem _ hin)) _ ?_
    have hitem : (⟨item.2, [item.1]⟩ : Tally).HasTotals cues := hitems item List.mem_cons_self
    exact hstart.merge hitem

/-- Two runs in one. -/
theorem ofCounted_append {a b : List (Path × List Nat)}
    (ha : ∀ item ∈ a, item.2.length = cues) (hb : ∀ item ∈ b, item.2.length = cues) :
    ofCounted cues (a ++ b) = (ofCounted cues a).merge (ofCounted cues b) := by
  conv_lhs => rw [ofCounted, List.foldl_append]
  exact foldl_add_eq_merge hb (hasTotals_ofCounted ha)

end Runs

theorem matched_ofCounted (cues : Nat) (items : List (Path × List Nat)) :
    (ofCounted cues items).matched = items.map Prod.fst := by
  suffices h : ∀ start : Tally,
      (items.foldl (fun tally item => tally.add item.1 item.2) start).matched
        = start.matched ++ items.map Prod.fst from h _
  induction items with
  | nil => simp
  | cons item rest ih =>
    intro start
    rw [List.foldl_cons, ih]
    simp [add]

theorem perCue_ofCounted (cues : Nat) (items : List (Path × List Nat)) :
    (ofCounted cues items).perCue
      = (items.map Prod.snd).foldl (List.zipWith (· + ·)) (List.replicate cues 0) := by
  suffices h : ∀ start : Tally,
      (items.foldl (fun tally item => tally.add item.1 item.2) start).perCue
        = (items.map Prod.snd).foldl (List.zipWith (· + ·)) start.perCue from h _
  induction items with
  | nil => simp
  | cons item rest ih =>
    intro start
    rw [List.foldl_cons, ih, List.map_cons, List.foldl_cons]
    rfl

/-- The totals do not depend on the order of the items. -/
theorem perCue_ofCounted_perm (cues : Nat) {a b : List (Path × List Nat)} (h : a.Perm b) :
    (ofCounted cues a).perCue = (ofCounted cues b).perCue := by
  rw [perCue_ofCounted, perCue_ofCounted]
  -- Two items may change places in the sum. The lengths agree even where a list is cut off.
  refine (h.map Prod.snd).foldl_eq' (fun x _ y _ totals => ?_) _
  apply List.ext_getElem
  · simp only [List.length_zipWith]
    omega
  · intro i _ _
    simp only [List.getElem_zipWith]
    omega

/-- The sorted paths do not depend on the order of the items, which have distinct paths. -/
theorem inPathOrder_ofCounted_perm (cues : Nat) {a b : List (Path × List Nat)} (h : a.Perm b)
    (hdistinct : (b.map fun item => item.1.key).Nodup) :
    (ofCounted cues a).inPathOrder = (ofCounted cues b).inPathOrder := by
  have hpaths : ((b.map Prod.fst).map Path.key).Nodup := by
    rw [List.map_map]
    exact hdistinct
  rw [inPathOrder, inPathOrder, matched_ofCounted, matched_ofCounted]
  exact (Path.mergeSort_eq_of_perm (h.map Prod.fst).symm hpaths).symm

end Tally

/-! ## Schedules -/

namespace Schedule

section Items

variable {cues : Nat} {schedule : Schedule (Path × List Nat)}

/-- A schedule gives the tally of its items one after the other. -/
theorem tally_eq (hitems : ∀ item ∈ schedule.items, item.2.length = cues) :
    schedule.tally cues = Tally.ofCounted cues schedule.items := by
  induction schedule with
  | run items => rfl
  | join left right ihleft ihright =>
    have hleft : ∀ item ∈ left.items, item.2.length = cues :=
      fun item hin => hitems item (List.mem_append_left _ hin)
    have hright : ∀ item ∈ right.items, item.2.length = cues :=
      fun item hin => hitems item (List.mem_append_right _ hin)
    rw [tally, items, ihleft hleft, ihright hright, Tally.ofCounted_append hleft hright]

variable {list : List (Path × List Nat)} (hlength : ∀ item ∈ list, item.2.length = cues)
  (hperm : schedule.items.Perm list)

include hlength hperm

theorem perCue_tally : (schedule.tally cues).perCue = (Tally.ofCounted cues list).perCue := by
  rw [tally_eq fun item hin => hlength item (hperm.mem_iff.1 hin)]
  exact Tally.perCue_ofCounted_perm cues hperm

theorem inPathOrder_tally (hdistinct : (list.map fun item => item.1.key).Nodup) :
    (schedule.tally cues).inPathOrder = (Tally.ofCounted cues list).inPathOrder := by
  rw [tally_eq fun item hin => hlength item (hperm.mem_iff.1 hin)]
  exact Tally.inPathOrder_ofCounted_perm cues hperm hdistinct

end Items

end Schedule

/-! ## Scans -/

namespace CueSet

theorem length_of_mem_hits {cues : CueSet} {digests : List Digest} {item : Path × List Nat}
    (hitem : item ∈ cues.hits digests) : item.2.length = cues.size := by
  obtain ⟨digest, -, rfl⟩ := List.mem_map.1 (List.mem_filter.1 hitem).1
  simp [countIn, size]

theorem hits_append (cues : CueSet) (a b : List Digest) :
    cues.hits (a ++ b) = cues.hits a ++ cues.hits b := by
  simp [hits]

/-- The hits in a corpus have distinct paths. -/
theorem nodup_key_hits (cues : CueSet) (corpus : Corpus) :
    ((cues.hits corpus.digests).map fun item => item.1.key).Nodup := by
  rw [Corpus.digests, hits_digests, List.map_map]
  refine List.pairwise_map.2 ((corpus.ordered.filter _).imp fun {a b} hbefore heq => ?_)
  have hlt : a.path.key < b.path.key := hbefore
  have heq : a.path.key = b.path.key := heq
  exact List.lt_irrefl _ (heq ▸ hlt)

/-- A scan takes from a tally the totals and the sorted paths. -/
theorem scanOf_congr (cues : CueSet) (digests : List Digest) {a b : Tally}
    (hperCue : a.perCue = b.perCue) (horder : a.inPathOrder = b.inPathOrder) :
    cues.scanOf digests a = cues.scanOf digests b := by
  -- The number of matched files shows in the list of sorted paths, too.
  have hlength : a.matched.length = b.matched.length := by
    simpa [Tally.inPathOrder] using congrArg List.length horder
  simp only [scanOf, hperCue, horder, hlength]

/-- A scan that is split up finds what one run over the corpus finds. -/
theorem scanOf_tally (cues : CueSet) {corpus : Corpus} {schedule : Schedule Digest}
    (h : schedule.items.Perm corpus.digests) :
    cues.scanOf corpus.digests ((schedule.mapRuns cues.hits).tally cues.size)
      = cues.scan corpus.digests := by
  have hlength : ∀ item ∈ cues.hits corpus.digests, item.2.length = cues.size :=
    fun item hin => length_of_mem_hits hin
  -- Every worker looks for hits in its own files; together they are the hits in the corpus.
  have hperm : (schedule.mapRuns cues.hits).items.Perm (cues.hits corpus.digests) := by
    rw [Schedule.items_mapRuns cues.hits_append]
    exact (h.map _).filter _
  exact cues.scanOf_congr corpus.digests (Schedule.perCue_tally hlength hperm)
    (Schedule.inPathOrder_tally hlength hperm (cues.nodup_key_hits corpus))

end CueSet

/-- However a list of counted files is ordered, cut into runs and merged, with idle workers among
them, the totals and the sorted paths are those of one run. So a scan finds the same, whatever files
are looked at by whichever worker. -/
theorem Schedule.scan_independent :
    (∀ (cues : Nat) (items : List (Path × List Nat)) (schedule : Schedule (Path × List Nat)),
      (items.map fun item => item.1.key).Nodup → (∀ item ∈ items, item.2.length = cues) →
      schedule.items.Perm items →
      (schedule.tally cues).perCue = (Tally.ofCounted cues items).perCue
        ∧ (schedule.tally cues).inPathOrder = (Tally.ofCounted cues items).inPathOrder)
    ∧ (∀ (cues : CueSet) (corpus : Corpus) (schedule : Schedule Digest),
      schedule.items.Perm corpus.digests →
      cues.scanOf corpus.digests ((schedule.mapRuns cues.hits).tally cues.size)
        = cues.scan corpus.digests) := by
  constructor
  · intro cues items schedule hdistinct hlength hperm
    exact ⟨perCue_tally hlength hperm, inPathOrder_tally hlength hperm hdistinct⟩
  · intro cues corpus schedule hperm
    exact cues.scanOf_tally hperm

/-- Two files that hold a cue. -/
def lockingCorpus : Corpus :=
  Corpus.ofList [⟨⟨"a.c"⟩, "lock(x);".toList⟩, ⟨⟨"b.c"⟩, "unlock(x); lock(y);".toList⟩]

/-- Two counted files in the wrong order with an idle worker between them, and a corpus of which the
first file is looked at last. -/
theorem Schedule.scan_independent_idle_worker :
    (([(⟨"b.c"⟩, [1, 0]), (⟨"a.c"⟩, [2, 3])] : List (Path × List Nat)).map
        fun item => item.1.key).Nodup
    ∧ ((join (run [(⟨"a.c"⟩, [2, 3])]) (join (run []) (run [(⟨"b.c"⟩, [1, 0])]))).tally 2).perCue
      = (Tally.ofCounted 2 [(⟨"b.c"⟩, [1, 0]), (⟨"a.c"⟩, [2, 3])]).perCue
    ∧ (CueSet.ofPhrases ["lock"]).scanOf lockingCorpus.digests
        (((join (run (lockingCorpus.digests.drop 1)) (run (lockingCorpus.digests.take 1))).mapRuns
          (CueSet.ofPhrases ["lock"]).hits).tally 1)
      = (CueSet.ofPhrases ["lock"]).scan lockingCorpus.digests :=
  ⟨by decide +kernel,
    (scan_independent.1 2 _ _ (by decide +kernel) (by decide) (by decide)).1,
    scan_independent.2 _ _ _
      (List.perm_append_comm.trans (.of_eq (List.take_append_drop 1 lockingCorpus.digests)))⟩

end RubricScore
