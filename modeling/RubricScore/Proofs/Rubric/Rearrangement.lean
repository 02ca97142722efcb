import RubricScore.Proofs.Json.Codec
import RubricScore.Proofs.Json.Parts
import RubricScore.Proofs.Rubric.Validation

/-!
# What the text of a rubric may leave open

The members of a rubric and of its components may stand in any order and among any others, and the
rubric that is read is the same. What is kept of the order is that of the components: a category
lists the names of its section in the order in which they first occur, each with the value of its
last occurrence.

A key is a string; what is written as a key and stands for no string, such as a lone surrogate, is
no key.

## Main definitions

* `Component.Rearranges`, `Rubric.Rearranges`: the changes of a document that do not count;
* `Rubric.HasSection`: the members that a document has for a category.

## Main results

* `Component.agrees_read`, `Rubric.agrees_read`: such changes are not seen by the readers;
* `Rubric.components_of_hasSection`: the components of a category and the members of its section;
* `Rubric.ofText_rearranged`: both for the texts of rubrics that are accepted.
-/

namespace RubricScore

open Json (Node Quoted)

namespace Component

/-- The fields of a component are independent of each other. -/
theorem independent_fields : Json.Independent shape.fields := by
  refine Json.independent_of_pairwise ?_
  simp only [shape, List.pairwise_cons, List.forall_mem_cons, List.not_mem_nil, false_imp_iff,
    implies_true, List.Pairwise.nil, and_true]
  repeat' apply And.intro
  -- What remains is one claim for every two fields.
  all_goals
    apply Json.apart_field
    exact fun _ _ _ => rfl

/-- A component with members in another order, among others that components do not have. -/
inductive Rearranges : Node → Node → Prop
  /-- A component that is an object. -/
  | object {members members' : List (Quoted × Node)}
    (h : Json.Rearranges (shape.fields.map Json.Field.name) members members') :
    Rearranges (.object members none) (.object members' none)
  /-- The same component. -/
  | same (node : Node) : Rearranges node node

/-- A component is read from its members wherever they stand. -/
theorem agrees_read {node node' : Node} (h : Rearranges node node') (htext : node'.HasText) :
    Json.Agrees read node node' := by
  cases h with
  | same => exact Json.agrees_self read node
  | object h =>
    exact Json.agrees_readRecord_of_rearranges independent_fields h
      fun member hin => (htext.member hin).cut?_eq_none

end Component

namespace Rubric

/-- The fields of a rubric are independent of each other. -/
theorem independent_fields : Json.Independent shape.fields := by
  refine Json.independent_of_pairwise ?_
  simp only [shape, List.pairwise_cons, List.forall_mem_cons, List.not_mem_nil, false_imp_iff,
    implies_true, List.Pairwise.nil, and_true]
  repeat' apply And.intro
  -- What remains is one claim for every two fields.
  all_goals
    apply Json.apart_field
    exact fun _ _ _ => rfl

/-- Key of the section of a category. -/
def sectionKey : Category → String
  | .kernelPrimitive => "kernel_primitives"
  | .platformService => "os_platform_services"

/-- A section with some of its components rearranged, and the names of all of them in the same
order. -/
inductive SectionRearranges : Node → Node → Prop
  /-- A section is an object. -/
  | object {entries entries' : List (Quoted × Node)}
    (h : List.Forall₂ (fun entry entry' =>
      entry'.1 = entry.1 ∧ Component.Rearranges entry.2 entry'.2) entries entries') :
    SectionRearranges (.object entries none) (.object entries' none)

/-- A member of a rubric, with components rearranged if it is a section. -/
def MemberRearranges (member member' : Quoted × Node) : Prop :=
  member'.1 = member.1 ∧ (member'.2 = member.2
    ∨ ∃ category, member.1.text = .ok (sectionKey category)
      ∧ SectionRearranges member.2 member'.2)

/-- A rubric with members in another order, among others that rubrics do not have, and with some of
its components rearranged. -/
inductive Rearranges : Node → Node → Prop
  /-- A rubric that is an object. -/
  | object {members changed members' : List (Quoted × Node)}
    (hchanged : List.Forall₂ MemberRearranges members changed)
    (h : Json.Rearranges (shape.fields.map Json.Field.name) changed members') :
    Rearranges (.object members none) (.object members' none)
  /-- A rubric that is the list of its parts. -/
  | array {metadata kernel kernel' services services' : Node}
    (hkernel : SectionRearranges kernel kernel') (hservices : SectionRearranges services services') :
    Rearranges (.array [metadata, kernel, services] none) (.array [metadata, kernel', services'] none)

theorem agrees_section {node node' : Node} (h : SectionRearranges node node')
    (htext : node'.HasText) : Json.Agrees (Json.readMap Component.read) node node' := by
  cases h with | @object entries entries' h
  have hentries : ∀ entry ∈ entries', entry.2.HasText := fun entry hin => htext.member hin
  refine Json.agrees_readMap ?_
  clear htext
  induction h with
  | nil => exact .nil
  | cons hentry _ ih =>
    obtain ⟨hfirst, hrest⟩ := List.forall_mem_cons.1 hentries
    exact .cons ⟨hentry.1, Component.agrees_read hentry.2 hfirst⟩ (ih hrest)

/-- A field agrees on a member with components rearranged. -/
theorem agrees_member {member member' : Quoted × Node} (h : MemberRearranges member member')
    (htext : member'.2.HasText) {f : Json.Field Rubric} (hf : f ∈ shape.fields)
    (hname : member.1.text = .ok f.name) : Json.Agrees f.read member.2 member'.2 := by
  obtain ⟨-, hsame | ⟨category, hkey, hsection⟩⟩ := h
  · rw [hsame]
    exact Json.agrees_self _ _
  · have hagrees := agrees_section hsection htext
    have hfname := Except.ok.inj (hname.symm.trans hkey)
    simp only [shape, List.mem_cons, List.not_mem_nil, or_false] at hf
    rcases hf with rfl | rfl | rfl
    · -- The key of a section is not that of the metadata.
      exact absurd hfname (by cases category <;> decide)
    · exact hagrees.field
    · exact hagrees.field

/-- A rubric is read from its members and from those of its components wherever they stand. -/
theorem agrees_read {node node' : Node} (h : Rearranges node node') (htext : node'.HasText) :
    Json.Agrees read node node' := by
  cases h with
  | @object members changed members' hchanged h =>
    obtain ⟨added, -, hperm⟩ := id h
    have hvalues : ∀ member ∈ changed, member.2.HasText := fun member hin =>
      htext.member (hperm.mem_iff.2 (List.mem_append_right _ hin))
    have hagree : Json.MembersAgree shape.fields members changed := by
      clear h hperm
      induction hchanged with
      | nil => exact .nil
      | cons hmember _ ih =>
        obtain ⟨hfirst, hrest⟩ := List.forall_mem_cons.1 hvalues
        exact .cons ⟨hmember.1, hfirst.cut?_eq_none,
          fun f hf hname => agrees_member hmember hfirst hf hname⟩ (ih hrest)
    -- The components are rearranged while the members stand in their places, then the members move.
    intro room rubric hread
    exact Json.agrees_readRecord_of_rearranges independent_fields h
      (fun member hin => (htext.member hin).cut?_eq_none) room rubric
      (Json.agrees_readRecord hagree room rubric hread)
  | array hkernel hservices =>
    refine Json.agrees_readPositions rfl ?_
    refine .cons (Json.agrees_self _ _) (.cons ?_ (.cons ?_ .nil))
    · exact (agrees_section hkernel (htext.item (by simp))).field
    · exact (agrees_section hservices (htext.item (by simp))).field

/-! ## Sections -/

/-- The members that a document of a rubric has for a category. -/
inductive HasSection : Node → Category → List (Quoted × Node) → Prop
  /-- The member of the section in a rubric that is an object. -/
  | member {members entries : List (Quoted × Node)} {cut cut' : Option Json.Break} {name : Quoted}
    {category : Category} (hmember : (name, Node.object entries cut') ∈ members)
    (hname : name.text = .ok (sectionKey category)) :
    HasSection (.object members cut) category entries
  /-- The kernel primitives in a rubric that is a list. -/
  | kernel {metadata services : Node} {entries : List (Quoted × Node)}
    {cut cut' : Option Json.Break} :
    HasSection (.array [metadata, .object entries cut', services] cut) .kernelPrimitive entries
  /-- The platform services in a rubric that is a list. -/
  | services {metadata kernel : Node} {entries : List (Quoted × Node)}
    {cut cut' : Option Json.Break} :
    HasSection (.array [metadata, kernel, .object entries cut'] cut) .platformService entries

/-- A map is an object. -/
theorem exists_of_readMap {α : Type} {value : Json.Reader α} {room : Nat} {node : Node}
    {map : OrderedMap String α} (h : Json.readMap value room node = .ok map) :
    ∃ entries cut, node = .object entries cut := by
  unfold Json.readMap at h
  split at h
  · exact ⟨_, _, rfl⟩
  · exact absurd h Json.refuse_ne_ok

/-- The components of a category are read from the member with the key of its section. -/
theorem exists_components_of_mem {room : Nat} {members : List (Quoted × Node)}
    {cut : Option Json.Break} {rubric : Rubric}
    (h : read room (.object members cut) = .ok rubric) {member : Quoted × Node}
    (hmember : member ∈ members) {category : Category}
    (hname : member.1.text = .ok (sectionKey category)) :
    ∃ inner, room = inner + 1
      ∧ Json.readMap Component.read inner member.2 = .ok (rubric.components category) := by
  cases category with
  | kernelPrimitive =>
    obtain ⟨inner, change, start, rfl, hread, rfl⟩ :=
      Json.exists_read_of_mem independent_fields h hmember (f := shape.fields[1]) hname rfl
    obtain ⟨map, hmap, rfl⟩ := map_eq_ok_iff.1 hread
    exact ⟨inner, rfl, hmap⟩
  | platformService =>
    obtain ⟨inner, change, start, rfl, hread, rfl⟩ :=
      Json.exists_read_of_mem independent_fields h hmember (f := shape.fields[2]) hname rfl
    obtain ⟨map, hmap, rfl⟩ := map_eq_ok_iff.1 hread
    exact ⟨inner, rfl, hmap⟩

/-- A rubric that is a list has three parts. -/
theorem exists_of_read_array {room : Nat} {nodes : List Node} {cut : Option Json.Break}
    {rubric : Rubric} (h : read room (.array nodes cut) = .ok rubric) :
    ∃ inner metadata kernel services, room = inner + 1 ∧ nodes = [metadata, kernel, services]
      ∧ cut = none
      ∧ Json.readMap Component.read inner kernel = .ok rubric.kernelPrimitives
      ∧ Json.readMap Component.read inner services = .ok rubric.platformServices := by
  obtain ⟨inner, rfl, h⟩ := Json.enter_eq_ok_iff.1 h
  -- A shorter list fails at the first part that it lacks, a longer one at the first one too many.
  match nodes, h with
  | [], h =>
    obtain ⟨-, h⟩ := check_bind_eq_ok_iff.1 h
    obtain ⟨-, h⟩ := check_bind_eq_ok_iff.1 h
    exact absurd h nofun
  | [metadata], h =>
    obtain ⟨change, -, h⟩ := bind_eq_ok_iff.1 h
    obtain ⟨-, h⟩ := check_bind_eq_ok_iff.1 h
    exact absurd h nofun
  | [metadata, kernel], h =>
    obtain ⟨change, -, h⟩ := bind_eq_ok_iff.1 h
    obtain ⟨change', -, h⟩ := bind_eq_ok_iff.1 h
    obtain ⟨-, h⟩ := check_bind_eq_ok_iff.1 h
    exact absurd h nofun
  | [metadata, kernel, services], h =>
    obtain ⟨change, -, h⟩ := bind_eq_ok_iff.1 h
    obtain ⟨change', hkernel, h⟩ := bind_eq_ok_iff.1 h
    obtain ⟨change'', hservices, h⟩ := bind_eq_ok_iff.1 h
    obtain ⟨hcut, h⟩ := check_bind_eq_ok_iff.1 h
    obtain ⟨map, hmap, rfl⟩ := map_eq_ok_iff.1 hkernel
    obtain ⟨map', hmap', rfl⟩ := map_eq_ok_iff.1 hservices
    obtain rfl := Except.ok.inj h
    exact ⟨inner, metadata, kernel, services, rfl, rfl, Json.whole_eq_ok_iff.1 hcut, hmap, hmap'⟩
  | metadata :: kernel :: services :: more :: rest, h =>
    obtain ⟨change, -, h⟩ := bind_eq_ok_iff.1 h
    obtain ⟨change', -, h⟩ := bind_eq_ok_iff.1 h
    obtain ⟨change'', -, h⟩ := bind_eq_ok_iff.1 h
    exact absurd h nofun

/-- A rubric has a section for every category. -/
theorem exists_hasSection {room : Nat} {node : Node} {rubric : Rubric}
    (h : read room node = .ok rubric) (category : Category) :
    ∃ entries, HasSection node category entries := by
  rcases Json.exists_of_readRecord h with ⟨members, cut, rfl⟩ | ⟨nodes, cut, rfl⟩
  · obtain ⟨f, hf, hrequired, hkey⟩ :
        ∃ f ∈ shape.fields, f.required ∧ f.name = sectionKey category := by
      cases category with
      | kernelPrimitive => exact ⟨shape.fields[1], List.getElem_mem _, rfl, rfl⟩
      | platformService => exact ⟨shape.fields[2], List.getElem_mem _, rfl, rfl⟩
    obtain ⟨⟨name, node⟩, hmember, hname⟩ := Json.exists_mem_of_required h hf hrequired
    rw [hkey] at hname
    obtain ⟨inner, -, hread⟩ := exists_components_of_mem h hmember hname
    obtain ⟨entries, cut', rfl⟩ := exists_of_readMap hread
    exact ⟨entries, .member hmember hname⟩
  · obtain ⟨inner, metadata, kernel, services, -, rfl, -, hkernel, hservices⟩ :=
      exists_of_read_array h
    obtain ⟨entries, _, rfl⟩ := exists_of_readMap hkernel
    obtain ⟨entries', _, rfl⟩ := exists_of_readMap hservices
    cases category with
    | kernelPrimitive => exact ⟨entries, .kernel⟩
    | platformService => exact ⟨entries', .services⟩

/-- The components of a category are those that the members of its section are read as. -/
theorem components_of_hasSection {room : Nat} {node : Node} {rubric : Rubric}
    (h : read room node = .ok rubric) {category : Category} {entries : List (Quoted × Node)}
    (hsection : HasSection node category entries) :
    ∃ inner pairs, room = inner + 2 ∧ Json.ReadAs Component.read inner entries pairs
      ∧ rubric.components category = .ofList pairs := by
  obtain ⟨outer, cut, rfl, hread⟩ : ∃ outer cut, room = outer + 1
      ∧ Json.readMap Component.read outer (.object entries cut)
        = .ok (rubric.components category) := by
    cases hsection with
    | member hmember hname =>
      obtain ⟨outer, hroom, hread⟩ := exists_components_of_mem h hmember hname
      exact ⟨outer, _, hroom, hread⟩
    | kernel =>
      obtain ⟨outer, _, _, _, hroom, hnodes, -, hkernel, -⟩ := exists_of_read_array h
      obtain ⟨-, rfl, -⟩ := by simpa using hnodes
      exact ⟨outer, _, hroom, hkernel⟩
    | services =>
      obtain ⟨outer, _, _, _, hroom, hnodes, -, -, hservices⟩ := exists_of_read_array h
      obtain ⟨-, -, rfl⟩ := by simpa using hnodes
      exact ⟨outer, _, hroom, hservices⟩
  obtain ⟨inner, pairs, rfl, -, hpairs, hmap⟩ := Json.readMap_eq_ok_iff.1 hread
  exact ⟨inner, pairs, rfl, hpairs, hmap⟩

/-! ## Texts -/

/-- A text is accepted as a rubric just when it is a document that is read as a valid one. -/
theorem ofText_eq_ok_iff_isDocument {path : Path} {text : List Char} {rubric : Rubric} :
    ofText path text = .ok rubric
      ↔ ∃ node, Json.IsDocument node text ∧ read Json.depthLimit node = .ok rubric
        ∧ rubric.validate = .ok () := by
  rw [ofText_eq_ok_iff, read, Json.decode_readRecord_eq_ok_iff]
  simp only [← and_assoc, exists_and_right]

/-- An accepted rubric is read from every node that its text is a document of. -/
theorem read_of_ofText {path : Path} {text : List Char} {rubric : Rubric}
    (h : ofText path text = .ok rubric) {node : Node} (hdocument : Json.IsDocument node text) :
    read Json.depthLimit node = .ok rubric := by
  obtain ⟨other, hother, hread, -⟩ := ofText_eq_ok_iff_isDocument.1 h
  rwa [hother.eq hdocument] at hread

/-- A text that is accepted as a rubric is the document of one node. Every document in which the
members of the rubric and of its components stand in another order, and among others of any kind, is
accepted as the same rubric. The components of a category have the names of the members of its
section, in the order in which they first occur, and each name has the component of its last
member. -/
theorem ofText_rearranged {path : Path} {text : List Char} {rubric : Rubric}
    (h : ofText path text = .ok rubric) :
    (∃! node, Json.IsDocument node text) ∧ ∀ node, Json.IsDocument node text →
      (∀ path' node' text', Rearranges node node' → Json.IsDocument node' text' →
        ofText path' text' = .ok rubric)
      ∧ ∀ category, (∃ entries, HasSection node category entries)
        ∧ ∀ entries, HasSection node category entries →
          ∃ pairs, Json.ReadAs Component.read (Json.depthLimit - 2) entries pairs
            ∧ (rubric.components category).names = (pairs.map Prod.fst).eraseDups
            ∧ ∀ name, (rubric.components category).get? name = pairs.reverse.lookup name := by
  obtain ⟨node, hdocument, -, hvalid⟩ := ofText_eq_ok_iff_isDocument.1 h
  refine ⟨⟨node, hdocument, fun other hother => hother.eq hdocument⟩, fun other hother => ?_⟩
  have hread := read_of_ofText h hother
  refine ⟨fun path' node' text' hrearranges hdocument' => ?_, fun category =>
    ⟨exists_hasSection hread category, fun entries hsection => ?_⟩⟩
  · have hread' := agrees_read hrearranges hdocument'.hasText _ rubric hread
    exact ofText_eq_ok_iff_isDocument.2 ⟨node', hdocument', hread', hvalid⟩
  · obtain ⟨inner, pairs, hroom, hpairs, hcomponents⟩ := components_of_hasSection hread hsection
    obtain rfl : Json.depthLimit - 2 = inner := by omega
    refine ⟨pairs, hpairs, ?_, fun name => ?_⟩
    · rw [hcomponents, OrderedMap.names_ofList]
    · rw [hcomponents, OrderedMap.get?_ofList]

/-- Members that were written are read under their names. -/
theorem names_of_readAs {α : Type} {value : Json.Reader α} {room : Nat}
    {members : List (String × Json.Value)} {pairs : List (String × α)}
    (h : Json.ReadAs value room (Json.memberNodes members) pairs) :
    pairs.map Prod.fst = members.map Prod.fst := by
  induction members generalizing pairs with
  | nil =>
    cases h
    rfl
  | cons member members ih =>
    obtain ⟨name, written⟩ := member
    obtain - | ⟨⟨hname, -⟩, hrest⟩ := h
    rw [List.map_cons, List.map_cons, ih hrest,
      Except.ok.inj (hname.symm.trans (Json.text_quoted name))]

/-- The members of a component with one cue. -/
def partMembers (weight : UInt64) (cue : String) : List (String × Json.Value) :=
  [("weight", .word weight), ("criticality", .string "low"), ("evidence_cues", .strings [cue]),
    ("target_functions", .word 1), ("target_sloc", .word 1)]

/-- A section in which a component occurs twice, around a component with the given members. -/
def poolSection (timer : List (String × Json.Value)) : Json.Value :=
  .object [("pool", .object (partMembers 1 "pool")), ("timer", .object timer),
    ("pool", .object (partMembers 3 "arena"))]

/-- A rubric with such a section. -/
def pools : Json.Value :=
  .object
    [("kernel_primitives", poolSection (partMembers 2 "tick")),
     ("os_platform_services", .object [])]

/-- The members that are added to its timer. -/
def timerNotes : List (String × Json.Value) :=
  [("kernel_primitives", .string "\"")]

/-- The members that are added to the rubric. -/
def poolNotes : List (String × Json.Value) :=
  [("notes", .array [.object [("weight", .null)]])]

/-- The same rubric with these members and with its sections exchanged. -/
def annotatedPools : Json.Value :=
  .object <| poolNotes
    ++ [("os_platform_services", .object []),
        ("kernel_primitives", poolSection (timerNotes ++ partMembers 2 "tick"))]

/-- Both are accepted as one rubric, and the pool that occurs twice keeps its place. -/
theorem ofText_rearranged_pools :
    ∃ rubric, ofText ⟨"rubric.json"⟩ pools.text = .ok rubric
      ∧ ofText ⟨"notes.json"⟩ annotatedPools.text = .ok rubric
      ∧ (rubric.components .kernelPrimitive).names = ["pool", "timer"] := by
  have hreads : (ofText ⟨"rubric.json"⟩ pools.text).isOk := by decide +kernel
  obtain ⟨rubric, hrubric⟩ := isOk_iff.1 hreads
  obtain ⟨-, hdocument⟩ := ofText_rearranged hrubric
  obtain ⟨hother, hsections⟩ := hdocument _ (Json.isDocument_text pools)
  have hunknown : ∀ {key : String} {value : Json.Value} {names : List String}, key ∉ names →
      ∀ member ∈ [Json.memberNode (key, value)],
        ∃ name, member.1.text = .ok name ∧ name ∉ names := by
    intro key value names hkey member hmember
    rw [List.mem_singleton.1 hmember]
    exact ⟨key, Json.text_quoted key, hkey⟩
  refine ⟨rubric, hrubric, ?_, ?_⟩
  · have htimer : Component.Rearranges (Json.Value.object (partMembers 2 "tick")).node
        (Json.Value.object (timerNotes ++ partMembers 2 "tick")).node :=
      .object ⟨Json.memberNodes timerNotes, hunknown (by decide), .refl _⟩
    have hsection : SectionRearranges (poolSection (partMembers 2 "tick")).node
        (poolSection (timerNotes ++ partMembers 2 "tick")).node :=
      .object (.cons ⟨rfl, .same _⟩ (.cons ⟨rfl, htimer⟩ (.cons ⟨rfl, .same _⟩ .nil)))
    have hmembers : List.Forall₂ MemberRearranges
        (Json.memberNodes [("kernel_primitives", poolSection (partMembers 2 "tick")),
          ("os_platform_services", .object [])])
        (Json.memberNodes [("kernel_primitives", poolSection (timerNotes ++ partMembers 2 "tick")),
          ("os_platform_services", .object [])]) :=
      .cons ⟨rfl, .inr ⟨.kernelPrimitive, Json.text_quoted _, hsection⟩⟩ (.cons ⟨rfl, .inl rfl⟩ .nil)
    have hrearranges : Rearranges pools.node annotatedPools.node :=
      .object hmembers
        ⟨Json.memberNodes poolNotes, hunknown (by decide), .cons _ (.swap _ _ _)⟩
    exact hother _ annotatedPools.node _ hrearranges (Json.isDocument_text annotatedPools)
  · obtain ⟨pairs, hpairs, hnames, -⟩ := (hsections .kernelPrimitive).2 _
      (.member List.mem_cons_self (Json.text_quoted _))
    have hfirst : pairs.map Prod.fst = ["pool", "timer", "pool"] := names_of_readAs hpairs
    rw [hnames, hfirst]
    decide

end Rubric

end RubricScore
