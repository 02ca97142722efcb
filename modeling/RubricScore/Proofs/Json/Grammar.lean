import Mathlib.Data.List.Forall2
import RubricScore.Proofs.Json.Numeral

/-!
# Texts of nodes

Which texts a node has: the grammar of the format, stated by recursion on nodes and without reference
to the scanner. A node keeps the digits of its numbers and the elements of its strings, so that its
texts differ only in white space, in the letters of escapes and in the marks of exponents.

The scanner reads one character at a time, and it reads every text of a node as that node, whatever
the node nests and wherever it stands. The proof follows the node: after a text of it the scanner is
in a state that has read it.

## Main definitions

* `Node.SpelledBy`: the texts of a node;
* `IsDocument`: the documents of a node, with white space around it;
* `Reads`: the scanner has read a node inside the given containers.

## Main results

* `reads_spelled`: after a text of a node the scanner has read the node;
* `ofText_of_isDocument`: a document of a node is read as the node, and nothing follows it.
-/

namespace RubricScore.Json

/-! ## The grammar -/

/-- White space, or nothing. -/
def IsPad (text : List Char) : Prop :=
  ∀ c ∈ text, isBlank c

/-- One of the given texts with white space around it. -/
def Padded (spelled : List Char → Prop) (text : List Char) : Prop :=
  ∃ front own back, IsPad front ∧ spelled own ∧ IsPad back ∧ text = front ++ (own ++ back)

/-- What stands between two brackets: the parts with commas between them, or white space. -/
def Separated : List (List Char) → List Char → Prop
  | [], body => IsPad body
  | part :: parts, body => body = [','].intercalate (part :: parts)

/-- The text of a container with the given parts. -/
def Enclosed (opening closing : Char) (parts : List (List Char)) (text : List Char) : Prop :=
  ∃ body, Separated parts body ∧ text = opening :: (body ++ [closing])

/-- The number that hexadecimal digits stand for. -/
def hexValue? (start : Nat) (digits : List Char) : Option Nat :=
  digits.foldlM (fun n c => (hexDigit? c).map (n * 16 + ·)) start

/-- The texts of an element of a string. -/
inductive Glyph.SpelledBy : Glyph → List Char → Prop
  /-- A character that stands for itself. -/
  | plain {c : Char} (hcontrol : ¬ c.toNat < 0x20) (hquote : c ≠ '"') (hbackslash : c ≠ '\\') :
    SpelledBy (.char c) [c]
  /-- An escape of one letter. -/
  | letter {c d : Char} (h : escaped? c = some d) : SpelledBy (.char d) ['\\', c]
  /-- A code unit in four hexadecimal digits. -/
  | unit {digits : List Char} {n : Nat} (hlength : digits.length = 4)
    (hvalue : hexValue? 0 digits = some n) : SpelledBy (.unit n) ('\\' :: 'u' :: digits)

/-- The texts of the elements of a string, one after the other. -/
def GlyphsSpelledBy (glyphs : List Glyph) (text : List Char) : Prop :=
  ∃ parts, List.Forall₂ Glyph.SpelledBy glyphs parts ∧ text = parts.flatten

/-- The texts of a string; one that breaks off has none. -/
def Quoted.SpelledBy (quoted : Quoted) (text : List Char) : Prop :=
  quoted.cut = none ∧ ∃ body, GlyphsSpelledBy quoted.glyphs body ∧ text = '"' :: (body ++ ['"'])

mutual

/-- The texts of a node; one that is missing or breaks off has none. -/
def Node.SpelledBy : Node → List Char → Prop
  | .missing _, _ => False
  | .null, text => text = "null".toList
  | .bool b, text => text = (if b then "true" else "false").toList
  | .number numeral, text => numeral.SpelledBy text
  | .numberCut _, _ => False
  | .string quoted, text => quoted.SpelledBy text
  | .array items cut, text =>
    cut = none ∧ ∃ parts, ItemsSpelledBy items parts ∧ Enclosed '[' ']' parts text
  | .object members cut, text =>
    cut = none ∧ ∃ parts, MembersSpelledBy members parts ∧ Enclosed '\x7b' '\x7d' parts text

/-- The texts of the elements of a list, each with the white space around it. -/
def ItemsSpelledBy : List Node → List (List Char) → Prop
  | [], [] => True
  | node :: items, part :: parts => Padded node.SpelledBy part ∧ ItemsSpelledBy items parts
  | [], _ :: _ => False
  | _ :: _, [] => False

/-- The texts of the members of an object, each with the white space around it. -/
def MembersSpelledBy : List (Quoted × Node) → List (List Char) → Prop
  | [], [] => True
  | member :: members, part :: parts => MemberSpelledBy member part ∧ MembersSpelledBy members parts
  | [], _ :: _ => False
  | _ :: _, [] => False

/-- The texts of a member: a name, a colon and a value. -/
def MemberSpelledBy : Quoted × Node → List Char → Prop
  | (name, node), part =>
    ∃ front back, Padded name.SpelledBy front ∧ Padded node.SpelledBy back
      ∧ part = front ++ ':' :: back

end

/-- The documents of a node. -/
def IsDocument (node : Node) (text : List Char) : Prop :=
  Padded node.SpelledBy text

theorem itemsSpelledBy_iff {items : List Node} {parts : List (List Char)} :
    ItemsSpelledBy items parts
      ↔ List.Forall₂ (fun node part => Padded node.SpelledBy part) items parts := by
  induction items generalizing parts with
  | nil =>
    cases parts with
    | nil => exact iff_of_true trivial .nil
    | cons => exact iff_of_false id nofun
  | cons node items ih =>
    cases parts with
    | nil => exact iff_of_false id nofun
    | cons part parts => rw [ItemsSpelledBy, List.forall₂_cons, ih]

theorem membersSpelledBy_iff {members : List (Quoted × Node)} {parts : List (List Char)} :
    MembersSpelledBy members parts ↔ List.Forall₂ MemberSpelledBy members parts := by
  induction members generalizing parts with
  | nil =>
    cases parts with
    | nil => exact iff_of_true trivial .nil
    | cons => exact iff_of_false id nofun
  | cons member members ih =>
    cases parts with
    | nil => exact iff_of_false id nofun
    | cons part parts => rw [MembersSpelledBy, List.forall₂_cons, ih]

theorem isPad_nil : IsPad [] :=
  fun _ hc => absurd hc List.not_mem_nil

theorem isPad_append {front back : List Char} : IsPad (front ++ back) ↔ IsPad front ∧ IsPad back :=
  List.forall_mem_append

section Pads

variable {spelled : List Char → Prop} {text pad : List Char}

/-- A text may stand without white space. -/
theorem Padded.of (h : spelled text) : Padded spelled text :=
  ⟨[], text, [], isPad_nil, h, isPad_nil, by simp⟩

theorem Padded.prepend (h : Padded spelled text) (hpad : IsPad pad) :
    Padded spelled (pad ++ text) := by
  obtain ⟨front, own, back, hfront, hown, hback, rfl⟩ := h
  exact ⟨pad ++ front, own, back, isPad_append.2 ⟨hpad, hfront⟩, hown, hback, by simp⟩

theorem Padded.append (h : Padded spelled text) (hpad : IsPad pad) :
    Padded spelled (text ++ pad) := by
  obtain ⟨front, own, back, hfront, hown, hback, rfl⟩ := h
  exact ⟨front, own, back ++ pad, hfront, hown, isPad_append.2 ⟨hback, hpad⟩, by simp⟩

theorem MemberSpelledBy.prepend {member : Quoted × Node} (h : MemberSpelledBy member text)
    (hpad : IsPad pad) : MemberSpelledBy member (pad ++ text) := by
  obtain ⟨name, node⟩ := member
  obtain ⟨front, back, hfront, hback, rfl⟩ := h
  exact ⟨pad ++ front, back, hfront.prepend hpad, hback, by simp⟩

theorem MemberSpelledBy.append {member : Quoted × Node} (h : MemberSpelledBy member text)
    (hpad : IsPad pad) : MemberSpelledBy member (text ++ pad) := by
  obtain ⟨name, node⟩ := member
  obtain ⟨front, back, hfront, hback, rfl⟩ := h
  exact ⟨front, back ++ pad, hfront, hback.append hpad, by simp⟩

end Pads

/-- A node that has a text is whole. -/
theorem Node.SpelledBy.cut?_eq_none {node : Node} {text : List Char} (h : node.SpelledBy text) :
    node.cut? = none := by
  cases node with
  | missing => exact h.elim
  | numberCut => exact h.elim
  | null => rfl
  | bool => rfl
  | number => rfl
  | string => exact h.1
  | array => exact h.1
  | object => exact h.1

/-! ## Nodes that have texts -/

/-- The node stands in some document. -/
def Node.HasText (node : Node) : Prop :=
  ∃ text, node.SpelledBy text

theorem Node.HasText.cut?_eq_none {node : Node} (h : node.HasText) : node.cut? = none := by
  obtain ⟨text, htext⟩ := h
  exact htext.cut?_eq_none

theorem IsDocument.hasText {node : Node} {text : List Char} (h : IsDocument node text) :
    node.HasText := by
  obtain ⟨-, own, -, -, hown, -, -⟩ := h
  exact ⟨own, hown⟩

/-- The values of the members of an object have texts. -/
theorem Node.HasText.member {members : List (Quoted × Node)} {cut : Option Break}
    (h : (Node.object members cut).HasText) {member : Quoted × Node} (hmember : member ∈ members) :
    member.2.HasText := by
  obtain ⟨text, -, parts, hparts, -⟩ := h
  rw [membersSpelledBy_iff] at hparts
  induction hparts with
  | nil => exact absurd hmember List.not_mem_nil
  | @cons first part rest _ hfirst _ ih =>
    rcases List.mem_cons.1 hmember with rfl | hin
    · obtain ⟨name, node⟩ := member
      obtain ⟨-, back, -, hback, -⟩ := hfirst
      exact IsDocument.hasText hback
    · exact ih hin

/-- The elements of a list have texts. -/
theorem Node.HasText.item {items : List Node} {cut : Option Break}
    (h : (Node.array items cut).HasText) {item : Node} (hitem : item ∈ items) : item.HasText := by
  obtain ⟨text, -, parts, hparts, -⟩ := h
  rw [itemsSpelledBy_iff] at hparts
  induction hparts with
  | nil => exact absurd hitem List.not_mem_nil
  | cons hfirst _ ih =>
    rcases List.mem_cons.1 hitem with rfl | hin
    · exact IsDocument.hasText hfirst
    · exact ih hin

/-! ## Parts of containers -/

/-- The parts of a container, the first one in front. -/
theorem intercalate_cons (part : List Char) (parts : List (List Char)) :
    [','].intercalate (part :: parts) = part ++ parts.flatMap (',' :: ·) := by
  induction parts generalizing part with
  | nil => simp [List.intercalate]
  | cons next parts ih =>
    have hnext := ih next
    simp only [List.intercalate, List.intersperse_cons_cons, List.flatten_cons,
      List.flatMap_cons] at hnext ⊢
    rw [hnext]
    simp

/-! ## States that have read a node -/

/-- The scanner has read a node inside the given containers: a separator is taken as what follows the
node, and at the end of the text the node is whole. A number may still be open. -/
structure Reads (state : State) (stack : List Frame) (node : Node) : Prop where
  /-- A separator follows the node. -/
  separator : ∀ c, IsSeparator c → step state c = stepAfter stack node c
  /-- The text may end here. -/
  ended : atEnd state = stopBetween .ended (some node) stack

theorem reads_afterValue (stack : List Frame) (node : Node) :
    Reads ⟨stack, .afterValue node⟩ stack node :=
  ⟨fun _ _ => rfl, rfl⟩

/-! ## White space -/

/-- A state that skips white space stays as it is. -/
theorem foldl_step_pad {state : State} (h : ∀ c, isBlank c → step state c = state)
    {pad : List Char} (hpad : IsPad pad) : pad.foldl step state = state := by
  induction pad with
  | nil => rfl
  | cons c rest ih =>
    rw [List.foldl_cons, h c (hpad c List.mem_cons_self)]
    exact ih fun d hd => hpad d (List.mem_cons_of_mem _ hd)

theorem step_value_blank (stack : List Frame) {c : Char} (h : isBlank c) :
    step ⟨stack, .value⟩ c = ⟨stack, .value⟩ :=
  if_pos h

theorem step_firstItem_blank (stack : List Frame) {c : Char} (h : isBlank c) :
    step ⟨stack, .firstItem⟩ c = ⟨stack, .firstItem⟩ :=
  if_pos h

theorem step_firstName_blank (stack : List Frame) {c : Char} (h : isBlank c) :
    step ⟨stack, .firstName⟩ c = ⟨stack, .firstName⟩ :=
  if_pos h

theorem step_name_blank (stack : List Frame) {c : Char} (h : isBlank c) :
    step ⟨stack, .name⟩ c = ⟨stack, .name⟩ :=
  if_pos h

theorem step_colon_blank (stack : List Frame) {c : Char} (h : isBlank c) :
    step ⟨stack, .colon⟩ c = ⟨stack, .colon⟩ :=
  if_pos h

theorem step_afterValue_blank (stack : List Frame) (node : Node) {c : Char} (h : isBlank c) :
    step ⟨stack, .afterValue node⟩ c = ⟨stack, .afterValue node⟩ :=
  if_pos h

/-- White space ends a number that is still open, and changes nothing else. -/
theorem Reads.foldl_pad {state : State} {stack : List Frame} {node : Node}
    (h : Reads state stack node) {pad : List Char} (hpad : IsPad pad) :
    Reads (pad.foldl step state) stack node := by
  cases pad with
  | nil => exact h
  | cons c rest =>
    have hc := hpad c List.mem_cons_self
    have hafter : stepAfter stack node c = ⟨stack, .afterValue node⟩ := if_pos hc
    rw [List.foldl_cons, h.separator c (.inl hc), hafter,
      foldl_step_pad (fun d hd => step_afterValue_blank stack node hd)
        fun d hd => hpad d (List.mem_cons_of_mem _ hd)]
    exact reads_afterValue stack node

/-! ## Strings -/

section Strings

variable (stack : List Frame) (isName : Bool) (glyphs : List Glyph)

theorem utf8Size_of_hexDigit? {c : Char} {n : Nat} (h : hexDigit? c = some n) : c.utf8Size = 1 := by
  have hsize : ∀ {last : Char}, last.val ≤ 0x7f → c ≤ last → c.utf8Size = 1 := by
    intro last hlast hc
    exact if_pos (UInt32.le_trans hc hlast)
  unfold hexDigit? at h
  split at h
  · next hc => exact hsize (by decide) hc.2
  · split at h
    · next hc => exact hsize (by decide) hc.2
    · split at h
      · next hc => exact hsize (by decide) hc.2
      · exact absurd h (by simp)

/-- The digits of an escape are read up to the last one. -/
theorem foldl_step_hex {digits : List Char} {bytes start n : Nat} (hne : digits ≠ [])
    (hbytes : bytes + digits.length = 4) (hvalue : hexValue? start digits = some n) :
    digits.foldl step ⟨stack, .string isName glyphs (.hex bytes (some start))⟩
      = ⟨stack, .string isName (.unit n :: glyphs) .none⟩ := by
  induction digits generalizing bytes start with
  | nil => exact absurd rfl hne
  | cons c rest ih =>
    rw [hexValue?, List.foldlM_cons] at hvalue
    obtain ⟨next, hnext, hrest⟩ := Option.bind_eq_some_iff.1 hvalue
    obtain ⟨digit, hdigit, rfl⟩ := Option.map_eq_some_iff.1 hnext
    have hsize := utf8Size_of_hexDigit? hdigit
    rw [List.length_cons] at hbytes
    rw [List.foldl_cons]
    cases rest with
    | nil =>
      -- The fourth digit makes the code unit complete.
      obtain rfl : start * 16 + digit = n := Option.some.inj hrest
      have hlast : ¬ bytes + 1 < 4 := by simpa using hbytes.ge
      simp [step, stepString, hdigit, hsize, hlast]
    | cons d others =>
      have hmore : bytes + 1 < 4 := by
        rw [List.length_cons] at hbytes
        omega
      have hstep : step ⟨stack, .string isName glyphs (.hex bytes (some start))⟩ c
          = ⟨stack, .string isName glyphs (.hex (bytes + 1) (some (start * 16 + digit)))⟩ := by
        simp [step, stepString, hdigit, hsize, hmore]
      rw [hstep]
      exact ih (List.cons_ne_nil _ _) (by omega) hrest

/-- A text of an element of a string is read as the element. -/
theorem foldl_step_glyph {glyph : Glyph} {text : List Char} (h : glyph.SpelledBy text) :
    text.foldl step ⟨stack, .string isName glyphs .none⟩
      = ⟨stack, .string isName (glyph :: glyphs) .none⟩ := by
  cases h with
  | plain hcontrol hquote hbackslash => simp [step, stepString, hcontrol, hquote, hbackslash]
  | @letter c d hescaped =>
    have hletter : c ≠ 'u' := by
      rintro rfl
      exact Option.some_ne_none d hescaped.symm
    simp [step, stepString, hescaped, hletter]
  | @unit digits n hlength hvalue =>
    have hne : digits ≠ [] := List.ne_nil_of_length_pos (by omega)
    have hbytes : 0 + digits.length = 4 := by omega
    -- The backslash and its letter open the escape.
    exact foldl_step_hex stack isName glyphs hne hbytes hvalue

/-- The elements of a string are read one after the other. -/
theorem foldl_step_glyphs {added : List Glyph} {text : List Char} (h : GlyphsSpelledBy added text) :
    text.foldl step ⟨stack, .string isName glyphs .none⟩
      = ⟨stack, .string isName (added.reverse ++ glyphs) .none⟩ := by
  obtain ⟨parts, hparts, rfl⟩ := h
  induction hparts generalizing glyphs with
  | nil => rfl
  | cons hpart _ ih =>
    rw [List.flatten_cons, List.foldl_append, foldl_step_glyph stack isName glyphs hpart, ih]
    simp

/-- A string is read to its closing quote. -/
theorem foldl_step_quoted {quoted : Quoted} {body : List Char} (hcut : quoted.cut = none)
    (hbody : GlyphsSpelledBy quoted.glyphs body) :
    (body ++ ['"']).foldl step ⟨stack, .string isName [] .none⟩
      = stringEnded stack isName quoted := by
  rw [List.foldl_append, foldl_step_glyphs stack isName [] hbody, List.append_nil]
  obtain ⟨glyphs, cut⟩ := quoted
  obtain rfl : cut = none := hcut
  simp [step, stepString]

end Strings

/-! ## The first character of a value -/

/-- The text of a value starts with a character that is neither white space nor a closing bracket. -/
def StartsValue (text : List Char) : Prop :=
  ∃ c rest, text = c :: rest ∧ isBlank c = false ∧ c ≠ ']'

theorem startsValue_numeral {n : Numeral} {text : List Char} (h : n.SpelledBy text) :
    StartsValue text := by
  obtain ⟨hform, exponent, -, rfl⟩ := h
  have hdigit : ∀ {c : Char}, Binary64.isDigit c → isBlank c = false ∧ c ≠ ']' := by
    intro c hc
    refine ⟨isBlank_of_isDigit hc, ?_⟩
    rintro rfl
    exact absurd hc (by decide)
  -- Some digit stands before the point, and only a sign may stand before it.
  obtain ⟨c, rest, hwhole⟩ : ∃ c rest, n.whole = c :: rest := by
    rcases hform.whole with hzero | ⟨c, rest, heq, -⟩
    · exact ⟨_, _, hzero⟩
    · exact ⟨c, rest, heq⟩
  have hc := hdigit (hform.wholeDigits c (hwhole ▸ List.mem_cons_self))
  rw [hwhole]
  cases n.negative with
  | false => exact ⟨_, _, rfl, hc.1, hc.2⟩
  | true => exact ⟨_, _, rfl, by decide, by decide⟩

theorem startsValue_spelled {node : Node} {text : List Char} (h : node.SpelledBy text) :
    StartsValue text := by
  cases node with
  | missing => exact h.elim
  | numberCut => exact h.elim
  | null =>
    obtain rfl := h
    exact ⟨_, _, rfl, by decide, by decide⟩
  | bool b =>
    obtain rfl := h
    cases b <;> exact ⟨_, _, rfl, by decide, by decide⟩
  | number n => exact startsValue_numeral h
  | string quoted =>
    obtain ⟨-, body, -, rfl⟩ := h
    exact ⟨_, _, rfl, by decide, by decide⟩
  | array items cut =>
    obtain ⟨-, parts, -, body, -, rfl⟩ := h
    exact ⟨_, _, rfl, by decide, by decide⟩
  | object members cut =>
    obtain ⟨-, parts, -, body, -, rfl⟩ := h
    exact ⟨_, _, rfl, by decide, by decide⟩

/-- The first element of a list is read like any other value. -/
theorem foldl_step_firstItem {node : Node} {part : List Char} (h : Padded node.SpelledBy part)
    (stack : List Frame) :
    part.foldl step ⟨stack, .firstItem⟩ = part.foldl step ⟨stack, .value⟩ := by
  obtain ⟨front, own, back, hfront, hown, -, rfl⟩ := h
  -- Only a closing bracket would be taken differently there.
  obtain ⟨c, rest, rfl, hblank, hne⟩ := startsValue_spelled hown
  have hfirst : step ⟨stack, .firstItem⟩ c = step ⟨stack, .value⟩ c := by
    simp only [step, hblank, hne, Bool.false_eq_true, if_false]
  rw [List.foldl_append (l := front), List.foldl_append (l := front),
    foldl_step_pad (fun d hd => step_firstItem_blank stack hd) hfront,
    foldl_step_pad (fun d hd => step_value_blank stack hd) hfront, List.cons_append,
    List.foldl_cons, List.foldl_cons, hfirst]

/-! ## Values -/

/-- White space around a value changes nothing. -/
theorem reads_padded {node : Node} {stack : List Frame}
    (h : ∀ own, node.SpelledBy own → Reads (own.foldl step ⟨stack, .value⟩) stack node)
    {part : List Char} (hpart : Padded node.SpelledBy part) :
    Reads (part.foldl step ⟨stack, .value⟩) stack node := by
  obtain ⟨front, own, back, hfront, hown, hback, rfl⟩ := hpart
  rw [List.foldl_append, foldl_step_pad (fun c hc => step_value_blank stack hc) hfront,
    List.foldl_append]
  exact (h own hown).foldl_pad hback

theorem reads_numeral {n : Numeral} {text : List Char} (h : n.SpelledBy text)
    (stack : List Frame) : Reads (text.foldl step ⟨stack, .value⟩) stack (.number n) := by
  rw [Numeral.foldl_step_spelled h stack]
  constructor
  · intro c hc
    simp only [step, n.next?_phase hc, n.numeral?_phase]
  · simp only [atEnd, n.numeral?_phase]

/-- A name is read with its colon. -/
theorem foldl_step_name {phase : Phase} (hphase : phase = .name ∨ phase = .firstName)
    (before : List (Quoted × Node)) (outer : List Frame) {name : Quoted} {front : List Char}
    (h : Padded name.SpelledBy front) :
    (front ++ [':']).foldl step ⟨.object before :: outer, phase⟩
      = ⟨.member before name :: outer, .value⟩ := by
  obtain ⟨pad, own, back, hpad, ⟨hcut, body, hbody, rfl⟩, hback, rfl⟩ := h
  have hskip : pad.foldl step ⟨.object before :: outer, phase⟩ = ⟨.object before :: outer, phase⟩ := by
    rcases hphase with rfl | rfl
    · exact foldl_step_pad (fun c hc => step_name_blank _ hc) hpad
    · exact foldl_step_pad (fun c hc => step_firstName_blank _ hc) hpad
  have hopen : step ⟨.object before :: outer, phase⟩ '"'
      = ⟨.object before :: outer, .string true [] .none⟩ := by
    rcases hphase with rfl | rfl <;> rfl
  have hended : stringEnded (.object before :: outer) true name
      = ⟨.member before name :: outer, .colon⟩ := rfl
  rw [List.append_assoc, List.foldl_append, hskip, List.append_assoc, List.cons_append,
    List.foldl_cons, hopen, List.foldl_append, foldl_step_quoted _ true hcut hbody, hended,
    List.foldl_append, foldl_step_pad (fun c hc => step_colon_blank _ hc) hback]
  rfl

mutual

/-- After a text of a node the scanner has read the node. -/
theorem reads_spelled :
    (node : Node) → (stack : List Frame) → {text : List Char} → node.SpelledBy text →
      Reads (text.foldl step ⟨stack, .value⟩) stack node
  | .missing _, _, _, h => h.elim
  | .numberCut _, _, _, h => h.elim
  | .null, stack, _, h => by
    rw [Node.SpelledBy] at h
    rw [h]
    exact reads_afterValue stack _
  | .bool true, stack, _, h => by
    rw [Node.SpelledBy] at h
    rw [h]
    exact reads_afterValue stack _
  | .bool false, stack, _, h => by
    rw [Node.SpelledBy] at h
    rw [h]
    exact reads_afterValue stack _
  | .number n, stack, _, h => reads_numeral h stack
  | .string quoted, stack, _, h => by
    obtain ⟨hcut, body, hbody, rfl⟩ := h
    have hopen : step ⟨stack, .value⟩ '"' = ⟨stack, .string false [] .none⟩ := rfl
    rw [List.foldl_cons, hopen, foldl_step_quoted stack false hcut hbody]
    exact reads_afterValue stack _
  | .array [] cut, stack, _, h => by
    obtain ⟨rfl, parts, hparts, body, hbody, rfl⟩ := h
    cases parts with
    | cons => exact hparts.elim
    | nil =>
      have hopen : step ⟨stack, .value⟩ '[' = ⟨.array [] :: stack, .firstItem⟩ := rfl
      rw [List.foldl_cons, hopen, List.foldl_append,
        foldl_step_pad (fun c hc => step_firstItem_blank _ hc) hbody]
      exact reads_afterValue stack _
  | .array (item :: items) cut, stack, _, h => by
    obtain ⟨rfl, parts, hparts, body, hbody, rfl⟩ := h
    cases parts with
    | nil => exact hparts.elim
    | cons part parts =>
      -- The state after the first element is the start of the remaining ones.
      obtain ⟨hpart, hrest⟩ := hparts
      have hfirst := reads_padded (fun own hown => reads_spelled item (.array [] :: stack) hown) hpart
      have hopen : step ⟨stack, .value⟩ '[' = ⟨.array [] :: stack, .firstItem⟩ := rfl
      rw [Separated, intercalate_cons] at hbody
      rw [hbody, List.foldl_cons, hopen, List.append_assoc, List.foldl_append,
        foldl_step_firstItem hpart]
      exact reads_items [] stack item items hrest hfirst
  | .object [] cut, stack, _, h => by
    obtain ⟨rfl, parts, hparts, body, hbody, rfl⟩ := h
    cases parts with
    | cons => exact hparts.elim
    | nil =>
      have hopen : step ⟨stack, .value⟩ '\x7b' = ⟨.object [] :: stack, .firstName⟩ := rfl
      rw [List.foldl_cons, hopen, List.foldl_append,
        foldl_step_pad (fun c hc => step_firstName_blank _ hc) hbody]
      exact reads_afterValue stack _
  | .object (member :: members) cut, stack, _, h => by
    obtain ⟨rfl, parts, hparts, body, hbody, rfl⟩ := h
    cases parts with
    | nil => exact hparts.elim
    | cons part parts =>
      obtain ⟨hpart, hrest⟩ := hparts
      have hfirst := reads_member [] stack .firstName (.inr rfl) member hpart
      have hopen : step ⟨stack, .value⟩ '\x7b' = ⟨.object [] :: stack, .firstName⟩ := rfl
      rw [Separated, intercalate_cons] at hbody
      rw [hbody, List.foldl_cons, hopen, List.append_assoc, List.foldl_append]
      exact reads_members [] stack member members hrest hfirst
termination_by structural node => node

/-- After the remaining elements and the closing bracket the scanner has read the list. -/
theorem reads_items (before : List Node) (outer : List Frame) (last : Node) :
    (items : List Node) → {parts : List (List Char)} → {state : State} →
      ItemsSpelledBy items parts → Reads state (.array before :: outer) last →
      Reads ((parts.flatMap (',' :: ·) ++ [']']).foldl step state) outer
        (.array (before.reverse ++ last :: items) none)
  | [], parts, state, hparts, h => by
    cases parts with
    | cons => exact hparts.elim
    | nil =>
      have hclose : stepAfter (.array before :: outer) last ']'
          = ⟨outer, .afterValue (.array (last :: before).reverse none)⟩ := rfl
      rw [List.flatMap_nil, List.nil_append, List.foldl_cons, h.separator ']' (.inr (.inr (.inl rfl))),
        hclose, List.reverse_cons]
      exact reads_afterValue outer _
  | item :: items, parts, state, hparts, h => by
    cases parts with
    | nil => exact hparts.elim
    | cons part parts =>
      -- The comma puts the last element to those before it, and the next one is read.
      obtain ⟨hpart, hrest⟩ := hparts
      have hitem :=
        reads_padded (fun own hown => reads_spelled item (.array (last :: before) :: outer) hown) hpart
      have hitems := reads_items (last :: before) outer item items hrest hitem
      have hcomma : stepAfter (.array before :: outer) last ','
          = ⟨.array (last :: before) :: outer, .value⟩ := rfl
      rw [List.reverse_cons, List.append_assoc] at hitems
      rw [List.flatMap_cons, List.cons_append, List.cons_append, List.foldl_cons,
        h.separator ',' (.inr (.inl rfl)), hcomma, List.append_assoc, List.foldl_append]
      exact hitems
termination_by structural items => items

/-- After a text of a member the scanner has read its value under its name. -/
theorem reads_member (before : List (Quoted × Node)) (outer : List Frame) (phase : Phase)
    (hphase : phase = .name ∨ phase = .firstName) :
    (member : Quoted × Node) → {part : List Char} → MemberSpelledBy member part →
      Reads (part.foldl step ⟨.object before :: outer, phase⟩)
        (.member before member.1 :: outer) member.2
  | (name, node), part, h => by
    obtain ⟨front, back, hfront, hback, rfl⟩ := h
    have hsplit : front ++ ':' :: back = (front ++ [':']) ++ back := by simp
    rw [hsplit, List.foldl_append, foldl_step_name hphase before outer hfront]
    exact reads_padded (fun own hown => reads_spelled node _ hown) hback
termination_by structural member => member

/-- After the remaining members and the closing brace the scanner has read the object. -/
theorem reads_members (before : List (Quoted × Node)) (outer : List Frame) (last : Quoted × Node) :
    (members : List (Quoted × Node)) → {parts : List (List Char)} → {state : State} →
      MembersSpelledBy members parts → Reads state (.member before last.1 :: outer) last.2 →
      Reads ((parts.flatMap (',' :: ·) ++ ['\x7d']).foldl step state) outer
        (.object (before.reverse ++ last :: members) none)
  | [], parts, state, hparts, h => by
    cases parts with
    | cons => exact hparts.elim
    | nil =>
      have hclose : stepAfter (.member before last.1 :: outer) last.2 '\x7d'
          = ⟨outer, .afterValue (.object (last :: before).reverse none)⟩ := rfl
      rw [List.flatMap_nil, List.nil_append, List.foldl_cons,
        h.separator '\x7d' (.inr (.inr (.inr rfl))), hclose, List.reverse_cons]
      exact reads_afterValue outer _
  | member :: members, parts, state, hparts, h => by
    cases parts with
    | nil => exact hparts.elim
    | cons part parts =>
      obtain ⟨hpart, hrest⟩ := hparts
      have hmember := reads_member (last :: before) outer .name (.inl rfl) member hpart
      have hmembers := reads_members (last :: before) outer member members hrest hmember
      have hcomma : stepAfter (.member before last.1 :: outer) last.2 ','
          = ⟨.object (last :: before) :: outer, .name⟩ := rfl
      rw [List.reverse_cons, List.append_assoc] at hmembers
      rw [List.flatMap_cons, List.cons_append, List.cons_append, List.foldl_cons,
        h.separator ',' (.inr (.inl rfl)), hcomma, List.append_assoc, List.foldl_append]
      exact hmembers
termination_by structural members => members

end

/-- A document of a node is read as the node, and nothing follows it. -/
theorem ofText_of_isDocument {node : Node} {text : List Char} (h : IsDocument node text) :
    Document.ofText text = ⟨node, false⟩ := by
  have hread := reads_padded (fun own hown => reads_spelled node [] hown) h
  rw [Document.ofText, State.initial, hread.ended]
  rfl

/-- A text is a document of one node at most. -/
theorem IsDocument.eq {node node' : Node} {text : List Char} (h : IsDocument node text)
    (h' : IsDocument node' text) : node = node' :=
  congrArg Document.value ((ofText_of_isDocument h).symm.trans (ofText_of_isDocument h'))

end RubricScore.Json
