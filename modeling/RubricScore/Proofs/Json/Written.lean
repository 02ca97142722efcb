import RubricScore.Proofs.Json.Grammar
import RubricScore.Proofs.Json.Spelling

/-!
# Written values are read back as nodes

The text that is written for a value is a text of a node that says just what was written, so it is
read as that node.

## Main definitions

* `Value.node`: what is read where a value is written.

## Main results

* `spelledBy_textAt`: the text that is written for a value is a text of its node;
* `ofText_text`: the text of a value is a document of its node and nothing else.
-/

namespace RubricScore.Json

/-! ## Nodes of values -/

/-- The element that is written for a character of a string. -/
def glyphOf (c : Char) : Glyph :=
  if c.toNat < 0x20 ∧ c ∉ ['\x08', '\x0c', '\n', '\r', '\t'] then .unit c.toNat else .char c

/-- The string as it is written. -/
def Quoted.ofString (s : String) : Quoted :=
  ⟨s.toList.map glyphOf, none⟩

/-- What is read where a number is written; one that is not finite is written as `null`. -/
def Number.node : Number → Node
  | .natural n => .number (.ofNat false n.toNat)
  | .negative n => .number (.ofNat true n)
  | .real (.finite minus m) => .number (.ofFinite minus m)
  | .real (.infinite _) => .null
  | .real (.nan _ _) => .null

mutual

/-- What is read where a value is written. -/
def Value.node : Value → Node
  | .null => .null
  | .bool b => .bool b
  | .number n => n.node
  | .string s => .string (.ofString s)
  | .array items => .array (itemNodes items) none
  | .object members => .object (memberNodes members) none

/-- The nodes of the elements of a list. -/
def itemNodes : List Value → List Node
  | [] => []
  | item :: items => item.node :: itemNodes items

/-- The nodes of the members of an object. -/
def memberNodes : List (String × Value) → List (Quoted × Node)
  | [] => []
  | member :: members => memberNode member :: memberNodes members

/-- The node of a member under its name as written. -/
def memberNode : String × Value → Quoted × Node
  | (name, value) => (.ofString name, value.node)

end

/-! ## Numbers and strings -/

theorem text_number (n : Number) :
    n.text = "null".toList ∧ n.node = .null
      ∨ ∃ numeral, numeral.WellFormed ∧ n.text = numeral.text ∧ n.node = .number numeral := by
  cases n with
  | natural n =>
    exact .inr ⟨_, Numeral.wellFormed_ofNat false n.toNat, (Numeral.text_ofNat false _).symm, rfl⟩
  | negative n => exact .inr ⟨_, Numeral.wellFormed_ofNat true n, (Numeral.text_ofNat true n).symm, rfl⟩
  | real x =>
    cases x with
    | nan => exact .inl ⟨rfl, rfl⟩
    | infinite => exact .inl ⟨rfl, rfl⟩
    | finite negative m =>
      exact .inr ⟨_, Numeral.wellFormed_ofFinite negative m, (Numeral.text_ofFinite negative m).symm,
        rfl⟩

theorem spelledBy_number (n : Number) : n.node.SpelledBy n.text := by
  rcases text_number n with ⟨htext, hnode⟩ | ⟨numeral, hform, htext, hnode⟩
  · rw [htext, hnode, Node.SpelledBy]
  · rw [htext, hnode, Node.SpelledBy]
    exact hform.spelledBy_text

theorem hexDigit?_digitChar {n : Nat} (h : n < 16) : hexDigit? (Nat.digitChar n) = some n := by
  have hall : ∀ k : Fin 16, hexDigit? (Nat.digitChar k) = some k.val := by decide
  exact hall ⟨n, h⟩

/-- What is written for a character is a text of its element. -/
theorem spelledBy_escapeChar (c : Char) : (glyphOf c).SpelledBy (escapeChar c) := by
  unfold escapeChar
  split
  case h_8 hquote hbackslash hb hf hn hr ht =>
    have hplain : c ∉ ['\x08', '\x0c', '\n', '\r', '\t'] := by
      simp only [List.mem_cons, List.not_mem_nil, or_false, not_or]
      exact ⟨hb, hf, hn, hr, ht⟩
    by_cases hcontrol : c.toNat < 0x20
    · have hhigh := hexDigit?_digitChar (n := c.toNat / 16) (by omega)
      have hlow := hexDigit?_digitChar (n := c.toNat % 16) (by omega)
      have hzero : hexDigit? '0' = some 0 := by decide
      have hvalue : hexValue? 0 (['0', '0'] ++ hexPair c.toNat) = some c.toNat := by
        simp [hexValue?, hexPair, hzero, hhigh, hlow, Nat.div_add_mod']
      rw [if_pos hcontrol, glyphOf, if_pos ⟨hcontrol, hplain⟩]
      exact .unit rfl hvalue
    · rw [if_neg hcontrol, glyphOf, if_neg fun h => hcontrol h.1]
      exact .plain hcontrol hquote hbackslash
  -- The others have escapes of one letter.
  all_goals exact .letter rfl

/-- What is written for a string is a text of it. -/
theorem spelledBy_stringText (s : String) : (Quoted.ofString s).SpelledBy (stringText s) := by
  refine ⟨rfl, s.toList.flatMap escapeChar, ⟨s.toList.map escapeChar, ?_, rfl⟩, rfl⟩
  rw [Quoted.ofString, List.forall₂_map_left_iff, List.forall₂_map_right_iff]
  exact List.forall₂_same.2 fun c _ => spelledBy_escapeChar c

/-! ## Containers -/

theorem isPad_newLine (level : Nat) : IsPad (newLine level) := by
  refine List.forall_mem_cons.2 ⟨by decide, fun c hc => ?_⟩
  rw [List.eq_of_mem_replicate hc]
  decide

mutual

/-- The text that is written for a value is a text of its node. -/
theorem spelledBy_textAt (level : Nat) : (value : Value) → value.node.SpelledBy (value.textAt level)
  | .null => by rw [Value.textAt, Value.node, Node.SpelledBy]
  | .bool true => by rw [Value.textAt, Value.node, Node.SpelledBy, if_pos rfl]
  | .bool false => by rw [Value.textAt, Value.node, Node.SpelledBy, if_neg Bool.false_ne_true]
  | .number n => by
    rw [Value.textAt, Value.node]
    exact spelledBy_number n
  | .string s => by
    rw [Value.textAt, Value.node]
    exact spelledBy_stringText s
  | .array [] => by
    rw [Value.textAt, Value.node, itemNodes]
    exact ⟨rfl, [], trivial, [], isPad_nil, rfl⟩
  | .array (item :: items) => by
    obtain ⟨part, parts, hpart, hparts, htext⟩ := spelledBy_itemsText level
      ((Padded.of (spelledBy_textAt (level + 1) item)).prepend (isPad_newLine (level + 1))) items
    rw [Value.textAt, Value.node, itemNodes]
    refine ⟨rfl, part :: parts, ⟨hpart, hparts⟩, _, rfl, ?_⟩
    rw [intercalate_cons, ← htext]
    simp
  | .object [] => by
    rw [Value.textAt, Value.node, memberNodes]
    exact ⟨rfl, [], trivial, [], isPad_nil, rfl⟩
  | .object (member :: members) => by
    obtain ⟨part, parts, hpart, hparts, htext⟩ := spelledBy_membersText level
      ((spelledBy_memberText level member).prepend (isPad_newLine (level + 1))) members
    rw [Value.textAt, Value.node, memberNodes]
    refine ⟨rfl, part :: parts, ⟨hpart, hparts⟩, _, rfl, ?_⟩
    rw [intercalate_cons, ← htext]
    simp

/-- The last element goes up to the line end before the closing bracket, the others up to a comma. -/
theorem spelledBy_itemsText (level : Nat) {last : Node} {text : List Char}
    (h : Padded last.SpelledBy text) : (items : List Value) →
      ∃ part parts, Padded last.SpelledBy part ∧ ItemsSpelledBy (itemNodes items) parts
        ∧ text ++ itemsText level items = part ++ parts.flatMap (',' :: ·) ++ [']']
  | [] => ⟨text ++ newLine level, [], h.append (isPad_newLine level), trivial, by simp [itemsText]⟩
  | item :: items => by
    obtain ⟨part, parts, hpart, hparts, htext⟩ := spelledBy_itemsText level
      ((Padded.of (spelledBy_textAt (level + 1) item)).prepend (isPad_newLine (level + 1))) items
    refine ⟨text, part :: parts, h, ⟨hpart, hparts⟩, ?_⟩
    rw [itemsText, List.cons_append, List.cons_append, htext]
    simp

/-- What is written for a member is a text of it. -/
theorem spelledBy_memberText (level : Nat) :
    (member : String × Value) → MemberSpelledBy (memberNode member) (memberText level member)
  | (name, value) => by
    refine ⟨stringText name, ' ' :: value.textAt (level + 1), Padded.of (spelledBy_stringText name),
      ?_, rfl⟩
    exact (Padded.of (spelledBy_textAt (level + 1) value)).prepend
      (List.forall_mem_singleton.2 (by decide))

/-- The last member goes up to the line end before the closing brace, the others up to a comma. -/
theorem spelledBy_membersText (level : Nat) {last : Quoted × Node} {text : List Char}
    (h : MemberSpelledBy last text) : (members : List (String × Value)) →
      ∃ part parts, MemberSpelledBy last part ∧ MembersSpelledBy (memberNodes members) parts
        ∧ text ++ membersText level members = part ++ parts.flatMap (',' :: ·) ++ ['\x7d']
  | [] => ⟨text ++ newLine level, [], h.append (isPad_newLine level), trivial, by simp [membersText]⟩
  | member :: members => by
    obtain ⟨part, parts, hpart, hparts, htext⟩ := spelledBy_membersText level
      ((spelledBy_memberText level member).prepend (isPad_newLine (level + 1))) members
    refine ⟨text, part :: parts, h, ⟨hpart, hparts⟩, ?_⟩
    rw [membersText, List.cons_append, List.cons_append, htext]
    simp

end

/-- The text of a value is a document of its node. -/
theorem isDocument_text (value : Value) : IsDocument value.node value.text :=
  Padded.of (spelledBy_textAt 0 value)

/-- The text of a value is read as its node, and nothing follows it. -/
theorem ofText_text (value : Value) : Document.ofText value.text = ⟨value.node, false⟩ :=
  ofText_of_isDocument (isDocument_text value)

end RubricScore.Json
