import RubricScore.Proofs.Json.Written

/-!
# The lines of a written value

A document is laid out line by line: the brackets of a container that is not empty stand on lines of
their own, with every element or member one level deeper between them, and two spaces stand in front
of a line for each level. The lines of a value are made from those of its parts, without regard to
the level at which it will stand.

## Main definitions

* `Value.lines`: the lines of a value;
* `IsPretty`: a text of a value that is laid out in its lines.

## Main results

* `isPretty_text`: the text that is written for a value is laid out in its lines.
-/

namespace RubricScore.Json

/-- A line of a document. -/
structure Row where
  /-- Number of containers around it. -/
  level : Nat
  /-- What stands in it behind the indentation. -/
  text : List Char

namespace Row

/-- The line with its indentation. -/
def written (row : Row) : List Char :=
  List.replicate (2 * row.level) ' ' ++ row.text

/-- The line inside one more container. -/
def deeper (row : Row) : Row :=
  { row with level := row.level + 1 }

end Row

/-- Lines with a text in front of the first one. -/
def behind (front : List Char) : List Row → List Row
  | [] => []
  | first :: rest => { first with text := front ++ first.text } :: rest

/-- Lines with a comma behind the last one. -/
def continued : List Row → List Row
  | [] => []
  | [last] => [{ last with text := last.text ++ [','] }]
  | first :: next :: rest => first :: continued (next :: rest)

/-- The lines of parts that follow each other, each but the last with a comma behind it. -/
def separated : List (List Row) → List Row
  | [] => []
  | [part] => part
  | part :: next :: parts => continued part ++ separated (next :: parts)

/-- The lines of a container with the given parts. One without parts is on one line. -/
def enclosed (opening closing : Char) (parts : List (List Row)) : List Row :=
  match parts with
  | [] => [⟨0, [opening, closing]⟩]
  | parts => ⟨0, [opening]⟩ :: (separated parts).map Row.deeper ++ [⟨0, [closing]⟩]

mutual

/-- The lines of a value. -/
def Value.lines : Value → List Row
  | .null => [⟨0, "null".toList⟩]
  | .bool true => [⟨0, "true".toList⟩]
  | .bool false => [⟨0, "false".toList⟩]
  | .number n => [⟨0, n.text⟩]
  | .string s => [⟨0, stringText s⟩]
  | .array items => enclosed '[' ']' (itemLines items)
  | .object members => enclosed '\x7b' '\x7d' (memberLines members)

/-- The lines of each element. -/
def itemLines : List Value → List (List Row)
  | [] => []
  | item :: items => item.lines :: itemLines items

/-- The lines of each member. -/
def memberLines : List (String × Value) → List (List Row)
  | [] => []
  | member :: members => memberRows member :: memberLines members

/-- The lines of a member: its name stands in front of its value. -/
def memberRows : String × Value → List Row
  | (name, value) => behind (stringText name ++ [':', ' ']) value.lines

end

/-- The text of a document with the given lines. -/
def textOf (rows : List Row) : List Char :=
  ['\n'].intercalate (rows.map Row.written)

/-- The text is the document of a value, laid out line by line. -/
structure IsPretty (value : Value) (text : List Char) : Prop where
  /-- It stands for the value in the grammar of documents. -/
  document : IsDocument value.node text
  /-- It consists of the lines of the value. -/
  layout : text = textOf value.lines

/-! ## Writing line by line -/

/-- The text of further lines below one that stands inside so many containers, each with the line
end in front of it. -/
def textBelow (level : Nat) (rows : List Row) : List Char :=
  rows.flatMap fun row => newLine (level + row.level) ++ row.text

/-- The lines begin with one that is not indented, and this is their text in a container of so many
levels from there on. -/
def WrittenAt (level : Nat) (rows : List Row) (text : List Char) : Prop :=
  ∃ front rest, rows = ⟨0, front⟩ :: rest ∧ text = front ++ textBelow level rest

section Rows

variable {level : Nat} {rows others : List Row} {text : List Char}

theorem textBelow_cons (row : Row) :
    textBelow level (row :: rows)
      = newLine (level + row.level) ++ row.text ++ textBelow level rows :=
  List.flatMap_cons

theorem textBelow_append :
    textBelow level (rows ++ others) = textBelow level rows ++ textBelow level others :=
  List.flatMap_append

theorem textBelow_deeper : textBelow level (rows.map Row.deeper) = textBelow (level + 1) rows := by
  rw [textBelow, textBelow, List.flatMap_map]
  refine congrArg (List.flatMap · rows) (funext fun row => ?_)
  rw [Row.deeper, Nat.add_right_comm, Nat.add_assoc]

theorem WrittenAt.single (front : List Char) : WrittenAt level [⟨0, front⟩] front :=
  ⟨front, [], rfl, (List.append_nil front).symm⟩

/-- A line end goes in front of the lines. -/
theorem WrittenAt.newLine_append (h : WrittenAt level rows text) :
    newLine level ++ text = textBelow level rows := by
  obtain ⟨front, rest, rfl, rfl⟩ := h
  rw [textBelow_cons, List.append_assoc]
  rfl

theorem WrittenAt.behind (h : WrittenAt level rows text) (front : List Char) :
    WrittenAt level (behind front rows) (front ++ text) := by
  obtain ⟨first, rest, rfl, rfl⟩ := h
  exact ⟨front ++ first, rest, rfl, (List.append_assoc _ _ _).symm⟩

theorem textBelow_continued (hne : rows ≠ []) :
    textBelow level (continued rows) = textBelow level rows ++ [','] := by
  induction rows with
  | nil => exact absurd rfl hne
  | cons first rest ih =>
    cases rest with
    | nil => simp [continued, textBelow]
    | cons next rest =>
      rw [continued, textBelow_cons, ih (List.cons_ne_nil next rest), textBelow_cons first,
        ← List.append_assoc]

/-- A container is written with its bracket behind the lines of its parts. -/
theorem writtenAt_enclosed {opening closing : Char} {parts : List (List Row)}
    (h : textBelow (level + 1) (separated (rows :: parts)) ++ textBelow level [⟨0, [closing]⟩]
      = text) :
    WrittenAt level (enclosed opening closing (rows :: parts)) (opening :: text) := by
  refine ⟨[opening], _, rfl, ?_⟩
  rw [← h, ← textBelow_deeper]
  exact congrArg (opening :: ·) textBelow_append.symm

theorem WrittenAt.ne_nil (h : WrittenAt level rows text) : rows ≠ [] := by
  obtain ⟨front, rest, rfl, -⟩ := h
  exact List.cons_ne_nil _ _

/-- The document of the lines is their text outside of all containers. -/
theorem WrittenAt.textOf_eq (h : WrittenAt 0 rows text) : textOf rows = text := by
  obtain ⟨front, rest, rfl, rfl⟩ := h
  have hrest : ∀ first : List Char,
      ['\n'].intercalate (first :: rest.map Row.written) = first ++ textBelow 0 rest := by
    induction rest with
    | nil => simp [List.intercalate, textBelow]
    | cons next rest ih =>
      intro first
      have hnext := ih next.written
      simp only [List.intercalate, List.map_cons, List.intersperse_cons_cons,
        List.flatten_cons] at hnext ⊢
      rw [hnext]
      simp [textBelow, Row.written, newLine]
  exact hrest front

end Rows

mutual

/-- The text of a value is that of its lines, at whatever level it stands. -/
theorem writtenAt_textAt (level : Nat) : (value : Value) →
    WrittenAt level value.lines (value.textAt level)
  | .null => by rw [Value.lines, Value.textAt]; exact .single _
  | .bool true => by rw [Value.lines, Value.textAt]; exact .single _
  | .bool false => by rw [Value.lines, Value.textAt]; exact .single _
  | .number n => by rw [Value.lines, Value.textAt]; exact .single _
  | .string s => by rw [Value.lines, Value.textAt]; exact .single _
  | .array [] => by rw [Value.lines, Value.textAt, itemLines]; exact .single _
  | .array (item :: items) => by
    -- The first element stands on a line of its own below the bracket.
    have hitem := writtenAt_textAt (level + 1) item
    rw [Value.lines, Value.textAt, itemLines, List.cons_append, List.cons_append,
      hitem.newLine_append]
    exact writtenAt_enclosed (textBelow_itemLines level items item.lines hitem.ne_nil).symm
  | .object [] => by rw [Value.lines, Value.textAt, memberLines]; exact .single _
  | .object (member :: members) => by
    have hmember := writtenAt_memberText level member
    rw [Value.lines, Value.textAt, memberLines, List.cons_append, List.cons_append,
      hmember.newLine_append]
    exact writtenAt_enclosed (textBelow_memberLines level members _ hmember.ne_nil).symm

/-- The last element is followed by the line of the bracket, the others by a comma. -/
theorem textBelow_itemLines (level : Nat) : (items : List Value) → (rows : List Row) → rows ≠ [] →
    textBelow (level + 1) rows ++ itemsText level items
      = textBelow (level + 1) (separated (rows :: itemLines items)) ++ textBelow level [⟨0, [']']⟩]
  | [], rows, _ => by
    rw [itemsText, itemLines, separated]
    simp [textBelow]
  | item :: items, rows, hne => by
    have hitem := writtenAt_textAt (level + 1) item
    have hitems := textBelow_itemLines level items item.lines hitem.ne_nil
    rw [itemsText, itemLines, separated, textBelow_append, textBelow_continued hne,
      List.append_assoc (textBelow (level + 1) rows ++ [',']), ← hitems, ← hitem.newLine_append]
    simp

/-- The text of a member is that of its lines. -/
theorem writtenAt_memberText (level : Nat) : (member : String × Value) →
    WrittenAt (level + 1) (memberRows member) (memberText level member)
  | (name, value) => by
    have hvalue := (writtenAt_textAt (level + 1) value).behind (stringText name ++ [':', ' '])
    rw [memberRows, memberText]
    simpa using hvalue

/-- The last member is followed by the line of the brace, the others by a comma. -/
theorem textBelow_memberLines (level : Nat) : (members : List (String × Value)) →
    (rows : List Row) → rows ≠ [] →
    textBelow (level + 1) rows ++ membersText level members
      = textBelow (level + 1) (separated (rows :: memberLines members))
        ++ textBelow level [⟨0, ['\x7d']⟩]
  | [], rows, _ => by
    rw [membersText, memberLines, separated]
    simp [textBelow]
  | member :: members, rows, hne => by
    have hmember := writtenAt_memberText level member
    have hmembers := textBelow_memberLines level members (memberRows member) hmember.ne_nil
    rw [membersText, memberLines, separated, textBelow_append, textBelow_continued hne,
      List.append_assoc (textBelow (level + 1) rows ++ [',']), ← hmembers,
      ← hmember.newLine_append]
    simp

end

/-- The text that is written for a value is its document, laid out line by line. -/
theorem isPretty_text (value : Value) : IsPretty value value.text :=
  ⟨isDocument_text value, (writtenAt_textAt 0 value).textOf_eq.symm⟩

/-- A value has one such text. -/
theorem IsPretty.eq_text {value : Value} {text : List Char} (h : IsPretty value text) :
    text = value.text :=
  h.layout.trans (isPretty_text value).layout.symm

/-- A rendered value is laid out line by line. -/
theorem isPretty_render (value : Value) : IsPretty value value.render.toList := by
  rw [Value.render, String.toList_ofList]
  exact isPretty_text value

example :
    textOf (Value.lines (.object [("a", .array [.word 1, .null]), ("b", .object [])]))
      = "\x7b\n  \"a\": [\n    1,\n    null\n  ],\n  \"b\": \x7b\x7d\n\x7d".toList := by
  decide

end RubricScore.Json
