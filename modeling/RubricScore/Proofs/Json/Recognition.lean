import RubricScore.Proofs.Json.Grammar

/-!
# What is read is a document

The scanner keeps the open containers on a stack and the part of the value that it is reading in its
phase. Together they hold a text of everything read so far; where something stands that the format
does not allow, the value that is given is cut short. A text that is read as a whole node is
therefore a document of this node, and of no other.

## Main definitions

* `Leads`: the texts that lead into the open containers;
* `Phase.SpelledBy`: the texts of the part of a value that is being read;
* `Consumed`: what a state says about the text read so far.

## Main results

* `consumed_step`: every character keeps what the state says true;
* `isDocument_iff`: the documents of a node are the texts that are read as it and as a whole.
-/

namespace RubricScore.Json

open Binary64 (isDigit)

/-! ## Parts of numbers -/

/-- The texts of a part of a number. -/
def NumberPhase.SpelledBy (negative : Bool) : NumberPhase → List Char → Prop
  | .sign, text => negative = true ∧ text = ['-']
  | .zero, text => Numeral.SpelledBy ⟨negative, ['0'], [], none⟩ text
  | .whole digits, text =>
    digits ≠ ['0'] ∧ Numeral.SpelledBy ⟨negative, digits.reverse, [], none⟩ text
  | .point front, text =>
    ∃ before, Numeral.SpelledBy ⟨negative, front.reverse, [], none⟩ before ∧ text = before ++ ['.']
  | .fraction front digits, text =>
    digits ≠ [] ∧ Numeral.SpelledBy ⟨negative, front.reverse, digits.reverse, none⟩ text
  | .mark front back, text =>
    ∃ before mark, Numeral.SpelledBy ⟨negative, front.reverse, back.reverse, none⟩ before
      ∧ (mark = 'e' ∨ mark = 'E') ∧ text = before ++ [mark]
  | .exponentSign front back minus, text =>
    ∃ before mark, Numeral.SpelledBy ⟨negative, front.reverse, back.reverse, none⟩ before
      ∧ (mark = 'e' ∨ mark = 'E') ∧ text = before ++ [mark, if minus then '-' else '+']
  | .exponent front back minus digits, text =>
    Numeral.SpelledBy ⟨negative, front.reverse, back.reverse, some (minus, digits.reverse)⟩ text

namespace Numeral

variable {negative : Bool} {front back text : List Char} {c : Char}

/-- The text of a numeral without an exponent. -/
theorem spelledBy_none_iff :
    SpelledBy ⟨negative, front, back, none⟩ text
      ↔ WellFormed ⟨negative, front, back, none⟩
        ∧ text = Binary64.withSign negative (front ++ fractionText back) := by
  constructor
  · rintro ⟨hform, exponent, hexponent, rfl⟩
    obtain - | - | - := hexponent
    exact ⟨hform, by rw [List.append_nil]⟩
  · rintro ⟨hform, rfl⟩
    exact ⟨hform, [], .none, by rw [List.append_nil]⟩

/-- A single digit is a numeral. -/
theorem spelledBy_digit (hdigit : isDigit c) :
    SpelledBy ⟨negative, [c], [], none⟩ (Binary64.withSign negative [c]) := by
  refine spelledBy_none_iff.2 ⟨⟨?_, List.forall_mem_singleton.2 hdigit, nofun, nofun⟩, rfl⟩
  by_cases hc : c = '0'
  · exact .inl (congrArg (· :: []) hc)
  · exact .inr ⟨c, [], rfl, hc⟩

theorem SpelledBy.snoc_whole (h : SpelledBy ⟨negative, front, [], none⟩ text) (hne : front ≠ ['0'])
    (hdigit : isDigit c) : SpelledBy ⟨negative, front ++ [c], [], none⟩ (text ++ [c]) := by
  obtain ⟨hform, rfl⟩ := spelledBy_none_iff.1 h
  obtain ⟨d, rest, hfront, hd⟩ := hform.whole.resolve_left hne
  obtain rfl : front = d :: rest := hfront
  refine spelledBy_none_iff.2 ⟨⟨.inr ⟨d, rest ++ [c], rfl, hd⟩, ?_, nofun, nofun⟩, ?_⟩
  · exact List.forall_mem_append.2 ⟨hform.wholeDigits, List.forall_mem_singleton.2 hdigit⟩
  · cases negative <;> simp [Binary64.withSign, fractionText]

theorem SpelledBy.snoc_fraction (h : SpelledBy ⟨negative, front, back, none⟩ text)
    (hne : back ≠ []) (hdigit : isDigit c) :
    SpelledBy ⟨negative, front, back ++ [c], none⟩ (text ++ [c]) := by
  obtain ⟨hform, rfl⟩ := spelledBy_none_iff.1 h
  obtain ⟨d, rest, rfl⟩ := List.exists_cons_of_ne_nil hne
  refine spelledBy_none_iff.2 ⟨⟨hform.whole, hform.wholeDigits, ?_, nofun⟩, ?_⟩
  · exact List.forall_mem_append.2 ⟨hform.fractionDigits, List.forall_mem_singleton.2 hdigit⟩
  · cases negative <;> simp [Binary64.withSign, fractionText]

/-- The first digit after the point. -/
theorem SpelledBy.first_fraction (h : SpelledBy ⟨negative, front, [], none⟩ text)
    (hdigit : isDigit c) : SpelledBy ⟨negative, front, [c], none⟩ (text ++ ['.', c]) := by
  obtain ⟨hform, rfl⟩ := spelledBy_none_iff.1 h
  refine spelledBy_none_iff.2
    ⟨⟨hform.whole, hform.wholeDigits, List.forall_mem_singleton.2 hdigit, nofun⟩, ?_⟩
  cases negative <;> simp [Binary64.withSign, fractionText]

/-- The first digit of an exponent. -/
theorem SpelledBy.first_exponent (h : SpelledBy ⟨negative, front, back, none⟩ text) {minus : Bool}
    {mark : List Char} (hmark : ∀ digits, IsExponent (some (minus, digits)) (mark ++ digits))
    (hdigit : isDigit c) :
    SpelledBy ⟨negative, front, back, some (minus, [c])⟩ (text ++ (mark ++ [c])) := by
  obtain ⟨hform, rfl⟩ := spelledBy_none_iff.1 h
  refine ⟨⟨hform.whole, hform.wholeDigits, hform.fractionDigits, ?_⟩, _, hmark [c], ?_⟩
  · rintro _ _ ⟨⟩
    exact ⟨List.cons_ne_nil _ _, List.forall_mem_singleton.2 hdigit⟩
  · cases negative <;> simp [Binary64.withSign]

theorem SpelledBy.snoc_exponent {minus : Bool} {digits : List Char}
    (h : SpelledBy ⟨negative, front, back, some (minus, digits)⟩ text) (hdigit : isDigit c) :
    SpelledBy ⟨negative, front, back, some (minus, digits ++ [c])⟩ (text ++ [c]) := by
  obtain ⟨hform, exponent, hexponent, rfl⟩ := h
  have hmore : IsExponent (some (minus, digits ++ [c])) (exponent ++ [c]) := by
    cases hexponent with
    | signed hmark => exact .signed hmark
    | unsigned hmark => exact .unsigned hmark
  refine ⟨⟨hform.whole, hform.wholeDigits, hform.fractionDigits, ?_⟩, _, hmore, ?_⟩
  · rintro _ _ ⟨⟩
    obtain ⟨-, hdigits⟩ := hform.exponentDigits minus digits rfl
    exact ⟨by simp, List.forall_mem_append.2 ⟨hdigits, List.forall_mem_singleton.2 hdigit⟩⟩
  · cases negative <;> simp [Binary64.withSign]

end Numeral

/-- A part of a number that is whole is a text of the numeral. -/
theorem NumberPhase.SpelledBy.numeral {negative : Bool} {part : NumberPhase} {text : List Char}
    (h : part.SpelledBy negative text) {n : Numeral} (hn : part.numeral? negative = some n) :
    n.SpelledBy text := by
  cases part with
  | sign => exact absurd hn nofun
  | zero =>
    obtain rfl := Option.some.inj hn
    exact h
  | whole =>
    obtain rfl := Option.some.inj hn
    exact h.2
  | point => exact absurd hn nofun
  | fraction =>
    obtain rfl := Option.some.inj hn
    exact h.2
  | mark => exact absurd hn nofun
  | exponentSign => exact absurd hn nofun
  | exponent =>
    obtain rfl := Option.some.inj hn
    exact h

/-- One more character of a number. -/
theorem NumberPhase.SpelledBy.next {negative : Bool} {part next : NumberPhase} {text : List Char}
    (h : part.SpelledBy negative text) {c : Char} (hnext : part.next? c = some (some next)) :
    next.SpelledBy negative (text ++ [c]) := by
  have hmark : ∀ {minus : Bool} {mark : Char}, mark = 'e' ∨ mark = 'E' → ∀ digits : List Char,
      Numeral.IsExponent (some (minus, digits)) ([mark, if minus then '-' else '+'] ++ digits) :=
    fun hmark digits => .signed hmark
  -- The parts hold their digits in reverse, so that a digit more stands in front.
  cases part with
  | sign =>
    obtain ⟨rfl, rfl⟩ := h
    rw [NumberPhase.next?] at hnext
    split at hnext
    · next hzero =>
      cases hnext
      exact hzero ▸ Numeral.spelledBy_digit (by decide)
    · next hzero =>
      split at hnext <;> cases hnext
      next hdigit => exact ⟨by simpa using hzero, Numeral.spelledBy_digit hdigit⟩
  | zero =>
    rw [NumberPhase.next?] at hnext
    split at hnext
    · cases hnext
    · split at hnext
      · next hpoint =>
        cases hnext
        exact ⟨text, h, congrArg _ (congrArg (· :: []) hpoint)⟩
      · split at hnext <;> cases hnext
        next hletter => exact ⟨text, c, h, hletter, rfl⟩
  | whole digits =>
    rw [NumberPhase.next?] at hnext
    split at hnext
    · next hdigit =>
      cases hnext
      have hne : digits.reverse ≠ ['0'] := fun heq => h.1 (List.reverse_eq_iff.1 heq)
      have hlonger := h.2.snoc_whole hne hdigit
      refine ⟨?_, by rwa [List.reverse_cons]⟩
      -- Digits stood there before, so there are two of them now.
      rintro ⟨⟩
      exact absurd h.2.wellFormed.whole (by simp)
    · split at hnext
      · next hpoint =>
        cases hnext
        exact ⟨text, h.2, congrArg _ (congrArg (· :: []) hpoint)⟩
      · split at hnext <;> cases hnext
        next hletter => exact ⟨text, c, h.2, hletter, rfl⟩
  | point front =>
    obtain ⟨before, hbefore, rfl⟩ := h
    rw [NumberPhase.next?] at hnext
    split at hnext <;> cases hnext
    next hdigit =>
      rw [List.append_assoc]
      exact ⟨List.cons_ne_nil _ _, hbefore.first_fraction hdigit⟩
  | fraction front digits =>
    rw [NumberPhase.next?] at hnext
    split at hnext
    · next hdigit =>
      cases hnext
      refine ⟨List.cons_ne_nil _ _, ?_⟩
      rw [List.reverse_cons]
      exact h.2.snoc_fraction (by simpa using h.1) hdigit
    · split at hnext <;> cases hnext
      next hletter => exact ⟨text, c, h.2, hletter, rfl⟩
  | mark front back =>
    obtain ⟨before, mark, hbefore, hletter, rfl⟩ := h
    rw [NumberPhase.next?] at hnext
    split at hnext
    · next hplus =>
      cases hnext
      exact ⟨before, mark, hbefore, hletter, by simp [hplus]⟩
    · split at hnext
      · next hminus =>
        cases hnext
        exact ⟨before, mark, hbefore, hletter, by simp [hminus]⟩
      · split at hnext <;> cases hnext
        next hdigit =>
          have hletters : ∀ digits : List Char,
              Numeral.IsExponent (some (false, digits)) ([mark] ++ digits) :=
            fun digits => .unsigned hletter
          rw [List.append_assoc]
          exact hbefore.first_exponent hletters hdigit
  | exponentSign front back minus =>
    obtain ⟨before, mark, hbefore, hletter, rfl⟩ := h
    rw [NumberPhase.next?] at hnext
    split at hnext <;> cases hnext
    next hdigit =>
      rw [List.append_assoc]
      exact hbefore.first_exponent (hmark hletter) hdigit
  | exponent front back minus digits =>
    rw [NumberPhase.next?] at hnext
    split at hnext <;> cases hnext
    next hdigit =>
      show Numeral.SpelledBy ⟨_, _, _, some (minus, (c :: digits).reverse)⟩ _
      rw [List.reverse_cons]
      exact h.snoc_exponent hdigit

/-! ## Open containers -/

/-- The parts of a container before the one that is read, the last one first, each with the comma
after it. -/
def listed : List (List Char) → List Char
  | [] => []
  | part :: parts => listed parts ++ (part ++ [','])

theorem intercalate_snoc {parts : List (List Char)} (hne : parts ≠ []) (part : List Char) :
    [','].intercalate (parts ++ [part]) = [','].intercalate parts ++ ',' :: part := by
  obtain ⟨first, rest, rfl⟩ := List.exists_cons_of_ne_nil hne
  rw [List.cons_append, intercalate_cons, intercalate_cons]
  simp

/-- The parts of a container with one more that no comma follows. -/
theorem listed_append (part : List Char) (parts : List (List Char)) :
    listed parts ++ part = [','].intercalate (part :: parts).reverse := by
  induction parts generalizing part with
  | nil => simp [listed, List.intercalate]
  | cons last parts ih =>
    rw [List.reverse_cons, intercalate_snoc (by simp), ← ih last, listed]
    simp

section Containers

variable {α : Type} {outer : List Char → Prop} {spelled : α → List Char → Prop}
  {opening : Char} {before : List α} {text : List Char}

/-- The texts that lead into a container, up to the comma after its last element so far. -/
def Begins (outer : List Char → Prop) (spelled : α → List Char → Prop) (opening : Char)
    (before : List α) (text : List Char) : Prop :=
  ∃ front pad parts, outer front ∧ IsPad pad ∧ List.Forall₂ spelled before parts
    ∧ text = front ++ (pad ++ opening :: listed parts)

/-- An opening bracket. -/
theorem Begins.nil {front pad : List Char} (hfront : outer front) (hpad : IsPad pad) :
    Begins outer spelled opening [] (front ++ (pad ++ [opening])) :=
  ⟨front, pad, [], hfront, hpad, .nil, rfl⟩

/-- An element and a comma. -/
theorem Begins.cons (h : Begins outer spelled opening before text) {a : α} {part : List Char}
    (ha : spelled a part) : Begins outer spelled opening (a :: before) (text ++ (part ++ [','])) := by
  obtain ⟨front, pad, parts, hfront, hpad, hparts, rfl⟩ := h
  exact ⟨front, pad, part :: parts, hfront, hpad, .cons ha hparts, by simp [listed]⟩

/-- The last element and a closing bracket. -/
theorem Begins.close (h : Begins outer spelled opening before text) {a : α} {part : List Char}
    (ha : spelled a part) (closing : Char) :
    ∃ front pad parts own, outer front ∧ IsPad pad
      ∧ List.Forall₂ spelled (a :: before).reverse parts ∧ Enclosed opening closing parts own
      ∧ text ++ (part ++ [closing]) = front ++ (pad ++ own) := by
  obtain ⟨front, pad, parts, hfront, hpad, hparts, rfl⟩ := h
  -- With the last element the parts are not empty, and commas stand between all of them.
  have hbody : Separated (part :: parts).reverse (listed parts ++ part) := by
    obtain ⟨first, rest, hreverse⟩ :=
      List.exists_cons_of_ne_nil (List.reverse_ne_nil_iff.2 (List.cons_ne_nil part parts))
    rw [listed_append, hreverse, Separated]
  refine ⟨front, pad, (part :: parts).reverse, _, hfront, hpad, ?_, ⟨_, hbody, rfl⟩, by simp⟩
  exact List.forall₂_reverse_iff.2 (.cons ha hparts)

/-- A closing bracket and no element before it. -/
theorem Begins.closeEmpty (h : Begins outer spelled opening [] text) {blanks : List Char}
    (hblanks : IsPad blanks) (closing : Char) :
    ∃ front pad own, outer front ∧ IsPad pad ∧ Enclosed opening closing [] own
      ∧ text ++ (blanks ++ [closing]) = front ++ (pad ++ own) := by
  obtain ⟨front, pad, parts, hfront, hpad, hparts, rfl⟩ := h
  cases hparts
  exact ⟨front, pad, _, hfront, hpad, ⟨blanks, hblanks, rfl⟩, by simp [listed]⟩

end Containers

/-- The texts that lead to the value that is read inside the open containers. -/
def Leads : List Frame → List Char → Prop
  | [], text => text = []
  | .array before :: outer, text =>
    Begins (Leads outer) (fun node => Padded node.SpelledBy) '[' before text
  | .object before :: outer, text => Begins (Leads outer) MemberSpelledBy '\x7b' before text
  | .member before name :: outer, text =>
    ∃ front own, Begins (Leads outer) MemberSpelledBy '\x7b' before front
      ∧ Padded name.SpelledBy own ∧ text = front ++ (own ++ [':'])

/-! ## What a state says -/

/-- The texts of the part of an element of a string that is being read. -/
def EscapePhase.SpelledBy : EscapePhase → List Char → Prop
  | .none, text => text = []
  | .backslash, text => text = ['\\']
  | .hex bytes value, text =>
    bytes < 4 ∧ ∃ digits, text = '\\' :: 'u' :: digits
      ∧ ∀ n, value = some n → digits.length = bytes ∧ hexValue? 0 digits = some n

/-- The texts of the part of a value that is being read inside the open containers. -/
def Phase.SpelledBy (stack : List Frame) : Phase → List Char → Prop
  | .value, text => text = []
  | .firstItem, text => text = [] ∧ ∃ outer, stack = .array [] :: outer
  | .firstName, text => text = [] ∧ ∃ outer, stack = .object [] :: outer
  | .name, text => text = [] ∧ ∃ before outer, stack = .object before :: outer
  | .afterValue node, text => ∃ own pad, node.SpelledBy own ∧ IsPad pad ∧ text = own ++ pad
  | .literal left node, text => node.SpelledBy (text ++ left)
  | .number negative part, text => part.SpelledBy negative text
  | .string isName glyphs escape, text =>
    (isName = true → ∃ before outer, stack = .object before :: outer)
      ∧ ∃ body rest, GlyphsSpelledBy glyphs.reverse body ∧ escape.SpelledBy rest
        ∧ text = '"' :: (body ++ rest)
  -- These two say something about the whole text.
  | .colon, _ => False
  | .stopped _, _ => False

/-- What a state says about the text read so far. -/
inductive Consumed : State → List Char → Prop
  /-- The text leads into the open containers and to the part of a value that is being read. -/
  | within {stack : List Frame} {phase : Phase} {front pad own : List Char}
    (hfront : Leads stack front) (hpad : IsPad pad) (hown : phase.SpelledBy stack own) :
    Consumed ⟨stack, phase⟩ (front ++ (pad ++ own))
  /-- With a colon the text leads to the value of a member. -/
  | named {before : List (Quoted × Node)} {name : Quoted} {outer : List Frame} {text : List Char}
    (h : Leads (.member before name :: outer) (text ++ [':'])) :
    Consumed ⟨.member before name :: outer, .colon⟩ text
  /-- What is given is cut short, or the text goes on behind it. -/
  | stopped {stack : List Frame} {document : Document} {text : List Char}
    (h : document.value.cut? = none → document.hasMore = true) :
    Consumed ⟨stack, .stopped document⟩ text

/-! ## Stops -/

section Stops

variable {cut : Break} {value : Node} {stack : List Frame} {text : List Char}

theorem cut?_closeAround (h : value.cut? ≠ none ∨ stack ≠ []) :
    (closeAround cut value stack).cut? ≠ none := by
  induction stack generalizing value with
  | nil => exact h.resolve_right fun hne => hne rfl
  | cons frame rest ih =>
    -- The container around the value is cut short, and so are those around it.
    refine ih (.inl ?_)
    cases frame <;> simp [Node.cut?]

theorem consumed_stopAt (h : value.cut? ≠ none ∨ stack ≠ []) :
    Consumed (stopAt cut value stack) text :=
  .stopped fun hnone => absurd hnone (cut?_closeAround h)

theorem consumed_stopBetween (last : Option Node) :
    Consumed (stopBetween .malformed last stack) text := by
  unfold stopBetween
  split
  case h_6 => exact .stopped fun _ => rfl
  all_goals exact consumed_stopAt (.inl (by simp [Node.cut?]))

end Stops

/-! ## One character -/

section Steps

variable {stack : List Frame} {phase : Phase} {node : Node} {front pad part own text : List Char}
  {c : Char}

/-- A bracket, a comma or a colon has just been read. -/
theorem Consumed.opened (h : Leads stack text) (hphase : phase.SpelledBy stack []) :
    Consumed ⟨stack, phase⟩ text := by
  have hopened := Consumed.within h isPad_nil hphase
  rwa [List.append_nil, List.append_nil] at hopened

/-- White space before the next part. -/
theorem Consumed.blank (hfront : Leads stack front) (hpad : IsPad pad)
    (hphase : phase.SpelledBy stack []) (hc : isBlank c) :
    Consumed ⟨stack, phase⟩ (front ++ (pad ++ []) ++ [c]) := by
  have hpad : IsPad (pad ++ [c]) := isPad_append.2 ⟨hpad, List.forall_mem_singleton.2 hc⟩
  have hblank := Consumed.within hfront hpad hphase
  rw [List.append_nil] at hblank ⊢
  rwa [List.append_assoc]

/-- A value and white space around it. -/
theorem Consumed.after (hfront : Leads stack front) (hpart : Padded node.SpelledBy part) :
    Consumed ⟨stack, .afterValue node⟩ (front ++ part) := by
  obtain ⟨pad, own, back, hpad, hown, hback, rfl⟩ := hpart
  exact .within hfront hpad ⟨own, back, hown, hback, rfl⟩

theorem consumed_stepValue (hfront : Leads stack front) (hpad : IsPad pad) (c : Char) :
    Consumed (stepValue stack c) (front ++ (pad ++ [c])) := by
  unfold stepValue
  split
  · exact .within hfront hpad rfl
  · exact .within hfront hpad rfl
  · exact .within hfront hpad rfl
  · exact .within hfront hpad ⟨nofun, [], [], ⟨[], .nil, rfl⟩, rfl, rfl⟩
  · exact .opened (Begins.nil hfront hpad) ⟨rfl, stack, rfl⟩
  · exact .opened (Begins.nil hfront hpad) ⟨rfl, stack, rfl⟩
  · exact .within hfront hpad ⟨rfl, rfl⟩
  · exact .within hfront hpad (Numeral.spelledBy_digit (by decide))
  · next hzero =>
    split
    · next hdigit =>
      exact .within hfront hpad ⟨by simpa using hzero, Numeral.spelledBy_digit hdigit⟩
    · exact consumed_stopAt (.inl (by simp [Node.cut?]))

theorem consumed_stepAfter (hfront : Leads stack front) (hpart : Padded node.SpelledBy part)
    (c : Char) : Consumed (stepAfter stack node c) (front ++ (part ++ [c])) := by
  unfold stepAfter
  split
  · next hblank => exact .after hfront (hpart.append (List.forall_mem_singleton.2 hblank))
  · split
    · next before outer =>
      split
      · next hcomma =>
        subst hcomma
        exact .opened (Begins.cons hfront hpart) rfl
      · split
        · next hclose =>
          subst hclose
          obtain ⟨front, pad, parts, own, hfront, hpad, hparts, hown, htext⟩ :=
            Begins.close hfront hpart ']'
          rw [htext]
          refine .after hfront ((Padded.of ?_).prepend hpad)
          exact ⟨rfl, parts, itemsSpelledBy_iff.2 hparts, hown⟩
        · exact consumed_stopBetween _
    · next before name outer =>
      -- The value is the end of a member, which is the next part of the object.
      obtain ⟨front, own, hfront, hname, rfl⟩ := hfront
      have hmember : MemberSpelledBy (name, node) (own ++ ':' :: part) :=
        ⟨own, part, hname, hpart, rfl⟩
      have htext : front ++ (own ++ [':']) ++ (part ++ [c]) = front ++ (own ++ ':' :: part ++ [c]) := by
        simp
      rw [htext]
      split
      · next hcomma =>
        subst hcomma
        exact .opened (Begins.cons hfront hmember) ⟨rfl, _, _, rfl⟩
      · split
        · next hclose =>
          subst hclose
          obtain ⟨front, pad, parts, own, hfront, hpad, hparts, hown, htext⟩ :=
            Begins.close hfront hmember '\x7d'
          rw [htext]
          refine .after hfront ((Padded.of ?_).prepend hpad)
          exact ⟨rfl, parts, membersSpelledBy_iff.2 hparts, hown⟩
        · exact consumed_stopBetween _
    · exact consumed_stopBetween _

theorem consumed_stringCut {isName : Bool} {glyphs : List Glyph} :
    Consumed (stringCut .malformed stack isName glyphs) text := by
  unfold stringCut
  dsimp only
  split
  · split
    · exact consumed_stopAt (.inl (by simp [Node.cut?]))
    · exact consumed_stopAt (.inl (by simp [Node.cut?]))
  · exact consumed_stopAt (.inl (by simp [Node.cut?]))

theorem consumed_stringEnded {isName : Bool} {quoted : Quoted} (hfront : Leads stack front)
    (hpad : IsPad pad) (hown : quoted.SpelledBy own)
    (hname : isName = true → ∃ before outer, stack = .object before :: outer) :
    Consumed (stringEnded stack isName quoted) (front ++ (pad ++ own)) := by
  cases isName with
  | false => exact .within hfront hpad ⟨own, [], hown, isPad_nil, by simp⟩
  | true =>
    obtain ⟨before, outer, rfl⟩ := hname rfl
    exact .named ⟨front, pad ++ own, hfront, (Padded.of hown).prepend hpad, by simp⟩

theorem GlyphsSpelledBy.snoc {glyphs : List Glyph} {body : List Char}
    (h : GlyphsSpelledBy glyphs.reverse body) {glyph : Glyph} (hglyph : glyph.SpelledBy text) :
    GlyphsSpelledBy (glyph :: glyphs).reverse (body ++ text) := by
  obtain ⟨parts, hparts, rfl⟩ := h
  refine ⟨parts ++ [text], ?_, by simp⟩
  rw [List.reverse_cons]
  exact List.rel_append hparts (.cons hglyph .nil)

theorem hexValue?_snoc (digits : List Char) (c : Char) :
    hexValue? 0 (digits ++ [c])
      = (hexValue? 0 digits).bind fun n => (hexDigit? c).map (n * 16 + ·) := by
  simp [hexValue?, List.foldlM_append]

theorem consumed_stepString {isName : Bool} {glyphs : List Glyph} {escape : EscapePhase}
    (hfront : Leads stack front) (hpad : IsPad pad)
    (hown : (Phase.string isName glyphs escape).SpelledBy stack own) (c : Char) :
    Consumed (stepString stack isName glyphs escape c) (front ++ (pad ++ (own ++ [c]))) := by
  obtain ⟨hname, body, rest, hbody, hrest, rfl⟩ := hown
  have hglyph : ∀ {glyph : Glyph}, glyph.SpelledBy (rest ++ [c]) →
      Consumed ⟨stack, .string isName (glyph :: glyphs) .none⟩
        (front ++ (pad ++ ('"' :: (body ++ rest) ++ [c]))) :=
    fun hglyph => .within hfront hpad ⟨hname, _, [], hbody.snoc hglyph, rfl, by simp⟩
  cases escape with
  | none =>
    obtain rfl := hrest
    rw [stepString]
    split
    · next hquote =>
      subst hquote
      exact consumed_stringEnded hfront hpad ⟨rfl, body, hbody, by simp⟩ hname
    · next hquote =>
      split
      · next hbackslash =>
        subst hbackslash
        exact .within hfront hpad ⟨hname, body, ['\\'], hbody, rfl, by simp⟩
      · next hbackslash =>
        split
        · exact consumed_stringCut
        · next hcontrol => exact hglyph (.plain hcontrol hquote hbackslash)
  | backslash =>
    obtain rfl := hrest
    rw [stepString]
    split
    · next hletter =>
      subst hletter
      refine .within hfront hpad ⟨hname, body, ['\\', 'u'], hbody, ?_, by simp⟩
      exact ⟨by decide, [], rfl, fun n hn => ⟨rfl, hn⟩⟩
    · split
      · next d hescaped => exact hglyph (.letter hescaped)
      · exact consumed_stringCut
  | hex bytes value =>
    obtain ⟨hbytes, digits, rfl, hvalue⟩ := hrest
    -- A digit is one byte long, so that the digits are counted by their bytes.
    have hmore : ∀ n, (value.bind fun n => (hexDigit? c).map (n * 16 + ·)) = some n →
        (digits ++ [c]).length = bytes + c.utf8Size ∧ hexValue? 0 (digits ++ [c]) = some n := by
      intro n hn
      obtain ⟨m, hm, hdigit⟩ := Option.bind_eq_some_iff.1 hn
      obtain ⟨hlength, hdigits⟩ := hvalue m hm
      obtain ⟨k, hk, -⟩ := Option.map_eq_some_iff.1 hdigit
      rw [hexValue?_snoc, hdigits, utf8Size_of_hexDigit? hk, List.length_append, hlength]
      exact ⟨rfl, hdigit⟩
    rw [stepString]
    split
    · next hless =>
      refine .within hfront hpad ⟨hname, body, '\\' :: 'u' :: (digits ++ [c]), hbody, ?_, by simp⟩
      exact ⟨hless, digits ++ [c], rfl, hmore⟩
    · next hless =>
      split
      · next n hn =>
        obtain ⟨hlength, hdigits⟩ := hmore n hn
        obtain ⟨m, hm, hdigit⟩ := Option.bind_eq_some_iff.1 hn
        obtain ⟨k, hk, -⟩ := Option.map_eq_some_iff.1 hdigit
        rw [utf8Size_of_hexDigit? hk] at hless hlength
        have hfour : (digits ++ [c]).length = 4 := by omega
        exact hglyph (.unit hfour hdigits)
      · exact consumed_stringCut

theorem consumed_stepLiteral {left : List Char} (hfront : Leads stack front) (hpad : IsPad pad)
    (hown : node.SpelledBy (own ++ left)) (c : Char) :
    Consumed (step ⟨stack, .literal left node⟩ c) (front ++ (pad ++ (own ++ [c]))) := by
  cases left with
  | nil =>
    rw [List.append_nil] at hown
    rw [← List.append_assoc pad]
    exact consumed_stepAfter hfront ((Padded.of hown).prepend hpad) c
  | cons d rest =>
    show Consumed (if c ≠ d then _ else _) _
    split
    · exact consumed_stopAt (.inl (by simp [Node.cut?]))
    · next heq =>
      obtain rfl : c = d := not_not.1 heq
      rw [← List.singleton_append, ← List.append_assoc] at hown
      split
      · next hrest =>
        subst hrest
        rw [List.append_nil] at hown
        exact .within hfront hpad ⟨_, [], hown, isPad_nil, (List.append_nil _).symm⟩
      · exact .within hfront hpad hown

theorem consumed_stepNumber {negative : Bool} {phase : NumberPhase} (hfront : Leads stack front)
    (hpad : IsPad pad) (hown : phase.SpelledBy negative own) (c : Char) :
    Consumed (step ⟨stack, .number negative phase⟩ c) (front ++ (pad ++ (own ++ [c]))) := by
  simp only [step]
  split
  · next next hnext => exact .within hfront hpad (hown.next hnext)
  · exact consumed_stopAt (.inl (by simp [Node.cut?]))
  · split
    · next numeral hnumeral =>
      have hpart : Padded (Node.number numeral).SpelledBy (pad ++ own) :=
        (Padded.of (hown.numeral hnumeral)).prepend hpad
      rw [← List.append_assoc pad]
      exact consumed_stepAfter hfront hpart c
    · exact consumed_stopAt (.inl (by simp [Node.cut?]))

/-- One more character keeps what the state says true. -/
theorem consumed_step {state : State} (h : Consumed state text) (c : Char) :
    Consumed (step state c) (text ++ [c]) := by
  cases h with
  | stopped h => exact .stopped h
  | @named before name outer text h =>
    -- The text becomes longer by white space after the name, or by the colon.
    obtain ⟨front, own, hfront, hname, htext⟩ := h
    obtain rfl := List.append_cancel_right (htext.trans (List.append_assoc _ _ _).symm)
    show Consumed (if isBlank c then _ else _) _
    split
    · next hblank =>
      refine .named ⟨front, own ++ [c], hfront, ?_, by simp⟩
      exact hname.append (List.forall_mem_singleton.2 hblank)
    · split
      · next hcolon =>
        subst hcolon
        exact .opened ⟨front, own, hfront, hname, by simp⟩ rfl
      · exact consumed_stopAt (.inl (by simp [Node.cut?]))
  | @within stack phase front pad own hfront hpad hown =>
    cases phase with
    | value =>
      obtain rfl := hown
      show Consumed (if isBlank c then _ else _) _
      split
      · next hblank => exact .blank hfront hpad rfl hblank
      · simpa using consumed_stepValue hfront hpad c
    | firstItem =>
      obtain ⟨rfl, outer, rfl⟩ := hown
      show Consumed (if isBlank c then _ else _) _
      split
      · next hblank => exact .blank hfront hpad ⟨rfl, outer, rfl⟩ hblank
      · split
        · next hclose =>
          subst hclose
          obtain ⟨front, before, own, hfront, hbefore, hown, htext⟩ := hfront.closeEmpty hpad ']'
          rw [List.append_nil, List.append_assoc, htext]
          exact .after hfront ((Padded.of ⟨rfl, [], trivial, hown⟩).prepend hbefore)
        · simpa using consumed_stepValue hfront hpad c
    | firstName =>
      obtain ⟨rfl, outer, rfl⟩ := hown
      show Consumed (if isBlank c then _ else _) _
      split
      · next hblank => exact .blank hfront hpad ⟨rfl, outer, rfl⟩ hblank
      · split
        · next hquote =>
          subst hquote
          rw [List.append_nil, List.append_assoc]
          exact .within hfront hpad ⟨fun _ => ⟨[], outer, rfl⟩, [], [], ⟨[], .nil, rfl⟩, rfl, rfl⟩
        · split
          · next hclose =>
            subst hclose
            obtain ⟨front, before, own, hfront, hbefore, hown, htext⟩ := hfront.closeEmpty hpad '\x7d'
            rw [List.append_nil, List.append_assoc, htext]
            exact .after hfront ((Padded.of ⟨rfl, [], trivial, hown⟩).prepend hbefore)
          · exact consumed_stopBetween _
    | name =>
      obtain ⟨rfl, before, outer, rfl⟩ := hown
      show Consumed (if isBlank c then _ else _) _
      split
      · next hblank => exact .blank hfront hpad ⟨rfl, before, outer, rfl⟩ hblank
      · split
        · next hquote =>
          subst hquote
          rw [List.append_nil, List.append_assoc]
          exact .within hfront hpad ⟨fun _ => ⟨before, outer, rfl⟩, [], [], ⟨[], .nil, rfl⟩, rfl, rfl⟩
        · exact consumed_stopBetween _
    | colon => exact hown.elim
    | afterValue node =>
      obtain ⟨value, back, hvalue, hback, rfl⟩ := hown
      rw [List.append_assoc]
      exact consumed_stepAfter hfront ⟨pad, value, back, hpad, hvalue, hback, rfl⟩ c
    | literal left node =>
      rw [List.append_assoc, List.append_assoc]
      exact consumed_stepLiteral hfront hpad hown c
    | number negative part =>
      rw [List.append_assoc, List.append_assoc]
      exact consumed_stepNumber hfront hpad hown c
    | string isName glyphs escape =>
      rw [List.append_assoc, List.append_assoc]
      exact consumed_stepString hfront hpad hown c
    | stopped => exact hown.elim

/-- What a state says stays true over any number of characters. -/
theorem consumed_foldl {state : State} (h : Consumed state text) (more : List Char) :
    Consumed (more.foldl step state) (text ++ more) := by
  induction more generalizing state text with
  | nil => rwa [List.append_nil]
  | cons c rest ih =>
    have hrest := ih (consumed_step h c)
    rwa [List.append_assoc] at hrest

theorem consumed_initial : Consumed State.initial [] :=
  .opened rfl rfl

end Steps

/-! ## The end of the text -/

theorem document_stopAt_ne {cut : Break} {value : Node} {stack : List Frame}
    (h : value.cut? ≠ none ∨ stack ≠ []) : (stopAt cut value stack).document.value.cut? ≠ none :=
  cut?_closeAround h

/-- Between two values the text ends only outside all containers and after a value. -/
theorem exists_of_stopBetween {last : Option Node} {stack : List Frame}
    (h : (stopBetween .ended last stack).document.value.cut? = none) :
    stack = [] ∧ ∃ node, last = some node
      ∧ (stopBetween .ended last stack).document.value = node := by
  revert h
  unfold stopBetween
  split
  case h_6 => exact fun _ => ⟨rfl, _, rfl, rfl⟩
  all_goals exact fun h => absurd h (document_stopAt_ne (.inl (by simp [Node.cut?])))

theorem stringCut_ne {stack : List Frame} {isName : Bool} {glyphs : List Glyph} {cut : Break} :
    (stringCut cut stack isName glyphs).document.value.cut? ≠ none := by
  unfold stringCut
  dsimp only
  split
  · split
    · exact document_stopAt_ne (.inl (by simp [Node.cut?]))
    · exact document_stopAt_ne (.inl (by simp [Node.cut?]))
  · exact document_stopAt_ne (.inl (by simp [Node.cut?]))

/-- After a value the text ends well only if it is a document of the value. -/
theorem isDocument_stopBetween {stack : List Frame} {node : Node} {front part : List Char}
    (hfront : Leads stack front) (hpart : Padded node.SpelledBy part)
    (hcut : (stopBetween .ended (some node) stack).document.value.cut? = none) :
    IsDocument (stopBetween .ended (some node) stack).document.value (front ++ part) := by
  obtain ⟨rfl, value, hvalue, hdocument⟩ := exists_of_stopBetween hcut
  obtain rfl := Option.some.inj hvalue
  obtain rfl := hfront
  rw [hdocument]
  exact hpart

/-- A state in which the text may end has read a document. -/
theorem Consumed.isDocument {state : State} {text : List Char} (h : Consumed state text)
    (hcut : (atEnd state).document.value.cut? = none)
    (hmore : (atEnd state).document.hasMore = false) :
    IsDocument (atEnd state).document.value text := by
  have hmissing : ∀ {stack : List Frame},
      (stopAt .ended (.missing .ended) stack).document.value.cut? ≠ none :=
    document_stopAt_ne (.inl (by simp [Node.cut?]))
  have hbetween : ∀ {stack : List Frame},
      (stopBetween .ended none stack).document.value.cut? ≠ none := by
    intro stack hnone
    obtain ⟨-, node, hnode, -⟩ := exists_of_stopBetween hnone
    exact absurd hnode nofun
  -- In all states but those after a whole value the document that is given is cut short.
  cases h with
  | stopped h => exact absurd (hmore.symm.trans (h hcut)) Bool.false_ne_true
  | named => exact absurd hcut hmissing
  | @within stack phase front pad own hfront hpad hown =>
    cases phase with
    | value => exact absurd hcut hmissing
    | firstItem => exact absurd hcut hbetween
    | firstName => exact absurd hcut hbetween
    | name => exact absurd hcut hbetween
    | colon => exact hown.elim
    | afterValue node =>
      obtain ⟨value, back, hvalue, hback, rfl⟩ := hown
      exact isDocument_stopBetween hfront ⟨pad, value, back, hpad, hvalue, hback, rfl⟩ hcut
    | literal left node =>
      cases left with
      | nil =>
        rw [Phase.SpelledBy, List.append_nil] at hown
        exact isDocument_stopBetween hfront ((Padded.of hown).prepend hpad) hcut
      | cons => exact absurd hcut hmissing
    | number negative phase =>
      simp only [atEnd] at hcut ⊢
      split at hcut
      · next numeral hnumeral =>
        have hpart : Padded (Node.number numeral).SpelledBy (pad ++ own) :=
          (Padded.of (NumberPhase.SpelledBy.numeral hown hnumeral)).prepend hpad
        exact isDocument_stopBetween hfront hpart hcut
      · exact absurd hcut (document_stopAt_ne (.inl (by simp [Node.cut?])))
    | string => exact absurd hcut stringCut_ne
    | stopped => exact hown.elim

/-- The documents of a node are the texts that are read as the node and as a whole. -/
theorem isDocument_iff {node : Node} {text : List Char} :
    IsDocument node text ↔ Document.ofText text = ⟨node, false⟩ ∧ node.cut? = none := by
  constructor
  · exact fun h => ⟨ofText_of_isDocument h, h.hasText.cut?_eq_none⟩
  · rintro ⟨htext, hcut⟩
    have hstate := consumed_foldl consumed_initial text
    rw [List.nil_append] at hstate
    have hdocument := hstate.isDocument
    rw [← Document.ofText, htext] at hdocument
    exact hdocument hcut rfl

end RubricScore.Json
