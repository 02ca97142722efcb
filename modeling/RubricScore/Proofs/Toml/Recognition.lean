import RubricScore.Proofs.Toml.Grammar

/-!
# Reading TOML statements

Every text of the grammar is read as the statements that it stands for. Each reader is told what
may follow the text that it reads, since it takes as many characters as it can: what follows a
value, for one, must not begin with a character of a number.

## Main definitions

* `Avoids`: a text does not begin with a character of some kind;
* `GoesOn`: a file goes on behind a statement with another line, or ends.

## Main results

* `run_value`: a value is read from the front of what begins with one of its texts;
* `run_statements`: so are the statements of a file, with enough fuel;
* `statements?_of_isStatements`: there always is enough.
-/

namespace RubricScore.Toml

open Binary64 (isDigit)

/-! ## Readers -/

section Readers

variable {α β : Type} {p : Scan α} {f : α → Scan β} {a : α} {text rest : List Char}

/-- A reader goes on where the one before it stopped. -/
theorem run_bind_eq (h : p.run text = some (a, rest)) : (p >>= f).run text = (f a).run rest := by
  rw [StateT.run_bind, h]
  rfl

theorem run_next? : Scan.next?.run text = some (text.head?, text) :=
  rfl

theorem run_expect (c : Char) : (Scan.expect c).run (c :: rest) = some ((), rest) := by
  simp [Scan.expect, after?]

theorem run_accept (c : Char) : (Scan.accept c).run (c :: rest) = some (true, rest) := by
  simp [Scan.accept, after?]

theorem run_accept_of_ne {c : Char} (h : text.head? ≠ some c) :
    (Scan.accept c).run text = some (false, text) := by
  cases text with
  | nil => rfl
  | cons d rest =>
    have hne : d ≠ c := fun heq => h (congrArg some heq)
    simp [Scan.accept, after?, hne]

theorem run_takeWhile {kind : Char → Bool} (htext : ∀ c ∈ text, kind c)
    (hrest : ∀ c, rest.head? = some c → kind c = false) :
    (Scan.takeWhile kind).run (text ++ rest) = some (text, rest) := by
  have hrun : (Scan.takeWhile kind).run (text ++ rest)
      = some ((text ++ rest).takeWhile kind, (text ++ rest).dropWhile kind) := rfl
  rw [hrun, takeWhile_append_eq htext hrest, dropWhile_append_eq htext hrest]

end Readers

/-! ## What follows -/

/-- A text does not begin with a character of a kind. -/
def Avoids (text : List Char) (kind : Char → Bool) : Prop :=
  ∀ c, text.head? = some c → kind c = false

namespace Avoids

variable {front rest : List Char} {kind : Char → Bool}

theorem nil : Avoids [] kind :=
  nofun

theorem cons {c : Char} (h : kind c = false) : Avoids (c :: rest) kind :=
  fun _ hd => Option.some.inj hd ▸ h

theorem append (hfront : Avoids front kind) (hrest : Avoids rest kind) :
    Avoids (front ++ rest) kind := by
  cases front with
  | nil => exact hrest
  | cons => exact hfront

end Avoids

/-- A character with which a value may go on. -/
def isValueChar (c : Char) : Bool :=
  isScalarChar c || c = '"' || c = '\''

/-- A character with which what stands between the parts of an array may begin. -/
def isGapChar (c : Char) : Bool :=
  isBlankChar c || c = '#' || c = '\n' || c = '\r'

theorem isGapChar_of_isBlankChar {c : Char} (h : isBlankChar c) : isGapChar c := by
  simp [isGapChar, h]

/-- No value goes on with such a character. -/
theorem not_isValueChar_of_isGapChar {c : Char} (h : isGapChar c) : isValueChar c = false := by
  simp only [isGapChar, isBlankChar, Bool.or_eq_true, decide_eq_true_eq] at h
  rcases h with (((rfl | rfl) | rfl) | rfl) | rfl <;> decide

theorem IsPad.head? {pad : List Char} (h : IsPad pad) {c : Char} (hc : pad.head? = some c) :
    isGapChar c :=
  isGapChar_of_isBlankChar (h c (List.mem_of_head? hc))

section Lines

variable {text rest : List Char}

theorem run_blanks (h : IsPad text) (hrest : Avoids rest isBlankChar) :
    Scan.blanks.run (text ++ rest) = some ((), rest) :=
  run_bind_eq (run_takeWhile h hrest)

theorem run_newline (h : IsLineEnd text) : Scan.newline.run (text ++ rest) = some ((), rest) := by
  cases h with
  | newline =>
    have hcarriage : ('\n' :: rest).head? ≠ some '\r' := by simp
    exact (run_bind_eq (run_accept_of_ne hcarriage)).trans (run_expect '\n')
  | carriage => exact (run_bind_eq (run_accept '\r')).trans (run_expect '\n')

end Lines

/-! ## Strings -/

section Strings

variable {style : QuoteStyle} {content body done rest : List Char}

/-- The digits of a code point are read up to the last one. -/
theorem lineFrom_digits {digits : List Char} {left start n : Nat} {c : Char} (hne : digits ≠ [])
    (hlength : digits.length = left) (hvalue : hexValue? start digits = some n)
    (hchar : scalar? n = some c) :
    lineFrom style (.digits left start) done (digits ++ rest)
      = lineFrom style .nothing (c :: done) rest := by
  -- By induction on the digits, of which the last one completes the code point.
  induction digits generalizing left start with
  | nil => exact absurd rfl hne
  | cons d digits ih =>
    obtain ⟨value, hd, hrest⟩ := Option.bind_eq_some_iff.1 hvalue
    obtain ⟨digit, hdigit, rfl⟩ := Option.map_eq_some_iff.1 hd
    rw [List.cons_append, lineFrom]
    cases digits with
    | nil =>
      obtain rfl := hlength
      obtain rfl := Option.some.inj hrest
      simp [hexStep, hdigit, hchar]
    | cons next digits =>
      have hmore : left ≠ 1 := by
        rintro rfl
        exact absurd hlength (by simp)
      have hread := ih (List.cons_ne_nil next digits) (Nat.eq_sub_of_add_eq hlength) hrest
      simp only [hexStep, hdigit, hmore]
      exact hread

/-- A character of a string is read from each of its texts. -/
theorem lineFrom_spellsChar {c : Char} {own : List Char} (h : SpellsChar c own) :
    lineFrom basicStyle .nothing done (own ++ rest)
      = lineFrom basicStyle .nothing (c :: done) rest := by
  have hcode : ∀ {digits : List Char}, digits.length ≠ 0 → digits ≠ [] := fun h =>
    List.ne_nil_of_length_pos (Nat.pos_of_ne_zero h)
  cases h with
  | plain htext hquote hbackslash => simp [lineFrom, basicStyle, htext, hquote, hbackslash]
  | @letter mark c h =>
    have hescaped : ∀ pair ∈ escapes, ∀ done,
        escaped done pair.1 = some (.nothing, pair.2 :: done) := by
      simp [escapes, escaped]
    simp [lineFrom, basicStyle, hescaped _ h]
  | @short digits n c hlength hvalue hchar =>
    have hread := @lineFrom_digits basicStyle done rest digits 4 0 n c (hcode (by omega)) hlength
      hvalue hchar
    simpa [lineFrom, basicStyle, escaped] using hread
  | @long digits n c hlength hvalue hchar =>
    have hread := @lineFrom_digits basicStyle done rest digits 8 0 n c (hcode (by omega)) hlength
      hvalue hchar
    simpa [lineFrom, basicStyle, escaped] using hread

/-- A string with escapes is read up to its closing quote. -/
theorem lineFrom_basic (h : SpellsChars content body) :
    lineFrom basicStyle .nothing done (body ++ '"' :: rest)
      = some (done.reverse ++ content, rest) := by
  induction h generalizing done with
  | nil =>
    rw [List.append_nil]
    rfl
  | cons hown _ ih =>
    rw [List.append_assoc, lineFrom_spellsChar hown, ih, List.reverse_cons, List.append_assoc]
    rfl

/-- So is one without escapes. -/
theorem lineFrom_literal (h : ∀ c ∈ content, isTextChar c ∧ c ≠ '\'') :
    lineFrom literalStyle .nothing done (content ++ '\'' :: rest)
      = some (done.reverse ++ content, rest) := by
  induction content generalizing done with
  | nil =>
    rw [List.append_nil]
    rfl
  | cons c content ih =>
    obtain ⟨⟨htext, hquote⟩, hcontent⟩ := List.forall_mem_cons.1 h
    have hread := @ih (c :: done) hcontent
    rw [List.reverse_cons, List.append_assoc] at hread
    simpa [lineFrom, literalStyle, htext, hquote] using hread

/-- A string is on one line if a third quote does not follow the first two. -/
theorem readString_eq {own : List Char} (hown : own.head? ≠ some style.mark)
    (hrest : rest.head? ≠ some style.mark) :
    readString style (own ++ style.mark :: rest) = readLine style (own ++ style.mark :: rest) := by
  unfold readString
  split
  · -- Two more quotes would open a string of several lines.
    next second third tail heq =>
    refine if_neg fun ⟨hsecond, hthird⟩ => ?_
    cases own with
    | nil =>
      rw [(List.cons.inj heq).2, List.head?_cons, hthird] at hrest
      exact hrest rfl
    | cons c own =>
      rw [List.head?_cons, (List.cons.inj heq).1, hsecond] at hown
      exact hown rfl
  · rfl

/-- The two forms of a string on one line. -/
theorem IsQuoted.exists_body {text : List Char} (h : IsQuoted content text) :
    ∃ style body, (style = basicStyle ∨ style = literalStyle)
      ∧ text = style.mark :: (body ++ [style.mark]) ∧ body.head? ≠ some style.mark
      ∧ ∀ rest, readLine style (body ++ style.mark :: rest) = some (content, rest) := by
  cases h with
  | @basic body hbody =>
    refine ⟨basicStyle, body, .inl rfl, rfl, ?_, fun rest => lineFrom_basic hbody⟩
    cases hbody with
    | nil => exact nofun
    | cons hown =>
      cases hown with
      | plain _ hquote => exact fun heq => hquote (Option.some.inj heq)
      | letter => exact fun heq => absurd (Option.some.inj heq) (by decide)
      | short => exact fun heq => absurd (Option.some.inj heq) (by decide)
      | long => exact fun heq => absurd (Option.some.inj heq) (by decide)
  | literal hcontent =>
    refine ⟨literalStyle, content, .inr rfl, rfl, ?_, fun rest => lineFrom_literal hcontent⟩
    exact fun heq => (hcontent _ (List.mem_of_head? heq)).2 rfl

end Strings

/-! ## Keys -/

section Keys

variable {name : String} {path : List String} {own rest : List Char}

/-- A character with which a key may begin. -/
def isKeyStart (c : Char) : Bool :=
  isKeyChar c || c = '"' || c = '\''

theorem run_line {style : QuoteStyle} {content text : List Char}
    (h : readLine style text = some (content, rest)) :
    (do
      let (text, rest) ← readLine style (← get)
      set rest
      return String.ofList text : Scan String).run text = some (String.ofList content, rest) := by
  simp [h]

theorem run_key (h : IsKey name own) (hrest : Avoids rest isKeyChar) :
    key.run (own ++ rest) = some (name, rest) := by
  cases h with
  | bare hne hname =>
    -- A bare key does not begin with a quote.
    obtain ⟨c, others, hown⟩ := List.exists_cons_of_ne_nil hne
    have hstart : ∀ d, isKeyChar d = false → (own ++ rest).head? ≠ some d := by
      rw [hown]
      rintro d hd heq
      obtain rfl := Option.some.inj heq
      rw [hname c (hown ▸ List.mem_cons_self)] at hd
      cases hd
    rw [key, run_bind_eq (run_accept_of_ne (hstart '"' (by decide)))]
    rw [if_neg Bool.false_ne_true, run_bind_eq (run_accept_of_ne (hstart '\'' (by decide))),
      if_neg Bool.false_ne_true, run_bind_eq (run_takeWhile hname hrest)]
    rw [hown]
    rfl
  | quoted hquoted =>
    obtain ⟨style, body, hstyle, rfl, -, hread⟩ := hquoted.exists_body
    have htext : style.mark :: (body ++ [style.mark]) ++ rest
        = style.mark :: (body ++ style.mark :: rest) := by simp
    rw [htext, key]
    rcases hstyle with rfl | rfl
    · exact (run_bind_eq (run_accept '"')).trans (run_line (hread rest))
    · have hother : ('\'' :: (body ++ '\'' :: rest)).head? ≠ some '"' := by simp
      refine (run_bind_eq (run_accept_of_ne hother)).trans ?_
      exact (run_bind_eq (run_accept '\'')).trans (run_line (hread rest))

theorem IsKey.exists_cons (h : IsKey name own) : ∃ c others, own = c :: others ∧ isKeyStart c := by
  cases h with
  | bare hne hname =>
    obtain ⟨c, others, rfl⟩ := List.exists_cons_of_ne_nil hne
    exact ⟨c, others, rfl, by simp [isKeyStart, hname c List.mem_cons_self]⟩
  | quoted hquoted =>
    obtain ⟨style, body, hstyle, rfl, -⟩ := hquoted.exists_body
    refine ⟨style.mark, _, rfl, ?_⟩
    rcases hstyle with rfl | rfl <;> decide

theorem not_isBlankChar_of_isKeyStart {c : Char} (h : isKeyStart c) : isBlankChar c = false := by
  rw [isBlankChar, Bool.or_eq_false_iff, decide_eq_false_iff_not, decide_eq_false_iff_not]
  constructor
  all_goals
    rintro rfl
    exact absurd h (by decide)

/-- Blanks do not reach into the key behind them. -/
theorem IsKey.avoids_isBlankChar (h : IsKey name own) : Avoids (own ++ rest) isBlankChar := by
  obtain ⟨c, others, rfl, hc⟩ := h.exists_cons
  exact .cons (not_isBlankChar_of_isKeyStart hc)

/-- Keys do not reach into the blanks behind them. -/
theorem IsPad.avoids_isKeyChar {pad : List Char} (h : IsPad pad) : Avoids pad isKeyChar := by
  intro c hc
  have hblank := h c (List.mem_of_head? hc)
  simp only [isBlankChar, Bool.or_eq_true, decide_eq_true_eq] at hblank
  rcases hblank with rfl | rfl <;> decide

/-- What may follow a path of keys: an equals sign or a bracket. -/
def isPathEnd (c : Char) : Bool :=
  c = '=' || c = ']'

theorem run_keys (h : IsKeyPath path own) {c : Char} (hc : isPathEnd c) {room : Nat}
    (hroom : path.length ≤ room) : (keys room).run (own ++ c :: rest) = some (path, c :: rest) := by
  obtain ⟨hblank, hkey, hdot⟩ : isBlankChar c = false ∧ isKeyChar c = false ∧ c ≠ '.' := by
    simp only [isPathEnd, Bool.or_eq_true, decide_eq_true_eq] at hc
    rcases hc with rfl | rfl <;> decide
  -- By induction on the path, whose keys take one place each.
  induction h generalizing room with
  | last hfront hown hback =>
    obtain ⟨room, rfl⟩ := Nat.exists_eq_succ_of_ne_zero (Nat.ne_of_gt hroom)
    rw [keys, List.append_assoc, List.append_assoc,
      run_bind_eq (run_blanks hfront hown.avoids_isBlankChar),
      run_bind_eq (run_key hown (hback.avoids_isKeyChar.append (.cons hkey))),
      run_bind_eq (run_blanks hback (.cons hblank)),
      run_bind_eq (run_accept_of_ne (by simpa using hdot))]
    rfl
  | dot hfront hown hback _ ih =>
    obtain ⟨room, rfl⟩ := Nat.exists_eq_succ_of_ne_zero (Nat.ne_of_gt (Nat.zero_lt_of_lt hroom))
    have hdotKey : isKeyChar '.' = false := by decide
    rw [keys, List.append_assoc, List.append_assoc, List.append_assoc, List.cons_append,
      run_bind_eq (run_blanks hfront hown.avoids_isBlankChar),
      run_bind_eq (run_key hown (hback.avoids_isKeyChar.append (.cons hdotKey))),
      run_bind_eq (run_blanks hback (.cons (by decide))), run_bind_eq (run_accept '.'),
      if_pos rfl, run_bind_eq (ih (Nat.le_of_succ_le_succ hroom))]
    rfl

theorem run_keyPath (h : IsShortPath path own) {c : Char} (hc : isPathEnd c) :
    keyPath.run (own ++ c :: rest) = some (path, c :: rest) :=
  run_keys h.1 hc (Nat.le_pred_of_lt h.2)

/-- The first key of a path stands behind blanks. -/
theorem IsShortPath.exists_pad (h : IsShortPath path own) :
    ∃ pad c others, IsPad pad ∧ own = pad ++ c :: others ∧ isKeyStart c
      ∧ IsShortPath path (c :: others) := by
  obtain ⟨hpath, hlength⟩ := h
  cases hpath with
  | last hfront hown hback =>
    obtain ⟨c, others, rfl, hc⟩ := hown.exists_cons
    exact ⟨_, c, _, hfront, rfl, hc, .last (List.forall_mem_nil _) hown hback, hlength⟩
  | dot hfront hown hback hrest =>
    obtain ⟨c, others, rfl, hc⟩ := hown.exists_cons
    exact ⟨_, c, _, hfront, rfl, hc, .dot (List.forall_mem_nil _) hown hback hrest, hlength⟩

end Keys

/-! ## Values -/

section Gaps

variable {gap trail rest : List Char}

theorem IsLineEnd.exists_cons {ending : List Char} (h : IsLineEnd ending) :
    ∃ c others, ending = c :: others ∧ (c = '\n' ∨ c = '\r') := by
  cases h with
  | newline => exact ⟨_, _, rfl, .inl rfl⟩
  | carriage => exact ⟨_, _, rfl, .inr rfl⟩

/-- A line end is none of the characters before it. -/
theorem IsLineEnd.avoids {ending : List Char} (h : IsLineEnd ending) {kind : Char → Bool}
    (hnewline : kind '\n' = false) (hcarriage : kind '\r' = false) :
    Avoids (ending ++ rest) kind := by
  obtain ⟨c, others, rfl, rfl | rfl⟩ := h.exists_cons
  · exact .cons hnewline
  · exact .cons hcarriage

theorem run_comment {comment : List Char} (h : IsComment comment) (hrest : Avoids rest isTextChar) :
    Scan.comment.run (comment ++ rest) = some ((), rest) := by
  cases h with
  | absent =>
    have hhash : rest.head? ≠ some '#' := fun heq => absurd (hrest '#' heq) (by decide)
    exact run_bind_eq (run_accept_of_ne hhash)
  | hash hbody =>
    exact (run_bind_eq (run_accept '#')).trans (run_bind_eq (run_takeWhile hbody hrest))

/-- Blanks, comments and line ends are passed over. -/
theorem run_gaps (h : IsGap gap) {fuel : Nat} (hfuel : gap.length ≤ fuel)
    (hrest : Avoids rest isGapChar) : (Scan.gaps fuel).run (gap ++ rest) = some ((), rest) := by
  -- By induction on the lines: each of them has its line end for its step of the fuel.
  induction h generalizing fuel with
  | pad hpad =>
    cases fuel with
    | zero =>
      obtain rfl := List.eq_nil_of_length_eq_zero (Nat.le_zero.1 hfuel)
      rfl
    | succ fuel =>
      have hblank : Avoids rest isBlankChar := fun c hc => by
        have hgap := hrest c hc
        simp only [isGapChar, Bool.or_eq_false_iff] at hgap
        exact hgap.1.1.1
      rw [Scan.gaps, run_bind_eq (run_blanks hpad hblank), run_bind_eq run_next?]
      -- Neither a comment nor a line end follows.
      split
      · next heq => exact absurd (hrest _ heq) (by decide)
      · next heq => exact absurd (hrest _ heq) (by decide)
      · next heq => exact absurd (hrest _ heq) (by decide)
      · rfl
  | @line trail ending more htrail hend _ ih =>
    obtain @⟨pad, comment, hpad, hcomment⟩ := htrail
    obtain ⟨c, others, rfl, hc⟩ := hend.exists_cons
    obtain ⟨fuel, rfl⟩ : ∃ less, fuel = less + 1 := by
      refine Nat.exists_eq_succ_of_ne_zero ?_
      rintro rfl
      simp at hfuel
    have hlength : more.length ≤ fuel := by
      simp only [List.length_append, List.length_cons] at hfuel
      omega
    have hblank : Avoids (comment ++ (c :: others ++ (more ++ rest))) isBlankChar := by
      cases hcomment with
      | absent => exact hend.avoids (by decide) (by decide)
      | hash => exact .cons (by decide)
    rw [Scan.gaps]
    simp only [List.append_assoc]
    rw [run_bind_eq (run_blanks hpad hblank), run_bind_eq run_next?]
    cases hcomment with
    | hash hbody =>
      have hcomment := run_comment (.hash hbody)
        (@IsLineEnd.avoids (more ++ rest) _ hend isTextChar (by decide) (by decide))
      exact (run_bind_eq hcomment).trans ((run_bind_eq (run_newline hend)).trans (ih hlength))
    | absent =>
      rcases hc with rfl | rfl
      · exact (run_bind_eq (run_newline hend)).trans (ih hlength)
      · exact (run_bind_eq (run_newline hend)).trans (ih hlength)

end Gaps

section Values

variable {own rest : List Char}

/-- A run of characters is read as a number or a truth value. -/
theorem run_scalarValue {value : Value} (h : IsScalar value own)
    (hrest : Avoids rest isScalarChar) :
    scalarValue.run (own ++ rest) = some (value, rest) := by
  have hdate : isDate own = false := h.isTimeless.isDate_eq_false
  rw [scalarValue, run_bind_eq (run_takeWhile h.isScalarChar.2 hrest)]
  simp [hdate, scalar_of_isScalar h]

theorem run_string {style : QuoteStyle} {content text : List Char}
    (h : readString style text = some (content, rest)) :
    (Scan.string style).run text = some (String.ofList content, rest) := by
  simp [Scan.string, h]

/-- A character with which a value that is no container may begin. -/
theorem IsAtom.exists_cons {value : Value} (h : IsAtom value own) :
    ∃ c others, own = c :: others ∧ isValueChar c := by
  cases h with
  | string h =>
    obtain ⟨style, body, hstyle, rfl, -⟩ := h.exists_body
    refine ⟨style.mark, _, rfl, ?_⟩
    rcases hstyle with rfl | rfl <;> decide
  | scalar h =>
    obtain ⟨hne, hall⟩ := h.isScalarChar
    obtain ⟨c, others, rfl⟩ := List.exists_cons_of_ne_nil hne
    exact ⟨c, others, rfl, by simp [isValueChar, hall c List.mem_cons_self]⟩

/-- A value that is no container is read, whatever containers it stands in. -/
theorem run_atom {value : Value} (h : IsAtom value own) (hrest : Avoids rest isValueChar)
    (fuel room : Nat) : (Toml.value (fuel + 1) room).run (own ++ rest) = some (value, rest) := by
  cases h with
  | string h =>
    obtain ⟨style, body, hstyle, rfl, hbody, hread⟩ := h.exists_body
    have hnext : rest.head? ≠ some style.mark := by
      intro heq
      have hmark := hrest _ heq
      rcases hstyle with rfl | rfl <;> exact absurd hmark (by decide)
    have hstring := run_string ((readString_eq hbody hnext).trans (hread rest))
    have htext : style.mark :: (body ++ [style.mark]) ++ rest
        = style.mark :: (body ++ style.mark :: rest) := by simp
    rw [htext, Toml.value, run_bind_eq run_next?]
    rcases hstyle with rfl | rfl
    · refine (run_bind_eq (run_expect '"')).trans ?_
      rw [run_bind_eq hstring]
      rfl
    · refine (run_bind_eq (run_expect '\'')).trans ?_
      rw [run_bind_eq hstring]
      rfl
  | scalar h =>
    obtain ⟨hne, hall⟩ := h.isScalarChar
    obtain ⟨c, others, hown⟩ := List.exists_cons_of_ne_nil hne
    have hc : isScalarChar c := hall c (hown ▸ List.mem_cons_self)
    have hhead : ∀ d, isScalarChar d = false → (own ++ rest).head? ≠ some d := by
      rintro d hd heq
      rw [hown] at heq
      rw [Option.some.inj heq, hd] at hc
      cases hc
    have hscalar : Avoids rest isScalarChar := fun d hd => by
      have hvalue := hrest d hd
      simp only [isValueChar, Bool.or_eq_false_iff] at hvalue
      exact hvalue.1.1
    rw [Toml.value, run_bind_eq run_next?]
    -- The values that begin with another character are out of the question.
    split
    · next heq => exact absurd heq (hhead _ (by decide))
    · next heq => exact absurd heq (hhead _ (by decide))
    · next heq => exact absurd heq (hhead _ (by decide))
    · next heq => exact absurd heq (hhead _ (by decide))
    · exact run_scalarValue h hscalar

/-- What begins with a value stops blanks, comments and line ends, and it is not the end of an
array. -/
theorem IsValue.exists_cons {room : Nat} {value : Value} (h : IsValue room value own) :
    ∃ c others, own = c :: others ∧ isGapChar c = false ∧ c ≠ ']' := by
  have hatom : IsAtom value own →
      ∃ c others, own = c :: others ∧ isGapChar c = false ∧ c ≠ ']' := by
    intro h
    obtain ⟨c, others, rfl, hc⟩ := h.exists_cons
    refine ⟨c, others, rfl, Bool.eq_false_iff.2 fun hgap => ?_, ?_⟩
    · rw [not_isValueChar_of_isGapChar hgap] at hc
      cases hc
    · rintro rfl
      exact absurd hc (by decide)
  cases room with
  | zero => exact hatom h
  | succ room =>
    rcases h with h | ⟨items, body, -, -, rfl⟩
    · exact hatom h
    · exact ⟨'[', body, rfl, by decide, by decide⟩

theorem IsPad.avoids_isValueChar {pad : List Char} (h : IsPad pad) : Avoids pad isValueChar :=
  fun _ hc => not_isValueChar_of_isGapChar (h.head? hc)

theorem IsTrail.avoids_isValueChar {trail : List Char} (h : IsTrail trail) :
    Avoids trail isValueChar := by
  obtain ⟨hpad, hcomment⟩ := h
  cases hcomment with
  | absent => exact hpad.avoids_isValueChar.append .nil
  | hash => exact hpad.avoids_isValueChar.append (.cons (by decide))

/-- A gap begins with what no value goes on with. -/
theorem IsGap.avoids_isValueChar {gap : List Char} (h : IsGap gap) : Avoids gap isValueChar := by
  cases h with
  | pad hpad => exact hpad.avoids_isValueChar
  | line htrail hend => exact htrail.avoids_isValueChar.append (hend.avoids (by decide) (by decide))

/-- An element of an array is read up to the comma or the bracket behind it. -/
theorem run_element {room fuel : Nat} {item : Value} {gap own back : List Char} {c : Char}
    (hgap : IsGap gap) (hback : IsGap back) (hc : c = ',' ∨ c = ']')
    (hfuel : gap.length + back.length ≤ fuel)
    (hstart : ∃ c others, own = c :: others ∧ isGapChar c = false ∧ c ≠ ']')
    (hvalue : Avoids (back ++ c :: rest) isValueChar →
      (Toml.value fuel room).run (own ++ (back ++ c :: rest)) = some (item, back ++ c :: rest)) :
    (elements (fuel + 1) room).run (gap ++ (own ++ (back ++ c :: rest)))
      = (do
          if ← Scan.accept ',' then return item :: (← elements fuel room)
          Scan.expect ']'
          return [item] : Scan (List Value)).run (c :: rest) := by
  obtain ⟨d, others, rfl, hgapChar, hclosing⟩ := hstart
  have hfirst : Avoids (d :: others ++ (back ++ c :: rest)) isGapChar := .cons hgapChar
  have hopen : (d :: others ++ (back ++ c :: rest)).head? ≠ some ']' := fun heq =>
    hclosing (Option.some.inj heq)
  have hend : isGapChar c = false ∧ isValueChar c = false := by
    rcases hc with rfl | rfl <;> decide
  rw [elements, run_bind_eq (run_gaps hgap (by omega) hfirst),
    run_bind_eq (run_accept_of_ne hopen), if_neg Bool.false_ne_true,
    run_bind_eq (hvalue (hback.avoids_isValueChar.append (.cons hend.2))),
    run_bind_eq (run_gaps hback (by omega) (.cons hend.1))]

/-- The elements of an array are read if a value is. -/
theorem run_elements {spelled : Value → List Char → Prop} {room fuel : Nat} {items : List Value}
    {body : List Char} (h : IsElements spelled items body) (hfuel : body.length ≤ fuel)
    (hstart : ∀ value own, spelled value own →
      ∃ c others, own = c :: others ∧ isGapChar c = false ∧ c ≠ ']')
    (hread : ∀ fuel value own rest, spelled value own → own.length ≤ fuel →
      Avoids rest isValueChar → (Toml.value fuel room).run (own ++ rest) = some (value, rest)) :
    (elements fuel room).run (body ++ rest) = some (items, rest) := by
  -- By induction on the elements: each of them has a character of its own for its step of the fuel.
  induction h generalizing fuel with
  | @close gap hgap =>
    rw [List.length_append, List.length_singleton] at hfuel
    obtain ⟨fuel, rfl⟩ := Nat.exists_eq_succ_of_ne_zero (Nat.ne_of_gt (Nat.zero_lt_of_lt hfuel))
    rw [elements, List.append_assoc, List.singleton_append,
      run_bind_eq (run_gaps hgap (Nat.le_of_succ_le_succ hfuel) (.cons (by decide))),
      run_bind_eq (run_accept ']')]
    rfl
  | @last item gap own back hgap hown hback =>
    simp only [List.length_append, List.length_singleton] at hfuel
    obtain ⟨fuel, rfl⟩ : ∃ less, fuel = less + 1 := Nat.exists_eq_succ_of_ne_zero (by omega)
    have hcomma : (']' :: rest).head? ≠ some ',' := by simp
    simp only [List.append_assoc, List.singleton_append]
    rw [run_element hgap hback (.inr rfl) (by omega) (hstart item own hown)
        (hread fuel item own _ hown (by omega)),
      run_bind_eq (run_accept_of_ne hcomma), if_neg Bool.false_ne_true,
      run_bind_eq (run_expect ']')]
    rfl
  | @comma item items gap own back more hgap hown hback _ ih =>
    simp only [List.length_append, List.length_cons] at hfuel
    obtain ⟨fuel, rfl⟩ : ∃ less, fuel = less + 1 := Nat.exists_eq_succ_of_ne_zero (by omega)
    simp only [List.append_assoc, List.cons_append]
    rw [run_element hgap hback (.inl rfl) (by omega) (hstart item own hown)
        (hread fuel item own _ hown (by omega)),
      run_bind_eq (run_accept ','), if_pos rfl, run_bind_eq (ih (by omega))]
    rfl

/-- A reader of a value may take a step. -/
theorem IsValue.exists_fuel {room fuel : Nat} {value : Value} (h : IsValue room value own)
    (hfuel : own.length ≤ fuel) : ∃ less, fuel = less + 1 := by
  obtain ⟨c, others, rfl, -⟩ := h.exists_cons
  exact Nat.exists_eq_succ_of_ne_zero (Nat.ne_of_gt (Nat.zero_lt_of_lt hfuel))

/-- A value is read from each of its texts. -/
theorem run_value {room fuel : Nat} {value : Value} (h : IsValue room value own)
    (hfuel : own.length ≤ fuel) (hrest : Avoids rest isValueChar) :
    (Toml.value fuel room).run (own ++ rest) = some (value, rest) := by
  -- By induction on the number of arrays that may still be opened.
  induction room generalizing fuel value own rest with
  | zero =>
    obtain ⟨fuel, rfl⟩ := h.exists_fuel hfuel
    exact run_atom h hrest fuel 0
  | succ room ih =>
    obtain ⟨fuel, rfl⟩ := h.exists_fuel hfuel
    rcases h with h | ⟨items, body, rfl, hitems, rfl⟩
    · exact run_atom h hrest fuel (room + 1)
    · have helements : (elements fuel room).run (body ++ rest) = some (items, rest) :=
        run_elements hitems (Nat.le_of_succ_le_succ hfuel) (fun _ _ h => h.exists_cons)
          fun fuel value own rest h hfuel hrest => ih h hfuel hrest
      rw [Toml.value, List.cons_append, run_bind_eq run_next?]
      refine (run_bind_eq (run_expect '[')).trans ?_
      rw [Nat.add_sub_cancel, run_bind_eq helements]
      rfl

end Values

/-! ## Statements -/

section Lines

variable {own pad trail rest : List Char}

/-- What follows a line: another one behind a line end, or nothing. -/
inductive GoesOn : List Char → List Char → Prop
  /-- The text ends. -/
  | ended : GoesOn [] []
  /-- A line end and what follows it. -/
  | line {ending rest : List Char} (h : IsLineEnd ending) : GoesOn (ending ++ rest) rest

theorem GoesOn.avoids {behind : List Char} (h : GoesOn behind rest) {kind : Char → Bool}
    (hnewline : kind '\n' = false) (hcarriage : kind '\r' = false) : Avoids behind kind := by
  cases h with
  | ended => exact .nil
  | line hend => exact hend.avoids hnewline hcarriage

theorem run_lineEnd {behind : List Char} (h : GoesOn behind rest) :
    Scan.lineEnd.run behind = some ((), rest) := by
  cases h with
  | ended => rfl
  | line hend =>
    obtain ⟨c, others, rfl, -⟩ := hend.exists_cons
    exact (run_bind_eq run_next?).trans (run_newline hend)

theorem run_lineRest {behind : List Char} (htrail : IsTrail trail) (h : GoesOn behind rest) :
    Scan.lineRest.run (trail ++ behind) = some ((), rest) := by
  obtain ⟨hpad, hcomment⟩ := htrail
  have hblank : Avoids behind isBlankChar := h.avoids (by decide) (by decide)
  have htext : Avoids behind isTextChar := h.avoids (by decide) (by decide)
  have hcommentBlank : ∀ {comment}, IsComment comment → Avoids comment isBlankChar := by
    rintro comment (- | -)
    · exact .nil
    · exact .cons (by decide)
  rw [List.append_assoc, Scan.lineRest,
    run_bind_eq (run_blanks hpad ((hcommentBlank hcomment).append hblank)),
    run_bind_eq (run_comment hcomment htext)]
  exact run_lineEnd h

/-- A path begins with no bracket. -/
theorem IsShortPath.head?_ne {path : List String} (h : IsShortPath path own) :
    (own ++ rest).head? ≠ some '[' := by
  obtain ⟨pad, c, others, hpad, rfl, hc, -⟩ := h.exists_pad
  have havoids : Avoids (pad ++ c :: others ++ rest) fun d => d = '[' := by
    rw [List.append_assoc]
    refine .append (fun d hd => ?_) (.cons ?_)
    · have hblank := hpad d (List.mem_of_head? hd)
      rw [decide_eq_false_iff_not]
      rintro rfl
      exact absurd hblank (by decide)
    · rw [decide_eq_false_iff_not]
      rintro rfl
      exact absurd hc (by decide)
  exact fun heq => absurd (havoids _ heq) (by decide)

/-- The header of a table is read after its bracket. -/
theorem run_header_table {path : List String} (h : IsShortPath path own) :
    header.run (own ++ ']' :: rest) = some (.table path, rest) := by
  rw [header, run_bind_eq (run_accept_of_ne h.head?_ne), if_neg Bool.false_ne_true,
    run_bind_eq (run_keyPath h (by decide)), run_bind_eq (run_expect ']')]
  rfl

/-- The header of an element is read after its first bracket. -/
theorem run_header_element {path : List String} (h : IsShortPath path own) :
    header.run ('[' :: (own ++ ']' :: ']' :: rest)) = some (.element path, rest) := by
  rw [header, run_bind_eq (run_accept '['), if_pos rfl,
    run_bind_eq (run_keyPath h (by decide)), run_bind_eq (run_expect ']'),
    run_bind_eq (run_expect ']')]
  rfl

theorem run_binding {path : List String} {value : Value} {front : List Char} {fuel : Nat}
    (hpath : IsShortPath path front) (hpad : IsPad pad) (hown : IsValue (depthLimit - 1) value own)
    (hfuel : own.length ≤ fuel) (hrest : Avoids rest isValueChar) :
    (binding fuel).run (front ++ '=' :: (pad ++ (own ++ rest)))
      = some (.binding path value, rest) := by
  have hblank : Avoids (own ++ rest) isBlankChar := by
    obtain ⟨c, others, rfl, hc, -⟩ := hown.exists_cons
    refine .cons (Bool.eq_false_iff.2 fun hblank => ?_)
    rw [isGapChar_of_isBlankChar hblank] at hc
    cases hc
  rw [binding, run_bind_eq (run_keyPath hpath (by decide)), run_bind_eq (run_expect '='),
    run_bind_eq (run_blanks hpad hblank), run_bind_eq (run_value hown hfuel hrest)]
  rfl

/-- Two readers after each other, of which the second adds the rest of a list. -/
theorem run_cons {first : Scan Statement} {statement : Statement} {fuel : Nat}
    {text behind : List Char} (hfirst : first.run text = some (statement, trail ++ behind))
    (htrail : IsTrail trail) (hbehind : GoesOn behind rest) :
    (do
      let first ← first
      Scan.lineRest
      return first :: (← statements fuel) : Scan (List Statement)).run text
      = ((statements fuel).run rest).map fun (more, rest) => (statement :: more, rest) := by
  rw [run_bind_eq hfirst, run_bind_eq (run_lineRest htrail hbehind), StateT.run_bind]
  cases (statements fuel).run rest <;> rfl

/-- A line with a statement adds it to those of the lines behind it. -/
theorem run_statements_line {statement : Statement} {behind : List Char} {fuel : Nat}
    (hpad : IsPad pad) (hown : IsStatement statement own) (htrail : IsTrail trail)
    (hbehind : GoesOn behind rest) (hfuel : own.length ≤ fuel) :
    (statements (fuel + 1)).run (pad ++ (own ++ (trail ++ behind)))
      = ((statements fuel).run rest).map fun (more, rest) => (statement :: more, rest) := by
  cases hown with
  | @binding path value front inner own hpath hinner hown =>
    -- The blanks in front of the first key belong to those of the line.
    obtain ⟨lead, c, others, hlead, rfl, hc, hpath⟩ := hpath.exists_pad
    have hvalue : Avoids (trail ++ behind) isValueChar :=
      htrail.avoids_isValueChar.append (hbehind.avoids (by decide) (by decide))
    have hshort : own.length ≤ fuel := by
      simp only [List.length_append, List.length_cons] at hfuel
      omega
    have hread := run_binding hpath hinner hown hshort hvalue
    have hblanks : IsPad (pad ++ lead) := List.forall_mem_append.2 ⟨hpad, hlead⟩
    have hstart :
        Avoids (c :: others ++ '=' :: (inner ++ (own ++ (trail ++ behind)))) isBlankChar :=
      .cons (not_isBlankChar_of_isKeyStart hc)
    have htext : pad ++ (lead ++ c :: others ++ '=' :: (inner ++ own) ++ (trail ++ behind))
        = (pad ++ lead) ++ (c :: others ++ '=' :: (inner ++ (own ++ (trail ++ behind)))) := by simp
    have hne : ∀ d, isKeyStart d = false →
        (c :: others ++ '=' :: (inner ++ (own ++ (trail ++ behind)))).head? ≠ some d := by
      rintro d hd heq
      rw [Option.some.inj heq, hd] at hc
      cases hc
    rw [htext, statements, run_bind_eq (run_blanks hblanks hstart), run_bind_eq run_next?]
    -- A key begins with none of the characters that other lines begin with.
    split
    · next heq => exact absurd heq nofun
    · next heq => exact absurd heq (hne _ (by decide))
    · next heq => exact absurd heq (hne _ (by decide))
    · next heq => exact absurd heq (hne _ (by decide))
    · next heq => exact absurd heq (hne _ (by decide))
    · exact run_cons hread htrail hbehind
  | @table path own hpath =>
    have htext : '[' :: (own ++ [']']) ++ (trail ++ behind)
        = '[' :: (own ++ ']' :: (trail ++ behind)) := by simp
    rw [htext, statements, run_bind_eq (run_blanks hpad (.cons (by decide))),
      run_bind_eq run_next?]
    refine (run_bind_eq (run_expect '[')).trans ?_
    exact run_cons (run_header_table hpath) htrail hbehind
  | @element path own hpath =>
    have htext : '[' :: '[' :: (own ++ [']', ']']) ++ (trail ++ behind)
        = '[' :: '[' :: (own ++ ']' :: ']' :: (trail ++ behind)) := by simp
    rw [htext, statements, run_bind_eq (run_blanks hpad (.cons (by decide))),
      run_bind_eq run_next?]
    refine (run_bind_eq (run_expect '[')).trans ?_
    exact run_cons (run_header_element hpath) htrail hbehind

theorem run_statements_nil {fuel : Nat} : (statements (fuel + 1)).run [] = some ([], []) :=
  rfl

/-- A line without a statement adds nothing. -/
theorem run_statements_skip {ending : List Char} {fuel : Nat} (htrail : IsTrail trail)
    (hend : IsLineEnd ending) :
    (statements (fuel + 1)).run (trail ++ (ending ++ rest)) = (statements fuel).run rest := by
  obtain @⟨pad, comment, hpad, hcomment⟩ := htrail
  rw [List.append_assoc, statements]
  cases hcomment with
  | @hash body hbody =>
    have hrest : Scan.lineRest.run ('#' :: body ++ (ending ++ rest)) = some ((), rest) :=
      run_lineRest (.parts (List.forall_mem_nil _) (.hash hbody)) (.line hend)
    have hblank : Avoids ('#' :: body ++ (ending ++ rest)) isBlankChar := .cons (by decide)
    rw [run_bind_eq (run_blanks hpad hblank), run_bind_eq run_next?]
    exact run_bind_eq hrest
  | absent =>
    have hblank : Avoids ([] ++ (ending ++ rest)) isBlankChar :=
      hend.avoids (by decide) (by decide)
    rw [run_bind_eq (run_blanks hpad hblank), run_bind_eq run_next?]
    obtain ⟨c, others, rfl, rfl | rfl⟩ := hend.exists_cons
    · exact run_bind_eq (run_newline hend)
    · exact run_bind_eq (run_newline hend)

/-- A last line without a statement ends the list. -/
theorem run_statements_done {fuel : Nat} (htrail : IsTrail trail) :
    (statements (fuel + 2)).run trail = some ([], []) := by
  obtain @⟨pad, comment, hpad, hcomment⟩ := htrail
  rw [statements]
  cases hcomment with
  | @hash body hbody =>
    have hrest := run_lineRest (.parts (List.forall_mem_nil _) (.hash hbody)) .ended
    rw [run_bind_eq (run_blanks hpad (.cons (by decide))), run_bind_eq run_next?]
    rw [List.append_nil, List.nil_append] at hrest
    exact run_bind_eq hrest
  | absent =>
    rw [run_bind_eq (run_blanks hpad .nil)]
    rfl

theorem IsLineEnd.length_pos {ending : List Char} (h : IsLineEnd ending) : 0 < ending.length := by
  cases h <;> decide

/-- The statements of the lines of a text are read one after the other. -/
theorem run_statements {list : List Statement} {text : List Char} {fuel : Nat}
    (h : IsStatements list text) (hfuel : text.length + 2 ≤ fuel) :
    (statements fuel).run text = some (list, []) := by
  -- By induction on the lines: each of them has its line end for its step of the fuel, but the last
  -- one takes a step of its own, and so does the end of the text.
  induction h generalizing fuel with
  | done htrail =>
    obtain ⟨fuel, rfl⟩ := Nat.exists_eq_add_of_le' (Nat.le_of_add_left_le hfuel)
    exact run_statements_done htrail
  | @last statement pad own trail hpad hown htrail =>
    simp only [List.length_append] at hfuel
    obtain ⟨fuel, rfl⟩ := Nat.exists_eq_add_of_le' (Nat.le_of_add_left_le hfuel)
    have hshort : own.length ≤ fuel + 1 := by omega
    have hline := run_statements_line hpad hown htrail .ended hshort
    rw [List.append_nil] at hline
    rw [hline, run_statements_nil]
    rfl
  | @skip list trail ending rest htrail hend _ ih =>
    have hpos := hend.length_pos
    simp only [List.length_append] at hfuel
    obtain ⟨fuel, rfl⟩ := Nat.exists_eq_add_of_le' (Nat.le_of_add_left_le hfuel)
    rw [run_statements_skip htrail hend]
    exact ih (by omega)
  | @line statement list pad own trail ending rest hpad hown htrail hend _ ih =>
    have hpos := hend.length_pos
    simp only [List.length_append] at hfuel
    obtain ⟨fuel, rfl⟩ := Nat.exists_eq_add_of_le' (Nat.le_of_add_left_le hfuel)
    rw [run_statements_line hpad hown htrail (.line hend) (by omega), ih (by omega)]
    rfl

end Lines

/-! ## The mark of the byte order -/

/-- The mark of the byte order. -/
def isOrderMark (c : Char) : Bool :=
  c = '\uFEFF'

theorem IsPad.avoids_isOrderMark {pad : List Char} (h : IsPad pad) : Avoids pad isOrderMark := by
  intro c hc
  have hblank := h c (List.mem_of_head? hc)
  simp only [isBlankChar, Bool.or_eq_true, decide_eq_true_eq] at hblank
  rcases hblank with rfl | rfl <;> decide

theorem IsTrail.avoids_isOrderMark {trail : List Char} (h : IsTrail trail) :
    Avoids trail isOrderMark := by
  obtain ⟨hpad, hcomment⟩ := h
  refine hpad.avoids_isOrderMark.append ?_
  cases hcomment with
  | absent => exact .nil
  | hash => exact .cons (by decide)

theorem IsStatement.avoids_isOrderMark {statement : Statement} {own rest : List Char}
    (h : IsStatement statement own) : Avoids (own ++ rest) isOrderMark := by
  cases h with
  | table => exact .cons (by decide)
  | element => exact .cons (by decide)
  | binding hpath =>
    obtain ⟨pad, c, others, hpad, rfl, hc, -⟩ := hpath.exists_pad
    rw [List.append_assoc, List.append_assoc]
    refine hpad.avoids_isOrderMark.append (.cons ?_)
    rw [isOrderMark, decide_eq_false_iff_not]
    rintro rfl
    exact absurd hc (by decide)

/-- No text of the grammar begins with a mark of the byte order, which would not count. -/
theorem IsStatements.head?_ne {list : List Statement} {text : List Char}
    (h : IsStatements list text) : text.head? ≠ some '\uFEFF' := by
  have havoids : Avoids text isOrderMark := by
    induction h with
    | done htrail => exact htrail.avoids_isOrderMark
    | last hpad hown => exact hpad.avoids_isOrderMark.append hown.avoids_isOrderMark
    | skip htrail hend =>
      exact htrail.avoids_isOrderMark.append (hend.avoids (by decide) (by decide))
    | line hpad hown => exact hpad.avoids_isOrderMark.append hown.avoids_isOrderMark
  exact fun heq => absurd (havoids _ heq) (by decide)

/-- The statements of a file are read from each of its texts. -/
theorem statements?_of_isStatements {list : List Statement} {text : List Char}
    (h : IsStatements list text) : statements? text = some list := by
  rw [statements?, if_neg h.head?_ne, run_statements h (by omega)]
  rfl

end RubricScore.Toml
