import SqlScript.Proofs.ByteOffsets
import SqlScript.Proofs.ScannedText

/-!
# The scanner at byte offsets

`ScanState.scan` reads what is left of a line and cannot leave it.  A `ByteScanner` keeps the
whole line and a byte offset into it: it goes on by the length of what it has read, cuts the
rest of the line out again at every turn of its loop, and remembers a span by the text that
opened it, a comment by its depth.  Nothing in these types holds it in the line or in a span
that exists.  A turn has no result if a cut or a depth goes wrong, and a scan (`Scans`) has
none if a turn has none or if the loop does not end.

* `Legal` — the spans that exist;
* `Shows` — it is in the state of the other scanner, so its span is one of them;
* `delimiterLength?_eq` — a dollar delimiter is measured as the other scanner reads it;
* `sameMove_move` — one turn of the loop is one move of the other scanner.
-/

namespace SqlScript

/-! ### The loop over a line -/

/-- A span by the text that opened it. -/
inductive OpenSpan where
  | code
  | quote (mark : Char)
  | dollar (delimiter : List Char)
  | comment (depth : Nat)
  deriving DecidableEq, Repr, Inhabited

/-- What the scanner carries, with the number of backslashes that it has just read. -/
structure ByteScanner where
  span : OpenSpan := .code
  parens : Nat := 0
  backslashes : Nat := 0
  deriving DecidableEq, Repr, Inhabited

namespace ByteScanner

/-- What one turn of the loop does: it goes on at another offset, or the line is done. -/
inductive Move where
  | goOn (next : Nat) (scanner : ByteScanner)
  | stop (stop : StopOffset)

/-- The length of a dollar delimiter, where `text` stands at the offset `offset` of it. -/
def delimiterLength? : Nat → List Char → Option Nat
  | _, [] => none
  | offset, c :: text =>
    if c = '$' then some (offset + 1)
    else if if offset = 1 then isTagStart c else isTagChar c then
      delimiterLength? (offset + c.utf8Size) text
    else none

def moveInQuote (b : ByteScanner) (mark : Char) (pos : Nat) (c : Char) : Option Move :=
  some (.goOn (pos + c.utf8Size)
    (if c = mark then
      if mark = '\'' ∧ b.backslashes % 2 = 1 then { b with backslashes := 0 }
      else { b with span := .code, backslashes := 0 }
    else if c = '\\' ∧ mark = '\'' then { b with backslashes := b.backslashes + 1 }
    else { b with backslashes := 0 }))

def moveInDollar (b : ByteScanner) (delimiter : List Char) (pos : Nat) (c : Char)
    (rest : List Char) : Option Move :=
  if delimiter.isPrefixOf rest then
    some (.goOn (pos + byteLength delimiter) { b with span := .code })
  else some (.goOn (pos + c.utf8Size) b)

/-- A depth of zero cannot be lowered. -/
def moveInComment (b : ByteScanner) (depth : Nat) (pos : Nat) (c : Char) (rest : List Char) :
    Option Move :=
  if ['/', '*'].isPrefixOf rest then
    some (.goOn (pos + 2) { b with span := .comment (depth + 1) })
  else if ['*', '/'].isPrefixOf rest then
    match depth with
    | 0 => none
    | outer + 1 =>
      some (.goOn (pos + 2) { b with span := if outer = 0 then .code else .comment outer })
  else some (.goOn (pos + c.utf8Size) b)

def moveInCode (b : ByteScanner) (pos : Nat) (c : Char) (rest : List Char) : Option Move :=
  if c = '/' ∧ ['/', '*'].isPrefixOf rest then some (.goOn (pos + 2) { b with span := .comment 1 })
  else if c = '\'' ∨ c = '"' then
    some (.goOn (pos + 1) { b with span := .quote c, backslashes := 0 })
  else if c = '$' then
    match delimiterLength? c.utf8Size rest.tail with
    | some length => do
      let delimiter ← cut? (String.ofList rest) 0 length
      return .goOn (pos + length) { b with span := .dollar delimiter }
    | none => some (.goOn (pos + 1) b)
  else if c = '-' ∧ ['-', '-'].isPrefixOf rest then some (.stop (.endOfLine pos))
  else if c = '(' then some (.goOn (pos + 1) { b with parens := b.parens + 1 })
  else if c = ')' then some (.goOn (pos + 1) { b with parens := b.parens - 1 })
  else if c = ';' ∧ b.parens = 0 then some (.stop (.terminator pos))
  else if isTagChar c then some (.goOn (pos + byteLength (rest.takeWhile isIdentifierChar)) b)
  else some (.goOn (pos + c.utf8Size) b)

/-- One turn of the loop at the offset `pos` of `line`. -/
def move (b : ByteScanner) (line : String) (pos : Nat) : Option Move :=
  if pos < line.utf8ByteSize then do
    let rest ← cut? line pos line.utf8ByteSize
    match rest with
    | [] => return .stop (.endOfLine line.utf8ByteSize)
    | c :: _ =>
      match b.span with
      | .code => b.moveInCode pos c rest
      | .quote mark => b.moveInQuote mark pos c
      | .dollar delimiter => b.moveInDollar delimiter pos c rest
      | .comment depth => b.moveInComment depth pos c rest
  else some (.stop (.endOfLine line.utf8ByteSize))

/-- A scan that has ended: the turns of its loop, each by its offset and the scanner there,
where it has stopped, and the scanner behind it. -/
structure Scan where
  turns : List (Nat × ByteScanner)
  stop : StopOffset
  scanner : ByteScanner

/-- A scan of `line` from an offset: turn after turn, none of which goes wrong, until the line
is done. -/
inductive Scans (line : String) : ByteScanner → Nat → Scan → Prop
  | stop {b : ByteScanner} {pos : Nat} {stop : StopOffset}
      (hmove : b.move line pos = some (.stop stop)) :
      Scans line b pos { turns := [(pos, b)], stop, scanner := b }
  | goOn {b b' : ByteScanner} {pos next : Nat} {scan : Scan}
      (hmove : b.move line pos = some (.goOn next b')) (hrest : Scans line b' next scan) :
      Scans line b pos { scan with turns := (pos, b) :: scan.turns }

/-- A scanner scans a line in one way only. -/
theorem Scans.unique {line : String} {b : ByteScanner} {pos : Nat} {scan other : Scan}
    (h : Scans line b pos scan) (h' : Scans line b pos other) : other = scan := by
  induction h generalizing other with
  | stop hmove =>
    cases h' with
    | stop hmove' =>
      rw [hmove] at hmove'
      cases hmove'
      rfl
    | goOn hmove' =>
      rw [hmove] at hmove'
      cases hmove'
  | goOn hmove _ ih =>
    cases h' with
    | stop hmove' =>
      rw [hmove] at hmove'
      cases hmove'
    | goOn hmove' hrest' =>
      rw [hmove] at hmove'
      cases hmove'
      rw [ih hrest']

/-! ### Spans that exist -/

/-- Outside of all spans; a quote of one of the two kinds; a dollar delimiter, whose tag
begins with no digit; or a comment that is open. -/
inductive Legal : OpenSpan → Prop
  | code : Legal .code
  | quote {mark : Char} (h : mark = '\'' ∨ mark = '"') : Legal (.quote mark)
  | dollar {tag : List Char} (h : isTag tag = true) : Legal (.dollar ('$' :: (tag ++ ['$'])))
  | comment {depth : Nat} (h : 1 ≤ depth) : Legal (.comment depth)

/-- The span that the other scanner holds, where so many backslashes have just been read. -/
inductive ShowsSpan (backslashes : Nat) : OpenSpan → Span → Prop
  | code : ShowsSpan backslashes .code .code
  | string : ShowsSpan backslashes (.quote '\'') (.string (backslashes % 2 == 1))
  | identifier : ShowsSpan backslashes (.quote '"') .identifier
  | dollar {tag : List Char} (h : isTag tag = true) :
      ShowsSpan backslashes (.dollar (Span.delimiter tag)) (.dollar tag)
  | comment {outer : Nat} : ShowsSpan backslashes (.comment (outer + 1)) (.comment outer)

/-- The two scanners are in the same state. -/
structure Shows (b : ByteScanner) (st : ScanState) : Prop where
  span : ShowsSpan b.backslashes b.span st.span
  parens : b.parens = st.parens

theorem Shows.legal {b : ByteScanner} {st : ScanState} (h : b.Shows st) : Legal b.span := by
  obtain ⟨span, parens, backslashes⟩ := b
  obtain ⟨span', parens'⟩ := st
  cases h.span with
  | code => exact .code
  | string => exact .quote (.inl rfl)
  | identifier => exact .quote (.inr rfl)
  | dollar htag => exact .dollar htag
  | comment => exact .comment (Nat.le_add_left 1 _)

theorem shows_start : ({} : ByteScanner).Shows {} :=
  ⟨.code, rfl⟩

/-- A line break ends a run of backslashes. -/
def beginLine (b : ByteScanner) : ByteScanner :=
  { b with backslashes := 0 }

def inLiteral (b : ByteScanner) : Bool :=
  match b.span with
  | .quote _ | .dollar _ => true
  | .code | .comment _ => false

theorem Shows.inLiteral {b : ByteScanner} {st : ScanState} (h : b.Shows st) :
    b.inLiteral = st.inLiteral := by
  obtain ⟨span, parens, backslashes⟩ := b
  obtain ⟨span', parens'⟩ := st
  cases h.span <;> rfl

theorem Shows.beginLine {b : ByteScanner} {st : ScanState} (h : b.Shows st) :
    b.beginLine.Shows st.beginLine := by
  obtain ⟨span, parens, backslashes⟩ := b
  obtain ⟨span', parens'⟩ := st
  obtain ⟨hspan, hparens⟩ := h
  cases hspan with
  | code => exact ⟨.code, hparens⟩
  | string => exact ⟨.string, hparens⟩
  | identifier => exact ⟨.identifier, hparens⟩
  | dollar htag => exact ⟨.dollar htag, hparens⟩
  | comment => exact ⟨.comment, hparens⟩

/-! ### One turn of the loop is one move -/

/-- A turn of the loop, at the offset `pos` with `rest` in front, does what a move does: it
goes on behind the same token, which is not empty, or stops for the same reason. -/
inductive SameMove (pos : Nat) (rest : List Char) : Option Move → SqlScript.Move → Prop
  | goOn {length extra : Nat} {b : ByteScanner} {next : ScanState}
      (hlength : byteLength (rest.take (extra + 1)) = length) (h : b.Shows next) :
      SameMove pos rest (some (.goOn (pos + length) b)) (.pass extra next)
  | terminator : SameMove pos rest (some (.stop (.terminator pos))) .terminator
  | lineComment : SameMove pos rest (some (.stop (.endOfLine pos))) .lineComment

variable {b : ByteScanner} {st : ScanState} {pos : Nat} {c : Char} {rest : List Char}

theorem byteLength_take_one (c : Char) (rest : List Char) :
    byteLength ((c :: rest).take (0 + 1)) = c.utf8Size := by
  rw [Nat.zero_add, List.take_succ_cons, List.take_zero, byteLength, byteLength, Nat.add_zero]

/-- A single character is read. -/
theorem SameMove.single {length : Nat} (h : b.Shows st) (hc : c.utf8Size = length) :
    SameMove pos (c :: rest) (some (.goOn (pos + length) b)) (.pass 0 st) :=
  .goOn ((byteLength_take_one c rest).trans hc) h

theorem isPrefixOf_pair_iff {d e : Char} :
    [d, e].isPrefixOf (c :: rest) = true ↔ c = d ∧ rest.head? = some e := by
  rw [List.isPrefixOf_iff_prefix, List.cons_prefix_cons]
  refine and_congr eq_comm ?_
  cases rest with
  | nil => simp
  | cons f rest => simp [List.cons_prefix_cons, eq_comm (a := e)]

/-- Two characters of ASCII are read. -/
theorem SameMove.pair {d : Char} (h : b.Shows st) (hc : c.utf8Size = 1) (hd : d.utf8Size = 1)
    (hrest : rest.head? = some d) :
    SameMove pos (c :: rest) (some (.goOn (pos + 2) b)) (.pass 1 st) := by
  obtain ⟨rest, rfl⟩ := List.head?_eq_some_iff.mp hrest
  refine .goOn ?_ h
  rw [List.take_succ_cons, List.take_succ_cons, List.take_zero, byteLength, byteLength, byteLength,
    hc, hd]

theorem sameMove_moveInQuote {mark : Char} {span : Span} {parens backslashes : Nat}
    (h : ShowsSpan backslashes (.quote mark) span) :
    SameMove pos (c :: rest) (moveInQuote ⟨.quote mark, parens, backslashes⟩ mark pos c)
      ((⟨span, parens⟩ : ScanState).move c rest) := by
  rw [moveInQuote]
  cases h with
  | string =>
    rw [ScanState.move]
    dsimp only
    by_cases hc : c = '\''
    · rw [if_pos hc, if_pos hc]
      by_cases hodd : backslashes % 2 = 1
      · rw [if_pos ⟨rfl, hodd⟩, if_pos (by simpa using hodd)]
        exact .single ⟨.string, rfl⟩ rfl
      · rw [if_neg (fun h => hodd h.2), if_neg (by simpa using hodd)]
        exact .single ⟨.code, rfl⟩ rfl
    · rw [if_neg hc, if_neg hc]
      by_cases hslash : c = '\\'
      · rw [if_pos ⟨hslash, rfl⟩]
        have hodd : (c == '\\' && !(backslashes % 2 == 1)) = ((backslashes + 1) % 2 == 1) := by
          rw [hslash, Bool.eq_iff_iff]
          simp
          omega
        rw [hodd]
        exact .single ⟨.string, rfl⟩ rfl
      · rw [if_neg (fun h => hslash h.1)]
        have hnone : (c == '\\' && !(backslashes % 2 == 1)) = (0 % 2 == 1) := by
          rw [beq_false_of_ne hslash]
          rfl
        rw [hnone]
        exact .single ⟨.string, rfl⟩ rfl
  | identifier =>
    rw [ScanState.move]
    dsimp only
    by_cases hc : c = '"'
    · rw [if_pos hc, if_pos hc, if_neg (fun h => absurd h.1 (by decide))]
      exact .single ⟨.code, rfl⟩ rfl
    · rw [if_neg hc, if_neg hc, if_neg (fun h => absurd h.2 (by decide))]
      exact .single ⟨.identifier, rfl⟩ rfl

theorem sameMove_moveInDollar {delimiter : List Char} {span : Span} {parens backslashes : Nat}
    (h : ShowsSpan backslashes (.dollar delimiter) span) :
    SameMove pos (c :: rest)
      (moveInDollar ⟨.dollar delimiter, parens, backslashes⟩ delimiter pos c (c :: rest))
      ((⟨span, parens⟩ : ScanState).move c rest) := by
  cases h with
  | @dollar tag htag =>
    rw [moveInDollar, ScanState.move]
    dsimp only
    by_cases hclose : (Span.delimiter tag).isPrefixOf (c :: rest) = true
    · rw [if_pos hclose, if_pos hclose]
      refine .goOn ?_ ⟨.code, rfl⟩
      have hprefix := List.prefix_iff_eq_take.mp (List.isPrefixOf_iff_prefix.mp hclose)
      have hlength : (Span.delimiter tag).length = tag.length + 1 + 1 := by
        rw [Span.delimiter, List.length_cons, List.length_append, List.length_singleton]
      rw [hlength] at hprefix
      rw [← hprefix]
    · rw [if_neg hclose, if_neg hclose]
      exact .single ⟨.dollar htag, rfl⟩ rfl

theorem sameMove_moveInComment {depth : Nat} {span : Span} {parens backslashes : Nat}
    (h : ShowsSpan backslashes (.comment depth) span) :
    SameMove pos (c :: rest)
      (moveInComment ⟨.comment depth, parens, backslashes⟩ depth pos c (c :: rest))
      ((⟨span, parens⟩ : ScanState).move c rest) := by
  cases h with
  | @comment outer =>
    rw [moveInComment, ScanState.move]
    dsimp only
    by_cases hopen : c = '/' ∧ rest.head? = some '*'
    · rw [if_pos (isPrefixOf_pair_iff.mpr hopen), if_pos hopen]
      exact .pair ⟨.comment, rfl⟩ (by rw [hopen.1]; rfl) rfl hopen.2
    rw [if_neg (mt isPrefixOf_pair_iff.mp hopen), if_neg hopen]
    by_cases hclose : c = '*' ∧ rest.head? = some '/'
    · rw [if_pos (isPrefixOf_pair_iff.mpr hclose), if_pos hclose]
      refine .pair ⟨?_, rfl⟩ (by rw [hclose.1]; rfl) rfl hclose.2
      cases outer with
      | zero => exact .code
      | succ outer => exact .comment
    · rw [if_neg (mt isPrefixOf_pair_iff.mp hclose), if_neg hclose]
      exact .single ⟨.comment, rfl⟩ rfl

/-! ### Dollar delimiters -/

theorem isTagChar_of_isTagStart (h : isTagStart c = true) : isTagChar c = true := by
  rw [isTagStart, Bool.or_eq_true] at h
  rw [isTagChar, Bool.or_eq_true]
  exact h.imp_left Letter.isAlphanumeric_of_isAlphabetic

/-- Behind its first character a tag goes on to the next dollar. -/
theorem delimiterLength?_of_lt {offset : Nat} (h : 1 < offset) (text : List Char) :
    delimiterLength? offset text = if (text.dropWhile isTagChar).head? = some '$' then
      some (offset + byteLength (text.takeWhile isTagChar) + 1) else none := by
  induction text generalizing offset with
  | nil => rfl
  | cons c text ih =>
    rw [delimiterLength?]
    by_cases hd : c = '$'
    · subst hd
      rfl
    · rw [if_neg hd, if_neg (Nat.ne_of_gt h)]
      by_cases hc : isTagChar c = true
      · rw [if_pos hc, ih (Nat.lt_add_right _ h), List.dropWhile_cons_of_pos hc,
          List.takeWhile_cons_of_pos hc, byteLength, ← Nat.add_assoc]
      · rw [if_neg hc, List.dropWhile_cons_of_neg hc, if_neg]
        rw [List.head?_cons, Option.some.injEq]
        exact hd

theorem dollarTag?_eq (text : List Char) :
    dollarTag? text = if isTag (text.takeWhile isTagChar) &&
        (text.dropWhile isTagChar).head? == some '$' then some (text.takeWhile isTagChar)
      else none := by
  have hdrop : (text.takeWhile isTagChar ++ text.dropWhile isTagChar).drop
      (text.takeWhile isTagChar).length = text.dropWhile isTagChar := List.drop_left
  rw [List.takeWhile_append_dropWhile] at hdrop
  rw [dollarTag?, hdrop]

theorem byteLength_delimiter (tag : List Char) :
    byteLength (Span.delimiter tag) = 1 + byteLength tag + 1 := by
  rw [Span.delimiter, byteLength, byteLength_append, Nat.add_assoc]
  rfl

/-- **The delimiters are those with a tag.** -/
theorem delimiterLength?_eq (text : List Char) :
    delimiterLength? 1 text = (dollarTag? text).map fun tag => byteLength (Span.delimiter tag) := by
  cases text with
  | nil => rfl
  | cons c text =>
    rw [delimiterLength?, if_pos rfl, dollarTag?_eq]
    by_cases hd : c = '$'
    · subst hd
      rfl
    rw [if_neg hd]
    by_cases hc : isTagChar c = true
    · have htag : isTag (c :: text.takeWhile isTagChar) = isTagStart c := by
        rw [isTag, List.all_takeWhile, Bool.and_true]
      rw [List.takeWhile_cons_of_pos hc, List.dropWhile_cons_of_pos hc, htag]
      by_cases hstart : isTagStart c = true
      · rw [if_pos hstart, hstart, Bool.true_and,
          delimiterLength?_of_lt (Nat.lt_add_of_pos_right c.utf8Size_pos)]
        by_cases hnext : (text.dropWhile isTagChar).head? = some '$'
        · rw [if_pos hnext, if_pos (beq_iff_eq.mpr hnext), Option.map_some, byteLength_delimiter,
            byteLength, ← Nat.add_assoc]
        · rw [if_neg hnext, if_neg (mt beq_iff_eq.mp hnext)]
          rfl
      · rw [if_neg hstart, if_neg]
        · rfl
        · rw [Bool.and_eq_true]
          exact fun h => hstart h.1
    · have hhead : ¬(c :: text).head? = some '$' := by
        rw [List.head?_cons, Option.some.injEq]
        exact hd
      rw [if_neg (mt isTagChar_of_isTagStart hc), List.takeWhile_cons_of_neg hc,
        List.dropWhile_cons_of_neg hc, if_neg]
      · rfl
      · rw [Bool.and_eq_true, beq_iff_eq]
        exact fun h => hhead h.2

/-! ### Plain code -/

theorem sameMove_dollar {parens backslashes : Nat} :
    SameMove pos ('$' :: rest)
      (match delimiterLength? '$'.utf8Size rest with
      | some length => do
        let delimiter ← cut? (String.ofList ('$' :: rest)) 0 length
        return .goOn (pos + length) ⟨.dollar delimiter, parens, backslashes⟩
      | none => some (.goOn (pos + 1) ⟨.code, parens, backslashes⟩))
      (match dollarTag? rest with
      | some tag => .pass (tag.length + 1) ⟨.dollar tag, parens⟩
      | none => .pass 0 ⟨.code, parens⟩) := by
  rw [show '$'.utf8Size = 1 from rfl, delimiterLength?_eq]
  cases htag : dollarTag? rest with
  | none => exact .single ⟨.code, rfl⟩ rfl
  | some tag =>
    obtain ⟨hallowed, hprefix⟩ := dollarTag?_eq_some.mp htag
    obtain ⟨more, hmore⟩ := hprefix
    have htext : '$' :: rest = Span.delimiter tag ++ more := by
      rw [Span.delimiter, List.cons_append, hmore]
    have hcut : cut? (String.ofList ('$' :: rest)) 0 (byteLength (Span.delimiter tag)) =
        some (Span.delimiter tag) := by
      refine cut?_eq_some_iff.mpr ⟨[], more, ?_, rfl, rfl⟩
      rw [String.toList_ofList, htext, List.nil_append]
    dsimp only [Option.map_some]
    rw [hcut]
    refine .goOn ?_ ⟨.dollar ((isTag_eq_allowsTag tag).trans hallowed), rfl⟩
    have hlength : (Span.delimiter tag).length = tag.length + 1 + 1 := by
      rw [Span.delimiter, List.length_cons, List.length_append, List.length_singleton]
    rw [htext, ← hlength, List.take_left]

theorem sameMove_moveInCode {parens backslashes : Nat} :
    SameMove pos (c :: rest) (moveInCode ⟨.code, parens, backslashes⟩ pos c (c :: rest))
      ((⟨.code, parens⟩ : ScanState).moveInCode c rest) := by
  rw [moveInCode, ScanState.moveInCode]
  by_cases hopen : c = '/' ∧ rest.head? = some '*'
  · rw [if_pos ⟨hopen.1, isPrefixOf_pair_iff.mpr hopen⟩, if_pos hopen]
    exact .pair ⟨.comment, rfl⟩ (by rw [hopen.1]; rfl) rfl hopen.2
  rw [if_neg (fun h => hopen (isPrefixOf_pair_iff.mp h.2)), if_neg hopen]
  by_cases hstring : c = '\''
  · subst hstring
    exact .single ⟨.string, rfl⟩ rfl
  by_cases hidentifier : c = '"'
  · subst hidentifier
    exact .single ⟨.identifier, rfl⟩ rfl
  rw [if_neg (not_or.mpr ⟨hstring, hidentifier⟩), if_neg hstring, if_neg hidentifier]
  by_cases hdollar : c = '$'
  · subst hdollar
    rw [if_pos rfl, if_pos rfl]
    exact sameMove_dollar
  rw [if_neg hdollar, if_neg hdollar]
  by_cases hcomment : c = '-' ∧ rest.head? = some '-'
  · rw [if_pos ⟨hcomment.1, isPrefixOf_pair_iff.mpr hcomment⟩, if_pos hcomment]
    exact .lineComment
  rw [if_neg (fun h => hcomment (isPrefixOf_pair_iff.mp h.2)), if_neg hcomment]
  by_cases hleft : c = '('
  · subst hleft
    exact .single ⟨.code, rfl⟩ rfl
  rw [if_neg hleft, if_neg hleft]
  by_cases hright : c = ')'
  · subst hright
    exact .single ⟨.code, rfl⟩ rfl
  rw [if_neg hright, if_neg hright]
  by_cases hend : c = ';' ∧ parens = 0
  · rw [if_pos hend, if_pos hend]
    exact .terminator
  rw [if_neg hend, if_neg hend]
  by_cases hrun : isTagChar c = true
  · rw [if_pos hrun, if_pos hrun]
    refine .goOn ?_ ⟨.code, rfl⟩
    have hc : isIdentifierChar c = true := by
      rw [isIdentifierChar, hrun, Bool.true_or]
    rw [List.take_succ_cons, List.takeWhile_cons_of_pos hc,
      ← List.prefix_iff_eq_take.mp (List.takeWhile_prefix isIdentifierChar)]
  · rw [if_neg hrun, if_neg hrun]
    exact .single ⟨.code, rfl⟩ rfl

/-- **One turn of the loop is one move of the other scanner.** -/
theorem sameMove_move {line : String} {before : List Char} (h : b.Shows st)
    (hline : line.toList = before ++ c :: rest) :
    SameMove (byteLength before) (c :: rest) (b.move line (byteLength before)) (st.move c rest) := by
  have hlt : byteLength before < line.utf8ByteSize := by
    rw [← byteLength_toList, hline, byteLength_append, byteLength]
    have := c.utf8Size_pos
    omega
  rw [move, if_pos hlt, cut?_rest hline]
  obtain ⟨span, parens, backslashes⟩ := b
  obtain ⟨span', parens'⟩ := st
  obtain ⟨hspan, hparens⟩ := h
  obtain rfl : parens = parens' := hparens
  cases span with
  | code =>
    cases hspan
    exact sameMove_moveInCode
  | quote mark => exact sameMove_moveInQuote hspan
  | dollar delimiter => exact sameMove_moveInDollar hspan
  | comment depth => exact sameMove_moveInComment hspan

end ByteScanner

end SqlScript
