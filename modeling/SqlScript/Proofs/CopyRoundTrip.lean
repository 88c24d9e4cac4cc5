import SqlScript.Proofs.CopyBatches

/-!
# Rows written in the text format of COPY

The text format writes NULL as `\N` and gives a backslash, a tab, a line feed and a carriage
return an escape of two characters, so that a tab stands only between values and a line ends
only where its row does.

* `CopyValue.decode_encodeText`, `CopyValue.parseLine_encodeRow` — what was written is read
  back;
* `isTerminator_encodeLine`, `lineRow_encodeLine` — a written line is not the end of its
  section, and it holds its row under either line ending;
* `writeLine_accepted` — a row that the columns accept waits behind the others;
* `offer_encoded` — all lines of a section; `copy_round_trip` is the section as the script
  hands it over.
-/

namespace SqlScript

variable {σ : Type}

namespace CopyValue

/-! ### Values -/

/-- A character of a value as it is written. -/
def escaped : Char → List Char
  | '\\' => ['\\', '\\']
  | '\t' => ['\\', 't']
  | '\n' => ['\\', 'n']
  | '\r' => ['\\', 'r']
  | c => [c]

def encodeText (s : List Char) : List Char :=
  s.flatMap escaped

def encode : CopyValue → List Char
  | null => ['\\', 'N']
  | text s => encodeText s

/-- The values of a row, separated by tabs. -/
def encodeRow (row : List CopyValue) : List Char :=
  List.intercalate ['\t'] (row.map encode)

/-- An escape is read as its character. -/
theorem decodeFrom_escaped (c : Char) (rest : List Char) :
    decodeFrom 0 (escaped c ++ rest) = c :: decodeFrom 0 rest := by
  unfold escaped
  split
  · rfl
  · rfl
  · rfl
  · rfl
  · next hplain _ _ _ =>
    rw [List.singleton_append, decodeFrom, if_neg hplain]

/-- **A written text is read back.** -/
theorem decode_encodeText (s : List Char) : decode (encodeText s) = s := by
  rw [decode]
  induction s with
  | nil => rfl
  | cons c s ih => rw [encodeText, List.flatMap_cons, decodeFrom_escaped, ← encodeText, ih]

/-- No text is written like NULL. -/
theorem encodeText_ne_null (s : List Char) : encodeText s ≠ ['\\', 'N'] := by
  intro h
  have hs : s = ['N'] := by
    rw [← decode_encodeText s, h]
    rfl
  rw [hs] at h
  exact absurd h (by decide)

theorem parse_encode (v : CopyValue) : parse v.encode = v := by
  cases v with
  | null => rfl
  | text s => rw [encode, parse, if_neg (encodeText_ne_null s), decode_encodeText]

/-- An escape holds no character that parts values or lines. -/
theorem plain_of_mem_escaped {c d : Char} (h : c ∈ escaped d) :
    c ≠ '\t' ∧ c ≠ '\n' ∧ c ≠ '\r' := by
  unfold escaped at h
  split at h
  case h_5 hb ht hn hr =>
    obtain rfl := List.mem_singleton.mp h
    exact ⟨ht, hn, hr⟩
  all_goals
    simp only [List.mem_cons, List.not_mem_nil, or_false] at h
    rcases h with rfl | rfl <;> decide

theorem plain_of_mem_encode {v : CopyValue} {c : Char} (h : c ∈ v.encode) :
    c ≠ '\t' ∧ c ≠ '\n' ∧ c ≠ '\r' := by
  cases v with
  | null =>
    rw [encode, List.mem_cons, List.mem_singleton] at h
    rcases h with rfl | rfl <;> decide
  | text s =>
    obtain ⟨d, -, hd⟩ := List.mem_flatMap.mp h
    exact plain_of_mem_escaped hd

/-! ### Rows -/

/-- **A written row is read back.** -/
theorem parseLine_encodeRow {row : List CopyValue} (h : row ≠ []) :
    parseLine (encodeRow row) = row := by
  have htabs : ∀ part ∈ row.map encode, '\t' ∉ part := by
    intro part hpart htab
    obtain ⟨v, -, rfl⟩ := List.mem_map.mp hpart
    exact (plain_of_mem_encode htab).1 rfl
  have hne : row.map encode ≠ [] := fun hnil => h (List.map_eq_nil_iff.mp hnil)
  rw [parseLine, encodeRow, List.splitOn_intercalate _ htabs hne, List.map_map]
  exact (List.map_congr_left fun v _ => parse_encode v).trans (List.map_id row)

/-- A written row is one line. -/
theorem no_break_of_mem_encodeRow {row : List CopyValue} {c : Char} (h : c ∈ encodeRow row) :
    c ≠ '\n' ∧ c ≠ '\r' := by
  rcases eq_or_exists_of_mem_intercalate h with rfl | ⟨part, hpart, hc⟩
  · decide
  · obtain ⟨v, -, rfl⟩ := List.mem_map.mp hpart
    exact (plain_of_mem_encode hc).2

/-- No row is written like the end of a section. -/
theorem encodeRow_ne_terminator {row : List CopyValue} (h : row ≠ []) :
    encodeRow row ≠ ['\\', '.'] := by
  intro hdot
  have hrow : row = [.text ['.']] := by
    rw [← parseLine_encodeRow h, hdot]
    decide
  rw [hrow] at hdot
  exact absurd hdot (by decide)

end CopyValue

/-! ### Lines -/

/-- How a data line ends. -/
inductive LineEnding where
  | feed
  | returnFeed
  deriving DecidableEq, Repr

def LineEnding.text : LineEnding → List Char
  | feed => ['\n']
  | returnFeed => ['\r', '\n']

/-- The data line of a row. -/
def encodeLine (row : List CopyValue) (ending : LineEnding) : String :=
  String.ofList (CopyValue.encodeRow row ++ ending.text)

theorem getLast?_ne_return {body : List Char} (h : '\r' ∉ body) : body.getLast? ≠ some '\r' :=
  fun hlast => h (List.mem_of_getLast? hlast)

/-- The ending of a line comes off, and nothing of the line itself. -/
theorem dataLineContent_append {body : List Char} (h : '\r' ∉ body) (ending : LineEnding) :
    dataLineContent (body ++ ending.text) = body := by
  rw [dataLineContent]
  cases ending with
  | feed =>
    rw [LineEnding.text, List.getLast?_concat, if_pos rfl, List.dropLast_concat]
    exact if_neg (getLast?_ne_return h)
  | returnFeed =>
    have hsplit : body ++ LineEnding.returnFeed.text = body ++ ['\r'] ++ ['\n'] :=
      (List.append_assoc body ['\r'] ['\n']).symm
    rw [hsplit, List.getLast?_concat, if_pos rfl, List.dropLast_concat]
    rw [List.getLast?_concat, if_pos rfl, List.dropLast_concat]

theorem dataLineContent_encodeLine (row : List CopyValue) (ending : LineEnding) :
    dataLineContent (encodeLine row ending).toList = CopyValue.encodeRow row := by
  rw [encodeLine, String.toList_ofList]
  refine dataLineContent_append ?_ ending
  exact fun hmem => (CopyValue.no_break_of_mem_encodeRow hmem).2 rfl

/-- **The line of a row holds the row.** -/
theorem lineRow_encodeLine {row : List CopyValue} (h : row ≠ []) (ending : LineEnding) :
    lineRow (encodeLine row ending) = row := by
  rw [lineRow, dataLineContent_encodeLine, CopyValue.parseLine_encodeRow h]

/-- **No line of a row ends its section.** -/
theorem isTerminator_encodeLine {row : List CopyValue} (h : row ≠ []) (ending : LineEnding) :
    isTerminator (encodeLine row ending) = false := by
  rw [isTerminator, dataLineContent_encodeLine, beq_eq_false_iff_ne]
  exact CopyValue.encodeRow_ne_terminator h

/-! ### A section whose rows the columns accept -/

namespace Database

variable (engine : Engine σ) (journal : Journal σ)

/-- The engine refuses an INSERT into a target, with this error. -/
def RefusesInsert (engine : Engine σ) (target : CopyTarget) (e : ConnectionError) : Prop :=
  ∃ rows s, (engine.execute (target.insertRows rows) s).1 = .error e.message

theorem insertAll_refused {target : CopyTarget} {columns : List TargetColumn}
    {chunks : List (List (List CopyValue))} {loaded loaded' : Nat} {s s' : σ}
    {e : ConnectionError}
    (h : insertAll engine target columns chunks loaded s = (.error e, loaded', s')) :
    RefusesInsert engine target e := by
  induction chunks generalizing loaded s with
  | nil => cases h
  | cons chunk chunks ih =>
    rw [insertAll] at h
    cases hx : engine.execute (target.insertRows chunk) s with
    | mk answer s₁ =>
      rw [hx] at h
      cases answer with
      | ok affected => exact ih h
      | error message =>
        have hmessage : message = e.message :=
          congrArg ConnectionError.message (Except.error.inj (congrArg Prod.fst h))
        exact ⟨chunk, s, by rw [hx, hmessage]⟩

theorem flushRows_refused {db db' : Database} {session : CopySession} {s s' : σ}
    {e : ConnectionError} (hcopy : db.copy = some session)
    (h : flushRows engine journal db s = (.error e, db', s')) :
    RefusesInsert engine session.target e := by
  rw [flushRows, hcopy] at h
  dsimp only at h
  split at h
  · cases h
  · cases hi : insertAll engine session.target session.columns (insertChunks session.rows.toList)
        session.loaded s with
    | mk result rest =>
      obtain ⟨loaded, s₁⟩ := rest
      rw [hi] at h
      cases result with
      | ok => cases h
      | error e' =>
        cases h
        exact insertAll_refused engine hi

/-- **A row that the columns accept waits behind the others**, which are inserted when they
are enough. -/
theorem writeLine_accepted {db : Database} {session : CopySession} {line : String}
    (hcopy : db.copy = some session) (haccept : checkRow session.columns (lineRow line) = .ok ())
    (s : σ) :
    writeLine engine journal line db s =
      let waiting := { db with
        copy := some { session with rows := session.rows.push (lineRow line) } }
      if db.batchRows ≤ session.rows.size + 1 then flushRows engine journal waiting s
      else (.ok (), waiting, s) := by
  rw [writeLine, hcopy]
  dsimp only
  rw [← lineRow, haccept]
  dsimp only
  rw [Array.size_push]

/-- The columns accept a row, so that only its INSERT can be refused. -/
theorem writeLine_refused {db db' : Database} {session : CopySession} {line : String} {s s' : σ}
    {e : ConnectionError} (hcopy : db.copy = some session)
    (haccept : checkRow session.columns (lineRow line) = .ok ())
    (h : writeLine engine journal line db s = (.error e, db', s')) :
    RefusesInsert engine session.target e := by
  rw [writeLine_accepted engine journal hcopy haccept] at h
  dsimp only at h
  split at h
  · have hrefused := flushRows_refused engine journal rfl h
    exact hrefused
  · cases h

theorem RefusesInsert.of_logged {target : CopyTarget} {e : ConnectionError}
    (h : RefusesInsert engine.logged target e) : RefusesInsert engine target e := by
  obtain ⟨rows, ⟨s, log⟩, hrefused⟩ := h
  exact ⟨rows, s, hrefused⟩

theorem offer_of_taken {db db' : Database} {line : String} {s s' : σ}
    (h : writeLine engine journal line db s = (.ok (), db', s')) (lines : List String) :
    (connection engine journal).channel.offer (line :: lines) (db, s) =
      (((connection engine journal).channel.offer lines (db', s')).1.map fun (k, e) => (k + 1, e),
        ((connection engine journal).channel.offer lines (db', s')).2) := by
  have hwrite : (connection engine journal).channel.writeLine line (db, s) = (.ok (), db', s') := h
  rw [Channel.offer, hwrite]

theorem offer_of_refused {db db' : Database} {line : String} {s s' : σ} {e : ConnectionError}
    (h : writeLine engine journal line db s = (.error e, db', s')) (lines : List String) :
    (connection engine journal).channel.offer (line :: lines) (db, s) = (some (1, e), db', s') := by
  have hwrite : (connection engine journal).channel.writeLine line (db, s) =
      (.error e, db', s') := h
  rw [Channel.offer, hwrite]

/-- With room for all of them the rows wait, and the engine is not called. -/
theorem offer_waiting {lines : List String} {db : Database} {session : CopySession}
    (hcopy : db.copy = some session)
    (haccept : ∀ line ∈ lines, checkRow session.columns (lineRow line) = .ok ())
    (hroom : session.rows.size + lines.length < db.batchRows) (s : σ) :
    (connection engine journal).channel.offer lines (db, s) =
      (none, { db with
        copy := some { session with rows := session.rows ++ (lines.map lineRow).toArray } }, s) := by
  induction lines generalizing db session with
  | nil =>
    have hsame : { session with rows := session.rows ++ ([].map lineRow).toArray } = session := by
      rw [List.map_nil, Array.append_empty]
    rw [hsame, ← hcopy]
    rfl
  | cons line lines ih =>
    rw [List.length_cons] at hroom
    obtain ⟨hfirst, hrest⟩ := List.forall_mem_cons.mp haccept
    have hwrite := writeLine_accepted engine journal hcopy hfirst s
    dsimp only at hwrite
    rw [if_neg (by omega)] at hwrite
    have hpush : session.rows.push (lineRow line) ++ (lines.map lineRow).toArray =
        session.rows ++ ((line :: lines).map lineRow).toArray := by
      simp
    have hroom' : (session.rows.push (lineRow line)).size + lines.length < db.batchRows := by
      rw [Array.size_push]
      omega
    have hlater := @ih
      { db with copy := some { session with rows := session.rows.push (lineRow line) } } _ rfl hrest
      hroom'
    rw [offer_of_taken engine journal hwrite, hlater, ← hpush]
    rfl

/-- **The rows of all lines**, with any number of rows that are gathered: inserted or waiting,
they are those of the lines in their order, unless the engine refuses an INSERT. -/
theorem offer_gathered {started session : CopySession} {before lines : List String}
    {inserts : List InsertText} {db : Database} {log : List EngineCall}
    (hcopy : db.copy = some session)
    (hgathered : Gathered started db.batchRows before session log inserts)
    (haccept : ∀ line ∈ lines, checkRow started.columns (lineRow line) = .ok ()) (s : σ) :
    match (connection engine.logged journal.onLeft).channel.offer lines (db, s, log) with
    | (none, db', _, log') => ∃ session' inserts', db' = { db with copy := some session' } ∧
        Gathered started db.batchRows (before ++ lines) session' log' inserts'
    | (some (_, e), _) => RefusesInsert engine started.target e := by
  induction lines generalizing before session inserts db s log with
  | nil =>
    refine ⟨session, inserts, ?_, by rwa [List.append_nil]⟩
    exact congrArg (fun copy => { db with copy }) hcopy
  | cons line lines ih =>
    obtain ⟨hfirst, hrest⟩ := List.forall_mem_cons.mp haccept
    cases hw : writeLine engine.logged journal.onLeft line db (s, log) with
    | mk answer rest =>
      obtain ⟨db₁, s₁, log₁⟩ := rest
      cases answer with
      | error e =>
        have hsession : session.columns = started.columns ∧ session.target = started.target := by
          rw [hgathered.same]
          exact ⟨rfl, rfl⟩
        rw [offer_of_refused _ _ hw, ← hsession.2]
        rw [← hsession.1] at hfirst
        exact (writeLine_refused _ _ hcopy hfirst hw).of_logged
      | ok =>
        obtain ⟨session₁, inserts₁, rfl, hgathered₁⟩ :=
          writeLine_gathered engine journal hcopy hgathered hw
        rw [offer_of_taken _ _ hw]
        have hopen : ({ db with copy := some session₁ } : Database).copy = some session₁ := rfl
        have hlater := ih hopen hgathered₁ hrest s₁
        rw [List.append_assoc] at hlater
        generalize (connection engine.logged journal.onLeft).channel.offer lines _ = offered
          at hlater ⊢
        obtain ⟨_ | ⟨k, e⟩, last⟩ := offered <;> exact hlater

end Database

open CopySection Database in
/-- **Rows written in the text format come through a data section.**  No line of a row is
taken for the end of the section, and each is read back as its row.  Let such lines and a
terminator be handed to a session that was just started and whose columns accept the rows.
The section takes them all and no more, up to a refusal of the channel.  With room for them
the rows wait in the session, in their order, and nothing is sent to the engine.  With any
number of rows gathered at a time, the rows sent in INSERT statements and those that wait
are together the written ones, in their order, unless the engine refuses an INSERT. -/
theorem copy_round_trip (engine : Engine σ) (journal : Journal σ)
    (note : Journal (Database × σ × List EngineCall))
    {rows : List (List CopyValue × LineEnding)} (hrows : ∀ p ∈ rows, p.1 ≠ []) :
    (∀ p ∈ rows, isTerminator (encodeLine p.1 p.2) = false ∧
      CopyValue.parseLine (dataLineContent (encodeLine p.1 p.2).toList) = p.1) ∧
    ∀ (db : Database) (session : CopySession) (l : Lexer) (last : String) (rest : List LineRead)
      (s : σ), db.copy = some session → session.rows = #[] → session.loaded = 0 →
      (∀ p ∈ rows, checkRow session.columns p.1 = .ok ()) → EndsSection last →
      l.reads = rows.map (fun p => .ok (encodeLine p.1 p.2)) ++ .ok last :: rest →
      let channel := (connection engine.logged journal.onLeft).channel
      let lines := rows.map fun p => encodeLine p.1 p.2
      let offered := channel.offer lines (db, s, [])
      (∃ s', forward channel.logged note.onLeft l ((db, s, []), []) =
        (result l.linesRead l.linesRead lines offered.1 (channel.endData offered.2).1
            (.terminated last rest),
          l.behindSection lines (.terminated last rest), s',
          calls lines offered.1 (.terminated last rest))) ∧
      (rows.length < db.batchRows → offered = (none, { db with
        copy := some { session with rows := (rows.map Prod.fst).toArray } }, s, [])) ∧
      match offered with
      | (none, db', _, sent) => ∃ session' inserts, db'.copy = some session' ∧
          Inserting session.target session.columns sent inserts ∧
          insertedRows inserts ++ session'.rows.toList = rows.map Prod.fst ∧
          session'.loaded = (insertedRows inserts).length
      | (some (_, e), _) => RefusesInsert engine session.target e := by
  have hline : ∀ p ∈ rows, isTerminator (encodeLine p.1 p.2) = false ∧
      lineRow (encodeLine p.1 p.2) = p.1 := fun p hp =>
    ⟨isTerminator_encodeLine (hrows p hp) p.2, lineRow_encodeLine (hrows p hp) p.2⟩
  refine ⟨hline, ?_⟩
  intro db session l last rest s hcopy hempty hloaded haccept hlast hreads channel lines offered
  have hdata : ∀ line ∈ lines, ¬EndsSection line := by
    intro line hmem hends
    obtain ⟨p, hp, rfl⟩ := List.mem_map.mp hmem
    rw [← isTerminator_iff, (hline p hp).1] at hends
    cases hends
  have hread : lines.map lineRow = rows.map Prod.fst := by
    rw [List.map_map]
    exact List.map_congr_left fun p hp => (hline p hp).2
  have hcheck : ∀ line ∈ lines, checkRow session.columns (lineRow line) = .ok () := by
    intro line hmem
    obtain ⟨p, hp, rfl⟩ := List.mem_map.mp hmem
    rw [(hline p hp).2]
    exact haccept p hp
  have hlines : l.reads = lines.map .ok ++ (SectionEnd.terminated last rest).reads := by
    rw [hreads, List.map_map]
    rfl
  refine ⟨?_, ?_, ?_⟩
  · exact run_offered channel note rfl hlines hdata hlast (db, s, []) []
  · intro hroom
    have hwaiting := offer_waiting engine.logged journal.onLeft hcopy hcheck
      (by simpa [hempty, lines] using hroom) (s, [])
    rw [hempty, Array.empty_append, hread] at hwaiting
    exact hwaiting
  · have hgathered := offer_gathered engine journal hcopy (.fresh hempty hloaded) hcheck s
    generalize hoffered : channel.offer lines (db, s, []) = answer at hgathered
    rw [show offered = answer from hoffered]
    obtain ⟨_ | ⟨k, e⟩, db', s', sent⟩ := answer
    · obtain ⟨session', inserts, rfl, hheld⟩ := hgathered
      refine ⟨session', inserts, rfl, hheld.sent, ?_, hheld.loaded⟩
      rw [hheld.rows, List.nil_append, hread]
    · exact hgathered

/-- Values that look like NULL, like the end of a section or like an escape come through. -/
theorem copy_round_trip_collisions :
    let engine : Engine Unit :=
      { connect := fun _ s => (.ok (), s)
        execute := fun _ s => (.ok 0, s)
        batch := fun _ s => (.ok (), s)
        prepare := fun _ s => (.error "no table", s)
        clone := fun s => (.ok (), s)
        batchOnClone := fun _ s => (.ok (), s) }
    let column : TargetColumn := { name := "c", dataType := "VARCHAR", notNull := false }
    let session : CopySession :=
      { target := default, columns := [column, column], ownsTransaction := true }
    let rows : List (List CopyValue × LineEnding) :=
      [([.null, .text "\\N".toList], .feed), ([.text "\\.".toList, .text []], .returnFeed),
        ([.text "NULL".toList, .text "a\t\r\n\\".toList], .feed)]
    rows.map (fun p => encodeLine p.1 p.2) =
        ["\\N\t\\\\N\n", "\\\\.\t\r\n", "NULL\ta\\t\\r\\n\\\\\n"] ∧
      (Database.connection engine.logged Journal.silent.onLeft).channel.offer
        (rows.map fun p => encodeLine p.1 p.2) ({ batchRows := 4, copy := some session }, (), []) =
        (none,
          { batchRows := 4, copy := some { session with rows := (rows.map Prod.fst).toArray } },
          (), []) := by
  intro engine column session rows
  have hrows : ∀ p ∈ rows, p.1 ≠ [] := by decide
  have hall := (copy_round_trip engine .silent .silent hrows).2
    { batchRows := 4, copy := some session } session
    { reads := rows.map (fun p => .ok (encodeLine p.1 p.2)) ++ [.ok "\\.\n"] } "\\.\n" [] ()
    rfl rfl rfl (by decide) (.inl (by decide)) rfl
  exact ⟨by decide +kernel, hall.2.1 (by decide)⟩

end SqlScript
