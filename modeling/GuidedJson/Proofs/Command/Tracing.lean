import GuidedJson.Command.Jobs
import GuidedJson.Proofs.Decoding.Traces
import GuidedJson.Proofs.Display.Shown
import GuidedJson.Proofs.Grammar.Outcomes
import GuidedJson.Proofs.Vocabulary.Pieces
import Mathlib

/-!
# What a traced command says

The command that traces tokens opens a grammar, shows the rows of the trace, and ends with a
verdict. It gets there whenever the texts of the tokens can be shown, and its verdict is that of the
trace: it is about the tokens since the last rejection.
-/

namespace GuidedJson

namespace Command

open Decoding (TraceRow isComplete)
open Vocabulary (Declaration ModelPlace)
open Display (Showable Table textOf)

/-! ## The parts of the command -/

/-- The grammar of a trace: the schema and the files of the model are read, and it is compiled. -/
def openTrace [Memory] (s : Surroundings) (o : TraceOptions) : Job Grammar := do
  let document ← readSchema o.schema
  let files := (← get).files
  let place ← (modelPlace files o.model : Except Failure ModelPlace)
  let request : GrammarRequest := {
    vocabulary := .files place (files.textIn? o.model) (some o.extraEos)
    input := .document document, indent := o.indent, engine := .named o.engine }
  (Schema.checkSteps document : Except Failure Unit)
  (request.compile s.settings : Logged Grammar)

/-- The table of a trace. -/
def traceTable (rows : List TraceRow) : Table where
  title := "Matcher Trace"
  columns := ⟨"#", some 4⟩ ::
    ["Token", "Id", "Allowed", "In Mask", "Accepted", "Can Stop"].map fun name => ⟨name, none⟩
  rows := rows.zipIdx.map fun (row, i) => traceCells (i + 1) row

/-- Shows the rows of a trace: a warning for each text that is no token, and the table. -/
def showRows (rows : List TraceRow) : Job Unit := do
  for row in rows do warnMissing row
  Terminal.table (traceTable rows)

def showVerdict (rows : List TraceRow) : Job Unit :=
  if isComplete rows then Terminal.success "Sequence is a complete match"
  else Terminal.note "Sequence is not a complete match"

theorem showTrace_eq [Memory] (s : Surroundings) (o : TraceOptions) : showTrace s o =
    openTrace s o >>= fun g => liftM (Decoding.trace g o.tokens) >>= fun rows =>
      showRows rows >>= fun _ => showVerdict rows := by
  unfold showTrace openTrace showRows showVerdict traceTable
  simp only [Action.bind_assoc]

/-! ## What is shown -/

section Shown

variable {t : Terminal} {rows : List TraceRow}

theorem yields_say {markup : String} {cs : List Char} (h : textOf markup = .ok cs) :
    (Terminal.say markup).Yields t () { t with
      lines := t.lines ++ Display.wrap true Terminal.columns (String.ofList cs) } := by
  refine Action.Yields.bind (a := cs) (t := t) ⟨?_, rfl⟩ ⟨rfl, rfl⟩
  show (textOf markup).mapError Terminal.refusal = .ok cs
  rw [h]
  rfl

theorem exists_yields_warnMissing {row : TraceRow} (h : '[' ∉ row.token.toList) :
    ∃ u, (warnMissing row).Yields t () u := by
  rw [warnMissing]
  split
  · have hrest : '[' ∉ (" Token " ++ Text.quoted row.token ++
        " is not in the vocabulary, skipping").toList := by
      simp [Display.not_mem_quoted h]
    have hmarkup : ("[yellow]⚠[/yellow] " ++ ("Token " ++ Text.quoted row.token ++
        " is not in the vocabulary, skipping")).toList =
          Display.marked "yellow" ['⚠'] (" Token " ++ Text.quoted row.token ++
            " is not in the vocabulary, skipping").toList := by
      simp only [String.toList_append]
      rfl
    exact ⟨_, yields_say (Display.textOf_marked (Display.isStyle_of_mem (by decide)) (by decide)
      (by decide) (by decide) hrest hmarkup)⟩
  · exact ⟨t, rfl, rfl⟩

theorem exists_yields_forIn (h : ∀ row ∈ rows, '[' ∉ row.token.toList) :
    ∃ u, (forIn rows PUnit.unit fun row _ => do
      warnMissing row
      return ForInStep.yield PUnit.unit : Job PUnit).Yields t ⟨⟩ u := by
  induction rows generalizing t with
  | nil => exact ⟨t, rfl, rfl⟩
  | cons row rows ih =>
    obtain ⟨hrow, hrows⟩ := List.forall_mem_cons.1 h
    obtain ⟨u, hu⟩ := exists_yields_warnMissing (t := t) hrow
    obtain ⟨w, hw⟩ := ih (t := u) hrows
    refine ⟨w, ?_⟩
    rw [List.forIn_cons]
    exact Action.Yields.bind (hu.bind ⟨rfl, rfl⟩) hw

theorem showable_mark (b : Bool) : Showable (mark b) := by
  cases b with
  | true =>
    have hmarkup : (mark true).toList = Display.marked "green" ['✓'] [] := rfl
    exact ⟨_, Display.textOf_marked (Display.isStyle_of_mem (by decide)) (by decide) (by decide)
      (by decide) (by decide) hmarkup⟩
  | false =>
    have hmarkup : (mark false).toList = Display.marked "red" ['✗'] [] := rfl
    exact ⟨_, Display.textOf_marked (Display.isStyle_of_mem (by decide)) (by decide) (by decide)
      (by decide) (by decide) hmarkup⟩

theorem showable_of_not_mem {s : String} (h : '[' ∉ s.toList) : Showable s :=
  ⟨_, Display.textOf_of_not_mem h⟩

theorem showable_traceCells (number : Nat) {row : TraceRow} (h : '[' ∉ row.token.toList) :
    ∀ cell ∈ traceCells number row, Showable cell := by
  have hnumber : ∀ n : Nat, Showable (toString n) := fun n =>
    showable_of_not_mem (Display.not_mem_toString n)
  have hstop : Showable (if row.canTerminate then mark true else "[dim]-[/dim]") := by
    split
    · exact showable_mark true
    · have hmarkup : "[dim]-[/dim]".toList = Display.marked "dim" ['-'] [] := rfl
      exact ⟨_, Display.textOf_marked Display.isStyle_dim (by decide) (by decide) (by decide)
        (by decide) hmarkup⟩
  simp only [traceCells, List.forall_mem_cons]
  refine ⟨hnumber _, showable_of_not_mem (Display.not_mem_quoted h), ?_, hnumber _,
    showable_mark _, showable_mark _, hstop, List.forall_mem_nil _⟩
  split
  · exact hnumber _
  · exact showable_of_not_mem (by decide)

theorem isShowable_traceTable (h : ∀ row ∈ rows, '[' ∉ row.token.toList) :
    (traceTable rows).IsShowable where
  title := showable_of_not_mem (s := "Matcher Trace") (by decide)
  headers := by
    have hheaders : ∀ c ∈ (traceTable []).columns, '[' ∉ c.header.toList := by decide
    exact fun c hc => showable_of_not_mem (hheaders c hc)
  cells := by
    intro cells hcells
    obtain ⟨⟨row, i⟩, hrow, rfl⟩ := List.mem_map.1 hcells
    exact showable_traceCells (i + 1) (h row (List.fst_mem_of_mem_zipIdx hrow))

/-- Rows are shown if the texts in them have no bracket. -/
theorem exists_yields_showRows (h : ∀ row ∈ rows, '[' ∉ row.token.toList) :
    ∃ u, (showRows rows).Yields t () u := by
  obtain ⟨u, hu⟩ := exists_yields_forIn (t := t) h
  obtain ⟨ls, hls⟩ := (isShowable_traceTable h).exists_lines Terminal.columns
  refine ⟨{ u with lines := u.lines ++ ls }, hu.bind ?_⟩
  refine Action.Yields.bind (a := ls) (t := u) ⟨?_, rfl⟩ ⟨rfl, rfl⟩
  show ((traceTable rows).lines Terminal.columns).mapError Terminal.refusal = .ok ls
  rw [hls]
  rfl

end Shown

/-! ## The verdict -/

/-- The last line of a traced command. -/
def verdictLine (complete : Bool) : String :=
  if complete then "✓ Sequence is a complete match" else "ℹ Sequence is not a complete match"

/-- Marked text that fits is one line. -/
theorem yields_say_line {markup line : String} (word : String) (body rest : List Char)
    (hword : Display.IsStyle word) (hbody : '[' ∉ body) (hslash : '\\' ∉ body) (hsome : body ≠ [])
    (hrest : '[' ∉ rest) (hmarkup : markup.toList = Display.marked word body rest)
    (hshown : Display.shown (Display.unescaped body) ++ Display.shown (Display.unescaped rest) =
      line.toList) (hbreak : '\n' ∉ line.toList) (htab : '\t' ∉ line.toList)
    (hfits : 2 * line.toList.length ≤ Terminal.columns) (t : Terminal) :
    (Terminal.say markup).Yields t () { t with lines := t.lines ++ [line] } := by
  have hsay := yields_say (t := t) (Display.textOf_marked hword hbody hslash hsome hrest hmarkup)
  rwa [hshown, String.ofList_toList, Display.wrap_of_length_le hbreak htab hfits] at hsay

theorem yields_showVerdict (rows : List TraceRow) (t : Terminal) :
    (showVerdict rows).Yields t ()
      { t with lines := t.lines ++ [verdictLine (isComplete rows)] } := by
  rw [showVerdict]
  cases isComplete rows with
  | true =>
    refine yields_say_line "green" ['✓'] " Sequence is a complete match".toList
      (Display.isStyle_of_mem (by decide)) (by decide) (by decide) (by decide) (by decide) ?_ ?_
      (by decide) (by decide) (by decide) t
    · simp only [String.toList_append]
      rfl
    · rw [Display.shown_eq_self (by decide) (by decide),
        Display.shown_eq_self (by decide) (by decide)]
      decide
  | false =>
    refine yields_say_line "blue" ['ℹ'] " Sequence is not a complete match".toList
      (Display.isStyle_of_mem (by decide)) (by decide) (by decide) (by decide) (by decide) ?_ ?_
      (by decide) (by decide) (by decide) t
    · simp only [String.toList_append]
      rfl
    · rw [Display.shown_eq_self (by decide) (by decide),
        Display.shown_eq_self (by decide) (by decide)]
      decide

/-! ## The whole command -/

section Whole

variable [Memory] {s : Surroundings} {o : TraceOptions} {t u w : Terminal} {g : Grammar}
  {rows : List TraceRow}

/-- The tokens of a grammar that is opened have ids that can be written. -/
theorem fits_size_of_openTrace (h : (openTrace s o).Yields t g u) : Json.Fits g.vocabulary.size := by
  obtain ⟨_, _, -, h⟩ := Action.yields_bind_iff.1 h
  obtain ⟨_, _, -, h⟩ := Action.yields_bind_iff.1 h
  obtain ⟨_, _, -, h⟩ := Action.yields_bind_iff.1 h
  obtain ⟨_, _, -, hcompile, -⟩ := Action.yields_bind_iff.1 h
  obtain ⟨v, hv, hschema⟩ := Logged.result_bind_eq_ok.1 hcompile
  obtain ⟨d, -, hv⟩ := exceptBind_eq_ok.1 hv
  obtain ⟨source, -, hschema⟩ := Logged.result_bind_eq_ok.1 hschema
  obtain ⟨engine, -, hengine⟩ := Logged.result_bind_eq_ok.1 hschema
  cases engine with
  | automaton =>
    obtain ⟨-, rfl, -⟩ := Grammar.compile_eq_ok.1 hengine
    exact Declaration.fits_size_of_vocabulary hv
  | outside => cases hengine

/-- Once a grammar is there, only showing the rows can fail. -/
theorem yields_showTrace_iff (hopen : (openTrace s o).Yields t g u)
    (hrows : (Decoding.trace g o.tokens).result = .ok rows) : (showTrace s o).Yields t () w ↔
      ∃ x, (showRows rows).Yields u () x ∧
        w = { x with lines := x.lines ++ [verdictLine (isComplete rows)] } := by
  have htrace : (liftM (Decoding.trace g o.tokens) : Job (List TraceRow)).Yields u rows u :=
    ⟨hrows, rfl⟩
  rw [showTrace_eq]
  constructor
  · intro h
    obtain ⟨_, _, hg, h⟩ := Action.yields_bind_iff.1 h
    obtain ⟨rfl, rfl⟩ := hopen.unique hg
    obtain ⟨_, _, hr, h⟩ := Action.yields_bind_iff.1 h
    obtain ⟨rfl, rfl⟩ := htrace.unique hr
    obtain ⟨_, x, hx, h⟩ := Action.yields_bind_iff.1 h
    exact ⟨x, hx, (h.unique (yields_showVerdict rows x)).2⟩
  · rintro ⟨x, hx, rfl⟩
    exact hopen.bind (htrace.bind (hx.bind (yields_showVerdict rows x)))

/-- A traced command whose grammar is there ends with the verdict of its trace, whenever its rows
can be shown; and they can where no text has a bracket. -/
theorem showTrace_verdict (hopen : (openTrace s o).Yields t g u) :
    ∃ rows, (Decoding.trace g o.tokens).result = .ok rows ∧ Decoding.Verdict rows g o.tokens ∧
      (∀ w, (showTrace s o).Yields t () w →
        w.lines.getLast? = some (verdictLine (isComplete rows))) ∧
      ((∀ text ∈ o.tokens, '[' ∉ text.toList) → ∃ w, (showTrace s o).Yields t () w) := by
  obtain ⟨rows, hrows, hverdict⟩ := Decoding.exists_trace (fits_size_of_openTrace hopen) o.tokens
  refine ⟨rows, hrows, hverdict, fun w hw => ?_, fun hplain => ?_⟩
  · obtain ⟨x, -, rfl⟩ := (yields_showTrace_iff hopen hrows).1 hw
    exact List.getLast?_concat
  · rw [← hverdict.tokens, List.forall_mem_map] at hplain
    obtain ⟨x, hx⟩ := exists_yields_showRows (t := u) hplain
    exact ⟨_, (yields_showTrace_iff hopen hrows).2 ⟨x, hx, rfl⟩⟩

end Whole

/-! ## Behind a rejected token -/

/-- What is written of the tokens of a model that has three. -/
def pieceText : String :=
  "\x7b\"model\": \x7b\"vocab\": \x7b\"tru\": 0, \"e\": 1, \"false\": 2\x7d\x7d\x7d"

/-- The files of a schema of two texts, and of that model. -/
def pieceFiles : Files where
  texts := [
    (["s"], "\x7b\"type\": \"boolean\"\x7d"),
    (["m", "tokenizer.json"], pieceText)]

def pieceTerminal : Terminal where
  files := pieceFiles

/-- What the file of the model declares. -/
def pieceMetadata : Vocabulary.Metadata String where
  base := [("tru", 0), ("e", 1), ("false", 2)]
  added := []
  stages := []
  eos := none
  size := none

/-- Nothing is set, and there is no model but in files. -/
def pieceSurroundings : Surroundings where
  settings := {}
  openModel _ _ := .error .memory

def pieceOptions (texts : List String) : TraceOptions where
  schema := "s"
  model := "m"
  tokens := texts
  indent := none
  engine := none
  extraEos := ["e"]

theorem ofFiles_pieceFiles : Declaration.ofFiles (.directory "m") (pieceFiles.textIn? "m") =
    .ok (.ofMetadata pieceMetadata) := by
  have hplace : pieceFiles.placeOf "m" = .ok ["m"] := by cbv
  have htextIn (name : String) : pieceFiles.textIn? "m" name = pieceFiles.textAt? ["m", name] := by
    rw [Files.textIn?, hplace]
    rfl
  have htokenizer : pieceFiles.textAt? ["m", Vocabulary.tokenizerFile] = some pieceText := by decide
  have hconfig : pieceFiles.textAt? ["m", "tokenizer_config.json"] = none := by decide
  have hmodel : pieceFiles.textAt? ["m", "config.json"] = none := by decide
  have hread : Vocabulary.readDocument pieceText = .ok (.object [("model", .object [("vocab",
      .object [("tru", .int 0), ("e", .int 1), ("false", .int 2)])])]) := by cbv
  simp only [Declaration.ofFiles, Vocabulary.readOptional, htextIn, htokenizer, hconfig, hmodel,
    hread, bind, Except.bind]
  rfl

attribute [local instance] Memory.small

theorem vocabulary_pieceMetadata :
    (Declaration.ofMetadata pieceMetadata).vocabulary ["e"] = .ok Matcher.pieces := by
  have hfits : Json.Fits pieceMetadata.tableSize := Json.fits_of_lt_ten (by decide)
  have hbuild : pieceMetadata.build ["e"] = .ok Matcher.pieces := by cbv
  rw [Declaration.vocabulary_ofMetadata hfits (by decide), hbuild]

theorem exists_openTrace_pieces (texts : List String) :
    ∃ g, (Grammar.compile Matcher.truthSource Matcher.pieces).result = .ok g ∧
      (openTrace pieceSurroundings (pieceOptions texts)).Yields pieceTerminal g pieceTerminal := by
  obtain ⟨g, hg⟩ := Matcher.exists_compile_pieces
  have hdocument : Schema.documentOfFile "s" (pieceFiles.text? "s") =
      .ok (.object [("type", .string "boolean")]) := by cbv
  have hplace : modelPlace pieceFiles "m" = .ok (.directory "m") := by cbv
  have hgiven : (Schema.Input.document (.object [("type", .string "boolean")])).Given := by
    simp [Schema.Input.Given, Value.Proper, Value.MembersProper]
  have hcompile : (Grammar.ofSchema {} (.document (.object [("type", .string "boolean")]))
      Matcher.pieces none (.named none)).result = .ok g := by
    have hnode : (Schema.Input.document (.object [("type", .string "boolean")])).node?.result =
        .ok .boolean := rfl
    have hfits : Schema.Node.boolean.document.Fits := by
      simp [Schema.Node.document, Value.Fits, Value.MembersFit]
    have htext : Schema.Node.boolean.canonicalText = .ok Matcher.truthSource.text :=
      Value.canonicalText_eq_ok_iff.2 ⟨hfits, by cbv⟩
    rw [Grammar.result_ofSchema hgiven rfl EngineChoice.resolve_default, hnode]
    simp only [bind, Except.bind, htext]
    exact hg
  have hvocabulary : VocabularyChoice.resolve {} (.files (.directory "m") (pieceFiles.textIn? "m")
      (some ["e"])) = .ok Matcher.pieces := by
    simp only [VocabularyChoice.resolve, ofFiles_pieceFiles, bind, Except.bind, Option.getD_some]
    exact vocabulary_pieceMetadata
  have hread : (readSchema "s").Yields pieceTerminal (.object [("type", .string "boolean")])
      pieceTerminal :=
    Action.Yields.bind (t := pieceTerminal) ⟨rfl, rfl⟩ ⟨hdocument, rfl⟩
  refine ⟨g, hg, hread.bind (Action.Yields.bind (t := pieceTerminal) ⟨rfl, rfl⟩ ?_)⟩
  refine Action.Yields.bind (t := pieceTerminal) ⟨hplace, rfl⟩ ?_
  refine Action.Yields.bind (t := pieceTerminal) (a := ()) ⟨rfl, rfl⟩ ⟨?_, rfl⟩
  exact Logged.result_bind_eq_ok.2 ⟨_, hvocabulary, hcompile⟩

theorem showTrace_verdict_pieces : ∃ g rows w,
    (openTrace pieceSurroundings (pieceOptions ["false", "e"])).Yields pieceTerminal g
      pieceTerminal ∧
    Decoding.Verdict rows g ["false", "e"] ∧
    (showTrace pieceSurroundings (pieceOptions ["false", "e"])).Yields pieceTerminal () w ∧
    w.lines.getLast? = some (verdictLine (isComplete rows)) := by
  obtain ⟨g, -, hopen⟩ := exists_openTrace_pieces ["false", "e"]
  obtain ⟨rows, -, hverdict, hlast, hshown⟩ := showTrace_verdict hopen
  have hplain : ∀ text ∈ ["false", "e"], '[' ∉ text.toList := by decide
  obtain ⟨w, hw⟩ := hshown hplain
  exact ⟨g, rows, w, hopen, hverdict, hw, hlast w hw⟩

/-- The stop token is rejected at the start, since the empty text is not one of the source. -/
theorem accept?_stop {g : Grammar}
    (h : (Grammar.compile Matcher.truthSource Matcher.pieces).result = .ok g) :
    (Matcher.fresh g .position).accept? (1 : Nat) = none := by
  obtain ⟨r, hg⟩ := Grammar.exists_compiled h
  have hrefuses : (Matcher.fresh g .position).refuses (1 : Nat) = true := by
    have htest := Decoding.test_mask_pieces h
    simp [Matcher.refuses, htest]
  have hsome := ((Matcher.at_fresh hg .position).stands hg).accept?_isSome hg (1 : Nat)
  rw [hrefuses] at hsome
  simpa using hsome

/-- A stop token that is rejected at the start leaves no mark on the verdict: what comes behind it
is a complete match, and the tokens together are none. -/
theorem showTrace_of_rejected_stop : ∃ g w,
    (openTrace pieceSurroundings (pieceOptions ["e", "false"])).Yields pieceTerminal g
      pieceTerminal ∧
    (showTrace pieceSurroundings (pieceOptions ["e", "false"])).Yields pieceTerminal () w ∧
    w.lines.getLast? = some "✓ Sequence is a complete match" ∧
    ¬ ∃ n, Decoding.TakesTexts (.fresh g .position) ["e", "false"] n := by
  obtain ⟨g, hcompile, hopen⟩ := exists_openTrace_pieces ["e", "false"]
  obtain ⟨-, hv, -, -, -⟩ := Grammar.compile_eq_ok.1 hcompile
  obtain ⟨n, hn, hstop⟩ := Matcher.exists_takes_false hcompile
  have hstop? : g.vocabulary.tokenId? "e" = some 1 := by
    rw [hv]
    decide
  have hfalse? : g.vocabulary.tokenId? "false" = some 2 := by
    rw [hv]
    decide
  have hrejected := accept?_stop hcompile
  -- After the first token the step is at the start again, and then it takes the second.
  have hsince : (["e", "false"].foldl Decoding.Ledger.tell (.start g)).since = [2] := by
    have hfirst : (Decoding.Ledger.start g).tell "e" =
        ⟨.fresh g .position, { rejected := 1 }, []⟩ :=
      Decoding.Ledger.tell_of_rejected rfl (Json.fits_of_lt_ten (by decide)) hstop? hrejected
    rw [List.foldl_cons, hfirst, List.foldl_cons, Decoding.Ledger.tell_of_takes rfl hfalse? hn]
    rfl
  obtain ⟨rows, hrows, hverdict⟩ := Decoding.exists_trace (fits_size_of_openTrace hopen) ["e", "false"]
  have hcomplete : isComplete rows = true := by
    refine hverdict.since.2 ⟨by simp, n, ?_, hstop⟩
    rw [hsince]
    exact Matcher.takesAll_cons.2 ⟨n, hn, Matcher.takesAll_nil.2 rfl⟩
  have hplain : ∀ row ∈ rows, '[' ∉ row.token.toList := by
    have htexts : ∀ text ∈ ["e", "false"], '[' ∉ text.toList := by decide
    rwa [← hverdict.tokens, List.forall_mem_map] at htexts
  obtain ⟨x, hx⟩ := exists_yields_showRows (t := pieceTerminal) hplain
  refine ⟨g, _, hopen, (yields_showTrace_iff hopen hrows).2 ⟨x, hx, rfl⟩, ?_, ?_⟩
  · rw [hcomplete]
    exact List.getLast?_concat
  · rintro ⟨m, hm⟩
    obtain ⟨id, k, hid, hk, -⟩ := (Decoding.takesTexts_cons rfl).1 hm
    obtain rfl : 1 = id := Option.some.inj (hstop?.symm.trans hid)
    have haccept := (Matcher.takes_iff rfl).1 hk
    rw [hrejected] at haccept
    cases haccept

end Command

end GuidedJson
