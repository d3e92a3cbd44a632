import Arith.Command
import Arith.Proofs.Line
import Arith.Proofs.Provenance

/-!
# What the command prints

The command scans and reads by itself, but it ends as the program of its source text says: it
shows the statements of the program, or it reports what is wrong with the text.  What it prints
falls into as many lines as it is meant to, since no token of a text and no character that is
reported can bring a line feed into them.

Main results:

- `Program.lineFeeds_render_of_ofSource`, `Program.lineFeeds_report_of_ofSource`: statements of
  source texts stay on their lines, and reports of them are two lines.
- `Command.timedTranscript`: what the command prints with any clock.
- `Transcript.Shows`, `Transcript.Reports`: the two ways in which the command ends.
- `Command.timedTranscript_agrees`: the command agrees with the program of its source text.
-/

namespace Arith

open Text

/-! ## Lines of source texts -/

/-- A token that can be spelled stays on its line. -/
theorem Token.IsLexical.lineFeeds_value {t : Token} (h : t.IsLexical) : lineFeeds t.value = 0 := by
  rw [lineFeeds_eq_zero_iff]
  intro hmem
  rcases h with ⟨-, hnumeral⟩ | ⟨c, hglyph, hvalue⟩
  · rcases hnumeral.isDigit_or_point '\n' hmem with hdigit | hpoint
    · revert hdigit
      decide
    · revert hpoint
      decide
  · have hc : '\n' = c := by simpa [hvalue] using hmem
    have hblank := (Token.glyph_apart (Kind.ofGlyph?_eq_some_iff.2 hglyph)).1
    rw [← hc] at hblank
    revert hblank
    decide

namespace Program

/-- The statements of a source text stay on their lines. -/
theorem lineFeeds_render_of_ofSource {source : String} {p : Program}
    (h : ofSource source = .ok p) : ∀ s ∈ p.statements, lineFeeds s.render = 0 := by
  rw [← String.ofList_toList (s := source)] at h
  rcases spelling_of_ofSource h with ⟨spelling, hspelling, htokens, -, -⟩
  intro s hs
  have hexpr : lineFeeds s.expr.render = 0 := by
    apply Expr.lineFeeds_render
    intro t ht
    have hmem : t ∈ p.inorder := by
      rw [inorder_eq]
      exact List.mem_flatMap.2 ⟨s, hs, ht⟩
    rw [← htokens] at hmem
    exact (hspelling.lexical t hmem).lineFeeds_value
  unfold Statement.render
  rw [lineFeeds_append, hexpr]
  simp [lineFeeds]

/-- What is reported of a source text is two lines. -/
theorem lineFeeds_report_of_ofSource {source : String} {g : Diagnostic}
    (h : ofSource source = .error g) : lineFeeds g.report = 1 := by
  rcases scan_or_blames_of_ofSource h with hscan | ⟨ts, t, -, hblames⟩
  · -- The character at fault may be any, but it is quoted.
    rcases Token.unrecognised_of_scan_eq_error hscan with ⟨text, rfl⟩
    apply Diagnostic.lineFeeds_report
    · simp [Fault.tip?]
    · simp
  · have hvalue : lineFeeds t.value = 0 := by
      rcases hblames.culprit with hglyph | ⟨rfl, -⟩
      · exact Token.IsLexical.lineFeeds_value (.inr hglyph)
      · simp [Token.eof, lineFeeds]
    apply Diagnostic.lineFeeds_report
    · apply Fault.lineFeeds_tip
      rintro text kind (hfault | hfault)
      all_goals
        rcases hblames.report with rfl | rfl <;> cases hfault
        exact hvalue
    · rcases hblames.report with rfl | rfl
      all_goals simpa using hvalue

end Program

/-! ## Lines of transcripts -/

namespace Transcript

/-- Every printed text is followed by a line feed. -/
theorem lineFeeds_text_cons (text : String) (printed : List String) (exit : Exit) :
    lineFeeds (Transcript.text ⟨text :: printed, exit⟩) =
      lineFeeds text + 1 + lineFeeds (Transcript.text ⟨printed, exit⟩) := by
  simp only [Transcript.text, lineFeeds, String.toList_join, List.map_cons, List.flatMap_cons,
    String.toList_append, List.count_append]
  rfl

/-- Texts that stay on their lines are printed on one line each. -/
theorem lineFeeds_text {t : Transcript} (h : ∀ text ∈ t.printed, lineFeeds text = 0) :
    lineFeeds t.text = t.printed.length := by
  rcases t with ⟨printed, exit⟩
  induction printed with
  | nil => rfl
  | cons text printed ih =>
    have htext : lineFeeds text = 0 := h text List.mem_cons_self
    have hrest := ih fun other hother => h other (List.mem_cons_of_mem text hother)
    rw [lineFeeds_text_cons, htext, hrest]
    simp [Nat.add_comm]

end Transcript

namespace Command

/-! ## Any clock -/

/-- A terminal that keeps what is printed, latest first, with a clock that may show any span of
nanoseconds after each printed text. -/
def timedRecorder (spans : Nat → Nat) : Terminal (StateM (List String)) where
  printLine text := modify (text :: ·)
  elapsed := do return Duration.render (spans (← get).length)

/-- What the command prints with a given clock, and how it exits. -/
def timedTranscript (spans : Nat → Nat) (name : String) (args : List String) : Transcript :=
  let (exit, printed) := (run (timedRecorder spans) name args).run []
  ⟨printed.reverse, exit⟩

/-- A clock that always shows the same span gives the transcript of that span. -/
theorem transcript_eq_timedTranscript (span : Nat) (name : String) (args : List String) :
    transcript (Duration.render span) name args = timedTranscript (fun _ => span) name args :=
  rfl

variable {spans : Nat → Nat} {source : String}

/-- Statements are printed one after the other. -/
theorem forM_printLine_run (ss : List Statement) (printed : List String) :
    (ss.forM fun s => (timedRecorder spans).printLine s.render).run printed =
      ((), (ss.map Statement.render).reverse ++ printed) := by
  induction ss generalizing printed with
  | nil => rfl
  | cons s ss ih =>
    have hrest := ih (s.render :: printed)
    rw [List.map_cons, List.reverse_cons, List.append_assoc, List.singleton_append]
    exact hrest

/-- A text that cannot be scanned is reported, and nothing else is printed. -/
theorem process_of_scan_eq_error {g : Diagnostic} (h : Token.scan source = .error g) :
    (process (timedRecorder spans) source).run [] = (.failure, [g.report]) := by
  unfold process
  rw [h]
  rfl

/-- A text that is scanned but not read is reported after the time of scanning. -/
theorem process_of_ofTokens_eq_error {ts : List Token} {g : Diagnostic}
    (hscan : Token.scan source = .ok ts) (h : Program.ofTokens ts = .error g) :
    (process (timedRecorder spans) source).run [] =
      (.failure, [g.report, "Tokenized in " ++ Duration.render (spans 0)]) := by
  unfold process
  simp only [hscan, h]
  rfl

/-- The statements of a text that is scanned and read are shown after the times of both. -/
theorem process_of_ofTokens_eq_ok {ts : List Token} {p : Program}
    (hscan : Token.scan source = .ok ts) (h : Program.ofTokens ts = .ok p) :
    (process (timedRecorder spans) source).run [] =
      (.success, (p.statements.map Statement.render).reverse ++
        ["Parsed in " ++ Duration.render (spans 1),
          "Tokenized in " ++ Duration.render (spans 0)]) := by
  have htimes : (process (timedRecorder spans) source).run [] =
      ((p.statements.forM fun s => (timedRecorder spans).printLine s.render) >>= fun _ =>
        pure Exit.success : StateM (List String) Exit).run
          ["Parsed in " ++ Duration.render (spans 1),
            "Tokenized in " ++ Duration.render (spans 0)] := by
    unfold process
    simp only [hscan, h]
    rfl
  rw [htimes, StateT.run_bind, forM_printLine_run]
  rfl

/-! ## Arguments -/

/-- With at most one argument, the command processes that or the default text. -/
theorem run_of_length_le {m : Type → Type} [Monad m] (terminal : Terminal m) (name : String)
    {args : List String} (h : args.length ≤ 1) :
    run terminal name args = process terminal (args.headD defaultSource) := by
  match args with
  | [] => rfl
  | [source] => rfl
  | _ :: _ :: _ => simp at h

variable {name : String} {args : List String}

/-- With at most one argument, the transcript is what processing leaves on the terminal. -/
theorem timedTranscript_of_process {exit : Exit} {printed : List String}
    (hargs : args.length ≤ 1)
    (hrun : (process (timedRecorder spans) (args.headD defaultSource)).run [] =
      (exit, printed)) :
    timedTranscript spans name args = ⟨printed.reverse, exit⟩ := by
  unfold timedTranscript
  rw [run_of_length_le _ _ hargs, hrun]

/-- With more than one argument, the command says how it is used. -/
theorem timedTranscript_of_lt_length (h : 1 < args.length) :
    timedTranscript spans name args = ⟨["Usage: " ++ name ++ " [EXPRESSION]"], .misuse⟩ := by
  match args with
  | [] => simp at h
  | [source] => simp at h
  | _ :: _ :: _ => rfl

end Command

/-! ## The command and the program of its text -/

/-- A transcript shows a program: the two times come first, and then each statement on a line of
its own. -/
structure Transcript.Shows (t : Transcript) (spans : Nat → Nat) (p : Program) : Prop where
  exit : t.exit = .success
  printed : t.printed =
    ("Tokenized in " ++ Duration.render (spans 0)) ::
      ("Parsed in " ++ Duration.render (spans 1)) :: p.statements.map Statement.render
  joined : "\n".intercalate (t.printed.drop 2) = p.render
  unbroken : ∀ s ∈ p.statements, '\n' ∉ s.render.toList
  lines : lineFeeds t.text = 2 + p.length

/-- A transcript reports what is wrong with a source text, in two lines, and gives the time of
scanning before them exactly if the text is scanned. -/
structure Transcript.Reports (t : Transcript) (spans : Nat → Nat) (source : String)
    (g : Diagnostic) : Prop where
  exit : t.exit = .failure
  unscanned : (∃ e, Token.scan source = .error e) → t.printed = [g.report] ∧ lineFeeds t.text = 2
  scanned : (∃ ts, Token.scan source = .ok ts) →
    t.printed = ["Tokenized in " ++ Duration.render (spans 0), g.report] ∧ lineFeeds t.text = 3
  broken : lineFeeds g.report = 1

namespace Command

variable {spans : Nat → Nat} {name : String} {args : List String}

/-- The label of a time and the time itself stay on their line. -/
theorem lineFeeds_time {label : String} (h : label ∈ ["Tokenized in ", "Parsed in "]) (span : Nat) :
    lineFeeds (label ++ Duration.render span) = 0 := by
  have hlabel : ∀ l ∈ ["Tokenized in ", "Parsed in "], lineFeeds l = 0 := by
    simp [lineFeeds]
  rw [lineFeeds_append, hlabel label h, Duration.lineFeeds_render]

/-- With a source text that is a program, the command shows it. -/
theorem shows_of_ofSource {p : Program} (hargs : args.length ≤ 1)
    (h : Program.ofSource (args.headD defaultSource) = .ok p) :
    (timedTranscript spans name args).Shows spans p := by
  rcases Result.bind_eq_ok_iff.1 h with ⟨ts, hscan, hread⟩
  have hunbroken := Program.lineFeeds_render_of_ofSource h
  rw [timedTranscript_of_process hargs (process_of_ofTokens_eq_ok hscan hread),
    List.reverse_append, List.reverse_reverse]
  refine ⟨rfl, rfl, rfl, ?_, ?_⟩
  · intro s hs
    exact lineFeeds_eq_zero_iff.1 (hunbroken s hs)
  · have hlines : ∀ text ∈ ("Tokenized in " ++ Duration.render (spans 0)) ::
        ("Parsed in " ++ Duration.render (spans 1)) :: p.statements.map Statement.render,
        lineFeeds text = 0 := by
      intro text htext
      rcases List.mem_cons.1 htext with rfl | htext
      · exact lineFeeds_time (by simp) (spans 0)
      · rcases List.mem_cons.1 htext with rfl | htext
        · exact lineFeeds_time (by simp) (spans 1)
        · rcases List.mem_map.1 htext with ⟨s, hs, rfl⟩
          exact hunbroken s hs
    rw [Transcript.lineFeeds_text hlines]
    simp [Program.length]
    omega

/-- With a source text that is no program, the command reports why. -/
theorem reports_of_ofSource {g : Diagnostic} (hargs : args.length ≤ 1)
    (h : Program.ofSource (args.headD defaultSource) = .error g) :
    (timedTranscript spans name args).Reports spans (args.headD defaultSource) g := by
  have hbroken := Program.lineFeeds_report_of_ofSource h
  rcases Result.bind_eq_error_iff.1 h with hscan | ⟨ts, hscan, hread⟩
  · rw [timedTranscript_of_process hargs (process_of_scan_eq_error hscan)]
    refine ⟨rfl, ?_, ?_, hbroken⟩
    · intro _
      refine ⟨rfl, ?_⟩
      rw [List.reverse_singleton, Transcript.lineFeeds_text_cons, hbroken]
      rfl
    · rintro ⟨ts, hts⟩
      rw [hscan] at hts
      cases hts
  · rw [timedTranscript_of_process hargs (process_of_ofTokens_eq_error hscan hread)]
    refine ⟨rfl, ?_, ?_, hbroken⟩
    · rintro ⟨e, he⟩
      rw [hscan] at he
      cases he
    · intro _
      refine ⟨rfl, ?_⟩
      rw [List.reverse_cons, List.reverse_singleton, List.singleton_append,
        Transcript.lineFeeds_text_cons, Transcript.lineFeeds_text_cons,
        lineFeeds_time (by simp), hbroken]
      rfl

/-- The command agrees with the program of its source text, whatever time it takes.  With more
than one argument it prints how it is used, on one line but for line feeds in its name, and exits
with 2.  Otherwise it exits with 0 exactly if its argument, or the default text, is a program, and
then it shows that; and it exits with 1 exactly if the text is no program, and then it reports
why. -/
theorem timedTranscript_agrees (spans : Nat → Nat) (name : String) (args : List String) :
    (1 < args.length →
      (timedTranscript spans name args).exit.code = 2 ∧
        (timedTranscript spans name args).printed = ["Usage: " ++ name ++ " [EXPRESSION]"] ∧
        lineFeeds (timedTranscript spans name args).text = lineFeeds name + 1) ∧
    (args.length ≤ 1 →
      ((timedTranscript spans name args).exit.code = 0 ↔
        ∃ p, Program.ofSource (args.headD defaultSource) = .ok p) ∧
      ((timedTranscript spans name args).exit.code = 1 ↔
        ∃ g, Program.ofSource (args.headD defaultSource) = .error g) ∧
      (∀ p, Program.ofSource (args.headD defaultSource) = .ok p →
        (timedTranscript spans name args).Shows spans p) ∧
      ∀ g, Program.ofSource (args.headD defaultSource) = .error g →
        (timedTranscript spans name args).Reports spans (args.headD defaultSource) g) := by
  constructor
  · intro hargs
    rw [timedTranscript_of_lt_length hargs]
    refine ⟨rfl, rfl, ?_⟩
    rw [Transcript.lineFeeds_text_cons, lineFeeds_append, lineFeeds_append]
    simp [lineFeeds, Transcript.text]
  · intro hargs
    cases h : Program.ofSource (args.headD defaultSource) with
    | ok p =>
      have hshows : (timedTranscript spans name args).Shows spans p := shows_of_ofSource hargs h
      have hcode : (timedTranscript spans name args).exit.code = 0 := by
        rw [hshows.exit]
        rfl
      refine ⟨by simp [hcode], by simp [hcode], ?_, ?_⟩
      · intro q hq
        cases hq
        exact hshows
      · intro g hg
        cases hg
    | error g =>
      have hreports : (timedTranscript spans name args).Reports spans
          (args.headD defaultSource) g := reports_of_ofSource hargs h
      have hcode : (timedTranscript spans name args).exit.code = 1 := by
        rw [hreports.exit]
        rfl
      refine ⟨by simp [hcode], by simp [hcode], ?_, ?_⟩
      · intro p hp
        cases hp
      · intro e he
        cases he
        exact hreports

/-- Two statements take four lines with the times before them, a trailing operator is reported in
three although a line feed follows it, and two arguments are refused. -/
theorem timedTranscript_lines :
    lineFeeds (timedTranscript (fun n => 1500 * n) "arith" ["1 2"]).text = 4 ∧
      lineFeeds (timedTranscript (fun n => 1500 * n) "arith" ["2 +\n"]).text = 3 ∧
      (timedTranscript (fun n => 1500 * n) "arith" ["1", "2"]).exit.code = 2 := by
  have htwo : Program.ofSource "1 2" = .ok ⟨[⟨.literal "1"⟩, ⟨.literal "2"⟩]⟩ := by
    decide +kernel
  have hscan : Token.scan "2 +\n" = .ok [.number "2", ⟨.plus, "+"⟩, .eof] := by
    decide +kernel
  have htrailing : Program.ofSource "2 +\n" =
      .error ⟨.illegalExpression "EOF" .eof, some .eof⟩ := by
    decide +kernel
  refine ⟨?_, ?_, ?_⟩
  · exact (((timedTranscript_agrees _ "arith" ["1 2"]).2 (by simp)).2.2.1 _ htwo).lines
  · exact ((((timedTranscript_agrees _ "arith" ["2 +\n"]).2 (by simp)).2.2.2 _
      htrailing).scanned ⟨_, hscan⟩).2
  · exact ((timedTranscript_agrees _ "arith" ["1", "2"]).1 (by simp)).1

end Command

end Arith
