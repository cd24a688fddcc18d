import Linewise.Calculator.Command
import Linewise.Proofs.Calculator.Arrival
import Linewise.Proofs.Calculator.Prompting

/-!
# Arguments — what decides the answer of the command

The first argument that decides, decides alone: a word for help or for the version, an option that
is not known, a second name, or one that is no text.  Where none does, the answer is that of a session
over the one file that is named, or over the standard input, and it depends on the bytes that are
read there only.  A log that the environment asks for is put in front of the standard error, and
changes nothing else.
-/

namespace Linewise

namespace Command

/-! ## 1. Kinds of arguments -/

def helpWords : List String := ["help", "--help", "-h"]

def versionWords : List String := ["version", "--version", "-V"]

def promptSwitch : String := "--no-prompt"

/-- Whether an argument decides the answer wherever it is met. -/
def DecidesAlone (argument : String) : Prop :=
  argument ∈ helpWords ∨ argument ∈ versionWords ∨
    isOption argument = true ∧ argument ≠ promptSwitch

/-- Whether an argument names a file, or the standard input. -/
def IsName (argument : String) : Prop :=
  argument ∉ helpWords ∧ argument ∉ versionWords ∧ isOption argument = false

instance : DecidablePred DecidesAlone := fun _ => inferInstanceAs (Decidable (_ ∨ _ ∨ _))

instance : DecidablePred IsName := fun _ => inferInstanceAs (Decidable (_ ∧ _ ∧ _))

/-- The names among some arguments. -/
def names (arguments : List String) : List String := arguments.filter (IsName ·)

/-- Whether an argument decides the answer behind others: by itself, or as one name more. -/
def Decides (before : List String) (argument : String) : Prop :=
  DecidesAlone argument ∨ IsName argument ∧ names before ≠ []

/-- None of the arguments decides the answer. -/
def Undecided (arguments : List String) : Prop :=
  ∀ before argument behind, arguments = before ++ argument :: behind → ¬ Decides before argument

theorem isOption_promptSwitch : isOption promptSwitch = true := by decide

theorem ne_promptSwitch {argument : String} (h : isOption argument = false) :
    argument ≠ promptSwitch := by
  rintro rfl
  rw [isOption_promptSwitch] at h
  cases h

theorem not_isName_promptSwitch : ¬ IsName promptSwitch := fun h => ne_promptSwitch h.2.2 rfl

theorem eq_promptSwitch_or_isName {argument : String} (h : ¬ DecidesAlone argument) :
    argument = promptSwitch ∨ IsName argument := by
  simp only [DecidesAlone, not_or, not_and, not_not] at h
  obtain ⟨hhelp, hversion, hoption⟩ := h
  cases hcase : isOption argument with
  | true => exact .inl (hoption hcase)
  | false => exact .inr ⟨hhelp, hversion, hcase⟩

theorem names_append (front back : List String) : names (front ++ back) = names front ++ names back :=
  List.filter_append _ _

theorem names_of_isName {argument : String} (h : IsName argument) : names [argument] = [argument] := by
  simp [names, h]

theorem names_of_not_isName {argument : String} (h : ¬ IsName argument) : names [argument] = [] := by
  simp [names, h]

theorem Undecided.of_append {front back : List String} (h : Undecided (front ++ back)) :
    Undecided front := by
  rintro before argument behind rfl
  exact h before argument (behind ++ back) (by simp)

theorem Undecided.append_singleton {arguments : List String} {argument : String}
    (h : Undecided arguments) (hdecides : ¬ Decides arguments argument) :
    Undecided (arguments ++ [argument]) := by
  intro before other behind hsplit
  rcases List.eq_nil_or_concat behind with rfl | ⟨behind, last, rfl⟩
  · obtain ⟨rfl, hlast⟩ := List.append_inj' hsplit rfl
    cases hlast
    exact hdecides
  · rw [List.concat_eq_append, ← List.cons_append, ← List.append_assoc] at hsplit
    exact h before other behind (List.append_inj' hsplit rfl).1

theorem Undecided.not_decidesAlone {arguments : List String} (h : Undecided arguments) :
    ∀ argument ∈ arguments, ¬ DecidesAlone argument := by
  intro argument hmem halone
  obtain ⟨before, behind, hsplit⟩ := List.append_of_mem hmem
  exact h before argument behind hsplit (.inl halone)

/-- Where nothing decides there is one name at the most. -/
theorem Undecided.exists_names_eq {arguments : List String} (h : Undecided arguments) :
    ∃ name : Option String, names arguments = name.toList := by
  induction arguments using List.reverseRecOn with
  | nil => exact ⟨none, rfl⟩
  | append_singleton arguments argument ih =>
    obtain ⟨name, hnames⟩ := ih h.of_append
    rw [names_append]
    by_cases hname : IsName argument
    · have hnone : names arguments = [] := by
        by_contra hsome
        exact h arguments argument [] rfl (.inr ⟨hname, hsome⟩)
      exact ⟨some argument, by rw [hnone, names_of_isName hname]; rfl⟩
    · exact ⟨name, by rw [names_of_not_isName hname, List.append_nil, hnames]⟩

theorem undecided_iff {arguments : List String} :
    Undecided arguments ↔ (∀ argument ∈ arguments, ¬ DecidesAlone argument) ∧
      (names arguments).length ≤ 1 := by
  constructor
  · intro h
    obtain ⟨name, hnames⟩ := h.exists_names_eq
    refine ⟨h.not_decidesAlone, ?_⟩
    rw [hnames]
    cases name <;> simp
  · rintro ⟨halone, hone⟩ before argument behind rfl
    rintro (hdecides | ⟨hname, hsecond⟩)
    · exact halone argument (by simp) hdecides
    · -- the name is behind another one
      have hpos := List.length_pos_iff.mpr hsecond
      rw [← List.singleton_append, names_append, names_append, names_of_isName hname] at hone
      simp only [List.length_append, List.length_singleton] at hone
      omega

/-- Whether an argument is the last that is looked at behind some texts. -/
def Stops (before : List String) : Argument → Prop
  | .text argument => Decides before argument
  | .other _ _ => True

/-- Either nothing decides, or there is a first argument that does. -/
theorem undecided_or_exists_stops (arguments : List Argument) :
    (∃ texts, arguments = texts.map .text ∧ Undecided texts) ∨
      ∃ texts argument behind, arguments = texts.map .text ++ argument :: behind ∧
        Undecided texts ∧ Stops texts argument := by
  induction arguments using List.reverseRecOn with
  | nil => exact .inl ⟨[], rfl, fun before argument behind hsplit => by simp at hsplit⟩
  | append_singleton arguments argument ih =>
    rcases ih with ⟨texts, rfl, hundecided⟩ | ⟨texts, first, behind, rfl, hfirst⟩
    · cases argument with
      | other bytes hbytes => exact .inr ⟨texts, _, [], rfl, hundecided, trivial⟩
      | text argument =>
        by_cases hdecides : Decides texts argument
        · exact .inr ⟨texts, _, [], rfl, hundecided, hdecides⟩
        · exact .inl ⟨texts ++ [argument], by simp, hundecided.append_singleton hdecides⟩
    · exact .inr ⟨texts, first, behind ++ [argument], by simp, hfirst⟩

/-! ## 2. The request -/

section Request

variable (path : Option String) (prompt : Bool) {argument : String} (rest : List Argument)

theorem requestFrom_text (argument : String) :
    requestFrom path prompt (.text argument :: rest) =
      if argument ∈ helpWords then .ok .help
      else if argument ∈ versionWords then .ok .version
      else if argument = promptSwitch then requestFrom path false rest
      else if isOption argument then .ok (.unknownOption argument)
      else
        match path with
        | none => requestFrom (some argument) prompt rest
        | some _ => .ok (.unexpectedArgument argument) := by
  rw [requestFrom.eq_def]
  rfl

theorem requestFrom_promptSwitch :
    requestFrom path prompt (.text promptSwitch :: rest) = requestFrom path false rest := by
  rw [requestFrom_text, if_neg (by decide), if_neg (by decide), if_pos rfl]

/-- A name is kept if there is none yet. -/
theorem requestFrom_of_isName (h : IsName argument) :
    requestFrom path prompt (.text argument :: rest) =
      match path with
      | none => requestFrom (some argument) prompt rest
      | some _ => .ok (.unexpectedArgument argument) := by
  obtain ⟨hhelp, hversion, hoption⟩ := h
  rw [requestFrom_text, if_neg hhelp, if_neg hversion, if_neg (ne_promptSwitch hoption), hoption,
    if_neg Bool.false_ne_true]

/-- Arguments that do not decide leave behind their name and whether a prompt is wanted. -/
theorem requestFrom_append {front : List String} (halone : ∀ a ∈ front, ¬ DecidesAlone a)
    {path name : Option String} (hnames : path.toList ++ names front = name.toList) (prompt : Bool)
    (back : List Argument) :
    requestFrom path prompt (front.map .text ++ back) =
      requestFrom name (prompt && !front.contains promptSwitch) back := by
  induction front generalizing path prompt with
  | nil =>
    obtain rfl : path = name := by cases path <;> cases name <;> simp_all [names]
    simp
  | cons argument front ih =>
    have hlater : ∀ a ∈ front, ¬ DecidesAlone a := fun a ha => halone a (List.mem_cons_of_mem _ ha)
    rw [← List.singleton_append, names_append] at hnames
    rw [List.map_cons, List.cons_append, List.contains_cons]
    rcases eq_promptSwitch_or_isName (halone argument List.mem_cons_self) with rfl | hname
    · rw [names_of_not_isName not_isName_promptSwitch, List.nil_append] at hnames
      rw [requestFrom_promptSwitch, ih hlater hnames]
      simp
    · rw [names_of_isName hname] at hnames
      have hswitch : (promptSwitch == argument) = false :=
        beq_false_of_ne fun heq => not_isName_promptSwitch (heq ▸ hname)
      -- the first name is the only one
      cases path with
      | some earlier => cases name <;> simp at hnames
      | none => rw [requestFrom_of_isName _ _ _ hname, ih hlater hnames, hswitch, Bool.false_or]

/-- Texts are never an error. -/
theorem exists_requestFrom_eq_ok (texts : List String) :
    ∃ request, requestFrom path prompt (texts.map .text) = .ok request := by
  induction texts generalizing path prompt with
  | nil => exact ⟨_, rfl⟩
  | cons argument texts ih =>
    rw [List.map_cons, requestFrom_text]
    split
    · exact ⟨_, rfl⟩
    split
    · exact ⟨_, rfl⟩
    split
    · exact ih path false
    split
    · exact ⟨_, rfl⟩
    cases path with
    | none => exact ih (some argument) prompt
    | some earlier => exact ⟨_, rfl⟩

end Request

theorem request_append {before : List String} (hundecided : Undecided before) {name : Option String}
    (hnames : names before = name.toList) (behind : List Argument) :
    request (before.map .text ++ behind) =
      requestFrom name (!before.contains promptSwitch) behind := by
  have hnone : (none : Option String).toList ++ names before = name.toList := hnames
  rw [request, requestFrom_append hundecided.not_decidesAlone hnone, Bool.true_and]

/-- The answer to an argument that decides. -/
def answerTo (environment : Environment) : Argument → Answer
  | .other bytes _ => ⟨stoppedCode, "", environment.logged [] ++ environment.complaint bytes⟩
  | .text argument =>
    if argument ∈ helpWords then ⟨0, usage, environment.logged []⟩
    else if argument ∈ versionWords then ⟨0, versionText, environment.logged []⟩
    else if isOption argument then
      ⟨1, usage, environment.logged [] ++ ("error: unknown option '" ++ argument ++ "'\n\n")⟩
    else ⟨1, "", environment.logged [] ++ ("error: unexpected argument '" ++ argument ++ "'\n")⟩

/-- The first argument that decides is answered whatever the others are, and nothing is read. -/
theorem answer_of_stops {before : List String} {argument : Argument} (hundecided : Undecided before)
    (hstops : Stops before argument) (behind : List Argument) :
    (∀ environment world, runIn environment world (before.map .text ++ argument :: behind) =
        answerTo environment argument) ∧
      ∀ path prompt, request (before.map .text ++ argument :: behind) ≠ .ok (.session path prompt) := by
  obtain ⟨name, hnames⟩ := hundecided.exists_names_eq
  simp only [runIn, request_append hundecided hnames]
  cases argument with
  | other bytes hbytes => exact ⟨fun _ _ => rfl, nofun⟩
  | text argument =>
    simp only [requestFrom_text, answerTo]
    by_cases hhelp : argument ∈ helpWords
    · simp only [if_pos hhelp]
      exact ⟨fun _ _ => by simp [report, Report.answer], nofun⟩
    by_cases hversion : argument ∈ versionWords
    · simp only [if_neg hhelp, if_pos hversion]
      exact ⟨fun _ _ => by simp [report, Report.answer], nofun⟩
    simp only [if_neg hhelp, if_neg hversion]
    rcases hstops with (hword | hword | ⟨hoption, hswitch⟩) | ⟨⟨-, -, hoption⟩, hsecond⟩
    · exact absurd hword hhelp
    · exact absurd hword hversion
    · simp only [if_neg hswitch, hoption, if_true]
      exact ⟨fun _ _ => rfl, nofun⟩
    · simp only [if_neg (ne_promptSwitch hoption), hoption, Bool.false_eq_true, if_false]
      cases name with
      | none => exact absurd hnames hsecond
      | some earlier => exact ⟨fun _ _ => rfl, nofun⟩

/-! ## 3. Sessions -/

end Command

theorem Sink.text_of_written {sink : Sink} {text : String}
    (hwritten : sink.written = encodeUtf8 text.toList) : sink.text = text := by
  rw [Sink.text, hwritten, Sink.textWithout.eq_def]
  simp only [decodeUtf8?_encodeUtf8, String.ofList_toList]

/-- A session whose output never fails writes a text. -/
theorem Session.exists_written (reader : Reader) (prompt : Option String) :
    ∃ text : String, (fresh reader .unbounded prompt).run.state.sink.written =
      encodeUtf8 text.toList := by
  obtain ⟨result, behind, counted, hrun⟩ :=
    exists_run ((Lexer.ofReader reader).addRules Calculator.rules) ⟨0, 0⟩
  obtain ⟨-, hstate⟩ := hrun (fresh reader .unbounded prompt) ⟨rfl, rfl⟩ rfl rfl
  rw [hstate]
  exact ⟨_, List.nil_append _⟩

namespace Command

/-! ## 4. Reports -/

theorem logged_plain (records : List LogRecord) : Environment.plain.logged records = "" := rfl

@[simp] theorem Report.answer_plain (report : Report) :
    report.answer .plain = ⟨report.code, report.stdout, report.explanation⟩ := by
  rw [Report.answer, logged_plain, String.empty_append]

/-- The environment puts a log in front of what the command answers to texts. -/
theorem exists_runIn_eq (world : World) (texts : List String) :
    ∃ records, ∀ environment, runIn environment world (texts.map .text) =
      { run world texts with
        stderr := environment.logged records ++ (run world texts).stderr } := by
  obtain ⟨request, hrequest⟩ := exists_requestFrom_eq_ok none true texts
  refine ⟨(report world request).records, fun environment => ?_⟩
  simp only [run, runIn, Command.request, hrequest, Report.answer_plain]
  rfl

/-- The answer tells what one session without a prompt over the reader came to: all that it wrote,
whether it ended well, and if it did not, its error and what lies behind it. -/
def Answer.TellsOf (answer : Answer) (reader : Reader) : Prop :=
  ∃ session, Session.start reader .unbounded none = .ok session ∧
    encodeUtf8 answer.stdout.toList = session.run.state.sink.written ∧
    match session.run.result with
    | .ok _ => answer.code = 0 ∧ answer.stderr = ""
    | .error error => answer.code = 1 ∧
        answer.stderr = "error: " ++ error.message ++ "\n" ++
          String.join (error.reasons.map fun reason => "  caused by: " ++ reason ++ "\n")

theorem runSession_eq (reader : Reader) (prompt : Option String) :
    runSession reader prompt =
      let outcome := (Session.fresh reader .unbounded prompt).run
      let records := outcome.events.map SessionEvent.record
      match outcome.result with
      | .ok summary => ⟨0, outcome.state.sink.text, "", records ++ [doneRecord summary]⟩
      | .error error => ⟨1, outcome.state.sink.text, explain error, records⟩ := by
  cases hresult : (Session.fresh reader .unbounded prompt).run.result <;>
    simp only [runSession, Session.start_eq, hresult]

theorem tellsOf_runSession (reader : Reader) :
    ((runSession reader none).answer .plain).TellsOf reader := by
  obtain ⟨text, hwritten⟩ := Session.exists_written reader none
  rw [Report.answer_plain]
  refine ⟨_, Session.start_eq reader .unbounded none, ?_, ?_⟩
  · have hstdout : (runSession reader none).stdout = text := by
      rw [runSession_eq, ← Sink.text_of_written hwritten]
      simp only
      split <;> rfl
    rw [hstdout, hwritten]
  · rw [runSession_eq]
    simp only
    cases (Session.fresh reader .unbounded none).run.result with
    | ok summary => exact ⟨rfl, rfl⟩
    | error error => exact ⟨rfl, rfl⟩

/-- Without a log, it does not matter how the bytes are delivered. -/
theorem runSession_of_delivers {reader other : Reader} {bytes : List UInt8}
    (hreader : reader.Delivers bytes) (hother : other.Delivers bytes) (prompt : Option String) :
    (runSession other prompt).answer .plain = (runSession reader prompt).answer .plain := by
  have hquiet : Sink.unbounded.NeverFails := ⟨rfl, rfl⟩
  obtain ⟨hresult, hsink⟩ := Session.run_fresh_of_delivers hreader hother hquiet prompt
  rw [runSession_eq, runSession_eq]
  simp only [hresult, hsink, Report.answer_plain]
  split <;> rfl

/-- The world of a command at which nobody sits. -/
def World.unattended (openFile : String → Except Failure Reader) (stdin : Reader) : World :=
  ⟨openFile, stdin, false⟩

/-- What a name stands for: the standard input if it is `-` or if there is none, else a file. -/
def World.input (world : World) (name : Option String) : Except Failure Reader :=
  match name.filter (· != "-") with
  | none => .ok world.stdin
  | some path => world.openFile path

section Unattended

variable {openFile : String → Except Failure Reader} {stdin : Reader}

theorem report_session {name : Option String} {reader : Reader}
    (hinput : (World.unattended openFile stdin).input name = .ok reader) (prompt : Bool) :
    report (World.unattended openFile stdin) (.session name prompt) = runSession reader none := by
  rw [World.input] at hinput
  rw [report]
  cases hname : name.filter (· != "-") with
  | none =>
    rw [hname] at hinput
    cases hinput
    simp [World.unattended]
  | some path =>
    rw [hname] at hinput
    simp only at hinput ⊢
    rw [hinput]

theorem report_session_of_error {name : Option String} {failure : Failure}
    (hinput : (World.unattended openFile stdin).input name = .error failure) (prompt : Bool) :
    ∃ path, name = some path ∧ path ≠ "-" ∧
      report (World.unattended openFile stdin) (.session name prompt) =
        ⟨1, "", "error: cannot open '" ++ path ++ "': " ++ failure.message ++ "\n", []⟩ := by
  rw [World.input] at hinput
  cases hname : name.filter (· != "-") with
  | none => rw [hname] at hinput; cases hinput
  | some path =>
    obtain ⟨hsome, hdash⟩ := Option.filter_eq_some_iff.mp hname
    refine ⟨path, hsome, by simpa using hdash, ?_⟩
    rw [hname] at hinput
    rw [report, hname]
    simp only at hinput ⊢
    rw [hinput]

/-- What is reported of some arguments behind those that were looked at. -/
def reportFrom (world : World) (path : Option String) (prompt : Bool) (arguments : List Argument) :
    Except (List UInt8) Report :=
  (requestFrom path prompt arguments).map (report world)

theorem runIn_congr {environment : Environment} {world : World} {arguments others : List Argument}
    (h : reportFrom world none true arguments = reportFrom world none true others) :
    runIn environment world arguments = runIn environment world others := by
  simp only [reportFrom] at h
  simp only [runIn, request]
  cases hrequest : requestFrom none true arguments <;>
    cases hother : requestFrom none true others <;>
    simp_all [Except.map]

/-- Behind the same argument, what is reported is the same if it is behind the switch and behind any
name. -/
theorem reportFrom_cons_congr {world : World} {prompt prompt' : Bool} {rest rest' : List Argument}
    (hswitched : ∀ path, reportFrom world path false rest = reportFrom world path false rest')
    (hkept : ∀ path, reportFrom world path prompt rest = reportFrom world path prompt' rest')
    (path : Option String) (argument : Argument) :
    reportFrom world path prompt (argument :: rest) =
      reportFrom world path prompt' (argument :: rest') := by
  cases argument with
  | other bytes hbytes => rfl
  | text argument =>
    simp only [reportFrom, requestFrom_text]
    split
    · rfl
    split
    · rfl
    split
    · exact hswitched path
    split
    · rfl
    cases path with
    | none => exact hkept (some argument)
    | some earlier => rfl

/-- Where nobody sits at the standard input, it does not matter whether a prompt is wanted. -/
theorem reportFrom_prompt (path : Option String) (prompt : Bool) (arguments : List Argument) :
    reportFrom (World.unattended openFile stdin) path prompt arguments =
      reportFrom (World.unattended openFile stdin) path false arguments := by
  induction arguments generalizing path with
  | nil => simp [reportFrom, requestFrom, Except.map, report, World.unattended]
  | cons argument rest ih => exact reportFrom_cons_congr (fun _ => rfl) ih path argument

theorem runIn_promptSwitch (environment : Environment) (before behind : List Argument) :
    runIn environment (World.unattended openFile stdin) (before ++ .text promptSwitch :: behind) =
      runIn environment (World.unattended openFile stdin) (before ++ behind) := by
  have hfrom (path : Option String) (prompt : Bool) :
      reportFrom (World.unattended openFile stdin) path prompt
          (before ++ .text promptSwitch :: behind) =
        reportFrom (World.unattended openFile stdin) path prompt (before ++ behind) := by
    -- the arguments before the switch leave a name and a wish for a prompt, whatever they are
    induction before generalizing path prompt with
    | nil =>
      rw [List.nil_append, List.nil_append, reportFrom, requestFrom_promptSwitch]
      exact (reportFrom_prompt path prompt behind).symm
    | cons argument before ih =>
      exact reportFrom_cons_congr (fun path => ih path false) (fun path => ih path prompt) path argument
  exact runIn_congr (hfrom none true)

theorem run_of_undecided {texts : List String} (hundecided : Undecided texts)
    {name : Option String} (hnames : names texts = name.toList) :
    ∃ prompt, run (World.unattended openFile stdin) texts =
      (report (World.unattended openFile stdin) (.session name prompt)).answer .plain := by
  have hrequest := request_append hundecided hnames []
  rw [List.append_nil] at hrequest
  exact ⟨_, by rw [run, runIn, hrequest]; rfl⟩

end Unattended

/-! ## 5. Every list of arguments -/

/-- What the command answers, if nobody sits at the standard input.  The first argument that decides
or is no text is answered whatever else there is, and nothing is read.  If there is none, and no log
is asked for, the answer tells of a session over what is named, or says that it cannot be opened; it is
the same for all arguments that lead to the same bytes.  The switch for the prompt changes nothing.
An environment that asks for a log puts it in front of the standard error. -/
theorem run_of_arguments (openFile : String → Except Failure Reader) (stdin : Reader) :
    let world := World.unattended openFile stdin
    (∀ arguments : List Argument,
        (∃ texts, arguments = texts.map .text ∧ Undecided texts) ∨
          ∃ texts argument behind, arguments = texts.map .text ++ argument :: behind ∧
            Undecided texts ∧ Stops texts argument) ∧
      (∀ texts argument behind, Undecided texts → Stops texts argument →
        (∀ environment anyWorld, runIn environment anyWorld (texts.map .text ++ argument :: behind) =
            answerTo environment argument) ∧
          ∀ path prompt,
            request (texts.map .text ++ argument :: behind) ≠ .ok (.session path prompt)) ∧
      (∀ texts, Undecided texts →
        ∃ name : Option String, names texts = name.toList ∧
          match world.input name with
          | .ok reader => (run world texts).TellsOf reader
          | .error failure => ∃ path, name = some path ∧ path ≠ "-" ∧
              run world texts =
                ⟨1, "", "error: cannot open '" ++ path ++ "': " ++ failure.message ++ "\n"⟩) ∧
      (∀ otherFile otherStdin texts others name otherName reader other bytes,
        let otherWorld := World.unattended otherFile otherStdin
        Undecided texts → names texts = Option.toList name →
        Undecided others → names others = Option.toList otherName →
        world.input name = .ok reader → otherWorld.input otherName = .ok other →
        reader.Delivers bytes → other.Delivers bytes →
          run otherWorld others = run world texts) ∧
      (∀ environment before behind,
        runIn environment world (before ++ .text promptSwitch :: behind) =
          runIn environment world (before ++ behind)) ∧
      ∀ anyWorld texts, ∃ records, ∀ environment,
        runIn environment anyWorld (texts.map .text) =
          { run anyWorld texts with
            stderr := environment.logged records ++ (run anyWorld texts).stderr } := by
  intro world
  refine ⟨undecided_or_exists_stops, fun _ _ behind hundecided hstops =>
    answer_of_stops hundecided hstops behind, fun texts hundecided => ?_, ?_, runIn_promptSwitch,
    exists_runIn_eq⟩
  · -- nothing decides: what is named is read, if it can be opened
    obtain ⟨name, hnames⟩ := hundecided.exists_names_eq
    refine ⟨name, hnames, ?_⟩
    obtain ⟨prompt, hrun⟩ := run_of_undecided hundecided hnames
    rw [show run world texts = _ from hrun]
    cases hinput : world.input name with
    | ok reader =>
      simp only
      rw [report_session hinput]
      exact tellsOf_runSession reader
    | error failure =>
      obtain ⟨path, hname, hdash, hreport⟩ := report_session_of_error hinput prompt
      exact ⟨path, hname, hdash, by rw [hreport, Report.answer_plain]⟩
  · intro otherFile otherStdin texts others name otherName reader other bytes otherWorld
      hundecided hnames hundecided' hnames' hinput hinput' hreader hother
    obtain ⟨prompt, hrun⟩ := run_of_undecided hundecided hnames
    obtain ⟨prompt', hrun'⟩ := run_of_undecided hundecided' hnames'
    rw [show run world texts = _ from hrun, show run otherWorld others = _ from hrun',
      report_session hinput, report_session hinput']
    exact runSession_of_delivers hreader hother none

/-- A file and a standard input with the same bytes, the latter in two pieces, behind a switch that
changes nothing; and a second name, which is answered although a word for help follows. -/
theorem run_of_arguments_sum :
    let openFile := fun path : String =>
      if path = "sum" then Except.ok ⟨[.data [49, 43, 50, 10]]⟩ else .error .notFound
    let stdin : Reader := ⟨[.data [49, 43], .data [50, 10]]⟩
    let world := World.unattended openFile stdin
    Undecided ["--no-prompt", "sum"] ∧ run world ["-"] = run world ["--no-prompt", "sum"] ∧
      (run world ["--no-prompt", "sum"]).TellsOf ⟨[.data [49, 43, 50, 10]]⟩ ∧
      runIn .plain world [.text "sum", .text "more", .text "--help"] =
        ⟨1, "", "error: unexpected argument 'more'\n"⟩ := by
  intro openFile stdin world
  have hsum : Undecided ["--no-prompt", "sum"] := undecided_iff.mpr (by decide)
  have hdash : Undecided ["-"] := undecided_iff.mpr (by decide)
  have hfirst : Undecided ["sum"] := undecided_iff.mpr (by decide)
  obtain ⟨-, hstops, hundecided, hbytes, -⟩ := run_of_arguments openFile stdin
  refine ⟨hsum, ?_, ?_, ?_⟩
  · exact hbytes openFile stdin ["--no-prompt", "sum"] ["-"] (some "sum") (some "-") _ _
      [49, 43, 50, 10] hsum (by decide) hdash (by decide) rfl rfl (.data (by simp) .ended)
      (.data (by simp) (.data (by simp) .ended))
  · obtain ⟨name, hnames, htells⟩ := hundecided _ hsum
    obtain rfl : name = some "sum" := by
      have : names ["--no-prompt", "sum"] = Option.toList (some "sum") := by decide
      rw [hnames] at this
      cases name <;> simp_all
    exact htells
  · exact (hstops ["sum"] (.text "more") [.text "--help"] hfirst
      (.inr ⟨by decide, by decide⟩)).1 .plain world

/-- A session that has nothing to read ends well and writes nothing. -/
theorem exists_runSession_eq_of_nothing :
    ∃ records, runSession ⟨[]⟩ none = ⟨0, "", "", records⟩ := by
  have hquiet : Sink.unbounded.NeverFails := ⟨rfl, rfl⟩
  have hend : (Session.fresh ⟨[]⟩ .unbounded none).lexer.AtLineEnd := ⟨rfl, rfl⟩
  have hverdict : Calculator.verdict (Session.fresh ⟨[]⟩ .unbounded none).lexer = .ok none := by
    rw [Calculator.verdict, hend.nextExpression_of_finished rfl]
  obtain ⟨hturn, hstate⟩ :=
    Session.turn_of_ended (Session.fresh ⟨[]⟩ .unbounded none) hquiet hverdict
  obtain ⟨hresult, hlast⟩ := Session.run_of_ended hturn
  have hwritten : (Session.fresh ⟨[]⟩ .unbounded none).run.state.sink.written =
      encodeUtf8 "".toList := by
    rw [hlast, hstate]
    rfl
  rw [runSession_eq]
  simp only [hresult, Sink.text_of_written hwritten]
  exact ⟨_, rfl⟩

/-- With a log, a session that ends well may leave a text on the standard error: here the filter is
not understood, and the log says so.  And a word for help is not answered behind an argument that is
no text. -/
theorem stderr_ne_of_filter :
    let environment : Environment :=
      ⟨some "=", fun filter _ => "ignoring \x60" ++ filter ++ "\x60: invalid filter directive\n",
        fun _ => ""⟩
    let world := World.unattended (fun _ => .error .notFound) ⟨[]⟩
    runIn environment world [] = ⟨0, "", "ignoring \x60=\x60: invalid filter directive\n"⟩ ∧
      ¬ (runIn environment world []).TellsOf ⟨[]⟩ ∧
      (runIn environment world [.text "--help"]).code = 0 ∧
      (runIn environment world [.other [255] (by decide), .text "--help"]).code = 101 := by
  intro environment world
  obtain ⟨records, hreport⟩ := exists_runSession_eq_of_nothing
  have hanswer : runIn environment world [] =
      ⟨0, "", "ignoring \x60=\x60: invalid filter directive\n"⟩ := by
    have hsession : report world (.session none true) = runSession ⟨[]⟩ none := report_session rfl true
    rw [runIn, request, requestFrom]
    simp only
    rw [hsession, hreport]
    rfl
  refine ⟨hanswer, ?_, rfl, rfl⟩
  rintro ⟨session, -, -, htold⟩
  rw [hanswer] at htold
  -- whatever the session came to, the code or the standard error differs
  cases hresult : session.run.result with
  | ok summary => rw [hresult] at htold; exact absurd htold.2 (by decide)
  | error error => rw [hresult] at htold; exact absurd htold.1 (by decide)

end Command

end Linewise
