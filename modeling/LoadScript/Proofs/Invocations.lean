import LoadScript.Command.Invocation
import LoadScript.Proofs.Effects

/-!
# What an invocation comes to

An invocation reads a script only once the scripts before it have run, so some may have run
when a later one turns out to be unreadable.  What the invocation comes to is the same as if
it read everything beforehand: the first reading that fails is its error, and if none fails
all scripts are run on the variables that the definitions seed.

The main statement, `answers_perform`, says this of every command line, together with the
exit status and the standard output.
-/

namespace LoadScript.Command

/-! ## Readings -/

section Failures

variable {ε α β : Type}

/-- The errors of the readings that failed, in order. -/
def failures : List (Except ε α) → List ε
  | [] => []
  | .error error :: readings => error :: failures readings
  | .ok _ :: readings => failures readings

theorem failures_append (first second : List (Except ε α)) :
    failures (first ++ second) = failures first ++ failures second := by
  induction first with
  | nil => rfl
  | cons reading first ih => cases reading <;> simp [failures, ih]

theorem failures_ne_nil_iff {readings : List (Except ε α)} :
    failures readings ≠ [] ↔ ∃ error, .error error ∈ readings := by
  induction readings with
  | nil => simp [failures]
  | cons reading readings ih =>
      cases reading with
      | error error => simp [failures]
      | ok value => simpa [failures] using ih

/-- Readings without a failure gave something each. -/
theorem exists_eq_map_ok {readings : List (Except ε α)} (unfailing : failures readings = []) :
    ∃ values : List α, readings = values.map .ok := by
  induction readings with
  | nil => exact ⟨[], rfl⟩
  | cons reading readings ih =>
      cases reading with
      | error error => simp [failures] at unfailing
      | ok value =>
          rcases ih unfailing with ⟨values, rfl⟩
          exact ⟨value :: values, rfl⟩

variable {read : α → Except ε β} {items : List α}

theorem mapM_of_map_eq {values : List β} (given : items.map read = values.map .ok) :
    items.mapM read = .ok values := by
  induction items generalizing values with
  | nil =>
      rw [List.map_nil, eq_comm, List.map_eq_nil_iff] at given
      rw [given]
      rfl
  | cons item items ih =>
      cases values with
      | nil => simp at given
      | cons value values =>
          rcases List.cons.inj given with ⟨first, rest⟩
          rw [List.mapM_cons, first, ih rest]
          rfl

/-- Of several failures the first is the one that shows. -/
theorem mapM_of_failures_eq_cons {error : ε} {others : List ε}
    (failed : failures (items.map read) = error :: others) : items.mapM read = .error error := by
  induction items with
  | nil => simp [failures] at failed
  | cons item items ih =>
      rw [List.mapM_cons]
      cases first : read item with
      | error other =>
          rw [List.map_cons, first] at failed
          rw [(List.cons.inj failed).1]
          rfl
      | ok value =>
          rw [List.map_cons, first] at failed
          rw [ih failed]
          rfl

end Failures

/-- The text of a source that comes behind some others.  The first source that reads the
standard input gets all of it, and the later ones get nothing. -/
def Source.readBehind (surroundings : Surroundings) (earlier : List Source) :
    Source → Except RunError Text
  | .file path => (surroundings.read path).mapError (.readScript path)
  | .input =>
      if .input ∈ earlier then .ok [] else surroundings.input.mapError .readInput
  | .text written => .ok written

/-- The texts of some sources that come behind others. -/
def readings (surroundings : Surroundings) :
    (earlier : List Source) → List Source → List (Except RunError Text)
  | _, [] => []
  | earlier, source :: rest =>
      source.readBehind surroundings earlier :: readings surroundings (earlier ++ [source]) rest

namespace Arguments

/-- The text of the prelude, if there is one. -/
def preludeText (arguments : Arguments) (surroundings : Surroundings) :
    List (Except RunError Text) :=
  (surroundings.preludePath? arguments.preludeChoice).toList.map fun path =>
    (surroundings.read path).mapError (.readPrelude path)

/-- The texts that the arguments ask to run, the prelude first. -/
def texts (arguments : Arguments) (surroundings : Surroundings) : List (Except RunError Text) :=
  arguments.preludeText surroundings ++ readings surroundings [] arguments.sources

/-- All that keeps an invocation from its end, in order: definitions, the prelude, scripts. -/
def faults (arguments : Arguments) (surroundings : Surroundings) : List RunError :=
  (failures (arguments.defines.map readDefinition)).map .setup ++
    failures (arguments.texts surroundings)

end Arguments

/-! ## Scripts that are read and run in turns -/

namespace Progress

theorem session_seed (seeds : List (Text × Value)) (progress : Progress) :
    (progress.seed seeds).session =
      ⟨progress.session.registry, progress.session.vars.setAll seeds⟩ := by
  induction seeds generalizing progress with
  | nil => rfl
  | cons seed seeds ih =>
      exact ih { progress with session := progress.session.set seed.1 seed.2 }

/-- What an invocation in progress comes to once it has run some more scripts. -/
def report (progress : Progress) (scripts : List Text) : Report where
  vars := (progress.session.execAll scripts).vars
  diagnostics :=
    progress.diagnostics + (Run.diagnosticsOf (progress.session.visitsAll scripts)).length

/-- A script that has run counts as one of those to run. -/
theorem report_cons {progress next : Progress} {text : Text}
    (session : next.session = (progress.session.exec text).session)
    (diagnostics : next.diagnostics =
      progress.diagnostics + (progress.session.exec text).diagnostics.length)
    (scripts : List Text) : progress.report (text :: scripts) = next.report scripts := by
  rw [report, report, session, diagnostics, Session.execAll, Session.visitsAll,
    Run.diagnosticsOf, List.filterMap_append, List.length_append, ← Nat.add_assoc]
  rfl

variable {surroundings : Surroundings} {earlier : List Source} {progress : Progress}
  (spent : progress.inputSpent = decide (.input ∈ earlier))

include spent

theorem readSource_eq (source : Source) :
    progress.readSource surroundings source =
      (source.readBehind surroundings earlier).map fun text =>
        (text, { progress with inputSpent := decide (.input ∈ earlier ++ [source]) }) := by
  have kept (other : Source.input ≠ source) :
      decide (Source.input ∈ earlier ++ [source]) = progress.inputSpent := by
    simp [spent, other]
  cases source with
  | file path =>
      rw [kept (by simp), readSource, Source.readBehind]
      cases surroundings.read path <;> rfl
  | input =>
      by_cases read : Source.input ∈ earlier
      · have already : progress.inputSpent = true := spent.trans (decide_eq_true read)
        have still : decide (Source.input ∈ earlier ++ [.input]) = progress.inputSpent := by
          simp [already]
        rw [still, readSource, if_pos already, Source.readBehind, if_pos read]
        rfl
      · have unread : ¬progress.inputSpent = true := by simpa [spent] using read
        have now : decide (Source.input ∈ earlier ++ [.input]) = true := by simp
        rw [now, readSource, if_neg unread, Source.readBehind, if_neg read]
        cases surroundings.input <;> rfl
  | text written =>
      rw [kept (by simp)]
      rfl

/-- If all sources can be read, their texts are run. -/
theorem result_runSources_of_eq_map_ok {sources : List Source} {scripts : List Text}
    (given : readings surroundings earlier sources = scripts.map .ok) :
    (progress.runSources surroundings sources).result = .ok (progress.report scripts) := by
  -- What has been read grows with every source, and with it the flag for the standard input.
  induction sources generalizing earlier progress scripts with
  | nil =>
      rw [readings, eq_comm, List.map_eq_nil_iff] at given
      rw [given]
      rfl
  | cons source sources ih =>
      cases scripts with
      | nil => simp [readings] at given
      | cons text scripts =>
          rcases List.cons.inj given with ⟨first, rest⟩
          rw [runSources, readSource_eq spent, first]
          simp only [Except.map]
          rw [ih rfl rest]
          exact congrArg Except.ok (report_cons rfl rfl scripts).symm

/-- The first source that cannot be read ends the invocation, whatever has been run. -/
theorem result_runSources_of_failures_eq_cons {sources : List Source} {error : RunError}
    {others : List RunError}
    (failed : failures (readings surroundings earlier sources) = error :: others) :
    (progress.runSources surroundings sources).result = .error error := by
  induction sources generalizing earlier progress with
  | nil => simp [readings, failures] at failed
  | cons source sources ih =>
      rw [readings] at failed
      rw [runSources, readSource_eq spent]
      cases first : source.readBehind surroundings earlier with
      | error other =>
          rw [first] at failed
          rw [(List.cons.inj failed).1]
          rfl
      | ok text =>
          rw [first] at failed
          exact ih rfl failed

end Progress

/-! ## Whole invocations -/

namespace Arguments

variable {arguments : Arguments} {surroundings : Surroundings}

theorem setup_of_map_eq {seeds : List (Text × Value)}
    (given : arguments.defines.map readDefinition = seeds.map .ok) :
    arguments.setup = .ok ⟨arguments.preludeChoice, seeds⟩ := by
  rw [setup, mapM_of_map_eq given]
  rfl

theorem result_run_of_eq_map_ok {seeds : List (Text × Value)} {scripts : List Text}
    (seeded : arguments.defines.map readDefinition = seeds.map .ok)
    (given : arguments.texts surroundings = scripts.map .ok) :
    (arguments.run surroundings).result = .ok ((Progress.seed seeds {}).report scripts) := by
  rw [run, setup_of_map_eq seeded]
  rw [texts, preludeText] at given
  cases chosen : surroundings.preludePath? arguments.preludeChoice with
  | none =>
      rw [chosen] at given
      simp only [chosen]
      exact Progress.result_runSources_of_eq_map_ok rfl given
  | some path =>
      rw [chosen] at given
      simp only [chosen]
      cases scripts with
      | nil => simp at given
      | cons text scripts =>
          rcases List.cons.inj given with ⟨first, rest⟩
          cases read : surroundings.read path with
          | error fault => simp [read, Except.mapError] at first
          | ok prelude =>
              obtain rfl : prelude = text := by simpa [read, Except.mapError] using first
              simp only
              rw [Progress.result_runSources_of_eq_map_ok rfl rest]
              exact congrArg Except.ok (Progress.report_cons rfl rfl scripts).symm

theorem result_run_of_faults_eq_cons {error : RunError} {others : List RunError}
    (failed : arguments.faults surroundings = error :: others) :
    (arguments.run surroundings).result = .error error := by
  rw [faults] at failed
  cases wrong : failures (arguments.defines.map readDefinition) with
  | cons first rest =>
      rw [wrong] at failed
      rw [run, setup, mapM_of_failures_eq_cons wrong, ← (List.cons.inj failed).1]
      rfl
  | nil =>
      rcases exists_eq_map_ok wrong with ⟨seeds, seeded⟩
      rw [wrong, List.map_nil, List.nil_append, texts, preludeText] at failed
      rw [run, setup_of_map_eq seeded]
      cases chosen : surroundings.preludePath? arguments.preludeChoice with
      | none =>
          rw [chosen] at failed
          simp only [chosen]
          exact Progress.result_runSources_of_failures_eq_cons rfl failed
      | some path =>
          rw [chosen] at failed
          simp only [chosen]
          cases read : surroundings.read path with
          | error fault =>
              have same : RunError.readPrelude path fault = error := by
                simpa [read, Except.mapError, failures] using (congrArg List.head? failed)
              exact congrArg Except.error same
          | ok prelude =>
              have later : failures (readings surroundings [] arguments.sources) =
                  error :: others := by
                simpa [read, Except.mapError, failures] using failed
              exact Progress.result_runSources_of_failures_eq_cons rfl later

end Arguments

/-! ## What keeps an invocation from its end -/

/-- A source that cannot be read. -/
def Source.Unreadable (surroundings : Surroundings) : Source → Prop
  | .file path => ∃ fault, surroundings.read path = .error fault
  | .input => ∃ fault, surroundings.input = .error fault
  | .text _ => False

section Unreadable

variable {surroundings : Surroundings} {earlier : List Source}
  (fine : .input ∈ earlier → ¬Source.input.Unreadable surroundings)

include fine

theorem Source.exists_readBehind_eq_error_iff (source : Source) :
    (∃ error, source.readBehind surroundings earlier = .error error) ↔
      source.Unreadable surroundings := by
  cases source with
  | file path =>
      rw [readBehind, Unreadable]
      cases surroundings.read path <;> simp [Except.mapError]
  | input =>
      rw [readBehind]
      by_cases read : .input ∈ earlier
      · simp [read, fine read]
      · rw [if_neg read, Unreadable]
        cases surroundings.input <;> simp [Except.mapError]
  | text written => simp [readBehind, Unreadable]

/-- Some reading fails just when some source would fail alone: the standard input fails for
the first source that reads it or for none. -/
theorem failures_readings_ne_nil_iff (sources : List Source) :
    failures (readings surroundings earlier sources) ≠ [] ↔
      ∃ source ∈ sources, source.Unreadable surroundings := by
  induction sources generalizing earlier with
  | nil => simp [readings, failures]
  | cons source sources ih =>
      have alone := Source.exists_readBehind_eq_error_iff fine source
      rw [readings]
      cases first : source.readBehind surroundings earlier with
      | error error =>
          have unreadable := alone.mp ⟨error, first⟩
          simp [failures, unreadable]
      | ok text =>
          have readable : ¬source.Unreadable surroundings := by
            rw [← alone, first]
            simp
          -- Should this source be the standard input, it has just been read.
          have fine' : .input ∈ earlier ++ [source] →
              ¬Source.input.Unreadable surroundings := by
            intro member
            rcases List.mem_append.mp member with before | now
            · exact fine before
            · rw [List.mem_singleton.mp now]
              exact readable
          rw [failures, ih fine']
          simp [readable]

end Unreadable

namespace Arguments

/-- A definition is wrong, or the chosen prelude or a source cannot be read. -/
def Faulty (arguments : Arguments) (surroundings : Surroundings) : Prop :=
  (∃ definition ∈ arguments.defines, ∃ error, readDefinition definition = .error error) ∨
    (∃ path fault, surroundings.preludePath? arguments.preludeChoice = some path ∧
      surroundings.read path = .error fault) ∨
    ∃ source ∈ arguments.sources, source.Unreadable surroundings

theorem faulty_iff {arguments : Arguments} {surroundings : Surroundings} :
    arguments.Faulty surroundings ↔ arguments.faults surroundings ≠ [] := by
  have definitions : failures (arguments.defines.map readDefinition) ≠ [] ↔
      ∃ definition ∈ arguments.defines, ∃ error, readDefinition definition = .error error := by
    rw [failures_ne_nil_iff]
    simp only [List.mem_map]
    exact ⟨fun ⟨error, definition, member, wrong⟩ => ⟨definition, member, error, wrong⟩,
      fun ⟨definition, member, error, wrong⟩ => ⟨error, definition, member, wrong⟩⟩
  have prelude : failures (arguments.preludeText surroundings) ≠ [] ↔
      ∃ path fault, surroundings.preludePath? arguments.preludeChoice = some path ∧
        surroundings.read path = .error fault := by
    rw [preludeText]
    cases surroundings.preludePath? arguments.preludeChoice with
    | none => simp [failures]
    | some path => cases read : surroundings.read path <;> simp [failures, Except.mapError, read]
  have unread : Source.input ∈ [] → ¬Source.input.Unreadable surroundings := by simp
  have scripts := failures_readings_ne_nil_iff unread arguments.sources
  rw [Faulty, ← definitions, ← prelude, ← scripts, faults, texts, failures_append]
  simp only [ne_eq, List.append_eq_nil_iff, List.map_eq_nil_iff, not_and_or]

end Arguments

/-! ## What the user sees -/

/-- What a user sees is the answer to some arguments. -/
structure Exit.Answers (arguments : Arguments) (surroundings : Surroundings) (exit : Exit) :
    Prop where
  /-- The invocation fails just when something is faulty. -/
  failed : exit.status = 1 ↔ arguments.Faulty surroundings
  /-- If it fails, nothing is printed. -/
  silent : arguments.Faulty surroundings → exit.output = []
  /-- If it fails, the first fault is its error and stands behind the log. -/
  error : arguments.Faulty surroundings → ∃ error,
    (arguments.faults surroundings).head? = some error ∧
    (arguments.run surroundings).result = .error error ∧
    exit.messages.getLast? = some ("qvs: ".toList ++ error.message)
  /-- Otherwise the definitions are set and then the texts are run, the variables are shown,
  and diagnostics show in the status if the arguments are strict. -/
  completed : ¬arguments.Faulty surroundings → ∃ seeds scripts report,
    arguments.defines.map readDefinition = seeds.map .ok ∧
    arguments.texts surroundings = scripts.map .ok ∧
    (arguments.run surroundings).result = .ok report ∧
    report.vars =
      ((Session.mk .standard (Store.empty.setAll seeds)).execAll scripts).vars ∧
    report.diagnostics = (Run.diagnosticsOf
      ((Session.mk .standard (Store.empty.setAll seeds)).visitsAll scripts)).length ∧
    exit.status = (if arguments.strict = true ∧ 0 < report.diagnostics then 2 else 0) ∧
    exit.output =
      if arguments.quiet = true then []
      else if arguments.json = true then report.vars.json ++ ['\n']
      else report.vars.table
  /-- The switches for the status, the output and the log do not change what is run. -/
  switches : ∀ strict quiet json debug,
    ({ arguments with strict, quiet, json, debug }).run surroundings = arguments.run surroundings
  /-- The output depends on two of them only. -/
  shown : ∀ strict quiet json debug logVariable,
    (({ arguments with strict, quiet, json, debug }).perform surroundings logVariable).output =
      match (arguments.run surroundings).result with
      | .error _ => []
      | .ok report =>
          if quiet = true then []
          else if json = true then report.vars.json ++ ['\n']
          else report.vars.table

namespace Arguments

variable {arguments : Arguments} {surroundings : Surroundings} (logVariable : Option Text)

/-- The log of an invocation, as far as it is shown. -/
def log (arguments : Arguments) (surroundings : Surroundings) (logVariable : Option Text) :
    List Text :=
  ((arguments.run surroundings).events.filter fun event =>
    (arguments.threshold logVariable).shows event.level).map Event.line

theorem perform_of_error {error : RunError}
    (failed : (arguments.run surroundings).result = .error error) :
    arguments.perform surroundings logVariable =
      ⟨1, [], arguments.log surroundings logVariable ++ ["qvs: ".toList ++ error.message]⟩ := by
  rw [perform, failed]
  rfl

theorem perform_of_ok {report : Report}
    (completed : (arguments.run surroundings).result = .ok report) :
    arguments.perform surroundings logVariable =
      ⟨arguments.exitStatus report, arguments.rendering report.vars,
        arguments.log surroundings logVariable⟩ := by
  rw [perform, completed]
  rfl

/-- Nothing that is run depends on the switches for the status, the output and the log. -/
theorem run_switches (arguments : Arguments) (surroundings : Surroundings)
    (strict quiet json debug : Bool) :
    ({ arguments with strict, quiet, json, debug }).run surroundings = arguments.run surroundings :=
  rfl

theorem output_perform_switches (strict quiet json debug : Bool) :
    (({ arguments with strict, quiet, json, debug }).perform surroundings logVariable).output =
      match (arguments.run surroundings).result with
      | .error _ => []
      | .ok report =>
          if quiet = true then []
          else if json = true then report.vars.json ++ ['\n']
          else report.vars.table := by
  have same := run_switches arguments surroundings strict quiet json debug
  cases result : (arguments.run surroundings).result with
  | error error =>
      rw [← same] at result
      rw [perform_of_error logVariable result]
  | ok report =>
      rw [← same] at result
      rw [perform_of_ok logVariable result]
      rfl

/-- An invocation with a fault fails with the first one. -/
theorem answers_of_faults_eq_cons {error : RunError} {others : List RunError}
    (failed : arguments.faults surroundings = error :: others) :
    (arguments.perform surroundings logVariable).Answers arguments surroundings := by
  have faulty : arguments.Faulty surroundings := by
    rw [faulty_iff, failed]
    exact List.cons_ne_nil _ _
  have result := result_run_of_faults_eq_cons failed
  have performed := perform_of_error logVariable result
  constructor
  case failed =>
    rw [performed]
    exact iff_of_true rfl faulty
  case silent =>
    intro _
    rw [performed]
  case error =>
    intro _
    refine ⟨error, ?_, result, ?_⟩
    · rw [failed, List.head?_cons]
    · rw [performed, List.getLast?_concat]
  case completed => exact fun fine => absurd faulty fine
  case switches => exact run_switches arguments surroundings
  case shown =>
    intro strict quiet json debug logVariable
    exact output_perform_switches logVariable strict quiet json debug

/-- An invocation without a fault runs everything and shows the variables. -/
theorem answers_of_faults_eq_nil (unfailing : arguments.faults surroundings = []) :
    (arguments.perform surroundings logVariable).Answers arguments surroundings := by
  have fine : ¬arguments.Faulty surroundings := by
    rw [faulty_iff, unfailing]
    exact fun differ => differ rfl
  rw [faults, List.append_eq_nil_iff, List.map_eq_nil_iff] at unfailing
  rcases exists_eq_map_ok unfailing.1 with ⟨seeds, seeded⟩
  rcases exists_eq_map_ok unfailing.2 with ⟨scripts, given⟩
  have result := result_run_of_eq_map_ok seeded given
  have performed := perform_of_ok logVariable result
  constructor
  case failed =>
    refine iff_of_false ?_ fine
    rw [performed]
    simp only [exitStatus]
    split <;> decide
  case silent => exact fun faulty => absurd faulty fine
  case error => exact fun faulty => absurd faulty fine
  case completed =>
    intro _
    refine ⟨seeds, scripts, _, seeded, given, result, ?_, ?_, ?_, ?_⟩
    · rw [Progress.report, Progress.session_seed]
    · rw [Progress.report, Progress.session_seed]
      exact Nat.zero_add _
    · rw [performed]
      simp [exitStatus]
    · rw [performed]
      rfl
  case switches => exact run_switches arguments surroundings
  case shown =>
    intro strict quiet json debug logVariable
    exact output_perform_switches logVariable strict quiet json debug

end Arguments

/-- Every command line that can be read is answered: the invocation fails with its first
fault, or it runs everything and shows the variables. -/
theorem answers_perform {words : List Text} {arguments : Arguments}
    (parsed : Arguments.ofList words = .ok arguments) (surroundings : Surroundings)
    (logVariable : Option Text) :
    (perform words surroundings logVariable).Answers arguments surroundings := by
  rw [perform, parsed]
  cases met : arguments.faults surroundings with
  | nil => exact Arguments.answers_of_faults_eq_nil logVariable met
  | cons error others => exact Arguments.answers_of_faults_eq_cons logVariable met

/-- Surroundings with two files and some standard input. -/
def Surroundings.twoFiles : Surroundings where
  read path :=
    if path = "prelude".toList then .ok "LET a = $(d);".toList
    else if path = "script".toList then .ok "SET b = '$(i)'; oops;".toList
    else .error .notFound
  isThere _ := false
  input := .ok "LET i = $(a);".toList

/-- The standard input is given twice and read once; a script that cannot be read takes the
output of those before it away; a wrong definition is met before all else. -/
theorem answers_perform_two_files :
    let shared := ["-Dd=7", "-p", "prelude", "-", "script", "-", "--strict"].map String.toList
    let lost := ["-Dd=7", "-p", "prelude", "script", "lost", "-"].map String.toList
    let wrong := ["-p", "gone", "lost", "-D7=d"].map String.toList
    (∃ arguments, Arguments.ofList shared = .ok arguments ∧
      ¬arguments.Faulty .twoFiles ∧
      (perform shared .twoFiles none).Answers arguments .twoFiles ∧
      (perform shared .twoFiles none).status = 2 ∧
      (perform shared .twoFiles none).output = "a = 7\nb = '7'\nd = 7\ni = 7\n".toList) ∧
    (∃ arguments, Arguments.ofList lost = .ok arguments ∧
      arguments.faults .twoFiles = [.readScript "lost".toList .notFound] ∧
      (perform lost .twoFiles none).Answers arguments .twoFiles ∧
      (perform lost .twoFiles none).messages.length = 2) ∧
    ∃ arguments, Arguments.ofList wrong = .ok arguments ∧
      arguments.faults .twoFiles = [.setup (.invalidName "7".toList),
        .readPrelude "gone".toList .notFound, .readScript "lost".toList .notFound] ∧
      (perform wrong .twoFiles none).Answers arguments .twoFiles := by
  refine ⟨⟨_, rfl, ?_, answers_perform rfl _ _, ?_, ?_⟩,
    ⟨_, rfl, ?_, answers_perform rfl _ _, ?_⟩, ⟨_, rfl, ?_, answers_perform rfl _ _⟩⟩
  · rw [Arguments.faulty_iff]
    decide +kernel
  all_goals decide +kernel

end LoadScript.Command
