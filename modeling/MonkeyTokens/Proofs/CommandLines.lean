/-
# Command lines by their parts

What a valid command line says, before the environment and the settings are asked: the scope that is
carried out, what is given in it, and what is given in front of its name (`CommandLine.read`).  A
request adds the environment to that.  Of all that it holds two things decide what is written: which
file is named for the settings, and the options of the scope (`Request.exists_commandLine`).

A run then has two cases.  Where no settings are found, the report is the error and nothing else
(`run_of_refused`).  Where they are found, the options of the scope go before them
(`CommandLine.effective`), and the output is what the scope writes under both, whatever is logged on
the way (`run_of_found`).
-/
import MonkeyTokens.Command
import MonkeyTokens.Proofs.ReadBack

namespace MonkeyTokens

/-! ## 1. The parts of a command line -/

/-- A command line, read without its environment. -/
structure CommandLine where
  /-- What is carried out; without a subcommand, the program itself. -/
  scope : Scope
  /-- What is given in this scope. -/
  given : Given
  /-- What is given in front of the subcommand, if there is one. -/
  before : Option Given
  deriving DecidableEq

/-- What a dump reads: the file that is given, and the input without one or with a lone hyphen. -/
def Host.source (host : Host) (path : Option String) : Except Error Bytes :=
  match sourceFile? path with
  | some path => readSource host.files path
  | none => host.input.all

namespace CommandLine

/-- Reads a command line. -/
def read (words : List String) : Except Stop CommandLine := do
  let outer ← readWords .program .any {} words
  match outer.subcommand with
  | none => return ⟨.program, ← outer.given.settle, none⟩
  | some (scope, words) =>
    let inner ← (← readWords scope .any {} words).given.settle
    return ⟨scope, inner, some (← outer.given.settle)⟩

/-- The settings file that the command line names, the one next to the subcommand first. -/
def config (line : CommandLine) : Option String :=
  line.given.config.or (line.before.bind (·.config))

/-- The settings that hold where a file gives `settings`: the options of the scope go before them, and
a greeting can only be taken away. -/
def effective (line : CommandLine) (settings : Settings) : Settings where
  prompt := line.given.prompt.getD settings.prompt
  greeting := settings.greeting && !line.given.flags.contains .noGreeting
  format := line.given.format.getD settings.format

/-- Illegal bytes are denied. -/
def denies (line : CommandLine) : Bool :=
  line.given.flags.contains .denyIllegal

/-- What a command line writes under settings: a dump the records of all tokens of its source, the
other scopes the session on the input. -/
def output (line : CommandLine) (settings : Settings) (host : Host) : Bytes :=
  match line.scope with
  | .tokenize =>
    match host.source line.given.input with
    | .ok bytes => (tokenize bytes).flatMap settings.format.recordLine
    | .error _ => []
  | _ =>
    let session : Session := ⟨settings.prompt, settings.greeting, host.user, settings.format⟩
    session.transcript host.input

end CommandLine

/-! ## 2. From requests to command lines -/

/-- A chain of steps succeeds only if each of them does. -/
theorem exists_of_bind_eq_ok {ε α β : Type} {x : Except ε α} {f : α → Except ε β} {b : β}
    (h : x >>= f = .ok b) : ∃ a, x = .ok a ∧ f a = .ok b := by
  cases x with
  | error e => exact absurd h (by simp [bind, Except.bind])
  | ok a => exact ⟨a, rfl, h⟩

/-- Where the environment makes sense, its variable names the settings file. -/
theorem Surroundings.config_of_read {env : Environment} {g : Given} {s : Surroundings}
    (h : Surroundings.read env g = .ok s) : s.config = env "MONKEY_CONFIG" := by
  unfold Surroundings.read at h
  dsimp only at h
  split at h
  all_goals
    obtain ⟨verbose, -, h⟩ := exists_of_bind_eq_ok h
    split at h
  all_goals
    obtain ⟨noColor, -, h⟩ := exists_of_bind_eq_ok h
    split at h
    · -- an empty name is refused
      obtain ⟨_, hrefused, -⟩ := exists_of_bind_eq_ok h
      exact absurd hrefused (by simp [Given.invalid])
    · obtain ⟨config, hconfig, h⟩ := exists_of_bind_eq_ok h
      rw [← Except.ok.inj h]
      exact (Except.ok.inj hconfig).symm

/-- **A request is a command line and its environment.**  The environment is asked for a settings file
where the command line names none, and has no part in what is to be done. -/
theorem Request.exists_commandLine {env : Environment} {words : List String} {r : Request}
    (h : Request.read env words = .ok r) :
    ∃ line, CommandLine.read words = .ok line ∧
      r.config = line.config.or (env "MONKEY_CONFIG") ∧ r.action = line.given.action line.scope := by
  obtain ⟨outer, houter, h⟩ := exists_of_bind_eq_ok h
  cases hsub : outer.subcommand with
  | none =>
    simp only [hsub] at h
    obtain ⟨g, hg, h⟩ := exists_of_bind_eq_ok h
    obtain ⟨s, hs, h⟩ := exists_of_bind_eq_ok h
    obtain rfl := Except.ok.inj h
    refine ⟨⟨.program, g, none⟩, ?_, ?_, rfl⟩
    · simp [CommandLine.read, houter, hsub, hg, bind, Except.bind, pure, Except.pure]
    · rw [← Surroundings.config_of_read hs]
      cases hc : g.config <;> simp [Request.ofScopes, CommandLine.config, hc]
  | some sub =>
    obtain ⟨scope, rest⟩ := sub
    simp only [hsub] at h
    obtain ⟨reading, hreading, h⟩ := exists_of_bind_eq_ok h
    obtain ⟨inner, hinner, h⟩ := exists_of_bind_eq_ok h
    obtain ⟨fromInner, hfromInner, h⟩ := exists_of_bind_eq_ok h
    obtain ⟨g, hg, h⟩ := exists_of_bind_eq_ok h
    obtain ⟨fromOuter, hfromOuter, h⟩ := exists_of_bind_eq_ok h
    obtain rfl := Except.ok.inj h
    refine ⟨⟨scope, inner, some g⟩, ?_, ?_, rfl⟩
    · simp [CommandLine.read, houter, hsub, hreading, hinner, hg, bind, Except.bind, pure,
        Except.pure]
    · have hvariable : fromInner.config.or fromOuter.config = env "MONKEY_CONFIG" := by
        rw [Surroundings.config_of_read hfromInner, Surroundings.config_of_read hfromOuter]
        cases env "MONKEY_CONFIG" <;> rfl
      cases hi : inner.config <;> cases ho : g.config <;>
        simp [Request.ofScopes, CommandLine.config, hi, ho, hvariable]

/-! ## 3. Tasks -/

theorem output_dumpRead (format : Format) (denyIllegal : Bool) (source : Except Error Bytes) :
    (dumpRead format denyIllegal source).output =
      match source with
      | .ok bytes => (tokenize bytes).flatMap format.recordLine
      | .error _ => [] := by
  cases source with
  | ok bytes => exact written_dump format denyIllegal bytes
  | error e => rfl

/-- Reports in front of a script write nothing. -/
theorem Script.output_after_reports (events : List Event) (s : Script Unit) :
    (s.after (events.map .report)).output = s.output := by
  rw [Script.output, Script.after, Step.output_append, Step.output_report, List.nil_append]
  rfl

namespace CommandLine

variable (line : CommandLine) (settings : Settings) (host : Host)

/-- What is done where a file gives `settings`. -/
def task : Task :=
  (line.given.action line.scope).task settings host.user

/-- A dump reports the file that it is about to read, and dumps what was read. -/
theorem script_of_tokenize (h : line.scope = .tokenize) :
    ∃ events : List Event, (line.task settings host).script host.files host.input =
      (dumpRead (line.effective settings).format line.denies
        (host.source line.given.input)).after (events.map .report) := by
  rw [task, h]
  simp only [Given.action, Action.task, Task.script, Host.source]
  cases sourceFile? line.given.input with
  | some path => exact ⟨[.readingSource path], rfl⟩
  | none => exact ⟨[], rfl⟩

/-- **The options of the scope and the settings decide what is written.** -/
theorem output_task :
    ((line.task settings host).script host.files host.input).output =
      line.output (line.effective settings) host := by
  cases hscope : line.scope with
  | tokenize =>
    obtain ⟨events, hscript⟩ := line.script_of_tokenize settings host hscope
    rw [hscript, Script.output_after_reports, output_dumpRead, output, hscope]
  | program | repl =>
    rw [output, task, hscope]
    exact Session.output_script_eq_transcript _ host.input

end CommandLine

/-! ## 4. Runs -/

/-- The exit code of a command that comes to a result. -/
def Script.exitCode (s : Script Unit) : Nat :=
  match s.result with
  | .ok () => 0
  | .error _ => 1

/-- Output and exit code of a report are those of the script; the log has no part in them. -/
theorem Request.report_eq_script (r : Request) (host : Host) (time : String) :
    (r.report host time).output = (r.script host).output ∧
      (r.report host time).exitCode = (r.script host).exitCode := by
  cases hresult : (r.script host).result with
  | ok u => simp [Request.report, Script.exitCode, hresult]
  | error e => simp [Request.report, Script.exitCode, hresult]

variable {host : Host} {words : List String} {r : Request} {line : CommandLine}

/-- **Without settings nothing is done.**  The error is the whole report. -/
theorem run_of_refused {e : Error} (hread : Request.read host.environment words = .ok r)
    (hfind : Settings.find host.files r.config (Settings.places host.environment host.account) =
      .error e) (time : String) : run host time words = ⟨1, [], [e.line]⟩ := by
  have htask : r.task host = .error e := by rw [Request.task, hfind]; rfl
  rw [run, hread]
  simp only [Request.report, Request.script, htask]
  rfl

/-- **With settings the task is done.** -/
theorem run_of_found {settings : Settings} {file : Option String}
    (hread : Request.read host.environment words = .ok r)
    (haction : r.action = line.given.action line.scope)
    (hfind : Settings.find host.files r.config (Settings.places host.environment host.account) =
      .ok (settings, file)) (time : String) :
    (run host time words).output = line.output (line.effective settings) host ∧
      (run host time words).exitCode =
        ((line.task settings host).script host.files host.input).exitCode := by
  obtain ⟨events, htask⟩ : ∃ events : List Event,
      r.task host = .ok (line.task settings host, events.map .report) := by
    refine ⟨file.toList.map .loadedConfiguration, ?_⟩
    rw [Request.task, hfind, CommandLine.task, haction, List.map_map]
    rfl
  have hscript : r.script host =
      ((line.task settings host).script host.files host.input).after (events.map .report) := by
    rw [Request.script, htask]
  have hrun : run host time words = r.report host time := by rw [run, hread]
  obtain ⟨houtput, hexit⟩ := r.report_eq_script host time
  rw [hrun, houtput, hexit, hscript, Script.output_after_reports, CommandLine.output_task]
  exact ⟨rfl, rfl⟩

end MonkeyTokens
