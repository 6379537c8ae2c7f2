/-
# What a dump command depends on

The command that dumps a source is asked for in a command line, in an environment, with settings from a
file, and it finds its source in the input or in a file.  Of all this only three things can be seen in
what it writes and in its exit code: the bytes of the source, the format that holds, and whether
illegal bytes are denied; and of these the last shows in the exit code alone
(`dumpRun_determined`).  Neither the log nor the place of the source has a part in it.

That a run is one of these is `DumpRun`: the command line is valid in its environment, so every switch
and every filter of the log that is accepted is covered; its settings are found, in a file or as
defaults; and `Supplied` says from where the source comes.
-/
import MonkeyTokens.Proofs.CommandLines
import MonkeyTokens.Proofs.IllegalBytes

namespace MonkeyTokens

/-! ## 1. Dump commands -/

/-- The ways in which a dump is given the bytes `source`, by the path in its command line. -/
inductive Supplied (host : Host) (source : Bytes) : Option String → Prop where
  /-- Without a path, the whole input. -/
  | input (read : host.input = ⟨source, .endOfInput⟩) : Supplied host source none
  /-- With a lone hyphen, the input as well. -/
  | hyphen {path : String} (lone : isHyphen path = true)
      (read : host.input = ⟨source, .endOfInput⟩) : Supplied host source (some path)
  /-- With any other path, the file at this path. -/
  | file {path : String} (other : isHyphen path = false)
      (read : host.files path = .file source) : Supplied host source (some path)

theorem Supplied.source_eq {host : Host} {source : Bytes} {path : Option String}
    (h : Supplied host source path) : host.source path = .ok source := by
  cases h with
  | input read =>
    show host.input.all = _
    rw [read]
    rfl
  | hyphen lone read =>
    rw [Host.source, sourceFile?, Option.filter_some, lone]
    show host.input.all = _
    rw [read]
    rfl
  | file other read =>
    rw [Host.source, sourceFile?, Option.filter_some, other]
    show readSource host.files _ = _
    rw [readSource, read]
    rfl

/-- A plain hyphen is a lone one. -/
example : isHyphen "-" = true := by
  rw [isHyphen, String.splitOn, String.splitOnAux, String.splitOnAux]
  decide +kernel

/-- A valid command line that asks for a dump of `source`, where the settings that are found are
`settings`. -/
structure DumpRun (host : Host) (words : List String) (line : CommandLine) (settings : Settings)
    (source : Bytes) : Prop where
  /-- The command line is valid in the environment, and there are settings. -/
  valid : ∃ request file, Request.read host.environment words = .ok request ∧
    Settings.find host.files request.config (Settings.places host.environment host.account) =
      .ok (settings, file)
  read : CommandLine.read words = .ok line
  tokenize : line.scope = .tokenize
  supplied : Supplied host source line.given.input

/-! ## 2. What they depend on -/

variable {host : Host} {words : List String} {line : CommandLine} {settings : Settings}
  {source : Bytes}

/-- A dump command is a dump in the format that holds, with reports in front of it. -/
theorem DumpRun.script_eq (h : DumpRun host words line settings source) :
    ∃ events : List Event, (line.task settings host).script host.files host.input =
      ((dump (line.effective settings).format line.denies source).discard).after
        (events.map .report) := by
  obtain ⟨events, hscript⟩ := line.script_of_tokenize settings host h.tokenize
  rw [h.supplied.source_eq] at hscript
  exact ⟨events, hscript⟩

theorem DumpRun.run_eq (h : DumpRun host words line settings source) (time : String) :
    (run host time words).output = line.output (line.effective settings) host ∧
      (run host time words).exitCode =
        ((line.task settings host).script host.files host.input).exitCode := by
  obtain ⟨request, file, hread, hfind⟩ := h.valid
  obtain ⟨line', hline, -, haction⟩ := Request.exists_commandLine hread
  obtain rfl : line' = line := Except.ok.inj (hline.symm.trans h.read)
  exact run_of_found hread haction hfind time

theorem DumpRun.output_eq (h : DumpRun host words line settings source) (time : String) :
    (run host time words).output =
      (MonkeyTokens.tokenize source).flatMap (line.effective settings).format.recordLine := by
  rw [(h.run_eq time).1, CommandLine.output, h.tokenize]
  simp only [h.supplied.source_eq]

/-- Of a dump only the verdict on illegal bytes is left in the exit code. -/
theorem exitCode_dump (events : List Event) (format : Format) (denyIllegal : Bool)
    (source : Bytes) :
    ((dump format denyIllegal source).discard.after (events.map .report)).exitCode =
      if denyIllegal = true ∧ ∃ b ∈ source, Byte.isIllegal b = true then 1 else 0 := by
  have hresult := dump_result format denyIllegal source
  cases hcase : (dump format denyIllegal source).result with
  | ok summary =>
    have hallowed : ¬(denyIllegal = true ∧ ∃ b ∈ source, Byte.isIllegal b = true) := by
      intro hdenied
      obtain ⟨e, he⟩ := hresult.mpr hdenied
      exact absurd (hcase.symm.trans he) (by simp)
    rw [if_neg hallowed]
    simp [Script.exitCode, Script.after, Script.discard, hcase, Except.map]
  | error e =>
    rw [if_pos (hresult.mp ⟨e, hcase⟩)]
    simp [Script.exitCode, Script.after, Script.discard, hcase, Except.map]

/-- **A dump command depends on the source, the format and the denial.**  It writes the dump of the
source in the format that holds and nothing else, with illegal bytes denied or not, and exits with 1
exactly if they are denied and there is one.  So two such commands on one source and in one format
write the same, whatever their environments, their logs, their files and their settings are. -/
theorem dumpRun_determined (h : DumpRun host words line settings source) (time : String) :
    (∀ denyIllegal, (run host time words).output =
      ((dump (line.effective settings).format denyIllegal source).deliver .unlimited).written) ∧
    (run host time words).exitCode =
      (if line.denies = true ∧ ∃ b ∈ source, Byte.isIllegal b = true then 1 else 0) ∧
    ∀ (host' : Host) (words' : List String) (line' : CommandLine) (settings' : Settings)
      (time' : String), DumpRun host' words' line' settings' source →
      (line'.effective settings').format = (line.effective settings).format →
      (run host' time' words').output = (run host time words).output := by
  refine ⟨fun denyIllegal => ?_, ?_, fun host' words' line' settings' time' h' hformat => ?_⟩
  · rw [h.output_eq, written_dump]
  · obtain ⟨events, hscript⟩ := h.script_eq
    rw [(h.run_eq time).2, hscript, exitCode_dump]
  · rw [h'.output_eq, h.output_eq, hformat]

/-- The same two bytes, once from a file, with settings from a file, a full log and illegal bytes
denied, and once from the input in a bare environment: the exit codes differ and the output does
not. -/
theorem dumpRun_determined_of_file_and_input :
    let environment : Environment := fun name => [("HOME", "/h"), ("RUST_LOG", "trace")].lookup name
    let files : FileSystem := fun path =>
      if path = "a" then .file [97, 36]
      else if path = "monkey.toml" then .file (Text.utf8String "output.format = \"json\"")
      else .absent (.system .notFound)
    let filed : Host := ⟨environment, none, files, ⟨[], .endOfInput⟩⟩
    let piped : Host :=
      ⟨fun _ => none, none, fun _ => .absent (.system .notFound), ⟨[97, 36], .endOfInput⟩⟩
    let denying : CommandLine :=
      ⟨.tokenize, { flags := [.denyIllegal], input := some "a" }, some { flags := [.verbose] }⟩
    let plain : CommandLine := ⟨.tokenize, { format := some .json }, some {}⟩
    DumpRun filed ["-v", "tokenize", "--deny-illegal", "a"] denying { format := .json } [97, 36] ∧
      DumpRun piped ["tokenize", "-F", "json"] plain {} [97, 36] ∧
      ∀ time,
        (run filed time ["-v", "tokenize", "--deny-illegal", "a"]).exitCode = 1 ∧
        (run piped time ["tokenize", "-F", "json"]).exitCode = 0 ∧
        (run filed time ["-v", "tokenize", "--deny-illegal", "a"]).output =
          (run piped time ["tokenize", "-F", "json"]).output := by
  intro environment files filed piped denying plain
  have hpath : isHyphen "a" = false := by
    rw [isHyphen, String.splitOn, String.splitOnAux, String.splitOnAux]
    decide +kernel
  have hfiled : DumpRun filed ["-v", "tokenize", "--deny-illegal", "a"] denying
      { format := .json } [97, 36] :=
    { valid := ⟨⟨true, false, none, .dump (some "a") none true⟩, some "monkey.toml",
        by decide +kernel, by decide +kernel⟩
      read := by decide +kernel
      tokenize := rfl
      supplied := .file hpath rfl }
  have hpiped : DumpRun piped ["tokenize", "-F", "json"] plain {} [97, 36] :=
    { valid := ⟨⟨false, false, none, .dump none (some .json) false⟩, none, by decide +kernel,
        by decide +kernel⟩
      read := by decide +kernel
      tokenize := rfl
      supplied := .input rfl }
  refine ⟨hfiled, hpiped, fun time => ⟨?_, ?_, ?_⟩⟩
  · exact (dumpRun_determined hfiled time).2.1.trans (by decide +kernel)
  · exact (dumpRun_determined hpiped time).2.1.trans (by decide +kernel)
  · exact (dumpRun_determined hpiped time).2.2 filed _ denying _ time hfiled rfl

end MonkeyTokens
