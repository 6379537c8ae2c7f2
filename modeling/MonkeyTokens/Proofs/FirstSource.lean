/-
# One source of settings

Settings come from one place: the file that the command line names, else the one that the environment
names, else the first of the usual places where there is something, else the defaults.
`FirstSource` is this rule with the paths that it looks at, and `Loaded` says what becomes of the
chosen file, with the error for each way in which it can fail.

That nothing else counts is a statement about two runs (`settings_of_first_source`): a second host may
differ from the first one in all but three variables and in all files but those that were looked at,
and still the settings are the same, or the error is.  So no file behind the chosen one is ever
consulted, also where the chosen one is broken; and where there is an error it is the whole report, so
neither the input nor a source file was read for it.  Only files that were found absent in front of the
chosen one count besides it, because creating one of them chooses that one.

What is found is the bottom layer.  The options of the command line go before it
(`CommandLine.effective`), and what is written depends on both together (`CommandLine.output`).
-/
import MonkeyTokens.Proofs.CommandLines

namespace MonkeyTokens

/-! ## 1. The rule -/

/-- The usual places for settings, by the user's own directory and the variable for the system's: that
directory counts if it is absolute, and else a fixed place in the user's own. -/
def usualPlaces (home : String) (settingsHome : Option String) : List String :=
  ["monkey.toml",
    below home ".config/monkey/monkey.toml",
    below ((settingsHome.filter (·.toList.head? = some '/')).getD (below home ".config"))
      "monkey/monkey.toml"]

/-- The paths that are looked at for settings, and the file that is chosen.  Of the places in front of
it, it has been seen that there is nothing. -/
inductive FirstSource (files : FileSystem) :
    Option String → List String → List String → Option String → Prop where
  /-- A file that is named is chosen, whether it is there or not. -/
  | named (path : String) (places : List String) :
      FirstSource files (some path) places [path] (some path)
  /-- Otherwise the first place with something in it. -/
  | first (front : List String) (path : String) (behind : List String)
      (absent : ∀ p ∈ front, (files p).isPresent = false) (present : (files path).isPresent = true) :
      FirstSource files none (front ++ path :: behind) (front ++ [path]) (some path)
  /-- Otherwise no file. -/
  | nothing (places : List String) (absent : ∀ p ∈ places, (files p).isPresent = false) :
      FirstSource files none places places none

/-- What becomes of the chosen file: settings, or the error that ends the run. -/
inductive Loaded (files : FileSystem) : Option String → Except Error Settings → Prop where
  | defaults : Loaded files none (.ok {})
  | missing {path : String} {fault : Fault} (entry : files path = .absent fault) :
      Loaded files (some path) (.error (.configuration ("Configuration file not found: " ++ path)))
  | unreadable {path : String} {fault : Fault} (entry : files path = .blocked fault) :
      Loaded files (some path) (.error (.io fault))
  | notUtf8 {path : String} {bytes : Bytes} (entry : files path = .file bytes)
      (noText : Text.utf8? bytes = none) : Loaded files (some path) (.error (.io .notUtf8))
  | refused {path : String} {bytes : Bytes} {text : String} {refusal : Settings.Refusal}
      (entry : files path = .file bytes) (hasText : Text.utf8? bytes = some text)
      (parsed : Settings.ofText text = .error refusal) :
      Loaded files (some path)
        (.error (.configuration ("Failed to parse configuration: " ++ refusal.message)))
  | settings {path : String} {bytes : Bytes} {text : String} {settings : Settings}
      (entry : files path = .file bytes) (hasText : Text.utf8? bytes = some text)
      (parsed : Settings.ofText text = .ok settings) : Loaded files (some path) (.ok settings)

/-! ## 2. The search follows it -/

variable {files other : FileSystem} {explicit : Option String} {places looked : List String}
  {file : Option String}

/-- With a home directory in the environment, that of the account is not asked for. -/
theorem places_eq_usualPlaces {env : Environment} {home : String}
    (hhome : env "HOME" = some home) (hset : home ≠ "") (account : Option String) :
    Settings.places env account = usualPlaces home (env "XDG_CONFIG_HOME") := by
  have hdirectory : homeDirectory? env account = some home := by
    unfold homeDirectory?
    rw [hhome]
    split
    · rename_i h
      exact absurd h (by simp)
    · rename_i h
      exact absurd (Option.some.inj h) hset
    · rename_i h
      exact h.symm
  have hsystem : settingsDirectory? env account =
      some (((env "XDG_CONFIG_HOME").filter (·.toList.head? = some '/')).getD
        (below home ".config")) := by
    unfold settingsDirectory?
    rw [hdirectory]
    cases env "XDG_CONFIG_HOME" with
    | none => rfl
    | some directory =>
      by_cases habsolute : directory.toList.head? = some '/' <;>
        simp [habsolute, Option.filter]
  rw [Settings.places, hdirectory, hsystem]
  rfl

theorem exists_firstSource (files : FileSystem) (explicit : Option String)
    (places : List String) : ∃ looked file, FirstSource files explicit places looked file := by
  cases explicit with
  | some path => exact ⟨[path], some path, .named path places⟩
  | none =>
    cases hfind : places.find? fun path => (files path).isPresent with
    | none =>
      refine ⟨places, none, .nothing places fun p hp => ?_⟩
      simpa using List.find?_eq_none.mp hfind p hp
    | some path =>
      obtain ⟨hpresent, front, behind, rfl, habsent⟩ := List.find?_eq_some_iff_append.mp hfind
      exact ⟨front ++ [path], some path,
        .first front path behind (by simpa using habsent) hpresent⟩

/-- **Only the paths that were looked at decide which file is chosen.** -/
theorem FirstSource.source?_eq (h : FirstSource files explicit places looked file)
    (hsame : ∀ path ∈ looked, other path = files path) :
    Settings.source? other explicit places = file := by
  cases h with
  | named path => rfl
  | first front path behind absent present =>
    have hpath : (other path).isPresent = true := by rw [hsame path (by simp), present]
    refine List.find?_eq_some_iff_append.mpr ⟨hpath, front, behind, rfl, fun p hp => ?_⟩
    rw [hsame p (List.mem_append_left _ hp), absent p hp]
    rfl
  | nothing places absent =>
    refine List.find?_eq_none.mpr fun p hp => ?_
    simp [hsame p hp, absent p hp]

theorem FirstSource.mem_looked {path : String}
    (h : FirstSource files explicit places looked (some path)) : path ∈ looked := by
  cases h with
  | named => exact List.mem_singleton_self path
  | first front => simp

/-! ## 3. The chosen file -/

/-- What the chosen file gives. -/
def outcome (files : FileSystem) : Option String → Except Error Settings
  | none => .ok {}
  | some path => Settings.load files path

theorem loaded_load (files : FileSystem) (path : String) :
    Loaded files (some path) (Settings.load files path) := by
  unfold Settings.load
  cases hentry : files path with
  | absent fault => exact .missing hentry
  | blocked fault => exact .unreadable hentry
  | file bytes =>
    simp only [Entry.isPresent, Entry.read, Bool.not_true, Bool.false_eq_true, if_false]
    cases htext : Text.utf8? bytes with
    | none => exact .notUtf8 hentry htext
    | some text =>
      cases hparsed : Settings.ofText text with
      | error refusal =>
        simp only [hparsed]
        exact .refused hentry htext hparsed
      | ok settings =>
        simp only [hparsed]
        exact .settings hentry htext hparsed

theorem loaded_outcome (files : FileSystem) : ∀ file, Loaded files file (outcome files file)
  | none => .defaults
  | some path => loaded_load files path

/-- A file comes to one end only. -/
theorem Loaded.eq_outcome {found : Except Error Settings} (h : Loaded files file found) :
    found = outcome files file := by
  cases h with
  | defaults => rfl
  | missing entry | unreadable entry => rw [outcome, Settings.load, entry]; rfl
  | notUtf8 entry noText =>
    rw [outcome, Settings.load, entry]
    simp only [Entry.isPresent, Entry.read, noText]
    rfl
  | refused entry hasText parsed | settings entry hasText parsed =>
    rw [outcome, Settings.load, entry]
    simp only [Entry.isPresent, Entry.read, hasText, parsed]
    rfl

/-- **Of a second file system that agrees on the paths looked at, the same is found.** -/
theorem FirstSource.find_eq (h : FirstSource files explicit places looked file)
    (hsame : ∀ path ∈ looked, other path = files path) :
    Settings.find other explicit places = (outcome files file).map (·, file) := by
  rw [Settings.find, h.source?_eq hsame]
  cases file with
  | none => rfl
  | some path =>
    have hload : Settings.load other path = Settings.load files path := by
      unfold Settings.load
      rw [hsame path h.mem_looked]
    simp only [hload]
    rfl

/-! ## 4. Two runs -/

/-- A host with the same variables for the places of settings, and with the same files where settings
were looked for.  Everything else may differ. -/
structure SameSources (looked : List String) (host other : Host) : Prop where
  home : other.environment "HOME" = host.environment "HOME"
  settingsHome : other.environment "XDG_CONFIG_HOME" = host.environment "XDG_CONFIG_HOME"
  named : other.environment "MONKEY_CONFIG" = host.environment "MONKEY_CONFIG"
  files : ∀ path ∈ looked, other.files path = host.files path

/-- **Settings come from the first source that speaks, and from nothing else.**  A valid command line
looks for one file and takes what it gives.  In every host with the same variables and the same files
where it looked, the run comes to the same: if the file cannot be used, to its error and nothing else,
and otherwise to what the options and these settings together write. -/
theorem settings_of_first_source {host : Host} {words : List String} {request : Request}
    {home : String} (hread : Request.read host.environment words = .ok request)
    (hhome : host.environment "HOME" = some home) (hset : home ≠ "") :
    ∃ line looked file found,
      CommandLine.read words = .ok line ∧
      FirstSource host.files (line.config.or (host.environment "MONKEY_CONFIG"))
        (usualPlaces home (host.environment "XDG_CONFIG_HOME")) looked file ∧
      Loaded host.files file found ∧
      ∀ (other : Host) (time : String), SameSources looked host other →
        (∃ r, Request.read other.environment words = .ok r) →
        (∀ e, found = .error e → run other time words = ⟨1, [], [e.line]⟩) ∧
        ∀ settings, found = .ok settings →
          (run other time words).output = line.output (line.effective settings) other := by
  obtain ⟨line, hline, -, -⟩ := Request.exists_commandLine hread
  obtain ⟨looked, file, hfirst⟩ := exists_firstSource host.files
    (line.config.or (host.environment "MONKEY_CONFIG"))
    (usualPlaces home (host.environment "XDG_CONFIG_HOME"))
  refine ⟨line, looked, file, outcome host.files file, hline, hfirst,
    loaded_outcome host.files file, ?_⟩
  rintro other time hsame ⟨r, hr⟩
  obtain ⟨line', hline', hconfig, haction⟩ := Request.exists_commandLine hr
  obtain rfl : line' = line := Except.ok.inj (hline'.symm.trans hline)
  -- the other host looks at the same places, for the same file
  have hplaces : Settings.places other.environment other.account =
      usualPlaces home (host.environment "XDG_CONFIG_HOME") := by
    rw [places_eq_usualPlaces (hsame.home.trans hhome) hset, hsame.settingsHome]
  have hfind : Settings.find other.files r.config
      (Settings.places other.environment other.account) =
        (outcome host.files file).map (·, file) := by
    rw [hplaces, hconfig, hsame.named]
    exact hfirst.find_eq hsame.files
  constructor
  · intro e he
    rw [he] at hfind
    exact run_of_refused hr hfind time
  · intro settings hsettings
    rw [hsettings] at hfind
    exact (run_of_found hr haction hfind time).1

/-- A directory stands at the second place: the run fails, although there are good settings at the
third, and the session does not begin.  Where the file in the working directory speaks, it is taken,
and the prompt of the command line goes before its prompt. -/
theorem settings_of_first_source_directory :
    let environment : Environment := fun name =>
      [("HOME", "/h"), ("XDG_CONFIG_HOME", "/x")].lookup name
    let third : Entry := .file (Text.utf8String "repl.prompt = \"x\"")
    let blocked : FileSystem := fun path =>
      if path = "/h/.config/monkey/monkey.toml" then .blocked (.system .isADirectory)
      else if path = "/x/monkey/monkey.toml" then third
      else .absent (.system .notFound)
    let speaking : FileSystem := fun path =>
      if path = "monkey.toml" then
        .file (Text.utf8String "repl = \x7bprompt = \"? \", greeting = false\x7d")
      else blocked path
    let failing : Host := ⟨environment, none, blocked, ⟨[97], .endOfInput⟩⟩
    let working : Host := ⟨environment, none, speaking, ⟨[97], .endOfInput⟩⟩
    let words := ["repl", "--prompt", "$ "]
    let request : Request := ⟨false, false, none, .session (some "$ ") false none⟩
    Request.read environment words = .ok request ∧ environment "HOME" = some "/h" ∧ "/h" ≠ "" ∧
      ∀ time,
        run failing time words = ⟨1, [], [Error.line (.io (.system .isADirectory))]⟩ ∧
        (run working time words).output =
          Text.utf8String "$ \x7bType:IDENT Literal:a\x7d\n$ \n" := by
  intro environment third blocked speaking failing working words request
  let line : CommandLine := ⟨.repl, { prompt := some "$ " }, some {}⟩
  have hread : Request.read environment words = .ok request := by decide +kernel
  have hhome : environment "HOME" = some "/h" := by decide +kernel
  have hset : "/h" ≠ "" := by decide
  have hline : CommandLine.read words = .ok line := by decide +kernel
  -- what the search comes to in the two hosts
  have hfailing : outcome failing.files (Settings.source? failing.files
      (line.config.or (failing.environment "MONKEY_CONFIG"))
      (usualPlaces "/h" (failing.environment "XDG_CONFIG_HOME"))) =
        .error (.io (.system .isADirectory)) := by decide +kernel
  have hworking : outcome working.files (Settings.source? working.files
      (line.config.or (working.environment "MONKEY_CONFIG"))
      (usualPlaces "/h" (working.environment "XDG_CONFIG_HOME"))) =
        .ok { prompt := "? ", greeting := false } := by decide +kernel
  refine ⟨hread, hhome, hset, fun time => ⟨?_, ?_⟩⟩
  · obtain ⟨line', looked, file, found, hline', hfirst, hloaded, hrun⟩ :=
      settings_of_first_source (show Request.read failing.environment words = _ from hread)
        hhome hset
    obtain rfl : line' = line := Except.ok.inj (hline'.symm.trans hline)
    rw [hfirst.source?_eq fun _ _ => rfl, ← hloaded.eq_outcome] at hfailing
    exact (hrun failing time ⟨rfl, rfl, rfl, fun _ _ => rfl⟩ ⟨request, hread⟩).1 _ hfailing
  · obtain ⟨line', looked, file, found, hline', hfirst, hloaded, hrun⟩ :=
      settings_of_first_source (show Request.read working.environment words = _ from hread)
        hhome hset
    obtain rfl : line' = line := Except.ok.inj (hline'.symm.trans hline)
    rw [hfirst.source?_eq fun _ _ => rfl, ← hloaded.eq_outcome] at hworking
    have houtput : line.output (line.effective { prompt := "? ", greeting := false }) working =
        Text.utf8String "$ \x7bType:IDENT Literal:a\x7d\n$ \n" := by decide +kernel
    exact ((hrun working time ⟨rfl, rfl, rfl, fun _ _ => rfl⟩ ⟨request, hread⟩).2 _
      hworking).trans houtput

end MonkeyTokens
