/-
# Settings are read one by one

A document has at most three values that matter: the prompt and the greeting in the section `repl`,
the format in the section `output` (`Settings.known`).  Where both sections are tables
(`Settings.HasTables`), each of the three is looked up, judged and replaced by its default without
regard to the other two.  `Settings.Gives` says what a document gives, setting by setting, and a
document is read exactly if each value that is given can be understood (`settings_read_one_by_one`).

All other keys are inert.  That is said twice.  Two documents with the same three values come to the
same, whatever else they hold, also if a section is missing in one and empty in the other
(`Settings.ofTable_congr`).  And a document may be edited: other entries may be added, removed or
changed, and entries may change places, at the top and inside the sections.  One edit keeps the
three values (`Settings.given_of_edit`), so any number of them does.
-/
import Mathlib.Logic.Relation
import MonkeyTokens.Settings

namespace MonkeyTokens

/-! ## 1. Edits of a table -/

namespace Toml.Table

/-- One edit of a table that does not touch the values of some names. -/
inductive Edit (names : List String) : Table → Table → Prop where
  | add (front back : Table) {name : String} (v : Value) (other : name ∉ names) :
      Edit names (front ++ back) (front ++ (name, v) :: back)
  | remove (front back : Table) {name : String} (v : Value) (other : name ∉ names) :
      Edit names (front ++ (name, v) :: back) (front ++ back)
  | change (front back : Table) {name : String} (v w : Value) (other : name ∉ names) :
      Edit names (front ++ (name, v) :: back) (front ++ (name, w) :: back)
  /-- Two neighbours change places.  In a table no name stands twice, so this is any reordering. -/
  | swap (front back : Table) {a b : String × Value} (distinct : a.1 ≠ b.1) :
      Edit names (front ++ a :: b :: back) (front ++ b :: a :: back)

variable {names : List String} {name : String} {t u : Table}

theorem get?_append (front back : Table) (name : String) :
    get? (front ++ back) name = (get? front name).or (get? back name) :=
  List.lookup_append

theorem get?_cons (a : String × Value) (t : Table) (name : String) :
    get? (a :: t) name = if a.1 = name then some a.2 else get? t name := by
  rw [get?, List.lookup_cons]
  by_cases h : a.1 = name
  · rw [if_pos h, beq_iff_eq.mpr h.symm]
  · rw [if_neg h, beq_eq_false_iff_ne.mpr (Ne.symm h)]
    rfl

/-- **An edit does not touch the values of the names.** -/
theorem Edit.get?_eq (h : Edit names t u) (hname : name ∈ names) : u.get? name = t.get? name := by
  have hother : ∀ {other : String}, other ∉ names → other ≠ name := by
    rintro other hother rfl
    exact hother hname
  cases h with
  | add front back v other | remove front back v other =>
    rw [get?_append, get?_append, get?_cons, if_neg (hother other)]
  | change front back v w other =>
    have hne := hother other
    rw [get?_append, get?_append, get?_cons, get?_cons, if_neg hne, if_neg hne]
  | @swap front back a b distinct =>
    rw [get?_append, get?_append, get?_cons, get?_cons, get?_cons, get?_cons]
    -- only one of the two can be the entry of the name
    by_cases ha : a.1 = name
    · rw [if_pos ha, if_pos ha, if_neg fun hb => distinct (ha.trans hb.symm)]
    · rw [if_neg ha, if_neg ha]

end Toml.Table

theorem Format.ofName?_eq_some_iff {s : String} {f : Format} : ofName? s = some f ↔ s = f.name := by
  constructor
  · intro h
    have hname : f.name = s := by simpa using List.find?_some h
    exact hname.symm
  · rintro rfl
    exact ofName?_name f

namespace Settings

open Toml

/-! ## 2. What a document gives -/

/-- The names that are looked up in a section. -/
def known : String → List String
  | "repl" => ["prompt", "greeting"]
  | "output" => ["format"]
  | _ => []

/-- The names that are looked up at the top. -/
def sections : List String := ["repl", "output"]

/-- The sections of a document are tables, where they are present. -/
def HasTables (document : Table) : Prop :=
  ∀ name ∈ sections, ∀ v, document.get? name = some v → ∃ entries, v = .table entries

/-- The value of a key in a section that is a table. -/
def given (document : Table) (name key : String) : Option Value :=
  match document.get? name with
  | some (.table entries) => Table.get? entries key
  | _ => none

/-- A value that names a format: its name, or a table with just an empty entry of that name. -/
inductive NamesFormat : Value → Format → Prop where
  | name (f : Format) : NamesFormat (.string f.name) f
  | emptyTable (f : Format) : NamesFormat (.table [(f.name, .table [])]) f
  | emptyArray (f : Format) : NamesFormat (.table [(f.name, .array [])]) f

/-- What becomes of a setting: the meaning of its value if one is given, and else its default. -/
inductive Chosen {α : Type} (means : Value → α → Prop) (fallback : α) :
    Option Value → α → Prop where
  | fallback : Chosen means fallback none fallback
  | given {v : Value} {a : α} (h : means v a) : Chosen means fallback (some v) a

/-- **What a document gives**, each setting by itself. -/
structure Gives (document : Table) (s : Settings) : Prop where
  prompt : Chosen (fun v a => v = .string a) ">> " (given document "repl" "prompt") s.prompt
  greeting : Chosen (fun v a => v = .boolean a) true (given document "repl" "greeting") s.greeting
  format : Chosen NamesFormat .text (given document "output" "format") s.format

/-! ## 3. Single settings -/

theorem stringOf?_eq_some_iff {v : Value} {s : String} : stringOf? v = some s ↔ v = .string s := by
  cases v <;> simp [stringOf?]

theorem booleanOf?_eq_some_iff {v : Value} {b : Bool} : booleanOf? v = some b ↔ v = .boolean b := by
  cases v <;> simp [booleanOf?]

theorem formatOf?_eq_some_iff {v : Value} {f : Format} :
    formatOf? v = some f ↔ NamesFormat v f := by
  constructor
  · intro h
    unfold formatOf? at h
    split at h
    · rw [Format.ofName?_eq_some_iff.mp h]
      exact .name f
    · rename_i name content
      split at h
      · rename_i hempty
        rw [Format.ofName?_eq_some_iff.mp h]
        cases content with
        | table entries =>
          obtain rfl := List.isEmpty_iff.mp hempty
          exact .emptyTable f
        | array items =>
          obtain rfl := List.isEmpty_iff.mp hempty
          exact .emptyArray f
        | _ => exact absurd hempty (by simp [isEmptyCollection])
      · exact absurd h (by simp)
    · exact absurd h (by simp)
  · rintro (⟨⟩ | ⟨⟩ | ⟨⟩) <;> exact Format.ofName?_name f

/-- **A setting is what is given, or its default.** -/
theorem setting_eq_some_iff {α : Type} {read : Value → Option α} {means : Value → α → Prop}
    (hread : ∀ v a, read v = some a ↔ means v a) {value : Option Value} {fallback a : α} :
    setting value read fallback = some a ↔ Chosen means fallback value a := by
  cases value with
  | none =>
    constructor
    · rintro ⟨⟩
      exact .fallback
    · rintro ⟨⟩
      rfl
  | some v =>
    refine (hread v a).trans ⟨.given, ?_⟩
    rintro ⟨⟩
    assumption

/-- It fails only where something is given that has no meaning. -/
theorem exists_chosen_iff {α : Type} {means : Value → α → Prop} {value : Option Value}
    (fallback : α) :
    (∃ a, Chosen means fallback value a) ↔ ∀ v, value = some v → ∃ a, means v a := by
  cases value with
  | none =>
    refine ⟨fun _ v hv => absurd hv (by simp), fun _ => ⟨fallback, .fallback⟩⟩
  | some v =>
    constructor
    · rintro ⟨a, h⟩ w hw
      obtain rfl := Option.some.inj hw
      cases h with
      | given h => exact ⟨a, h⟩
    · intro h
      obtain ⟨a, ha⟩ := h v rfl
      exact ⟨a, .given ha⟩

/-! ## 4. Documents -/

variable {document other : Table}

theorem section?_eq (h : HasTables document) {name : String} (hname : name ∈ sections) :
    Settings.section? name document = some fun key _ => given document name key := by
  unfold section?
  cases hv : document.get? name with
  | none => simp [given, hv]
  | some v =>
    obtain ⟨entries, rfl⟩ := h name hname v hv
    simp [given, hv, Section.ofValue?]

/-- The settings that three values come to. -/
def ofGiven (prompt greeting format : Option Value) : Except Refusal Settings := do
  let prompt ← (setting prompt stringOf? ">> ").elim (.error (.value "repl.prompt")) .ok
  let greeting ← (setting greeting booleanOf? true).elim (.error (.value "repl.greeting")) .ok
  let format ← (setting format formatOf? .text).elim (.error (.value "output.format")) .ok
  return { prompt, greeting, format }

/-- **Only three values of a document count.** -/
theorem ofTable_eq_ofGiven (h : HasTables document) :
    ofTable document = ofGiven (given document "repl" "prompt") (given document "repl" "greeting")
      (given document "output" "format") := by
  have hrepl := section?_eq h (show "repl" ∈ sections by decide)
  have houtput := section?_eq h (show "output" ∈ sections by decide)
  simp only [ofTable, hrepl, houtput]
  rfl

theorem ofGiven_eq_ok_iff {prompt greeting format : Option Value} {s : Settings} :
    ofGiven prompt greeting format = .ok s ↔
      setting prompt stringOf? ">> " = some s.prompt ∧
      setting greeting booleanOf? true = some s.greeting ∧
      setting format formatOf? .text = some s.format := by
  unfold ofGiven
  cases setting prompt stringOf? ">> " with
  | none => simp [bind, Except.bind]
  | some a =>
    cases setting greeting booleanOf? true with
    | none => simp [bind, Except.bind]
    | some b =>
      cases setting format formatOf? .text with
      | none => simp [bind, Except.bind]
      | some f =>
        cases s
        simp [bind, Except.bind, pure, Except.pure]

/-- **A document is read as what it gives.** -/
theorem ofTable_eq_ok_iff (h : HasTables document) {s : Settings} :
    ofTable document = .ok s ↔ Gives document s := by
  rw [ofTable_eq_ofGiven h, ofGiven_eq_ok_iff,
    setting_eq_some_iff fun _ _ => stringOf?_eq_some_iff,
    setting_eq_some_iff fun _ _ => booleanOf?_eq_some_iff,
    setting_eq_some_iff fun _ _ => formatOf?_eq_some_iff]
  constructor
  · rintro ⟨hprompt, hgreeting, hformat⟩
    exact ⟨hprompt, hgreeting, hformat⟩
  · rintro ⟨hprompt, hgreeting, hformat⟩
    exact ⟨hprompt, hgreeting, hformat⟩

/-- It gives settings exactly if each value that is there has a meaning. -/
theorem exists_gives_iff : (∃ s, Gives document s) ↔
    (∀ v, given document "repl" "prompt" = some v → ∃ a, v = .string a) ∧
    (∀ v, given document "repl" "greeting" = some v → ∃ a, v = .boolean a) ∧
    ∀ v, given document "output" "format" = some v → ∃ f, NamesFormat v f := by
  rw [← exists_chosen_iff ">> ", ← exists_chosen_iff true, ← exists_chosen_iff Format.text]
  constructor
  · rintro ⟨s, hprompt, hgreeting, hformat⟩
    exact ⟨⟨_, hprompt⟩, ⟨_, hgreeting⟩, ⟨_, hformat⟩⟩
  · rintro ⟨⟨prompt, hprompt⟩, ⟨greeting, hgreeting⟩, ⟨format, hformat⟩⟩
    exact ⟨⟨prompt, greeting, format⟩, hprompt, hgreeting, hformat⟩

/-! ## 5. Other keys -/

/-- The three values of two documents are the same. -/
def SameGiven (document other : Table) : Prop :=
  ∀ name, ∀ key ∈ known name, given other name key = given document name key

/-- **Documents that give the same come to the same**, also to the same refusal. -/
theorem ofTable_congr (h : HasTables document) (hother : HasTables other)
    (hsame : SameGiven document other) : ofTable other = ofTable document := by
  rw [ofTable_eq_ofGiven h, ofTable_eq_ofGiven hother, hsame "repl" "prompt" (by decide),
    hsame "repl" "greeting" (by decide), hsame "output" "format" (by decide)]

/-- One edit of a document that touches no setting, at the top or inside a table. -/
inductive Edit : Table → Table → Prop where
  | top {t u : Table} (edit : t.Edit sections u) : Edit t u
  | inside (front back : Table) (name : String) {t u : Table} (edit : t.Edit (known name) u) :
      Edit (front ++ (name, .table t) :: back) (front ++ (name, .table u) :: back)

theorem mem_sections_of_mem_known {name key : String} (h : key ∈ known name) : name ∈ sections := by
  unfold known at h
  split at h
  · decide
  · decide
  · exact absurd h (by simp)

/-- **What an edit can do to a section**: nothing, or an edit of its other keys. -/
theorem Edit.get?_cases {t u : Table} (h : Edit t u) {name : String} (hname : name ∈ sections) :
    u.get? name = t.get? name ∨
      ∃ entries entries', t.get? name = some (.table entries) ∧
        u.get? name = some (.table entries') ∧
        ∀ key ∈ known name, Table.get? entries' key = Table.get? entries key := by
  cases h with
  | top edit => exact .inl (edit.get?_eq hname)
  | inside front back edited edit =>
    rw [Table.get?_append, Table.get?_append, Table.get?_cons, Table.get?_cons]
    by_cases hedited : edited = name
    · subst hedited
      rw [if_pos rfl, if_pos rfl]
      cases Table.get? front edited with
      | some v => exact .inl rfl
      | none => exact .inr ⟨_, _, rfl, rfl, fun key hkey => edit.get?_eq hkey⟩
    · rw [if_neg hedited, if_neg hedited]
      exact .inl rfl

theorem Edit.hasTables {t u : Table} (h : Edit t u) (ht : HasTables t) : HasTables u := by
  intro name hname v hv
  rcases h.get?_cases hname with hsame | ⟨_, entries', -, hu, -⟩
  · exact ht name hname v (hsame ▸ hv)
  · rw [hu] at hv
    exact ⟨entries', (Option.some.inj hv).symm⟩

/-- **An edit keeps what is given.** -/
theorem given_of_edit {t u : Table} (h : Edit t u) : SameGiven t u := by
  intro name key hkey
  unfold given
  rcases h.get?_cases (mem_sections_of_mem_known hkey) with hsame | ⟨_, _, ht, hu, hkeys⟩
  · rw [hsame]
  · rw [ht, hu]
    exact hkeys key hkey

/-- So do any edits, and the sections stay tables. -/
theorem given_of_edits (h : HasTables document)
    (hedits : Relation.ReflTransGen Edit document other) :
    HasTables other ∧ SameGiven document other := by
  induction hedits with
  | refl => exact ⟨h, fun _ _ _ => rfl⟩
  | tail _ hedit ih =>
    refine ⟨hedit.hasTables ih.1, fun name key hkey => ?_⟩
    rw [given_of_edit hedit name key hkey, ih.2 name key hkey]

end Settings

/-! ## 6. Files -/

/-- A file that is read as a document. -/
def Settings.ReadsAs (files : FileSystem) (path : String) (document : Toml.Table) : Prop :=
  ∃ bytes text, files path = .file bytes ∧ Text.utf8? bytes = some text ∧
    Toml.parse text = .ok document

/-- What a file gives is what its document gives. -/
theorem Settings.load_of_readsAs {files : FileSystem} {path : String} {document : Toml.Table}
    (h : ReadsAs files path document) :
    load files path = (ofTable document).mapError fun refusal =>
      .configuration ("Failed to parse configuration: " ++ refusal.message) := by
  obtain ⟨bytes, text, hfile, htext, hparse⟩ := h
  have hof : ofText text = ofTable document := by rw [ofText, hparse]
  rw [load, hfile]
  simp only [Entry.isPresent, Entry.read, htext, hof]
  cases ofTable document <;> rfl

/-- **Each setting is read by itself, and nothing else is read.** Let the sections of a document be
tables where they are present.  There are settings exactly if the prompt is a string, the greeting a
truth value and the format a format, each where it is given.  Then each setting is what its value
says, and its default where there is none, whatever the other two are.  A document that gives the
same three values comes to the same, and so does one that edits of other keys lead to, be it
settings or a refusal.  A file comes to what its document comes to. -/
theorem settings_read_one_by_one (document : Toml.Table) (h : Settings.HasTables document) :
    ((∃ s, Settings.ofTable document = .ok s) ↔
      (∀ v, Settings.given document "repl" "prompt" = some v → ∃ a, v = .string a) ∧
      (∀ v, Settings.given document "repl" "greeting" = some v → ∃ a, v = .boolean a) ∧
      ∀ v, Settings.given document "output" "format" = some v → ∃ f, Settings.NamesFormat v f) ∧
    (∀ s, Settings.ofTable document = .ok s ↔ Settings.Gives document s) ∧
    (∀ other, Settings.HasTables other → Settings.SameGiven document other →
      Settings.ofTable other = Settings.ofTable document) ∧
    (∀ other, Relation.ReflTransGen Settings.Edit document other →
      Settings.ofTable other = Settings.ofTable document) ∧
    ∀ files path, Settings.ReadsAs files path document →
      Settings.load files path = (Settings.ofTable document).mapError fun refusal =>
        .configuration ("Failed to parse configuration: " ++ refusal.message) := by
  refine ⟨?_, fun s => Settings.ofTable_eq_ok_iff h, fun other => Settings.ofTable_congr h, ?_,
    fun files path => Settings.load_of_readsAs⟩
  · rw [← Settings.exists_gives_iff]
    exact exists_congr fun s => Settings.ofTable_eq_ok_iff h
  · intro other hedits
    obtain ⟨hother, hsame⟩ := Settings.given_of_edits h hedits
    exact Settings.ofTable_congr h hother hsame

/-- A format in the wrong section is another key, which need not be a format.  Without it, without
the key at the top and with a new one in the section, the settings are the same. -/
theorem settings_read_one_by_one_prompt :
    let text := "x=1\nrepl.prompt='? '\nrepl.format=2\n"
    let files : FileSystem := fun _ => .file (Text.utf8String text)
    let entries : Toml.Table := [("prompt", .string "? "), ("format", .integer 2)]
    let document : Toml.Table := [("x", .integer 1), ("repl", .table entries)]
    let other : Toml.Table :=
      [("repl", .table [("y", .array [.table []]), ("prompt", .string "? ")])]
    Settings.HasTables document ∧ Relation.ReflTransGen Settings.Edit document other ∧
      Settings.ReadsAs files "monkey.toml" document ∧
      Settings.ofTable document = .ok { prompt := "? " } ∧
      Settings.ofTable other = Settings.ofTable document ∧
      Settings.load files "monkey.toml" = .ok { prompt := "? " } := by
  intro text files entries document other
  have htables : Settings.HasTables document := by
    intro name hname v hv
    simp only [Settings.sections, List.mem_cons, List.not_mem_nil, or_false] at hname
    rcases hname with rfl | rfl
    · exact ⟨entries, (Option.some.inj hv).symm⟩
    · have hnone : document.get? "output" = none := rfl
      exact absurd (hnone.symm.trans hv) (by simp)
  have htop : Settings.Edit document [("repl", .table entries)] :=
    .top (.remove [] _ (.integer 1) (by decide))
  have hformat : Settings.Edit [("repl", .table entries)]
      [("repl", .table [("prompt", .string "? ")])] :=
    .inside [] [] "repl" (.remove [_] [] (.integer 2) (by decide))
  have hnew : Settings.Edit [("repl", .table [("prompt", .string "? ")])] other :=
    .inside [] [] "repl" (.add [] [_] (.array [.table []]) (by decide))
  have hedits : Relation.ReflTransGen Settings.Edit document other :=
    ((Relation.ReflTransGen.single htop).tail hformat).tail hnew
  have hparse : Toml.parse text = .ok document := by
    have hlist : text.toList =
        ['x', '=', '1', '\n',
          'r', 'e', 'p', 'l', '.', 'p', 'r', 'o', 'm', 'p', 't', '=', '\'', '?', ' ', '\'', '\n',
          'r', 'e', 'p', 'l', '.', 'f', 'o', 'r', 'm', 'a', 't', '=', '2', '\n'] := by
      decide +kernel
    rw [Toml.parse, hlist]
    rfl
  have hreads : Settings.ReadsAs files "monkey.toml" document :=
    ⟨_, text, rfl, by decide +kernel, hparse⟩
  have hsettings : Settings.ofTable document = .ok { prompt := "? " } := rfl
  obtain ⟨-, -, -, hother, hload⟩ := settings_read_one_by_one document htables
  refine ⟨htables, hedits, hreads, hsettings, hother other hedits, ?_⟩
  rw [hload files "monkey.toml" hreads, hsettings]
  rfl

end MonkeyTokens
