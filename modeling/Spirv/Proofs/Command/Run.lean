/-
  What a command line leaves behind.

  A configuration gives settings (`Configures`) or is at fault with a message
  (`Misconfigures`).  The outcome of a dump is the failure of its first stage that fails, of
  the configuration, the file and what the file holds, or else the text (`DumpOutcome`).

  Main statement: `execute_dump`.
-/
import Spirv.Command.Run
import Spirv.Proofs.Command.Arguments

namespace Spirv.Command

/-! ## Configurations -/

/-- The settings of the configuration file, or the defaults if there is none. -/
inductive Configures (files : Files) : Option String → Settings → Prop where
  | absent : Configures files none ⟨.little, true⟩
  | read {path : String} {bytes : ByteArray} {text : String} {settings : Settings}
      (hfile : files path = .ok bytes) (htext : String.fromUTF8? bytes = some text)
      (hsettings : Settings.ofText text = .ok settings) :
      Configures files (some path) settings

/-- The configuration file cannot be read, or not as text, or not as settings, and why.  The
    reader's own words on a text that is no document are left out (`SettingsError.message`). -/
inductive Misconfigures (files : Files) : Option String → String → Prop where
  | unreadable {path cause : String} (hfile : files path = .error cause) :
      Misconfigures files (some path) ("cannot read " ++ path ++ ": " ++ cause)
  | notText {path : String} {bytes : ByteArray} (hfile : files path = .ok bytes)
      (htext : String.fromUTF8? bytes = none) :
      Misconfigures files (some path)
        ("cannot read " ++ path ++ ": " ++ "stream did not contain valid UTF-8")
  | refused {path : String} {bytes : ByteArray} {text : String} {e : Error}
      (hfile : files path = .ok bytes) (htext : String.fromUTF8? bytes = some text)
      (hsettings : Settings.ofText text = .error e) :
      Misconfigures files (some path) e.display

variable {files : Files} {config : Option String}

theorem loadSettings_of_configures {settings : Settings} (h : Configures files config settings) :
    loadSettings files config = .ok settings := by
  cases h with
  | absent => rfl
  | read hfile htext hsettings =>
    simp [loadSettings, readText, readFile, hfile, htext, hsettings, bind, Except.bind]

theorem loadSettings_of_misconfigures {message : String}
    (h : Misconfigures files config message) :
    ∃ e : CommandError, loadSettings files config = .error e ∧ e.message = message := by
  cases h with
  | @unreadable path cause hfile =>
    refine ⟨.unreadable path cause, ?_, rfl⟩
    simp [loadSettings, readText, readFile, hfile, bind, Except.bind]
  | @notText path bytes hfile htext =>
    refine ⟨.unreadable path "stream did not contain valid UTF-8", ?_, rfl⟩
    simp [loadSettings, readText, readFile, hfile, htext, bind, Except.bind]
  | @refused path bytes text e hfile htext hsettings =>
    refine ⟨.decoding e, ?_, rfl⟩
    simp [loadSettings, readText, readFile, hfile, htext, hsettings, bind, Except.bind]

/-- Every configuration gives settings or is at fault. -/
theorem configures_or_misconfigures (files : Files) (config : Option String) :
    (∃ settings, Configures files config settings) ∨
      ∃ message, Misconfigures files config message := by
  rcases config with - | path
  · exact .inl ⟨_, .absent⟩
  · cases hfile : files path with
    | error cause => exact .inr ⟨_, .unreadable hfile⟩
    | ok bytes =>
      cases htext : String.fromUTF8? bytes with
      | none => exact .inr ⟨_, .notText hfile htext⟩
      | some text =>
        cases hsettings : Settings.ofText text with
        | error e => exact .inr ⟨_, .refused hfile htext hsettings⟩
        | ok settings => exact .inl ⟨_, .read hfile htext hsettings⟩

/-! ## Outcomes -/

/-- The outcome of a command that fails with the message. -/
def failure (message : String) : Outcome :=
  ⟨1, "", "Error: " ++ message ++ "\n"⟩

/-- The settings of a dump: an order that is given takes the place of the configured one, and
    `--no-header` takes away a header that is configured. -/
def Selection.effective (s : Selection) (settings : Settings) : Settings :=
  ⟨s.order.getD settings.byteOrder, settings.moduleHeader && !s.noHeader⟩

/-- The outcome of a dump of the file with the selected options. -/
inductive DumpOutcome (files : Files) (file : String) (s : Selection) : Outcome → Prop where
  | misconfigured {message : String} (hconfig : Misconfigures files s.config message) :
      DumpOutcome files file s (failure message)
  | unreadable {settings : Settings} {cause : String}
      (hconfig : Configures files s.config settings) (hfile : files file = .error cause) :
      DumpOutcome files file s (failure ("cannot read " ++ file ++ ": " ++ cause))
  | refused {settings : Settings} {bytes : ByteArray} {e : Error}
      (hconfig : Configures files s.config settings) (hfile : files file = .ok bytes)
      (hdump : dumpText bytes.data.toList (s.effective settings) s.json = .error e) :
      DumpOutcome files file s (failure e.display)
  | printed {settings : Settings} {bytes : ByteArray} {text : String}
      (hconfig : Configures files s.config settings) (hfile : files file = .ok bytes)
      (hdump : dumpText bytes.data.toList (s.effective settings) s.json = .ok text) :
      DumpOutcome files file s ⟨0, text, ""⟩

variable {args : List String} {inv : Invocation}

theorem execute_of_ok {text : String} (hargs : parseArguments args = .ok inv)
    (h : run files inv = .ok text) : execute files args = ⟨0, text, ""⟩ := by
  simp only [execute, hargs, h]

theorem execute_of_error {e : CommandError} {message : String}
    (hargs : parseArguments args = .ok inv) (h : run files inv = .error e)
    (hmessage : e.message = message) : execute files args = failure message := by
  simp only [execute, hargs, h, failure, hmessage]

/-- A configuration at fault is all that is told, whatever the task. -/
theorem execute_of_misconfigures {message : String} (hargs : parseArguments args = .ok inv)
    (h : Misconfigures files inv.settingsFile message) :
    execute files args = failure message := by
  obtain ⟨e, hload, hmessage⟩ := loadSettings_of_misconfigures h
  have hrun : run files inv = .error e := by
    rw [run, hload]
    rfl
  exact execute_of_error hargs hrun hmessage

/-- A dump under a configuration that gives settings. -/
theorem run_dump {file : String} {s : Selection} {settings : Settings}
    (h : Configures files s.config settings) :
    run files ⟨s.config, .dump file s.order s.noHeader s.json⟩ =
      (do
        let bytes ← readFile files file
        match dumpText bytes.data.toList (s.effective settings) s.json with
        | .ok text => .ok text
        | .error e => .error (.decoding e)) := by
  rw [run, loadSettings_of_configures h]
  rfl

theorem execute_of_dumpOutcome {file : String} {s : Selection} {outcome : Outcome}
    (hargs : parseArguments args = .ok ⟨s.config, .dump file s.order s.noHeader s.json⟩)
    (h : DumpOutcome files file s outcome) : execute files args = outcome := by
  cases h with
  | misconfigured hconfig => exact execute_of_misconfigures hargs hconfig
  | @unreadable settings cause hconfig hfile =>
    have hrun : run files ⟨s.config, .dump file s.order s.noHeader s.json⟩ =
        .error (.unreadable file cause) := by
      rw [run_dump hconfig, readFile, hfile]
      rfl
    exact execute_of_error hargs hrun rfl
  | @refused settings bytes e hconfig hfile hdump =>
    have hrun : run files ⟨s.config, .dump file s.order s.noHeader s.json⟩ =
        .error (.decoding e) := by
      rw [run_dump hconfig, readFile, hfile]
      simp only [bind, Except.bind, hdump]
    exact execute_of_error hargs hrun rfl
  | @printed settings bytes text hconfig hfile hdump =>
    have hrun : run files ⟨s.config, .dump file s.order s.noHeader s.json⟩ = .ok text := by
      rw [run_dump hconfig, readFile, hfile]
      simp only [bind, Except.bind, hdump]
    exact execute_of_ok hargs hrun

/-- One stage fails or the text is printed. -/
theorem exists_dumpOutcome (files : Files) (file : String) (s : Selection) :
    ∃ outcome, DumpOutcome files file s outcome := by
  obtain ⟨settings, hconfig⟩ | ⟨message, hconfig⟩ := configures_or_misconfigures files s.config
  · cases hfile : files file with
    | error cause => exact ⟨_, .unreadable hconfig hfile⟩
    | ok bytes =>
      cases hdump : dumpText bytes.data.toList (s.effective settings) s.json with
      | error e => exact ⟨_, .refused hconfig hfile hdump⟩
      | ok text => exact ⟨_, .printed hconfig hfile hdump⟩
  · exact ⟨_, .misconfigured hconfig⟩

/-- **Command lines of a dump.**  For a file and a selection of options, every command line
    that gives them has the same outcome: where the options stand and how their values are
    joined makes no difference.  It is the fault of the configuration if there is one; or
    else that of the file, if it cannot be read; or else what a dump of its bytes gives, in
    the order that is selected or otherwise configured, with a header if it is configured and
    not switched off.  The fault of a configuration is also the outcome of any other task. -/
theorem execute_dump (files : Files) {file : String} {s : Selection} {args : List String}
    (hfile : IsFileName file) (hconfig : ∀ path ∈ s.config, IsFileName path)
    (hline : CommandLine .dump (.operand file :: s.options) args) :
    (∀ outcome, execute files args = outcome ↔ DumpOutcome files file s outcome) ∧
    (∀ args', CommandLine .dump (.operand file :: s.options) args' →
      execute files args' = execute files args) ∧
    ∀ task query message args', task ≠ .dump → IsPlain query →
      CommandLine task (.operand query :: s.config.toList.map .config) args' →
      Misconfigures files s.config message → execute files args' = failure message := by
  have hoptions := parseArguments_dump hfile hconfig hline
  obtain ⟨outcome, houtcome⟩ := exists_dumpOutcome files file s
  have hexecute := execute_of_dumpOutcome hoptions houtcome
  refine ⟨?_, ?_, ?_⟩
  · intro other
    constructor
    · rintro rfl
      rw [hexecute]
      exact houtcome
    · exact execute_of_dumpOutcome hoptions
  · intro args' hline'
    rw [hexecute]
    exact execute_of_dumpOutcome (parseArguments_dump hfile hconfig hline') houtcome
  · intro task query message args' htask hquery hline' hfault
    exact execute_of_misconfigures (parseArguments_query htask hquery hconfig hline') hfault

/-- A file of four bytes that is one instruction in the configured order and without a header:
    options on either side of the word of the task; the other order asked for in place of the
    configured one; and a configuration that cannot be read, which is all that another task
    tells, too. -/
theorem execute_dump_either_side :
    let files : Files := fun path =>
      if path = "s.json" then .ok "\x7b\"stream\":\x7b\"endianness\":\"big\"\x7d\x7d".toUTF8
      else if path = "m.spv" then .ok ⟨#[0, 1, 0, 0]⟩
      else .error "no such file"
    let listing : Outcome := ⟨0, "     0  OpNop                                      1\n", ""⟩
    execute files ["--config=s.json", "dump", "--no-header", "m.spv"] = listing ∧
      execute files ["dump", "m.spv", "--no-header", "--config", "s.json"] = listing ∧
      execute files ["--config", "s.json", "dump", "--endian=LE", "m.spv", "--no-header"] =
        failure "instruction at word 0 has a word count of zero" ∧
      execute files ["dump", "--config=t.json", "m.spv"] =
        failure "cannot read t.json: no such file" ∧
      execute files ["classify", "OpNop", "--config", "t.json"] =
        failure "cannot read t.json: no such file" := by
  intro files listing
  let plain : Selection := ⟨some "s.json", none, true, false⟩
  let little : Selection := ⟨some "s.json", some .little, true, false⟩
  let astray : Selection := ⟨some "t.json", none, false, false⟩
  have hfile : IsFileName "m.spv" := ⟨by decide, by decide⟩
  have hs : ∀ path ∈ some "s.json", IsFileName path := by
    rintro path ⟨⟩
    exact ⟨by decide, by decide⟩
  have ht : ∀ path ∈ some "t.json", IsFileName path := by
    rintro path ⟨⟩
    exact ⟨by decide, by decide⟩
  have htext : String.fromUTF8? "\x7b\"stream\":\x7b\"endianness\":\"big\"\x7d\x7d".toUTF8 =
      some "\x7b\"stream\":\x7b\"endianness\":\"big\"\x7d\x7d" := by decide +kernel
  have hconfig : Configures files (some "s.json") ⟨.big, true⟩ :=
    .read rfl htext (by decide +kernel)
  have hname : ByteOrder.ofName? "LE" = some .little := by decide +kernel
  have houter : CommandLine .dump (.operand "m.spv" :: plain.options)
      ["--config=s.json", "dump", "--no-header", "m.spv"] :=
    @CommandLine.intro _ _ [.config "s.json"] [.noHeader, .operand "m.spv"]
      [["--config=s.json"]] [["--no-header"], ["m.spv"]]
      (by decide) (by simp [Part.Allowed]) (by simp [Part.Allowed])
      (.cons (.config .joined) .nil) (.cons .noHeader (.cons (.operand _) .nil))
  have hinner : CommandLine .dump (.operand "m.spv" :: plain.options)
      ["dump", "m.spv", "--no-header", "--config", "s.json"] :=
    @CommandLine.intro _ _ [] [.operand "m.spv", .noHeader, .config "s.json"]
      [] [["m.spv"], ["--no-header"], ["--config", "s.json"]]
      (by decide) (by simp [Part.Allowed]) (by simp [Part.Allowed]) .nil
      (.cons (.operand _) (.cons .noHeader (.cons (.config .apart) .nil)))
  have hlittle : CommandLine .dump (.operand "m.spv" :: little.options)
      ["--config", "s.json", "dump", "--endian=LE", "m.spv", "--no-header"] :=
    @CommandLine.intro _ _ [.config "s.json"] [.endian .little, .operand "m.spv", .noHeader]
      [["--config", "s.json"]] [["--endian=LE"], ["m.spv"], ["--no-header"]]
      (by decide) (by simp [Part.Allowed]) (by simp [Part.Allowed])
      (.cons (.config .apart) .nil)
      (.cons (.endian hname .joined) (.cons (.operand _) (.cons .noHeader .nil)))
  have hastray : CommandLine .dump (.operand "m.spv" :: astray.options)
      ["dump", "--config=t.json", "m.spv"] :=
    @CommandLine.intro _ _ [] [.config "t.json", .operand "m.spv"]
      [] [["--config=t.json"], ["m.spv"]]
      (by decide) (by simp [Part.Allowed]) (by simp [Part.Allowed]) .nil
      (.cons (.config .joined) (.cons (.operand _) .nil))
  have hquery : CommandLine .classify (.operand "OpNop" :: [.config "t.json"])
      ["classify", "OpNop", "--config", "t.json"] :=
    @CommandLine.intro _ _ [] [.operand "OpNop", .config "t.json"]
      [] [["OpNop"], ["--config", "t.json"]]
      (by decide) (by simp [Part.Allowed]) (by simp [Part.Allowed]) .nil
      (.cons (.operand _) (.cons (.config .apart) .nil))
  obtain ⟨houtcome, hsame, -⟩ := execute_dump files hfile hs houter
  have hprinted := (houtcome listing).2 (.printed hconfig rfl (by decide +kernel))
  have hrefused := ((execute_dump files hfile hs hlittle).1
    (failure "instruction at word 0 has a word count of zero")).2
    (.refused (e := .wordCountZero 0) hconfig rfl (by decide +kernel))
  have hfault : Misconfigures files (some "t.json")
      ("cannot read " ++ "t.json" ++ ": " ++ "no such file") := .unreadable rfl
  obtain ⟨hdump, -, hother⟩ := execute_dump files hfile ht hastray
  exact ⟨hprinted, (hsame _ hinner).trans hprinted, hrefused, (hdump _).2 (.misconfigured hfault),
    hother .classify "OpNop" _ _ (by decide) (by decide) hquery hfault⟩

end Spirv.Command
