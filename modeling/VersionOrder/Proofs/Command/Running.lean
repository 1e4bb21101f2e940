import VersionOrder.Command.Run

/-!
# Command lines that run

A command answers the same whatever has been logged before, and a command line that the parser
reads as the command reports that answer, once the settings are loaded and their schemes are
registered.

## Main definitions

- `Logged.Gives`: what a computation gives, apart from what it logs
- `Command.SpelledBy`: the command lines that a parser reads as a command
- `Parser.longNames`: a parser of long names only
- `Report.Prints`: the last word of the only line that is printed
-/

namespace VersionOrder

namespace Logged

variable {α β : Type}

/-- The computation gives this result, whatever has been logged before. -/
def Gives (computation : Logged α) (result : Except Fault α) : Prop :=
  ∀ log, (computation.run.run log).1 = result

theorem gives_pure (a : α) : Gives (pure a) (.ok a) :=
  fun _ => rfl

theorem gives_ofExcept (result : Except Fault α) : Gives (ofExcept result) result :=
  fun _ => rfl

theorem gives_remark (remarks : List Remark) : Gives (remark remarks) (.ok ()) :=
  fun _ => rfl

/-- What follows a computation goes on from its result. -/
theorem Gives.bind {computation : Logged α} {next : α → Logged β} {result : Except Fault α}
    {later : α → Except Fault β} (h : Gives computation result)
    (hnext : ∀ a, result = .ok a → Gives (next a) (later a)) :
    Gives (computation >>= next) (result >>= later) := by
  intro log
  have hresult := h log
  rw [ExceptT.run_bind, StateT.run_bind]
  rcases hrun : computation.run.run log with ⟨first, logged⟩
  rw [hrun] at hresult
  subst hresult
  cases first with
  | error fault => rfl
  | ok a => exact hnext a rfl logged

theorem Gives.bind_ok {computation : Logged α} {next : α → Logged β} {a : α}
    {result : Except Fault β} (h : Gives computation (.ok a)) (hnext : Gives (next a) result) :
    Gives (computation >>= next) result := by
  have hlater : ∀ b, (.ok a : Except Fault α) = .ok b → Gives (next b) result := by
    rintro _ ⟨⟩
    exact hnext
  exact h.bind hlater

theorem gives_compareLogged (scheme : Scheme) (left right : Version) :
    Gives (scheme.compareLogged left right) (scheme.compare left right) :=
  (gives_remark _).bind_ok (gives_ofExcept _)

end Logged

/-! ## Reports -/

namespace Command

variable {command : Command} {console : Console} {session : Session}

/-- The report of a command is what it gives, with what is logged on the way. -/
theorem report_of_gives {result : Except Fault Answer}
    (h : Logged.Gives (command.answer console session) result) (threshold : LogLevel)
    (log : List LogRecord) :
    ∃ logged, command.report console session threshold log =
      match result with
      | .ok answer =>
        { output := answer.output
          log := Report.shown threshold logged
          exitCode := answer.exitCode }
      | .error fault => .ofFault (some threshold) logged fault := by
  have hresult := h log
  rcases hrun : (command.answer console session).run.run log with ⟨given, logged⟩
  rw [hrun] at hresult
  subst hresult
  refine ⟨logged, ?_⟩
  rw [report, hrun]
  cases given <;> rfl

/-- The parser reads the words as the command, with its settings at the given path. -/
def SpelledBy (command : Command) (parser : Parser) (settingsPath? : Option String)
    (words : List Text) : Prop :=
  ∃ request, Request.read parser words = .read request ∧ request.settingsPath? = settingsPath? ∧
    request.verb.read parser request.words = .read command

/-- A command line whose settings are in order ends with the report of its command. -/
theorem run_of_spelledBy {host : Host} {settingsPath? : Option String} {words : List Text}
    (hwords : command.SpelledBy host.parser settingsPath? words) {files : FilePath → FileState}
    {environment : List (String × String)} {settings : Settings} {registry : Registry}
    (hsettings : Settings.load host.readers files (settingsPath?.map FilePath.ofString)
      environment = .ok settings)
    (hregistry : Settings.registerAll Registry.builtin settings.definitions = (registry, none)) :
    ∃ threshold log, run host files environment words =
      .finished (command.report host.console ⟨settings, registry⟩ threshold log) := by
  obtain ⟨request, hread, rfl, hcommand⟩ := hwords
  refine ⟨if request.verbose then .debug else settings.level?.getD .warning,
    registry.schemes.map LogRecord.ofRegistration, ?_⟩
  rw [run, hread]
  simp only [Request.run, hsettings, hregistry, hcommand]

end Command

/-! ## A parser -/

namespace Parser

/-- Words sorted by the long names of options; the first of them may be the value of the option that
is `pending?`. -/
def sortWords (switches : List Switch) : (pending? : Option String) → List Text → Arguments
  | _, [] => {}
  | some name, value :: rest =>
    let given := sortWords switches none rest
    { given with options := (name, value) :: given.options }
  | none, word :: rest =>
    match switches.find? fun switch => '-' :: '-' :: switch.name.toList = word with
    | none =>
      let given := sortWords switches none rest
      { given with operands := word :: given.operands }
    | some switch =>
      if switch.takesValue then sortWords switches (some switch.name) rest
      else
        let given := sortWords switches none rest
        { given with options := (switch.name, []) :: given.options }

/-- A parser for command lines without general options. It takes the options of a command by their
long names, each value in a word of its own. -/
def longNames : Parser :=
  fun switches mixed words =>
    .read (if mixed then sortWords switches none words else { operands := words })

end Parser

/-! ## Printed words -/

namespace Text

/-- The last word of a text is told by its end. -/
theorem eq_of_append_blank_eq {s t word other : Text} (h : s ++ ' ' :: word = t ++ ' ' :: other)
    (hword : ' ' ∉ word) (hother : ' ' ∉ other) : word = other := by
  have hlast : ∀ u v : Text, ' ' ∉ v → (u ++ ' ' :: v).reverse.takeWhile (· ≠ ' ') = v.reverse := by
    intro u v hv
    have hall : ∀ c ∈ v.reverse, decide (c ≠ ' ') = true := by
      intro c hc
      rw [decide_eq_true_eq]
      rintro rfl
      exact hv (List.mem_reverse.1 hc)
    rw [List.reverse_append, List.reverse_cons, List.append_assoc,
      List.takeWhile_append_of_pos hall]
    simp
  rw [← List.reverse_inj, ← hlast s word hword, ← hlast t other hother, h]

end Text

namespace Report

variable {report : Report} {word other : String}

/-- One line is printed, and this is its last word. -/
def Prints (report : Report) (word : String) : Prop :=
  ∃ shown, report.output = [.line (shown ++ " " ++ word)]

theorem prints_of_output {s : Text} (h : report.output = [.ofText (s ++ ' ' :: word.toList)]) :
    report.Prints word := by
  refine ⟨String.ofList s, ?_⟩
  rw [h, Output.ofText]
  congr 2
  apply String.toList_injective
  simp

/-- A line has one last word. -/
theorem Prints.unique (h : report.Prints word) (hother : report.Prints other)
    (hword : ' ' ∉ word.toList) (hword' : ' ' ∉ other.toList) : word = other := by
  obtain ⟨shown, houtput⟩ := h
  obtain ⟨shown', houtput'⟩ := hother
  have hline : shown ++ " " ++ word = shown' ++ " " ++ other := by
    simpa using houtput.symm.trans houtput'
  have hlist : shown.toList ++ ' ' :: word.toList = shown'.toList ++ ' ' :: other.toList := by
    simpa using congrArg String.toList hline
  exact String.toList_injective (Text.eq_of_append_blank_eq hlist hword hword')

end Report

end VersionOrder
