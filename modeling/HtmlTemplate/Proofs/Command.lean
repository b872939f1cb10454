import HtmlTemplate.Command.Run
import HtmlTemplate.Command.State
import HtmlTemplate.Proofs.Files
import HtmlTemplate.Proofs.Json
import HtmlTemplate.Proofs.Text.Utf8

/-!
A run of the command writes one file or none. All that can fail comes before the page is written:
the input files are looked for, the output directory is made, the template is read and compiled, the
context is read and the page is rendered. Whether a run succeeds, and with what page, can be told
from the files it starts with, because the directories that it makes change nothing that it reads.
-/

namespace HtmlTemplate.Command

/-! The state to start from -/

/-- A copy of a state that options give has all of its values, because each of the names has its
place among them. -/
theorem State.copy_ofOptions (options : List (String × Value)) (inputDir outputDir : Path) :
    (State.ofOptions options inputDir outputDir).copy =
      State.ofOptions options inputDir outputDir := by
  simp [State.copy, State.ofOptions, State.defaults, Value.lookup?]

/-! What the files give -/

/-- A context as a value. -/
def objectOf (context : Code.Context) : Value :=
  .dict (context.map fun entry => (.str entry.1, entry.2))

/-- The context that a run finds: nothing without a context file, else the object in the file. -/
inductive GivesContext (options : Options) (files : Files.Tree) : Code.Context → Prop where
  | none (unnamed : options.contextPath? = none) : GivesContext options files []
  | object {path : Path} {text : List Char} {context : Code.Context}
      (named : options.contextPath? = some path) (read : readText files path = .ok text)
      (parsed : Json.parse (String.ofList text) = .ok (objectOf context)) :
      GivesContext options files context

/-- The template that a run finds, which is compiled without the blanks around its text. -/
def GivesTemplate (settings : Settings) (options : Options) (files : Files.Tree)
    (template : Template) : Prop :=
  ∃ text, readText files options.templatePath = .ok text ∧
    Template.compile settings booleanAttributes (String.ofList (Text.trim text)) = .ok template

/-- The page that the template gives with the context. -/
def GivesPage (settings : Settings) (options : Options) (files : Files.Tree) (markup : String) :
    Prop :=
  ∃ template context, GivesTemplate settings options files template ∧
    GivesContext options files context ∧ template.markup (some context) = .ok markup

/-- An input file is missing. -/
def LacksInput (options : Options) (files : Files.Tree) : Prop :=
  files.exists? options.templatePath = false ∨
    ∃ path, options.contextPath? = some path ∧ files.exists? path = false

section Given

variable {settings : Settings} {options : Options} {files : Files.Tree}

theorem contextOf?_objectOf (context : Code.Context) :
    contextOf? (objectOf context) = some context := by
  simp [contextOf?, objectOf, Function.comp_def]

/-- A value that was read is a context if it is an object. -/
theorem eq_objectOf {text : String} {value : Value} {context : Code.Context}
    (parsed : Json.parse text = .ok value) (object : contextOf? value = some context) :
    value = objectOf context := by
  unfold contextOf? at object
  split at object
  next entries =>
    have named := Json.named_of_parse parsed
    cases object
    rw [objectOf, List.map_map]
    congr 1
    refine (List.map_id entries).symm.trans (List.map_congr_left fun entry member => ?_)
    obtain ⟨name, same⟩ := named entry member
    obtain ⟨first, value⟩ := entry
    cases same
    rfl
  next => cases object

theorem readText_of_grows {path other : Path} {made : Files.Tree}
    (grows : Files.Tree.Grows path files made) (there : files.exists? other = true) :
    readText made other = readText files other := by
  rw [readText, readText, grows.read there]

theorem exists?_of_readText {path : Path} {text : List Char}
    (read : readText files path = .ok text) : files.exists? path = true := by
  obtain ⟨bytes, found, -⟩ := exists_of_bind read
  have content := (mapError_eq_ok_iff _ _ _).mp found
  unfold Files.Tree.read at content
  split at content
  next => cases content
  next place leads =>
    split at content
    next there => simp [Files.Tree.exists?, Files.Tree.lookup?, leads, there]
    next => cases content
    next => cases content

theorem GivesTemplate.unique {template other : Template}
    (first : GivesTemplate settings options files template)
    (second : GivesTemplate settings options files other) : template = other := by
  obtain ⟨text, read, compiled⟩ := first
  obtain ⟨_, again, also⟩ := second
  rw [read] at again
  cases again
  exact Except.ok.inj (compiled.symm.trans also)

theorem readValue_eq_ok_iff {path : Path} {value : Value} :
    readValue files path = .ok value ↔
      ∃ text, readText files path = .ok text ∧ Json.parse (String.ofList text) = .ok value := by
  simp only [readValue, bind_eq_ok_iff, mapError_eq_ok_iff]

/-- With a context file, the context is the object in it. -/
theorem GivesContext.readValue {context : Code.Context} (given : GivesContext options files context)
    {path : Path} (named : options.contextPath? = some path) :
    readValue files path = .ok (objectOf context) := by
  cases given with
  | none unnamed => simp [named] at unnamed
  | object renamed read parsed =>
    rw [named] at renamed
    cases renamed
    exact readValue_eq_ok_iff.mpr ⟨_, read, parsed⟩

theorem GivesContext.unique {context other : Code.Context}
    (first : GivesContext options files context) (second : GivesContext options files other) :
    context = other := by
  cases named : options.contextPath? with
  | none =>
    cases first with
    | none =>
      cases second with
      | none => rfl
      | object renamed => simp [named] at renamed
    | object renamed => simp [named] at renamed
  | some path =>
    have same := Except.ok.inj ((first.readValue named).symm.trans (second.readValue named))
    have contexts := congrArg contextOf? same
    rw [contextOf?_objectOf, contextOf?_objectOf] at contexts
    exact Option.some.inj contexts

/-- What is not there gives no page. -/
theorem GivesPage.not_lacksInput {markup : String}
    (page : GivesPage settings options files markup) : ¬ LacksInput options files := by
  obtain ⟨template, context, ⟨text, read, -⟩, given, -⟩ := page
  rintro (missing | ⟨path, named, missing⟩)
  · rw [exists?_of_readText read] at missing
    cases missing
  · obtain ⟨text, found, -⟩ := readValue_eq_ok_iff.mp (given.readValue named)
    rw [exists?_of_readText found] at missing
    cases missing

end Given

/-! Verbosity -/

section Verbosity

theorem outcome_bind {α β : Type} (t : Traced α) (next : α → Traced β) :
    (t.bind next).outcome = t.outcome.bind fun a => (next a).outcome := by
  unfold Traced.bind
  cases t.outcome <;> rfl

/-- What is logged has no influence on what a template is compiled to. -/
theorem outcome_compileTraced (verbosity : Int) (settings : Settings) (booleans : List String)
    (source : String) :
    (Template.compileTraced verbosity settings booleans source).outcome =
      Template.compile settings booleans source := by
  unfold Template.compile Template.compileTraced
  simp only [outcome_bind]
  rfl

end Verbosity

/-! Jobs -/

/-- How a job ends, as far as its result and the files tell. -/
inductive Ends {α : Type} (done : α → Files.Tree → Prop) (failed : Files.Tree → Prop) :
    EStateM.Result RunFailure Progress α → Prop where
  | done {a : α} {p : Progress} (holds : done a p.files) : Ends done failed (.ok a p)
  | failed {e : RunFailure} {p : Progress} (holds : failed p.files) : Ends done failed (.error e p)

namespace Ends

variable {α β ε : Type} {p : Progress} {failed : Files.Tree → Prop}

theorem bind {first : Job α} {next : α → Job β} {mid : α → Files.Tree → Prop}
    {done : β → Files.Tree → Prop} (front : Ends mid failed (first p))
    (back : ∀ a p, mid a p.files → Ends done failed (next a p)) :
    Ends done failed ((first >>= next) p) := by
  generalize run : first p = outcome at front
  cases front with
  | done holds =>
    rw [bind_ok run]
    exact back _ _ holds
  | failed holds =>
    rw [bind_error run]
    exact .failed holds

/-- Logging leaves the files as they are. -/
theorem note {next : Unit → Job α} {done : α → Files.Tree → Prop} {options : Options} {level : Int}
    {message : String} (back : ∀ entries, Ends done failed (next () { p with entries })) :
    Ends done failed ((note options level message >>= next) p) :=
  back _

theorem get {next : Progress → Job α} {done : α → Files.Tree → Prop}
    (back : Ends done failed (next p p)) : Ends done failed ((get >>= next) p) :=
  back

theorem attempt {cause : ε → RunFailure} {x : Except ε α} {done : α → Files.Tree → Prop}
    (good : ∀ a, x = .ok a → done a p.files) (bad : ∀ e, x = .error e → failed p.files) :
    Ends done failed (attempt cause x p) := by
  cases x with
  | ok a => exact .done (good a rfl)
  | error e => exact .failed (bad e rfl)

theorem change {act : Files.Change Unit} {done : Unit → Files.Tree → Prop}
    (good : ∀ files, act p.files = .ok () files → done () files)
    (bad : ∀ e files, act p.files = .error e files → failed files) :
    Ends done failed (change act p) := by
  unfold Command.change
  cases run : act p.files with
  | ok _ files => exact .done (good files run)
  | error e files => exact .failed (bad e files run)

end Ends

/-! Stages -/

/-- A run can succeed: its directory can be made, there is a page, and the page can be written. -/
def CanSucceed (settings : Settings) (options : Options) (files : Files.Tree) : Prop :=
  ∃ made markup, Files.Tree.ensureDirectories options.outputDir files = .ok () made ∧
    GivesPage settings options files markup ∧ made.Writable options.outputPath

/-- What is true of the files when a run has failed. -/
structure Fails (settings : Settings) (options : Options) (start files : Files.Tree) : Prop where
  grows : Files.Tree.Grows options.outputDir start files
  cannot : ¬ CanSucceed settings options start
  untouched : LacksInput options start → files = start

/-- The input files are there, and the output directory has been made. -/
structure Prepared (options : Options) (start made : Files.Tree) : Prop where
  inputs : ¬ LacksInput options start
  directory : Files.Tree.ensureDirectories options.outputDir start = .ok () made

section Stages

variable {settings : Settings} {options : Options} {start made : Files.Tree} {p : Progress}

namespace Prepared

theorem grows (prepared : Prepared options start made) :
    Files.Tree.Grows options.outputDir start made := by
  have makes := Files.Tree.ensureDirectories_makes options.outputDir start
  rw [prepared.directory] at makes
  cases makes with
  | done grows => exact grows

theorem template (prepared : Prepared options start made) :
    readText made options.templatePath = readText start options.templatePath := by
  apply readText_of_grows prepared.grows
  rw [← Bool.not_eq_false]
  intro missing
  exact prepared.inputs (.inl missing)

theorem context (prepared : Prepared options start made) {path : Path}
    (named : options.contextPath? = some path) : readValue made path = readValue start path := by
  unfold readValue
  rw [readText_of_grows prepared.grows]
  rw [← Bool.not_eq_false]
  intro missing
  exact prepared.inputs (.inr ⟨path, named, missing⟩)

/-- A run that is prepared fails for want of a page or of a place to write it. -/
theorem fails (prepared : Prepared options start made)
    (cannot : ∀ markup, GivesPage settings options start markup →
      ¬ made.Writable options.outputPath) : Fails settings options start made where
  grows := prepared.grows
  cannot := by
    rintro ⟨_, markup, directory, page, writable⟩
    cases prepared.directory.symm.trans directory
    exact cannot markup page writable
  untouched lacks := absurd lacks prepared.inputs

end Prepared

/-- Without an input file nothing is made. -/
theorem fails_of_lacksInput (lacks : LacksInput options start) :
    Fails settings options start start where
  grows := .refl _ _
  cannot := fun ⟨_, _, _, page, _⟩ => page.not_lacksInput lacks
  untouched _ := rfl

/-- If the directory cannot be made, those above it that were made stay. -/
theorem fails_of_directory (inputs : ¬ LacksInput options start) {e : Files.Failure}
    (refused : Files.Tree.ensureDirectories options.outputDir start = .error e made) :
    Fails settings options start made where
  grows := by
    have makes := Files.Tree.ensureDirectories_makes options.outputDir start
    rw [refused] at makes
    cases makes with
    | failed grows => exact grows
  cannot := by
    rintro ⟨_, _, directory, -⟩
    rw [refused] at directory
    cases directory
  untouched lacks := absurd lacks inputs

theorem makeOutput_ends (begins : p.files = start) (inputs : ¬ LacksInput options start) :
    Ends (fun _ files => Prepared options start files) (Fails settings options start)
      (change (Files.Tree.ensureDirectories options.outputDir) p) := by
  subst begins
  apply Ends.change
  · intro files run
    exact ⟨inputs, run⟩
  · intro e files run
    exact fails_of_directory inputs run

/-- The input files are looked for before anything is made. -/
theorem findInputs_ends (begins : p.files = start) :
    Ends (fun inputs files => inputs = ⟨options.templatePath, options.contextPath?⟩ ∧
        Prepared options start files)
      (Fails settings options start) (findInputs options p) := by
  subst begins
  unfold findInputs
  refine .note fun entries => .get ?_
  dsimp only
  split
  next missing =>
    have lacks : LacksInput options p.files := .inl (by simpa using missing)
    exact .failed (fails_of_lacksInput lacks)
  next found =>
    have template : p.files.exists? options.templatePath = true := by simpa using found
    refine .note fun entries => ?_
    cases named : options.contextPath? with
    | none =>
      have inputs : ¬ LacksInput options p.files := by
        simp [LacksInput, template, named]
      refine Ends.bind (makeOutput_ends ?_ inputs) fun _ q prepared => .note fun entries => ?_
      · rfl
      · exact .done ⟨rfl, prepared⟩
    | some path =>
      refine .get ?_
      dsimp only
      split
      next missing =>
        have lacks : LacksInput options p.files := .inr ⟨path, named, by simpa using missing⟩
        exact .failed (fails_of_lacksInput lacks)
      next found =>
        have context : p.files.exists? path = true := by simpa using found
        have inputs : ¬ LacksInput options p.files := by
          simp [LacksInput, template, named, context]
        refine .note fun entries => ?_
        refine Ends.bind (makeOutput_ends ?_ inputs) fun _ q prepared => .note fun entries => ?_
        · rfl
        · exact .done ⟨rfl, prepared⟩

/-- The template is that of the files a run started with. -/
theorem compileInput_ends (prepared : Prepared options start p.files) :
    Ends (fun template files => Prepared options start files ∧
        GivesTemplate settings options start template)
      (Fails settings options start)
      (compileInput options settings ⟨options.templatePath, options.contextPath?⟩ p) := by
  unfold compileInput
  refine .note fun entries => .get ?_
  have reads : Ends
      (fun text files => readText start options.templatePath = .ok text ∧
        Prepared options start files)
      (Fails settings options start)
      (attempt .input (readText p.files options.templatePath) { p with entries }) := by
    rw [prepared.template]
    refine .attempt (fun text read => ⟨read, prepared⟩) fun e unread => prepared.fails ?_
    -- a page would take a template that can be read
    rintro markup ⟨_, _, ⟨text, read, -⟩, -⟩ -
    rw [unread] at read
    cases read
  refine reads.bind fun text q ⟨read, prepared⟩ => ?_
  refine .note fun entries => .note fun entries => ?_
  show Ends _ _ (attempt .template _ _)
  rw [outcome_compileTraced]
  refine .attempt (fun template compiled => ⟨prepared, text, read, compiled⟩) fun e refused =>
    prepared.fails ?_
  rintro markup ⟨template, _, ⟨same, again, compiled⟩, -⟩ -
  rw [read] at again
  cases again
  rw [refused] at compiled
  cases compiled

theorem readContext_ends (prepared : Prepared options start p.files) :
    Ends (fun context files => Prepared options start files ∧ GivesContext options start context)
      (Fails settings options start)
      (readContext ⟨options.templatePath, options.contextPath?⟩ p) := by
  unfold readContext
  cases named : options.contextPath? with
  | none => exact .done ⟨prepared, .none named⟩
  | some path =>
    refine .get ?_
    have reads : Ends
        (fun value files => readValue start path = .ok value ∧ Prepared options start files)
        (Fails settings options start)
        (attempt .context (readValue p.files path) p) := by
      rw [prepared.context named]
      refine .attempt (fun value read => ⟨read, prepared⟩) fun e unread => prepared.fails ?_
      rintro markup ⟨_, context, -, given, -⟩ -
      rw [given.readValue named] at unread
      cases unread
    refine reads.bind fun value q ⟨read, prepared⟩ => ?_
    cases object : contextOf? value with
    | some context =>
      obtain ⟨text, found, parsed⟩ := readValue_eq_ok_iff.mp read
      rw [eq_objectOf parsed object] at parsed
      exact .done ⟨prepared, .object named found parsed⟩
    | none =>
      refine .failed (prepared.fails ?_)
      -- what is in the file is no object, and only objects are contexts
      rintro markup ⟨_, context, -, given, -⟩ -
      rw [given.readValue named] at read
      cases read
      rw [contextOf?_objectOf] at object
      cases object

/-- The page is written where the output path leads once the output directory is there. -/
def Written (settings : Settings) (options : Options) (start files : Files.Tree) : Prop :=
  ∃ made markup place, Prepared options start made ∧ GivesPage settings options start markup ∧
    made.place options.outputPath = .ok place ∧ made.item? place ≠ some .directory ∧
    files = made.put place (.file (Text.Utf8.encode (markup ++ "\n").toList))

theorem writePage_ends {template : Template} (prepared : Prepared options start p.files)
    (given : GivesTemplate settings options start template) :
    Ends (fun _ files => Written settings options start files)
      (Fails settings options start)
      (writePage options ⟨options.templatePath, options.contextPath?⟩ template p) := by
  unfold writePage
  refine (readContext_ends prepared).bind fun context q ⟨prepared, known⟩ => ?_
  refine .note fun entries => ?_
  have renders : Ends
      (fun markup files => GivesPage settings options start markup ∧ Prepared options start files)
      (Fails settings options start)
      (attempt .render (template.markup (some context)) { q with entries }) := by
    refine .attempt (fun markup shown => ⟨⟨template, context, given, known, shown⟩, prepared⟩)
      fun e refused => prepared.fails ?_
    -- there is no other template and no other context that could give a page
    rintro markup ⟨_, _, again, also, shown⟩ -
    rw [← given.unique again, ← known.unique also, refused] at shown
    cases shown
  refine renders.bind fun markup q ⟨page, prepared⟩ => .get ?_
  have writes : Ends
      (fun written _ => Written settings options start written)
      (Fails settings options start)
      (attempt .output
        (q.files.write options.outputPath (Text.Utf8.encode (markup ++ "\n").toList)) q) := by
    refine .attempt (fun written run => ?_) fun e refused => prepared.fails ?_
    · obtain ⟨place, leads, free, rfl⟩ := Files.Tree.write_eq_ok_iff.mp run
      exact ⟨q.files, markup, place, prepared, page, leads, free, rfl⟩
    · rintro _ - ⟨place, leads, free⟩
      have run : q.files.write options.outputPath (Text.Utf8.encode (markup ++ "\n").toList) = _ :=
        Files.Tree.write_eq_ok_iff.mpr ⟨place, leads, free, rfl⟩
      rw [refused] at run
      cases run
  exact writes.bind fun written q holds => .done holds

theorem render_ends (settings : Settings) (options : Options) (start : Progress) :
    Ends (fun _ files => Written settings options start.files files)
      (Fails settings options start.files) (render settings options start) := by
  unfold render
  refine (findInputs_ends rfl).bind fun inputs p ⟨same, prepared⟩ => ?_
  subst same
  refine (compileInput_ends prepared).bind fun template p ⟨prepared, given⟩ => ?_
  refine (writePage_ends prepared given).bind fun markup p written => ?_
  exact .done written

/-- What a written page has changed: the file at the output path, and directories above it. -/
theorem Written.places {files : Files.Tree} (written : Written settings options start files) :
    ∃ markup content out, GivesPage settings options start markup ∧
      files.place options.outputPath = .ok out ∧ files.item? out = some (.file content) ∧
      content.toByteArray = (markup ++ "\n").toUTF8 ∧
      ∀ place, place ≠ out → Files.Tree.SameOrMade options.outputDir start files place := by
  obtain ⟨made, markup, out, prepared, page, leads, free, rfl⟩ := written
  have keeps := Files.Tree.keepsDirectories_put free
    (.file (Text.Utf8.encode (markup ++ "\n").toList))
  refine ⟨markup, _, out, page, keeps.place leads, ?_, Text.Utf8.toByteArray_encode _, ?_⟩
  · rw [Files.Tree.item?_put, if_pos rfl]
  · intro place apart
    have stays := Files.Tree.item?_put made out place
      (.file (Text.Utf8.encode (markup ++ "\n").toList))
    rw [if_neg apart] at stays
    rw [Files.Tree.SameOrMade, stays]
    -- a directory that was made is still found on the path, since no directory is written upon
    rcases prepared.grows.places place with same | ⟨nothing, new, names, front, above⟩
    · exact .inl same
    · exact .inr ⟨nothing, new, names, front, keeps.place above⟩

end Stages

/-! Whole runs -/

theorem status?_failed (e : RunFailure) :
    (Ending.failed e).status? = some 1 ∨ (Ending.failed e).status? = none := by
  unfold Ending.status?
  dsimp only
  split
  · exact .inl rfl
  · exact .inr rfl

/-- A run that succeeds writes the page, and no other file. A run that fails writes no file. Either
may have made the output directory and those above it, but not if an input file is missing. It is
known beforehand which it will be: a run succeeds if the output directory can be made, the files
give a page, and the page can be written. -/
theorem render_writes_page_or_nothing (settings : Settings) (options : Options) (start : Progress) :
    (∀ after, render settings options start = .ok () after →
      ∃ markup content out, GivesPage settings options start.files markup ∧
        after.files.place options.outputPath = .ok out ∧
        after.files.item? out = some (.file content) ∧
        content.toByteArray = (markup ++ "\n").toUTF8 ∧
        ∀ place, place ≠ out →
          Files.Tree.SameOrMade options.outputDir start.files after.files place) ∧
    (∀ e after, render settings options start = .error e after →
      ((Ending.failed e).status? = some 1 ∨ (Ending.failed e).status? = none) ∧
      (∀ place content, after.files.item? place = some (.file content) ↔
        start.files.item? place = some (.file content)) ∧
      ∀ place, Files.Tree.SameOrMade options.outputDir start.files after.files place) ∧
    (LacksInput options start.files →
      ∃ e after, render settings options start = .error e after ∧ after.files = start.files) ∧
    ((∃ after, render settings options start = .ok () after) ↔
      ∃ made markup, Files.Tree.ensureDirectories options.outputDir start.files = .ok () made ∧
        GivesPage settings options start.files markup ∧ made.Writable options.outputPath) := by
  have ends := render_ends settings options start
  generalize render settings options start = outcome at ends
  cases ends with
  | done written =>
    have places := written.places
    obtain ⟨made, markup, out, prepared, page, leads, free, -⟩ := written
    refine ⟨?_, fun e after run => (nomatch run), fun lacks => absurd lacks prepared.inputs,
      fun _ => ⟨made, markup, prepared.directory, page, out, leads, free⟩, fun _ => ⟨_, rfl⟩⟩
    rintro after ⟨⟩
    exact places
  | failed fails =>
    refine ⟨fun after run => (nomatch run), ?_, fun lacks => ⟨_, _, rfl, fails.untouched lacks⟩,
      fun ⟨_, run⟩ => (nomatch run), fun can => absurd can fails.cannot⟩
    rintro _ after ⟨⟩
    exact ⟨status?_failed _, fails.grows.file_iff, fails.grows.places⟩

def greetingTemplate : Files.Tree where
  items := [(["in"], .directory),
    (["in", "page"], .file (Text.Utf8.encode "\x7b\x7b name \x7d\x7d\n".toList))]

def greetingFiles : Files.Tree :=
  greetingTemplate.put ["in", "names"]
    (.file (Text.Utf8.encode "\x7b\"name\": \"Ann\"\x7d".toList))

def greeting : Options where
  inputDir := { root := "/", names := ["in"] }
  outputDir := { root := "/", names := ["out", "www"] }
  inputFile := "page"
  contextFile := some "names"

/-- With its context the greeting is written; without it, the output directory is not even made. -/
theorem render_writes_greeting_or_nothing :
    (∃ after markup content out, render {} greeting { files := greetingFiles } = .ok () after ∧
      GivesPage {} greeting greetingFiles markup ∧ after.files.item? out = some (.file content) ∧
      content.toByteArray = (markup ++ "\n").toUTF8) ∧
    ∃ e after, render {} greeting { files := greetingTemplate } = .error e after ∧
      after.files = greetingTemplate := by
  constructor
  · have ran : ((render {} greeting).run' { files := greetingFiles }).isSome = true := by
      decide +kernel
    obtain ⟨success, -⟩ := render_writes_page_or_nothing {} greeting { files := greetingFiles }
    cases run : render {} greeting { files := greetingFiles } with
    | ok _ after =>
      obtain ⟨markup, content, out, page, -, there, bytes, -⟩ := success after run
      exact ⟨after, markup, content, out, rfl, page, there, bytes⟩
    | error =>
      rw [run'_of_error run] at ran
      cases ran
  · obtain ⟨-, -, untouched, -⟩ :=
      render_writes_page_or_nothing {} greeting { files := greetingTemplate }
    apply untouched
    exact .inr ⟨{ root := "/", names := ["in", "names"] }, by decide +kernel, by decide +kernel⟩

end HtmlTemplate.Command
