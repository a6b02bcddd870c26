import Mathlib
import SchemaSdl.Command.Run
import SchemaSdl.Proofs.Files
import SchemaSdl.Proofs.Loading

/-! Runs of the command on a tree of files. Either all that comes before writing succeeds, and then the text that the
document gives is written to the output and to no other file, or the run fails and the tree is what it was. -/

namespace SchemaSdl.Command
variable {command : Command} {tree after : FileTree} {text : String} {failure : Failure}

/-! ### What comes before writing -/

/-- The files of a tree give the command this pass. -/
inductive Prepares (command : Command) (tree : FileTree) (pass : Pass) : Prop
  | intro {bytes : List UInt8} {document : Document} {template : String} (hinput : tree.read command.input = .ok bytes)
      (hdocument : Document.loadBytes bytes = .ok document)
      (htemplate : tree.read command.template >>= FileAccess.text = .ok template)
      (hpass : Pass.ofOptions (some document) (some command.rootInterface) (some template) = .ok pass)

/-- All that comes before writing succeeds, and this is the text to be written. -/
inductive Renders (command : Command) (tree : FileTree) (text : String) : Prop
  | intro {pass : Pass} {selector : Selector} (hpass : command.Prepares tree pass)
      (hselector : command.selection.selector = .ok selector) (htext : pass.render selector = .ok text)

/-- The first thing before writing that goes wrong. -/
inductive Fails (command : Command) (tree : FileTree) : Failure → Prop
  | input {fault : FileFault} (h : tree.read command.input = .error fault) :
      Fails command tree (.input command.input fault)
  | document {bytes : List UInt8} {fault : Json.Fault} (hinput : tree.read command.input = .ok bytes)
      (h : Document.loadBytes bytes = .error fault) : Fails command tree (.document command.input (.unreadable fault))
  /-- The template cannot be read, or it is no text. -/
  | template {bytes : List UInt8} {document : Document} {fault : FileFault}
      (hinput : tree.read command.input = .ok bytes) (hdocument : Document.loadBytes bytes = .ok document)
      (h : tree.read command.template >>= FileAccess.text = .error fault) :
      Fails command tree (.template command.template fault)
  | options {bytes : List UInt8} {document : Document} {template : String} {fault : Fault}
      (hinput : tree.read command.input = .ok bytes) (hdocument : Document.loadBytes bytes = .ok document)
      (htemplate : tree.read command.template >>= FileAccess.text = .ok template)
      (h : Pass.ofOptions (some document) (some command.rootInterface) (some template) = .error fault) :
      Fails command tree (.options fault)
  /-- The filter or the exclude is no pattern. -/
  | selection {pass : Pass} {fault : Fault} (hpass : command.Prepares tree pass)
      (h : command.selection.selector = .error fault) : Fails command tree (.conversion command.input fault)
  /-- A pattern gives up on a name, or a definition cannot be converted. -/
  | conversion {pass : Pass} {selector : Selector} {fault : Fault} (hpass : command.Prepares tree pass)
      (hselector : command.selection.selector = .ok selector) (h : pass.render selector = .error fault) :
      Fails command tree (.conversion command.input fault)

theorem exists_fails_or_renders (command : Command) (tree : FileTree) :
    (∃ failure, command.Fails tree failure) ∨ ∃ text, command.Renders tree text := by
  rcases hinput : tree.read command.input with fault | bytes
  · exact .inl ⟨_, .input hinput⟩
  rcases hdocument : Document.loadBytes bytes with fault | document
  · exact .inl ⟨_, .document hinput hdocument⟩
  rcases htemplate : tree.read command.template >>= FileAccess.text with fault | template
  · exact .inl ⟨_, .template hinput hdocument htemplate⟩
  rcases hpass : Pass.ofOptions (some document) (some command.rootInterface) (some template) with fault | pass
  · exact .inl ⟨_, .options hinput hdocument htemplate hpass⟩
  rcases hselector : command.selection.selector with fault | selector
  · exact .inl ⟨_, .selection ⟨hinput, hdocument, htemplate, hpass⟩ hselector⟩
  rcases htext : pass.render selector with fault | text
  · exact .inl ⟨_, .conversion ⟨hinput, hdocument, htemplate, hpass⟩ hselector htext⟩
  · exact .inr ⟨text, ⟨hinput, hdocument, htemplate, hpass⟩, hselector, htext⟩

/-! ### The text to be written -/

theorem pass_of_document {bytes : List UInt8} {document : Document} (template : Except FileFault String)
    (hinput : tree.read command.input = .ok bytes) (hdocument : Document.loadBytes bytes = .ok document) :
    command.pass (tree.read command.input) template =
      (template.mapError (.template command.template) >>= fun template =>
        (Pass.ofOptions (some document) (some command.rootInterface) (some template)).mapError .options) := by
  rw [Command.pass, hinput]
  change (Document.loadBytes bytes).mapError _ >>= _ = _
  rw [hdocument]
  rfl

theorem pass_of_prepares {pass : Pass} (h : command.Prepares tree pass) :
    command.pass (tree.read command.input) (tree.read command.template >>= FileAccess.text) = .ok pass := by
  obtain ⟨hinput, hdocument, htemplate, hpass⟩ := h
  rw [pass_of_document _ hinput hdocument, htemplate]
  change (Pass.ofOptions _ _ _).mapError _ = _
  rw [hpass]
  rfl

theorem text_of_prepares {pass : Pass} {selector : Selector} (h : command.Prepares tree pass)
    (hselector : command.selection.selector = .ok selector) :
    (command.text (tree.read command.input) (tree.read command.template >>= FileAccess.text)).1 =
      (pass.render selector).mapError (.conversion command.input) := by
  rw [Command.text, pass_of_prepares h]
  simp only [hselector]
  rfl

theorem text_of_pass_error
    (h : command.pass (tree.read command.input) (tree.read command.template >>= FileAccess.text) = .error failure) :
    (command.text (tree.read command.input) (tree.read command.template >>= FileAccess.text)).1 = .error failure := by
  rw [Command.text, h]

theorem text_of_fails (h : command.Fails tree failure) :
    (command.text (tree.read command.input) (tree.read command.template >>= FileAccess.text)).1 = .error failure := by
  cases h with
  | input h =>
    refine text_of_pass_error ?_
    rw [Command.pass, h]
    rfl
  | document hinput h =>
    refine text_of_pass_error ?_
    rw [Command.pass, hinput]
    change (Document.loadBytes _).mapError _ >>= _ = _
    rw [h]
    rfl
  | template hinput hdocument h =>
    refine text_of_pass_error ?_
    rw [pass_of_document _ hinput hdocument, h]
    rfl
  | options hinput hdocument htemplate h =>
    refine text_of_pass_error ?_
    rw [pass_of_document _ hinput hdocument, htemplate]
    change (Pass.ofOptions _ _ _).mapError _ = _
    rw [h]
    rfl
  | selection hpass h =>
    rw [Command.text, pass_of_prepares hpass]
    simp only [h]
  | conversion hpass hselector h =>
    rw [text_of_prepares hpass hselector, h]
    rfl

/-! ### Runs on a tree -/

theorem run_bind {α β : Type} (first : StateM FileTree α) (next : α → StateM FileTree β) :
    (first >>= next).run tree = (next (first.run tree).1).run (first.run tree).2 := rfl

theorem run_read (path : String) : (FileAccess.read path : StateM FileTree _).run tree = (tree.read path, tree) := rfl

theorem run_readText (path : String) :
    (FileAccess.readText path : StateM FileTree _).run tree = (tree.read path >>= FileAccess.text, tree) := rfl

theorem run_eq : (run command : StateM FileTree Outcome).run tree =
    match command.text (tree.read command.input) (tree.read command.template >>= FileAccess.text) with
    | (.error failure, notices) => (⟨.error failure, notices.toList.map Log.Event.ofNotice⟩, tree)
    | (.ok text, notices) =>
      match (store command.output text : StateM FileTree _).run tree with
      | (.error failure, after) => (⟨.error failure, notices.toList.map Log.Event.ofNotice⟩, after)
      | (.ok (), after) =>
        (⟨.ok (), notices.toList.map Log.Event.ofNotice ++ [.written command.output text.utf8ByteSize]⟩, after) := by
  rw [run, run_bind, run_read, run_bind, run_readText]
  dsimp only
  rcases command.text (tree.read command.input) (tree.read command.template >>= FileAccess.text) with
    ⟨failure | text, notices⟩
  · rfl
  · dsimp only
    rw [run_bind]
    rcases (store command.output text : StateM FileTree _).run tree with ⟨failure | ⟨⟩, after⟩
    · rfl
    · rfl

theorem run_of_fails (h : command.Fails tree failure) :
    ∃ events, (run command : StateM FileTree Outcome).run tree = (⟨.error failure, events⟩, tree) := by
  have htext := text_of_fails h
  rw [run_eq]
  rcases hrun : command.text (tree.read command.input) (tree.read command.template >>= FileAccess.text) with
    ⟨outcome, notices⟩
  rw [hrun] at htext
  obtain rfl : outcome = .error failure := htext
  exact ⟨_, rfl⟩

theorem run_of_renders (h : command.Renders tree text) : ∃ events, (run command : StateM FileTree Outcome).run tree =
    (⟨((store command.output text : StateM FileTree _).run tree).1, events⟩,
      ((store command.output text : StateM FileTree _).run tree).2) := by
  obtain ⟨hpass, hselector, hrender⟩ := h
  have htext := text_of_prepares hpass hselector
  rw [hrender] at htext
  rw [run_eq]
  rcases hrun : command.text (tree.read command.input) (tree.read command.template >>= FileAccess.text) with
    ⟨outcome, notices⟩
  rw [hrun] at htext
  obtain rfl : outcome = .ok text := htext
  dsimp only
  rcases (store command.output text : StateM FileTree _).run tree with ⟨failure | ⟨⟩, after⟩
  · exact ⟨_, rfl⟩
  · exact ⟨_, rfl⟩

theorem program_eq {arguments : List String} (tree : FileTree) (logFilter : Option String)
    (h : ofArguments arguments = .ok command) :
    ∃ filter, (program arguments logFilter : StateM FileTree Report).run tree =
      (((run command : StateM FileTree Outcome).run tree).1.report filter,
        ((run command : StateM FileTree Outcome).run tree).2) := by
  rw [program, h]
  exact ⟨_, rfl⟩

/-! ### Writing -/

/-- What writing a text to a path has made of a tree: the file is there, nothing else that was there has changed, and
what is new besides are directories. -/
structure Stores (before : FileTree) (path : String) (content : List UInt8) (location : Location) (after : FileTree) :
    Prop where
  located : after.locate path = .ok location
  written : after.item? location = some (.file content)
  read_back : after.read path = .ok content
  kept : ∀ other ≠ location, ∀ item, before.item? other = some item → after.item? other = some item
  made : ∀ other ≠ location, ∀ item, after.item? other = some item → before.item? other = some item ∨ item = .directory

theorem grows_of_makeParent {path : String} {made : FileTree}
    (h : (makeParent path : StateM FileTree _).run tree = (.ok (), made)) : tree.Grows made := by
  rw [makeParent] at h
  split at h
  · rename_i parent hparent
    rw [run_bind] at h
    have hrun : (FileAccess.makeDirectories parent : StateM FileTree _).run tree =
      FileTree.change (·.makeDirectories parent) tree := rfl
    rw [hrun, FileTree.change] at h
    split at h
    · rename_i changed hchanged
      cases h
      exact FileTree.grows_makeDirectories hchanged
    · cases h
  · cases h
    exact .refl tree

theorem run_write (path : String) (content : List UInt8) :
    (FileAccess.write path content : StateM FileTree _).run tree = FileTree.change (·.write path content) tree := rfl

theorem store_eq {path : String} {made : FileTree}
    (h : (makeParent path : StateM FileTree _).run tree = (.ok (), made)) :
    (store path text : StateM FileTree _).run tree =
      match made.write path text.toUTF8.toList with
      | .ok written => (.ok (), written)
      | .error fault => (.error (.output path fault), made) := by
  rw [store, run_bind, h]
  dsimp only
  rw [run_bind, run_write, FileTree.change]
  rcases made.write path text.toUTF8.toList with fault | written
  · rfl
  · rfl

theorem exists_stores {path : String} (h : (store path text : StateM FileTree _).run tree = (.ok (), after)) :
    ∃ location, Stores tree path text.toUTF8.toList location after := by
  rcases hparent : (makeParent path : StateM FileTree _).run tree with ⟨failure | ⟨⟩, made⟩
  · rw [store, run_bind, hparent] at h
    cases h
  · rw [store_eq hparent] at h
    have hgrows := grows_of_makeParent hparent
    split at h
    · rename_i written hwritten
      cases h
      obtain ⟨location, hlocate, hread, hitem, hfree, hother⟩ := FileTree.write_eq_ok hwritten
      refine ⟨location, hlocate, hitem, hread, fun other hne item hbefore => ?_, fun other hne item hafter => ?_⟩
      · rw [hother other hne]
        exact hgrows.kept other item hbefore
      · rw [hother other hne] at hafter
        exact hgrows.made other item hafter
    · cases h

/-! ### Whole runs -/

theorem status_of_ok {outcome : Outcome} {filter : Log.Filter} (h : outcome.result = .ok ()) :
    (outcome.report filter).status = 0 := by
  rw [Outcome.report, h]

theorem status_of_error {outcome : Outcome} {filter : Log.Filter} (h : outcome.result = .error failure) :
    (outcome.report filter).status = 1 := by
  rw [Outcome.report, h]

/-- Run the program with arguments that it accepts, on any tree of files. Either something before writing fails, and
then so does the run, with status 1 and the tree as it was; or all of it succeeds, and then the run ends as writing its
text does. If that succeeds the status is 0, the file that the output path leads to holds the text, and nothing else
has changed but for directories that are new. -/
theorem program_stores_or_keeps (arguments : List String) (logFilter : Option String) (command : Command)
    (h : ofArguments arguments = .ok command) (tree : FileTree) :
    let outcome := ((run command : StateM FileTree Outcome).run tree).1
    let report := ((program arguments logFilter : StateM FileTree Report).run tree).1
    let after := ((program arguments logFilter : StateM FileTree Report).run tree).2
    ((run command : StateM FileTree Outcome).run tree).2 = after ∧
    ((∃ failure, command.Fails tree failure) ∨ ∃ text, command.Renders tree text) ∧
    (∀ failure, command.Fails tree failure → outcome.result = .error failure ∧ report.status = 1 ∧ after = tree) ∧
    (∀ text, command.Renders tree text →
      (∀ stored, (store command.output text : StateM FileTree _).run tree = (.ok (), stored) →
        outcome.result = .ok () ∧ report.status = 0 ∧
          ∃ location, Stores tree command.output text.toUTF8.toList location after) ∧
      (∀ failure stored, (store command.output text : StateM FileTree _).run tree = (.error failure, stored) →
        outcome.result = .error failure ∧ report.status = 1)) := by
  intro outcome report after
  obtain ⟨filter, hprogram⟩ := program_eq tree logFilter h
  have hreport : report = outcome.report filter := congrArg Prod.fst hprogram
  have hafter : after = ((run command : StateM FileTree Outcome).run tree).2 := congrArg Prod.snd hprogram
  refine ⟨hafter.symm, exists_fails_or_renders command tree, fun failure hfails => ?_, fun text hrenders => ?_⟩
  · obtain ⟨events, hrun⟩ := run_of_fails hfails
    have hresult : outcome.result = .error failure := congrArg (fun ending => ending.1.result) hrun
    refine ⟨hresult, ?_, ?_⟩
    · rw [hreport, status_of_error hresult]
    · rw [hafter, hrun]
  · obtain ⟨events, hrun⟩ := run_of_renders hrenders
    have hresult : outcome.result = ((store command.output text : StateM FileTree _).run tree).1 :=
      congrArg (fun ending => ending.1.result) hrun
    rw [hrun] at hafter
    refine ⟨fun stored hstore => ?_, fun failure stored hstore => ?_⟩
    · rw [hstore] at hresult hafter
      rw [hafter]
      refine ⟨hresult, ?_, exists_stores hstore⟩
      rw [hreport, status_of_ok hresult]
    · rw [hstore] at hresult
      refine ⟨hresult, ?_⟩
      rw [hreport, status_of_error hresult]

/-! ### A run that replaces its input, and one whose template is no text -/

theorem text_toUTF8 (text : String) : FileAccess.text text.toUTF8.toList = .ok text := by
  have hbytes : (⟨text.toUTF8.toList.toArray⟩ : ByteArray) = text.toUTF8 := by
    rw [ByteArray.toList, Json.toList_loop]
    rfl
  have hvalid : text.toUTF8.IsValidUTF8 := text.isValidUTF8
  rw [FileAccess.text, hbytes, String.fromUTF8?, dif_pos hvalid]
  rfl

def sizes : List (String × Option Node) := [("Size", some { type := some "string", values := some ["s", "x-l"] })]

def sizesAtRoot : Json.Value :=
  .object [("definitions", .object
    [("Size", .object [("type", .text "string"), ("enum", .list [.text "s", .text "x-l"])])])]

theorem writes_sizes : Document.Writes sizes sizesAtRoot :=
  .atRoot (by decide) (by decide) rfl (.filled "Size"
    (.object (by decide) (.present (.text "string")) .omitted .omitted .omitted (.present (.list _)) .omitted .omitted)
    .nil)

theorem load_sizes : Document.load sizesAtRoot.printed = .ok ⟨Definitions.ofSlots sizes⟩ :=
  Document.load_eq writes_sizes (Json.Value.writtenAs_printed _) (by decide)

def sizesPass (template : String) : Pass where
  document := ⟨Definitions.ofSlots sizes⟩
  root := "Kind"
  template := template
  root_ne := by decide

def sizesTypes : Registry := ⟨[⟨⟨"Size", []⟩, none, false, .enum ["s", "xl"]⟩]⟩

theorem registry_sizes (template : String) : (sizesPass template).registry {} = .ok sizesTypes := by cbv

theorem joinBlocks_sizes : joinBlocks (Pass.blocks sizesTypes) = "enum Size \x7b\n  s\n  xl\n\x7d" := by cbv

/-- A file that can be taken for an input, next to one that is no text. -/
def shelf (content : List UInt8) : FileTree where
  items := [(["w"], .directory), (["w", "in"], .file content), (["w", "bad"], .file [0xFF])]
  here := ["w"]

theorem read_shelf (content : List UInt8) : (shelf content).read "in" = .ok content := by cbv

theorem text_read_bad (content : List UInt8) : (shelf content).read "bad" >>= FileAccess.text = .error .notText := by
  cbv

theorem write_shelf (content content' : List UInt8) :
    (shelf content).write "in" content' = .ok ((shelf content).put ["w", "in"] (.file content')) := by cbv

theorem makeParent_in (tree : FileTree) : (makeParent "in" : StateM FileTree _).run tree = (.ok (), tree) := by cbv

theorem store_shelf (content : List UInt8) (text : String) :
    (store "in" text : StateM FileTree _).run (shelf content) =
      (.ok (), (shelf content).put ["w", "in"] (.file text.toUTF8.toList)) := by
  rw [store_eq (makeParent_in _), write_shelf]

/-- A command whose output is its input. -/
def inPlace (template : String) : Command where
  input := "in"
  template := template
  rootInterface := "Kind"
  output := "in"

def inPlaceArguments (template : String) : List String :=
  ["--input", "in", "--template=" ++ template, "-oin", "--root-interface", "Kind"]

theorem ofArguments_inPlace : ofArguments (inPlaceArguments "in") = .ok (inPlace "in") := by cbv

theorem ofArguments_bad : ofArguments (inPlaceArguments "bad") = .ok (inPlace "bad") := by cbv

def sizesShelf : FileTree := shelf sizesAtRoot.printed.toUTF8.toList

theorem renders_sizesShelf :
    (inPlace "in").Renders sizesShelf ("enum Size \x7b\n  s\n  xl\n\x7d" ++ "\n" ++ sizesAtRoot.printed) := by
  have htemplate : sizesShelf.read "in" >>= FileAccess.text = .ok sizesAtRoot.printed := by
    rw [sizesShelf, read_shelf]
    exact text_toUTF8 _
  have hpass : (inPlace "in").Prepares sizesShelf (sizesPass sizesAtRoot.printed) :=
    .intro (read_shelf _) load_sizes htemplate rfl
  refine ⟨hpass, rfl, ?_⟩
  rw [Pass.render, registry_sizes, ← joinBlocks_sizes]
  rfl

theorem fails_sizesShelf : (inPlace "bad").Fails sizesShelf (.template "bad" .notText) :=
  .template (read_shelf _) load_sizes (text_read_bad _)

theorem program_stores_or_keeps_sizesShelf :
    (ofArguments (inPlaceArguments "in") = .ok (inPlace "in") ∧
      ((program (inPlaceArguments "in") none : StateM FileTree Report).run sizesShelf).1.status = 0 ∧
      ((program (inPlaceArguments "in") none : StateM FileTree Report).run sizesShelf).2.read "in" =
        .ok ("enum Size \x7b\n  s\n  xl\n\x7d" ++ "\n" ++ sizesAtRoot.printed).toUTF8.toList) ∧
    ofArguments (inPlaceArguments "bad") = .ok (inPlace "bad") ∧
      ((program (inPlaceArguments "bad") none : StateM FileTree Report).run sizesShelf).1.status = 1 ∧
      ((program (inPlaceArguments "bad") none : StateM FileTree Report).run sizesShelf).2 = sizesShelf := by
  obtain ⟨-, -, -, hrenders⟩ := program_stores_or_keeps _ none _ ofArguments_inPlace sizesShelf
  obtain ⟨-, -, hfails, -⟩ := program_stores_or_keeps _ none _ ofArguments_bad sizesShelf
  obtain ⟨-, hstatus, location, hstores⟩ := (hrenders _ renders_sizesShelf).1 _ (store_shelf _ _)
  obtain ⟨-, hfailed, hkept⟩ := hfails _ fails_sizesShelf
  exact ⟨⟨ofArguments_inPlace, hstatus, hstores.read_back⟩, ofArguments_bad, hfailed, hkept⟩

end SchemaSdl.Command
