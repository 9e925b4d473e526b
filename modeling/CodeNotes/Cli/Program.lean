import CodeNotes.Cli.Spec
set_option autoImplicit false

/-!
# The `notter` command line

Normative source: SPEC_FULL.md §11.4 (Command line front end: the commands and their
arguments).

The commands, arguments and texts of the program's command line, written as data, and
the completed description every other part of the command line reads.
-/

namespace CodeNotes.Cli

/-- The version the program reports. -/
def programVersion : String := "0.1.0"

/-- The shells completion scripts are written for. -/
def shells : List Choice := [⟨"bash", none⟩, ⟨"elvish", none⟩, ⟨"fish", none⟩, ⟨"powershell", none⟩, ⟨"zsh", none⟩]

/-- The kinds a listing can be limited to. -/
def kindChoices : List Choice :=
  [⟨"note", some "Plain comment or note"⟩, ⟨"todo", some "Comment carrying one of the configured tags"⟩]

/-- The output formats of the listing commands. -/
def formatChoices : List Choice :=
  [⟨"text", some "Human-readable text output (default)"⟩, ⟨"json", some "Machine-readable JSON output"⟩]

/-- The output format option. -/
def formatArg : Arg :=
  { id := "format", long := some "format", valueName := "FORMAT", help := "Output format",
    values := .choice formatChoices, default := some "text" }

/-- A positional file argument. -/
def fileArg : Arg :=
  { id := "file", valueName := "FILE", help := "File the note belongs to", values := .path, required := true }

/-- A positional line argument with its description. -/
def lineArg (help : String) (least : Nat) : Arg :=
  { id := "line", valueName := "LINE", help, values := .line least, required := true }

/-- The commands as written. -/
def programSpec : Interface where
  name := "notter"
  about := some "Notes and TODOs that live in your source comments"
  longAbout := some "Notter scans a source tree for comments in every supported language\nand keeps a notes database in step with them. Comments carrying a tag\nsuch as TODO or FIXME become TODO notes; the rest become plain notes."
  afterHelp := some "EXAMPLES:\n    notter init .                   Track the current directory\n    notter scan                     Collect notes from comments\n    notter list --kind todo         List TODO notes\n    notter show src/lib.rs 42       View one note\n    notter search \"retry\"           Search note text\n    notter export                   Write TODOs to todos.json\n\nFor more information about a command, run 'notter <command> --help'."
  version := some programVersion
  subcommandRequired := true
  args := [{ id := "verbose", short := some 'v', long := some "verbose", effect := .setTrue,
             help := "Enable verbose output for debugging", global := true }]
  subcommands := [
    { name := "init", about := some "Set up Notter for a source folder",
      longAbout := some "Creates a .notter/ directory inside the source folder holding\nthe configuration and the notes database. The directory is never\nscanned."
      afterHelp := some "EXAMPLES:\n    notter init .            Track the current directory\n    notter init ~/src/app    Track another source folder"
      args := [{ id := "src", valueName := "SRC", help := "Source folder to track", values := .path, required := true }] },
    { name := "scan", about := some "Discover comments and bring the notes up to date",
      longAbout := some "Scans the source tree (or a single file with --file) and makes\nthe stored notes match the comments found: new comments are added,\nchanged ones updated, and notes whose comment is gone are removed.\nScanning a file that no longer exists removes all of its notes."
      afterHelp := some "EXAMPLES:\n    notter scan                      Scan the whole source tree\n    notter scan --tag hack --tag xxx Use custom tags for this run\n    notter scan --file src/main.rs   Refresh the TODOs of one file"
      args := [
        { id := "tags", short := some 't', long := some "tag", valueName := "TAG", effect := .append,
          help := "Tag marking a comment as a TODO (repeatable, overrides the config)" },
        { id := "file", short := some 'f', long := some "file", valueName := "PATH", values := .path,
          help := "Only scan this file" }] },
    { name := "list", about := some "List stored notes"
      afterHelp := some "EXAMPLES:\n    notter list                     List every note\n    notter list --kind todo         Only TODO notes\n    notter list --file src/lib.rs   Notes of one file\n    notter list --format json       Machine-readable output"
      args := [
        { id := "kind", short := some 'k', long := some "kind", valueName := "KIND", values := .choice kindChoices,
          help := "Only show notes of this kind" },
        { id := "file", short := some 'f', long := some "file", valueName := "PATH", values := .path,
          help := "Only show notes of this file" },
        formatArg] },
    { name := "show", about := some "Show a single note"
      afterHelp := some "EXAMPLES:\n    notter show src/lib.rs 42"
      args := [fileArg, lineArg "Line the note is anchored at (1-based)" 0, formatArg] },
    { name := "search", about := some "Search note text"
      afterHelp := some "EXAMPLES:\n    notter search refactor\n    notter search \"race condition\" --format json"
      args := [{ id := "query", valueName := "QUERY", help := "Text to look for (case-insensitive)", required := true },
        formatArg] },
    { name := "add", about := some "Add a note by hand"
      afterHelp := some "EXAMPLES:\n    notter add src/lib.rs 10 \"Explain the retry loop\"\n    notter add src/lib.rs 12 \"Handle timeouts\" --todo"
      args := [fileArg, lineArg "Line to anchor the note at (1-based)" 1,
        { id := "text", valueName := "TEXT", help := "Note text", required := true },
        { id := "todo", long := some "todo", effect := .setTrue, help := "Store as a TODO regardless of tags" }] },
    { name := "edit", about := some "Replace the text of a note"
      afterHelp := some "EXAMPLES:\n    notter edit src/lib.rs 10 \"Explain the backoff too\""
      args := [fileArg, lineArg "Line the note is anchored at (1-based)" 0,
        { id := "text", valueName := "TEXT", help := "New note text", required := true }] },
    { name := "delete", about := some "Delete a note"
      afterHelp := some "EXAMPLES:\n    notter delete src/lib.rs 10"
      args := [fileArg, lineArg "Line the note is anchored at (1-based)" 0] },
    { name := "export", about := some "Export TODO notes as JSON"
      afterHelp := some "EXAMPLES:\n    notter export                     Write ./todos.json\n    notter export -o build/todos.json Write somewhere else"
      args := [{ id := "output", short := some 'o', long := some "output", valueName := "FILE", values := .path,
                 help := "Write to this file instead of todos.json in the current directory" }] },
    { name := "config", about := some "View and manage configuration settings",
      longAbout := some "Provides subcommands to show, get, and set configuration values.\nConfiguration is stored in .notter/config.json under the source root."
      afterHelp := some "EXAMPLES:\n    notter config show\n    notter config get tags\n    notter config set tags TODO,FIXME,HACK\n    notter config set exclude 'vendor/**,target/**'"
      subcommands := [
        { name := "show", about := some "Show current configuration" },
        { name := "get", about := some "Get a configuration value",
          args := [{ id := "key", valueName := "KEY", required := true }] },
        { name := "set", about := some "Set a configuration value (lists are comma-separated)",
          args := [{ id := "key", valueName := "KEY", required := true },
                   { id := "value", valueName := "VALUE", required := true }] }] },
    { name := "destroy", about := some "Remove the .notter directory and every stored note"
      afterHelp := some "EXAMPLES:\n    notter destroy           Prompts for confirmation\n    notter destroy --force   Delete without confirmation"
      args := [{ id := "force", long := some "force", effect := .setTrue, help := "Skip the confirmation prompt" }] },
    { name := "completions", about := some "Generate shell completion scripts"
      afterHelp := some "EXAMPLES:\n    notter completions bash > ~/.local/share/bash-completion/completions/notter\n    notter completions zsh > ~/.zfunc/_notter\n    notter completions fish > ~/.config/fish/completions/notter.fish"
      args := [{ id := "shell", valueName := "SHELL", help := "Shell to generate completions for",
                 values := .choice shells, required := true }] }]

/-- The completed command line, as command lines are read. -/
def program : Interface := Interface.complete false [] 8 programSpec

/-- The completed command line, as shell completion sees it. -/
def completionProgram : Interface := Interface.complete true [] 8 programSpec

end CodeNotes.Cli
