import FortranWriter.CommandLine.Command
/-! The commands of the program. -/
namespace FortranWriter.CommandLine

def path (choose : Text → Choices → Choices) : ValueReader := fun given =>
  if given.isEmpty then .error .missing else .ok (choose given)

def named {α : Type} (ofName? : Text → Option α) (unknown : Text → Text)
    (choose : α → Choices → Choices) : ValueReader := fun given =>
  match ofName? given with
  | some a => .ok (choose a)
  | none => .error (.invalid (unknown given))

def count (choose : Nat → Choices → Choices) : ValueReader := fun given =>
  match Numeral.read (Nat.pow 2 64) given with
  | .ok n => .ok (choose n)
  | .error fault => .error (.invalid fault.message)

def commonSwitches : List Switch :=
  [{ letter := some 'v', name := "verbose".toList
     effect := .turnOn fun choices => { choices with verbose := true }
     help := "Log what is being done to stderr.".toList
     rank := 0 },
    { letter := some 'h', name := "help".toList
      effect := .showHelp
      help := "Print help".toList
      rank := 6 },
    { letter := some 'V', name := "version".toList
      effect := .showVersion
      help := "Print version".toList
      rank := 6 }]

def filename : Operand :=
  { name := "filename".toList
    read := path fun given choices => { choices with filename := some given }
    help := "The TOML file describing the statements to generate.".toList }

def root : Command :=
  { words := ["macrofor".toList]
    about := "Generate Fortran source code from statement descriptions.".toList
    switches := commonSwitches }

def check : Command :=
  { words := ["macrofor".toList, "check".toList]
    about := "Validate the given descriptor without writing anything".toList
    switches := commonSwitches
    operand := some filename }

def generate : Command :=
  { words := ["macrofor".toList, "generate".toList]
    about := "Generate Fortran source from the given descriptor".toList
    switches :=
      [{ letter := some 'o', name := "output".toList
         effect := .value (path fun given choices => { choices with output := some given })
         help := "Write to this file, creating any missing directories. ".toList ++
           "Without it, source is written to stdout.".toList
         rank := 0 },
        { name := "style".toList
          effect := .value (named SourceForm.ofName? SourceForm.unknownName fun form choices =>
            { choices with form := some form })
          help := "Source form to lay out: fixed or free.".toList
          rank := 1 },
        { name := "line-ending".toList
          effect := .value (named LineEnding.ofName? LineEnding.unknownName fun ending choices =>
            { choices with lineEnding := some ending })
          help := "Line ending to use: native, lf, or crlf.".toList
          rank := 2 },
        { name := "encoding".toList
          effect := .value (named Encoding.ofName? Encoding.unknownName fun encoding choices =>
            { choices with encoding := some encoding })
          help := "Character encoding of the output: utf-8, latin1, or ascii.".toList
          rank := 3 },
        { name := "max-line-length".toList
          effect := .value (count fun n choices => { choices with maxLineLength := some n })
          help := "Column at which statements are continued onto the next line.".toList
          rank := 4 },
        { letter := some 'R', name := "raw-control-chars".toList
          effect := .turnOn fun choices => { choices with coloured := true }
          help := "Emit ANSI escape codes for syntax highlighting ".toList ++
            "even if output is redirected to a pipe or file.".toList
          rank := 5 }] ++ commonSwitches
    operand := some filename }

def commands : List Command :=
  [check, generate]

end FortranWriter.CommandLine
