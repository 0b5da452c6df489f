import FortranWriter.Assembly
import FortranWriter.CommandLine.Command
import FortranWriter.Descriptor
import FortranWriter.Files.Path
import FortranWriter.Highlight.Markup
import FortranWriter.Listing
/-! From a descriptor to source text: its settings, and what is chosen in their place. -/
namespace FortranWriter
namespace Descriptor

def fragments (descriptor : Descriptor) : Except Refusal (List Fragment) := do
  let settings := descriptor.settings
  let supply ← LabelSupply.starting (settings.firstLabel.getD 100) (settings.labelStep.getD 100)
  ((Assembly.statements descriptor.statements).run.run supply).1

/-- The name of the file that a path leads to, for banners. -/
def sourceName (filename : Text) : Text :=
  (Path.fileName? filename).getD filename

/-- What is chosen on the command line counts before the settings, and these before the usual. -/
def emission (descriptor : Descriptor) (filename : Text) (choices : CommandLine.Choices) :
    Emission :=
  let settings := descriptor.settings
  let usual : Emission := {}
  { form := (choices.form <|> settings.form).getD usual.form
    lineEnding := (choices.lineEnding <|> settings.lineEnding).getD usual.lineEnding
    encoding := (choices.encoding <|> settings.encoding).getD usual.encoding
    maxLineLength := choices.maxLineLength <|> settings.maxLineLength
    banner := if settings.banner = some true then some (sourceName filename) else none }

end Descriptor

/-- Source text with highlighting for a terminal, in UTF-8 whatever encoding is asked for. -/
def highlightedBytes (fragments : List Fragment) (emission : Emission) :
    Except Refusal ByteArray := do
  let text ← render fragments emission
  return Text.bytes (Highlight.display Highlight.onTerminal text emission.form)

end FortranWriter
