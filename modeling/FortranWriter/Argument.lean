import FortranWriter.Refusal
/-! Checks of the texts that statements are made of. -/
namespace FortranWriter.Argument

/-- A statement takes exactly one line, so every text in it does. -/
def singleLine (what value : Text) : Except Refusal Text :=
  if value.isSingleLine then .ok value else .error (.multiLine what)

/-- A text that has to be there. It is passed on as it is. -/
def required (what value : Text) : Except Refusal Text :=
  if value.isAllBlank then .error (.empty what) else singleLine what value

/-- Items with a comma and a space between each two. -/
def join (items : List Text) : Text :=
  Text.joinWith ", ".toList items

/-- A list that may be empty, none of whose entries may be blank. -/
def optionalList (what : Text) (items : List Text) : Except Refusal Text := do
  items.forM fun item => discard (required what item)
  return join items

def requiredList (what : Text) (items : List Text) : Except Refusal Text :=
  if items.isEmpty then .error (.emptyList what) else optionalList what items

end FortranWriter.Argument
