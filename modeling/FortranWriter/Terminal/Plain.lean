import FortranWriter.Text.Basic
/-! What is left of a text where nothing can follow escape sequences: the characters that show, and
the white space between them. -/
namespace FortranWriter.Terminal

/-- What a terminal has before it: text, or some part of a sequence. Strings end at their own
closing byte, and titles at a bell. -/
inductive Stage where
  | text
  | escape
  | escapeTail
  | control
  | device
  | deviceNumbers
  | deviceTail
  | string
  | title
deriving DecidableEq, Repr

/-- White space that moves on, even in the middle of a sequence. -/
def isAdvance (c : Char) : Bool :=
  c == '\t' || c == '\n' || c == '\x0c' || c == '\r'

def isControl (c : Char) : Bool :=
  c < ' ' || c == '\x7f'

/-- The byte that closes a string, as it may be found inside a character. -/
def closesString (c : Char) : Bool :=
  (String.utf8EncodeChar c).contains 0x9c

namespace Stage

/-- The stage behind a character that does not show. Controls are passed over in any sequence, but a
bell ends a title, and so are characters past ASCII but for the bytes that close strings. -/
def behind (stage : Stage) (c : Char) : Stage :=
  if c < ' ' then
    if stage = title && c = '\x07' then text else stage
  else if '\x7f' ≤ c then
    if stage = string && closesString c then text else stage
  else
    match stage with
    | text => text
    | escape =>
      if c < '0' then escapeTail
      else if c = '[' then control
      else if c = ']' then title
      else if c = 'P' then device
      else if c = 'X' || c = '^' || c = '_' then string
      else text
    | escapeTail => if c < '0' then escapeTail else text
    | control => if c < '@' then control else text
    | device =>
      if c < '0' then deviceTail else if c = ':' || '@' ≤ c then string else deviceNumbers
    | deviceNumbers =>
      if c < '0' then deviceTail else if c = ':' || '<' ≤ c then string else deviceNumbers
    | deviceTail => if c < '0' then deviceTail else string
    | string => string
    | title => title

def isOpen (stage : Stage) : Bool :=
  match stage with
  | text | escape | escapeTail | control => true
  | device | deviceNumbers | deviceTail | string | title => false

end Stage

/-- What shows of a text, from some stage on. White space may show in the middle of a sequence, and
then all that follows it does up to a control, where the sequence goes on unless a character past
ASCII has ended it. Sequences can be broken off at any place, or begun anew. -/
def plainFrom (stage : Stage) (isShowing : Bool) : Text → Text
  | [] => []
  | c :: rest =>
    if c = '\x1b' then plainFrom .escape false rest
    else if c = '\x18' || c = '\x1a' then plainFrom .text true rest
    else if (isAdvance c && stage.isOpen) || (isShowing && !isControl c) then
      c :: plainFrom (if c < '\x7f' then stage else .text) true rest
    else
      let stage := stage.behind c
      plainFrom stage (stage == .text) rest

def plain : Text → Text :=
  plainFrom .text true

end FortranWriter.Terminal
