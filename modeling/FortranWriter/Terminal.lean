import FortranWriter.Text.Basic
/-! Escape sequences, by which a terminal is told how to show text. -/
namespace FortranWriter.Terminal

def escape : Char := '\x1b'

def sequence (parameters : Text) : Text :=
  escape :: '[' :: parameters ++ ['m']

/-- A text between the sequences that turn a way of showing it on and off. -/
def between (on off : String) (t : Text) : Text :=
  sequence on.toList ++ t ++ sequence off.toList

def bold : Text → Text := between "1" "0"

def dim : Text → Text := between "2" "0"

def italic : Text → Text := between "3" "0"

def brightRed : Text → Text := between "91" "39"

def brightBlue : Text → Text := between "94" "39"

def green : Text → Text := between "32" "0"

def yellow : Text → Text := between "33" "0"

def blue : Text → Text := between "34" "0"

def boldRed (t : Text) : Text :=
  sequence ['1'] ++ between "31" "0" t

def boldUnderlined (t : Text) : Text :=
  sequence ['1'] ++ between "4" "0" t

end FortranWriter.Terminal
