import TrustGate.Terminal.Style

/-!
# Colours of the screen

The palette, and the styles that name what it is used for.
-/

namespace TrustGate.Theme

open Terminal

def quietBorder : Color := .rgb 67 76 94

/-- The colour of what matters less. -/
def secondaryText : Color := .rgb 76 86 106

def primaryText : Color := .rgb 216 222 233

/-- The colour of what has the focus, and of messages. -/
def accent : Color := .rgb 136 192 208

def link : Color := .rgb 129 161 193

def error : Color := .rgb 191 97 106

/-- The colour of what waits for a decision. -/
def warning : Color := .rgb 235 203 139

def success : Color := .rgb 163 190 140

def inactive : Color := .gray

def focusedBackground : Color := .rgb 40 40 40

def divider : Color := .rgb 50 50 50

def colored (color : Color) : Style :=
  { foreground? := some color }

def button (focused : Bool) : Style :=
  if focused then
    { foreground? := some accent, background? := some focusedBackground, bold := true }
  else colored secondaryText

end TrustGate.Theme
