/-!
# Tones

Terminal colours for headers and for rejected input.  Fragments are never painted.
-/

namespace ArityLadder

/-- What a coloured text is. -/
inductive Tone where
  /-- The header of a section. -/
  | heading
  /-- The report of a rejection. -/
  | failure
deriving DecidableEq

namespace Tone

/-- The escape that starts a tone. -/
def code : Tone → String
  | heading => "\x1b[96m"
  | failure => "\x1b[91m"

/-- The escape that ends every tone. -/
def reset : String := "\x1b[0m"

/-- The text in a tone, or as it is where colour is off. -/
def paint (tone : Tone) (enabled : Bool) (text : String) : String :=
  if enabled then tone.code ++ text ++ reset else text

end Tone

end ArityLadder
