import ArityLadder.Text.Unprintable
import ArityLadder.Text.Extending

/-!
# Quoted text

A text between double quotes in which every character can be seen: quotes and
backslashes are escaped, line ends and tabs have short escapes, and a character
that leaves no mark of its own is given by its hexadecimal position.

Main results:

- Theorem `Text.escape_eq_self`: a printable character other than a quote or a
  backslash stands for itself.
-/

namespace ArityLadder

namespace Text

/-- The hexadecimal position of a character, between braces. -/
def positionEscape (c : Char) : List Char :=
  '\\' :: 'u' :: '\x7b' :: (Nat.toDigits 16 c.toNat ++ ['\x7d'])

/-- A character inside quotes. -/
def escape (c : Char) : List Char :=
  if c = '\x00' then ['\\', '0']
  else if c = '\t' then ['\\', 't']
  else if c = '\r' then ['\\', 'r']
  else if c = '\n' then ['\\', 'n']
  else if c = '"' ∨ c = '\\' then ['\\', c]
  else if isExtending c ∨ isUnprintable c then positionEscape c
  else [c]

/-- A text between double quotes. -/
def quoted (text : String) : String :=
  String.ofList ('"' :: (text.toList.flatMap escape ++ ['"']))

/-- A printable character other than a quote or a backslash stands for itself. -/
theorem escape_eq_self {c : Char} (visible : isUnprintable c = false)
    (alone : isExtending c = false) (quote : c ≠ '"') (slash : c ≠ '\\') : escape c = [c] := by
  have h0 : c ≠ '\x00' := fun h => by subst h; exact absurd visible (by decide)
  have h1 : c ≠ '\t' := fun h => by subst h; exact absurd visible (by decide)
  have h2 : c ≠ '\r' := fun h => by subst h; exact absurd visible (by decide)
  have h3 : c ≠ '\n' := fun h => by subst h; exact absurd visible (by decide)
  simp [escape, h0, h1, h2, h3, quote, slash, visible, alone]

end Text

end ArityLadder
