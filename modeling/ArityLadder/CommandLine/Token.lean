import ArityLadder.CommandLine

/-!
# Tokens of a command line

The arguments that ask for a command line.  Each part of a command line is one
token, and the sections that are asked for may be spread over several tokens.
-/

namespace ArityLadder

/-- A part of a command line, as one argument. -/
inductive Token where
  | fieldCount (value : Int64)
  | start (value : Int64)
  | only (kinds : List Section)
  | indent (style : IndentStyle)
  | indentWidth (value : UInt64)
  | noColor
  | config (path : String)
  /-- Spelled `-v` or `--verbose`. -/
  | verbose (short : Bool)
deriving DecidableEq

namespace Token

/-- The argument that a token is written as. -/
def text : Token → String
  | fieldCount value => toString value.toInt
  | start value => "--from=" ++ toString value.toInt
  | only kinds => "--only=" ++ ",".intercalate (kinds.map Section.name)
  | indent style => "--indent=" ++ style.name
  | indentWidth value => "--indent-width=" ++ toString value.toNat
  | noColor => "--no-color"
  | config path => "--config=" ++ path
  | verbose true => "-v"
  | verbose false => "--verbose"

end Token

/-- The tokens of a command line, where the sections asked for are spread over lists and
the last flag is spelled in a short way or not. -/
def CommandLine.tokensWith (line : CommandLine) (lists : List (List Section)) (short : Bool) :
    List Token :=
  .fieldCount line.fieldCount ::
    ((line.start.map Token.start).toList ++ lists.map Token.only ++
      (line.indent.map Token.indent).toList ++
      (line.indentWidth.map Token.indentWidth).toList ++
      (if line.noColor then [.noColor] else []) ++
      (line.config.map Token.config).toList ++
      (if line.verbose then [.verbose short] else []))

end ArityLadder
