import Typeset.FileSystem
import Typeset.Json.Cause

/-!
# Failures

What stops a program: a file that cannot be read or written, or a text in it that is not of the
right form. A message says all of what is wrong but for two things: where in a tree file its cause
was met, and what is wrong with a configuration file, of which only the kind is given.
-/

namespace Typeset

/-- Why a program stops. -/
inductive Failure where
  /-- The tree file cannot be read. -/
  | unreadableTree (path : String) (error : FileError)
  /-- The tree file holds no tree. -/
  | invalidTree (cause : Json.Cause)
  /-- A fragment cannot be read. -/
  | unreadableFragment (name path : String) (error : FileError)
  /-- The configuration file cannot be read. -/
  | unreadableConfig (path : String) (error : FileError)
  /-- The configuration file holds no configuration. -/
  | invalidConfig
  /-- Another file cannot be read or written. -/
  | file (error : FileError)
  deriving Repr

/-- The message of a failure. For a tree file the line and the column are left out, for a
configuration file the words that the TOML reader has for its mistake. -/
def Failure.message : Failure → String
  | unreadableTree path error =>
    "Source tree error: Failed to read " ++ path ++ ": " ++ error.message
  | invalidTree cause => "Source tree error: Invalid node tree: " ++ cause.message
  | unreadableFragment name path error =>
    "Fragment error: Failed to read " ++ name ++ " from " ++ path ++ ": " ++ error.message
  | unreadableConfig path error => "Config error: Failed to read " ++ path ++ ": " ++ error.message
  | invalidConfig => "Config error: Invalid TOML"
  | file error => "IO error: " ++ error.message

end Typeset
