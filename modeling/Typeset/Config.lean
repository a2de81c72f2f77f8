import Typeset.Dictionary
import Typeset.Journal
import Typeset.Path
import Typeset.Toml.Document

/-!
# Configurations

A configuration sets the verbosity, the paths of the fragments, and the roles. It is read from a
TOML document; whatever the document leaves out keeps its default, and names it does not know are
passed over.
-/

namespace Typeset

/-- The paths of the fragments, for those that are not built in. -/
structure FragmentPaths where
  preamble : Option String
  macros : Option String
  userMacros : Option String
  deriving DecidableEq, Repr

namespace FragmentPaths

/-- No paths: all fragments are built in. -/
def unset : FragmentPaths where
  preamble := none
  macros := none
  userMacros := none

/-- Changes every path that is set. -/
def map (f : String → String) (paths : FragmentPaths) : FragmentPaths where
  preamble := paths.preamble.map f
  macros := paths.macros.map f
  userMacros := paths.userMacros.map f

/-- The paths as seen from a base. -/
def relativeTo (base : String) (paths : FragmentPaths) : FragmentPaths :=
  paths.map (Path.join base)

end FragmentPaths

/-- A configuration. -/
structure Config where
  verbosity : Verbosity
  fragments : FragmentPaths
  roles : Dictionary
  deriving DecidableEq, Repr

namespace Config

/-- The configuration that sets nothing. -/
def default : Config where
  verbosity := ⟨false, false⟩
  fragments := .unset
  roles := .empty

instance : Inhabited Config where
  default := default

open Toml (Item Entries)

/-- A truth value under a name, false where there is none. -/
def flag? (entries : Entries) (name : String) : Option Bool :=
  match entries.lookup name with
  | none => some false
  | some (.boolean value) => some value
  | some _ => none

/-- A path under a name, where there is one. -/
def path? (entries : Entries) (name : String) : Option (Option String) :=
  match entries.lookup name with
  | none => some none
  | some (.text value) => some (some value)
  | some _ => none

/-- The paths in a table, or those at the front of an array. A moment is a table that names no path.
-/
def fragmentPaths? (entries : Entries) : Option FragmentPaths :=
  match entries.lookup "fragments" with
  | none => some .unset
  | some (.table _ paths) => do
    let preamble ← path? paths "preamble"
    let macros ← path? paths "macros"
    let userMacros ← path? paths "user_macros"
    return { preamble, macros, userMacros }
  | some (.array (.text preamble :: .text macros :: .text userMacros :: _)) =>
    some { preamble, macros, userMacros }
  | some (.moment _) => some .unset
  | some _ => none

/-- The name under which a moment stands where a table is wanted. -/
def momentName : String :=
  "$__toml_private_datetime"

/-- The texts of a table under their names. -/
def texts? : Entries → Option (List (String × String))
  | [] => some []
  | (name, .text text) :: entries => (texts? entries).map ((name, text) :: ·)
  | _ => none

/-- The roles: a table of texts. A moment is a table with one entry. -/
def roles? (entries : Entries) : Option Dictionary :=
  match entries.lookup "roles" with
  | none => some .empty
  | some (.table _ roles) => (texts? roles).map .ofList
  | some (.moment text) => some (.ofList [(momentName, text)])
  | some _ => none

/-- The configuration in a table. -/
def ofEntries? (entries : Entries) : Option Config := do
  let verbose ← flag? entries "verbose"
  let quiet ← flag? entries "quiet"
  let fragments ← fragmentPaths? entries
  let roles ← roles? entries
  return { verbosity := { verbose, quiet }, fragments, roles }

/-- The configuration that a text describes, unless it describes none. -/
def parse? (text : String) : Option Config :=
  (Toml.parse text).bind ofEntries?

end Config

end Typeset
