/-!
# Diagnostics

What a rendering could not handle. A diagnostic never stops a rendering: its node renders empty.
-/

namespace Typeset

/-- Something that has no rule. -/
inductive Diagnostic where
  /-- A kind without a template, in the family of kinds that `variant` names. -/
  | unrecognizedKind (variant kind : String) (excerpt : Option String)
  /-- A tree node whose name says nothing. -/
  | unrecognizedVariant (name : String)
  /-- A role that is neither configured nor a colour. -/
  | unrecognizedRole (role text : String)
  /-- A section level without a sectioning command. -/
  | unsupportedSectionLevel (level : Nat) (title : String)
  deriving DecidableEq, Repr

namespace Diagnostic

/-- The words that point at the excerpt, if there is one. -/
def excerptWords : Option String → String
  | none => ""
  | some excerpt => " near `" ++ excerpt ++ "`"

/-- The message of a diagnostic. -/
def message : Diagnostic → String
  | unrecognizedKind variant kind excerpt =>
    "Unrecognized " ++ variant ++ " kind `" ++ kind ++ "`" ++ excerptWords excerpt
  | unrecognizedVariant name => "Unrecognized node `" ++ name ++ "`"
  | unrecognizedRole role text => "Unrecognized role `" ++ role ++ "` on text `" ++ text ++ "`"
  | unsupportedSectionLevel level title =>
    "Unsupported section level " ++ toString level ++ " for `" ++ title ++ "`"

end Diagnostic

end Typeset
