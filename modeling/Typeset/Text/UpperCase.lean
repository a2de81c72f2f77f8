import Typeset.Text.CaseTable

/-!
# Upper case

The upper case of a text, character by character. A character may grow into several (`ß` becomes
`SS`), and one without an upper case stays as it is.
-/

namespace Typeset.Text

/-- The upper case of one character. -/
def upperCaseOf (c : Char) : List Char :=
  if c.toNat < 128 then [c.toUpper]
  else
    match expansions.lookup c.toNat with
    | some codes => codes.map Char.ofNat
    | none =>
      match CaseRun.all.find? (·.covers c.toNat) with
      | some run => [Char.ofNat (run.upper c.toNat)]
      | none => [c]

/-- The upper case of a text. -/
def upperCase (text : String) : String :=
  String.ofList (text.toList.flatMap upperCaseOf)

end Typeset.Text
