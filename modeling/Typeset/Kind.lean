/-!
# Kinds of nodes

The kinds of lists, blocks, quoted spans and anchors that have a template, and the names they go by.
A kind without a template is kept under its name. Every canonical name is read back as its own kind.
-/

namespace Typeset

/-- A kind name without the colon that may mark it as a symbol. -/
def bareName (name : String) : String :=
  match name.toList with
  | ':' :: rest => String.ofList rest
  | _ => name

/-- The kinds of lists. -/
inductive ListKind where
  | ordered
  | unordered
  | other (name : String)
  deriving DecidableEq, Repr

namespace ListKind

/-- The kind that a bare name stands for. -/
def ofBareName : String → ListKind
  | "olist" | "ordered" => ordered
  | "ulist" | "unordered" => unordered
  | name => other name

/-- The kind that a name stands for. -/
def ofName (name : String) : ListKind :=
  ofBareName (bareName name)

/-- The canonical name of a kind. -/
def name : ListKind → String
  | ordered => "ordered"
  | unordered => "unordered"
  | other name => name

/-- The environment that typesets a list, if its kind has one. -/
def environment? : ListKind → Option String
  | ordered => some "enumerate"
  | unordered => some "itemize"
  | other _ => none

end ListKind

/-- The kinds of blocks. -/
inductive BlockKind where
  | paragraph
  | stem
  | admonition
  | pageBreak
  | literal
  | pass
  | other (name : String)
  deriving DecidableEq, Repr

namespace BlockKind

/-- The kind that a bare name stands for. -/
def ofBareName : String → BlockKind
  | "paragraph" => paragraph
  | "stem" => stem
  | "admonition" => admonition
  | "page_break" => pageBreak
  | "literal" | "listing" => literal
  | "pass" => pass
  | name => other name

/-- The kind that a name stands for. -/
def ofName (name : String) : BlockKind :=
  ofBareName (bareName name)

/-- The canonical name of a kind. -/
def name : BlockKind → String
  | paragraph => "paragraph"
  | stem => "stem"
  | admonition => "admonition"
  | pageBreak => "page_break"
  | literal => "literal"
  | pass => "pass"
  | other name => name

end BlockKind

/-- The kinds of quoted spans. -/
inductive QuotedKind where
  | strong
  | emphasis
  | math
  | monospace
  | plain
  | other (name : String)
  deriving DecidableEq, Repr

namespace QuotedKind

/-- The kind that a bare name stands for. -/
def ofBareName : String → QuotedKind
  | "strong" => strong
  | "emphasis" => emphasis
  | "math" | "asciimath" | "latexmath" => math
  | "monospaced" | "monospace" => monospace
  | "unquoted" | "plain" => plain
  | name => other name

/-- The kind that a name stands for. -/
def ofName (name : String) : QuotedKind :=
  ofBareName (bareName name)

/-- The canonical name of a kind. -/
def name : QuotedKind → String
  | strong => "strong"
  | emphasis => "emphasis"
  | math => "math"
  | monospace => "monospace"
  | plain => "plain"
  | other name => name

end QuotedKind

/-- The kinds of anchors. -/
inductive AnchorKind where
  | link
  | label
  | crossReference
  | other (name : String)
  deriving DecidableEq, Repr

namespace AnchorKind

/-- The kind that a bare name stands for. -/
def ofBareName : String → AnchorKind
  | "link" => link
  | "ref" | "label" => label
  | "xref" | "cross_reference" => crossReference
  | name => other name

/-- The kind that a name stands for. -/
def ofName (name : String) : AnchorKind :=
  ofBareName (bareName name)

/-- The canonical name of a kind. -/
def name : AnchorKind → String
  | link => "link"
  | label => "label"
  | crossReference => "cross_reference"
  | other name => name

end AnchorKind

/-- The kinds of inline nodes. -/
inductive InlineKind where
  | quoted (kind : QuotedKind)
  | anchor (kind : AnchorKind)
  | lineBreak
  | other (name : String)
  deriving DecidableEq, Repr

namespace InlineKind

/-- The full name of an inline kind, with its family in front. -/
def name : InlineKind → String
  | quoted kind => "quoted:" ++ kind.name
  | anchor kind => "anchor:" ++ kind.name
  | lineBreak => "line_break"
  | other name => name

end InlineKind

end Typeset
