import Typeset.Diagnostic
import Typeset.DisplayMath.Strip
import Typeset.Fragments
import Typeset.Latex
import Typeset.Node
import Typeset.Roles
import Typeset.Text.UpperCase

/-!
# Templates

How each node is written once its content is finished text. A node without a template is answered by
the one diagnostic that says so; `Node.text?` gives the text or the diagnostic, never both.
-/

namespace Typeset

/-- What the templates draw on besides the node: the configured roles and the fragments. -/
structure Style where
  roles : Dictionary
  fragments : Fragments
  deriving DecidableEq, Repr

/-- The sectioning commands, from the first level down. -/
def sectionCommands : List String :=
  ["section", "subsection", "subsubsection", "paragraph", "subparagraph"]

/-- The sectioning command of a level. Levels count from one. -/
def sectionCommand? : Nat → Option String
  | 0 => none
  | level + 1 => sectionCommands[level]?

/-- The lines between the fragments and the body of a document. -/
def Document.frontMatter (document : Document) : String :=
  "\n\n" ++ Latex.command "title" [document.title.getD ""] ++ "\n" ++
  Latex.command "author" [document.author.getD ""] ++ "\n" ++
  Latex.command "date" [document.date.getD ""] ++ "\n\n\n" ++
  "\n\n" ++ Latex.command "begin" ["document"] ++ "\n" ++
  "\\maketitle\n\n\n" ++
  (if document.hasContentsTable then "\\tableofcontents\n\n\n" else "")

/-- A document: the fragments, the front matter, and the body with its self-delimiting math
stripped. -/
def Document.text (style : Style) (document : Document) : String :=
  style.fragments.concat ++ document.frontMatter ++ DisplayMath.strip document.content ++
  "\n\n" ++ Latex.command "end" ["document"] ++ "\n\n"

/-- A section under the command of its level. -/
def Heading.text? (heading : Heading) : Except Diagnostic String :=
  match sectionCommand? heading.level with
  | some name => .ok (Latex.command name [heading.title] ++ "\n\n" ++ heading.content ++ "\n\n")
  | none => .error (.unsupportedSectionLevel heading.level heading.title)

/-- An entry of a list. -/
def ListItem.written (item : ListItem) : String :=
  "\\item " ++ item.text ++ "\n\n" ++ item.content

/-- A list as an environment of its entries. -/
def ItemList.text? (list : ItemList) : Except Diagnostic String :=
  match list.kind.environment? with
  | some environment => .ok (written environment)
  | none => .error (.unrecognizedKind "list" list.kind.name none)
where
  /-- The entries in the named environment. -/
  written (environment : String) : String :=
    let body := "\n\n" ++ String.join (list.items.map ListItem.written)
    Latex.environment environment body ++ "\n\n"

/-- Display math: bare if its environment lays itself out, else between display markers. -/
def stemText (content : String) : String :=
  if DisplayMath.isSelfDelimiting (DisplayMath.environment content) then content
  else "\\[\n" ++ content ++ "\n\\]\n"

/-- A block in the template of its kind. -/
def Block.text? (block : Block) : Except Diagnostic String :=
  match block.kind with
  | .paragraph => .ok (block.content ++ "\n\n")
  | .stem => .ok (stemText block.content)
  | .admonition =>
    let label := Text.upperCase (block.style.getD "note")
    .ok (Latex.command "admonition" [label, block.content] ++ "\n\n")
  | .pageBreak => .ok "\\newpage\n\n"
  | .literal => .ok (Latex.environment "verbatim" ("\n" ++ block.content ++ "\n") ++ "\n\n")
  | .pass => .ok block.content
  | .other kind => .error (.unrecognizedKind "block" kind block.lines.head?)

/-- The diagnostic of an inline kind without a template. -/
def unrecognizedInline (kind : InlineKind) : Diagnostic :=
  .unrecognizedKind "inline" kind.name none

/-- Quoted text in the command of its kind; plain text in the macro of its role. -/
def Inline.quotedText? (style : Style) (inline : Inline) (kind : QuotedKind) :
    Except Diagnostic String :=
  match kind with
  | .strong => .ok (Latex.command "textbf" [inline.text])
  | .emphasis => .ok (Latex.command "emph" [inline.text])
  | .math => .ok ("$" ++ inline.text ++ "$")
  | .monospace => .ok (Latex.command "texttt" [inline.text])
  | .plain =>
    match inline.role? with
    | none => .ok inline.text
    | some role =>
      match applyRole? style.roles role inline.text with
      | some styled => .ok styled
      | none => .error (.unrecognizedRole role inline.text)
  | .other name => .error (unrecognizedInline (.quoted (.other name)))

/-- The first text, or the second if the first is empty. -/
def orElse (first second : String) : String :=
  if first.isEmpty then second else first

/-- Whether a character is a square bracket. -/
def isBracket (c : Char) : Bool :=
  c == '[' || c == ']'

/-- A text without the square brackets around it. -/
def trimBrackets (text : String) : String :=
  String.ofList ((text.toList.dropWhile isBracket).reverse.dropWhile isBracket).reverse

/-- A text without one leading number sign. -/
def dropHash (text : String) : String :=
  match text.toList with
  | '#' :: rest => String.ofList rest
  | _ => text

/-- An anchor in the command of its kind. A label goes by its text first, a reference by its target.
-/
def Inline.anchorText? (inline : Inline) (kind : AnchorKind) : Except Diagnostic String :=
  let target := inline.target.getD ""
  match kind with
  | .link => .ok (Latex.command "href" [target, orElse inline.text target])
  | .label => .ok (Latex.command "label" [trimBrackets (orElse inline.text target)])
  | .crossReference => .ok (Latex.command "ref" [dropHash (orElse target inline.text)])
  | .other name => .error (unrecognizedInline (.anchor (.other name)))

/-- A span in the template of its kind. -/
def Inline.text? (style : Style) (inline : Inline) : Except Diagnostic String :=
  match inline.kind with
  | .quoted kind => inline.quotedText? style kind
  | .anchor kind => inline.anchorText? kind
  | .lineBreak => .ok (inline.text ++ " \\\\\n")
  | .other name => .error (unrecognizedInline (.other name))

/-- A node's text, or the diagnostic of a node without a template. -/
def Node.text? (style : Style) : Node → Except Diagnostic String
  | document root => .ok (root.text style)
  | heading part => part.text?
  | itemList list => list.text?
  | block body => body.text?
  | inline span => span.text? style

end Typeset
