/-!
# Fragments

The three texts that stand ahead of every document: a preamble, the macros that the templates rely
on, and the author's own macros.
-/

namespace Typeset

/-- The texts ahead of a document. -/
structure Fragments where
  preamble : String
  frameworkMacros : String
  userMacros : String
  deriving DecidableEq, Repr

namespace Fragments

/-- The preamble of a document that brings none. -/
def defaultPreamble : String :=
  "\\documentclass[11pt]\x7barticle\x7d\n" ++
  "\\usepackage[utf8]\x7binputenc\x7d\n" ++
  "\\usepackage\x7bamsmath\x7d\n" ++
  "\\usepackage\x7bamssymb\x7d\n" ++
  "\\usepackage\x7bxcolor\x7d\n" ++
  "\\usepackage\x7bhyperref\x7d\n"

/-- The macros that the templates rely on. -/
def defaultMacros : String :=
  "\n\\newcommand\x7b\\admonition\x7d[2]\x7b\\par\\noindent\\fbox" ++
  "\x7b\\parbox\x7b\\dimexpr\\linewidth-2\\fboxsep-2\\fboxrule\x7d" ++
  "\x7b\\textbf\x7b#1\x7d\\quad #2\x7d\x7d\\par\x7d\n"

/-- The fragments of a document that brings none of its own. -/
def default : Fragments where
  preamble := defaultPreamble
  frameworkMacros := defaultMacros
  userMacros := ""

instance : Inhabited Fragments where
  default := default

/-- The three texts in the order in which they are written. -/
def concat (fragments : Fragments) : String :=
  fragments.preamble ++ fragments.frameworkMacros ++ fragments.userMacros

end Fragments

end Typeset
