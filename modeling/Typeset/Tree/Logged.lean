import Typeset.Renderer
import Typeset.Tree.Convert

/-!
# Converting with a log

A tree is walked with one renderer, which writes its log on the way: what a node contains is walked
before the node is rendered, so it is logged before it as well.
-/

namespace Typeset

/-- Renderers, as they walk trees. -/
def Renderer.walker : Walker Renderer where
  render := render
  reportUnknown := reportUnknown

/-- The text of a tree, and the renderer that has walked it from the start. -/
def Tree.convertLogged (settings : Settings) (tree : Tree) : String × Renderer :=
  Renderer.walker.walk (.start settings) tree

end Typeset
