import Bindery.Text.Basic

namespace Bindery

/-- The extension that a label leaves out. -/
def pageExtension : Text :=
  ".mdx".toList

/-- The text without the given end, if it has it. -/
def dropEnd (ending s : Text) : Text :=
  if ending.isSuffixOf s then s.take (s.length - ending.length) else s

/-- The label of a page, from its path or from a reference to it. -/
def labelOf (path : Text) : Text :=
  Text.replaceChar '/' ['-'] (dropEnd pageExtension (Text.trimClass (· == '/') path))

end Bindery
