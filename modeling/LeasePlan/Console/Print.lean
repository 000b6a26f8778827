import LeasePlan.Console.Markup
import LeasePlan.Console.Wrap

namespace LeasePlan.Console

/-- The lines of a text in markup, wrapped at the width of the console. -/
def print (console : Console) (markup : String) : Except MarkupFlaw (List Line) :=
  (Markup.render console markup).map (wrap .ragged .fold console.columns)

/-- The lines of a text without markup, however long. -/
def printPlain (text : String) : List Line :=
  (Text.parts '\n' (Markup.shown text.toList)).map Line.expandTabs

end LeasePlan.Console
