import LeasePlan.Console.Print

namespace LeasePlan.Console

structure Panel where
  title : String
  text : String

namespace Panel

def top (columns : Nat) (title : List Char) : Line :=
  let label := ' ' :: (title ++ [' '])
  let room := columns - 4 - width label
  '╭' :: '─' :: (List.replicate (room / 2) '─' ++ label ++
    List.replicate (room - room / 2) '─' ++ ['─', '╮'])

/-- The lines of a panel; its title is short enough for one line. -/
def lines (console : Console) (p : Panel) : Except MarkupFlaw (List Line) := do
  let title ← Markup.render console p.title
  let text ← Markup.render console p.text
  .ok (top console.columns title ::
    ((wrap .left .fold (console.columns - 4) text).map
        (fun l => '│' :: ' ' :: (l ++ [' ', '│'])) ++
      ['╰' :: (List.replicate (console.columns - 2) '─' ++ ['╯'])]))

end Panel

end LeasePlan.Console
