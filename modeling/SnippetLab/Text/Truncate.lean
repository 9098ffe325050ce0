/-! Cutting a text to a number of characters. -/
namespace SnippetLab.Text

def truncationMarker : String := "\n... (output truncated)"

/-- A text of at most `max` characters is kept; a longer one is cut there and marked. -/
def truncate (max : Nat) (s : String) : String :=
  if s.length ≤ max then s else String.ofList (s.toList.take max) ++ truncationMarker

end SnippetLab.Text
