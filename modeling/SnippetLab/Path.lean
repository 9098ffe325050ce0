/-! Path texts. A slash separates names; an empty name and a single dot name nothing. -/
namespace SnippetLab.Path

def isAbsolute (path : String) : Bool := path.toList.head? == some '/'

def endsInSlash (path : String) : Bool := path.toList.getLast? == some '/'

/-- The names between slashes. A slash at the end stands for a dot after it, so that what comes before
has to be a directory. -/
def names (path : String) : List String :=
  (path.toList.splitOn '/').map String.ofList |>.filter (· ≠ "")
    |> (· ++ if endsInSlash path then ["."] else [])

/-- Where `name` leads from `base`: an absolute name replaces it. -/
def join (base name : String) : String :=
  if isAbsolute name || base.isEmpty then name
  else if endsInSlash base then base ++ name
  else base ++ "/" ++ name

/-- The last name of the path, unless the path ends in nothing or in two dots. -/
def fileName? (path : String) : Option String :=
  match ((names path).filter (· ≠ ".")).getLast? with
  | some ".." | none => none
  | some name => some name

def withoutSlash (path : String) : String :=
  let kept := (path.toList.reverse.dropWhile (· = '/')).reverse
  if kept.isEmpty && isAbsolute path then "/" else String.ofList kept

def parent? (path : String) : Option String :=
  let cs := (withoutSlash path).toList
  if cs.isEmpty || cs = ['/'] then none
  else
    let above := String.ofList (cs.reverse.dropWhile (· ≠ '/')).reverse
    if above.isEmpty then some "" else some (withoutSlash above)

end SnippetLab.Path
