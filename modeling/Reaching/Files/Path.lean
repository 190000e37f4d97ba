/-!
Paths of files. A path is cut into parts at its slashes; empty parts and lone dots add nothing.
`Path.normal` writes a path without them: a relative path that has no other parts is a lone dot, and
exactly two slashes at the front stand for a root of their own.
-/
set_option autoImplicit false

namespace Reaching.Files.Path

def split : List Char → List (List Char)
  | [] => [[]]
  | c :: rest =>
    if c = '/' then [] :: split rest
    else match split rest with
      | [] => [[c]]
      | part :: parts => (c :: part) :: parts

def pieces (path : String) : List String :=
  (split path.toList).map String.ofList

def addsNothing (part : String) : Bool :=
  part = "" || part = "."

def parts (path : String) : List String :=
  (pieces path).filter fun part => !addsNothing part

def root (path : String) : String :=
  match path.toList with
  | '/' :: '/' :: '/' :: _ => "/"
  | '/' :: '/' :: _ => "//"
  | '/' :: _ => "/"
  | _ => ""

def normal (path : String) : String :=
  let written := root path ++ "/".intercalate (parts path)
  if written.isEmpty then "." else written

end Reaching.Files.Path
