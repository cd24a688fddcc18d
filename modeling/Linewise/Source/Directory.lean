import Linewise.Source.Reader
import Linewise.Text.Utf8

/-!
# Directories — files by name

A directory of files as a program finds it.  A path names one of its files, a directory, or
nothing.  A directory can be opened like a file, but reading from it fails.  What lies outside the
directory is taken to hold nothing but directories above.
-/

namespace Linewise

/-- A directory: the names and bytes of its files. -/
structure Directory where
  files : List (String × List UInt8)
deriving DecidableEq, Repr

namespace Directory

def empty : Directory := ⟨[]⟩

def nameLimit : Nat := 255

def pathLimit : Nat := 4095

def parts : List Char → List (List Char)
  | [] => [[]]
  | c :: rest =>
    match parts rest with
    | [] => [[c]]
    | part :: later => if c = '/' then [] :: part :: later else (c :: part) :: later

/-- Whether a part of a path stays where it is. -/
def isIdle (part : List Char) : Bool := part.isEmpty || part == ['.']

/-- Opens what the names lead to, one after the other; `asDirectory` says that it must not be a
file. -/
def follow (directory : Directory) (asDirectory : Bool) :
    List (List Char) → Except Failure Reader
  | [] => .ok ⟨[.failure .isDirectory]⟩
  | name :: rest =>
    -- above the directory there is nothing to open
    if name = ['.', '.'] then empty.follow asDirectory rest
    else if byteLength name > nameLimit then .error .nameTooLong
    else
      match directory.files.lookup (String.ofList name) with
      | none => .error .notFound
      | some bytes =>
        if rest.isEmpty && !asDirectory then .ok (Reader.ofBytes bytes)
        else .error .notDirectory

/-- Opens what a path names.  A path that begins with a slash leads out of the directory; one whose
last part stays where it is names a directory. -/
def openPath (directory : Directory) (path : String) : Except Failure Reader :=
  let all := parts path.toList
  if path.isEmpty then .error .notFound
  else if byteLength path.toList > pathLimit then .error .nameTooLong
  else
    let root := if all.head? = some [] then empty else directory
    root.follow (all.getLast?.any isIdle) (all.filter (!isIdle ·))

end Directory

end Linewise
