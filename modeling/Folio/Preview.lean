import Folio.Asset.Fingerprint
import Folio.FileTree.Operation
import Folio.Text.Letter

/-!
# Preview

How the output of a site is served while it is being worked on. A request for a path without an
extension is served the page file of that name if there is one; a directory is served its index,
under a path with a slash at its end; what is missing is served the page for missing paths.
-/

namespace Folio.Preview

open Text

structure Response where
  status : Nat
  body : Bytes
  location : Option String
  deriving DecidableEq, Repr

/-- Why a request gets no answer. -/
inductive Failure
  /-- There is no directory to serve. -/
  | noDirectory
  | file (problem : FileProblem)
  deriving DecidableEq, Repr

/-- Where the preview is reached. -/
def origin : String := "http://t"

/-! ## Locations -/

/-- The characters that a location holds as they are. -/
def isPlainInLocation (c : Char) : Bool :=
  isAsciiLetter c || isAsciiDigit c || "_.-~:/%=@[]!$&'()*+,;".toList.contains c

def upperDigit (c : Char) : Char :=
  if 'a' ≤ c ∧ c ≤ 'f' then Char.ofNat (c.toNat - 32) else c

/-- A character in a location: its bytes in hexadecimal unless it may stand for itself. -/
def locationChar (c : Char) : List Char :=
  if isPlainInLocation c then [c]
  else (encodeChar c).flatMap fun b => '%' :: (hexDigits 2 b.toNat).map upperDigit

/-- The location of a path of the preview. -/
def locationOf (path : List Char) : String :=
  origin ++ String.ofList (path.flatMap locationChar)

def redirect (path : List Char) : Response :=
  ⟨307, [], some (locationOf path)⟩

/-- The characters that a location drops from the path of a directory. -/
def isDropped (c : Char) : Bool :=
  c == '\t' || c == '\n' || c == '\r'

/-! ## Requested paths -/

/-- Whether a path is one of the preview: it starts with a slash and holds no line feed but at its
end. -/
def isServed : List Char → Bool
  | '/' :: r => !r.dropLast.contains '\n'
  | _ => false

/-- The path with a slash more at its end, or without those that it ends in. -/
def otherSlash (path : List Char) : List Char :=
  if ['/'].isSuffixOf path then trimEnd (· == '/') path else path ++ ['/']

/-! ## Finding files -/

/-- The segments of a requested path in normal form; `..` at the start is kept. -/
def requested (path : String) : List String :=
  (Written.ofText path).segments.foldl (fun done segment =>
    if segment = ".." ∧ done.getLast?.any (· ≠ "..") then done.dropLast else done ++ [segment]) []

/-- The path that some segments name below the served directory; `none` if it lies elsewhere. -/
def placeOf (root : Path) (segments : List String) : Option Path :=
  let p : Path := ⟨Path.collapse (root.segments ++ segments)⟩
  if p.isBelow root then some p else none

/-- What some segments name below the served directory, if anything. A path that starts with a
backslash names nothing. -/
def find (files : FileTree) (root : Path) (segments : List String) :
    Except Failure (Option Entry) :=
  if segments.head?.any (['\\'].isPrefixOf ·.toList) then .ok none
  else
    match placeOf root segments with
    | none => .ok none
    | some p =>
      match files.locateTarget p with
      | .ok q => .ok (files.get? q)
      | .error .missing | .error .notDirectory => .ok none
      | .error problem => .error (.file problem)

/-- The content of a file. -/
def contentOf : Option Entry → Option Bytes
  | some (.file content) => some content
  | _ => none

/-- The segments with the extension of pages at their end. -/
def pageSegments (segments : List String) : List String :=
  segments.dropLast ++ [segments.getLast?.getD "" ++ ".html"]

/-- What is looked for in place of the requested segments. -/
def preferred (files : FileTree) (root : Path) (segments : List String) :
    Except Failure (List String) := do
  let name := segments.getLast?.getD ""
  if segments = [] ∨ (Asset.splitSuffix name.toList).2 ≠ [] then return segments
  let page ← find files root (pageSegments segments)
  return if (contentOf page).isSome then pageSegments segments else segments

/-! ## Responses -/

def message (status : Nat) (text : String) : Response :=
  ⟨status, encode text, none⟩

/-- A file as the answer; only its size is asked for by `HEAD`. -/
def fileResponse (method : String) (status : Nat) (content : Bytes) : Response :=
  ⟨status, if method = "HEAD" then [] else content, none⟩

def nothingThere : Response :=
  message 404 "Not Found"

/-- The answer where nothing is: the page for missing paths if there is one. -/
def notFound (files : FileTree) (root : Path) (method : String) : Except Failure Response := do
  let page ← find files root ["404.html"]
  return (contentOf page).elim nothingThere (fileResponse method 404)

/-- The answer for some segments of a path. -/
def answer (files : FileTree) (root : Path) (method : String) (path : List Char)
    (segments : List String) : Except Failure Response :=
  match find files root segments with
  | .error (.file .nameTooLong) => .ok nothingThere
  | .error failure => .error failure
  | .ok (some (.file content)) => .ok (fileResponse method 200 content)
  | .ok (some .directory) => do
    let index ← find files root (segments ++ ["index.html"])
    match contentOf index with
    | none => notFound files root method
    | some content =>
      return if ['/'].isSuffixOf path then fileResponse method 200 content
        else redirect (path.filter (!isDropped ·) ++ ['/'])
  | .ok _ => notFound files root method

/-- Whether there is a directory to serve; a link is taken for one. -/
def checkRoot (files : FileTree) (root : Path) : Except Failure Unit :=
  match files.locateTarget root with
  | .error .missing => .error .noDirectory
  | .error problem => .error (.file problem)
  | .ok q =>
    match files.get? q with
    | none => .error .noDirectory
    | some .directory => .ok ()
    | some _ => if files.isLink root then .ok () else .error .noDirectory

/-- The answer to a request. A path that is none of the preview may lead to one that is. -/
def respond (files : FileTree) (root : Path) (method path : String) : Except Failure Response := do
  let path := path.toList
  if isServed path then
    checkRoot files root
    let segments ← preferred files root (requested (String.ofList path))
    if method ≠ "GET" ∧ method ≠ "HEAD" then return message 405 "Method Not Allowed"
    answer files root method path segments
  else if isServed (otherSlash path) then return redirect (otherSlash path)
  else return nothingThere

end Folio.Preview
