import PathTiming.Gzip.Member
import PathTiming.Keyed
import PathTiming.Text.Split

/-! The files that a run reads, and the paths under which it finds them. -/
namespace PathTiming

inductive FileError where
  | notFound
  | notDirectory
  | isDirectory
  /-- The path, or the name of a file or directory on it, is longer than the system allows. -/
  | nameTooLong
  /-- The path has a zero byte in it. -/
  | zeroInName
  /-- The content is not UTF-8 text. -/
  | notText
  | gzip (cause : Gzip.Error)
  /-- Any other refusal, in the words of the system. -/
  | refused (reason : String)
deriving Repr, DecidableEq, Inhabited

def FileError.message : FileError → String
  | notFound => "No such file or directory (os error 2)"
  | notDirectory => "Not a directory (os error 20)"
  | isDirectory => "Is a directory (os error 21)"
  | nameTooLong => "File name too long (os error 36)"
  | zeroInName => "file name contained an unexpected NUL byte"
  | notText => "stream did not contain valid UTF-8"
  | gzip .truncated => "unexpected end of file"
  | gzip .incomplete => "incomplete deflate stream"
  | gzip .badHeader => "invalid gzip header"
  | gzip .longField => "gzip header field too long"
  | gzip .badData => "corrupt deflate stream"
  | gzip .badChecksum => "corrupt gzip stream does not have a matching checksum"
  | refused reason => reason

/-- The files that a run can see. A file or directory is named by the directories on the way to it
from the root, and its own name. -/
structure Disk where
  /-- The directory that relative paths start from. -/
  home : List String := []
  /-- Files with their bytes, or why they cannot be read. -/
  files : Keyed (List String) (Except FileError ByteArray) := {}
  /-- Directories that hold none of the files. -/
  directories : List (List String) := []
deriving Inhabited

namespace Disk

def holds (d : Disk) (name : List String) : Bool :=
  (d.home :: d.directories ++ d.files.keys).any fun known => name.isPrefixOf known

def isFileName (d : Disk) (name : List String) : Bool := d.files.contains name

def parts (path : String) : List String := (Text.splitOn '/' path.toList).map String.ofList

def start (d : Disk) (path : String) : List String := if path.startsWith "/" then [] else d.home

/-- Longest name of a file or directory, in bytes. -/
def maxName : Nat := 255

/-- Longest path, in bytes. -/
def maxPath : Nat := 4095

def judge (path : String) : Except FileError Unit :=
  if path.toList.contains '\x00' then .error .zeroInName
  else if maxPath < path.utf8ByteSize then .error .nameTooLong
  else .ok ()

/-- Follows the parts of a path. Every part but the last must be a directory. -/
def walk (d : Disk) (here : List String) : List String → Except FileError (List String)
  | [] => .ok here
  | part :: rest =>
    if d.isFileName here then .error .notDirectory
    else if part = "" ∨ part = "." then d.walk here rest
    else if part = ".." then d.walk here.dropLast rest
    else if maxName < part.utf8ByteSize then .error .nameTooLong
    else if d.holds (here ++ [part]) then d.walk (here ++ [part]) rest
    else .error .notFound

def locate (d : Disk) (path : String) : Except FileError (List String) := do
  judge path
  if path.isEmpty then .error .notFound else d.walk (d.start path) (parts path)

def read (d : Disk) (path : String) : Except FileError ByteArray := do
  match d.files.get? (← d.locate path) with
  | some content => content
  | none => .error .isDirectory

def isFile (d : Disk) (path : String) : Bool :=
  match d.locate path with
  | .ok name => d.isFileName name
  | .error _ => false

/-- The full text of the path to a file or directory that exists. -/
def fullName? (d : Disk) (path : String) : Option String :=
  match d.locate path with
  | .ok name => some ("/" ++ String.intercalate "/" name)
  | .error _ => none

/-- The name of the file that writing to a path replaces or creates. Its directory must exist. -/
def target (d : Disk) (path : String) : Except FileError (List String) := do
  judge path
  let reversed := (parts path).reverse
  match reversed.dropWhile (· = "") with
  | [] => .error (if path.isEmpty then .notFound else .isDirectory)
  | last :: before =>
    let directory ← d.walk (d.start path) before.reverse
    if d.isFileName directory then .error .notDirectory
    else
      let name := directory ++ [last]
      let endsInSlash := reversed.head? = some ""
      if endsInSlash ∨ last = "." ∨ last = ".." then .error .isDirectory
      else if maxName < last.utf8ByteSize then .error .nameTooLong
      else if d.holds name ∧ !d.isFileName name then .error .isDirectory
      else .ok name

def write (d : Disk) (path text : String) : Except FileError Disk := do
  return { d with files := d.files.insert (← d.target path) (.ok text.toUTF8) }

/-- Whether a path names a gzip file. A name that only consists of the ending is no such name. -/
def isGzip (path : String) : Bool :=
  let names := (parts path).filter fun part => part ≠ "" ∧ part ≠ "."
  match names.getLast?.bind fun name => Text.splitLast '.' name.toList with
  | some (stem, ending) => !stem.isEmpty && ending == "gz".toList
  | none => false

def readText (d : Disk) (path : String) : Except FileError String := do
  let bytes ← d.read path
  let bytes ←
    if isGzip path then
      match Gzip.decompress bytes.toList with
      | .ok data => pure ⟨data⟩
      | .error e => .error (.gzip e)
    else pure bytes
  match String.fromUTF8? bytes with
  | some text => return text
  | none => .error .notText

/-- A file that holds a text is read as this text, unless its name says that it is compressed. -/
theorem readText_of_read {d : Disk} {path text : String} (h : d.read path = .ok text.toUTF8)
    (hplain : isGzip path = false) : d.readText path = .ok text := by
  have htext : String.fromUTF8? text.toUTF8 = some text := dif_pos text.isValidUTF8
  unfold readText
  rw [h, hplain]
  change (match String.fromUTF8? text.toUTF8 with
    | some text => Except.ok text
    | none => .error FileError.notText) = _
  rw [htext]

end Disk

end PathTiming
