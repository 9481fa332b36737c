import SymbolMarkup.Text.Spacing

/-! Files as a command line run sees them: a table of paths below a working directory, and how a
path written with slashes and dots finds its place there.
A path may also lead out of the working directory. Nothing is known there but the directories on
the way up, so whatever else a path names there is not found. -/
namespace SymbolMarkup.CommandLine

def pathParts (path : String) : List String := (Text.split '/' path.toList).map String.ofList

inductive Fault where
  | notFound
  | notDirectory
  | isDirectory
  | nameTooLong
  | notText
  | other (message : String)
  deriving DecidableEq, Repr

def Fault.message : Fault → String
  | notFound => "No such file or directory (os error 2)"
  | notDirectory => "Not a directory (os error 20)"
  | isDirectory => "Is a directory (os error 21)"
  | nameTooLong => "File name too long (os error 36)"
  | notText => "stream did not contain valid UTF-8"
  | other message => message

inductive Entry where
  | directory
  | file (bytes : ByteArray)

/-- Names from the working directory down. Outside of it, steps up or a slash for the root stand in
front. -/
abbrev Location := List String

namespace Location

def isAbove (l : Location) : Bool := l.all fun part => part == ".." || part == "/"

def up (l : Location) : Location :=
  if l = ["/"] then l else if l.isAbove then l ++ [".."] else l.dropLast

def start (path : String) : Location := if path.toList.head? = some '/' then ["/"] else []

end Location

structure Disk where
  entries : List (Location × Entry)

/-- Where a path leads, in a directory that is there; `slash` tells that a slash is behind it. -/
inductive Place where
  | directory (location : Location)
  | name (location : Location) (slash : Bool)
  deriving DecidableEq, Repr

namespace Disk

def empty : Disk := ⟨[]⟩

def entry? (d : Disk) (l : Location) : Option Entry :=
  if l.isAbove then some .directory else d.entries.lookup l

def find (d : Disk) (l : Location) : Except Fault Entry :=
  if l.any fun name => name.utf8ByteSize > 255 then .error .nameTooLong
  else match d.entry? l with
    | none => .error .notFound
    | some e => .ok e

def enter (d : Disk) (here : Location) : List String → Except Fault Location
  | [] => .ok here
  | part :: rest =>
    if part = ".." then d.enter here.up rest
    else match d.find (here ++ [part]) with
      | .error fault => .error fault
      | .ok (.file _) => .error .notDirectory
      | .ok .directory => d.enter (here ++ [part]) rest

def locate (d : Disk) (path : String) : Except Fault Place :=
  let parts := pathParts path
  let named := parts.filter (· ≠ "")
  let steps := named.filter (· ≠ ".")
  let start := Location.start path
  if path.utf8ByteSize > 4095 then .error .nameTooLong
  else match named.getLast? with
  | none => .ok (.directory start)
  | some last =>
    if last = "." ∨ last = ".." then (d.enter start steps).map .directory
    else (d.enter start steps.dropLast).map fun here =>
      .name (here ++ [last]) (parts.getLast? = some "")

def read (d : Disk) (path : String) : Except Fault ByteArray := do
  match ← d.locate path with
  | .directory _ => .error .isDirectory
  | .name l slash =>
    match ← d.find l with
    | .directory => .error .isDirectory
    | .file bytes => if slash then .error .notDirectory else .ok bytes

def put (d : Disk) (l : Location) (bytes : ByteArray) : Disk :=
  if (d.entries.lookup l).isSome then
    ⟨d.entries.map fun e => if e.1 = l then (l, .file bytes) else e⟩
  else ⟨d.entries ++ [(l, .file bytes)]⟩

def target (d : Disk) (path : String) : Except Fault Location := do
  match ← d.locate path with
  | .directory _ => .error .isDirectory
  | .name l slash =>
    if slash then .error .isDirectory
    else match d.find l with
      | .ok .directory => .error .isDirectory
      | .error .nameTooLong => .error .nameTooLong
      | _ => .ok l

def write (d : Disk) (path : String) (bytes : ByteArray) : Except Fault Disk :=
  (d.target path).map fun l => d.put l bytes

def remove (d : Disk) (l : Location) : Disk := ⟨d.entries.filter (·.1 ≠ l)⟩

end Disk

def decodeText (bytes : ByteArray) : Except Fault String :=
  match String.fromUTF8? bytes with
  | some text => .ok text
  | none => .error .notText

end SymbolMarkup.CommandLine
