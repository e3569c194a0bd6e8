import PluginSupport.Failure
import PluginSupport.Text.Split
import PluginSupport.Text.Utf8

/-!
# A directory of files

A working directory that holds plain files and empty subdirectories, and reading a file of it by
path. Paths are split at slashes; `.` and empty parts stay where they are, `..` goes up, and nothing
is known of what lies outside. A file is the end of a path: nothing may follow it, not even a slash.
-/
namespace PluginSupport

open Utf8 (Bytes)

/-- What a name in the directory stands for. -/
inductive Entry where
  | file (bytes : Bytes)
  | directory
deriving DecidableEq, Repr

/-- A working directory: its entries by name. -/
structure Directory where
  entries : List (String × Entry)
deriving DecidableEq, Repr

/-- How a path is read: the bytes there, or why there are none. -/
abbrev FileReader := String → Except IoCause Bytes

namespace Directory

/-- Where a path has led so far. -/
inductive Position where
  /-- The working directory itself. -/
  | here
  /-- An empty subdirectory. -/
  | below
  /-- A directory outside of the working directory. -/
  | outside
  | file (bytes : Bytes)
deriving DecidableEq, Repr

/-- Longest name in bytes. -/
def maxName : Nat := 255

/-- Longest path in bytes. -/
def maxPath : Nat := 4095

/-- Position after one more part of a path. -/
def step (dir : Directory) (position : Position) (part : String) : Except IoCause Position :=
  match position with
  | .file _ => .error (.system SystemError.notDirectory)
  | .here | .below | .outside =>
    if part = "" ∨ part = "." then .ok position
    else if part = ".." then .ok (if position = .below then .here else .outside)
    else if maxName < part.utf8ByteSize then .error (.system SystemError.nameTooLong)
    else if position = .here then
      match dir.entries.lookup part with
      | some (.file bytes) => .ok (.file bytes)
      | some .directory => .ok .below
      | none => .error (.system SystemError.noEntry)
    else .error (.system SystemError.noEntry)

/-- Position after the parts of a path. -/
def walk (dir : Directory) : Position → List String → Except IoCause Position
  | position, [] => .ok position
  | position, part :: parts =>
    match dir.step position part with
    | .ok next => dir.walk next parts
    | .error cause => .error cause

/-- Bytes of the file at a path. -/
def read (dir : Directory) (path : String) : Except IoCause Bytes :=
  if '\x00' ∈ path.toList then .error (.refusal "file name contained an unexpected NUL byte")
  else if path = "" then .error (.system SystemError.noEntry)
  else if maxPath < path.utf8ByteSize then .error (.system SystemError.nameTooLong)
  else
    let parts := (Split.onChar '/' path.toList).map String.ofList
    let start := if path.startsWith "/" then Position.outside else .here
    match dir.walk start parts with
    | .ok (.file bytes) => .ok bytes
    | .ok _ => .error (.system SystemError.isDirectory)
    | .error cause => .error cause

end Directory

end PluginSupport
