import TableServer.Console.Fixture
import TableServer.Entries

/-! A folder in which the program works, with the files in it and the folders that every system
has. A path is followed part by part. -/
namespace TableServer.Console

structure Folder where
  files : Entries Text.Octets

namespace Folder

/-- Where a path has led: to the folder itself, above it, to a folder of the system, which is told
by its parts, or to a file. -/
inductive Place where
  | here
  | above
  | system (parts : List (List Char))
  | file (content : Text.Octets)

def systemFolders : List String :=
  ["bin", "boot", "dev", "dev/fd", "dev/pts", "dev/shm", "etc", "home", "lib", "media", "mnt",
   "opt", "proc", "proc/self", "root", "run", "sbin", "srv", "sys", "tmp", "usr", "usr/bin",
   "usr/lib", "usr/local", "usr/share", "var", "var/lib", "var/log", "var/tmp"]

def systemFiles : Entries String :=
  [("dev/null", ""), ("etc/group", "root:x:0:\n"), ("etc/hosts", "127.0.0.1\tlocalhost\n"),
   ("etc/passwd", "root:x:0:0:root:/root:/bin/sh\n")]

def missing : FileFault := .refused 2 "No such file or directory"

def notFolder : FileFault := .refused 20 "Not a directory"

def isFolder : FileFault := .refused 21 "Is a directory"

def nameTooLong : FileFault := .refused 36 "File name too long"

/-- The most octets of one part of a path, and one more than the most octets of a path. -/
def partLimit : Nat := 255

def pathLimit : Nat := 4096

def octetCount (text : List Char) : Nat :=
  (String.ofList text).utf8ByteSize

def enter (parts : List (List Char)) (part : List Char) : Except FileFault Place :=
  let parts := parts ++ [part]
  let path := String.ofList (List.intercalate ['/'] parts)
  if path ∈ systemFolders then .ok (.system parts)
  else
    match Entries.find? path systemFiles with
    | some content => .ok (.file (Text.encodeUtf8 content))
    | none => .error missing

def step (f : Folder) (place : Place) (part : List Char) : Except FileFault Place :=
  match place with
  | .file _ => .error notFolder
  | .system parts =>
      if part = ['.', '.'] then .ok (.system parts.dropLast)
      else if partLimit < octetCount part then .error nameTooLong
      else enter parts part
  | .here =>
      if part = ['.', '.'] then .ok .above
      else if partLimit < octetCount part then .error nameTooLong
      else
        match Entries.find? (String.ofList part) f.files with
        | some content => .ok (.file content)
        | none => .error missing
  | .above =>
      if part = ['.', '.'] then .ok .above
      else if partLimit < octetCount part then .error nameTooLong
      else .error missing

def read (f : Folder) (path : String) : Except FileFault Text.Octets :=
  let text := (plainPath path).toList
  if '\x00' ∈ text then .error .unnameable
  else if pathLimit ≤ octetCount text then .error nameTooLong
  else
    let start := if text.head? = some '/' then .system [] else .here
    ((pathParts text).foldlM f.step start).bind fun
      | .file content => .ok content
      | _ => .error isFolder

end Folder

end TableServer.Console
