/-! Errors of the operating system. -/
namespace SnippetLab

/-- Why the system refuses to do something to a file or to start a program. -/
inductive SystemError
  | notPermitted
  | noEntry
  | noProcess
  | interrupted
  | noDevice
  | tooManyArguments
  | execFormat
  | badDescriptor
  | permissionDenied
  | alreadyExists
  | notDirectory
  | isDirectory
  | invalidArgument
  | noSpace
  | notSeekable
  | brokenPipe
  | nameTooLong
  | notEmpty
  | tooManyLinks
  | nulInPath
  | nulInCommand
  | notUtf8
  deriving DecidableEq, Repr

namespace SystemError

def text : SystemError → String
  | notPermitted => "Operation not permitted"
  | noEntry => "No such file or directory"
  | noProcess => "No such process"
  | interrupted => "Interrupted system call"
  | noDevice => "No such device or address"
  | tooManyArguments => "Argument list too long"
  | execFormat => "Exec format error"
  | badDescriptor => "Bad file descriptor"
  | permissionDenied => "Permission denied"
  | alreadyExists => "File exists"
  | notDirectory => "Not a directory"
  | isDirectory => "Is a directory"
  | invalidArgument => "Invalid argument"
  | noSpace => "No space left on device"
  | notSeekable => "Illegal seek"
  | brokenPipe => "Broken pipe"
  | nameTooLong => "File name too long"
  | notEmpty => "Directory not empty"
  | tooManyLinks => "Too many levels of symbolic links"
  | nulInPath => "file name contained an unexpected NUL byte"
  | nulInCommand => "nul byte found in provided data"
  | notUtf8 => "stream did not contain valid UTF-8"

def code? : SystemError → Option Nat
  | notPermitted => some 1
  | noEntry => some 2
  | noProcess => some 3
  | interrupted => some 4
  | noDevice => some 6
  | tooManyArguments => some 7
  | execFormat => some 8
  | badDescriptor => some 9
  | permissionDenied => some 13
  | alreadyExists => some 17
  | notDirectory => some 20
  | isDirectory => some 21
  | invalidArgument => some 22
  | noSpace => some 28
  | notSeekable => some 29
  | brokenPipe => some 32
  | nameTooLong => some 36
  | notEmpty => some 39
  | tooManyLinks => some 40
  | nulInPath | nulInCommand | notUtf8 => none

def message (e : SystemError) : String :=
  match e.code? with
  | some code => e.text ++ " (os error " ++ toString code ++ ")"
  | none => e.text

end SystemError
end SnippetLab
