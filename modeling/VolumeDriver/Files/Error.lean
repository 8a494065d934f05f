/-!
# Failures of input and output

A failure is one of the operating system, with its number, or one that is found before the system is asked and told in words.
-/

namespace VolumeDriver.Files

/-- The number of a failure of the operating system. -/
structure Errno where
  number : Int
  deriving DecidableEq, Repr

namespace Errno

def notPermitted : Errno := ⟨1⟩
def noEntry : Errno := ⟨2⟩
def device : Errno := ⟨5⟩
def argumentsTooLong : Errno := ⟨7⟩
def accessDenied : Errno := ⟨13⟩
def busy : Errno := ⟨16⟩
def alreadyThere : Errno := ⟨17⟩
def noDevice : Errno := ⟨19⟩
def notDirectory : Errno := ⟨20⟩
def isDirectory : Errno := ⟨21⟩
def invalid : Errno := ⟨22⟩
def nameTooLong : Errno := ⟨36⟩
def notEmpty : Errno := ⟨39⟩
def tooManyLinks : Errno := ⟨40⟩
def addressInUse : Errno := ⟨98⟩
def addressNotAvailable : Errno := ⟨99⟩
def notConnected : Errno := ⟨107⟩
def stale : Errno := ⟨116⟩

/-- What the system says of each failure. -/
def texts : List (Errno × String) :=
  [(notPermitted, "Operation not permitted"),
   (noEntry, "No such file or directory"),
   (device, "Input/output error"),
   (argumentsTooLong, "Argument list too long"),
   (accessDenied, "Permission denied"),
   (busy, "Device or resource busy"),
   (alreadyThere, "File exists"),
   (noDevice, "No such device"),
   (notDirectory, "Not a directory"),
   (isDirectory, "Is a directory"),
   (invalid, "Invalid argument"),
   (nameTooLong, "File name too long"),
   (notEmpty, "Directory not empty"),
   (tooManyLinks, "Too many levels of symbolic links"),
   (addressInUse, "Address already in use"),
   (addressNotAvailable, "Cannot assign requested address"),
   (notConnected, "Transport endpoint is not connected"),
   (stale, "Stale file handle")]

def text (e : Errno) : String :=
  match texts.find? (·.1 = e) with
  | some (_, text) => text
  | none => "Unknown error " ++ toString e.number

/-- Whether asking about a mounted file fails in this way because what was mounted there went away. -/
def isCorruptedMount (e : Errno) : Bool := e = notConnected || e = stale || e = device || e = accessDenied

end Errno

inductive IoError where
  | os (number : Errno)
  | other (message : String)
  deriving DecidableEq, Repr

namespace IoError

def message : IoError → String
  | os e => e.text ++ " (os error " ++ toString e.number ++ ")"
  | other message => message

def isNotFound (e : IoError) : Bool := e = os .noEntry

def isPermission (e : IoError) : Bool := e = os .accessDenied || e = os .notPermitted

end IoError

end VolumeDriver.Files
