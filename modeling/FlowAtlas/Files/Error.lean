import FlowAtlas.Text.Numeral

/-!
# Failures of file operations

Why a file or directory cannot be had, with the wording and number that the operating system gives
the failure.
-/

set_option autoImplicit false

namespace FlowAtlas

/-- Why an operation on files fails. -/
inductive FileError
  | notFound
  | alreadyExists
  | notADirectory
  | isADirectory
  | nameTooLong
  /-- A path that holds a character which no path may hold. -/
  | invalidName
  /-- Contents that are no text. -/
  | notText
  /-- Any other failure, in the words of the operating system. -/
  | other (message : String)
  deriving DecidableEq, Repr, Inhabited

namespace FileError

/-- A failure that the operating system knows by number. -/
def numbered (text : String) (code : Nat) : String :=
  text ++ " (os error " ++ Numeral.decimal code ++ ")"

/-- The wording of the failure. -/
def message : FileError → String
  | notFound => numbered "No such file or directory" 2
  | alreadyExists => numbered "File exists" 17
  | notADirectory => numbered "Not a directory" 20
  | isADirectory => numbered "Is a directory" 21
  | nameTooLong => numbered "File name too long" 36
  | invalidName => "file name contained an unexpected NUL byte"
  | notText => "stream did not contain valid UTF-8"
  | other message => message

/-- The failure that the operating system knows by a number and words. -/
def ofCode (code : Nat) (words : String) : FileError :=
  match code with
  | 2 => notFound
  | 17 => alreadyExists
  | 20 => notADirectory
  | 21 => isADirectory
  | 36 => nameTooLong
  | _ => other (numbered words code)

end FileError
end FlowAtlas
