import EdgeRoutes.Text.Quoted

/-! Why a file cannot be used. -/

namespace EdgeRoutes

/-- What the file system refuses. -/
inductive FileRefusal where
  | notFound
  | exists
  | notDirectory
  | isDirectory
  deriving DecidableEq

/-- A refusal and the path it is about. -/
structure FileError where
  refusal : FileRefusal
  path : String
  deriving DecidableEq

/-- The number of the refusal and its wording. -/
def FileRefusal.description : FileRefusal → String
  | .notFound => "[Errno 2] No such file or directory"
  | .exists => "[Errno 17] File exists"
  | .notDirectory => "[Errno 20] Not a directory"
  | .isDirectory => "[Errno 21] Is a directory"

def FileError.message (e : FileError) : String :=
  e.refusal.description ++ ": " ++ Text.quoted e.path

/-- Why bytes are not text. -/
inductive Malformed where
  | startByte
  | continuation
  | endOfData
  deriving DecidableEq

def Malformed.description : Malformed → String
  | .startByte => "invalid start byte"
  | .continuation => "invalid continuation byte"
  | .endOfData => "unexpected end of data"

/-- Bytes that are not UTF-8: the first byte of the offending run, where it is, and how long the run is. -/
structure EncodingError where
  byte : Nat
  position : Nat
  length : Nat
  reason : Malformed
  deriving DecidableEq

def EncodingError.message (e : EncodingError) : String :=
  let place :=
    if e.length = 1 then
      "byte 0x" ++ String.ofList (Text.hexDigits 2 e.byte) ++ " in position " ++ toString e.position
    else
      "bytes in position " ++ toString e.position ++ "-" ++ toString (e.position + e.length - 1)
  "'utf-8' codec can't decode " ++ place ++ ": " ++ e.reason.description

end EdgeRoutes
