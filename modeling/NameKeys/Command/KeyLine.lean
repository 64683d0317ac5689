import NameKeys.Matching.Key
import NameKeys.Text.Encoding.Named
import NameKeys.Text.Encoding.Strict
import NameKeys.Text.Quoted

/-!
# Key lines

A key is written as a line of its own. A stream of bytes gets the key in the stream's encoding,
where byte escapes are the bytes they stand for; a stream of text gets what its encoding reads from
these bytes. The encoding of a stream of bytes is looked up when the stream is opened, that of a
stream of text when a key is written.
-/

namespace NameKeys

namespace Encoding

def lineFeed : UInt8 := 0x0A

def keyLine (encoding : Encoding) (key : Text) : List UInt8 := encoding.encode key ++ [lineFeed]

/-- The line of a key in a stream of text. -/
def keyText (encoding : Encoding) (key : Text) : Text :=
  encoding.decode (encoding.encode key) ++ "\n"

def keyLines (encoding : Encoding) (profile : Profile) (names : List Text) : List UInt8 :=
  names.flatMap fun name => encoding.keyLine (profile.key name)

end Encoding

/-- Why a key cannot be written. -/
inductive KeyLineFault where
  | openedWith (fault : EncodingFault)
  | writtenWith (fault : EncodingFault)
  | refused (reason : Text)
  | unencodable (e : Unencodable)
  | notText (value : Value)

/-- The message about a name that stands for no encoding a key can be written in; `remedy` tells
what takes encodings of something else. -/
def EncodingFault.message (remedy : Text) : EncodingFault → Text
  | unknown name => "unknown encoding: " ++ name
  | notOfTexts name =>
    Text.quoted name ++ " is not a text encoding; use " ++ remedy ++ " to handle arbitrary codecs"
  | refusing name reason _ =>
    "encoding with '" ++ name ++ "' codec failed (UnicodeError: " ++ reason ++ ")"
  | zeroInName => "embedded null character"

/-- The message about a key that cannot be written. -/
def KeyLineFault.message : KeyLineFault → Text
  | openedWith fault => fault.message "codecs.open()"
  | writtenWith fault => fault.message "codecs.encode()"
  | refused reason => reason
  | unencodable e => e.message
  | notText value => "'" ++ value.typeName ++ "' object has no attribute 'encode'"

namespace KeyLine

def keyOf : Value → Except KeyLineFault Text
  | .text key => .ok key
  | value => .error (.notText value)

/-- What a stream of text gets for a key. -/
def toText (encoding? : Option Text) (key : Value) : Except KeyLineFault Text := do
  let key ← keyOf key
  let encoding ← (Encoding.ofStream encoding?).mapError .writtenWith
  return encoding.keyText key

/-- What a stream of bytes holds after a text, if one is written to it, and a key. The text is
written without escapes. A stream can be opened in an encoding that refuses all keys. -/
def toBytes (encoding? before? : Option Text) (key : Value) : Except KeyLineFault (List UInt8) := do
  match Encoding.ofStream encoding? with
  | .error (.refusing name reason alsoPlain) =>
    if alsoPlain ∧ before?.isSome then throw (.refused reason)
    let _ ← keyOf key
    throw (.writtenWith (.refusing name reason alsoPlain))
  | .error fault => throw (.openedWith fault)
  | .ok encoding =>
    let before ← (before?.mapM encoding.encodeStrictly).mapError .unencodable
    let key ← keyOf key
    return before.getD [] ++ encoding.keyLine key

end KeyLine

end NameKeys
