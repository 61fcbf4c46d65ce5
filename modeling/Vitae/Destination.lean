import Vitae.Files

/-!
# Destinations

Where a text can be sent: to the file of a path, whose content it becomes, or to a stream, to which
it is added. A stream of bytes and a value that is no destination take no text.
-/

namespace Vitae

inductive Destination where
  | file (path : Path)
  | stream
  | byteStream
  | value (typeName : String)
  deriving DecidableEq, Repr

/-- What destinations hold: the files, and what the stream has taken. -/
structure Sink where
  files : Files
  stream : String := ""
  deriving Inhabited

def OpenError.renderingFailure (e : OpenError) (path : Path) : Failure :=
  .rendering s!"Could not write output to {path.text}: {e.message path.text}" (some path.text)
    (some e.cause)

def Destination.send (destination : Destination) (text : String) (sink : Sink) :
    Except Failure Sink :=
  match destination with
  | .file path =>
    match sink.files.write path text with
    | .ok files => .ok { sink with files }
    | .error e => .error (e.renderingFailure path)
  | .stream => .ok { sink with stream := sink.stream ++ text }
  | .byteStream =>
    .error (.rendering "Could not write output: a bytes-like object is required, not 'str'" none
      (some .byteDestination))
  | .value typeName =>
    .error (.rendering s!"Unsupported output destination: {typeName}" none none)

end Vitae
