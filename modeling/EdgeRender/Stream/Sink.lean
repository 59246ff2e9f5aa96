import EdgeRender.Request.Context
import EdgeRender.Stream.Channel
import EdgeRender.Text.Utf8

/-! # Response sinks

The writing end of a response. Chunks go to the channel until the response is finished;
finishing it once yields a receipt, and after that nothing is sent.
-/
namespace EdgeRender.Stream

inductive RenderFault where
  | alreadyFinished
  | stream (message : String)
  deriving DecidableEq, Repr

def RenderFault.message : RenderFault → String
  | .alreadyFinished => "Response already finished"
  | .stream message => "Streaming error: " ++ message

/-- The proof that a response was flushed: how many bytes it had. -/
structure Receipt where
  bytes : Nat
  deriving DecidableEq, Repr

inductive Progress where
  | initial
  | streaming
  | finished
  deriving DecidableEq, Repr

structure ResponseSink where
  channel : Channel := {}
  progress : Progress := .initial
  marks : Marks := {}
  bytesWritten : Nat := 0
  deriving Repr

namespace ResponseSink

def phase (s : ResponseSink) : Phase :=
  match s.progress with
  | .initial => .start
  | .streaming => .streaming
  | .finished => .flushed

/-- Send a chunk. The first byte is marked before it is tried. -/
def sendChunk (s : ResponseSink) (chunk : List UInt8) :
    Except RenderFault Unit × ResponseSink :=
  if s.progress = .finished then (.error .alreadyFinished, s)
  else
    let marks := if s.progress = .initial then s.marks.mark Marks.firstByte else s.marks
    match s.channel.deliver chunk with
    | (.error message, channel) => (.error (.stream message), { s with channel, marks })
    | (.ok (), channel) =>
      (.ok (), { channel, marks, progress := .streaming,
                 bytesWritten := s.bytesWritten + chunk.length })

def sendHtml (s : ResponseSink) (html : String) : Except RenderFault Unit × ResponseSink :=
  s.sendChunk (Text.Utf8.encode html.toList)

/-- Finish the response. If the channel fails to close, it is not finished. -/
def finish (s : ResponseSink) : Except RenderFault Receipt × ResponseSink :=
  if s.progress = .finished then (.error .alreadyFinished, s)
  else
    match s.channel.call .close with
    | (.error message, channel) => (.error (.stream message), { s with channel })
    | (.ok (), channel) =>
      (.ok ⟨s.bytesWritten⟩,
        { s with channel, marks := s.marks.mark Marks.flushed, progress := .finished })

end ResponseSink
end EdgeRender.Stream
