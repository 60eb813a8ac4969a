import ServiceCli.Proto.File

/-!
# Calls and streams

A method streams on its request side, on its response side, on both or on neither
(`StreamingMode`). The mode fixes the steps that a generated command takes (`dispatch`).
-/

namespace ServiceCli.Command

open Proto

/-- Which sides of a call are streams. -/
inductive StreamingMode where
  | unary | serverStreaming | clientStreaming | bidirectional
  deriving DecidableEq, Repr, Inhabited

/-- One step of a generated command. -/
inductive Step where
  /-- Decode one request from the input. -/
  | decodeRequest
  /-- Lay the request that the flags have filled over the decoded one. -/
  | mergeFlags
  | callUnary
  | openServerStream
  /-- Write each response until the server closes the stream. -/
  | recvUntilEof
  | openClientStream
  /-- Decode, merge and send requests until the input ends. -/
  | sendUntilEof
  | closeAndRecv
  | encodeResponse
  deriving DecidableEq, Repr, Inhabited

/-- The name of a step in printed command outlines. -/
def Step.name : Step → String
  | decodeRequest => "decode-request"
  | mergeFlags => "merge-flags"
  | callUnary => "call-unary"
  | openServerStream => "open-server-stream"
  | recvUntilEof => "recv-until-eof"
  | openClientStream => "open-client-stream"
  | sendUntilEof => "send-until-eof"
  | closeAndRecv => "close-and-recv"
  | encodeResponse => "encode-response"

namespace StreamingMode

/-- The mode of a call with these streaming sides. -/
def ofSides (client server : Bool) : StreamingMode :=
  match client, server with
  | false, false => unary
  | false, true => serverStreaming
  | true, false => clientStreaming
  | true, true => bidirectional

/-- The mode of a method. -/
def ofMethod (m : Method) : StreamingMode :=
  ofSides m.clientStreaming m.serverStreaming

/-- Whether some side is a stream. -/
def isStreaming (m : StreamingMode) : Bool :=
  m != unary

/-- The name of a mode in printed command outlines. -/
def name : StreamingMode → String
  | unary => "unary"
  | serverStreaming => "server-streaming"
  | clientStreaming => "client-streaming"
  | bidirectional => "bidirectional"

/-- The steps of a command in this mode. -/
def dispatch : StreamingMode → List Step
  | unary => [.decodeRequest, .mergeFlags, .callUnary, .encodeResponse]
  | serverStreaming => [.decodeRequest, .mergeFlags, .openServerStream, .recvUntilEof]
  | clientStreaming => [.openClientStream, .sendUntilEof, .closeAndRecv, .encodeResponse]
  | bidirectional => [.openClientStream, .sendUntilEof, .recvUntilEof]

end StreamingMode

end ServiceCli.Command
