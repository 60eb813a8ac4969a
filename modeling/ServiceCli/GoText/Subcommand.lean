import ServiceCli.Command.Unit
import ServiceCli.GoText.Request

/-!
# The Go text of a subcommand

The function that makes a subcommand allocates the request, sets up the command with the steps
of its call, and registers the flags.
-/

namespace ServiceCli.GoText

open Command

/-- Lines of text, each with its end. -/
def lines (ls : List String) : String :=
  String.join (ls.map (· ++ "\n"))

/-- The lines that return an error. -/
def errorCheck : List String :=
  ["\t\t\t\tif err != nil \x7b", "\t\t\t\t\treturn err", "\t\t\t\t\x7d"]

/-- The lines that send requests until the input ends. -/
def sendLoop : List String := [
  "\t\t\t\tfor \x7b",
  "\t\t\t\t\terr = in.Decode(&v)",
  "\t\t\t\t\tif err == io.EOF \x7b",
  "\t\t\t\t\t\tstream.CloseSend()",
  "\t\t\t\t\t\tbreak",
  "\t\t\t\t\t\x7d",
  "\t\t\t\t\tif err != nil \x7b",
  "\t\t\t\t\t\treturn err",
  "\t\t\t\t\t\x7d",
  "\t\t\t\t\tproto.Merge(&v, reqArgs)",
  "\t\t\t\t\terr = stream.Send(&v)",
  "\t\t\t\t\tif err != nil \x7b",
  "\t\t\t\t\t\treturn err",
  "\t\t\t\t\t\x7d",
  "\t\t\t\t\x7d"]

/-- The lines that write responses until the server closes the stream. -/
def receiveLoop : List String := [
  "\t\t\t\tfor \x7b",
  "\t\t\t\t\tresp, err := stream.Recv()",
  "\t\t\t\t\tif err == io.EOF \x7b",
  "\t\t\t\t\t\tbreak",
  "\t\t\t\t\t\x7d",
  "\t\t\t\t\tif err != nil \x7b",
  "\t\t\t\t\t\treturn err",
  "\t\t\t\t\t\x7d",
  "\t\t\t\t\terr = out.Encode(resp)",
  "\t\t\t\t\tif err != nil \x7b",
  "\t\t\t\t\t\treturn err",
  "\t\t\t\t\t\x7d",
  "\t\t\t\t\x7d",
  "\t\t\t\treturn nil"]

/-- The lines of a step in the command of a method. -/
def stepLines (method : String) : Step → List String
  | .decodeRequest => "\t\t\t\terr := in.Decode(&v)" :: errorCheck
  | .mergeFlags => ["\t\t\t\tproto.Merge(&v, reqArgs)"]
  | .callUnary =>
    ("\t\t\t\tresp, err := cli." ++ method ++ "(context.Background(), &v)") :: errorCheck
  | .openServerStream =>
    ("\t\t\t\tstream, err := cli." ++ method ++ "(context.Background(), &v)") :: errorCheck
  | .openClientStream =>
    ("\t\t\t\tstream, err := cli." ++ method ++ "(context.Background())") :: errorCheck
  | .sendUntilEof => sendLoop
  | .recvUntilEof => receiveLoop
  | .closeAndRecv => "\t\t\t\tresp, err := stream.CloseAndRecv()" :: errorCheck
  | .encodeResponse => ["\t\t\t\treturn out.Encode(resp)"]

/-- The line that starts the function making the call. -/
def callLine (service : String) : String :=
  "\t\t\terr := _" ++ service ++ "RoundTrip(v, func(cli " ++ service
    ++ "Client, in iocodec.Decoder, out iocodec.Encoder) error \x7b"

/-- The function that makes a subcommand. -/
def subcommandText (s : Subcommand) : String :=
  lines [
      "func " ++ s.constructor ++ "() *cobra.Command \x7b",
      "\treqArgs := " ++ skeletonText 1 s.init,
      "",
      "\tcmd := &cobra.Command\x7b",
      "\t\tUse:  " ++ goString s.useName ++ ",",
      "\t\tLong: " ++ goString s.long ++ ",",
      "\t\tRun: func(cmd *cobra.Command, args []string) \x7b",
      "\t\t\tvar v " ++ s.inputType,
      callLine s.service]
    ++ lines (s.steps.flatMap (stepLines s.method))
    ++ lines [
      "\t\t\t\x7d)",
      "\t\t\tif err != nil \x7b",
      "\t\t\t\tlog.Fatal(err)",
      "\t\t\t\x7d",
      "\t\t\x7d,",
      "\t\x7d"]
    ++ (if s.flags.isEmpty then "" else "\n")
    ++ flagLines s.flags
    ++ lines ["", "\treturn cmd", "\x7d"]

end ServiceCli.GoText
