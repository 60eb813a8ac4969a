/-!
# The Go text of a service group

The text that every service has in common: the connection settings and their flags, the group
command, and the two functions that open a connection and make one call over it. Words that
start with a dollar sign stand for what differs between services.
-/

namespace ServiceCli.GoText

/-- The connection settings that the commands of a service share. -/
def configVariable : List String := [
  "var _Default$NAMEClientCommandConfig = _New$NAMEClientCommandConfig()",
  ""]

/-- The type of the connection settings. -/
def configType : List String := [
  "type _$NAMEClientCommandConfig struct \x7b",
  "\tServerAddr         string",
  "\tRequestFile        string",
  "\tStdin              bool",
  "\tPrintSampleRequest bool",
  "\tResponseFormat     string",
  "\tTimeout            time.Duration",
  "\tTLS                bool",
  "\tServerName         string",
  "\tInsecureSkipVerify bool",
  "\tCACertFile         string",
  "\tCertFile           string",
  "\tKeyFile            string",
  "\tAuthToken          string",
  "\tAuthTokenType      string",
  "\tJWTKey             string",
  "\tJWTKeyFile         string",
  "\x7d",
  ""]

/-- The function that makes the settings with their defaults. -/
def configConstructor : List String := [
  "func _New$NAMEClientCommandConfig() *_$NAMEClientCommandConfig \x7b",
  "\tc := &_$NAMEClientCommandConfig\x7b",
  "\t\tServerAddr:     $SERVER_ADDR,",
  "\t\tResponseFormat: $RESPONSE_FORMAT,",
  "\t\tTimeout:        $TIMEOUT_SECS * time.Second,",
  "\t\tAuthTokenType:  $AUTH_TOKEN_TYPE,",
  "\t\x7d",
  "\treturn c",
  "\x7d",
  ""]

/-- The flags that set them. -/
def flagRegistration : List String := [
  "func (o *_$NAMEClientCommandConfig) AddFlags(fs *pflag.FlagSet) \x7b",
  "\tfs.StringVarP(&o.ServerAddr, \"server-addr\", \"s\", o.ServerAddr, \"server address in form of host:port\")",
  "\tfs.StringVarP(&o.RequestFile, \"request-file\", \"f\", o.RequestFile, \"client request file (must be json, yaml, or xml); use \\\"-\\\" for stdin + json\")",
  "\tfs.BoolVar(&o.Stdin, \"stdin\", o.Stdin, \"read client request from STDIN; alternative for '-f -'\")",
  "\tfs.BoolVarP(&o.PrintSampleRequest, \"print-sample-request\", \"p\", o.PrintSampleRequest, \"print sample request file and exit\")",
  "\tfs.StringVarP(&o.ResponseFormat, \"response-format\", \"o\", o.ResponseFormat, \"response format (json, prettyjson, yaml, or xml)\")",
  "\tfs.DurationVar(&o.Timeout, \"timeout\", o.Timeout, \"client connection timeout\")",
  "\tfs.BoolVar(&o.TLS, \"tls\", o.TLS, \"enable tls\")",
  "\tfs.StringVar(&o.ServerName, \"tls-server-name\", o.ServerName, \"tls server name override\")",
  "\tfs.BoolVar(&o.InsecureSkipVerify, \"tls-insecure-skip-verify\", o.InsecureSkipVerify, \"INSECURE: skip tls checks\")",
  "\tfs.StringVar(&o.CACertFile, \"tls-ca-cert-file\", o.CACertFile, \"ca certificate file\")",
  "\tfs.StringVar(&o.CertFile, \"tls-cert-file\", o.CertFile, \"client certificate file\")",
  "\tfs.StringVar(&o.KeyFile, \"tls-key-file\", o.KeyFile, \"client key file\")",
  "\tfs.StringVar(&o.AuthToken, \"auth-token\", o.AuthToken, \"authorization token\")",
  "\tfs.StringVar(&o.AuthTokenType, \"auth-token-type\", o.AuthTokenType, \"authorization token type\")",
  "\tfs.StringVar(&o.JWTKey, \"jwt-key\", o.JWTKey, \"jwt key\")",
  "\tfs.StringVar(&o.JWTKeyFile, \"jwt-key-file\", o.JWTKeyFile, \"jwt key file\")",
  "\x7d",
  ""]

/-- The group command, which holds the subcommands. -/
def groupCommand : List String := [
  "func $NAMEClientCommand() *cobra.Command \x7b",
  "\tcmd := &cobra.Command\x7b",
  "\t\tUse: $USE,",
  "\t\x7d",
  "\t_Default$NAMEClientCommandConfig.AddFlags(cmd.PersistentFlags())",
  "",
  "\tfor _, s := range _$NAMEClientSubCommands \x7b",
  "\t\tcmd.AddCommand(s())",
  "\t\x7d",
  "\treturn cmd",
  "\x7d",
  ""]

/-- The function that opens a connection as the settings say. -/
def dialing : List String := [
  "func _Dial$NAME() (*grpc.ClientConn, $NAMEClient, error) \x7b",
  "\tcfg := _Default$NAMEClientCommandConfig",
  "\topts := []grpc.DialOption\x7b",
  "\t\tgrpc.WithBlock(),",
  "\t\tgrpc.WithTimeout(cfg.Timeout),",
  "\t\x7d",
  "\tif cfg.TLS \x7b",
  "\t\ttlsConfig := &tls.Config\x7b\x7d",
  "\t\tif cfg.InsecureSkipVerify \x7b",
  "\t\t\ttlsConfig.InsecureSkipVerify = true",
  "\t\t\x7d",
  "\t\tif cfg.CACertFile != \"\" \x7b",
  "\t\t\tcacert, err := ioutil.ReadFile(cfg.CACertFile)",
  "\t\t\tif err != nil \x7b",
  "\t\t\t\treturn nil, nil, fmt.Errorf(\"ca cert: %v\", err)",
  "\t\t\t\x7d",
  "\t\t\tcertpool := x509.NewCertPool()",
  "\t\t\tcertpool.AppendCertsFromPEM(cacert)",
  "\t\t\ttlsConfig.RootCAs = certpool",
  "\t\t\x7d",
  "\t\tif cfg.CertFile != \"\" \x7b",
  "\t\t\tif cfg.KeyFile == \"\" \x7b",
  "\t\t\t\treturn nil, nil, fmt.Errorf(\"missing key file\")",
  "\t\t\t\x7d",
  "\t\t\tpair, err := tls.LoadX509KeyPair(cfg.CertFile, cfg.KeyFile)",
  "\t\t\tif err != nil \x7b",
  "\t\t\t\treturn nil, nil, fmt.Errorf(\"cert/key: %v\", err)",
  "\t\t\t\x7d",
  "\t\t\ttlsConfig.Certificates = []tls.Certificate\x7bpair\x7d",
  "\t\t\x7d",
  "\t\tif cfg.ServerName != \"\" \x7b",
  "\t\t\ttlsConfig.ServerName = cfg.ServerName",
  "\t\t\x7d else \x7b",
  "\t\t\taddr, _, _ := net.SplitHostPort(cfg.ServerAddr)",
  "\t\t\ttlsConfig.ServerName = addr",
  "\t\t\x7d",
  "\t\tcred := credentials.NewTLS(tlsConfig)",
  "\t\topts = append(opts, grpc.WithTransportCredentials(cred))",
  "\t\x7d else \x7b",
  "\t\topts = append(opts, grpc.WithInsecure())",
  "\t\x7d",
  "\tif cfg.AuthToken != \"\" \x7b",
  "\t\tcred := oauth.NewOauthAccess(&oauth2.Token\x7b",
  "\t\t\tAccessToken: cfg.AuthToken,",
  "\t\t\tTokenType:   cfg.AuthTokenType,",
  "\t\t\x7d)",
  "\t\topts = append(opts, grpc.WithPerRPCCredentials(cred))",
  "\t\x7d",
  "\tif cfg.JWTKey != \"\" \x7b",
  "\t\tcred, err := oauth.NewJWTAccessFromKey([]byte(cfg.JWTKey))",
  "\t\tif err != nil \x7b",
  "\t\t\treturn nil, nil, fmt.Errorf(\"jwt key: %v\", err)",
  "\t\t\x7d",
  "\t\topts = append(opts, grpc.WithPerRPCCredentials(cred))",
  "\t\x7d",
  "\tif cfg.JWTKeyFile != \"\" \x7b",
  "\t\tcred, err := oauth.NewJWTAccessFromFile(cfg.JWTKeyFile)",
  "\t\tif err != nil \x7b",
  "\t\t\treturn nil, nil, fmt.Errorf(\"jwt key file: %v\", err)",
  "\t\t\x7d",
  "\t\topts = append(opts, grpc.WithPerRPCCredentials(cred))",
  "\t\x7d",
  "\tconn, err := grpc.Dial(cfg.ServerAddr, opts...)",
  "\tif err != nil \x7b",
  "\t\treturn nil, nil, err",
  "\t\x7d",
  "\treturn conn, New$NAMEClient(conn), nil",
  "\x7d",
  ""]

/-- The type of the function that makes one call. -/
def roundTripType : List String := [
  "type _$NAMERoundTripFunc func(cli $NAMEClient, in iocodec.Decoder, out iocodec.Encoder) error",
  ""]

/-- The function that reads the request, opens a connection and makes one call. -/
def roundTrip : List String := [
  "func _$NAMERoundTrip(sample interface\x7b\x7d, fn _$NAMERoundTripFunc) error \x7b",
  "\tcfg := _Default$NAMEClientCommandConfig",
  "\tvar em iocodec.EncoderMaker",
  "\tvar ok bool",
  "\tif cfg.ResponseFormat == \"\" \x7b",
  "\t\tem = iocodec.DefaultEncoders[\"json\"]",
  "\t\x7d else \x7b",
  "\t\tem, ok = iocodec.DefaultEncoders[cfg.ResponseFormat]",
  "\t\tif !ok \x7b",
  "\t\t\treturn fmt.Errorf(\"invalid response format: %q\", cfg.ResponseFormat)",
  "\t\t\x7d",
  "\t\x7d",
  "\tif cfg.PrintSampleRequest \x7b",
  "\t\treturn em.NewEncoder(os.Stdout).Encode(sample)",
  "\t\x7d",
  "\t// read the input request, first from stdin, then from a file, otherwise from args only",
  "\tvar d iocodec.Decoder",
  "\tif cfg.Stdin || cfg.RequestFile == \"-\" \x7b",
  "\t\td = iocodec.DefaultDecoders[\"json\"].NewDecoder(os.Stdin)",
  "\t\x7d else if cfg.RequestFile != \"\" \x7b",
  "\t\tf, err := os.Open(cfg.RequestFile)",
  "\t\tif err != nil \x7b",
  "\t\t\treturn fmt.Errorf(\"request file: %v\", err)",
  "\t\t\x7d",
  "\t\tdefer f.Close()",
  "\t\text := filepath.Ext(cfg.RequestFile)",
  "\t\tif len(ext) > 0 && ext[0] == '.' \x7b",
  "\t\t\text = ext[1:]",
  "\t\t\x7d",
  "\t\tdm, ok := iocodec.DefaultDecoders[ext]",
  "\t\tif !ok \x7b",
  "\t\t\treturn fmt.Errorf(\"invalid request file format: %q\", ext)",
  "\t\t\x7d",
  "\t\td = dm.NewDecoder(f)",
  "\t\x7d else \x7b",
  "\t\td = iocodec.DefaultDecoders[\"noop\"].NewDecoder(os.Stdin)",
  "\t\x7d",
  "\tconn, client, err := _Dial$NAME()",
  "\tif err != nil \x7b",
  "\t\treturn err",
  "\t\x7d",
  "\tdefer conn.Close()",
  "\treturn fn(client, d, em.NewEncoder(os.Stdout))",
  "\x7d"]

/-- All lines of a service group. -/
def groupLines : List String :=
  configVariable ++ configType ++ configConstructor ++ flagRegistration ++
    groupCommand ++ dialing ++ roundTripType ++ roundTrip

/-- The text of a service group before anything is put into it. -/
def groupTemplate : String :=
  String.join (groupLines.map (· ++ "\n"))

end ServiceCli.GoText
