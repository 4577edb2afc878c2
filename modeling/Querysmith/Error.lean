import Querysmith.Value.Text

/-!
# Errors

Why a call fails. `Error.message` is the text of each cause.
-/

namespace Querysmith

/-- The kinds of error that a caller's own block can raise. -/
inductive RaisedKind where
  | value
  | runtime
  | key
  deriving DecidableEq, Repr

/-- The cause of a failure. -/
inductive Error where
  /-- A caller's block raised it. -/
  | raised (kind : RaisedKind) (arguments : List Value)
  /-- The caller keeps nothing under this name. -/
  | unknownName (name : Value)
  /-- The database driver refused. -/
  | driver (reason : String)
  /-- A call with arguments that do not fit its parameters. -/
  | badCall (detail : String)
  /-- A value of this kind has no such operation. -/
  | noOperation (kind operation : String)
  /-- A group of calls has no call of this name. -/
  | noCall (group name : String)
  | notCallable (kind : String)
  | notIterable (kind : String)
  | notSized (kind : String)
  | notIndexable (kind : String)
  /-- A list or a map cannot be a key. -/
  | notHashable (kind : String)
  /-- A decimal that signals when it is used cannot be a key. -/
  | signalingKey
  /-- Texts are joined, and the one at this position is none. -/
  | notText (position : Nat) (kind : String)
  /-- No integer can be made from a value of this kind. -/
  | notNumeric (kind : String)
  /-- No order between a value of this kind and an integer. -/
  | notOrdered (kind : String)
  /-- A byte string takes only byte strings as arguments. -/
  | notBytes
  /-- Names of environment variables are texts. -/
  | notVariableName (kind : String)
  /-- Paths are texts. -/
  | notPath (v : Value)
  /-- An entry of a map is made from something that has no items. -/
  | notPair (position : Nat)
  /-- An entry of a map is made from this many items. -/
  | pairLength (position length : Nat)
  /-- A condition has fewer parts than an operator and a value. -/
  | tooFewParts (parts : Nat)
  /-- A condition has more parts than an operator and a value. -/
  | tooManyParts
  /-- The text writes no integer. -/
  | badInteger (shown : String)
  /-- The text writes an integer with this many digits, which are too many. -/
  | tooManyDigits (digits : Nat)
  /-- The integer has too many digits to be written. -/
  | integerTooLong
  | infiniteFloat
  | undefinedFloat
  | infiniteDecimal
  | undefinedDecimal
  /-- An undefined decimal has no order. -/
  | decimalOrder
  /-- A frame has this many columns and rows of another width. -/
  | frameWidth (columns width : Nat)
  | noConnectionSource
  | twoConnectionSources
  /-- A value that names no way of reading a result. -/
  | unknownShape (v : Value)
  /-- The server is already configured. -/
  | duplicateServer (server : Value)
  /-- The default file of server profiles does not exist. -/
  | noDefaultProfiles (path : String)
  /-- The named file of server profiles does not exist. -/
  | noProfiles (path : String)
  /-- The file of server profiles breaks the rules of its format. -/
  | malformedProfiles (detail : String)
  /-- A directory stands where a file is to be read. -/
  | directory (path : String)
  /-- The path, or a name in it, is too long to be looked up. -/
  | longPath (path : String)
  /-- The file of server profiles nests values too deeply to be read. -/
  | deepProfiles
  /-- The file of server profiles has no such server. -/
  | unknownServer (server : Value) (path : String) (available : List String)
  | noKeyringUser
  | noKeyFile
  | relativeKeyFile (given : String)
  | missingKeyFile (path : String)
  /-- The name of a connection parameter is no text. -/
  | unnamedParameter
  /-- No home directory is known for the path. -/
  | noHome
  /-- The name of a user has a null character. -/
  | nullInUser
  | unreadableKey (path : String) (cause : Error)
  /-- The key loader refused. -/
  | badKey
  /-- A transaction was given up because of `cause`. -/
  | transactionFailed (server : Value) (cause : Error)
  deriving Inhabited

namespace Error

/-- The text of an error raised with arguments: the argument itself when there is one. -/
def raisedMessage : RaisedKind → List Value → String
  | _, [] => ""
  | .key, [v] => v.shown
  | _, [v] => v.text
  | _, arguments => (Value.tuple arguments).shown

/-- The advice that goes with a missing default file of server profiles. -/
def noDefaultProfilesMessage (path : String) : String :=
  "Configuration file 'servers.toml' not found at: " ++ path ++ "\n\n" ++
  "Create it with one [table] per server, for example:\n" ++
  "  [master]\n" ++
  "  account = \"myaccount\"\n" ++
  "  user = \"me\"\n\n" ++
  "Configuration directory priority:\n" ++
  "  1. SQLFLUENT_CONFIG_DIR environment variable (if set)\n" ++
  "  2. ~/.sqlfluent/ (dotfile directory)\n"

/-- The text of an error. -/
def message : Error → String
  | .raised kind arguments => raisedMessage kind arguments
  | .unknownName name => name.shown
  | .driver reason => reason
  | .badCall detail => detail
  | .noOperation kind operation =>
    "'" ++ kind ++ "' object has no attribute '" ++ operation ++ "'"
  | .noCall group name => "type object '" ++ group ++ "' has no attribute '" ++ name ++ "'"
  | .notCallable kind => "'" ++ kind ++ "' object is not callable"
  | .notIterable kind => "'" ++ kind ++ "' object is not iterable"
  | .notSized kind => "object of type '" ++ kind ++ "' has no len()"
  | .notIndexable kind => "'" ++ kind ++ "' object is not subscriptable"
  | .notHashable kind => "unhashable type: '" ++ kind ++ "'"
  | .signalingKey => "Cannot hash a signaling NaN value"
  | .notText position kind =>
    "sequence item " ++ toString position ++ ": expected str instance, " ++ kind ++ " found"
  | .notNumeric kind =>
    "int() argument must be a string, a bytes-like object or a real number, not '" ++ kind ++ "'"
  | .notOrdered kind =>
    "'>' not supported between instances of '" ++ kind ++ "' and 'int'"
  | .notBytes => "a bytes-like object is required, not 'str'"
  | .notVariableName kind => "str expected, not " ++ kind
  | .notPath (.bytes _) =>
    "argument should be a str object or an os.PathLike object returning str, " ++
      "not <class 'bytes'>"
  | .notPath v => "expected str, bytes or os.PathLike object, not " ++ v.shortKindName
  | .notPair position =>
    "cannot convert dictionary update sequence element #" ++ toString position ++
      " to a sequence"
  | .pairLength position length =>
    "dictionary update sequence element #" ++ toString position ++ " has length " ++
      toString length ++ "; 2 is required"
  | .tooFewParts parts =>
    "not enough values to unpack (expected 2, got " ++ toString parts ++ ")"
  | .tooManyParts => "too many values to unpack (expected 2)"
  | .badInteger shown => "invalid literal for int() with base 10: " ++ shown
  | .tooManyDigits digits =>
    "Exceeds the limit (4300 digits) for integer string conversion: value has " ++
      toString digits ++ " digits; use sys.set_int_max_str_digits() to increase the limit"
  | .integerTooLong =>
    "Exceeds the limit (4300 digits) for integer string conversion; " ++
      "use sys.set_int_max_str_digits() to increase the limit"
  | .infiniteFloat => "cannot convert float infinity to integer"
  | .undefinedFloat => "cannot convert float NaN to integer"
  | .infiniteDecimal => "cannot convert Infinity to integer"
  | .undefinedDecimal => "cannot convert NaN to integer"
  | .decimalOrder => "[<class 'decimal.InvalidOperation'>]"
  | .frameWidth columns width =>
    toString columns ++ " columns passed, passed data had " ++ toString width ++ " columns"
  | .noConnectionSource => "ConnectionContext requires either 'server' or 'connection'"
  | .twoConnectionSources =>
    "ConnectionContext: provide either 'server' or 'connection', not both"
  | .unknownShape v => v.shown ++ " is not a valid QueryReturnType"
  | .duplicateServer server => "Server '" ++ server.text ++ "' is already registered"
  | .noDefaultProfiles path => noDefaultProfilesMessage path
  | .noProfiles path =>
    "Server configuration file not found at " ++ path ++ ". " ++
      "Create a servers.toml file or register the server with Database.configure()."
  | .malformedProfiles detail => detail
  | .directory path => "[Errno 21] Is a directory: " ++ Text.shown path
  | .longPath path => "[Errno 36] File name too long: " ++ Text.shown path
  | .deepProfiles => "maximum recursion depth exceeded"
  | .unknownServer server path available =>
    Text.shown ("Server '" ++ server.text ++ "' not found in " ++ path ++ ". " ++
      "Available servers: " ++ Text.commaJoined available)
  | .noKeyringUser =>
    "Keyring usage requires 'user' in server profile or 'keyring_username' override."
  | .noKeyFile => "Keypair authentication requires 'private_key_file' in server profile"
  | .relativeKeyFile given =>
    "Private key path must be absolute or use ~ for home directory. Got: " ++ given
  | .missingKeyFile path => "Private key file not found: " ++ path
  | .unnamedParameter => "keywords must be strings"
  | .noHome => "Could not determine home directory."
  | .nullInUser => "embedded null byte"
  | .unreadableKey path cause =>
    "Failed to read or decrypt private key from " ++ path ++ ": " ++ cause.message
  | .badKey => "bad key"
  | .transactionFailed server cause =>
    match cause.message with
    | "" => "Transaction on server '" ++ server.text ++ "' failed"
    | text => text

end Error

end Querysmith
