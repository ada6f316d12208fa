import DocStore.Entries
import DocStore.Text.Quoted

namespace DocStore

-- Every kind is a database error; the others say what went wrong.
inductive ErrorKind where
  | database
  | configuration
  | transport
  | invalidValue
  | responseParse
deriving DecidableEq, Repr

namespace ErrorKind

def all : List ErrorKind :=
  [.database, .configuration, .transport, .invalidValue, .responseParse]

def name : ErrorKind → String
  | .database => "DBError"
  | .configuration => "ConfigurationError"
  | .transport => "TransportError"
  | .invalidValue => "InvalidValueError"
  | .responseParse => "ResponseParseError"

def ofName? : String → Option ErrorKind :=
  named? name all

-- Whether every error of the first kind is one of the second.
def isA (kind general : ErrorKind) : Bool :=
  general = .database || kind = general

-- The kinds that an error of this kind is, the most general first.
def bases (kind : ErrorKind) : List ErrorKind :=
  all.filter kind.isA

-- Whether an error of this kind is also a bad argument.
def isBadArgument (kind : ErrorKind) : Bool :=
  kind = .invalidValue

-- No argument makes no text, one is the text, and several are listed.
def argumentsText : List String → String
  | [] => ""
  | [argument] => argument
  | arguments =>
    "(" ++ ", ".intercalate (arguments.map fun (argument : String) => Text.quoted argument) ++ ")"

-- An error about a response takes its text and the response body, each with a default.
def text : ErrorKind → List String → String
  | .responseParse, arguments => arguments.head?.getD "Failed to parse response body"
  | _, arguments => argumentsText arguments

def body (arguments : List String) : String :=
  arguments[1]?.getD ""

end ErrorKind

end DocStore
