import EntityClasses.Failure
import EntityClasses.Json.Decode
import EntityClasses.Text.Unprintable
import EntityClasses.Text.WhiteSpace

/-!
# Connection settings

Where a catalog is found. A connection is opened only if no parameter is blank. When shown, the
password is masked.
-/
namespace EntityClasses

structure Connection where
  host : String
  user : String
  password : String
  database : String
  deriving DecidableEq, Repr

namespace Connection

/-- Reads the parameters through a look-up of variables; a variable that is not set is empty. -/
def ofVariables (lookup : String → Option String) : Connection where
  host := (lookup "DB_HOST").getD ""
  user := (lookup "DB_USER").getD ""
  password := (lookup "DB_PASS").getD ""
  database := (lookup "DB_NAME").getD ""

def parameters (c : Connection) : List (String × String) :=
  [("host", c.host), ("user", c.user), ("password", c.password), ("database", c.database)]

/-- Names of the parameters that hold nothing but white space. -/
def missing (c : Connection) : List String :=
  (c.parameters.filter fun p => (trim p.2.toList).isEmpty).map Prod.fst

def check (c : Connection) : Except Failure Unit :=
  if c.missing.isEmpty then .ok () else .error (.missingConnectionParameters c.missing)

/-- Opens a catalog with a connector, which is not called with incomplete settings. -/
def connect {α : Type} (connector : Connection → Except String α) (c : Connection) :
    Except Failure α := do
  c.check
  (connector c).mapError (.query .connecting c.database)

def hexText (n : Nat) : List Char :=
  Nat.toDigits 16 n

/-- A character as it is shown between double quotes. -/
def shownChar (c : Char) : List Char :=
  match c with
  | '\x00' => ['\\', '0']
  | '\t' => ['\\', 't']
  | '\r' => ['\\', 'r']
  | '\n' => ['\\', 'n']
  | '"' => ['\\', '"']
  | '\\' => ['\\', '\\']
  | c => if isUnprintable c then ['\\', 'u', '{'] ++ hexText c.toNat ++ ['}'] else [c]

def shownText (s : String) : String :=
  .ofList ('"' :: s.toList.flatMap shownChar ++ ['"'])

def shown (c : Connection) : String :=
  "ConnectionSettings \x7b host: " ++ shownText c.host ++ ", user: " ++ shownText c.user ++
    ", password: " ++ shownText "***" ++ ", database: " ++ shownText c.database ++ " \x7d"

def fields : List (Json.RecordField Connection) :=
  [.of false "host" .text fun v c => { c with host := v },
   .of false "user" .text fun v c => { c with user := v },
   .of false "password" .text fun v c => { c with password := v },
   .of false "database" .text fun v c => { c with database := v }]

def parse (text : String) : Except Json.Fault Connection :=
  (Json.Decoder.record fields ⟨"", "", "", ""⟩).run text

end Connection

end EntityClasses
