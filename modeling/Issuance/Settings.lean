import Issuance.Certificate.Values
import Issuance.Json.Basic
/-!
Settings of the service: read from an environment, with some of them replaced.
-/

namespace Issuance

structure Settings where
  secretKey : String
  database : String
  maxRequestBytes : Number
  siteRoot : String
  storageRoot : String
  fallbackRoot : Option String
  verifyBase : String
  renderTimeout : Number
  renderWorkers : Number
  fontFolder : Option String
deriving Repr

namespace Settings

abbrev Environment := List (String × String)

/-- The names that are looked up in an environment. -/
def names : List String :=
  ["SECRET_KEY", "DATABASE_URL", "DB_USER", "POSTGRES_PASSWORD", "DB_HOST", "DB_NAME", "SITE_ROOT",
    "CERT_STORAGE_ROOT", "CERT_FALLBACK_ROOT", "CERT_VERIFY_BASE_URL", "CERT_RENDER_TIMEOUT",
    "CERT_RENDER_WORKERS", "CERT_FONT_DIR"]

def textFrom (env : Environment) (name default : String) : String :=
  (Assoc.get? name env).getD default

/-- The address of the database, given whole or by its parts. -/
def databaseFrom (env : Environment) : String :=
  textFrom env "DATABASE_URL"
    ("postgresql+psycopg2://" ++ textFrom env "DB_USER" "certengine" ++ ":"
      ++ textFrom env "POSTGRES_PASSWORD" "postgres" ++ "@" ++ textFrom env "DB_HOST" "db" ++ "/"
      ++ textFrom env "DB_NAME" "certengine")

def inFolder (folder name : String) : String :=
  if folder.isEmpty || folder.endsWith "/" then folder ++ name else folder ++ "/" ++ name

inductive Fault
  | notNumber (text : String)
  | notInteger (text : String)
deriving DecidableEq, Repr

def Fault.message : Fault → String
  | .notNumber text => Double.textMessage text
  | .notInteger text => Text.integerMessage text

def standardMaxRequestBytes : Int := 25 * 1024 * 1024

def ofEnvironment (env : Environment) : Except Fault Settings := do
  let timeout := textFrom env "CERT_RENDER_TIMEOUT" "30"
  let some seconds := Double.ofText? timeout
    | .error (.notNumber timeout)
  let workers := textFrom env "CERT_RENDER_WORKERS" "2"
  let some count := Text.integer? workers
    | .error (.notInteger workers)
  let siteRoot := textFrom env "SITE_ROOT" "/srv"
  return {
    secretKey := textFrom env "SECRET_KEY" "dev"
    database := databaseFrom env
    maxRequestBytes := .int standardMaxRequestBytes
    siteRoot
    storageRoot := textFrom env "CERT_STORAGE_ROOT" (inFolder siteRoot "certificates")
    fallbackRoot := Assoc.get? "CERT_FALLBACK_ROOT" env
    verifyBase :=
      textFrom env "CERT_VERIFY_BASE_URL" "http://localhost:5000/certificates/verify"
    renderTimeout := .double seconds
    renderWorkers := .int count
    fontFolder := some (textFrom env "CERT_FONT_DIR" "/usr/share/fonts/truetype/dejavu") }

/-- One setting replaced. A value that does not fit changes nothing. -/
def override (s : Settings) (name : String) (value : Json) : Settings :=
  match name, value with
  | "SQLALCHEMY_DATABASE_URI", .str t => { s with database := t }
  | "MAX_CONTENT_LENGTH", .number n => { s with maxRequestBytes := n }
  | "SITE_ROOT", .str t => { s with siteRoot := t }
  | "CERT_STORAGE_ROOT", .str t => { s with storageRoot := t }
  | "CERT_FALLBACK_ROOT", v => { s with fallbackRoot := v.asStr? }
  | "CERT_VERIFY_BASE_URL", .str t => { s with verifyBase := t }
  | "CERT_RENDER_TIMEOUT", .number n => { s with renderTimeout := n }
  | "CERT_RENDER_WORKERS", .number n => { s with renderWorkers := n }
  | "CERT_FONT_DIR", v => { s with fontFolder := v.asStr? }
  | "SECRET_KEY", .str t => { s with secretKey := t }
  | _, _ => s

def overrideAll (s : Settings) (replaced : List (String × Json)) : Settings :=
  replaced.foldl (fun s (name, value) => s.override name value) s

def stores (s : Settings) : List (String × String) :=
  match s.fallbackRoot with
  | some root =>
    if root.isEmpty then [("primary", s.storageRoot)]
    else [("primary", s.storageRoot), ("fallback", root)]
  | none => [("primary", s.storageRoot)]

/-- The workers of a batch: at least one. -/
def workers (s : Settings) : Number :=
  match s.renderWorkers with
  | .int n => .int (max 1 n)
  | .double x => if (x.sub (.finite false 1 0)).isPositive then .double x else .int 1

/-- The address under which codes are verified. -/
def verifyAddress (s : Settings) : VerifyAddress := .ofSetting s.verifyBase

def toMembers (s : Settings) : List (String × Json) :=
  [("SQLALCHEMY_DATABASE_URI", .str s.database), ("MAX_CONTENT_LENGTH", .number s.maxRequestBytes),
    ("SITE_ROOT", .str s.siteRoot), ("CERT_STORAGE_ROOT", .str s.storageRoot),
    ("CERT_FALLBACK_ROOT", .optStr s.fallbackRoot), ("CERT_VERIFY_BASE_URL", .str s.verifyBase),
    ("CERT_RENDER_TIMEOUT", .number s.renderTimeout),
    ("CERT_RENDER_WORKERS", .number s.renderWorkers), ("CERT_FONT_DIR", .optStr s.fontFolder)]

def batchMembers (s : Settings) : List (String × Json) :=
  [("timeout", .number s.renderTimeout), ("workers", .number s.workers),
    ("fontDir", .optStr s.fontFolder), ("baseUrl", .str s.verifyAddress.base)]

end Settings
end Issuance
