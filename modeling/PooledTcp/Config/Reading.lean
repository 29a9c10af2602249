import PooledTcp.Config.Settings
import PooledTcp.Text.Quoted
import PooledTcp.Toml.Value

/-!
# Settings in a document

A section is a table, whose keys may come in any order and may be unknown, or an array, whose items are
the fields in the order of their declaration. Either way what is missing keeps its default and what is
surplus is passed over. Reading stops at the first value of the wrong shape, in the order of the
document.
-/

namespace PooledTcp.Config

open Toml (Value)

/-- A value has the wrong shape. -/
inductive ReadError where
  /-- `found` stands where `expected` should. -/
  | invalidType (found expected : String)
  /-- `found` is out of the range of `expected`. -/
  | invalidValue (found expected : String)
  | unknownHandler (name : String)
  | wantedStringOrTable
  /-- A table that should have one key has none, or more than one. -/
  | wantedOneKey (tooMany : Bool)
  | expectedEmptyTable
  | expectedTable (found : String)
  deriving DecidableEq, Repr

/-- `name` between grave accents. -/
def accented (name : String) : String := "\x60" ++ name ++ "\x60"

def ReadError.message : ReadError → String
  | invalidType found expected => "invalid type: " ++ found ++ ", expected " ++ expected
  | invalidValue found expected => "invalid value: " ++ found ++ ", expected " ++ expected
  | unknownHandler name =>
    "unknown variant " ++ accented name ++ ", expected one of " ++
      ", ".intercalate (HandlerKind.all.map fun h => accented h.name)
  | wantedStringOrTable => "wanted string or table"
  | wantedOneKey tooMany =>
    "wanted exactly 1 element, " ++ (if tooMany then "more than 1 element" else "found 0 elements")
  | expectedEmptyTable => "expected empty table"
  | expectedTable found => "expected table, found " ++ found

/-- What a value is, for a complaint about its type. -/
def describe : Value → String
  | .string s => "string " ++ Text.quoted s
  | .integer n => "integer " ++ accented (toString n)
  | .float x => "floating point " ++ accented x.text
  | .boolean b => "boolean " ++ accented (toString b)
  | .array _ => "sequence"
  | .moment | .table _ => "map"

/-- The name of a value's type. -/
def typeName : Value → String
  | .string _ => "string"
  | .integer _ => "integer"
  | .float _ => "float"
  | .boolean _ => "boolean"
  | .moment => "datetime"
  | .array _ => "array"
  | .table _ => "table"

def text : Value → Except ReadError String
  | .string s => .ok s
  | v => .error (.invalidType (describe v) "a string")

def boolean : Value → Except ReadError Bool
  | .boolean b => .ok b
  | v => .error (.invalidType (describe v) "a boolean")

/-- A number that is not negative. `kind` names what it is for. -/
def natural (kind : String) : Value → Except ReadError UInt64
  | .integer n =>
    if 0 ≤ n then .ok (UInt64.ofNat n.toNat)
    else .error (.invalidValue (describe (.integer n)) kind)
  | v => .error (.invalidType (describe v) kind)

/-- A time in milliseconds. -/
def milliseconds : Value → Except ReadError UInt64 := natural "u64"

/-- A number of connections. -/
def connections : Value → Except ReadError UInt64 := natural "usize"

/-- The handler with that name. -/
def handlerNamed (name : String) : Except ReadError HandlerKind :=
  match HandlerKind.ofName? name with
  | some h => .ok h
  | none => .error (.unknownHandler name)

/-- The value beside the name of a handler must be a table or an array, and empty. -/
def nothing : Value → Except ReadError Unit
  | .table es => if es.isEmpty then .ok () else .error .expectedEmptyTable
  | .array vs => if vs.isEmpty then .ok () else .error .expectedEmptyTable
  | v => .error (.expectedTable (typeName v))

/-- A handler: its name, or a table with its name as the only key. -/
def handler : Value → Except ReadError HandlerKind
  | .string s => handlerNamed s
  | .table [] => .error (.wantedOneKey false)
  | .table [(name, v)] => do
    let h ← handlerNamed name
    nothing v
    return h
  | .table _ => .error (.wantedOneKey true)
  | _ => .error .wantedStringOrTable

/-- A field of `σ`: its key and how its value changes what was read so far. -/
structure Field (σ : Type) where
  key : String
  read : Value → σ → Except ReadError σ

/-- A field whose values are read by `f` and put in place by `put`. -/
def field {σ α : Type} (key : String) (f : Value → Except ReadError α) (put : α → σ → σ) : Field σ where
  key
  read v s := (f v).map fun x => put x s

/-- Read the entries of a table, in order. -/
def readKeyed {σ : Type} (fields : List (Field σ)) :
    List (String × Value) → σ → Except ReadError σ
  | [], s => .ok s
  | (k, v) :: es, s =>
    match fields.find? (·.key == k) with
    | none => readKeyed fields es s
    | some f => f.read v s >>= readKeyed fields es

/-- Read the items of an array, each as the field at its place. -/
def readPositional {σ : Type} : List (Field σ) → List Value → σ → Except ReadError σ
  | f :: fs, v :: vs, s => f.read v s >>= readPositional fs vs
  | _, _, s => .ok s

/-- Read a section in either form. A date or time is a table without known keys. -/
def readSection {σ : Type} (name : String) (fields : List (Field σ)) (initial : σ) :
    Value → Except ReadError σ
  | .table es => readKeyed fields es initial
  | .array vs => readPositional fields vs initial
  | .moment => .ok initial
  | v => .error (.invalidType (describe v) ("struct " ++ name))

def serverFields : List (Field ServerSettings) :=
  [field "bind_address" text fun x s => { s with bindAddress := x },
   field "read_timeout_ms" milliseconds fun x s => { s with readTimeoutMs := x },
   field "write_timeout_ms" milliseconds fun x s => { s with writeTimeoutMs := x },
   field "keep_alive_timeout_ms" milliseconds fun x s => { s with keepAliveTimeoutMs := x },
   field "shutdown_grace_ms" milliseconds fun x s => { s with shutdownGraceMs := x },
   field "handler" handler fun x s => { s with handler := x }]

def poolFields : List (Field PoolSettings) :=
  [field "init_conn_num" connections fun x s => { s with initConnNum := x },
   field "max_conn_num" connections fun x s => { s with maxConnNum := x },
   field "max_idle_num" connections fun x s => { s with maxIdleNum := x },
   field "idle_timeout_ms" milliseconds fun x s => { s with idleTimeoutMs := x },
   field "connect_timeout_ms" milliseconds fun x s => { s with connectTimeoutMs := x }]

def proxyFields : List (Field ProxySettings) :=
  [field "upstream" text fun x s => { s with backend := some x }]

def observabilityFields : List (Field ObservabilitySettings) :=
  [field "log_level" text fun x s => { s with logLevel := x },
   field "metrics_enabled" boolean fun x s => { s with metricsEnabled := x },
   field "metrics_address" text fun x s => { s with metricsAddress := x }]

/-- The four sections, each of which starts from the defaults. -/
def sections : List (Field Settings) :=
  [field "server" (readSection "ServerSettings" serverFields {}) fun x s => { s with server := x },
   field "pool" (readSection "PoolSettings" poolFields {}) fun x s => { s with pool := x },
   field "proxy" (readSection "ProxySettings" proxyFields {}) fun x s => { s with proxy := x },
   field "observability" (readSection "ObservabilityConfig" observabilityFields {}) fun x s =>
     { s with observability := x }]

/-- The settings in a document. -/
def read (document : Toml.Table) : Except ReadError Settings := readKeyed sections document {}

end PooledTcp.Config
